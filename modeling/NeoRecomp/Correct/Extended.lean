import NeoRecomp.Correct.Arithmetic
import NeoRecomp.Spec.Extended

/-!
# The emitted ADDX, SUBX and NEGX

Result, carry and the sticky Z are exact for every operand.  The overflow flag of SUBX and NEGX is
taken from the operand with X already added to it, which is wrong where that addition itself leaves
the signed range.
-/

namespace NeoRecomp

open Gen BitArith

/-! ## Flags -/

theorem extendBit_eq (sr : BitVec 16) : extendBit sr = BitVec.ofNat 8 (flagX sr).toNat := by
  have h : srHas sr ngCcrX = flagX sr := srHas_twoPow sr 4
  rw [extendBit, h]
  cases flagX sr <;> rfl

theorem orIf_sticky_eq_put {size : BitVec 8} (result : BitVec (ngSizeBits size)) (v c : Bool)
    (sr : BitVec 16) :
    orIf v ngCcrV (orIf c (ngCcrC ||| ngCcrX) (stickyZeroNegFlags size result sr)) =
      Ccr.put { x := c, n := result.msb, z := flagZ sr && decide (result = 0), v, c } sr := by
  rw [stickyZeroNegFlags, signSet_promote]
  have hz : (if result != 0 then (sr &&& 0xFFE4) &&& ~~~ngCcrZ else sr &&& 0xFFE4) =
      orIf (flagZ sr && decide (result = 0)) ngCcrZ (sr &&& 0xFFE0) := by
    apply BitVec.eq_of_getLsbD_eq
    intro i hi
    by_cases h : result = 0
    · simp only [h, bne_self_eq_false, Bool.false_eq_true, if_false, decide_true, Bool.and_true,
        getLsbD_orIf, BitVec.getLsbD_and, flagZ]
      interval_cases i <;> simp [ngCcrZ]
    · simp only [h, bne_iff_ne, ne_eq, not_false_eq_true, if_true, decide_false, Bool.and_false,
        getLsbD_orIf, BitVec.getLsbD_and, flagZ]
      interval_cases i <;> simp [ngCcrZ]
  rw [hz, orIf_chain_eq_put]

/-! ## One limb -/

/-- The overflow flag the emitted code computes.  SUBX and NEGX add X to the operand first. -/
def emittedOverflow {w : Nat} (mn : NgM68kMnemonic) (dst src : BitVec w) (x : Bool) : Bool :=
  match mn with
  | .addx => extendOverflow .addx dst src x
  | .subx => decide (¬ FitsSigned w (dst.toInt - (src + BitVec.ofNat w x.toNat).toInt))
  | _ => decide (¬ FitsSigned w (0 - (dst + BitVec.ofNat w x.toNat).toInt))

section Statements
variable {β : Type} {size : BitVec 8} (src dst : BitVec (ngSizeBits size)) (x : Bool)

theorem extendResult_addx : extendResult .addx dst src x =
    dst + src + BitVec.ofNat _ x.toNat := by
  simp only [extendResult, extendExact, BitVec.ofInt_add, BitVec.ofInt_natCast, BitVec.ofNat_toNat,
    BitVec.setWidth_eq]

theorem extendResult_subx : extendResult .subx dst src x =
    dst - (src + BitVec.ofNat _ x.toNat) := by
  simp only [extendResult, extendExact, ofInt_sub, BitVec.ofInt_natCast, BitVec.ofNat_toNat,
    BitVec.setWidth_eq, BitVec.sub_sub]

theorem extendExact_negx (d s : Int) : extendExact .negx d s x = extendExact .subx 0 d x := rfl

theorem extendResult_negx : extendResult .negx dst src x = 0 - (dst + BitVec.ofNat _ x.toNat) := by
  rw [← extendResult_subx, extendResult, extendResult, extendExact_negx, BitVec.ofNat_eq_ofNat,
    BitVec.toNat_ofNat, Nat.zero_mod]
  rfl

theorem extendFlags_eq (mn : NgM68kMnemonic) (v : Bool) (sr : BitVec 16) :
    orIf v ngCcrV (orIf (extendCarry mn dst src x) (ngCcrC ||| ngCcrX)
        (stickyZeroNegFlags size (extendResult mn dst src x) sr)) =
      (extendCcr mn dst src x v sr).put sr := by
  rw [orIf_sticky_eq_put, extendCcr, BitVec.msb_eq_toInt]

theorem addxStatements_eq (store : BitVec (ngSizeBits size) → Gen β Unit) :
    addxStatements size src dst (BitVec.ofNat 8 x.toNat) store = (do
      store (extendResult .addx dst src x)
      modifyCpu fun g => g.setSr
        ((extendCcr .addx dst src x (emittedOverflow .addx dst src x) g.sr).put g.sr)) := by
  have hd := toNat_lt_of_size dst
  have hs := toNat_lt_of_size src
  have hx : x.toNat ≤ 1 := Bool.toNat_le x
  have hfull : (dst.setWidth 64 + src.setWidth 64 + (BitVec.ofNat 8 x.toNat).setWidth 64).toNat =
      dst.toNat + src.toNat + x.toNat := by
    simp only [BitVec.toNat_add, BitVec.toNat_setWidth, BitVec.toNat_ofNat]
    omega
  have hres : (dst.setWidth 64 + src.setWidth 64 +
      (BitVec.ofNat 8 x.toNat).setWidth 64).setWidth (ngSizeBits size) =
      extendResult .addx dst src x := by
    apply BitVec.eq_of_toNat_eq
    rw [extendResult_addx, BitVec.toNat_setWidth, hfull]
    simp only [BitVec.toNat_add, BitVec.toNat_ofNat, Nat.add_mod_mod, Nat.mod_add_mod]
  have hcarry : decide (dst.setWidth 64 + src.setWidth 64 + (BitVec.ofNat 8 x.toNat).setWidth 64 >
      (ngValueMask size).setWidth 64) = extendCarry .addx dst src x := by
    have hm := @toNat_ngValueMask size
    have hlt := (ngValueMask size).isLt
    have hpos := Nat.two_pow_pos (ngSizeBits size)
    have hcast : ((2 ^ ngSizeBits size : Nat) : Int) = 2 ^ ngSizeBits size := by push_cast; rfl
    rw [extendCarry, decide_eq_decide, gt_iff_lt, BitVec.lt_def, hfull, BitVec.toNat_setWidth,
      Nat.mod_eq_of_lt (by omega), extendExact, FitsUnsigned, ← hcast]
    omega
  have hover : signSet size (~~~(promote dst ^^^ promote src) &&&
      (promote dst ^^^ promote (extendResult .addx dst src x))) =
      emittedOverflow .addx dst src x := by
    simp only [signSet_and, signSet_not, signSet_xor, signSet_promote, extendResult_addx,
      add_carry_overflow (ngSizeBits_pos size)]
    rfl
  simp only [addxStatements, hres, hcarry, hover, extendFlags_eq]

/-- The sum `src + x` in 64 bits and cut to the operand size. -/
theorem toNat_srcFull : (src.setWidth 64 + (BitVec.ofNat 8 x.toNat).setWidth 64 : BitVec 64).toNat =
    src.toNat + x.toNat := by
  have hs := toNat_lt_of_size src
  have hx : x.toNat ≤ 1 := Bool.toNat_le x
  simp only [BitVec.toNat_add, BitVec.toNat_setWidth, BitVec.toNat_ofNat]
  omega

theorem extendCarry_subx : extendCarry .subx dst src x = decide (dst.toNat < src.toNat + x.toNat) := by
  have hd := dst.isLt
  have hcast : ((2 ^ ngSizeBits size : Nat) : Int) = 2 ^ ngSizeBits size := by push_cast; rfl
  rw [extendCarry, decide_eq_decide, extendExact, FitsUnsigned, ← hcast]
  omega

theorem subxStatements_eq (store : BitVec (ngSizeBits size) → Gen β Unit) :
    subxStatements size src dst (BitVec.ofNat 8 x.toNat) store = (do
      store (extendResult .subx dst src x)
      modifyCpu fun g => g.setSr
        ((extendCcr .subx dst src x (emittedOverflow .subx dst src x) g.sr).put g.sr)) := by
  have hle := ngSizeBits_le size
  have hfull := toNat_srcFull src x
  have hcut : (src.setWidth 64 + (BitVec.ofNat 8 x.toNat).setWidth 64).setWidth (ngSizeBits size) =
      src + BitVec.ofNat _ x.toNat := by
    apply BitVec.eq_of_toNat_eq
    rw [BitVec.toNat_setWidth, hfull]
    simp only [BitVec.toNat_add, BitVec.toNat_ofNat, Nat.add_mod_mod]
  have hsrcV : ((src.setWidth 64 + (BitVec.ofNat 8 x.toNat).setWidth 64) &&&
      (ngValueMask size).setWidth 64).setWidth (ngSizeBits size) =
      src + BitVec.ofNat _ x.toNat := by
    rw [← hcut]
    apply BitVec.eq_of_getLsbD_eq
    intro i hi
    simp only [BitVec.getLsbD_setWidth, BitVec.getLsbD_and, getLsbD_ngValueMask, hi, decide_true,
      Bool.true_and, Bool.and_true, show i < 64 by omega]
  have hres : (dst.setWidth 64 - (src.setWidth 64 +
      (BitVec.ofNat 8 x.toNat).setWidth 64)).setWidth (ngSizeBits size) =
      extendResult .subx dst src x := by
    rw [extendResult_subx, ← hcut, BitVec.sub_eq_add_neg, BitVec.setWidth_add _ _ (by omega),
      BitVec.setWidth_neg_of_le (by omega), setWidth_widen dst (by omega), BitVec.setWidth_eq,
      BitVec.sub_eq_add_neg]
  have hcarry : decide (src.setWidth 64 + (BitVec.ofNat 8 x.toNat).setWidth 64 >
      dst.setWidth 64) = extendCarry .subx dst src x := by
    have hd := toNat_lt_of_size dst
    rw [extendCarry_subx, decide_eq_decide, gt_iff_lt, BitVec.lt_def, hfull,
      BitVec.toNat_setWidth, Nat.mod_eq_of_lt (by omega)]
  have hover : signSet size ((promote dst ^^^ promote (src + BitVec.ofNat _ x.toNat)) &&&
      (promote dst ^^^ promote (extendResult .subx dst src x))) =
      emittedOverflow .subx dst src x := by
    simp only [signSet_and, signSet_xor, signSet_promote, extendResult_subx, sub_overflow]
    rfl
  simp only [subxStatements, hsrcV, hres, hcarry, hover, extendFlags_eq]

theorem negxStatements_eq (value : BitVec (ngSizeBits size))
    (store : BitVec (ngSizeBits size) → Gen β Unit) :
    negxStatements size value store = (do
      let x := flagX (← getCpu).sr
      store (extendResult .negx value 0 x)
      modifyCpu fun g => g.setSr
        ((extendCcr .negx value 0 x (emittedOverflow .negx value 0 x) g.sr).put g.sr)) := by
  have hle := ngSizeBits_le size
  have hx1 : ∀ x : Bool, promote (BitVec.ofNat 8 x.toNat) = BitVec.ofNat 32 x.toNat := by
    intro x
    cases x <;> rfl
  have hcut : ∀ x : Bool, (promote value + BitVec.ofNat 32 x.toNat).setWidth (ngSizeBits size) =
      value + BitVec.ofNat _ x.toNat := by
    intro x
    rw [BitVec.setWidth_add _ _ hle, promote, setWidth_widen value (by omega), BitVec.setWidth_eq,
      BitVec.setWidth_ofNat_of_le hle]
  have hsrc : ∀ x : Bool, ((promote value + BitVec.ofNat 32 x.toNat) &&&
      ngValueMask size).setWidth (ngSizeBits size) = value + BitVec.ofNat _ x.toNat := by
    intro x
    have h := @castSize_and_ngValueMask size (promote value + BitVec.ofNat 32 x.toNat)
    rw [castSize, castSize, hcut] at h
    exact h
  have hres : ∀ x : Bool,
      (0 - promote value - BitVec.ofNat 32 x.toNat).setWidth (ngSizeBits size) =
      extendResult .negx value 0 x := by
    intro x
    rw [extendResult_negx, ← hcut, BitVec.sub_sub, BitVec.ofNat_eq_ofNat, BitVec.zero_sub,
      BitVec.setWidth_neg_of_le hle, BitVec.ofNat_eq_ofNat, BitVec.zero_sub]
  have hcarry : ∀ x : Bool, (value != 0 || BitVec.ofNat 8 x.toNat != 0) =
      extendCarry .negx value 0 x := by
    intro x
    have hsub := @extendCarry_subx size value 0 x
    rw [extendCarry, extendExact_negx]
    rw [extendCarry, BitVec.ofNat_eq_ofNat, BitVec.toNat_ofNat, Nat.zero_mod] at hsub
    rw [Int.natCast_zero] at hsub
    rw [hsub, bne_zero_eq_decide]
    cases x <;> simp
  have hover : ∀ x : Bool, signSet size (promote (value + BitVec.ofNat _ x.toNat) &&&
      promote (extendResult .negx value 0 x)) = emittedOverflow .negx value 0 x := by
    intro x
    simp only [signSet_and, signSet_promote, extendResult_negx, BitVec.ofNat_eq_ofNat,
      BitVec.zero_sub, neg_overflow, emittedOverflow, Int.zero_sub]
  simp only [negxStatements, extendBit_eq, hx1, hsrc, hres, hcarry, hover, extendFlags_eq]

end Statements

/-! ## Instructions -/

section Instructions
variable {β : Type} [GeneratedAbi β] {instr : NgM68kInstr}

theorem emitAddsubx_eq (hm : instr.mnemonic = .addx ∨ instr.mnemonic = .subx)
    (hmodes : (instr.src.mode = .dreg ∧ instr.dst.mode = .dreg) ∨
      (instr.src.mode = .apre ∧ instr.dst.mode = .apre)) :
    emitAddsubx (β := β) instr = .emitted
      (extendReference (emittedOverflow instr.mnemonic) instr.mnemonic
        (pairOperands instr.src instr.dst instr.size)) := by
  unfold emitAddsubx
  dsimp only
  rw [if_neg (by rcases hm with h | h <;> simp [h])]
  rcases hmodes with ⟨hs, hd⟩ | ⟨hs, hd⟩
  · rw [if_pos ⟨hs, hd⟩]
    congr 1
    funext m
    rcases hm with h | h <;>
    · simp only [h, reduceCtorEq, if_true, if_false, extendReference, pairOperands, hd, bind_apply,
        getCpu_apply, pure_apply, extendBit_eq, castSize_and_ngValueMask, addxStatements_eq,
        subxStatements_eq, storeDregMasked_eq, Place.store]
      rfl
  · rw [if_neg (by simp [hs]), if_pos ⟨hs, hd⟩]
    congr 1
    funext m
    rcases hm with h | h <;>
    · simp only [h, reduceCtorEq, if_true, if_false, extendReference, pairOperands, hd, bind_apply,
        getCpu_apply, pure_apply, extendBit_eq, addxStatements_eq, subxStatements_eq, Place.store,
        stepDown, modifyCpu_apply, readSize_apply, aregAddr]

theorem emitUnaryRmwGeneric_negx (hm : instr.mnemonic = .negx)
    (hdst : eaIsDataAlterable instr.dst = true) :
    emitUnaryRmwGeneric (β := β) instr = .emitted
      (extendReference (emittedOverflow .negx) .negx (unaryOperand instr.dst instr.size)) := by
  unfold emitUnaryRmwGeneric
  rw [if_neg (mode_ne_none_of_dataAlterable hdst)]
  simp only [hm, reduceCtorEq, if_true, if_false, negxStatements_eq]
  unfold emitRmw
  by_cases hd : instr.dst.mode = .dreg
  · rw [if_pos hd]
    simp only [emitEaRead, hd]
    congr 1
    funext m
    simp only [bind_apply, pure_apply, getCpu_apply, castSize_dreg, storeDreg, modifyCpu_apply,
      writeDreg_eq, castSize_promote, extendReference, unaryOperand, hd, if_true, Place.store]
  · obtain ⟨ad, had⟩ := emitEaAddress_eq_some (β := β) instr.size
      (by simpa [eaIsDataAlterable, hd] using hdst)
    rw [if_neg hd, had]
    dsimp only
    congr 1
    funext m
    obtain ⟨e, m', hnext, -⟩ := emitEaAddress_next had m
    simp only [extendReference, unaryOperand, hd, if_false, had, Place.store]
    simp only [bind_apply, hnext, getCpu_apply, pure_apply]
    simp only [readSize_apply, writeSize_apply]

/-- Every validated ADDX, SUBX and NEGX: the exact result and carry, the sticky Z, and the overflow
flag of `emittedOverflow`. -/
theorem emitInstr_extend (hv : ngM68kValidate instr = true)
    (hm : isExtended instr.mnemonic = true) :
    emitInstr (β := β) instr = fallsThrough
      (extendReference (emittedOverflow instr.mnemonic) instr.mnemonic (extendOperands instr)) := by
  unfold ngM68kValidate at hv
  unfold emitInstr extendOperands
  rw [Bool.and_eq_true] at hv
  replace hv := hv.2
  cases h : instr.mnemonic <;> simp only [h, isExtended, Bool.false_eq_true] at hm hv ⊢
  case addx =>
    rw [Bool.and_eq_true] at hv
    rw [emitAddsubx_eq (.inl h) (validExtendPair_shape hv.2), h]
    rfl
  case subx =>
    rw [Bool.and_eq_true] at hv
    rw [emitAddsubx_eq (.inr h) (validExtendPair_shape hv.2), h]
    rfl
  case negx =>
    rw [emitUnaryRmwGeneric_negx h (validateUnaryDataAlterable_shape hv)]
    rfl

/-- Fetching the operands always succeeds and leaves the status register alone. -/
theorem extendOperands_next (m : Machine β) :
    ∃ o m', extendOperands instr m = .next o m' ∧ m'.cpu.sr = m.cpu.sr := by
  unfold extendOperands unaryOperand pairOperands
  split_ifs with hn hd hd
  · exact ⟨_, _, rfl, rfl⟩
  · cases had : emitEaAddress (β := β) instr.dst instr.size with
    | none => exact ⟨_, _, rfl, rfl⟩
    | some ad =>
      obtain ⟨e, m', hnext, -, hsr⟩ := emitEaAddress_next had m
      dsimp only
      rw [bind_of_next hnext]
      simp only [bind_apply, getCpu_apply, readSize_apply, pure_apply]
      exact ⟨_, _, rfl, hsr⟩
  · exact ⟨_, _, rfl, rfl⟩
  · simp only [bind_apply, getCpu_apply, stepDown, modifyCpu_apply, readSize_apply, pure_apply]
    exact ⟨_, _, rfl, rfl⟩

theorem Place.store_next (p : Place) (size : BitVec 8) (v : BitVec (ngSizeBits size))
    (m : Machine β) : ∃ m', p.store size v m = .next () m' ∧ m'.cpu.sr = m.cpu.sr := by
  cases p with
  | dreg r => exact ⟨_, rfl, rfl⟩
  | mem addr => exact ⟨_, writeSize_apply size addr v m, rfl⟩

end Instructions

/-! ## Overflow -/

section Overflow
variable {β : Type} [GeneratedAbi β]

/-- After the instruction V is set exactly when the exact signed value is out of range. -/
def OverflowCorrect (instr : NgM68kInstr) (m : Machine β) : Prop :=
  ∃ o m₁ m₂, extendOperands instr m = .next o m₁ ∧ (emitInstr instr).text m = .next () m₂ ∧
    flagV m₂.cpu.sr = extendOverflow instr.mnemonic o.dst o.src (flagX m.cpu.sr)

/-- The operand that is subtracted: the source of SUBX, the operand of NEGX. -/
def subtrahend {w : Nat} (mn : NgM68kMnemonic) (o : ExtendOperands w) : BitVec w :=
  if mn = .negx then o.dst else o.src

/-- The text stores the result and then replaces the condition codes. -/
theorem extend_text_store {instr : NgM68kInstr} (hv : ngM68kValidate instr = true)
    (hm : isExtended instr.mnemonic = true) {m m₁ m₂ : Machine β}
    {o : ExtendOperands (ngSizeBits instr.size)} (ho : extendOperands instr m = .next o m₁)
    (hst : o.place.store instr.size
      (extendResult instr.mnemonic o.dst o.src (flagX m.cpu.sr)) m₁ = .next () m₂) :
    (emitInstr instr).text m = .next ()
      { m₂ with
        cpu := m₂.cpu.setSr ((extendCcr instr.mnemonic o.dst o.src (flagX m.cpu.sr)
          (emittedOverflow instr.mnemonic o.dst o.src (flagX m.cpu.sr)) m.cpu.sr).put m.cpu.sr) } := by
  obtain ⟨o', m₁', ho', hsr⟩ := @extendOperands_next _ _ instr m
  rw [ho] at ho'
  cases ho'
  obtain ⟨m₃, hst', hsr₃⟩ := o.place.store_next instr.size
    (extendResult instr.mnemonic o.dst o.src (flagX m.cpu.sr)) m₁
  rw [hst] at hst'
  cases hst'
  rw [emitInstr_extend hv hm]
  simp only [fallsThrough, extendReference, bind_of_next ho]
  simp only [bind_apply, getCpu_apply, hsr, hst, modifyCpu_apply]
  rw [hsr₃, hsr]

theorem extend_text_next {instr : NgM68kInstr} (hv : ngM68kValidate instr = true)
    (hm : isExtended instr.mnemonic = true) {m m₁ : Machine β}
    {o : ExtendOperands (ngSizeBits instr.size)} (ho : extendOperands instr m = .next o m₁) :
    ∃ m₂, (emitInstr instr).text m = .next () m₂ ∧ m₂.cpu.sr =
      (extendCcr instr.mnemonic o.dst o.src (flagX m.cpu.sr)
        (emittedOverflow instr.mnemonic o.dst o.src (flagX m.cpu.sr)) m.cpu.sr).put m.cpu.sr := by
  obtain ⟨m₃, hst, -⟩ := o.place.store_next instr.size
    (extendResult instr.mnemonic o.dst o.src (flagX m.cpu.sr)) m₁
  exact ⟨_, extend_text_store hv hm ho hst, rfl⟩

theorem overflowCorrect_iff_emitted {instr : NgM68kInstr} (hv : ngM68kValidate instr = true)
    (hm : isExtended instr.mnemonic = true) {m m₁ : Machine β}
    {o : ExtendOperands (ngSizeBits instr.size)} (ho : extendOperands instr m = .next o m₁) :
    OverflowCorrect instr m ↔ emittedOverflow instr.mnemonic o.dst o.src (flagX m.cpu.sr) =
      extendOverflow instr.mnemonic o.dst o.src (flagX m.cpu.sr) := by
  obtain ⟨m₂, htext, hsr⟩ := extend_text_next hv hm ho
  constructor
  · rintro ⟨o', m₁', m₂', ho', htext', hV⟩
    rw [ho] at ho'
    cases ho'
    rw [htext] at htext'
    cases htext'
    rw [hsr, flagV_put] at hV
    exact hV
  · intro h
    refine ⟨o, m₁, m₂, ho, htext, ?_⟩
    rw [hsr, flagV_put]
    exact h

/-- The subtraction of an operand with X already added is right except where that addition wraps
around the signed range. -/
theorem sub_carry_fits_iff {w : Nat} (hw : 0 < w) (d : Int) (hd : FitsSigned w d) (y : BitVec w)
    (x : Bool) :
    (FitsSigned w (d - (y + BitVec.ofNat w x.toNat).toInt) ↔
        FitsSigned w (d - y.toInt - x.toNat)) ↔
      x = false ∨ y.toInt ≠ 2 ^ (w - 1) - 1 := by
  have hy := toInt_fits hw y
  have hp := two_pow_pred hw
  rw [toInt_add_carry hw]
  unfold FitsSigned at *
  cases x
  · simp
  · simp only [true_and, Bool.true_eq_false, false_or, Bool.toNat_true]
    split_ifs with h
    · simp only [h, ne_eq, not_true_eq_false, iff_false]
      omega
    · simp only [ne_eq, h, not_false_eq_true, iff_true]
      omega

theorem emittedOverflow_eq_iff {w : Nat} (hw : 0 < w) {mn : NgM68kMnemonic}
    (hm : isExtended mn = true) (o : ExtendOperands w) (x : Bool) :
    emittedOverflow mn o.dst o.src x = extendOverflow mn o.dst o.src x ↔
      mn = .addx ∨ x = false ∨ (subtrahend mn o).toInt ≠ 2 ^ (w - 1) - 1 := by
  have hzero : FitsSigned w 0 := by
    have := two_pow_pred hw
    have hpos : (0 : Int) < 2 ^ (w - 1) := Int.pow_pos (by decide)
    exact ⟨by omega, hpos⟩
  cases mn <;> simp only [isExtended, Bool.false_eq_true] at hm
  case addx => simp [emittedOverflow]
  case subx =>
    have h := sub_carry_fits_iff hw o.dst.toInt (toInt_fits hw o.dst) o.src x
    rw [emittedOverflow, extendOverflow, decide_eq_decide, not_iff_not]
    simpa only [extendExact, reduceCtorEq, false_or, subtrahend, if_false] using h
  case negx =>
    have h := sub_carry_fits_iff hw 0 hzero o.dst x
    change decide (¬ FitsSigned w _) = _ ↔ _
    rw [extendOverflow, decide_eq_decide, not_iff_not]
    simpa only [extendExact, reduceCtorEq, false_or, subtrahend, if_true] using h

/-- The emitted V flag of ADDX is always exact.  That of SUBX and NEGX is exact if and only if X is
clear or the subtracted operand is not the largest signed value. -/
theorem extended_overflow_iff (instr : NgM68kInstr) (hv : ngM68kValidate instr = true)
    (hm : isExtended instr.mnemonic = true) (m m₁ : Machine β)
    (o : ExtendOperands (ngSizeBits instr.size)) (ho : extendOperands instr m = .next o m₁) :
    OverflowCorrect instr m ↔ instr.mnemonic = .addx ∨ flagX m.cpu.sr = false ∨
      (subtrahend instr.mnemonic o).toInt ≠ 2 ^ (ngSizeBits instr.size - 1) - 1 :=
  (overflowCorrect_iff_emitted hv hm ho).trans
    (emittedOverflow_eq_iff (ngSizeBits_pos instr.size) hm o (flagX m.cpu.sr))

/-- `SUBX.B D1,D0`. -/
def subxByteInstr : NgM68kInstr :=
  { addr := 0x1000, opcode := 0x9101, mnemonic := .subx, byteLength := 2, reg := 0, srcReg := 1,
    size := 1, form := .dregToDreg, src := { mode := .dreg, reg := 1 }, dst := { mode := .dreg } }

/-- D0 is 0, D1 is `d1`, X is set. -/
def subxByteMachine (d1 : BitVec 32) : Machine Ram where
  cpu := { d := fun r => if r = 1 then d1 else 0, a := fun _ => 0, pc := 0x1000, sr := 0x2010,
           usp := 0, ssp := 0 }
  bus := ⟨fun _ => 0⟩
  traceSr := 0
  log := []

theorem subxByte_overflow_of_small : OverflowCorrect subxByteInstr (subxByteMachine 1) :=
  (extended_overflow_iff subxByteInstr (by decide +kernel) (by decide) (subxByteMachine 1)
    (subxByteMachine 1) ⟨0, 1, .dreg 0⟩ rfl).mpr (.inr (.inr (by decide)))

/-- `0 - 127 - 1` is `-128`, which fits in a byte, but V is set. -/
theorem subxByte_overflow_wrong : ¬ OverflowCorrect subxByteInstr (subxByteMachine 0x7F) := by
  have ho : extendOperands subxByteInstr (subxByteMachine 0x7F) =
      .next ⟨0, 0x7F, .dreg 0⟩ (subxByteMachine 0x7F) := rfl
  rw [overflowCorrect_iff_emitted (by decide +kernel) (by decide) ho]
  decide +kernel

end Overflow

end NeoRecomp
