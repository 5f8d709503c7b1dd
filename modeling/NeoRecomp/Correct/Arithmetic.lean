import NeoRecomp.Emit.Access
import NeoRecomp.Emit.Flags
import NeoRecomp.Spec.Ram
import NeoRecomp.Validate.Shapes

/-!
# The emitted arithmetic is the 68000 arithmetic

Every adding, subtracting and comparing instruction that passes validation runs as its reference in
`Spec.Arithmetic`: same operand accesses, the exact result modulo `2^w`, and flags decided by whether
the exact value fits.
-/

namespace NeoRecomp

open Gen BitArith

/-! ## Results -/

theorem arithResult_add {w : Nat} (dst src : BitVec w) : arithResult .add dst src = dst + src := by
  rw [arithResult, ArithKind.exact, BitVec.ofInt_add, BitVec.ofInt_natCast, BitVec.ofInt_natCast,
    BitVec.ofNat_toNat, BitVec.ofNat_toNat, BitVec.setWidth_eq, BitVec.setWidth_eq]

theorem arithResult_sub {w : Nat} (dst src : BitVec w) : arithResult .sub dst src = dst - src := by
  rw [arithResult, ArithKind.exact, ofInt_sub, BitVec.ofInt_natCast, BitVec.ofInt_natCast,
    BitVec.ofNat_toNat, BitVec.ofNat_toNat, BitVec.setWidth_eq, BitVec.setWidth_eq]

section Flags
variable {size : BitVec 8} (src dst : BitVec (ngSizeBits size))

theorem toNat_lt_of_size (v : BitVec (ngSizeBits size)) : v.toNat < 2 ^ 32 :=
  lt_of_lt_of_le v.isLt (Nat.pow_le_pow_right (by decide) (ngSizeBits_le size))

theorem toNat_addFull : (addFull dst src).toNat = dst.toNat + src.toNat := by
  have hd := toNat_lt_of_size dst
  have hs := toNat_lt_of_size src
  simp only [addFull, BitVec.toNat_add, BitVec.toNat_setWidth]
  omega

theorem addFull_setWidth : (addFull dst src).setWidth (ngSizeBits size) = dst + src := by
  apply BitVec.eq_of_toNat_eq
  rw [BitVec.toNat_setWidth, toNat_addFull, BitVec.toNat_add]

theorem subResult_eq : subResult dst src = dst - src := by
  have hle := ngSizeBits_le size
  rw [subResult, BitVec.sub_eq_add_neg, BitVec.setWidth_add _ _ hle, BitVec.setWidth_neg_of_le hle]
  simp only [promote, BitVec.setWidth_setWidth_of_le _ hle, BitVec.setWidth_eq,
    BitVec.sub_eq_add_neg]

theorem toNat_ngValueMask : (ngValueMask size).toNat = 2 ^ ngSizeBits size - 1 := by
  unfold ngValueMask ngSizeBits
  split_ifs <;> rfl

theorem addFlags_eq (sr : BitVec 16) :
    addFlags size src dst (dst + src) (addFull dst src) sr = (arithCcr .add dst src).put sr := by
  have hcarry : decide (addFull dst src > (ngValueMask size).setWidth 64) =
      decide (¬ FitsUnsigned (ngSizeBits size) (dst.toNat + src.toNat)) := by
    have hm := @toNat_ngValueMask size
    have hlt := (ngValueMask size).isLt
    have hpos := Nat.two_pow_pos (ngSizeBits size)
    have hcast : ((2 ^ ngSizeBits size : Nat) : Int) = 2 ^ ngSizeBits size := by push_cast; rfl
    rw [decide_eq_decide, gt_iff_lt, BitVec.lt_def, toNat_addFull, BitVec.toNat_setWidth,
      Nat.mod_eq_of_lt (by omega), FitsUnsigned, ← hcast]
    omega
  have hover := add_overflow (ngSizeBits_pos size) dst src
  rw [addFlags, zeroNegFlags, orIf_chain_eq_put, hcarry, arithCcr, arithResult_add]
  simp only [ArithKind.exact, signSet_promote, signSet_and, signSet_not, signSet_xor, hover]
  rw [← BitVec.msb_eq_toInt]
  rfl

theorem borrow_eq : decide (src > dst) =
    decide (¬ FitsUnsigned (ngSizeBits size) (dst.toNat - src.toNat)) := by
  have hd := dst.isLt
  have hcast : ((2 ^ ngSizeBits size : Nat) : Int) = 2 ^ ngSizeBits size := by push_cast; rfl
  rw [decide_eq_decide, gt_iff_lt, BitVec.lt_def, FitsUnsigned, ← hcast]
  omega

theorem subFlags_eq (sr : BitVec 16) :
    subFlags size src dst (dst - src) sr = (arithCcr .sub dst src).put sr := by
  have hover := sub_overflow dst src
  rw [subFlags, subtractFlags, zeroNegFlags, orIf_chain_eq_put, borrow_eq, arithCcr,
    arithResult_sub]
  simp only [ArithKind.exact, signSet_promote, signSet_and, signSet_xor, hover]
  rw [← BitVec.msb_eq_toInt]
  rfl

theorem cmpFlags_eq (sr : BitVec 16) :
    cmpFlags size src dst (dst - src) sr = (compareCcr dst src sr).put sr := by
  have hover := sub_overflow dst src
  rw [cmpFlags, subtractFlags, zeroNegFlags, orIf_chain_eq_put_compare, borrow_eq, compareCcr,
    arithCcr, arithResult_sub]
  simp only [ArithKind.exact, signSet_promote, signSet_and, signSet_xor, hover]
  rw [← BitVec.msb_eq_toInt]
  rfl

/-- NEG tests its operand against the sign constant, which is the one value that overflows. -/
theorem promote_eq_sign_iff (value : BitVec (ngSizeBits size)) :
    (promote value == (ngSignMask size &&& ngValueMask size)) =
      decide (¬ FitsSigned (ngSizeBits size) (-value.toInt)) := by
  have hpos := ngSizeBits_pos size
  have hmin : ngSignMask size &&& ngValueMask size = promote (BitVec.intMin (ngSizeBits size)) := by
    have hlt : 2 ^ (ngSizeBits size - 1) < 2 ^ 32 :=
      Nat.pow_lt_pow_right (by decide) (by have := ngSizeBits_le size; omega)
    rw [and_ngValueMask, ngSignMask_eq]
    congr 1
    apply BitVec.eq_of_toNat_eq
    rw [castSize, BitVec.toNat_setWidth, BitVec.toNat_twoPow, Nat.mod_eq_of_lt hlt,
      BitVec.toNat_intMin]
  have hover : decide (¬ FitsSigned (ngSizeBits size) (-value.toInt)) = value.negOverflow := by
    obtain ⟨hlo, hhi⟩ := toInt_fits hpos value
    rw [BitVec.negOverflow, beq_eq_decide, decide_eq_decide, FitsSigned]
    omega
  have hinj : promote value = promote (BitVec.intMin (ngSizeBits size)) ↔
      value = BitVec.intMin (ngSizeBits size) := by
    constructor
    · intro h
      rw [← castSize_promote value, h, castSize_promote]
    · intro h
      rw [h]
  rw [hover, BitVec.negOverflow_eq, hmin, decide_eq_true hpos, Bool.true_and, beq_eq_decide,
    beq_eq_decide, decide_eq_decide]
  exact hinj

theorem negFlags_eq (value : BitVec (ngSizeBits size)) (sr : BitVec 16) :
    orIf (promote value == (ngSignMask size &&& ngValueMask size)) ngCcrV
        (orIf (value != 0) (ngCcrC ||| ngCcrX) (zeroNegFlags size 0xFFE0 (0 - value) sr)) =
      (arithCcr .sub 0 value).put sr := by
  have hcarry : (value != 0) = decide (value > 0) := by
    rw [bne, beq_eq_decide, ← decide_not, decide_eq_decide, gt_iff_lt, BitVec.lt_def,
      ← BitVec.toNat_inj]
    simp only [BitVec.ofNat_eq_ofNat, BitVec.toNat_ofNat, Nat.zero_mod]
    omega
  rw [zeroNegFlags, orIf_chain_eq_put, promote_eq_sign_iff, hcarry, borrow_eq, arithCcr,
    arithResult_sub]
  simp only [ArithKind.exact, signSet_promote, BitVec.msb_eq_toInt, BitVec.ofNat_eq_ofNat,
    BitVec.toInt_zero, Int.zero_sub, beq_eq_decide]
  rfl

end Flags

/-! ## Statement lists -/

section Statements
variable {β : Type} {size : BitVec 8}

/-- The kind of an adding or subtracting instruction. -/
def kindOf (isAdd : Bool) : ArithKind := if isAdd then .add else .sub

theorem addOrSubStatements_eq (isAdd : Bool) (src dst : BitVec (ngSizeBits size))
    (store : BitVec (ngSizeBits size) → Gen β Unit) :
    addOrSubStatements isAdd size src dst store = (do
      store (arithResult (kindOf isAdd) dst src)
      modifyCpu fun g => g.setSr ((arithCcr (kindOf isAdd) dst src).put g.sr)) := by
  cases isAdd
  · simp only [addOrSubStatements, subStatements, kindOf, Bool.false_eq_true, if_false,
      subResult_eq, subFlags_eq, arithResult_sub]
  · simp only [addOrSubStatements, addStatements, kindOf, if_true, addFull_setWidth, addFlags_eq,
      arithResult_add]

theorem cmpStatements_eq (src dst : BitVec (ngSizeBits size)) :
    (cmpStatements size src dst : Gen β Unit) = compare dst src := by
  simp only [cmpStatements, compare, subResult_eq, cmpFlags_eq]

theorem negStatements_eq (value : BitVec (ngSizeBits size))
    (store : BitVec (ngSizeBits size) → Gen β Unit) :
    negStatements size value store = (do
      store (arithResult .sub 0 value)
      modifyCpu fun g => g.setSr ((arithCcr .sub 0 value).put g.sr)) := by
  have hres : (0 - promote value).setWidth (ngSizeBits size) = 0 - value := by
    have h := subResult_eq value (0 : BitVec (ngSizeBits size))
    simpa only [subResult, promote, BitVec.ofNat_eq_ofNat, BitVec.setWidth_zero] using h
  simp only [negStatements, hres, negFlags_eq, arithResult_sub]

end Statements

/-! ## Operands -/

section Operands
variable {β : Type} [GeneratedAbi β]

theorem emitEaRead_eq_some {ea : NgM68kEa} (size : BitVec 8) (h : ea.mode ≠ .none) :
    ∃ rd, (emitEaRead ea size : Option (Gen β CExpr)) = some rd := by
  unfold emitEaRead
  cases hm : ea.mode <;> simp_all

theorem emitEaRead_dreg {ea : NgM68kEa} {size : BitVec 8} (h : ea.mode = .dreg) :
    (emitEaRead ea size : Option (Gen β CExpr)) = some (pure fun g =>
      if size = 4 then g.d (regIndex ea.reg)
      else g.d (regIndex ea.reg) &&& ngValueMask size) := by
  rw [emitEaRead, h]

omit [GeneratedAbi β] in
theorem emitEaAddress_eq_some {ea : NgM68kEa} (size : BitVec 8)
    (h : eaIsMemoryAlterable ea = true) :
    ∃ ad, (emitEaAddress ea size : Option (Gen β CExpr)) = some ad := by
  unfold eaIsMemoryAlterable at h
  unfold emitEaAddress
  cases hm : ea.mode <;> simp_all

/-- What the expression of a source operand depends on when it is evaluated. -/
inductive SourceExpr (ea : NgM68kEa) (size : BitVec 8) (e : CExpr) : Prop
  | dreg (hm : ea.mode = .dreg)
      (he : ∀ g, castSize size (e g) = castSize size (g.d (regIndex ea.reg)))
  | areg (hm : ea.mode = .areg) (he : ∀ g, e g = g.a (regIndex ea.reg))
  | value (hm : ea.mode ≠ .areg) (he : ∀ g g', e g = e g')

/-- The printed read takes the source operand: it leaves the machine of the reference, where the
expression stands for the operand's value. -/
theorem moveSource_emitted {ea : NgM68kEa} {size : BitVec 8} {rd : Gen β CExpr}
    (h : emitEaRead ea size = some rd) (m : Machine β) :
    ∃ e m', rd m = .next e m' ∧ moveSource ea size m = .next (castSize size (e m'.cpu)) m' ∧
      SourceExpr ea size e ∧ (ea.mode = .areg → m' = m) := by
  unfold emitEaRead at h
  cases hm : ea.mode <;> rw [hm] at h <;> cases h
  · -- Dn
    refine ⟨_, m, rfl, ?_, .dreg hm fun g => castSize_dreg _, fun ha => absurd ha (by simp)⟩
    rw [castSize_dreg]
    unfold moveSource
    rw [hm]
    rfl
  · -- An
    refine ⟨_, m, rfl, ?_, .areg hm fun g => rfl, fun _ => rfl⟩
    unfold moveSource
    rw [hm]
    rfl
  case imm =>
    refine ⟨_, m, rfl, ?_, .value (by simp [hm]) fun _ _ => rfl, fun ha => absurd ha (by simp)⟩
    rw [castSize_and_ngValueMask]
    unfold moveSource
    rw [hm]
    rfl
  -- A memory operand, read into a temporary.
  all_goals
    simp only [readThrough, stepUp, stepDown, bind_apply, getCpu_apply, readSize_apply, pure_apply,
      modifyCpu_apply, moveSource, accessMemory, operandAddr, hm, reduceCtorEq, if_false, if_true,
      Outcome.next.injEq]
    refine ⟨_, _, ⟨rfl, rfl⟩, ⟨(castSize_var _ _).symm, rfl⟩,
      .value (by simp [hm]) fun _ _ => rfl, fun ha => absurd ha (by simp)⟩

/-- The printed read is the read of the reference, wherever its expression is used at once. -/
theorem moveSource_eq {ea : NgM68kEa} {size : BitVec 8} {rd : Gen β CExpr}
    (h : emitEaRead ea size = some rd) :
    moveSource ea size = (do
      let e ← rd
      let g ← getCpu
      pure (castSize size (e g))) := by
  funext m
  obtain ⟨e, m', hrd, hsrc, -, -⟩ := moveSource_emitted h m
  rw [hsrc, bind_of_next hrd]
  rfl

/-- A read-modify-write of memory goes through the printed address. -/
theorem alterOperand_memory {ea : NgM68kEa} {size : BitVec 8} {ad : Gen β CExpr}
    (h : emitEaAddress ea size = some ad)
    (f : BitVec (ngSizeBits size) → BitVec (ngSizeBits size) × (BitVec 16 → Ccr)) :
    alterOperand ea size f = (do
      let addr := (← ad) (← getCpu)
      let out := f (← readSize size addr)
      writeSize size addr out.1
      modifyCpu fun g => g.setSr ((out.2 g.sr).put g.sr)) := by
  unfold emitEaAddress at h
  unfold alterOperand
  cases hm : ea.mode <;> rw [hm] at h <;> cases h
  -- A stepped register is stepped before the access here and after it there.
  all_goals
    funext m
    simp only [accessMemory, operandAddr, hm, aregAddr, aregDispAddr, aregIndexAddr, stepUp,
      stepDown, bind_apply, pure_apply, getCpu_apply, modifyCpu_apply, readSize_apply,
      writeSize_apply, CExpr.var, BitVec.setWidth_eq, reduceCtorEq, if_false, if_true]

/-- A read-modify-write instruction whose statements store a result and set condition codes. -/
theorem emitRmw_eq {ea : NgM68kEa} {size : BitVec 8}
    {body : BitVec (ngSizeBits size) → (BitVec (ngSizeBits size) → Gen β Unit) → Gen β Unit}
    {f : BitVec (ngSizeBits size) → BitVec (ngSizeBits size) × (BitVec 16 → Ccr)}
    (hea : eaIsDataAlterable ea = true)
    (hbody : ∀ dst store, body dst store = (do
      store (f dst).1
      modifyCpu fun g => g.setSr (((f dst).2 g.sr).put g.sr))) :
    emitRmw ea size body = .emitted (alterOperand ea size f) := by
  unfold emitRmw
  by_cases hd : ea.mode = .dreg
  · rw [if_pos hd, emitEaRead_dreg hd]
    dsimp only
    congr 1
    funext m
    simp only [alterOperand, hd, if_true, hbody, pure_apply, bind_apply, getCpu_apply, storeDreg,
      modifyCpu_apply, writeDreg_eq, castSize_promote, castSize_dreg]
    rfl
  · obtain ⟨ad, had⟩ := emitEaAddress_eq_some (β := β) size
      (by simpa [eaIsDataAlterable, hd] using hea)
    rw [if_neg hd, had, alterOperand_memory had]
    dsimp only
    congr 1
    funext m
    simp only [bind_apply, hbody]
    cases ad m with
    | next e m' => simp only [getCpu_apply, readSize_apply, writeSize_apply]
    | exit x m' => rfl

theorem emitRmw_addOrSub {ea : NgM68kEa} {size : BitVec 8} (hea : eaIsDataAlterable ea = true)
    (isAdd : Bool) (src : BitVec (ngSizeBits size)) :
    (emitRmw ea size fun dst store => addOrSubStatements isAdd size src dst store) =
      Emission.emitted (combine (β := β) (kindOf isAdd) ea size src) :=
  emitRmw_eq hea fun dst store => addOrSubStatements_eq isAdd src dst store

theorem emitQuickGeneric_eq {instr : NgM68kInstr}
    (hdst : instr.dst.mode = .areg ∨ eaIsDataAlterable instr.dst = true) :
    emitQuickGeneric instr =
      Emission.emitted (quickReference (β := β) (kindOf (instr.mnemonic = .addq)) instr) := by
  unfold emitQuickGeneric quickReference
  have hnone : instr.dst.mode ≠ .none := by
    rcases hdst with h | h
    · rw [h]; decide
    · exact mode_ne_none_of_dataAlterable h
  rw [if_neg hnone]
  by_cases ha : instr.dst.mode = .areg
  · simp only [if_pos ha]
    split_ifs with hm
    · simp only [combineAddress, kindOf, hm, decide_true, if_true, ArithKind.exact,
        BitVec.ofInt_add, BitVec.ofInt_natCast, BitVec.ofNat_toNat, BitVec.setWidth_eq]
    · simp only [combineAddress, kindOf, hm, decide_false, Bool.false_eq_true, if_false,
        ArithKind.exact, ofInt_sub, BitVec.ofInt_natCast, BitVec.ofNat_toNat, BitVec.setWidth_eq]
  · simp only [if_neg ha]
    exact emitRmw_addOrSub (hdst.resolve_left ha) _ _

theorem emitArithImmGeneric_eq {instr : NgM68kInstr} (hdst : eaIsDataAlterable instr.dst = true) :
    emitArithImmGeneric instr =
      Emission.emitted (combine (β := β) (kindOf (instr.mnemonic = .addi)) instr.dst instr.size
        (instr.immediate.setWidth _)) := by
  unfold emitArithImmGeneric
  rw [if_neg (mode_ne_none_of_dataAlterable hdst), castSize_and_ngValueMask]
  exact emitRmw_addOrSub hdst _ _

theorem emitCmpiGeneric_eq {instr : NgM68kInstr} (hdst : instr.dst.mode ≠ .none) :
    emitCmpiGeneric instr = Emission.emitted (β := β) (do
      compare (← moveSource instr.dst instr.size)
        (instr.immediate.setWidth (ngSizeBits instr.size))) := by
  obtain ⟨rd, hrd⟩ := emitEaRead_eq_some (β := β) instr.size hdst
  unfold emitCmpiGeneric
  rw [if_neg hdst, hrd, moveSource_eq hrd]
  simp only [castSize_and_ngValueMask, cmpStatements_eq, bind_assoc, pure_bind]
  rfl

theorem emitCmpm_eq {instr : NgM68kInstr} (hm : instr.mnemonic = .cmpm)
    (hsrc : instr.src.mode = .apost) (hdst : instr.dst.mode = .apost) :
    emitCmpm instr = Emission.emitted (β := β) (do
      let src ← moveSource instr.src instr.size
      let dst ← moveSource instr.dst instr.size
      compare dst src) := by
  unfold emitCmpm
  rw [if_neg (by simp [hm, hsrc, hdst])]
  congr 1
  funext m
  simp only [moveSource, accessMemory, operandAddr, aregAddr, hsrc, hdst, stepUp, bind_apply,
    getCpu_apply, readSize_apply, modifyCpu_apply, pure_apply, cmpStatements_eq, reduceCtorEq,
    if_false, if_true]

theorem emitUnaryRmwGeneric_neg {instr : NgM68kInstr} (hm : instr.mnemonic = .neg)
    (hdst : eaIsDataAlterable instr.dst = true) :
    emitUnaryRmwGeneric instr =
      Emission.emitted (alterOperand (β := β) instr.dst instr.size fun value =>
        (arithResult .sub 0 value, fun _ => arithCcr .sub 0 value)) := by
  unfold emitUnaryRmwGeneric
  rw [if_neg (mode_ne_none_of_dataAlterable hdst)]
  refine emitRmw_eq hdst fun value store => ?_
  rw [hm, if_neg (by decide), if_neg (by decide), negStatements_eq]

/-- A word source is sign-extended; a long source is taken as it is. -/
theorem addressSource_eq {size : BitVec 8} (h : size = 2 ∨ size = 4) (x : BitVec 32) :
    addressSource size x = (castSize size x).signExtend 32 := by
  rcases h with rfl | rfl
  · rfl
  · simp [addressSource, castSize, ngSizeBits]

theorem ofInt_toInt_eq_signExtend {w : Nat} (v : BitVec w) :
    BitVec.ofInt 32 v.toInt = v.signExtend 32 := rfl

theorem emitAluAddressReg_eq {instr : NgM68kInstr} (hsrc : instr.src.mode ≠ .none)
    (hdst : instr.dst.mode = .areg) (hsize : instr.size = 2 ∨ instr.size = 4)
    (hm : instr.mnemonic = .adda ∨ instr.mnemonic = .suba ∨ instr.mnemonic = .cmpa) :
    emitAluAddressReg instr = Emission.emitted (β := β) (arithReference instr) := by
  obtain ⟨rd, hrd⟩ := emitEaRead_eq_some (β := β) instr.size hsrc
  have hcmp : ∀ (a s : BitVec 32) (sr : BitVec 16),
      cmpFlags 4 s a (subResult a s) sr = (compareCcr a s sr).put sr := by
    intro a s sr
    have hsub := @subResult_eq 4 s a
    have hflags := @cmpFlags_eq 4 s a sr
    rw [← hsub] at hflags
    exact hflags
  unfold emitAluAddressReg arithReference
  dsimp only
  rw [if_neg (by rcases hm with h | h | h <;> simp [hsrc, hdst, h]), hrd]
  dsimp only
  congr 1
  rcases hm with h | h | h <;> rw [h] <;>
    simp only [reduceCtorEq, if_true, if_false, moveSource_eq hrd, bind_assoc, pure_bind,
      addressSource_eq hsize, combineAddress, ArithKind.exact, BitVec.ofInt_add, ofInt_sub,
      BitVec.ofInt_natCast, BitVec.ofNat_toNat, BitVec.setWidth_eq, ofInt_toInt_eq_signExtend,
      hcmp, compare]
  rfl

omit [GeneratedAbi β] in
/-- Preparing an address leaves the data registers and the status register alone. -/
theorem emitEaAddress_next {ea : NgM68kEa} {size : BitVec 8} {ad : Gen β CExpr}
    (h : emitEaAddress ea size = some ad) (m : Machine β) :
    ∃ e m', ad m = .next e m' ∧ m'.cpu.d = m.cpu.d ∧ m'.cpu.sr = m.cpu.sr := by
  unfold emitEaAddress at h
  split at h <;> first | contradiction | (cases h; exact ⟨_, _, rfl, rfl, rfl⟩)

theorem emitAluDregToEa_eq {instr : NgM68kInstr} (hsrc : instr.src.mode = .dreg)
    (hdst : eaIsMemoryAlterable instr.dst = true)
    (hm : instr.mnemonic = .add ∨ instr.mnemonic = .sub) :
    emitAluDregToEa instr = Emission.emitted (β := β) (arithReference instr) := by
  have hmode : instr.dst.mode ≠ .none ∧ instr.dst.mode ≠ .dreg ∧ instr.dst.mode ≠ .areg := by
    refine ⟨?_, ?_, ?_⟩ <;> intro h <;> simp [eaIsMemoryAlterable, h] at hdst
  obtain ⟨ad, had⟩ := emitEaAddress_eq_some (β := β) instr.size hdst
  have hrd := @emitEaRead_dreg β _ _ instr.size hsrc
  have href : arithReference (β := β) instr = (do
      combine (kindOf (instr.mnemonic = .add)) instr.dst instr.size
        (← moveSource instr.src instr.size)) := by
    rcases hm with h | h <;> simp [arithReference, h, kindOf]
  unfold emitAluDregToEa
  rw [if_neg (by rcases hm with h | h <;> simp [hsrc, hmode, h]), hrd, had, href,
    moveSource_eq hrd]
  dsimp only
  congr 1
  funext m
  -- The source is a data register, so it reads the same before and after the address is prepared.
  obtain ⟨e, m', hnext, hd, -⟩ := emitEaAddress_next had m
  simp only [combine, alterOperand_memory had, addOrSubStatements_eq]
  simp only [bind_apply, pure_apply, getCpu_apply, hnext]
  simp only [readSize_apply, writeSize_apply]
  rw [hd]

theorem emitAluEaToDreg_eq {instr : NgM68kInstr} (hsrc : instr.src.mode ≠ .none)
    (hdst : instr.dst.mode = .dreg)
    (hm : instr.mnemonic = .add ∨ instr.mnemonic = .sub ∨ instr.mnemonic = .cmp) :
    emitAluEaToDreg instr = Emission.emitted (β := β) (arithReference instr) := by
  obtain ⟨rd, hrd⟩ := emitEaRead_eq_some (β := β) instr.size hsrc
  have hdreg : moveSource (β := β) instr.dst instr.size = (do
      let g ← getCpu
      pure (castSize instr.size (g.d (regIndex instr.dst.reg) &&& ngValueMask instr.size))) := by
    funext m
    simp only [moveSource, hdst, bind_apply, pure_apply, getCpu_apply, castSize_and_ngValueMask]
  have hupdate : ∀ (isAdd : Bool) (src : BitVec (ngSizeBits instr.size)), (do
      let g ← getCpu
      addOrSubStatements (β := β) isAdd instr.size src
        (castSize instr.size (g.d (regIndex instr.dst.reg) &&& ngValueMask instr.size))
        (storeDreg instr.dst.reg instr.size)) =
      combine (kindOf isAdd) instr.dst instr.size src := by
    intro isAdd src
    funext m
    simp only [combine, alterOperand, hdst, if_true, addOrSubStatements_eq, bind_apply,
      getCpu_apply, storeDreg, modifyCpu_apply, writeDreg_eq, castSize_promote,
      castSize_and_ngValueMask]
    rfl
  unfold emitAluEaToDreg arithReference
  rw [if_neg (by simp [hsrc, hdst]), hrd]
  dsimp only
  rcases hm with h | h | h <;> rw [h] <;>
    simp only [reduceCtorEq, if_true, if_false, moveSource_eq hrd, bind_assoc, pure_bind]
  · congr 3
    funext e
    congr 1
    funext g
    exact hupdate true _
  · congr 3
    funext e
    congr 1
    funext g
    exact hupdate false _
  · simp only [hdreg, cmpStatements_eq, bind_assoc, pure_bind]

theorem emitAlu_toMemory {instr : NgM68kInstr} (hsrc : instr.src.mode = .dreg)
    (hdst : eaIsMemoryAlterable instr.dst = true)
    (hm : instr.mnemonic = .add ∨ instr.mnemonic = .sub) :
    emitAlu instr = fallsThrough (β := β) (arithReference instr) := by
  rw [emitAlu, emitAluDregToEa_eq hsrc hdst hm]
  rfl

theorem emitAlu_toDreg {instr : NgM68kInstr} (hsrc : instr.src.mode ≠ .none)
    (hdst : instr.dst.mode = .dreg)
    (hm : instr.mnemonic = .add ∨ instr.mnemonic = .sub ∨ instr.mnemonic = .cmp) :
    emitAlu instr = fallsThrough (β := β) (arithReference instr) := by
  have hfirst : emitAluDregToEa (β := β) instr = .rejected := by
    unfold emitAluDregToEa
    rw [if_pos (by simp [hdst])]
  rw [emitAlu, hfirst, emitAluEaToDreg_eq hsrc hdst hm]
  rfl

theorem emitAlu_addSub {instr : NgM68kInstr} (hv : validateAddSubOrAnd instr = true)
    (hm : instr.mnemonic = .add ∨ instr.mnemonic = .sub) :
    emitAlu instr = fallsThrough (β := β) (arithReference instr) := by
  unfold validateAddSubOrAnd at hv
  split_ifs at hv with hd
  · obtain ⟨hsrc, hdst, -⟩ := validateEaToDregBinary_shape hv
    exact emitAlu_toDreg hsrc hdst (hm.imp_right .inl)
  · obtain ⟨hsrc, hdst, -⟩ := validateDregToMemoryBinary_shape hv
    exact emitAlu_toMemory hsrc hdst hm

end Operands

/-! ## Main result -/

/-- Every validated arithmetic instruction runs as its reference: the exact result modulo `2^w`, N
and Z of that result, C and V exactly when the unsigned and signed values do not fit, X as C or kept
by the comparisons, and no flag touched on an address register. -/
theorem emitInstr_arithmetic {β : Type} [GeneratedAbi β] (instr : NgM68kInstr)
    (hv : ngM68kValidate instr = true) (hm : isArith instr.mnemonic = true) :
    emitInstr (β := β) instr = fallsThrough (arithReference instr) := by
  unfold ngM68kValidate at hv
  unfold emitInstr
  rw [Bool.and_eq_true] at hv
  replace hv := hv.2
  cases h : instr.mnemonic <;> simp only [h, isArith, Bool.false_eq_true] at hm hv ⊢
  case add => exact emitAlu_addSub hv (.inl h)
  case sub => exact emitAlu_addSub hv (.inr h)
  case cmp =>
    obtain ⟨hsrc, hdst, -⟩ := validateEaToDregBinary_shape hv
    exact emitAlu_toDreg hsrc hdst (.inr (.inr h))
  case adda =>
    obtain ⟨hsrc, hdst, hsize⟩ := validateAddressRegOp_shape hv
    rw [emitAluAddressReg_eq hsrc hdst hsize (.inl h)]
    rfl
  case suba =>
    obtain ⟨hsrc, hdst, hsize⟩ := validateAddressRegOp_shape hv
    rw [emitAluAddressReg_eq hsrc hdst hsize (.inr (.inl h))]
    rfl
  case cmpa =>
    obtain ⟨hsrc, hdst, hsize⟩ := validateAddressRegOp_shape hv
    rw [emitAluAddressReg_eq hsrc hdst hsize (.inr (.inr h))]
    rfl
  case addq =>
    rw [emitQuickGeneric_eq (validateQuickOp_shape hv)]
    simp [orUnsupported, arithReference, h, kindOf]
  case subq =>
    rw [emitQuickGeneric_eq (validateQuickOp_shape hv)]
    simp [orUnsupported, arithReference, h, kindOf]
  case addi =>
    rw [emitArithImmGeneric_eq (validateImmediateToEa_shape hv)]
    simp [orUnsupported, arithReference, h, kindOf]
  case subi =>
    rw [emitArithImmGeneric_eq (validateImmediateToEa_shape hv)]
    simp [orUnsupported, arithReference, h, kindOf]
  case cmpi =>
    have hdst := validateImmediateWithBase_shape hv
    rw [emitCmpiGeneric_eq (mode_ne_none_of_dataAlterable hdst)]
    simp [orUnsupported, arithReference, h]
  case cmpm =>
    obtain ⟨hsrc, hdst⟩ := validateCmpm_shape hv
    rw [emitCmpm_eq h hsrc hdst]
    simp [orUnsupported, arithReference, h]
  case neg =>
    rw [emitUnaryRmwGeneric_neg h (validateUnaryDataAlterable_shape hv)]
    simp [orUnsupported, arithReference, h]

/-- `ADD.W D1,D0`. -/
def addWordInstr : NgM68kInstr :=
  { addr := 0x1000, opcode := 0xD041, mnemonic := .add, byteLength := 2, reg := 0, srcReg := 1,
    size := 2, form := .dregToDreg, src := { mode := .dreg, reg := 1 }, dst := { mode := .dreg } }

/-- `ADD.W D1,(A0)+`. -/
def addWordPostInstr : NgM68kInstr :=
  { addr := 0x1000, opcode := 0xD358, mnemonic := .add, byteLength := 2, srcReg := 1, size := 2,
    src := { mode := .dreg, reg := 1 }, dst := { mode := .apost } }

theorem emitInstr_arithmetic_addWord :
    emitInstr (β := Ram) addWordInstr = fallsThrough (arithReference addWordInstr) ∧
      emitInstr (β := Ram) addWordPostInstr = fallsThrough (arithReference addWordPostInstr) :=
  ⟨emitInstr_arithmetic addWordInstr (by decide +kernel) (by decide),
    emitInstr_arithmetic addWordPostInstr (by decide +kernel) (by decide)⟩

end NeoRecomp
