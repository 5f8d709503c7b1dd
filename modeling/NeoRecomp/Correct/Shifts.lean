import NeoRecomp.Correct.Arithmetic
import NeoRecomp.Lib.BitMove
import NeoRecomp.Spec.Shift

/-!
# The emitted shifts and rotations

The printed loop moves one bit a turn.  One turn is a one-place move of the operand with the bit its
operation feeds in; the closed forms of `Spec.Shift` satisfy the same recurrence in the count.
-/

namespace NeoRecomp

open Gen BitArith

/-! ## One place -/

section Move
variable {w : Nat} (mn : NgM68kMnemonic)

/-- The bit that comes in: zero, a copy of the sign, X, or the bit that goes out. -/
def nextIn (v : BitVec w) (x : Bool) : Bool :=
  if shiftIsLogical mn then false
  else if shiftIsArith mn then !shiftIsLeft mn && v.msb
  else if shiftIsRox mn then x
  else nextOut mn v

/-- The operand moved by one place. -/
def moveOnce (v : BitVec w) (x : Bool) : BitVec w :=
  if shiftIsLeft mn then v.shiftConcat (nextIn mn v x) else shiftInTop (nextIn mn v x) v

/-- X after `n` places, where only the rotations through X move it. -/
def extendAfter (v : BitVec w) (x : Bool) (n : Nat) : Bool :=
  if shiftIsRox mn then (rotateExtended (shiftIsLeft mn) v x n).msb else x

theorem shiftResult_zero (v : BitVec w) (x : Bool) : shiftResult mn v x 0 = v := by
  cases mn <;> simp [shiftResult, rotateExtended, rotateLeft_zero, rotateRight_zero]

theorem extendAfter_zero (v : BitVec w) (x : Bool) : extendAfter mn v x 0 = x := by
  unfold extendAfter rotateExtended
  split_ifs <;> simp [rotateLeft_zero, rotateRight_zero]

theorem rotateExtended_left_succ (v : BitVec w) (x : Bool) (n : Nat) :
    rotateExtended true v x (n + 1) =
      (rotateExtended true v x n).shiftConcat (rotateExtended true v x n).msb := by
  simp only [rotateExtended, if_true, BitVec.rotateLeft_mod_eq_rotateLeft, rotateLeft_succ]

theorem rotateExtended_right_succ (v : BitVec w) (x : Bool) (n : Nat) :
    rotateExtended false v x (n + 1) =
      shiftInTop ((rotateExtended false v x n).getLsbD 0) (rotateExtended false v x n) := by
  simp only [rotateExtended, Bool.false_eq_true, if_false, BitVec.rotateRight_mod_eq_rotateRight,
    rotateRight_succ]

/-- The closed forms in one more place. -/
theorem shiftResult_succ (hm : shiftIsKnown mn = true) (v : BitVec w) (x : Bool) (n : Nat) :
    shiftResult mn v x (n + 1) =
      moveOnce mn (shiftResult mn v x n) (extendAfter mn v x n) := by
  cases mn <;> try exact absurd hm (by decide)
  case asl => exact shiftLeft_succ v n
  case lsl => exact shiftLeft_succ v n
  case asr => exact sshiftRight_succ v n
  case lsr => exact shiftRight_succ v n
  case rol =>
    simp only [shiftResult, BitVec.rotateLeft_mod_eq_rotateLeft]
    exact rotateLeft_succ v n
  case ror =>
    simp only [shiftResult, BitVec.rotateRight_mod_eq_rotateRight]
    exact rotateRight_succ v n
  case roxl =>
    simp only [shiftResult, rotateExtended_left_succ]
    exact setWidth_shiftConcat _ _
  case roxr =>
    simp only [shiftResult, rotateExtended_right_succ]
    exact setWidth_shiftInTop _ _

/-- A rotation through X leaves in X the bit it moved out. -/
theorem extendAfter_succ (hw : 0 < w) (hm : shiftIsRox mn = true) (v : BitVec w) (x : Bool)
    (n : Nat) : extendAfter mn v x (n + 1) = nextOut mn (shiftResult mn v x n) := by
  cases mn <;> try exact absurd hm (by decide)
  case roxl =>
    show (rotateExtended true v x (n + 1)).msb = ((rotateExtended true v x n).setWidth w).msb
    rw [rotateExtended_left_succ, msb_shiftConcat _ _ hw]
  case roxr =>
    show (rotateExtended false v x (n + 1)).msb =
      ((rotateExtended false v x n).setWidth w).getLsbD 0
    rw [rotateExtended_right_succ, msb_shiftInTop, getLsbD_setWidth_zero _ hw]

end Move

/-! ## One turn of the loop -/

section Turn
variable {size : BitVec 8} (v : BitVec (ngSizeBits size)) (b : Bool)

theorem getLsbD_promote (i : Nat) : (promote v).getLsbD i = v.getLsbD i := by
  rw [promote, BitVec.getLsbD_setWidth]
  by_cases hi : i < 32
  · rw [decide_eq_true hi, Bool.true_and]
  · have := ngSizeBits_le size
    rw [decide_eq_false hi, Bool.false_and, BitVec.getLsbD_of_ge v i (by omega)]

theorem moveLeft_promote :
    ((promote v <<< 1) &&& ngValueMask size) ||| (if b then 1 else 0) =
      promote (v.shiftConcat b) := by
  apply BitVec.eq_of_getLsbD_eq
  intro i hi
  have hpos := ngSizeBits_pos size
  rw [getLsbD_promote, BitVec.getLsbD_shiftConcat, BitVec.getLsbD_or, BitVec.getLsbD_and,
    getLsbD_ngValueMask, BitVec.getLsbD_shiftLeft, getLsbD_promote, decide_eq_true hi]
  by_cases h : i = 0
  · subst h
    cases b <;> simp [hpos]
  · have hone : (if b then (1 : BitVec 32) else 0).getLsbD i = false := by
      cases b <;> simp [h]
    rw [hone, if_neg h, decide_eq_false (show ¬ i < 1 by omega), Bool.or_false, Bool.true_and,
      Bool.not_false, Bool.true_and, Bool.and_comm]

theorem moveRight_promote :
    (promote v >>> 1) ||| (if b then ngSignMask size else 0) = promote (shiftInTop b v) := by
  apply BitVec.eq_of_getLsbD_eq
  intro i hi
  have hpos := ngSizeBits_pos size
  have hle := ngSizeBits_le size
  have hmask : (if b then ngSignMask size else 0).getLsbD i =
      (b && decide (i + 1 = ngSizeBits size)) := by
    cases b
    · simp
    · rw [if_pos rfl, ngSignMask_eq, BitVec.getLsbD_twoPow, Bool.true_and,
        decide_eq_true (show ngSizeBits size - 1 < 32 by omega), Bool.true_and, decide_eq_decide]
      omega
  rw [getLsbD_promote, getLsbD_shiftInTop, BitVec.getLsbD_or, BitVec.getLsbD_ushiftRight,
    getLsbD_promote, hmask, Nat.add_comm 1 i]
  split_ifs with h
  · rw [BitVec.getLsbD_of_ge v (i + 1) (by omega), decide_eq_true h, Bool.false_or, Bool.and_true]
  · rw [decide_eq_false h, Bool.and_false, Bool.or_false]

theorem promote_and_sign :
    promote v &&& ngSignMask size = if v.msb then ngSignMask size else 0 := by
  have h := signSet_promote v
  rw [signSet_eq_getLsbD] at h
  rw [ngSignMask_eq, BitVec.and_twoPow, h]
  rfl

theorem ngSignMask_ne_zero : ngSignMask size ≠ 0#32 := by
  unfold ngSignMask
  split_ifs <;> decide

theorem promote_and_sign_ne : (promote v &&& ngSignMask size != 0) = v.msb := signSet_promote v

theorem promote_and_one : (promote v &&& 1 != 0) = v.getLsbD 0 := by
  have h : promote v &&& 1 = BitVec.setWidth 32 (BitVec.ofBool (v.getLsbD 0)) := by
    apply BitVec.eq_of_getLsbD_eq
    intro i hi
    rw [BitVec.getLsbD_and, getLsbD_promote, BitVec.getLsbD_setWidth, BitVec.getLsbD_ofBool]
    by_cases h0 : i = 0
    · simp [h0]
    · simp [h0]
  rw [h]
  cases v.getLsbD 0 <;> rfl

variable (mn : NgM68kMnemonic)

/-- One turn of the loop, on an operand and not on its 32-bit copy. -/
theorem shiftTurn_promote (hm : shiftIsKnown mn = true) (last o x : Bool) :
    shiftTurn mn (ngSignMask size) (ngValueMask size) { result := promote v, last, v := o, x } =
      { result := promote (moveOnce mn v x)
        last := nextOut mn v
        v := o || (mn == .asl && (v.shiftConcat false).msb != v.msb)
        x := if shiftIsRox mn then nextOut mn v else x } := by
  have hz := moveLeft_promote v false
  have hr := moveRight_promote v false
  rw [if_neg Bool.false_ne_true, BitVec.ofNat_eq_ofNat, BitVec.or_zero] at hz hr
  -- the statements of each operation, with its masked values read back as operands
  cases mn <;> try exact absurd hm (by decide)
  case asl =>
    show ShiftVars.mk _ (promote v &&& ngSignMask size != 0) (o || _ != _) x = _
    rw [hz, promote_and_sign_ne, promote_and_sign, promote_and_sign]
    have hsign : ((if (v.shiftConcat false).msb then ngSignMask size else 0) !=
        if v.msb then ngSignMask size else 0) = ((v.shiftConcat false).msb != v.msb) := by
      have hne := @ngSignMask_ne_zero size
      cases (v.shiftConcat false).msb <;> cases v.msb <;> simp [hne, Ne.symm hne]
    rw [hsign]
    rfl
  case lsl =>
    show ShiftVars.mk _ (promote v &&& ngSignMask size != 0) o x = _
    rw [hz, promote_and_sign_ne]
    cases o <;> rfl
  case roxl =>
    show ShiftVars.mk _ (promote v &&& ngSignMask size != 0) o _ = _
    rw [moveLeft_promote, promote_and_sign_ne]
    cases o <;> rfl
  case rol =>
    show ShiftVars.mk _ (promote v &&& ngSignMask size != 0) o x = _
    rw [moveLeft_promote, promote_and_sign_ne]
    cases o <;> rfl
  case asr =>
    show ShiftVars.mk _ (promote v &&& 1 != 0) o x = _
    rw [promote_and_sign, moveRight_promote, promote_and_one]
    cases o <;> rfl
  case lsr =>
    show ShiftVars.mk _ (promote v &&& 1 != 0) o x = _
    rw [hr, promote_and_one]
    cases o <;> rfl
  case roxr =>
    show ShiftVars.mk _ (promote v &&& 1 != 0) o _ = _
    rw [moveRight_promote, promote_and_one]
    cases o <;> rfl
  case ror =>
    show ShiftVars.mk _ (promote v &&& 1 != 0) o x = _
    rw [moveRight_promote, promote_and_one]
    cases o <;> rfl

end Turn

/-! ## The whole loop -/

section Loop
variable {size : BitVec 8} (mn : NgM68kMnemonic) (v : BitVec (ngSizeBits size)) (x : Bool)

theorem signChanges_zero {w : Nat} (v : BitVec w) : signChanges v 0 = false := by
  simp [signChanges]

theorem signChanges_succ {w : Nat} (v : BitVec w) (n : Nat) :
    signChanges v (n + 1) = (signChanges v n || (v <<< (n + 1)).msb != (v <<< n).msb) := by
  rw [signChanges, signChanges, bne, beq_eq_decide, ← decide_not, ← Bool.decide_or,
    decide_eq_decide]
  constructor
  · rintro ⟨k, hk, hne⟩
    rcases Nat.lt_succ_iff_lt_or_eq.mp hk with h | rfl
    · exact .inl ⟨k, h, hne⟩
    · exact .inr hne
  · rintro (⟨k, hk, hne⟩ | hne)
    · exact ⟨k, Nat.lt_succ_of_lt hk, hne⟩
    · exact ⟨n, Nat.lt_succ_self n, hne⟩

/-- The variables after `n` turns, by induction on the turns. -/
theorem shiftTurn_iterate (hm : shiftIsKnown mn = true) (n : Nat) :
    (shiftTurn mn (ngSignMask size) (ngValueMask size))^[n]
        { result := promote v, last := false, v := false, x } =
      { result := promote (shiftResult mn v x n)
        last := n != 0 && lastOut mn v x n
        v := mn == .asl && signChanges v n
        x := extendAfter mn v x n } := by
  induction n with
  | zero => simp [shiftResult_zero, extendAfter_zero, signChanges_zero]
  | succ n ih =>
    have hstep := shiftTurn_promote (shiftResult mn v x n) mn hm (n != 0 && lastOut mn v x n)
      (mn == .asl && signChanges v n) (extendAfter mn v x n)
    have hx : (if shiftIsRox mn then nextOut mn (shiftResult mn v x n)
        else extendAfter mn v x n) = extendAfter mn v x (n + 1) := by
      by_cases h : shiftIsRox mn = true
      · rw [if_pos h, extendAfter_succ mn (ngSizeBits_pos size) h]
      · rw [if_neg h, extendAfter, extendAfter, if_neg h, if_neg h]
    have hv : ((mn == .asl && signChanges v n) || (mn == .asl &&
        ((shiftResult mn v x n).shiftConcat false).msb != (shiftResult mn v x n).msb)) =
          (mn == .asl && signChanges v (n + 1)) := by
      by_cases h : mn = .asl
      · subst h
        rw [signChanges_succ, shiftLeft_succ]
        rfl
      · rw [beq_eq_false_iff_ne.mpr h]
        rfl
    rw [Function.iterate_succ_apply', ih, hstep, ← shiftResult_succ mn hm, hx, hv]
    rfl

/-- The zero test on the 32-bit copy. -/
theorem promote_and_value_beq : (promote v &&& ngValueMask size == 0) = decide (v = 0) := by
  rw [and_ngValueMask, castSize_promote, beq_eq_decide, decide_eq_decide]
  constructor
  · intro h
    rw [← castSize_promote v, h]
    exact BitVec.setWidth_zero _ _
  · intro h
    rw [h]
    exact BitVec.setWidth_zero _ _

/-- After the turns the rotations through X have the last bit in both of their variables. -/
theorem extendAfter_of_rox (hx : shiftIsRox mn = true) {n : Nat} (hn : n ≠ 0) :
    extendAfter mn v x n = lastOut mn v x n := by
  obtain ⟨k, rfl⟩ := Nat.exists_eq_succ_of_ne_zero hn
  exact extendAfter_succ mn (ngSizeBits_pos size) hx v x k

/-- The X statements of a rotation through X find C and X as the carry statement left them. -/
theorem orIf_then_x (c : Bool) (sr : BitVec 16) (n z : Bool) :
    let sr' := orIf c (ngCcrC ||| ngCcrX) (orIf n ngCcrN (orIf z ngCcrZ (sr &&& 0xFFE0)))
    (if c then sr' ||| (ngCcrC ||| ngCcrX) else sr' &&& ~~~(ngCcrC ||| ngCcrX)) = sr' := by
  intro sr'
  apply BitVec.eq_of_getLsbD_eq
  intro i hi
  cases c
  · simp only [Bool.false_eq_true, if_false, sr', getLsbD_orIf, BitVec.getLsbD_and]
    interval_cases i <;> simp [ngCcrC, ngCcrX, ngCcrN, ngCcrZ]
  · simp only [if_true, sr', getLsbD_orIf, BitVec.getLsbD_or, BitVec.getLsbD_and]
    interval_cases i <;> simp [ngCcrC, ngCcrX, ngCcrN, ngCcrZ]

/-- The flag statements for a count that is not zero. -/
theorem shiftFlags_eq (hm : shiftIsKnown mn = true) {n : Nat} (hn : n ≠ 0) (sr : BitVec 16) :
    shiftFlags mn (ngSignMask size) (ngValueMask size)
        { result := promote (shiftResult mn v (flagX sr) n)
          last := lastOut mn v (flagX sr) n
          v := mn == .asl && signChanges v n
          x := extendAfter mn v (flagX sr) n } sr =
      (shiftCcr mn v (flagX sr) n).put sr := by
  have hx := extendAfter_of_rox mn v (flagX sr) (n := n)
  have hn' : (n == 0) = false := beq_eq_false_iff_ne.mpr hn
  rw [shiftFlags, promote_and_value_beq, promote_and_sign_ne, shiftCcr, if_neg hn, hn']
  generalize lastOut mn v (flagX sr) n = last at hx ⊢
  generalize shiftResult mn v (flagX sr) n = r
  cases mn <;> try exact absurd hm (by decide)
  case rol => exact orIf_chain_eq_put_compare sr r.msb (decide (r = 0)) false last
  case ror => exact orIf_chain_eq_put_compare sr r.msb (decide (r = 0)) false last
  case asl => exact orIf_chain_eq_put sr r.msb (decide (r = 0)) (signChanges v n) last
  case asr => exact orIf_chain_eq_put sr r.msb (decide (r = 0)) false last
  case lsl => exact orIf_chain_eq_put sr r.msb (decide (r = 0)) false last
  case lsr => exact orIf_chain_eq_put sr r.msb (decide (r = 0)) false last
  case roxl =>
    rw [hx rfl hn]
    exact (orIf_then_x last sr r.msb (decide (r = 0))).trans
      (orIf_chain_eq_put sr r.msb (decide (r = 0)) false last)
  case roxr =>
    rw [hx rfl hn]
    exact (orIf_then_x last sr r.msb (decide (r = 0))).trans
      (orIf_chain_eq_put sr r.msb (decide (r = 0)) false last)

/-- The flag statements for a count of zero. -/
theorem shiftZeroFlags_eq (sr : BitVec 16) :
    shiftZeroFlags mn (ngSignMask size) (ngValueMask size) (promote v) sr =
      (shiftCcr mn v (flagX sr) 0).put sr := by
  have hkeep : srHas (orIf v.msb ngCcrN (orIf (decide (v = 0)) ngCcrZ (sr &&& 0xFFF0))) ngCcrX =
      flagX sr := by
    rw [show ngCcrX = BitVec.twoPow 16 4 from rfl, srHas_twoPow, getLsbD_orIf, getLsbD_orIf,
      BitVec.getLsbD_and, flagX]
    simp [ngCcrN, ngCcrZ]
  have hput := orIf_chain_eq_put_compare sr v.msb (decide (v = 0)) false (shiftIsRox mn && flagX sr)
  rw [shiftZeroFlags, promote_and_value_beq, promote_and_sign_ne, hkeep, shiftCcr,
    shiftResult_zero, signChanges_zero, if_pos rfl, Bool.and_false, beq_self_eq_true, Bool.or_true,
    if_pos rfl, ← hput]
  cases shiftIsRox mn <;> rfl

end Loop

/-! ## A word moved once -/

section Word
variable (mn : NgM68kMnemonic) (v : BitVec 16)

/-- A single turn, with the masks of a word. -/
theorem shiftTurn_word_vars (hm : shiftIsKnown mn = true) (x : Bool) :
    shiftTurn mn 0x00008000 0x0000FFFF
        { result := v.setWidth 32, last := false, v := false, x } =
      { result := promote (shiftResult mn v x 1)
        last := lastOut mn v x 1
        v := mn == .asl && signChanges v 1
        x := extendAfter mn v x 1 } :=
  @shiftTurn_iterate 2 mn v x hm 1

theorem shiftTurn_word (hm : shiftIsKnown mn = true) (x : Bool) :
    (shiftTurn mn 0x00008000 0x0000FFFF
      { result := v.setWidth 32, last := false, v := false, x }).result.setWidth 16 =
        shiftResult mn v x 1 := by
  rw [shiftTurn_word_vars mn v hm]
  exact @castSize_promote 2 (shiftResult mn v x 1)

theorem shiftFlags_word (hm : shiftIsKnown mn = true) (sr : BitVec 16) :
    shiftFlags mn 0x00008000 0x0000FFFF (shiftTurn mn 0x00008000 0x0000FFFF
      { result := v.setWidth 32, last := false, v := false, x := flagX sr }) sr =
        (shiftCcr mn v (flagX sr) 1).put sr := by
  rw [shiftTurn_word_vars mn v hm]
  exact @shiftFlags_eq 2 mn v hm 1 Nat.one_ne_zero sr

end Word

/-! ## Both emitters -/

section Emitters
variable {β : Type} [GeneratedAbi β] (instr : NgM68kInstr)

theorem shiftIsKnown_eq_false {mn : NgM68kMnemonic} (hm : shiftIsKnown mn = true) :
    ¬ (!shiftIsKnown mn) = true := by
  rw [hm]
  decide

/-- The count variable of the printed text. -/
theorem toNat_count (g : NgM68kState) :
    (if instr.src.mode = .dreg then (g.d (regIndex instr.src.reg) &&& 0x3F).setWidth 8
      else instr.immediate.setWidth 8 : BitVec 8).toNat = shiftCount instr g := by
  rw [shiftCount]
  split_ifs with h
  · rw [BitVec.toNat_setWidth, BitVec.toNat_and,
      show (0x3F : BitVec 32).toNat = 2 ^ 6 - 1 from rfl, Nat.and_two_pow_sub_one_eq_mod]
    omega
  · rw [BitVec.toNat_setWidth]

omit [GeneratedAbi β] in
/-- A register shift is printed as the loop over its count, which is the closed form. -/
theorem emitShiftRotateDreg_eq (hm : shiftIsKnown instr.mnemonic = true)
    (hd : instr.dst.mode = .dreg) :
    (emitShiftRotateDreg instr : Emission β) = .emitted (shiftDreg instr) := by
  unfold emitShiftRotateDreg
  rw [if_neg (not_not.mpr hd), if_neg (shiftIsKnown_eq_false hm)]
  dsimp only
  congr 1
  funext m
  rw [bind_apply, getCpu_apply]
  dsimp only
  have hcount := toNat_count instr m.cpu
  generalize (if instr.src.mode = .dreg then
    (m.cpu.d (regIndex instr.src.reg) &&& 0x3F).setWidth 8
      else instr.immediate.setWidth 8 : BitVec 8) = count at hcount ⊢
  rw [and_ngValueMask, show srHas m.cpu.sr ngCcrX = flagX m.cpu.sr from srHas_twoPow _ 4]
  by_cases h0 : count = 0
  · have hz : shiftCount instr m.cpu = 0 := by
      rw [← hcount, h0]
      rfl
    rw [if_neg (not_not.mpr h0)]
    simp only [bind_apply, modifyCpu_apply, shiftDreg, hz, shiftResult_zero, shiftZeroFlags_eq,
      and_ngValueMask, castSize_promote, and_keep_or_promote]
    rfl
  · have hne : shiftCount instr m.cpu ≠ 0 := by
      intro h
      exact h0 (BitVec.eq_of_toNat_eq (hcount.trans h))
    have hlast : (shiftCount instr m.cpu != 0) = true := bne_iff_ne.mpr hne
    rw [if_pos h0]
    simp only [bind_apply, modifyCpu_apply, shiftDreg, hcount, shiftTurn_iterate _ _ _ hm, hlast,
      Bool.true_and, shiftFlags_eq _ _ hm hne, and_ngValueMask, castSize_promote,
      and_keep_or_promote]
    rfl

/-- A memory shift is printed as one turn on a word. -/
theorem emitShiftRotateMemory_eq (hm : shiftIsKnown instr.mnemonic = true)
    (hd : eaIsMemoryAlterable instr.dst = true) (hs : instr.size = 2) :
    (emitShiftRotateMemory instr : Emission β) = .emitted (shiftMemory instr) := by
  obtain ⟨ad, had⟩ := emitEaAddress_eq_some (β := β) 2 hd
  have hmode : ¬ (instr.dst.mode = .none ∨ instr.dst.mode = .dreg ∨ instr.dst.mode = .areg ∨
      instr.size ≠ 2) := by
    rintro (h | h | h | h)
    · simp [eaIsMemoryAlterable, h] at hd
    · simp [eaIsMemoryAlterable, h] at hd
    · simp [eaIsMemoryAlterable, h] at hd
    · exact h hs
  unfold emitShiftRotateMemory shiftMemory
  rw [if_neg hmode, if_neg (shiftIsKnown_eq_false hm), had]
  dsimp only
  congr 1
  funext m
  rw [bind_apply, bind_apply]
  cases ad m with
  | exit e m' => rfl
  | next e m' =>
    simp only [read16, write16, bind_apply, getCpu_apply, event_apply, call_apply,
      modifyCpu_apply, shiftTurn_word _ _ hm, shiftFlags_word _ _ hm,
      show srHas m'.cpu.sr ngCcrX = flagX m'.cpu.sr from srHas_twoPow _ 4]

/-- Every shift and rotation of a data register or a memory word runs as its closed form: the result,
the last bit moved out in C, X as that bit or kept, and V on a change of sign at any place of ASL. -/
theorem emitInstr_shift (hm : shiftIsKnown instr.mnemonic = true)
    (hd : instr.dst.mode = .dreg ∨ eaIsMemoryAlterable instr.dst = true ∧ instr.size = 2) :
    emitInstr (β := β) instr = fallsThrough (shiftReference instr) := by
  have hone : orUnsupported instr ((emitShiftRotateMemory (β := β) instr).orElse
      (emitShiftRotateDreg instr)) = fallsThrough (shiftReference instr) := by
    unfold shiftReference
    rcases hd with hd | ⟨hd, hs⟩
    · have hmem : (emitShiftRotateMemory (β := β) instr) = .rejected := by
        rw [emitShiftRotateMemory, if_pos (.inr (.inl hd))]
      rw [if_pos hd, hmem, emitShiftRotateDreg_eq instr hm hd]
      rfl
    · have hne : instr.dst.mode ≠ .dreg := by
        intro h
        simp [eaIsMemoryAlterable, h] at hd
      rw [if_neg hne, emitShiftRotateMemory_eq instr hm hd hs]
      rfl
  unfold emitInstr
  cases h : instr.mnemonic <;> simp only [h] at hm ⊢ <;>
    first | exact absurd hm (by decide) | exact hone

/-- ROXL.W D1,D0. -/
def roxlWordInstr : NgM68kInstr :=
  { addr := 0x1000, opcode := 0xE370, mnemonic := .roxl, byteLength := 2, reg := 0, srcReg := 1,
    size := 2, src := { mode := .dreg, reg := 1 }, dst := { mode := .dreg } }

theorem emitInstr_shift_roxlWord :
    emitInstr (β := Ram) roxlWordInstr = fallsThrough (shiftReference roxlWordInstr) :=
  emitInstr_shift roxlWordInstr (by decide) (.inl rfl)

-- seventeen places through X of a word are none
example : shiftResult .roxl (0x8001#16) true 17 = 0x8001#16 ∧
    shiftCcr .roxl (0x8001#16) true 17 = ⟨true, true, false, false, true⟩ := by decide

end Emitters

end NeoRecomp
