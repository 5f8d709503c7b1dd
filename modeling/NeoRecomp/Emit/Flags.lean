import Mathlib.Tactic.IntervalCases
import NeoRecomp.Emit.Instr
import NeoRecomp.Spec.Arithmetic

/-!
# Masks and flag statements, bit by bit

The mask constants of the emitter in terms of the operand width, and the flag statements in terms of
the condition codes they leave.
-/

namespace NeoRecomp

open Gen BitArith

/-! ## Masks -/

theorem ngSizeBits_pos (size : BitVec 8) : 0 < ngSizeBits size := by
  unfold ngSizeBits
  split_ifs <;> decide

theorem ngSizeBits_le (size : BitVec 8) : ngSizeBits size ≤ 32 := by
  unfold ngSizeBits
  split_ifs <;> decide

theorem getLsbD_two_pow_sub_one (w i : Nat) (hw : w ≤ 32) :
    (BitVec.ofNat 32 (2 ^ w - 1)).getLsbD i = decide (i < w) := by
  rw [BitVec.getLsbD_ofNat, Nat.testBit_two_pow_sub_one, ← Bool.decide_and, decide_eq_decide]
  omega

theorem getLsbD_ngValueMask (size : BitVec 8) (i : Nat) :
    (ngValueMask size).getLsbD i = decide (i < ngSizeBits size) := by
  unfold ngValueMask ngSizeBits
  split_ifs
  · exact getLsbD_two_pow_sub_one 32 i (by decide)
  · exact getLsbD_two_pow_sub_one 8 i (by decide)
  · exact getLsbD_two_pow_sub_one 16 i (by decide)

theorem ngDregKeepMask_eq_not (size : BitVec 8) : ngDregKeepMask size = ~~~ngValueMask size := by
  unfold ngDregKeepMask ngValueMask
  split_ifs <;> rfl

theorem ngSignMask_eq (size : BitVec 8) :
    ngSignMask size = BitVec.twoPow 32 (ngSizeBits size - 1) := by
  unfold ngSignMask ngSizeBits
  split_ifs <;> rfl

/-! ## Operand values -/

section Values
variable {size : BitVec 8}

@[simp] theorem castSize_promote (v : BitVec (ngSizeBits size)) :
    castSize size (promote v) = v := by
  rw [castSize, promote, BitVec.setWidth_setWidth_of_le v (ngSizeBits_le size),
    BitVec.setWidth_eq]

@[simp] theorem castSize_var (v : BitVec (ngSizeBits size)) (g : NgM68kState) :
    castSize size (CExpr.var v g) = v := castSize_promote v

theorem and_ngValueMask (x : BitVec 32) : x &&& ngValueMask size = promote (castSize size x) := by
  apply BitVec.eq_of_getLsbD_eq
  intro i hi
  simp only [promote, castSize, BitVec.getLsbD_and, getLsbD_ngValueMask, BitVec.getLsbD_setWidth,
    hi, decide_true, Bool.true_and]
  exact Bool.and_comm _ _

@[simp] theorem castSize_and_ngValueMask (x : BitVec 32) :
    castSize size (x &&& ngValueMask size) = castSize size x := by
  rw [and_ngValueMask, castSize_promote]

/-- The data-register operand expression of `emit_ea_read`. -/
theorem castSize_dreg (x : BitVec 32) :
    castSize size (if size = 4 then x else x &&& ngValueMask size) = x.setWidth _ := by
  split_ifs
  · rfl
  · rw [castSize_and_ngValueMask, castSize]

theorem getLsbD_replaceLow {w : Nat} (hw : w ≤ 32) (old : BitVec 32) (v : BitVec w) (i : Nat) :
    (replaceLow old v).getLsbD i = if i < w then v.getLsbD i else old.getLsbD i := by
  rw [replaceLow, BitVec.getLsbD_ofNat, Nat.mul_comm, Nat.testBit_two_pow_mul_add _ v.isLt]
  split_ifs with h
  · rw [decide_eq_true (show i < 32 by omega), Bool.true_and, BitVec.testBit_toNat]
  · rw [Nat.testBit_div_two_pow, Nat.sub_add_cancel (by omega), BitVec.testBit_toNat]
    by_cases hi : i < 32
    · rw [decide_eq_true hi, Bool.true_and]
    · rw [decide_eq_false hi, Bool.false_and, BitVec.getLsbD_of_ge old i (by omega)]

theorem setWidth_replaceLow {w : Nat} (hw : w ≤ 32) (old : BitVec 32) (v : BitVec w) :
    (replaceLow old v).setWidth w = v := by
  apply BitVec.eq_of_getLsbD_eq
  intro i hi
  rw [BitVec.getLsbD_setWidth, getLsbD_replaceLow hw, if_pos hi, decide_eq_true hi, Bool.true_and]

/-- The keep mask and the or that every store to a data register uses. -/
theorem and_keep_or_promote (old : BitVec 32) (v : BitVec (ngSizeBits size)) :
    (old &&& ngDregKeepMask size) ||| promote v = replaceLow old v := by
  apply BitVec.eq_of_getLsbD_eq
  intro i hi
  rw [getLsbD_replaceLow (ngSizeBits_le size)]
  simp only [promote, ngDregKeepMask_eq_not, BitVec.getLsbD_or, BitVec.getLsbD_and,
    BitVec.getLsbD_not, getLsbD_ngValueMask, BitVec.getLsbD_setWidth, hi, decide_true,
    Bool.true_and]
  split_ifs with h
  · simp [h]
  · simp [h, BitVec.getLsbD_of_ge v i (by omega)]

theorem writeDreg_eq (reg : BitVec 8) (v : BitVec 32) (g : NgM68kState) :
    writeDreg reg size v g =
      g.setD (regIndex reg) (replaceLow (g.d (regIndex reg)) (castSize size v)) := by
  rw [writeDreg, ← and_keep_or_promote]
  by_cases h : size = 4
  · subst h
    simp [ngDregKeepMask, castSize, promote, ngSizeBits]
  · rw [if_neg h, promote]

theorem storeDregMasked_eq {β : Type} (reg : BitVec 8) (v : BitVec (ngSizeBits size)) :
    (storeDregMasked reg size v : Gen β Unit) =
      modifyCpu fun g => g.setD (regIndex reg) (replaceLow (g.d (regIndex reg)) v) := by
  unfold storeDregMasked
  congr 1
  funext g
  rw [and_ngValueMask, castSize_promote, and_keep_or_promote]

end Values

/-! ## The sign test -/

section Sign
variable {size : BitVec 8}

theorem signSet_eq_getLsbD (x : BitVec 32) :
    signSet size x = x.getLsbD (ngSizeBits size - 1) := by
  rw [signSet, ngSignMask_eq, BitVec.and_twoPow]
  have hpos := ngSizeBits_pos size
  have hle := ngSizeBits_le size
  split_ifs with h
  · rw [h, bne_iff_ne]
    intro h0
    have hbit := congrArg (fun v => v.getLsbD (ngSizeBits size - 1)) h0
    simp only [BitVec.getLsbD_twoPow] at hbit
    simp at hbit
    omega
  · simpa using h

@[simp] theorem signSet_and (x y : BitVec 32) :
    signSet size (x &&& y) = (signSet size x && signSet size y) := by
  simp only [signSet_eq_getLsbD, BitVec.getLsbD_and]

@[simp] theorem signSet_xor (x y : BitVec 32) :
    signSet size (x ^^^ y) = (signSet size x ^^ signSet size y) := by
  simp only [signSet_eq_getLsbD, BitVec.getLsbD_xor]

@[simp] theorem signSet_not (x : BitVec 32) : signSet size (~~~x) = !signSet size x := by
  have hpos := ngSizeBits_pos size
  have hle := ngSizeBits_le size
  simp only [signSet_eq_getLsbD, BitVec.getLsbD_not]
  rw [decide_eq_true (show ngSizeBits size - 1 < 32 by omega), Bool.true_and]

@[simp] theorem signSet_promote (v : BitVec (ngSizeBits size)) :
    signSet size (promote v) = v.msb := by
  have hpos := ngSizeBits_pos size
  have hle := ngSizeBits_le size
  rw [signSet_eq_getLsbD, promote, BitVec.getLsbD_setWidth, BitVec.msb_eq_getLsbD_last,
    decide_eq_true (show ngSizeBits size - 1 < 32 by omega), Bool.true_and]

end Sign

/-- A test against zero. -/
theorem bne_zero_eq_decide {w : Nat} (v : BitVec w) : (v != 0) = decide (0 < v.toNat) := by
  rw [bne, beq_eq_decide, ← decide_not, decide_eq_decide, ← BitVec.toNat_inj,
    BitVec.ofNat_eq_ofNat, BitVec.toNat_ofNat, Nat.zero_mod]
  omega

/-! ## Status register statements -/

/-- A test of one status register bit. -/
theorem srHas_twoPow (sr : BitVec 16) (i : Nat) : srHas sr (BitVec.twoPow 16 i) = sr.getLsbD i := by
  rw [srHas, BitVec.and_twoPow]
  split_ifs with h
  · have hi : i < 16 := BitVec.lt_of_getLsbD h
    have hne : BitVec.twoPow 16 i ≠ 0#16 := by
      intro h0
      have := congrArg (fun v => v.getLsbD i) h0
      simp [hi] at this
    rw [h]
    exact bne_iff_ne.mpr hne
  · rw [Bool.not_eq_true] at h
    rw [h]
    rfl

theorem getLsbD_orIf (b : Bool) (bits sr : BitVec 16) (i : Nat) :
    (orIf b bits sr).getLsbD i = (sr.getLsbD i || (b && bits.getLsbD i)) := by
  cases b <;> simp [orIf]

/-- The flag statements of the instructions that set X. -/
theorem orIf_chain_eq_put (sr : BitVec 16) (n z v c : Bool) :
    orIf v ngCcrV (orIf c (ngCcrC ||| ngCcrX) (orIf n ngCcrN (orIf z ngCcrZ (sr &&& 0xFFE0)))) =
      Ccr.put { x := c, n, z, v, c } sr := by
  apply BitVec.eq_of_getLsbD_eq
  intro i hi
  simp only [Ccr.getLsbD_put, getLsbD_orIf, BitVec.getLsbD_and]
  interval_cases i <;> simp [ngCcrV, ngCcrC, ngCcrX, ngCcrN, ngCcrZ]

/-- The flag statements of the comparisons. -/
theorem orIf_chain_eq_put_compare (sr : BitVec 16) (n z v c : Bool) :
    orIf v ngCcrV (orIf c ngCcrC (orIf n ngCcrN (orIf z ngCcrZ (sr &&& 0xFFF0)))) =
      Ccr.put { x := flagX sr, n, z, v, c } sr := by
  apply BitVec.eq_of_getLsbD_eq
  intro i hi
  simp only [flagX, Ccr.getLsbD_put, getLsbD_orIf, BitVec.getLsbD_and]
  interval_cases i <;> simp [ngCcrV, ngCcrC, ngCcrN, ngCcrZ]

end NeoRecomp
