import Mathlib.Data.BitVec

/-!
# Moving a word bit by bit

One-place moves of a word with a bit coming in at either end, and the shifts and rotations by a
count as repetitions of them.
-/

namespace BitArith

variable {w : Nat}

/-- Move right by one place, `b` coming in at the top; `BitVec.shiftConcat` moves left. -/
def shiftInTop (b : Bool) (v : BitVec w) : BitVec w := (BitVec.cons b v).extractLsb' 1 w

theorem getLsbD_shiftInTop (b : Bool) (v : BitVec w) (i : Nat) :
    (shiftInTop b v).getLsbD i = if i + 1 = w then b else v.getLsbD (i + 1) := by
  rw [shiftInTop, BitVec.getLsbD_extractLsb', BitVec.getLsbD_cons, Nat.add_comm 1 i]
  by_cases hi : i < w
  · rw [decide_eq_true hi, Bool.true_and]
  · rw [decide_eq_false hi, Bool.false_and, if_neg (by omega),
      BitVec.getLsbD_of_ge v (i + 1) (by omega)]

/-! ## Shifts -/

theorem shiftLeft_succ (v : BitVec w) (n : Nat) :
    v <<< (n + 1) = (v <<< n).shiftConcat false := by
  apply BitVec.eq_of_getLsbD_eq
  intro i hi
  rw [BitVec.shiftLeft_add, BitVec.getLsbD_shiftConcat, BitVec.getLsbD_shiftLeft,
    decide_eq_true hi]
  by_cases h : i = 0
  · simp [h]
  · simp [h, show ¬ i < 1 by omega]

theorem shiftRight_succ (v : BitVec w) (n : Nat) :
    v >>> (n + 1) = shiftInTop false (v >>> n) := by
  apply BitVec.eq_of_getLsbD_eq
  intro i hi
  rw [BitVec.shiftRight_add, getLsbD_shiftInTop, BitVec.getLsbD_ushiftRight, Nat.add_comm 1 i]
  split_ifs with h
  · rw [BitVec.getLsbD_of_ge _ _ (by omega)]
  · rfl

theorem sshiftRight_succ (v : BitVec w) (n : Nat) :
    v.sshiftRight (n + 1) = shiftInTop (v.sshiftRight n).msb (v.sshiftRight n) := by
  apply BitVec.eq_of_getLsbD_eq
  intro i hi
  rw [BitVec.sshiftRight_add, getLsbD_shiftInTop, BitVec.getLsbD_sshiftRight,
    decide_eq_false (show ¬ w ≤ i by omega), Bool.not_false, Bool.true_and, Nat.add_comm 1 i]
  by_cases h : i + 1 = w
  · rw [if_pos h, if_neg (by omega)]
  · rw [if_neg h, if_pos (by omega)]

/-! ## Rotations -/

theorem succ_mod (hw : 0 < w) (n : Nat) :
    (n + 1) % w = if n % w + 1 = w then 0 else n % w + 1 := by
  have hlt := Nat.mod_lt n hw
  rw [Nat.add_mod]
  split_ifs with h
  · by_cases h1 : w = 1
    · subst h1
      omega
    · rw [Nat.mod_eq_of_lt (show 1 < w by omega), h, Nat.mod_self]
  · rw [Nat.mod_eq_of_lt (show 1 < w by omega), Nat.mod_eq_of_lt (by omega)]

/-- Where a bit of a left rotation comes from. -/
theorem getLsbD_rotateLeft_eq (v : BitVec w) (n : Nat) {i : Nat} (hi : i < w) :
    (v.rotateLeft n).getLsbD i = v.getLsbD (if i < n % w then w - n % w + i else i - n % w) := by
  rw [BitVec.getLsbD_rotateLeft, decide_eq_true hi, Bool.true_and, Bool.cond_decide]
  split_ifs <;> rfl

/-- Where a bit of a right rotation comes from. -/
theorem getLsbD_rotateRight_eq (v : BitVec w) (n : Nat) {i : Nat} (hi : i < w) :
    (v.rotateRight n).getLsbD i =
      v.getLsbD (if i < w - n % w then n % w + i else i - (w - n % w)) := by
  rw [BitVec.getLsbD_rotateRight, decide_eq_true hi, Bool.true_and, Bool.cond_decide]
  split_ifs <;> rfl

theorem rotateLeft_zero (v : BitVec w) : v.rotateLeft 0 = v := by
  apply BitVec.eq_of_getLsbD_eq
  intro i hi
  rw [getLsbD_rotateLeft_eq v 0 hi, Nat.zero_mod, if_neg (Nat.not_lt_zero i), Nat.sub_zero]

theorem rotateRight_zero (v : BitVec w) : v.rotateRight 0 = v := by
  apply BitVec.eq_of_getLsbD_eq
  intro i hi
  rw [getLsbD_rotateRight_eq v 0 hi, Nat.zero_mod, Nat.sub_zero, if_pos hi, Nat.zero_add]

theorem rotateLeft_succ (v : BitVec w) (n : Nat) :
    v.rotateLeft (n + 1) = (v.rotateLeft n).shiftConcat (v.rotateLeft n).msb := by
  apply BitVec.eq_of_getLsbD_eq
  intro i hi
  have hw : 0 < w := by omega
  have hlt := Nat.mod_lt n hw
  rw [BitVec.getLsbD_shiftConcat, BitVec.msb_eq_getLsbD_last, decide_eq_true hi, Bool.true_and,
    getLsbD_rotateLeft_eq v (n + 1) hi, getLsbD_rotateLeft_eq v n (show w - 1 < w by omega),
    getLsbD_rotateLeft_eq v n (show i - 1 < w by omega), succ_mod hw]
  split_ifs <;> congr 1 <;> omega

theorem rotateRight_succ (v : BitVec w) (n : Nat) :
    v.rotateRight (n + 1) = shiftInTop ((v.rotateRight n).getLsbD 0) (v.rotateRight n) := by
  apply BitVec.eq_of_getLsbD_eq
  intro i hi
  have hw : 0 < w := by omega
  have hlt := Nat.mod_lt n hw
  rw [getLsbD_shiftInTop, getLsbD_rotateRight_eq v (n + 1) hi, getLsbD_rotateRight_eq v n hw,
    succ_mod hw]
  by_cases h : i + 1 = w
  · rw [if_pos h]
    congr 1
    split_ifs <;> omega
  · rw [if_neg h, getLsbD_rotateRight_eq v n (show i + 1 < w by omega)]
    congr 1
    split_ifs <;> omega

/-! ## Rotations through an extra top bit -/

section Extend
variable (b : Bool) (c : BitVec (w + 1))

theorem setWidth_shiftConcat : (c.shiftConcat b).setWidth w = (c.setWidth w).shiftConcat b := by
  apply BitVec.eq_of_getLsbD_eq
  intro i hi
  simp only [BitVec.getLsbD_setWidth, BitVec.getLsbD_shiftConcat, hi, decide_true, Bool.true_and,
    decide_eq_true (show i < w + 1 by omega), decide_eq_true (show i - 1 < w by omega)]

theorem msb_shiftConcat (hw : 0 < w) : (c.shiftConcat b).msb = (c.setWidth w).msb := by
  rw [BitVec.msb_eq_getLsbD_last, BitVec.msb_eq_getLsbD_last, BitVec.getLsbD_shiftConcat,
    BitVec.getLsbD_setWidth, decide_eq_true (show w + 1 - 1 < w + 1 by omega),
    decide_eq_true (show w - 1 < w by omega), if_neg (by omega), Nat.add_sub_cancel]

theorem setWidth_shiftInTop : (shiftInTop b c).setWidth w = shiftInTop c.msb (c.setWidth w) := by
  apply BitVec.eq_of_getLsbD_eq
  intro i hi
  rw [BitVec.getLsbD_setWidth, getLsbD_shiftInTop, getLsbD_shiftInTop, decide_eq_true hi,
    Bool.true_and, if_neg (by omega), BitVec.msb_eq_getLsbD_last, Nat.add_sub_cancel]
  split_ifs with h
  · rw [h]
  · rw [BitVec.getLsbD_setWidth, decide_eq_true (show i + 1 < w by omega), Bool.true_and]

theorem msb_shiftInTop : (shiftInTop b c).msb = b := by
  rw [BitVec.msb_eq_getLsbD_last, getLsbD_shiftInTop, Nat.add_sub_cancel, if_pos rfl]

theorem getLsbD_setWidth_zero (hw : 0 < w) : (c.setWidth w).getLsbD 0 = c.getLsbD 0 := by
  rw [BitVec.getLsbD_setWidth, decide_eq_true hw, Bool.true_and]

end Extend

end BitArith
