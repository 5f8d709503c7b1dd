import Mathlib.Data.BitVec

/-!
# Carry and signed overflow of fixed-width words

The exact integer result of an addition or subtraction against the word that holds it: when it fits,
and how the sign bit of the usual xor expressions tells.
-/

namespace BitArith

variable {w : Nat}

/-- An exact value that a two's-complement word of width `w` can hold. -/
def FitsSigned (w : Nat) (z : Int) : Prop := -2 ^ (w - 1) ≤ z ∧ z < 2 ^ (w - 1)

/-- An exact value that an unsigned word of width `w` can hold. -/
def FitsUnsigned (w : Nat) (z : Int) : Prop := 0 ≤ z ∧ z < 2 ^ w

instance (w : Nat) (z : Int) : Decidable (FitsSigned w z) := inferInstanceAs (Decidable (_ ∧ _))
instance (w : Nat) (z : Int) : Decidable (FitsUnsigned w z) := inferInstanceAs (Decidable (_ ∧ _))

/-! ## Ranges -/

theorem two_pow_pred (hw : 0 < w) : (2 : Int) ^ w = 2 * 2 ^ (w - 1) := by
  obtain ⟨n, rfl⟩ : ∃ n, w = n + 1 := ⟨w - 1, by omega⟩
  rw [pow_succ, Nat.add_sub_cancel]
  omega

theorem toInt_fits (hw : 0 < w) (x : BitVec w) : FitsSigned w x.toInt := by
  have hlo := BitVec.le_two_mul_toInt (x := x)
  have hhi := BitVec.two_mul_toInt_lt (x := x)
  have hp := two_pow_pred hw
  exact ⟨by omega, by omega⟩

/-- The sign bit of a word built from an integer less than one modulus away. -/
theorem msb_ofInt (hw : 0 < w) (z : Int) (hlo : -2 ^ w ≤ z) (hhi : z < 2 ^ w) :
    (BitVec.ofInt w z).msb = true ↔ (-2 ^ (w - 1) ≤ z ∧ z < 0) ∨ 2 ^ (w - 1) ≤ z := by
  have hp := two_pow_pred hw
  have hcast : ((2 ^ w : Nat) : Int) = 2 ^ w := by push_cast; rfl
  rw [BitVec.msb_eq_toInt, decide_eq_true_eq, BitVec.toInt_ofInt,
    Int.bmod_neg_iff (by omega) (by omega), hcast, hp]
  omega

/-! ## Sums -/

theorem ofInt_add_carry (x y : BitVec w) (c : Bool) :
    BitVec.ofInt w (x.toInt + y.toInt + c.toNat) = x + y + BitVec.ofNat w c.toNat := by
  simp only [BitVec.ofInt_add, BitVec.ofInt_toInt, BitVec.ofInt_natCast]

/-- Overflow of an addition with carry in: the operands agree in sign and the result does not. -/
theorem add_carry_overflow (hw : 0 < w) (x y : BitVec w) (c : Bool) :
    (!(x.msb ^^ y.msb) && (x.msb ^^ (x + y + BitVec.ofNat w c.toNat).msb)) =
      decide (¬ FitsSigned w (x.toInt + y.toInt + c.toNat)) := by
  obtain ⟨hxlo, hxhi⟩ := toInt_fits hw x
  obtain ⟨hylo, hyhi⟩ := toInt_fits hw y
  have hp := two_pow_pred hw
  have hc : c.toNat ≤ 1 := Bool.toNat_le c
  have hsum := msb_ofInt hw (x.toInt + y.toInt + c.toNat) (by omega) (by omega)
  rw [ofInt_add_carry] at hsum
  have hx : x.msb = true ↔ x.toInt < 0 := by rw [BitVec.msb_eq_toInt, decide_eq_true_eq]
  have hy : y.msb = true ↔ y.toInt < 0 := by rw [BitVec.msb_eq_toInt, decide_eq_true_eq]
  have hxor : ∀ p q r : Bool, ((!(p ^^ q)) && (p ^^ r)) = true ↔
      ((p = true ↔ q = true) ∧ ¬(p = true ↔ r = true)) := by decide
  rw [Bool.eq_iff_iff, decide_eq_true_eq, hxor, hx, hy, hsum, FitsSigned]
  omega

theorem add_overflow (hw : 0 < w) (x y : BitVec w) :
    (!(x.msb ^^ y.msb) && (x.msb ^^ (x + y).msb)) =
      decide (¬ FitsSigned w (x.toInt + y.toInt)) := by
  have h := add_carry_overflow hw x y false
  simpa only [Bool.toNat_false, BitVec.add_zero, Int.natCast_zero, Int.add_zero] using h

/-- A carry added to one operand is seen in its signed value, except at the largest one. -/
theorem toInt_add_carry (hw : 0 < w) (y : BitVec w) (c : Bool) :
    (y + BitVec.ofNat w c.toNat).toInt =
      if c = true ∧ y.toInt = 2 ^ (w - 1) - 1 then -2 ^ (w - 1) else y.toInt + c.toNat := by
  obtain ⟨hlo, hhi⟩ := toInt_fits hw y
  have hp := two_pow_pred hw
  have hcast : ((2 ^ w : Nat) : Int) = 2 ^ w := by push_cast; rfl
  have hsum : y + BitVec.ofNat w c.toNat = BitVec.ofInt w (y.toInt + c.toNat) := by
    rw [BitVec.ofInt_add, BitVec.ofInt_toInt, BitVec.ofInt_natCast]
  rw [hsum, BitVec.toInt_ofInt]
  split
  · rename_i h
    obtain ⟨rfl, hy⟩ := h
    have hwrap : y.toInt + true.toNat = -2 ^ (w - 1) + ((2 ^ w : Nat) : Int) := by
      rw [hcast, hp, hy, Bool.toNat_true]
      omega
    rw [hwrap, Int.add_bmod_right, Int.bmod_eq_of_le] <;> omega
  · rename_i h
    have hc : c.toNat ≤ 1 := Bool.toNat_le c
    have hlt : y.toInt + c.toNat < 2 ^ (w - 1) := by
      cases c
      · simpa using hhi
      · simp only [true_and] at h
        simp only [Bool.toNat_true]
        omega
    rw [Int.bmod_eq_of_le] <;> omega

/-! ## Differences -/

theorem ofInt_sub (a b : Int) :
    BitVec.ofInt w (a - b) = BitVec.ofInt w a - BitVec.ofInt w b := by
  rw [Int.sub_eq_add_neg, BitVec.ofInt_add, BitVec.ofInt_neg, BitVec.sub_eq_add_neg]

/-- Overflow of a subtraction: the operands differ in sign and the result differs from the first. -/
theorem sub_overflow (x y : BitVec w) :
    ((x.msb ^^ y.msb) && (x.msb ^^ (x - y).msb)) =
      decide (¬ FitsSigned w (x.toInt - y.toInt)) := by
  have h : ((x.msb ^^ y.msb) && (x.msb ^^ (x - y).msb)) = x.ssubOverflow y := by
    rw [BitVec.ssubOverflow_eq]
    cases x.msb <;> cases y.msb <;> cases (x - y).msb <;> rfl
  rw [h, BitVec.ssubOverflow, ← Bool.decide_or, decide_eq_decide, FitsSigned]
  omega

/-- Negating a word overflows exactly when the word and its negation are both negative. -/
theorem neg_overflow (x : BitVec w) :
    (x.msb && (-x).msb) = decide (¬ FitsSigned w (-x.toInt)) := by
  have h := sub_overflow (0#w) x
  simpa only [BitVec.msb_zero, Bool.false_xor, BitVec.zero_sub, BitVec.toInt_zero,
    Int.zero_sub] using h

end BitArith
