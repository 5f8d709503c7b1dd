import Mathlib.Tactic.Linarith
import NeoRecomp.Lib.Overflow

/-!
# Truncating division

The quotient and remainder of a division that truncates towards zero, by the equation, the bound and
the sign that determine them.
-/

namespace BitArith

/-- `q` and `r` are quotient and remainder of `a` by `b`. -/
structure IsQuotient (a b q r : Int) : Prop where
  eq : a = q * b + r
  lt : r.natAbs < b.natAbs
  sign : r = 0 ∨ r.sign = a.sign

theorem isQuotient_tdiv (a : Int) {b : Int} (hb : b ≠ 0) :
    IsQuotient a b (a.tdiv b) (a.tmod b) where
  eq := (Int.tdiv_mul_add_tmod a b).symm
  lt := by
    rw [Int.natAbs_tmod]
    exact Nat.mod_lt _ (Int.natAbs_pos.mpr hb)
  sign := by
    rw [Int.sign_tmod]
    split_ifs with h
    · exact .inl (Int.tmod_eq_zero_of_dvd h)
    · exact .inr rfl

/-- The division of natural numbers. -/
theorem isQuotient_div (a : Nat) {b : Nat} (hb : b ≠ 0) :
    IsQuotient a b ((a / b : Nat) : Int) ((a % b : Nat) : Int) := by
  have h := isQuotient_tdiv (a : Int) (b := b) (by omega)
  rwa [← Int.ofNat_tdiv, ← Int.ofNat_tmod] at h

/-- There is one quotient and one remainder. -/
theorem IsQuotient.unique {a b q r q' r' : Int} (h : IsQuotient a b q r)
    (h' : IsQuotient a b q' r') : q' = q ∧ r' = r := by
  have hb : b ≠ 0 := by
    have := h.lt
    omega
  -- two remainders of one sign differ by less than the divisor
  have hdiff : (q - q') * b = r' - r := by linarith [h.eq, h'.eq, Int.sub_mul q q' b]
  have hlt : (r' - r).natAbs < b.natAbs := by
    have h1 := h.lt
    have h2 := h'.lt
    rcases h.sign with h0 | hs
    · omega
    · rcases h'.sign with h0' | hs'
      · omega
      · rw [← hs'] at hs
        rcases lt_trichotomy r 0 with hr | hr | hr
        · rw [Int.sign_eq_neg_one_of_neg hr] at hs
          have := Int.sign_eq_neg_one_iff_neg.mp hs.symm
          omega
        · omega
        · rw [Int.sign_eq_one_of_pos hr] at hs
          have := Int.sign_eq_one_iff_pos.mp hs.symm
          omega
  have hq : q - q' = 0 := by
    by_contra hne
    have hge : b.natAbs ≤ ((q - q') * b).natAbs := by
      rw [Int.natAbs_mul]
      exact Nat.le_mul_of_pos_left _ (Int.natAbs_pos.mpr hne)
    rw [hdiff] at hge
    omega
  rw [hq, Int.zero_mul] at hdiff
  exact ⟨by omega, by omega⟩

/-- Division does not make a number larger. -/
theorem IsQuotient.natAbs_le {a b q r : Int} (h : IsQuotient a b q r) :
    q.natAbs ≤ a.natAbs := by
  have hb : b ≠ 0 := by
    have := h.lt
    omega
  obtain ⟨rfl, -⟩ := (isQuotient_tdiv a hb).unique h
  exact Int.natAbs_tdiv_le_natAbs a b

end BitArith
