import Mathlib.Data.Nat.Digits.Defs
import Mathlib.Tactic.LinearCombination
import Mathlib.Tactic.Ring

/-!
# Addition and subtraction digit by digit

Numbers as lists of digits to a base `B`, the least significant first, and the digit-by-digit addition
or subtraction that passes a carry or borrow along.  The sign `s` is `1` for an addition and `-1` for
a subtraction.
-/

namespace BitArith

variable {B : Nat} {s : Int}

/-- The exact value of one digit of the operation. -/
def digitExact (s : Int) (c : Bool) (p : Nat × Nat) : Int := p.1 + s * (p.2 + c.toNat)

/-- One digit: the exact value modulo the base, and whether it was no digit. -/
def digitStep (B : Nat) (s : Int) (c : Bool) (p : Nat × Nat) : Nat × Bool :=
  ((digitExact s c p % B).toNat, decide (¬ (0 ≤ digitExact s c p ∧ digitExact s c p < B)))

/-- All digits, with the carry passed along. -/
def digitChain (B : Nat) (s : Int) : Bool → List (Nat × Nat) → List Nat × Bool
  | c, [] => ([], c)
  | c, p :: ps =>
      let rest := digitChain B s (digitStep B s c p).2 ps
      ((digitStep B s c p).1 :: rest.1, rest.2)

theorem length_digitChain (c : Bool) (ps : List (Nat × Nat)) :
    (digitChain B s c ps).1.length = ps.length := by
  induction ps generalizing c with
  | nil => rfl
  | cons p ps ih => rw [digitChain, List.length_cons, List.length_cons, ih]

theorem digitStep_lt (hB : 0 < B) (c : Bool) (p : Nat × Nat) : (digitStep B s c p).1 < B := by
  have hpos : (0 : Int) < B := by exact_mod_cast hB
  have hnonneg := Int.emod_nonneg (digitExact s c p) hpos.ne'
  have hlt := Int.emod_lt_of_pos (digitExact s c p) hpos
  rw [digitStep]
  omega

theorem digitChain_lt (hB : 0 < B) (c : Bool) (ps : List (Nat × Nat)) :
    ∀ d ∈ (digitChain B s c ps).1, d < B := by
  induction ps generalizing c with
  | nil => exact List.forall_mem_nil _
  | cons p ps ih => exact List.forall_mem_cons.mpr ⟨digitStep_lt hB c p, ih _⟩

/-- `Nat.ofDigits_lt_base_pow_length` with the base 1 included. -/
theorem ofDigits_lt_pow {ds : List Nat} (h : ∀ d ∈ ds, d < B) :
    Nat.ofDigits B ds < B ^ ds.length := by
  induction ds with
  | nil => simp
  | cons d ds ih =>
    obtain ⟨hd, hds⟩ := List.forall_mem_cons.mp h
    rw [Nat.ofDigits_cons, List.length_cons, pow_succ']
    calc d + B * Nat.ofDigits B ds
        < B + B * Nat.ofDigits B ds := Nat.add_lt_add_right hd _
      _ = B * (Nat.ofDigits B ds + 1) := by ring
      _ ≤ B * B ^ ds.length := Nat.mul_le_mul_left _ (ih hds)

section Signed
variable (hs : s = 1 ∨ s = -1)
include hs

/-- The exact value is off by at most one base, in the direction of the sign. -/
theorem digitStep_value (c : Bool) {p : Nat × Nat} (h1 : p.1 < B) (h2 : p.2 < B) :
    ((digitStep B s c p).1 : Int) + s * B * (digitStep B s c p).2.toNat = digitExact s c p := by
  have hc : c.toNat ≤ 1 := Bool.toNat_le c
  have hpos : (0 : Int) < B := by omega
  have hnonneg := Int.emod_nonneg (digitExact s c p) hpos.ne'
  simp only [digitStep, Int.toNat_of_nonneg hnonneg]
  by_cases hfit : 0 ≤ digitExact s c p ∧ digitExact s c p < B
  · rw [Int.emod_eq_of_lt hfit.1 hfit.2]
    simp [hfit]
  · simp only [hfit, not_false_eq_true, decide_true, Bool.toNat_true]
    rcases hs with rfl | rfl
    · simp only [digitExact] at hfit ⊢
      rw [← Int.sub_emod_right, Int.emod_eq_of_lt] <;> omega
    · simp only [digitExact] at hfit ⊢
      rw [← Int.add_emod_right, Int.emod_eq_of_lt] <;> omega

theorem digitChain_value (c : Bool) {ps : List (Nat × Nat)}
    (hps : ∀ p ∈ ps, p.1 < B ∧ p.2 < B) :
    ((Nat.ofDigits B (digitChain B s c ps).1 : Nat) : Int) +
        s * B ^ ps.length * (digitChain B s c ps).2.toNat =
      (Nat.ofDigits B (ps.map Prod.fst) : Nat) +
        s * ((Nat.ofDigits B (ps.map Prod.snd) : Nat) + c.toNat) := by
  induction ps generalizing c with
  | nil => simp [digitChain, Nat.ofDigits_nil]
  | cons p ps ih =>
    obtain ⟨⟨h1, h2⟩, hps⟩ := List.forall_mem_cons.mp hps
    have hstep := digitStep_value hs c h1 h2
    have hrest := ih (digitStep B s c p).2 hps
    simp only [digitChain, Nat.ofDigits_cons, List.map_cons, List.length_cons, pow_succ,
      digitExact] at hstep hrest ⊢
    simp only [Nat.cast_add, Nat.cast_mul]
    linear_combination hstep + (B : Int) * hrest

/-- The digits hold the exact result modulo `B^n`, and the last carry says that it did not fit. -/
theorem digitChain_exact (hB : 0 < B) (c : Bool) {ps : List (Nat × Nat)}
    (hps : ∀ p ∈ ps, p.1 < B ∧ p.2 < B) {e : Int}
    (he : e = (Nat.ofDigits B (ps.map Prod.fst) : Nat) +
      s * ((Nat.ofDigits B (ps.map Prod.snd) : Nat) + c.toNat)) :
    ((Nat.ofDigits B (digitChain B s c ps).1 : Nat) : Int) = e % B ^ ps.length ∧
      (digitChain B s c ps).2 = decide (¬ (0 ≤ e ∧ e < B ^ ps.length)) := by
  have hval := digitChain_value hs c hps
  have hlt := ofDigits_lt_pow (digitChain_lt (s := s) hB c ps)
  rw [length_digitChain] at hlt
  have hlt' : ((Nat.ofDigits B (digitChain B s c ps).1 : Nat) : Int) < B ^ ps.length := by
    exact_mod_cast hlt
  have hnonneg := Int.natCast_nonneg (Nat.ofDigits B (digitChain B s c ps).1 : Nat)
  rw [Bool.eq_iff_iff, decide_eq_true_iff]
  generalize ((Nat.ofDigits B (digitChain B s c ps).1 : Nat) : Int) = r at hval hlt' hnonneg ⊢
  generalize (B : Int) ^ ps.length = M at hval hlt' ⊢
  rw [← he] at hval
  cases hcarry : (digitChain B s c ps).2 <;> rw [hcarry] at hval
  · simp only [Bool.toNat_false, Int.natCast_zero, mul_zero, add_zero] at hval
    constructor
    · rw [← hval, Int.emod_eq_of_lt hnonneg hlt']
    · simp only [Bool.false_eq_true, false_iff, not_not]
      omega
  · simp only [Bool.toNat_true, Int.natCast_one, mul_one] at hval
    constructor
    · rcases hs with rfl | rfl
      · rw [← hval, one_mul, Int.add_emod_right, Int.emod_eq_of_lt hnonneg hlt']
      · rw [← hval, neg_one_mul, ← Int.sub_eq_add_neg, Int.sub_emod_right,
          Int.emod_eq_of_lt hnonneg hlt']
    · simp only [true_iff]
      rcases hs with rfl | rfl <;> omega

end Signed

end BitArith
