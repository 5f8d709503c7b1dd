import NeoRecomp.Lib.Digits
import NeoRecomp.Lib.Overflow

/-!
# Multi-limb addition and subtraction

Numbers as lists of limbs, the least significant first, and the limb-by-limb addition or subtraction
that passes a carry or borrow along.  The sign `s` is `1` for an addition and `-1` for a subtraction.
-/

namespace BitArith

variable {w : Nat}

/-- The number a list of limbs stands for. -/
def limbsValue : List (BitVec w) → Nat
  | [] => 0
  | d :: ds => d.toNat + 2 ^ w * limbsValue ds

theorem limbsValue_eq_zero_iff (ds : List (BitVec w)) : limbsValue ds = 0 ↔ ∀ d ∈ ds, d = 0#w := by
  induction ds with
  | nil => simp [limbsValue]
  | cons d ds ih =>
    have hpos := Nat.two_pow_pos w
    have hd : d.toNat = 0 ↔ d = 0#w := by
      rw [← BitVec.toNat_inj, BitVec.toNat_ofNat, Nat.zero_mod]
    rw [limbsValue, Nat.add_eq_zero_iff, Nat.mul_eq_zero, hd, ih]
    simp only [hpos.ne', false_or, List.mem_cons, forall_eq_or_imp]

/-- The exact value of one limb of the operation. -/
def limbExact (s : Int) (c : Bool) (p : BitVec w × BitVec w) : Int :=
  p.1.toNat + s * (p.2.toNat + c.toNat)

/-- One limb: the exact value modulo `2^w`, and whether it did not fit. -/
def limbStep (s : Int) (c : Bool) (p : BitVec w × BitVec w) : BitVec w × Bool :=
  (BitVec.ofInt w (limbExact s c p), decide (¬ FitsUnsigned w (limbExact s c p)))

/-- All limbs, with the carry passed along. -/
def limbChain (s : Int) : Bool → List (BitVec w × BitVec w) → List (BitVec w) × Bool
  | c, [] => ([], c)
  | c, p :: ps =>
      let rest := limbChain s (limbStep s c p).2 ps
      ((limbStep s c p).1 :: rest.1, rest.2)

/-! ## Limbs as digits to the base `2^w` -/

theorem limbsValue_eq_ofDigits (ds : List (BitVec w)) :
    limbsValue ds = Nat.ofDigits (2 ^ w) (ds.map BitVec.toNat) := by
  induction ds with
  | nil => rfl
  | cons d ds ih => rw [limbsValue, ih, List.map_cons, Nat.ofDigits_cons]

/-- A pair of limbs as a pair of digits. -/
def limbDigits (p : BitVec w × BitVec w) : Nat × Nat := (p.1.toNat, p.2.toNat)

theorem digitStep_limbDigits (s : Int) (c : Bool) (p : BitVec w × BitVec w) :
    digitStep (2 ^ w) s c (limbDigits p) = ((limbStep s c p).1.toNat, (limbStep s c p).2) := by
  have hcast : ((2 ^ w : Nat) : Int) = 2 ^ w := by push_cast; rfl
  rw [digitStep, limbStep, BitVec.toNat_ofInt, hcast]
  rfl

theorem digitChain_limbDigits (s : Int) (c : Bool) (ps : List (BitVec w × BitVec w)) :
    digitChain (2 ^ w) s c (ps.map limbDigits) =
      ((limbChain s c ps).1.map BitVec.toNat, (limbChain s c ps).2) := by
  induction ps generalizing c with
  | nil => rfl
  | cons p ps ih => rw [List.map_cons, digitChain, digitStep_limbDigits, ih]; rfl

/-- The limbs hold the exact result modulo `2^(w n)`, and the last carry says that it did not fit. -/
theorem limbChain_exact {s : Int} (hs : s = 1 ∨ s = -1) (c : Bool) (ps : List (BitVec w × BitVec w))
    {e : Int}
    (he : e = limbsValue (ps.map Prod.fst) + s * (limbsValue (ps.map Prod.snd) + c.toNat)) :
    (limbsValue (limbChain s c ps).1 : Int) = e % 2 ^ (w * ps.length) ∧
      (limbChain s c ps).2 = decide (¬ FitsUnsigned (w * ps.length) e) := by
  have hdigits : ∀ p ∈ ps.map limbDigits, p.1 < 2 ^ w ∧ p.2 < 2 ^ w := by
    intro p hp
    obtain ⟨q, -, rfl⟩ := List.mem_map.mp hp
    exact ⟨q.1.isLt, q.2.isLt⟩
  have hfst : (ps.map limbDigits).map Prod.fst = (ps.map Prod.fst).map BitVec.toNat := by
    rw [List.map_map, List.map_map]
    rfl
  have hsnd : (ps.map limbDigits).map Prod.snd = (ps.map Prod.snd).map BitVec.toNat := by
    rw [List.map_map, List.map_map]
    rfl
  have h := digitChain_exact hs (Nat.two_pow_pos w) c hdigits (e := e) (by
    rw [he, hfst, hsnd, limbsValue_eq_ofDigits, limbsValue_eq_ofDigits])
  have hcast : ((2 ^ w : Nat) : Int) ^ ps.length = 2 ^ (w * ps.length) := by
    rw [pow_mul]
    push_cast
    rfl
  rw [digitChain_limbDigits, List.length_map, hcast, ← limbsValue_eq_ofDigits] at h
  exact h

end BitArith
