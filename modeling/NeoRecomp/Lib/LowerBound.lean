import Mathlib.Data.List.GetD
import Mathlib.Tactic.ByContra

/-!
# Binary search for a lower bound

The half-open interval loop that finds the first position of a sorted list whose key is not below
a given one.
-/

namespace NeoRecomp

/-- Search in `[lo, hi)` for the first key that is at least `x`.  Every turn shortens the interval,
so `hi - lo` turns of fuel are enough. -/
def lowerBound (keys : List Nat) (x : Nat) : Nat → Nat → Nat → Nat
  | 0, lo, _ => lo
  | fuel + 1, lo, hi =>
      if lo < hi then
        let mid := lo + (hi - lo) / 2
        if keys.getD mid 0 < x then lowerBound keys x fuel (mid + 1) hi
        else lowerBound keys x fuel lo mid
      else lo

/-- Position `k` splits the keys into those below `x` and the rest. -/
def Splits (keys : List Nat) (x k : Nat) : Prop :=
  (∀ j < k, keys.getD j 0 < x) ∧ ∀ j, k ≤ j → j < keys.length → x ≤ keys.getD j 0

theorem getD_mono {keys : List Nat} (hs : keys.Pairwise (· ≤ ·)) {i j : Nat} (hij : i ≤ j)
    (hj : j < keys.length) : keys.getD i 0 ≤ keys.getD j 0 := by
  have hi : i < keys.length := by omega
  rw [List.getD_eq_getElem _ _ hi, List.getD_eq_getElem _ _ hj]
  rcases Nat.lt_or_eq_of_le hij with h | rfl
  · exact List.pairwise_iff_getElem.mp hs i j hi hj h
  · exact Nat.le_refl _

/-- The loop invariant: everything left of `lo` is below `x`, nothing from `hi` on is. -/
theorem lowerBound_splits {keys : List Nat} (hs : keys.Pairwise (· ≤ ·)) (x fuel : Nat) {lo hi : Nat}
    (hlo : ∀ j < lo, keys.getD j 0 < x) (hhi : ∀ j, hi ≤ j → j < keys.length → x ≤ keys.getD j 0)
    (hle : lo ≤ hi) (hlen : hi ≤ keys.length) (hf : hi - lo ≤ fuel) :
    Splits keys x (lowerBound keys x fuel lo hi) ∧ lowerBound keys x fuel lo hi ≤ keys.length := by
  induction fuel generalizing lo hi with
  | zero =>
    obtain rfl : lo = hi := by omega
    exact ⟨⟨hlo, hhi⟩, hlen⟩
  | succ fuel ih =>
    unfold lowerBound
    by_cases h : lo < hi
    · rw [if_pos h]
      dsimp only
      have hmid : lo + (hi - lo) / 2 < hi := by omega
      generalize hm : lo + (hi - lo) / 2 = mid at hmid ⊢
      by_cases hx : keys.getD mid 0 < x
      · rw [if_pos hx]
        apply ih
        · intro j hj
          -- Sortedness carries the comparison at `mid` to the left.
          have := getD_mono hs (show j ≤ mid by omega) (by omega)
          omega
        · exact hhi
        · omega
        · exact hlen
        · omega
      · rw [if_neg hx]
        apply ih
        · exact hlo
        · intro j hj hj'
          have := getD_mono hs hj hj'
          omega
        · omega
        · omega
        · omega
    · rw [if_neg h]
      obtain rfl : lo = hi := by omega
      exact ⟨⟨hlo, hhi⟩, hlen⟩

/-- The search over the whole list. -/
theorem lowerBound_spec {keys : List Nat} (hs : keys.Pairwise (· ≤ ·)) (x : Nat) :
    Splits keys x (lowerBound keys x keys.length 0 keys.length) :=
  (lowerBound_splits hs x keys.length (by omega) (by omega) (Nat.zero_le _) (Nat.le_refl _)
    (by omega)).1

/-- A key that is present is found at the bound. -/
theorem Splits.getElem?_eq_some {keys : List Nat} (hs : keys.Pairwise (· ≤ ·)) {x k : Nat}
    (hk : Splits keys x k) (hx : x ∈ keys) : keys[k]? = some x := by
  obtain ⟨j, hj, rfl⟩ := List.mem_iff_getElem.mp hx
  have hkj : k ≤ j := by
    by_contra h
    have := hk.1 j (by omega)
    rw [List.getD_eq_getElem _ _ hj] at this
    omega
  have hklen : k < keys.length := by omega
  rw [List.getElem?_eq_getElem hklen]
  have h1 := hk.2 k (Nat.le_refl _) hklen
  have h2 := getD_mono hs hkj hj
  rw [List.getD_eq_getElem _ _ hj] at h2
  rw [List.getD_eq_getElem _ _ hklen] at h1 h2
  have : keys[k] = keys[j] := by omega
  rw [this]

end NeoRecomp
