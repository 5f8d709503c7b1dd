import Mathlib.Algebra.BigOperators.Group.Finset.Basic
import Mathlib.Algebra.BigOperators.Intervals
import Mathlib.Data.BitVec

/-!
# Tallies kept by difference

The sum of the weights of an array's cells, and a counter of some width that follows it: a write
takes the old cell's weight away and adds the new one's.  The peak of a list of counts is their
maximum.
-/

namespace NeoRecomp

open Finset

/-! ## Sums over the cells -/

section Tally
variable {α : Type} {weight : α → Nat} {cells : Nat → α} {n i : Nat} {a : α}

/-- The weights of the first `n` cells. -/
def tally (weight : α → Nat) (cells : Nat → α) (n : Nat) : Nat :=
  ∑ i ∈ Finset.range n, weight (cells i)

theorem tally_update (hi : i < n) :
    tally weight (Function.update cells i a) n + weight (cells i) =
      tally weight cells n + weight a := by
  have hmem : i ∈ Finset.range n := mem_range.mpr hi
  have hrest : ∀ j ∈ (Finset.range n).erase i,
      weight (Function.update cells i a j) = weight (cells j) := by
    intro j hj
    rw [Function.update_of_ne (ne_of_mem_erase hj)]
  unfold tally
  rw [← add_sum_erase _ (fun j => weight (Function.update cells i a j)) hmem,
    ← add_sum_erase _ (fun j => weight (cells j)) hmem, sum_congr rfl hrest,
    Function.update_self]
  omega

theorem tally_congr {other : Nat → α} (h : ∀ i < n, cells i = other i) :
    tally weight cells n = tally weight other n :=
  sum_congr rfl fun i hi => congrArg weight (h i (mem_range.mp hi))

/-- Cells of weight 0 or 1 are counted. -/
theorem tally_eq_card (p : α → Prop) [DecidablePred p] :
    tally (fun a => if p a then 1 else 0) cells n = #{i ∈ Finset.range n | p (cells i)} :=
  (card_filter _ _).symm

end Tally

/-! ## Counters -/

/-- A counter of `w` bits that is moved by the difference of two weights follows the tally. -/
theorem ofNat_tally_step {w before after old new : Nat} (h : after + old = before + new) :
    BitVec.ofNat w after = BitVec.ofNat w before - BitVec.ofNat w old + BitVec.ofNat w new := by
  have hsum : BitVec.ofNat w after + BitVec.ofNat w old =
      BitVec.ofNat w before + BitVec.ofNat w new := by
    rw [← BitVec.ofNat_add, h, BitVec.ofNat_add]
  rw [BitVec.sub_add_comm, ← hsum, BitVec.add_sub_cancel]

/-! ## Peaks -/

/-- The maximum of the counts, 0 before the first one. -/
def peakOf (counts : List Nat) : Nat := counts.foldr max 0

theorem peakOf_append (counts more : List Nat) :
    peakOf (counts ++ more) = max (peakOf counts) (peakOf more) := by
  unfold peakOf
  induction counts with
  | nil => exact (Nat.zero_max _).symm
  | cons count counts ih =>
    rw [List.cons_append, List.foldr_cons, ih, List.foldr_cons, Nat.max_assoc]

theorem peakOf_singleton (count : Nat) : peakOf [count] = count := Nat.max_zero count

end NeoRecomp
