import Mathlib.Data.List.Basic
import Mathlib.Data.List.Induction
import Mathlib.Logic.Function.Basic

/-!
# Painted buffers

Writes to a buffer, one after the other.  An index holds the value of the last write that meets it,
or what it held before if none does.
-/

namespace Paint

variable {ι α β : Type*} [DecidableEq ι]

def paint (writes : List (ι × α)) (out : ι → α) : ι → α :=
  writes.foldl (fun out write => Function.update out write.1 write.2) out

def lastWrite (writes : List (ι × α)) (i : ι) : Option α :=
  ((writes.filter fun write => write.1 = i).map (·.2)).getLast?

variable {writes writes' : List (ι × α)} {out : ι → α} {i : ι} {a : α}

/-! ## One list of writes -/

theorem paint_append : paint (writes ++ writes') out = paint writes' (paint writes out) :=
  List.foldl_append

theorem lastWrite_append :
    lastWrite (writes ++ writes') i = (lastWrite writes' i).or (lastWrite writes i) := by
  unfold lastWrite
  rw [List.filter_append, List.map_append, List.getLast?_append]

theorem lastWrite_singleton {j : ι} : lastWrite [(j, a)] i = if j = i then some a else none := by
  unfold lastWrite
  rw [List.filter_singleton]
  by_cases h : j = i
  · rw [if_pos h, decide_eq_true h]
    rfl
  · rw [if_neg h, decide_eq_false h]
    rfl

variable (writes out i) in
theorem paint_apply : paint writes out i = (lastWrite writes i).getD (out i) := by
  -- by the last write, which is the one that counts
  induction writes using List.reverseRecOn with
  | nil => rfl
  | append_singleton writes write ih =>
    rw [paint_append, lastWrite_append, lastWrite_singleton]
    show Function.update (paint writes out) write.1 write.2 i = _
    by_cases h : write.1 = i
    · rw [if_pos h, ← h, Function.update_self]
      rfl
    · rw [if_neg h, Function.update_of_ne (Ne.symm h), ih]
      rfl

theorem lastWrite_eq_none_iff : lastWrite writes i = none ↔ ∀ a, (i, a) ∉ writes := by
  unfold lastWrite
  rw [List.getLast?_eq_none_iff, List.map_eq_nil_iff, List.filter_eq_nil_iff]
  constructor
  · intro h a hmem
    exact h (i, a) hmem (decide_eq_true rfl)
  · intro h write hmem heq
    rw [decide_eq_true_eq] at heq
    exact h write.2 (heq ▸ hmem)

theorem mem_of_lastWrite (h : lastWrite writes i = some a) : (i, a) ∈ writes := by
  have hmem := List.mem_of_getLast? h
  rw [List.mem_map] at hmem
  obtain ⟨write, hwrite, rfl⟩ := hmem
  rw [List.mem_filter, decide_eq_true_eq] at hwrite
  rw [← hwrite.2]
  exact hwrite.1

/-- Writes to an index that agree, and are there. -/
theorem lastWrite_of_forall (hmem : (i, a) ∈ writes) (hall : ∀ b, (i, b) ∈ writes → b = a) :
    lastWrite writes i = some a := by
  cases h : lastWrite writes i with
  | none => exact absurd hmem (lastWrite_eq_none_iff.mp h a)
  | some b => rw [hall b (mem_of_lastWrite h)]

/-! ## Loops -/

/-- A loop whose turns paint paints what all of them write. -/
theorem foldl_eq_paint {step : (ι → α) → β → (ι → α)} {turn : β → List (ι × α)} (turns : List β)
    (hstep : ∀ x ∈ turns, ∀ out, step out x = paint (turn x) out) (out : ι → α) :
    turns.foldl step out = paint (turns.flatMap turn) out := by
  induction turns generalizing out with
  | nil => rfl
  | cons x turns ih =>
    rw [List.foldl_cons, hstep x List.mem_cons_self, List.flatMap_cons, paint_append]
    exact ih (fun z hz => hstep z (List.mem_cons_of_mem x hz)) _

variable {turn : β → List (ι × α)} {turns : List β}

theorem lastWrite_flatMap_none :
    lastWrite (turns.flatMap turn) i = none ↔ ∀ x ∈ turns, lastWrite (turn x) i = none := by
  simp only [lastWrite_eq_none_iff, List.mem_flatMap]
  constructor
  · intro h x hx a hmem
    exact h a ⟨x, hx, hmem⟩
  · rintro h a ⟨x, hx, hmem⟩
    exact h x hx a hmem

/-- The last turn that meets an index. -/
theorem lastWrite_flatMap_some :
    lastWrite (turns.flatMap turn) i = some a ↔ ∃ before x after, turns = before ++ x :: after ∧
      lastWrite (turn x) i = some a ∧ ∀ z ∈ after, lastWrite (turn z) i = none := by
  induction turns using List.reverseRecOn with
  | nil =>
    constructor
    · intro h
      cases h
    · rintro ⟨before, x, after, h, -⟩
      exact absurd h.symm (List.append_ne_nil_of_right_ne_nil _ (List.cons_ne_nil _ _))
  | append_singleton turns last ih =>
    rw [List.flatMap_append, List.flatMap_singleton, lastWrite_append]
    cases hlast : lastWrite (turn last) i with
    | some b =>
      rw [Option.some_or]
      constructor
      · rintro ⟨⟩
        exact ⟨turns, last, [], rfl, hlast, fun z hz => absurd hz List.not_mem_nil⟩
      · rintro ⟨before, x, after, hsplit, hx, hafter⟩
        rcases List.eq_nil_or_concat after with rfl | ⟨after, z, rfl⟩
        · obtain ⟨-, hx'⟩ := List.append_inj' hsplit rfl
          rw [List.singleton_inj.mp hx', hx] at hlast
          exact hlast.symm
        · -- a later turn than `x` writes: the last one
          rw [List.concat_eq_append, ← List.cons_append, ← List.append_assoc] at hsplit
          obtain ⟨-, hz⟩ := List.append_inj' hsplit rfl
          have hnone := hafter z (by rw [List.concat_eq_append]; simp)
          rw [← List.singleton_inj.mp hz, hlast] at hnone
          cases hnone
    | none =>
      rw [Option.none_or, ih]
      constructor
      · rintro ⟨before, x, after, rfl, hx, hafter⟩
        refine ⟨before, x, after ++ [last], by simp, hx, fun z hz => ?_⟩
        rcases List.mem_append.mp hz with hz | hz
        · exact hafter z hz
        · rw [List.mem_singleton.mp hz]
          exact hlast
      · rintro ⟨before, x, after, hsplit, hx, hafter⟩
        rcases List.eq_nil_or_concat after with rfl | ⟨after, z, rfl⟩
        · obtain ⟨-, hx'⟩ := List.append_inj' hsplit rfl
          rw [List.singleton_inj.mp hx', hx] at hlast
          cases hlast
        · rw [List.concat_eq_append, ← List.cons_append, ← List.append_assoc] at hsplit
          obtain ⟨hturns, -⟩ := List.append_inj' hsplit rfl
          refine ⟨before, x, after, hturns, hx, fun y hy => hafter y ?_⟩
          rw [List.concat_eq_append]
          exact List.mem_append_left [z] hy

/-- Only one turn meets the index. -/
theorem lastWrite_flatMap_only {x : β} (hx : x ∈ turns)
    (honly : ∀ z ∈ turns, z ≠ x → lastWrite (turn z) i = none) :
    lastWrite (turns.flatMap turn) i = lastWrite (turn x) i := by
  cases h : lastWrite (turns.flatMap turn) i with
  | none => exact (lastWrite_flatMap_none.mp h x hx).symm
  | some a =>
    obtain ⟨before, y, after, hsplit, hy, -⟩ := lastWrite_flatMap_some.mp h
    by_cases heq : y = x
    · rw [← heq, hy]
    · rw [honly y (by rw [hsplit]; simp) heq] at hy
      cases hy

/-! ## Rows of a raster -/

section Rows
variable {stride x y x' y' : Nat}

theorem row_inj (hx : x < stride) (hx' : x' < stride) (h : y * stride + x = y' * stride + x') :
    y = y' ∧ x = x' := by
  have hrow : y = y' := by
    have hdiv := congrArg (· / stride) h
    simp only [Nat.add_comm (_ * stride), Nat.add_mul_div_right _ _ (Nat.zero_lt_of_lt hx),
      Nat.div_eq_of_lt hx, Nat.div_eq_of_lt hx', Nat.zero_add] at hdiv
    exact hdiv
  subst hrow
  exact ⟨rfl, Nat.add_left_cancel h⟩

theorem row_le (hy : y ≤ y') (hx : x ≤ x') : y * stride + x ≤ y' * stride + x' :=
  Nat.add_le_add (Nat.mul_le_mul_right stride hy) hx

end Rows

end Paint
