import Mathlib.Algebra.BigOperators.Group.List.Basic
import Mathlib.Algebra.GroupWithZero.Nat
import Mathlib.Logic.Function.Iterate

/-!
# Whole steps on a budget

Work that is paid for in units but done in steps of several units each: the step that crosses the
end of a budget is finished, and the units it took too many are a credit for the next budget.  Seen
one unit at a time, splitting a budget makes no difference.
-/

namespace Credit

variable {α : Type*} (step : α → α) (cost : α → Nat)

/-- One unit: it comes from the credit, or pays for the first unit of a step. -/
def tick (s : α × Nat) : α × Nat :=
  if s.2 = 0 then (step s.1, cost s.1 - 1) else (s.1, s.2 - 1)

/-- A budget of `n` units. -/
def advance (n : Nat) (s : α × Nat) : α × Nat := (tick step cost)^[n] s

/-- The states in which the steps of a budget are taken. -/
def steps : Nat → α × Nat → List α
  | 0, _ => []
  | n + 1, s => (if s.2 = 0 then [s.1] else []) ++ steps n (tick step cost s)

variable {step cost} {s : α × Nat} {a : α} {n m c : Nat}

/-! ## Split budgets -/

theorem advance_zero : advance step cost 0 s = s := rfl

theorem advance_succ : advance step cost (n + 1) s = advance step cost n (tick step cost s) :=
  Function.iterate_succ_apply ..

theorem advance_add : advance step cost (n + m) s = advance step cost m (advance step cost n s) := by
  unfold advance
  rw [Nat.add_comm, Function.iterate_add_apply]

theorem steps_add :
    steps step cost (n + m) s = steps step cost n s ++ steps step cost m (advance step cost n s) := by
  induction n generalizing s with
  | zero => rw [Nat.zero_add, advance_zero, steps, List.nil_append]
  | succ n ih => rw [Nat.succ_add, steps, ih, advance_succ, steps, List.append_assoc]

/-! ## Budgets as they are spent -/

theorem tick_credit : tick step cost (a, c + 1) = (a, c) := if_neg (Nat.succ_ne_zero c)

theorem tick_step : tick step cost (a, 0) = (step a, cost a - 1) := if_pos rfl

/-- A budget within the credit. -/
theorem advance_of_le (h : n ≤ c) : advance step cost n (a, c) = (a, c - n) := by
  induction n generalizing c with
  | zero => rfl
  | succ n ih =>
    obtain ⟨c, rfl⟩ := Nat.exists_eq_succ_of_ne_zero (Nat.ne_zero_of_lt h)
    rw [advance_succ, tick_credit, ih (Nat.le_of_succ_le_succ h), Nat.succ_sub_succ]

theorem steps_of_le (h : n ≤ c) : steps step cost n (a, c) = [] := by
  induction n generalizing c with
  | zero => rfl
  | succ n ih =>
    obtain ⟨c, rfl⟩ := Nat.exists_eq_succ_of_ne_zero (Nat.ne_zero_of_lt h)
    rw [steps, tick_credit, ih (Nat.le_of_succ_le_succ h), List.append_nil]
    exact if_neg (Nat.succ_ne_zero c)

/-- A budget beyond the credit, which it uses up first. -/
theorem advance_of_ge (h : c ≤ n) :
    advance step cost n (a, c) = advance step cost (n - c) (a, 0) := by
  have hsplit := @advance_add _ step cost (a, c) c (n - c)
  rwa [Nat.add_sub_cancel' h, advance_of_le (Nat.le_refl c), Nat.sub_self] at hsplit

theorem steps_of_ge (h : c ≤ n) : steps step cost n (a, c) = steps step cost (n - c) (a, 0) := by
  have hsplit := @steps_add _ step cost (a, c) c (n - c)
  rwa [Nat.add_sub_cancel' h, steps_of_le (Nat.le_refl c), advance_of_le (Nat.le_refl c),
    Nat.sub_self, List.nil_append] at hsplit

/-- A step that the budget does not outlast. -/
theorem advance_step (hn : n ≠ 0) (h : n ≤ cost a) :
    advance step cost n (a, 0) = (step a, cost a - n) := by
  obtain ⟨n, rfl⟩ := Nat.exists_eq_succ_of_ne_zero hn
  rw [advance_succ, tick_step, advance_of_le (by omega), Nat.sub_sub, Nat.add_comm]

theorem steps_step (hn : n ≠ 0) (h : n ≤ cost a) : steps step cost n (a, 0) = [a] := by
  obtain ⟨n, rfl⟩ := Nat.exists_eq_succ_of_ne_zero hn
  rw [steps, tick_step, steps_of_le (by omega), if_pos rfl, List.append_nil]

/-- A step that leaves some of the budget. -/
theorem advance_past (hc : cost a ≠ 0) (h : cost a ≤ n) :
    advance step cost n (a, 0) = advance step cost (n - cost a) (step a, 0) := by
  have hsplit := @advance_add _ step cost (a, 0) (cost a) (n - cost a)
  rwa [Nat.add_sub_cancel' h, advance_step hc (Nat.le_refl _), Nat.sub_self] at hsplit

theorem steps_past (hc : cost a ≠ 0) (h : cost a ≤ n) :
    steps step cost n (a, 0) = a :: steps step cost (n - cost a) (step a, 0) := by
  have hsplit := @steps_add _ step cost (a, 0) (cost a) (n - cost a)
  rwa [Nat.add_sub_cancel' h, advance_step hc (Nat.le_refl _), steps_step hc (Nat.le_refl _),
    Nat.sub_self] at hsplit

/-! ## Accounting -/

/-- What the steps cost is what was paid and the change of the credit. -/
theorem cost_steps (hcost : ∀ a, cost a ≠ 0) (n : Nat) (s : α × Nat) :
    ((steps step cost n s).map cost).sum + s.2 = n + (advance step cost n s).2 := by
  induction n generalizing s with
  | zero => rfl
  | succ n ih =>
    obtain ⟨a, c⟩ := s
    have hrest := ih (tick step cost (a, c))
    rw [advance_succ, steps, List.map_append, List.sum_append]
    cases c with
    | zero =>
      have hpos := hcost a
      rw [tick_step] at hrest ⊢
      rw [if_pos rfl, List.map_singleton, List.sum_singleton]
      dsimp only at hrest ⊢
      omega
    | succ c =>
      rw [tick_credit] at hrest ⊢
      rw [if_neg (Nat.succ_ne_zero c), List.map_nil, List.sum_nil]
      dsimp only at hrest ⊢
      omega

/-- A clock that every step moves by its cost shows what all of them cost. -/
theorem clock_advance {w : Nat} {clock : α → BitVec w}
    (hclock : ∀ a, clock (step a) = clock a + BitVec.ofNat w (cost a)) (n : Nat) (s : α × Nat) :
    clock (advance step cost n s).1 =
      clock s.1 + BitVec.ofNat w ((steps step cost n s).map cost).sum := by
  induction n generalizing s with
  | zero => exact (BitVec.add_zero _).symm
  | succ n ih =>
    obtain ⟨a, c⟩ := s
    have hrest := ih (tick step cost (a, c))
    rw [advance_succ, steps, List.map_append, List.sum_append, hrest]
    cases c with
    | zero =>
      rw [tick_step, if_pos rfl, List.map_singleton, List.sum_singleton, hclock, BitVec.ofNat_add,
        BitVec.add_assoc]
    | succ c =>
      rw [tick_credit, if_neg (Nat.succ_ne_zero c), List.map_nil, List.sum_nil, Nat.zero_add]

end Credit
