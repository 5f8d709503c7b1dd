import Mathlib.Data.List.Basic
import Mathlib.Data.Nat.ModEq

/-!
# Rings and event logs

A ring keeps `count` items in `cap` cells, from the cell `tail` on and modulo `cap`.  A log keeps
every item ever written and counts how many are gone from its front: it says what a bounded queue
that drops its oldest items has to return.
-/

namespace NeoRecomp

variable {α : Type}

/-! ## Rings -/

/-- The items of a ring, oldest first. -/
def ringItems (cap : Nat) (cells : Nat → α) (tail count : Nat) : List α :=
  (List.range count).map fun i => cells ((tail + i) % cap)

@[simp] theorem ringItems_length (cap : Nat) (cells : Nat → α) (tail count : Nat) :
    (ringItems cap cells tail count).length = count := by
  simp [ringItems]

/-- The cell at the tail is the first item, and moving the tail over it leaves the others. -/
theorem ringItems_succ (cap : Nat) (cells : Nat → α) (tail count : Nat) :
    ringItems cap cells tail (count + 1) =
      cells (tail % cap) :: ringItems cap cells ((tail + 1) % cap) count := by
  unfold ringItems
  rw [List.range_succ_eq_map, List.map_cons, List.map_map]
  congr 1
  apply List.map_congr_left
  intro i _
  simp [Nat.add_comm, Nat.add_left_comm]

/-- Only the cells below the capacity count. -/
theorem ringItems_congr {cap : Nat} (hcap : 0 < cap) {cells cells' : Nat → α}
    (h : ∀ i < cap, cells i = cells' i) (tail count : Nat) :
    ringItems cap cells tail count = ringItems cap cells' tail count := by
  unfold ringItems
  apply List.map_congr_left
  intro i _
  exact h _ (Nat.mod_lt _ hcap)

/-- Distinct offsets below the capacity name distinct cells. -/
theorem ring_index_injective {cap tail i j : Nat} (hi : i < cap) (hj : j < cap)
    (h : (tail + i) % cap = (tail + j) % cap) : i = j := by
  have hij : Nat.ModEq cap i j := Nat.ModEq.add_left_cancel' tail h
  rwa [Nat.ModEq, Nat.mod_eq_of_lt hi, Nat.mod_eq_of_lt hj] at hij

/-- Writing the cell after the last item of a ring that is not full appends an item. -/
theorem ringItems_push {cap count : Nat} (h : count < cap) (cells : Nat → α) (tail : Nat) (x : α) :
    ringItems cap (Function.update cells ((tail + count) % cap) x) tail (count + 1) =
      ringItems cap cells tail count ++ [x] := by
  unfold ringItems
  rw [List.range_succ, List.map_append, List.map_singleton, Function.update_self]
  congr 1
  apply List.map_congr_left
  intro i hi
  apply Function.update_of_ne
  intro he
  have hi := List.mem_range.mp hi
  have := ring_index_injective (by omega) h he
  omega

/-! ## Logs -/

/-- The items written so far, how many of them are no longer in the queue, and how many of those
were dropped. -/
structure EventLog (α : Type) where
  written : List α
  gone : Nat
  dropped : Nat
  gone_le : gone ≤ written.length

namespace EventLog

def empty : EventLog α := ⟨[], 0, 0, Nat.le_refl 0⟩

/-- The items neither delivered nor dropped, oldest first. -/
def undelivered (l : EventLog α) : List α := l.written.drop l.gone

/-- How many items a write makes a queue of `cap` places drop: one where they are all taken. -/
def overrun (cap : Nat) (l : EventLog α) : Nat :=
  if l.undelivered.length < cap then 0 else 1

theorem gone_add_overrun_le (cap : Nat) (l : EventLog α) (x : α) :
    l.gone + l.overrun cap ≤ (l.written ++ [x]).length := by
  have := l.gone_le
  unfold overrun
  rw [List.length_append, List.length_singleton]
  split <;> omega

/-- A write to a queue of `cap` places. -/
def write (cap : Nat) (l : EventLog α) (x : α) : EventLog α where
  written := l.written ++ [x]
  gone := l.gone + l.overrun cap
  dropped := l.dropped + l.overrun cap
  gone_le := gone_add_overrun_le cap l x

/-- The oldest item, which counts as delivered. -/
def pop (l : EventLog α) : Option α × EventLog α :=
  if h : l.gone < l.written.length then
    (some (l.written.get ⟨l.gone, h⟩), { l with gone := l.gone + 1, gone_le := h })
  else (none, l)

theorem overrun_of_lt {cap : Nat} {l : EventLog α} (h : l.undelivered.length < cap) :
    l.overrun cap = 0 := if_pos h

theorem overrun_of_full {cap : Nat} {l : EventLog α} (h : l.undelivered.length = cap) :
    l.overrun cap = 1 := if_neg (by omega)

theorem write_undelivered_of_lt {cap : Nat} {l : EventLog α} (h : l.undelivered.length < cap)
    (x : α) : (l.write cap x).undelivered = l.undelivered ++ [x] := by
  show (l.written ++ [x]).drop (l.gone + l.overrun cap) = l.written.drop l.gone ++ [x]
  rw [overrun_of_lt h]
  exact List.drop_append_of_le_length l.gone_le

theorem write_undelivered_of_full {cap : Nat} {l : EventLog α} (hcap : 0 < cap)
    (h : l.undelivered.length = cap) (x : α) :
    (l.write cap x).undelivered = l.undelivered.tail ++ [x] := by
  have hlen : l.written.length - l.gone = cap := by
    rw [← h, undelivered, List.length_drop]
  show (l.written ++ [x]).drop (l.gone + l.overrun cap) = (l.written.drop l.gone).tail ++ [x]
  rw [overrun_of_full h, List.tail_drop]
  exact List.drop_append_of_le_length (by omega)

/-- What a pop returns and leaves is the head and the tail of the undelivered items. -/
theorem pop_eq (l : EventLog α) :
    l.pop.1 = l.undelivered.head? ∧ l.pop.2.undelivered = l.undelivered.tail := by
  unfold pop undelivered
  split
  · next h => simp [List.getElem?_eq_getElem h]
  · next h =>
    rw [List.drop_eq_nil_of_le (by omega)]
    exact ⟨rfl, rfl⟩

@[simp] theorem pop_dropped (l : EventLog α) : l.pop.2.dropped = l.dropped := by
  unfold pop
  split <;> rfl

end EventLog
end NeoRecomp
