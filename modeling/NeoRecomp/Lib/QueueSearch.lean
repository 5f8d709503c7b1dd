import Mathlib.Data.List.Infix
import Mathlib.Logic.Relation

/-!
# Searching a graph through a queue

A queue to which every unseen successor of the node at its head is appended.  Nothing is removed, so
the queue is also the list of nodes seen; when the head has passed its end, it holds the nodes
reachable from the root.
-/

namespace QueueSearch

variable {α : Type*}

/-- The invariant of the search: the nodes below `head` have been expanded. -/
structure Searched (link : α → α → Prop) (root : α) (queue : List α) (head : Nat) : Prop where
  root_mem : root ∈ queue
  reached : ∀ a ∈ queue, Relation.ReflTransGen link root a
  expanded : ∀ i < head, ∀ a, queue[i]? = some a → ∀ b, link a b → b ∈ queue

variable {link : α → α → Prop} {root : α} {queue queue' : List α} {head : Nat}

theorem Searched.start (link : α → α → Prop) (root : α) : Searched link root [root] 0 where
  root_mem := List.mem_singleton.mpr rfl
  reached a ha := by
    rw [List.mem_singleton.mp ha]
  expanded i hi := absurd hi (Nat.not_lt_zero i)

/-- Expand the node at the head: the queue grows by successors of it, and by all of them. -/
theorem Searched.expand (h : Searched link root queue head) {a : α} (ha : queue[head]? = some a)
    (hpre : queue <+: queue') (hnew : ∀ b ∈ queue', b ∈ queue ∨ link a b)
    (hall : ∀ b, link a b → b ∈ queue') : Searched link root queue' (head + 1) where
  root_mem := hpre.subset h.root_mem
  reached b hb := by
    rcases hnew b hb with hold | hlink
    · exact h.reached b hold
    · exact (h.reached a (List.mem_of_getElem? ha)).tail hlink
  expanded i hi c hc b hlink := by
    by_cases hlast : i = head
    · subst hlast
      rw [List.prefix_iff_getElem?] at hpre
      have hlt := (List.getElem?_eq_some_iff.mp ha).1
      rw [hpre i hlt, ← List.getElem?_eq_getElem hlt, ha] at hc
      cases hc
      exact hall b hlink
    · have hlt : head < queue.length := (List.getElem?_eq_some_iff.mp ha).1
      have hi' : i < queue.length := by omega
      rw [List.prefix_iff_getElem?] at hpre
      rw [hpre i hi', ← List.getElem?_eq_getElem hi'] at hc
      have hmem := h.expanded i (by omega) c hc b hlink
      obtain ⟨j, hj, rfl⟩ := List.mem_iff_getElem.mp hmem
      exact List.mem_of_getElem? (hpre j hj)

/-- At its end the search has seen the reachable nodes. -/
theorem Searched.mem_iff (h : Searched link root queue head) (hend : queue.length ≤ head) {a : α} :
    a ∈ queue ↔ Relation.ReflTransGen link root a := by
  constructor
  · exact h.reached a
  · intro hreach
    induction hreach with
    | refl => exact h.root_mem
    | tail _ hlink ih =>
      obtain ⟨i, hi, rfl⟩ := List.mem_iff_getElem.mp ih
      exact h.expanded i (by omega) _ (List.getElem?_eq_getElem hi) _ hlink

end QueueSearch
