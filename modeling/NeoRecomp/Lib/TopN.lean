import Mathlib.Data.List.Sort

/-!
# The heaviest items of a list

A list of fixed length into which items are inserted by weight, the last place falling off, holds
the heaviest of them, and of equally heavy ones the earliest.
-/

namespace TopN

variable {α β : Type} (w : α → Nat)

/-- Insert before the first lighter item. -/
def insertByWeight (a : α) (l : List α) : List α := l.orderedInsert (fun a b => w b < w a) a

/-- Insert before the first lighter item, if any, and drop the last item. -/
def pushTop (a : α) : List α → List α
  | [] => []
  | b :: rest => if w b < w a then (a :: b :: rest).take (rest.length + 1) else b :: pushTop a rest

/-- The items by falling weight, the earlier first. -/
def ranked (items : List α) : List α := items.foldl (fun l a => insertByWeight w a l) []

variable {w}

theorem insertByWeight_cons (a b : α) (l : List α) : insertByWeight w a (b :: l) =
    if w b < w a then a :: b :: l else b :: insertByWeight w a l :=
  List.orderedInsert_cons ..

theorem perm_insertByWeight (a : α) (l : List α) : (insertByWeight w a l).Perm (a :: l) :=
  List.perm_orderedInsert _ a l

theorem insertByWeight_map {f : β → α} (a : β) (l : List β) :
    insertByWeight w (f a) (l.map f) = (insertByWeight (w ∘ f) a l).map f :=
  (List.map_orderedInsert _ _ f l a (fun _ _ => Iff.rfl) fun _ _ => Iff.rfl).symm

theorem pushTop_eq (a : α) (l : List α) : pushTop w a l = (insertByWeight w a l).take l.length := by
  induction l with
  | nil => rfl
  | cons b rest ih =>
    rw [pushTop, insertByWeight_cons]
    split_ifs
    · rfl
    · rw [ih]
      rfl

/-- What falls off could not have come back. -/
theorem take_insertByWeight (a : α) (n : Nat) (l : List α) :
    (insertByWeight w a (l.take n)).take n = (insertByWeight w a l).take n := by
  induction l generalizing n with
  | nil => rw [List.take_nil]
  | cons b rest ih =>
    cases n with
    | zero => rfl
    | succ n =>
      rw [List.take_succ_cons, insertByWeight_cons, insertByWeight_cons]
      split_ifs
      · cases n with
        | zero => rfl
        | succ n => simp [List.take_take]
      · rw [List.take_succ_cons, List.take_succ_cons, ih]

theorem insertByWeight_append {a : α} {zeros : List α} (l : List α)
    (hz : ∀ z ∈ zeros, w z < w a) :
    insertByWeight w a (l ++ zeros) = insertByWeight w a l ++ zeros := by
  induction l with
  | nil =>
    cases zeros with
    | nil => rfl
    | cons z zeros =>
      rw [List.nil_append, insertByWeight_cons, if_pos (hz z (List.mem_cons_self ..))]
      rfl
  | cons b rest ih =>
    rw [List.cons_append, insertByWeight_cons, insertByWeight_cons]
    split_ifs
    · rfl
    · rw [ih, List.cons_append]

/-- A list of places that starts with light items ends with the heaviest of what was pushed. -/
theorem foldl_pushTop {zeros : List α} (items : List α) (l : List α)
    (hz : ∀ a ∈ items, ∀ z ∈ zeros, w z < w a) :
    items.foldl (fun l a => pushTop w a l) ((l ++ zeros).take zeros.length) =
      ((items.foldl (fun l a => insertByWeight w a l) l) ++ zeros).take zeros.length := by
  induction items generalizing l with
  | nil => rfl
  | cons a items ih =>
    have hlen : ((l ++ zeros).take zeros.length).length = zeros.length := by simp
    rw [List.foldl_cons, List.foldl_cons, pushTop_eq, hlen, take_insertByWeight,
      insertByWeight_append l (hz a (List.mem_cons_self ..))]
    exact ih _ fun b hb => hz b (List.mem_cons_of_mem _ hb)

theorem perm_ranked (items : List α) : (ranked w items).Perm items := by
  have h (l : List α) : (items.foldl (fun l a => insertByWeight w a l) l).Perm (items ++ l) := by
    induction items generalizing l with
    | nil => exact .refl _
    | cons a items ih =>
      exact (ih _).trans (((perm_insertByWeight a l).append_left items).trans List.perm_middle)
  simpa [ranked] using h []

/-- Heavier, or as heavy and earlier. -/
def Before (w : α → Nat) (lt : α → α → Prop) (a b : α) : Prop := w b < w a ∨ (w b = w a ∧ lt a b)

theorem pairwise_insertByWeight {lt : α → α → Prop} {a : α} {l : List α}
    (h : l.Pairwise (Before w lt)) (hl : ∀ b ∈ l, lt b a) :
    (insertByWeight w a l).Pairwise (Before w lt) := by
  induction l with
  | nil => exact List.pairwise_singleton _ _
  | cons b rest ih =>
    obtain ⟨hb, hrest⟩ := List.pairwise_cons.mp h
    rw [insertByWeight_cons]
    split_ifs with hw
    · refine List.pairwise_cons.mpr ⟨fun c hc => .inl ?_, h⟩
      rcases List.mem_cons.mp hc with rfl | hc
      · exact hw
      · rcases hb c hc with hlt | ⟨heq, -⟩ <;> omega
    · refine List.pairwise_cons.mpr ⟨fun c hc => ?_, ih hrest fun c hc => hl c (.tail _ hc)⟩
      rcases List.mem_cons.mp ((perm_insertByWeight a rest).mem_iff.mp hc) with rfl | hc
      · rcases Nat.lt_or_ge (w c) (w b) with hlt | hge
        · exact .inl hlt
        · exact .inr ⟨by omega, hl b (List.mem_cons_self ..)⟩
      · exact hb c hc

theorem pairwise_ranked {lt : α → α → Prop} {items : List α} (h : items.Pairwise lt) :
    (ranked w items).Pairwise (Before w lt) := by
  have hgen (l : List α) (hl : l.Pairwise (Before w lt)) (hcross : ∀ b ∈ l, ∀ a ∈ items, lt b a) :
      (items.foldl (fun l a => insertByWeight w a l) l).Pairwise (Before w lt) := by
    induction items generalizing l with
    | nil => exact hl
    | cons a items ih =>
      obtain ⟨ha, hitems⟩ := List.pairwise_cons.mp h
      refine ih hitems _ (pairwise_insertByWeight hl fun b hb => hcross b hb a (.head _)) ?_
      intro b hb c hc
      rcases List.mem_cons.mp ((perm_insertByWeight a l).mem_iff.mp hb) with rfl | hb
      · exact ha c hc
      · exact hcross b hb c (.tail _ hc)
  exact hgen [] .nil fun _ hb => absurd hb List.not_mem_nil

theorem ranked_map {f : β → α} (items : List β) :
    ranked w (items.map f) = (ranked (w ∘ f) items).map f := by
  have h (l : List β) : (items.map f).foldl (fun l a => insertByWeight w a l) (l.map f) =
      (items.foldl (fun l a => insertByWeight (w ∘ f) a l) l).map f := by
    induction items generalizing l with
    | nil => rfl
    | cons a items ih =>
      rw [List.map_cons, List.foldl_cons, List.foldl_cons, insertByWeight_map, ih]
  exact h []

end TopN
