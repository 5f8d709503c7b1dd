import Mathlib.Data.List.DropRight

/-!
# Maximal runs

The stretches of consecutive elements of a list that satisfy a predicate and cannot be made longer.
A scan that collects such a stretch and settles it at the first element that fails sees exactly
these; how the last one grows when the list does is the only thing the end of the list decides.
-/

namespace Runs

variable {α : Type*} {p : α → Bool} {l xs ys run : List α}

/-- A stretch of elements with `p` between two without it, or the ends of the list. -/
structure IsMaximalRun (p : α → Bool) (l run : List α) : Prop where
  ne_nil : run ≠ []
  holds : ∀ a ∈ run, p a = true
  maximal : ∃ before after, l = before ++ run ++ after ∧
    (∀ a ∈ before.getLast?, p a = false) ∧ (∀ a ∈ after.head?, p a = false)

theorem not_isMaximalRun_nil : ¬ IsMaximalRun p [] run := by
  intro h
  obtain ⟨before, after, heq, -, -⟩ := h.maximal
  have hrun := (List.append_eq_nil_iff.mp (List.append_eq_nil_iff.mp heq.symm).1).2
  exact h.ne_nil hrun

/-- Where every element has `p`, the whole list is the run. -/
theorem isMaximalRun_of_forall (h : ∀ a ∈ l, p a = true) :
    IsMaximalRun p l run ↔ run = l ∧ run ≠ [] := by
  constructor
  · intro hrun
    obtain ⟨before, after, rfl, hbefore, hafter⟩ := hrun.maximal
    have hnil : before = [] := by
      by_contra hne
      have hlast := hbefore _ (List.getLast?_eq_getLast_of_ne_nil hne)
      rw [h _ (by simp [List.getLast_mem hne])] at hlast
      cases hlast
    have hnil' : after = [] := by
      cases after with
      | nil => rfl
      | cons a after =>
        have hhead := hafter a rfl
        rw [h a (by simp)] at hhead
        cases hhead
    subst hnil hnil'
    exact ⟨by simp, hrun.ne_nil⟩
  · rintro ⟨rfl, hne⟩
    exact ⟨hne, h, [], [], by simp, by simp, by simp⟩

/-- An element without `p` separates the runs. -/
theorem isMaximalRun_append_cons {b : α} (hb : p b = false) :
    IsMaximalRun p (xs ++ b :: ys) run ↔ IsMaximalRun p xs run ∨ IsMaximalRun p ys run := by
  constructor
  · intro h
    obtain ⟨before, after, heq, hbefore, hafter⟩ := h.maximal
    have hnot : b ∉ run := by
      intro hmem
      rw [h.holds b hmem] at hb
      cases hb
    rw [List.append_assoc] at heq
    rcases List.append_eq_append_iff.mp heq with ⟨mid, rfl, hrest⟩ | ⟨mid, rfl, hrest⟩
    · right
      cases mid with
      | nil =>
        -- the run would start with the separator
        cases run with
        | nil => exact absurd rfl h.ne_nil
        | cons a run =>
          obtain ⟨rfl, -⟩ := List.cons.inj hrest
          exact absurd (List.mem_cons_self ..) hnot
      | cons c mid =>
        obtain ⟨rfl, rfl⟩ := List.cons.inj hrest
        refine ⟨h.ne_nil, h.holds, mid, after, by simp, ?_, hafter⟩
        intro a ha
        cases mid with
        | nil => cases ha
        | cons d mid => exact hbefore a (by simpa using ha)
    · rcases List.append_eq_append_iff.mp hrest with ⟨tail, rfl, hafter'⟩ | ⟨tail, rfl, hys⟩
      · left
        refine ⟨h.ne_nil, h.holds, before, tail, by simp, hbefore, ?_⟩
        intro a ha
        cases tail with
        | nil => cases ha
        | cons d tail =>
          rw [hafter'] at hafter
          exact hafter a ha
      · cases tail with
        | nil =>
          left
          refine ⟨h.ne_nil, h.holds, before, [], by simp, hbefore, ?_⟩
          intro a ha
          cases ha
        | cons c tail =>
          obtain ⟨rfl, -⟩ := List.cons.inj hys
          exact absurd (List.mem_append_right _ (List.mem_cons_self ..)) hnot
  · rintro (h | h)
    · obtain ⟨before, after, rfl, hbefore, hafter⟩ := h.maximal
      refine ⟨h.ne_nil, h.holds, before, after ++ b :: ys, by simp, hbefore, ?_⟩
      intro a ha
      cases after with
      | nil =>
        cases ha
        exact hb
      | cons c after => exact hafter a ha
    · obtain ⟨before, after, rfl, hbefore, hafter⟩ := h.maximal
      refine ⟨h.ne_nil, h.holds, xs ++ b :: before, after, by simp, ?_, hafter⟩
      intro a ha
      cases before with
      | nil =>
        obtain rfl : b = a := by simpa using ha
        exact hb
      | cons c before => exact hbefore a (by simpa using ha)

/-- The run at the end, and those before it. -/
theorem isMaximalRun_iff_rdropWhile :
    IsMaximalRun p l run ↔
      IsMaximalRun p (l.rdropWhile p) run ∨ run = l.rtakeWhile p ∧ run ≠ [] := by
  have hall : ∀ a ∈ l.rtakeWhile p, p a = true := fun a ha => List.mem_rtakeWhile_imp ha
  rcases List.eq_nil_or_concat (l.rdropWhile p) with hnil | ⟨front, b, hfront⟩
  · have htail : l.rtakeWhile p = l :=
      List.rtakeWhile_eq_self_iff.mpr (List.rdropWhile_eq_nil_iff.mp hnil)
    rw [hnil, htail, or_iff_right not_isMaximalRun_nil]
    exact isMaximalRun_of_forall (htail ▸ hall)
  · have hb : p b = false := by
      have hlast := List.rdropWhile_last_not p l (by simp [hfront])
      simpa [hfront] using hlast
    have hsplit : l = front ++ b :: l.rtakeWhile p := by
      conv_lhs => rw [← List.rdropWhile_append_rtakeWhile (p := p) (l := l), hfront]
      simp
    have hruns : IsMaximalRun p (l.rdropWhile p) run ↔ IsMaximalRun p front run := by
      rw [hfront, List.concat_eq_append, isMaximalRun_append_cons hb,
        or_iff_left not_isMaximalRun_nil]
    rw [hruns, ← isMaximalRun_of_forall hall, ← isMaximalRun_append_cons hb, ← hsplit]

end Runs
