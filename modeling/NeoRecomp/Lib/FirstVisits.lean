import Mathlib.Data.List.Nodup

/-!
# First visits

A pass over items that records an item only if its key has not been seen before.  A loop that keeps
the seen keys beside what it records does what a fold over the first visits does.
-/

namespace FirstVisits

variable {ι κ σ S : Type} [DecidableEq κ] (key : ι → κ)

/-- The items whose key is new, in order. -/
def firstVisits : List κ → List ι → List ι
  | _, [] => []
  | seen, item :: rest =>
    if key item ∈ seen then firstVisits seen rest
    else item :: firstVisits (seen ++ [key item]) rest

variable {key}

theorem firstVisits_of_seen {seen : List κ} {item : ι} (h : key item ∈ seen) (rest : List ι) :
    firstVisits key seen (item :: rest) = firstVisits key seen rest := by
  rw [firstVisits, if_pos h]

theorem firstVisits_of_new {seen : List κ} {item : ι} (h : key item ∉ seen) (rest : List ι) :
    firstVisits key seen (item :: rest) = item :: firstVisits key (seen ++ [key item]) rest := by
  rw [firstVisits, if_neg h]

theorem mem_of_mem_firstVisits {seen : List κ} {items : List ι} {item : ι}
    (h : item ∈ firstVisits key seen items) : item ∈ items := by
  induction items generalizing seen with
  | nil => exact absurd h List.not_mem_nil
  | cons first rest ih =>
    by_cases hseen : key first ∈ seen
    · rw [firstVisits_of_seen hseen] at h
      exact List.mem_cons_of_mem first (ih h)
    · rw [firstVisits_of_new hseen] at h
      cases List.mem_cons.mp h with
      | inl heq =>
        rw [heq]
        exact List.mem_cons_self
      | inr hrest => exact List.mem_cons_of_mem first (ih hrest)

variable (key) in
/-- No key is visited twice. -/
theorem nodup_firstVisits {seen : List κ} (items : List ι) (h : seen.Nodup) :
    (seen ++ (firstVisits key seen items).map key).Nodup := by
  induction items generalizing seen with
  | nil =>
    rw [firstVisits, List.map_nil, List.append_nil]
    exact h
  | cons item rest ih =>
    by_cases hseen : key item ∈ seen
    · rw [firstVisits_of_seen hseen]
      exact ih h
    · have hkeys : (seen ++ [key item]).Nodup := by
        rw [← List.concat_eq_append]
        exact h.concat hseen
      rw [firstVisits_of_new hseen, List.map_cons, List.append_cons]
      exact ih hkeys

variable (key) in
/-- Every key is visited. -/
theorem exists_firstVisit (seen : List κ) {items : List ι} {item : ι} (h : item ∈ items) :
    key item ∈ seen ∨ ∃ first ∈ firstVisits key seen items, key first = key item := by
  induction items generalizing seen with
  | nil => exact absurd h List.not_mem_nil
  | cons first rest ih =>
    by_cases hseen : key first ∈ seen
    · rw [firstVisits_of_seen hseen]
      cases List.mem_cons.mp h with
      | inl heq => exact .inl (heq ▸ hseen)
      | inr hrest => exact ih seen hrest
    · rw [firstVisits_of_new hseen]
      have hfirst : ∃ visit ∈ first :: firstVisits key (seen ++ [key first]) rest,
          key visit = key first := ⟨first, List.mem_cons_self, rfl⟩
      cases List.mem_cons.mp h with
      | inl heq => exact .inr (heq ▸ hfirst)
      | inr hrest =>
        obtain hkey | ⟨visit, hvisit, heq⟩ := ih (seen ++ [key first]) hrest
        · cases List.mem_append.mp hkey with
          | inl hold => exact .inl hold
          | inr hlast => exact .inr (List.mem_singleton.mp hlast ▸ hfirst)
        · exact .inr ⟨visit, List.mem_cons_of_mem first hvisit, heq⟩

/-- A loop that records an item with a new key and skips the others.  `ok` is what the loop loses
when it runs out of room, and never gets back. -/
theorem foldl_eq_firstVisits (seen : S → List κ) (recorded : S → σ) (ok : S → Prop)
    {step : S → ι → S} {record : σ → ι → σ}
    (hold : ∀ s item, key item ∈ seen s → step s item = s)
    (hnew : ∀ s item, key item ∉ seen s → ok (step s item) →
      seen (step s item) = seen s ++ [key item] ∧
        recorded (step s item) = record (recorded s) item)
    (hok : ∀ s item, ok (step s item) → ok s) (items : List ι) {s : S}
    (h : ok (items.foldl step s)) : ok s ∧
      recorded (items.foldl step s) =
        (firstVisits key (seen s) items).foldl record (recorded s) := by
  induction items generalizing s with
  | nil => exact ⟨h, rfl⟩
  | cons item rest ih =>
    rw [List.foldl_cons] at h ⊢
    obtain ⟨hstep, hrest⟩ := ih h
    refine ⟨hok s item hstep, ?_⟩
    by_cases hseen : key item ∈ seen s
    · rw [firstVisits_of_seen hseen]
      rw [hold s item hseen] at hrest ⊢
      exact hrest
    · obtain ⟨hkeys, hrecorded⟩ := hnew s item hseen hstep
      rw [firstVisits_of_new hseen, List.foldl_cons, hrest, hkeys, hrecorded]

end FirstVisits
