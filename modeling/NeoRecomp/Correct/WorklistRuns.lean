import NeoRecomp.Correct.Discovered

/-!
# Runs of the discovery loop

A turn scans a root that is pending, or finds none and searches the scripts.  Every scan uses up a
row, so the loop ends.
-/

namespace NeoRecomp

/-! ## One turn -/

section Turn
variable {rom : NgProgramRom} {config : NgGameConfig} {w : Worklist}

theorem Worklist.pending_row {i : Nat} (h : w.pending i = true) :
    ∃ c, w.discovery.candidates[i]? = some c ∧ c.isScanRoot = true ∧ w.scanned i = false := by
  unfold Worklist.pending at h
  cases hc : w.discovery.candidates[i]? with
  | none =>
    rw [hc] at h
    cases h
  | some c =>
    rw [hc] at h
    simp only [Bool.and_eq_true, Bool.not_eq_true'] at h
    exact ⟨c, rfl, h.1, h.2⟩

theorem Worklist.pending_of_row {i : Nat} {c : Candidate}
    (hc : w.discovery.candidates[i]? = some c) (hr : c.isScanRoot = true)
    (hs : w.scanned i = false) : w.pending i = true := by
  simp [Worklist.pending, hc, hr, hs]

theorem Worklist.lt_count_of_row {i : Nat} {c : Candidate}
    (hc : w.discovery.candidates[i]? = some c) : i < w.discovery.count :=
  (List.getElem?_eq_some_iff.mp hc).1

/-- The search looks at every row. -/
theorem Worklist.nextRoot_none {cursor : Nat} (h : w.nextRoot = (none, cursor)) (i : Nat) :
    w.pending i = false := by
  by_contra hi
  rw [Bool.not_eq_false] at hi
  obtain ⟨c, hc, -⟩ := w.pending_row hi
  have hlt := w.lt_count_of_row hc
  unfold Worklist.nextRoot at h
  cases hf : (List.range' w.cursor (w.discovery.count - w.cursor)).find? w.pending with
  | some j => simp [hf] at h
  | none =>
    simp only [hf, Prod.mk.injEq, List.find?_eq_none] at h
    exact h.1 i (by rw [List.mem_range]; omega) hi

theorem Worklist.nextRoot_some {i cursor : Nat} (h : w.nextRoot = (some i, cursor)) :
    w.pending i = true := by
  unfold Worklist.nextRoot at h
  cases hf : (List.range' w.cursor (w.discovery.count - w.cursor)).find? w.pending with
  | some j =>
    simp only [hf, Prod.mk.injEq, Option.some.injEq] at h
    rw [← h.1]
    exact List.find?_some hf
  | none =>
    simp only [hf, Prod.mk.injEq] at h
    exact List.find?_some h.1

variable (rom config w)

theorem Worklist.turn_cases :
    (∃ i cursor c, w.pending i = true ∧ w.discovery.candidates[i]? = some c ∧
      w.turn rom config = w.scanRow rom config i cursor c) ∨
    (∀ i, w.pending i = false) ∧ ∃ cursor, w.turn rom config = w.scriptTurn rom cursor := by
  unfold Worklist.turn
  rcases hn : w.nextRoot with ⟨_ | i, cursor⟩
  · exact .inr ⟨w.nextRoot_none hn, cursor, rfl⟩
  · have hp := w.nextRoot_some hn
    obtain ⟨c, hc, -⟩ := w.pending_row hp
    simp only [hc]
    exact .inl ⟨i, cursor, c, hp, hc, rfl⟩

/-- The record changes in a turn by the calls of the turn only. -/
theorem Worklist.turn_discovery :
    (w.turn rom config).next.discovery = w.discovery.run (w.turn rom config).calls := by
  obtain ⟨i, cursor, c, -, -, ht⟩ | ⟨-, cursor, ht⟩ := w.turn_cases rom config
  · rw [ht]
    rfl
  · rw [ht, Worklist.scriptTurn]
    split_ifs
    · rfl
    · dsimp only
      split_ifs <;> rfl

end Turn

/-! ## The loop ends -/

/-- The rows not scanned yet, and the search of the scripts. -/
def Worklist.turnsLeft (w : Worklist) : Nat :=
  ((List.range ngFunctionDiscoveryMaxCandidates).filter (!w.scanned ·)).length +
    if w.scriptStreamPassDone then 0 else 1

theorem filter_scanned_lt {scanned : Nat → Bool} {n i : Nat} (hi : i < n)
    (hs : scanned i = false) :
    ((List.range n).filter (!Function.update scanned i true ·)).length <
      ((List.range n).filter (!scanned ·)).length := by
  rw [← List.countP_eq_length_filter, ← List.countP_eq_length_filter]
  induction n with
  | zero => omega
  | succ n ih =>
    have hle : (List.range n).countP (!Function.update scanned i true ·) ≤
        (List.range n).countP (!scanned ·) := by
      apply List.countP_mono_left
      intro j _ hj
      by_cases hij : j = i
      · rw [hij, Function.update_self] at hj
        cases hj
      · rwa [Function.update_of_ne hij] at hj
    rw [List.range_succ, List.countP_append, List.countP_append]
    by_cases hin : i = n
    · subst hin
      simp only [List.countP_singleton, Function.update_self, hs, Bool.not_true, Bool.not_false,
        Bool.false_eq_true, if_false, if_true]
      omega
    · have hne : n ≠ i := fun h => hin h.symm
      have := ih (by omega)
      simp only [List.countP_singleton, Function.update_of_ne hne]
      omega

theorem Worklist.turnsLeft_turn (rom : NgProgramRom) (config : NgGameConfig) (w : Worklist)
    (h : (w.turn rom config).continues = true) :
    (w.turn rom config).next.turnsLeft < w.turnsLeft := by
  obtain ⟨i, cursor, c, hp, hc, ht⟩ | ⟨-, cursor, ht⟩ := w.turn_cases rom config
  · obtain ⟨_, _, -, hs⟩ := w.pending_row hp
    have hi := Nat.lt_of_lt_of_le (w.lt_count_of_row hc) w.discovery.count_le
    have := filter_scanned_lt hi hs
    rw [ht]
    exact Nat.add_lt_add_right this _
  · rw [ht, Worklist.scriptTurn] at h ⊢
    by_cases hd : w.scriptStreamPassDone = true
    · rw [if_pos hd] at h
      cases h
    · rw [if_neg hd] at h ⊢
      dsimp only at h ⊢
      split_ifs at h ⊢
      simp [Worklist.turnsLeft, hd]

theorem Worklist.loop_isSome (rom : NgProgramRom) (config : NgGameConfig) (turns : Nat)
    (w : Worklist) (h : w.turnsLeft < turns) : (w.loop rom config turns).isSome = true := by
  induction turns generalizing w with
  | zero => omega
  | succ turns ih =>
    rw [Worklist.loop]
    split_ifs with hc
    · have := w.turnsLeft_turn rom config hc
      exact ih _ (by omega)
    · rfl

/-- Discovery always returns: its loop has turns enough. -/
theorem discover_isSome (calloc : Nat → Nat → Bool) (rom : NgProgramRom)
    (seeds : List (BitVec 32)) (config : NgGameConfig) (maxCandidates : BitVec 32) :
    (ngFunctionDiscoverFromGameConfigLimited calloc rom seeds config maxCandidates).isSome =
      true := by
  unfold ngFunctionDiscoverFromGameConfigLimited
  dsimp only
  split_ifs
  · rfl
  · rw [Option.isSome_map]
    apply Worklist.loop_isSome
    unfold Worklist.turnsLeft worklistTurns
    have := List.length_filter_le (fun i => !(fun _ => false : Nat → Bool) i)
      (List.range ngFunctionDiscoveryMaxCandidates)
    rw [List.length_range] at this
    dsimp only at this ⊢
    simp only [Bool.false_eq_true, if_false]
    omega

/-! ## Invariants of the loop -/

/-- What every turn that goes on preserves, and what the turn that does not then gives, holds of
the record the loop ends with. -/
theorem Worklist.loop_induct {rom : NgProgramRom} {config : NgGameConfig} {P : Worklist → Prop}
    {Q : NgFunctionDiscovery → Prop}
    (hstep : ∀ w, P w → (w.turn rom config).continues = true → P (w.turn rom config).next)
    (hend : ∀ w, P w → (w.turn rom config).continues = false →
      Q (w.turn rom config).next.discovery)
    {turns : Nat} {w : Worklist} {d : NgFunctionDiscovery} (hw : P w)
    (h : w.loop rom config turns = some d) : Q d := by
  induction turns generalizing w with
  | zero => cases h
  | succ turns ih =>
    rw [Worklist.loop] at h
    cases hc : (w.turn rom config).continues with
    | true =>
      rw [hc, if_pos rfl] at h
      exact ih (hstep w hw hc) h
    | false =>
      rw [hc, if_neg (by decide)] at h
      rw [← Option.some.inj h]
      exact hend w hw hc

/-- A search that succeeds enters the loop from the record the seeds and the configuration gave. -/
theorem discover_eq_loop {calloc : Nat → Nat → Bool} {rom : NgProgramRom}
    {seeds : List (BitVec 32)} {config : NgGameConfig} {maxCandidates : BitVec 32}
    {d : NgFunctionDiscovery}
    (h : ngFunctionDiscoverFromGameConfigLimited calloc rom seeds config maxCandidates =
      some (true, d)) :
    Worklist.loop rom config worklistTurns
      { discovery := (emptyDiscovery maxCandidates).run (seedingCalls calloc rom seeds config) } =
        some d := by
  unfold ngFunctionDiscoverFromGameConfigLimited at h
  dsimp only at h
  split_ifs at h
  · simp at h
  · obtain ⟨d', hd', he⟩ := Option.map_eq_some_iff.mp h
    rw [hd', (Prod.mk.inj he).2]

end NeoRecomp
