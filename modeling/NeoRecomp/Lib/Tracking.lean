import Mathlib.Data.Set.Basic

/-!
# Abstract tracking of a run

A tracker follows a run of some machine and keeps an abstract state beside it.  If every step that
meets a side condition keeps the abstract state sound, a run whose steps all meet it ends soundly.
-/

namespace Tracking

variable {ι σ τ : Type*}

/-- A run from a state: each executed instruction with the state it leads to. -/
def Run (step : ι → σ → σ → Prop) : σ → List (ι × σ) → Prop
  | _, [] => True
  | s, (i, s') :: rest => step i s s' ∧ Run step s' rest

/-- The state a run ends in. -/
def final (s : σ) : List (ι × σ) → σ
  | [] => s
  | (_, s') :: rest => final s' rest

/-- The abstract state after a run. -/
def track (update : τ → ι → τ) (t : τ) : List (ι × σ) → τ
  | [] => t
  | (i, _) :: rest => track update (update t i) rest

/-- Every step of a run meets a condition on the abstract state, the instruction and the state
before it. -/
def EveryStep (update : τ → ι → τ) (ok : τ → ι → σ → Prop) (t : τ) : σ → List (ι × σ) → Prop
  | _, [] => True
  | s, (i, s') :: rest => ok t i s ∧ EveryStep update ok (update t i) s' rest

variable {step : ι → σ → σ → Prop} {update : τ → ι → τ} {ok : τ → ι → σ → Prop}
  {Sound : τ → σ → Prop}

theorem sound_run
    (hstep : ∀ t i s s', Sound t s → ok t i s → step i s s' → Sound (update t i) s')
    {t : τ} {s : σ} {run : List (ι × σ)} (h : Sound t s) (hrun : Run step s run)
    (hok : EveryStep update ok t s run) : Sound (track update t run) (final s run) := by
  induction run generalizing t s with
  | nil => exact h
  | cons x rest ih =>
    obtain ⟨i, s'⟩ := x
    obtain ⟨hs, hrun⟩ := hrun
    obtain ⟨ho, hok⟩ := hok
    exact ih (hstep t i s s' h ho hs) hrun hok

end Tracking
