import Mathlib.Data.List.Basic

/-!
# A mailbox with a doorbell

One side posts a word into a latch, where it waits; the other side takes it or clears the latch.  A
waiting word can ring the other side while its bell is armed, once.
-/

namespace NeoRecomp

variable {α : Type}

/-- What happens at a mailbox.  A take says which word it saw. -/
inductive MailEvent (α : Type)
  | post (word : α)
  | take (seen : α)
  | clear
  | arm (on : Bool)
  | ring
  deriving DecidableEq, Repr

structure Mailbox (α : Type) where
  latch : α
  waiting : Bool
  armed : Bool
  deriving DecidableEq, Repr

namespace Mailbox

/-- One event, unless it cannot happen: a take sees the latch, and only a waiting word rings. -/
def step [DecidableEq α] (blank : α) (box : Mailbox α) : MailEvent α → Option (Mailbox α)
  | .post word => some { box with latch := word, waiting := true }
  | .take seen => if seen = box.latch then some { box with waiting := false } else none
  | .clear => some { box with latch := blank }
  | .arm on => some { box with armed := on }
  | .ring => if box.waiting ∧ box.armed then some { box with waiting := false } else none

def run [DecidableEq α] (blank : α) (box : Mailbox α) (events : List (MailEvent α)) :
    Option (Mailbox α) :=
  events.foldlM (step blank) box

end Mailbox

/-- The posted words of some events. -/
def posts (events : List (MailEvent α)) : List α :=
  events.filterMap fun
    | .post word => some word
    | _ => none

/-- How often the bell rang. -/
def rings (events : List (MailEvent α)) : Nat :=
  events.countP fun
    | .ring => true
    | _ => false

def takes (events : List (MailEvent α)) : Nat :=
  events.countP fun
    | .take _ => true
    | _ => false

def clears (events : List (MailEvent α)) : Nat :=
  events.countP fun
    | .clear => true
    | _ => false

/-- The word an event leaves in the latch. -/
def MailEvent.word (blank word : α) : MailEvent α → α
  | .post new => new
  | .clear => blank
  | _ => word

/-- The word the last post left, or the blank one of a clear behind it. -/
def lastWord (blank word : α) (events : List (MailEvent α)) : α :=
  events.foldl (MailEvent.word blank) word

/-- `1` while a word waits. -/
def Mailbox.waitingCount (box : Mailbox α) : Nat := if box.waiting then 1 else 0

section Counts
variable (es es' : List (MailEvent α))

@[simp] theorem posts_append : posts (es ++ es') = posts es ++ posts es' := List.filterMap_append

@[simp] theorem rings_append : rings (es ++ es') = rings es + rings es' := List.countP_append

@[simp] theorem takes_append : takes (es ++ es') = takes es + takes es' := List.countP_append

@[simp] theorem clears_append : clears (es ++ es') = clears es + clears es' := List.countP_append

end Counts

namespace Mailbox

variable [DecidableEq α] {blank : α} {box box' : Mailbox α} {es es' : List (MailEvent α)}

theorem run_append (h : box.run blank es = some box') :
    box.run blank (es ++ es') = box'.run blank es' := by
  unfold run at *
  rw [List.foldlM_append, h]
  rfl

theorem run_single (box : Mailbox α) (e : MailEvent α) : box.run blank [e] = box.step blank e := by
  unfold run
  rw [List.foldlM_cons]
  exact bind_pure _

theorem run_cons {e : MailEvent α} {final : Mailbox α} (h : box.run blank (e :: es) = some final) :
    ∃ mid, box.step blank e = some mid ∧ mid.run blank es = some final := by
  unfold run at h
  rw [List.foldlM_cons] at h
  exact Option.bind_eq_some_iff.mp h

theorem run_split {final : Mailbox α} (h : box.run blank (es ++ es') = some final) :
    ∃ mid, box.run blank es = some mid ∧ mid.run blank es' = some final := by
  unfold run at *
  rw [List.foldlM_append] at h
  exact Option.bind_eq_some_iff.mp h

theorem step_take {seen : α} (h : box.step blank (.take seen) = some box') :
    seen = box.latch ∧ box' = { box with waiting := false } := by
  change (if seen = box.latch then some { box with waiting := false } else none) = some box' at h
  split at h
  · exact ⟨‹_›, (Option.some.inj h).symm⟩
  · cases h

theorem step_ring (h : box.step blank .ring = some box') :
    (box.waiting = true ∧ box.armed = true) ∧ box' = { box with waiting := false } := by
  change (if box.waiting ∧ box.armed then some { box with waiting := false } else none) =
    some box' at h
  split at h
  · exact ⟨‹_›, (Option.some.inj h).symm⟩
  · cases h

/-- One event: a ring needs a waiting word, and only a post makes one wait. -/
theorem step_rings {e : MailEvent α} (h : box.step blank e = some box') :
    rings [e] + box'.waitingCount ≤ (posts [e]).length + box.waitingCount := by
  cases e with
  | post word =>
    cases h
    simp [rings, posts, waitingCount]
  | take seen =>
    obtain ⟨-, rfl⟩ := step_take h
    simp [rings, posts, waitingCount]
  | clear =>
    cases h
    simp [rings, posts, waitingCount]
  | arm on =>
    cases h
    simp [rings, posts, waitingCount]
  | ring =>
    obtain ⟨hring, rfl⟩ := step_ring h
    simp [rings, posts, waitingCount, hring.1]

/-- Every ring uses up a post. -/
theorem rings_le_posts (h : box.run blank es = some box') :
    rings es + box'.waitingCount ≤ (posts es).length + box.waitingCount := by
  induction es generalizing box with
  | nil =>
    cases h
    simp [rings, posts]
  | cons e es ih =>
    obtain ⟨mid, hstep, hrun⟩ := run_cons h
    have hfirst := step_rings hstep
    have hrest := ih hrun
    rw [← List.singleton_append, rings_append, posts_append, List.length_append]
    omega

/-- A word rings once: between two rings there is a post. -/
theorem post_between_rings {es₁ es₂ es₃ : List (MailEvent α)}
    (h : box.run blank (es₁ ++ .ring :: (es₂ ++ .ring :: es₃)) = some box') : posts es₂ ≠ [] := by
  obtain ⟨b₁, -, h₁⟩ := run_split h
  obtain ⟨b₂, hring, h₂⟩ := run_cons h₁
  obtain ⟨b₃, hmid, h₃⟩ := run_split h₂
  obtain ⟨b₄, hring', -⟩ := run_cons h₃
  have hquiet : b₂.waitingCount = 0 := by
    rw [(step_ring hring).2]
    rfl
  have hwaits : b₃.waitingCount = 1 := if_pos (step_ring hring').1.1
  have hle := rings_le_posts hmid
  intro hnone
  rw [hnone, hquiet, hwaits] at hle
  simp at hle

theorem step_latch {e : MailEvent α} (h : box.step blank e = some box') :
    box'.latch = e.word blank box.latch := by
  cases e with
  | post word =>
    cases h
    rfl
  | take seen =>
    rw [(step_take h).2]
    rfl
  | clear =>
    cases h
    rfl
  | arm on =>
    cases h
    rfl
  | ring =>
    rw [(step_ring h).2]
    rfl

theorem run_latch (h : box.run blank es = some box') :
    box'.latch = lastWord blank box.latch es := by
  induction es generalizing box with
  | nil =>
    cases h
    rfl
  | cons e es ih =>
    obtain ⟨mid, hstep, hrun⟩ := run_cons h
    rw [ih hrun, step_latch hstep]
    rfl

/-- A take sees the last word. -/
theorem take_sees {seen : α} {es₁ es₂ : List (MailEvent α)}
    (h : box.run blank (es₁ ++ .take seen :: es₂) = some box') :
    seen = lastWord blank box.latch es₁ := by
  obtain ⟨mid, hrun, hrest⟩ := run_split h
  obtain ⟨next, hstep, -⟩ := run_cons hrest
  rw [← run_latch hrun]
  exact (step_take hstep).1

end Mailbox

end NeoRecomp
