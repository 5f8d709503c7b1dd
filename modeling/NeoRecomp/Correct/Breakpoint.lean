import NeoRecomp.Runtime.Host

/-!
# The breakpoint of the harness

Generated code asks in front of every instruction whether to yield, and the harness answers from one
breakpoint: an address, or a change of the frame.  It is one-shot.  The first question that meets it
is answered with yes and recorded, and until it is set again every other answer is no.
-/

namespace NeoRecomp

namespace SmokeYield

/-- A question of generated code: the frame count and the address of the instruction. -/
structure Poll where
  frame : BitVec 32
  addr : BitVec 32

/-- The answers to a sequence of questions, and the breakpoint behind them. -/
def polled (y : SmokeYield) : List Poll → List Bool × SmokeYield
  | [] => ([], y)
  | p :: polls =>
    let out := y.ngGeneratedShouldYield p.frame p.addr
    let rest := polled out.2 polls
    (out.1 :: rest.1, rest.2)

/-- The frame is another one than the one to stay in, or the instruction stands at the address, in
another frame than the one to leave out. -/
def Meets (y : SmokeYield) (p : Poll) : Prop :=
  (y.stopOnFrameChange ≠ ngGeneratedSmokeYieldAnyFrame ∧ p.frame ≠ y.stopOnFrameChange) ∨
    (y.addr ≠ ngGeneratedSmokeYieldAddrNone ∧ p.addr &&& 0x00FFFFFF = y.addr ∧
      (y.frameMustDiffer ≠ ngGeneratedSmokeYieldAnyFrame → p.frame ≠ y.frameMustDiffer))

section Questions
variable {y : SmokeYield} {p : Poll} {polls : List Poll}

theorem shouldYield_meets (h : y.Meets p) :
    y.ngGeneratedShouldYield p.frame p.addr =
      (true, y.strike (p.addr &&& 0x00FFFFFF) p.frame) := by
  unfold ngGeneratedShouldYield
  dsimp only
  by_cases hframe : y.stopOnFrameChange ≠ ngGeneratedSmokeYieldAnyFrame ∧
      p.frame ≠ y.stopOnFrameChange
  · rw [if_pos hframe]
  · obtain ⟨hset, haddr, hdiffer⟩ := h.resolve_left hframe
    have hother : ¬ (y.addr = ngGeneratedSmokeYieldAddrNone ∨ p.addr &&& 0x00FFFFFF ≠ y.addr) :=
      not_or.mpr ⟨hset, not_not.mpr haddr⟩
    rw [if_neg hframe, if_neg hother, if_neg fun hsame => hdiffer hsame.1 hsame.2]

theorem shouldYield_passes (h : ¬ y.Meets p) :
    y.ngGeneratedShouldYield p.frame p.addr = (false, y) := by
  unfold Meets at h
  rw [not_or] at h
  obtain ⟨hframe, haddr⟩ := h
  unfold ngGeneratedShouldYield
  dsimp only
  rw [if_neg hframe]
  by_cases hother : y.addr = ngGeneratedSmokeYieldAddrNone ∨ p.addr &&& 0x00FFFFFF ≠ y.addr
  · rw [if_pos hother]
  · rw [if_neg hother, if_pos]
    rw [not_or, not_not] at hother
    by_contra hdiffer
    exact haddr ⟨hother.1, hother.2, fun hany hsame => hdiffer ⟨hany, hsame⟩⟩

/-- A breakpoint that has struck is met by nothing. -/
theorem not_meets_strike (y : SmokeYield) (addr frame : BitVec 32) (p : Poll) :
    ¬ (y.strike addr frame).Meets p := by
  rintro (⟨hframe, -⟩ | ⟨haddr, -⟩)
  · exact hframe rfl
  · exact haddr rfl

theorem polled_passes (h : ∀ p ∈ polls, ¬ y.Meets p) :
    y.polled polls = (polls.map fun _ => false, y) := by
  induction polls with
  | nil => rfl
  | cons p polls ih =>
    obtain ⟨hp, hpolls⟩ := List.forall_mem_cons.mp h
    rw [polled, shouldYield_passes hp]
    dsimp only
    rw [ih hpolls]
    rfl

/-- The breakpoint strikes at the first question that meets it, and only there. -/
theorem polled_first {before after : List Poll} (hbefore : ∀ q ∈ before, ¬ y.Meets q)
    (hp : y.Meets p) :
    y.polled (before ++ p :: after) =
      (before.map (fun _ => false) ++ true :: after.map fun _ => false,
        y.strike (p.addr &&& 0x00FFFFFF) p.frame) := by
  induction before with
  | nil =>
    have hafter := polled_passes fun q (_ : q ∈ after) =>
      not_meets_strike y (p.addr &&& 0x00FFFFFF) p.frame q
    rw [List.nil_append, polled, shouldYield_meets hp]
    dsimp only
    rw [hafter]
    rfl
  | cons q before ih =>
    obtain ⟨hq, hbefore⟩ := List.forall_mem_cons.mp hbefore
    rw [List.cons_append, polled, shouldYield_passes hq]
    dsimp only
    rw [ih hbefore]
    rfl

end Questions

/-- The question is for the address in a frame that counts, or in another frame than the one to stay
in. -/
def Poll.Due (addr frameMustDiffer frame : BitVec 32) (p : Poll) : Prop :=
  (frame ≠ ngGeneratedSmokeYieldAnyFrame ∧ p.frame ≠ frame) ∨
    (p.addr &&& 0x00FFFFFF = addr &&& 0x00FFFFFF ∧
      (frameMustDiffer ≠ ngGeneratedSmokeYieldAnyFrame → p.frame ≠ frameMustDiffer))

/-- What meets a breakpoint that has been set at an address, with a frame to stay in. -/
theorem meets_set (y : SmokeYield) {addr : BitVec 32} (haddr : addr ≠ ngGeneratedSmokeYieldAddrNone)
    (frameMustDiffer frame : BitVec 32) (p : Poll) :
    ((y.ngGeneratedSmokeSetInstructionYield addr
        frameMustDiffer).ngGeneratedSmokeSetInstructionYieldFrameStop frame).Meets p ↔
      p.Due addr frameMustDiffer frame := by
  have hmask : addr &&& 0x00FFFFFF ≠ ngGeneratedSmokeYieldAddrNone := by
    intro h
    have htop := congrArg (fun v : BitVec 32 => v.getLsbD 31) h
    simp [ngGeneratedSmokeYieldAddrNone] at htop
  unfold Meets ngGeneratedSmokeSetInstructionYieldFrameStop ngGeneratedSmokeSetInstructionYield
  dsimp only
  rw [if_neg haddr]
  exact or_congr_right (and_iff_right hmask)

/-- Generated code never yields to a breakpoint that is cleared. -/
theorem polled_clear (polls : List Poll) :
    ngGeneratedSmokeClearInstructionYield.polled polls =
      (polls.map fun _ => false, ngGeneratedSmokeClearInstructionYield) :=
  polled_passes fun p _ => not_meets_strike ngGeneratedSmokeClearInstructionYield 0 0 p

/-- A breakpoint set at an address is met once, at the first question that is due, and what is
recorded is that question. -/
theorem polled_set (y : SmokeYield) {addr : BitVec 32}
    (haddr : addr ≠ ngGeneratedSmokeYieldAddrNone) (frameMustDiffer frame : BitVec 32)
    {before after : List Poll} {p : Poll}
    (hbefore : ∀ q ∈ before, ¬ q.Due addr frameMustDiffer frame)
    (hp : p.Due addr frameMustDiffer frame) :
    let out := ((y.ngGeneratedSmokeSetInstructionYield addr
      frameMustDiffer).ngGeneratedSmokeSetInstructionYieldFrameStop frame).polled
        (before ++ p :: after)
    out.1 = before.map (fun _ => false) ++ true :: after.map (fun _ => false) ∧
      out.2.hit = true ∧ out.2.hitAddr = p.addr &&& 0x00FFFFFF ∧ out.2.hitFrame = p.frame := by
  intro out
  have hout : out = _ := polled_first
    (fun q hq => (meets_set y haddr frameMustDiffer frame q).not.mpr (hbefore q hq))
    ((meets_set y haddr frameMustDiffer frame p).mpr hp)
  rw [hout]
  exact ⟨rfl, rfl, rfl, rfl⟩

end SmokeYield

end NeoRecomp
