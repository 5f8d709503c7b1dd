import NeoRecomp.Correct.Arithmetic
import NeoRecomp.Correct.Exceptions

/-!
# Code that takes an exception

Every exception of the emitted code starts with the same accesses: the return address and the old SR
go on the supervisor stack, and the vector is fetched.
-/

namespace NeoRecomp

open Gen

section Abi
variable {β α : Type} [GeneratedAbi β]

/-! ## Leaving the function -/

/-- From every machine `x` reaches a `return;` with the data registers as they were. -/
def Leaves (x : Gen β α) : Prop :=
  ∀ m, ∃ m' rest, x m = .exit .ret m' ∧ m'.log = m.log ++ rest ∧ m'.cpu.d = m.cpu.d

omit [GeneratedAbi β] in
theorem leaves_dispatch (addr : BitVec 32) : Leaves (do dispatch addr; ret : Gen β α) :=
  fun m => ⟨{ m with log := m.log ++ [.dispatch (addr &&& 0x00FFFFFF)] }, _, rfl, rfl, rfl⟩

/-! ## Taking an exception -/

/-- The accesses of an exception entry. -/
def exceptionAccesses (vector returnPc : BitVec 32) (g : NgM68kState) : List Event :=
  [.write 4 (supervisorSp g - 4) returnPc, .write 2 (supervisorSp g - 6) (g.sr.setWidth 32),
    .read 4 vector]

/-- From `m` to the outcome a frame with `returnPc` was pushed, the vector was fetched, and the
function returned. -/
def TakesException (vector returnPc : BitVec 32) (m : Machine β) (o : Outcome β α) : Prop :=
  ∃ m' rest, o = .exit .ret m' ∧
    m'.log = m.log ++ (exceptionAccesses vector returnPc m.cpu ++ rest) ∧ m'.cpu.d = m.cpu.d

/-- A pushed frame, the fetch of the vector, and code that leaves. -/
theorem takesException_of_leaves {k : BitVec 32 → Gen β α} (hk : ∀ pc, Leaves (k pc))
    (vector returnPc : BitVec 32) (m : Machine β) :
    TakesException vector (addr24 returnPc) m ((do
      ngPushExceptionFrame returnPc
      let pc ← read32 vector
      k pc) m) := by
  have hpush := (ExceptionEntry.exception returnPc).push_eq m
  have hd : (ngSetSr (ExceptionEntry.nextSr m.cpu.sr (.exception returnPc)) m.cpu).d = m.cpu.d :=
    ngSetSr_d _ _
  rw [show (ExceptionEntry.exception returnPc).push = ngPushExceptionFrame (β := β) returnPc
    from rfl] at hpush
  rw [TakesException, bind_of_next hpush, bind_apply, read32_apply]
  obtain ⟨m', rest, hrun, hlog, hreg⟩ := hk _ _
  refine ⟨m', rest, hrun, ?_, hreg.trans hd⟩
  rw [hlog]
  simp [exceptionAccesses, ExceptionEntry.returnPc]

/-- With the trace bit sampled, the trace exception is taken. -/
theorem traceOrReturn_of_trace {m : Machine β} (ht : srHas m.traceSr ngSrT = true)
    (pc : BitVec 32) :
    (traceOrReturn pc : Gen β Unit) m = (do
      ngPushExceptionFrame pc
      let addr ← read32 0x00000024
      dispatch addr
      ret) m := by
  show (do
    let traced ← ngServiceTrace pc m.traceSr
    if traced then ret else pure () : Gen β Unit) m = _
  rw [ngServiceTrace, if_pos ht]
  simp only [bind_assoc, pure_bind, if_true]

/-- Without it the test falls through. -/
theorem traceOrReturn_of_untraced {m : Machine β} (ht : srHas m.traceSr ngSrT = false)
    (pc : BitVec 32) : (traceOrReturn pc : Gen β Unit) m = .next () m := by
  show (do
    let traced ← ngServiceTrace pc m.traceSr
    if traced then ret else pure () : Gen β Unit) m = _
  rw [ngServiceTrace, if_neg (by rw [ht]; decide)]
  rfl

/-- The traced jump at the end of an exception or of a control transfer. -/
theorem leaves_traceDispatchReturn (pc : BitVec 32) :
    Leaves (traceDispatchReturn pc : Gen β Unit) := by
  intro m
  by_cases ht : srHas m.traceSr ngSrT = true
  · obtain ⟨m', rest, hrun, hlog, hd⟩ := takesException_of_leaves (α := Unit)
      (fun a => leaves_dispatch a) 0x00000024 pc m
    rw [← traceOrReturn_of_trace ht] at hrun
    exact ⟨m', _, bind_of_exit hrun _, hlog, hd⟩
  · refine ⟨{ m with log := m.log ++ [.dispatch (pc &&& 0x00FFFFFF)] }, _, ?_, rfl, rfl⟩
    rw [traceDispatchReturn, bind_of_next (traceOrReturn_of_untraced (Bool.not_eq_true _ ▸ ht) pc)]
    rfl

/-! ## The exceptions of the emitted code -/

/-- TRAP, a taken TRAPV, a failed CHK and a division by zero. -/
theorem takesException_trap (instr : NgM68kInstr) (vector : BitVec 32) (m : Machine β) :
    TakesException vector (nextPc instr) m (trapThrough instr vector m) := by
  have h : TakesException vector (addr24 (nextPc instr)) m (trapThrough instr vector m) :=
    takesException_of_leaves leaves_traceDispatchReturn vector (nextPc instr) m
  rwa [show addr24 (nextPc instr) = nextPc instr from addr24_addr24 _] at h

/-- ILLEGAL. -/
theorem takesException_vector (vector : BitVec 8) (pc : BitVec 32) (m : Machine β) :
    TakesException (vector.setWidth 32 * 4) (addr24 pc) m
      (emitExceptionVectorCall vector pc m) := by
  have h : TakesException (vector.setWidth 32 * 4) (addr24 (addr24 pc)) m
      (emitExceptionVectorCall vector pc m) :=
    takesException_of_leaves (fun a => leaves_dispatch a) (vector.setWidth 32 * 4) (addr24 pc) m
  rwa [addr24_addr24] at h

/-- Without the S bit the privilege test takes the exception. -/
theorem emitRequireSupervisor_of_user (pc : BitVec 32) {m : Machine β}
    (hs : srHas m.cpu.sr ngSrS = false) :
    (emitRequireSupervisor pc : Gen β Unit) m = (do
      ngPushExceptionFrame (addr24 pc)
      let addr ← read32 0x00000020
      dispatch addr
      ret) m := by
  have htest : (ngRequireSupervisor (addr24 pc) : Gen β Bool) m = (do
      ngPushExceptionFrame (addr24 pc)
      let addr ← read32 0x00000020
      dispatch addr
      pure false) m := by
    show (if srHas m.cpu.sr ngSrS = true then pure true else _ : Gen β Bool) m = _
    rw [if_neg (by rw [hs]; decide)]
  show (ngRequireSupervisor (addr24 pc) >>= fun b =>
    if b then pure () else ret : Gen β Unit) m = _
  rw [bind_apply, htest, ← bind_apply]
  simp only [bind_assoc, pure_bind, Bool.false_eq_true, if_false]

/-- A privileged instruction in user mode, whatever comes after the test. -/
theorem takesException_privilege (pc : BitVec 32) {m : Machine β}
    (hs : srHas m.cpu.sr ngSrS = false) (x : Unit → Gen β α) :
    TakesException 0x00000020 (addr24 pc) m ((emitRequireSupervisor pc >>= x) m) := by
  obtain ⟨m', rest, hrun, hlog, hd⟩ := takesException_of_leaves (β := β) (α := Unit)
    (fun a => leaves_dispatch a) 0x00000020 (addr24 pc) m
  rw [← emitRequireSupervisor_of_user pc hs] at hrun
  rw [addr24_addr24] at hlog
  exact ⟨m', rest, bind_of_exit hrun x, hlog, hd⟩

/-! ## Operand code -/

/-- Reading an operand falls through and keeps everything but the bus and an address register it
steps. -/
theorem emitEaRead_next {ea : NgM68kEa} {size : BitVec 8} {rd : Gen β CExpr}
    (h : emitEaRead ea size = some rd) (m : Machine β) :
    ∃ e m', rd m = .next e m' ∧ m'.cpu.d = m.cpu.d ∧ m'.cpu.sr = m.cpu.sr ∧
      m'.traceSr = m.traceSr := by
  unfold emitEaRead at h
  cases hm : ea.mode <;> simp only [hm, Option.some.injEq, reduceCtorEq] at h <;> subst h
  all_goals
    simp only [readThrough, stepUp, stepDown, bind_apply, getCpu_apply, modifyCpu_apply,
      readSize_apply, pure_apply]
    exact ⟨_, _, rfl, rfl, rfl, rfl⟩

end Abi

end NeoRecomp
