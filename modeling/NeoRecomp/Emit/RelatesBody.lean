import NeoRecomp.Emit.Program
import NeoRecomp.Emit.RelatesInstr

/-!
# Whole runs respect body relations

Relations that allow interrupts and privileged instructions as well are respected by bodies, by
steps of the emitted program and by its dispatch loop.  One that allows every change of the CPU
record does.
-/

namespace NeoRecomp

open Gen

set_option synthInstance.maxSize 512

variable {β α : Type} [GeneratedAbi β]

/-- `if (ng_service_interrupt(pc)) return;` -/
def interruptOrReturn (pc : BitVec 32) : Gen β Unit := do
  if ← ngServiceInterrupt pc then ret

theorem interruptOrReturn_bind (pc : BitVec 32) (rest : Gen β Unit) :
    (do if ← ngServiceInterrupt pc then ret
        rest) = (do interruptOrReturn pc; rest) := by
  unfold interruptOrReturn
  rw [bind_assoc]
  congr 1
  funext served
  cases served <;> rfl

/-- Relations that allow what a body does. -/
class BodyRelation (R E : Machine β → Machine β → Prop) : Prop extends CodeRelation R E where
  traceSr : ∀ (m : Machine β) v, R m { m with traceSr := v }
  interrupt : ∀ pc, Relates R E (interruptOrReturn pc)
  privileged : ∀ instr, privileged instr = true → Relates R E (emitInstr instr).text

/-! ## Free relations -/

section Free
variable {R : Machine β → Machine β → Prop} [hR : FreeRelation R]

theorem relates_anyCpu (f : NgM68kState → NgM68kState) : Relates R R (modifyCpu f : Gen β Unit) :=
  relates_of_next (fun _ => rfl) fun m => hR.cpu m (f m.cpu)

theorem free_pushLong (v : BitVec 32) : Relates R R (pushLong v : Gen β Unit) := by
  have := relates_anyCpu (R := R) fun g => g.setA 7 (g.a 7 - 4)
  unfold pushLong; infer_instance

theorem free_pushWord (v : BitVec 16) : Relates R R (pushWord v : Gen β Unit) := by
  have := relates_anyCpu (R := R) fun g => g.setA 7 (g.a 7 - 2)
  unfold pushWord; infer_instance

instance free_pushExceptionFrame (pc : BitVec 32) :
    Relates R R (ngPushExceptionFrame pc : Gen β Unit) := by
  have hset := fun v => relates_anyCpu (R := R) (ngSetSr v)
  have hlong := free_pushLong (R := R)
  have hword := free_pushWord (R := R)
  unfold ngPushExceptionFrame; infer_instance

theorem free_traceOrReturn (pc : BitVec 32) : Relates R R (traceOrReturn pc : Gen β Unit) := by
  unfold traceOrReturn ngServiceTrace; infer_instance

/-- Exceptions change the CPU record and the stack only. -/
instance FreeRelation.code : CodeRelation R R where
  cpu m g _ := hR.cpu m g
  trace := free_traceOrReturn
  vector v pc := by unfold emitExceptionVectorCall; infer_instance
  trap instr addr := by
    have htrace := free_traceOrReturn (R := R)
    unfold trapThrough traceDispatchReturn; infer_instance

instance (f : NgM68kState → NgM68kState) : Relates R R (modifyCpu f : Gen β Unit) :=
  relates_anyCpu f

instance (v : BitVec 16) : Relates R R (pushWord v : Gen β Unit) := free_pushWord v

instance (pc : BitVec 32) (level : BitVec 8) :
    Relates R R (ngPushInterruptFrame pc level : Gen β Unit) := by
  unfold ngPushInterruptFrame; dsimp only; infer_instance

instance (pc : BitVec 32) : Relates R R (emitRequireSupervisor pc : Gen β Unit) := by
  unfold emitRequireSupervisor ngRequireSupervisor; infer_instance

instance : Relates R R (sampleTraceSr : Gen β Unit) :=
  relates_of_next (fun _ => rfl) fun m => hR.traceSr m m.cpu.sr

instance : Relates R R (ngServiceReset : Gen β Bool) := by
  have := relates_call (R := R) (E := R) (f := GeneratedAbi.takeReset) fun _ => .takeReset
  unfold ngServiceReset
  refine @relates_bind _ _ _ _ _ _ _ _ _ inferInstance fun taken => ?_
  split <;> infer_instance

instance (pc : BitVec 32) : Relates R R (ngServiceInterrupt pc : Gen β Bool) := by
  unfold ngServiceInterrupt
  refine @relates_bind _ _ _ _ _ _ _ _ _ inferInstance fun g => ?_
  have := relates_call (R := R) (E := R)
    (f := GeneratedAbi.takeInterrupt (((g.sr >>> 8) &&& 7).setWidth 8)) fun _ => .takeInterrupt _
  refine @relates_bind _ _ _ _ _ _ _ _ _ inferInstance fun reset => ?_
  split_ifs
  · infer_instance
  · refine @relates_bind _ _ _ _ _ _ _ _ _ inferInstance fun taken => ?_
    refine @relates_bind _ _ _ _ _ _ _ _ _ inferInstance fun reset => ?_
    split_ifs
    · infer_instance
    · split <;> infer_instance

variable (instr : NgM68kInstr)

instance : Relates R R (stopText instr : Gen β Unit) := by
  have := relates_call (R := R) (E := R)
    (f := fun b : β => ((), GeneratedAbi.stopUntilInterrupt (instr.immediate.setWidth 16) b))
    fun _ => .stopUntilInterrupt _
  unfold stopText
  refine @relates_bind _ _ _ _ _ _ _ _ _ inferInstance fun _ => ?_
  refine @relates_bind _ _ _ _ _ _ _ _ _ inferInstance fun _ => ?_
  infer_instance

instance : Relates R R (rteText instr : Gen β Unit) := by
  unfold rteText
  refine @relates_bind _ _ _ _ _ _ _ _ _ inferInstance fun _ => ?_
  refine @relates_bind _ _ _ _ _ _ _ _ _ inferInstance fun _ => ?_
  infer_instance

theorem emitMoveUsp_relates : Relates R R (emitMoveUsp (β := β) instr).text := by
  unfold emitMoveUsp
  split_ifs <;> infer_instance

instance : (emitMoveSrCcr instr : Emission β).Relates R R := by
  unfold emitMoveSrCcr
  dsimp only
  split_ifs
  · infer_instance
  all_goals try infer_instance
  all_goals
    split
    · infer_instance
    · next h =>
      first
        | have := emitEaRead_relates (R := R) (E := R) h; infer_instance
        | have := emitEaWrite_relates (R := R) (E := R) h; infer_instance

instance : (emitImmediateToSrCcr instr : Emission β).Relates R R := by
  unfold emitImmediateToSrCcr
  dsimp only
  split <;> infer_instance

theorem emitInstr_privileged_free (h : privileged instr = true) :
    Relates R R (emitInstr (β := β) instr).text := by
  unfold privileged at h
  unfold emitInstr
  cases hm : instr.mnemonic <;> rw [hm] at h
  case reset =>
    have := relates_call (R := R) (E := R) (f := fun b : β => ((), GeneratedAbi.resetDevices b))
      fun _ => .resetDevices
    infer_instance
  case stop | rte => infer_instance
  case moveUsp => exact emitMoveUsp_relates instr
  case moveSr | oriToSr | andiToSr | eoriToSr => exact orUnsupported_relates _ _
  all_goals cases h

instance FreeRelation.body : BodyRelation R R where
  traceSr := hR.traceSr
  interrupt pc := by unfold interruptOrReturn; infer_instance
  privileged := emitInstr_privileged_free

end Free

/-! ## Bodies -/

section Body
variable {R E : Machine β → Machine β → Prop} [hR : BodyRelation R E]

instance (pc : BitVec 32) : Relates R E (interruptOrReturn pc : Gen β Unit) := hR.interrupt pc

instance : Relates R E (sampleTraceSr : Gen β Unit) :=
  relates_of_next (fun _ => rfl) fun m => hR.traceSr m m.cpu.sr

theorem emitInstr_relates_body (instr : NgM68kInstr) :
    Relates R E (emitInstr (β := β) instr).text := by
  cases h : privileged instr with
  | false => exact emitInstr_relates instr h
  | true => exact hR.privileged instr h

instance (cycles : NgM68kInstr → BitVec 8) (instr : NgM68kInstr) :
    Relates R E (instrPrologue cycles instr : Gen β Unit) := by
  have hhook := relates_call (R := R) (E := E)
    (f := fun b : β => ((), GeneratedAbi.instructionHook (addr24 instr.addr) b))
    fun _ => .instructionHook _
  have hyield := relates_call (R := R) (E := E)
    (f := (GeneratedAbi.shouldYield (addr24 instr.addr) : β → Bool × β)) fun _ => .shouldYield _
  have hcycles := relates_call (R := R) (E := E)
    (f := fun b : β =>
      ((), GeneratedAbi.cycleHook (addr24 instr.addr) ((cycles instr).setWidth 32) b))
    fun _ => .cycleHook _ _
  -- From the interrupt test on.
  have hserve : Relates R E (do
      if ← ngServiceInterrupt (addr24 instr.addr) then ret
      call fun b => ((), GeneratedAbi.cycleHook (addr24 instr.addr) ((cycles instr).setWidth 32) b)
      sampleTraceSr : Gen β Unit) := by
    rw [interruptOrReturn_bind]
    infer_instance
  unfold instrPrologue
  refine @relates_bind _ _ _ _ _ _ _ _ _ inferInstance fun _ => ?_
  refine @relates_bind _ _ _ _ _ _ _ _ _ inferInstance fun _ => ?_
  refine @relates_bind _ _ _ _ _ _ _ _ _ inferInstance fun yields => ?_
  split_ifs
  · refine @relates_bind _ _ _ _ _ _ _ _ _ inferInstance fun _ => ?_
    exact hserve
  · exact hserve

instance (instr : NgM68kInstr) : Relates R E (instrText instr : Gen β Unit) := by
  have := emitInstr_relates_body (R := R) (E := E) instr
  unfold instrText instrEpilogue; infer_instance

instance (cycles : NgM68kInstr → BitVec 8) (item : BodyItem) :
    Relates R E (item.code cycles : Gen β Unit) := by
  cases item <;> unfold BodyItem.code <;> infer_instance

/-- What a run up to a place of control relates. -/
def Control.relation (R E : Machine β → Machine β → Prop) : Control → Machine β → Machine β → Prop
  | .item _ => R
  | .returned => E

theorem bodyStep_relates {cycles : NgM68kInstr → BitVec 8} {body : List BodyItem} {i : Nat}
    {m m' : Machine β} {c : Control} (h : bodyStep cycles body i m = some (c, m')) :
    c.relation R E m m' := by
  unfold bodyStep at h
  cases hi : body[i]? with
  | none => rw [hi] at h; cases h; exact hR.leave (hR.refl m)
  | some item =>
    rw [hi] at h
    have hcode : Relates R E (item.code cycles : Gen β Unit) := inferInstance
    dsimp only at h
    cases hx : item.code cycles m with
    | next a m₁ => rw [hx] at h; cases h; exact hcode.next m a m' hx
    | exit e m₁ =>
      rw [hx] at h
      cases e with
      | ret => cases h; exact hcode.ret m m' hx
      | goto label =>
        simp only [Option.map_eq_some_iff, Prod.mk.injEq] at h
        obtain ⟨j, -, rfl, rfl⟩ := h
        exact hcode.goto m label m₁ hx

theorem BodyRun.relates {cycles : NgM68kInstr → BitVec 8} {body : List BodyItem} {m m' : Machine β}
    {c : Control} (h : BodyRun cycles body m c m') : c.relation R E m m' := by
  induction h with
  | start => exact hR.traceSr m 0
  | @step i m₁ c m₂ _ hs ih =>
    have hi := bodyStep_relates (R := R) (E := E) hs
    cases c with
    | item j => exact hR.trans ih hi
    | returned => exact hR.after ih hi

/-! ## The emitted program -/

omit hR in
/-- The host's handler respects the relation. -/
def HandlerRelates (R : Machine β → Machine β → Prop) (p : EmittedProgram β) : Prop :=
  ∀ f, p.handler = some f → ∀ addr (m : Machine β), R m { m with bus := (f addr m.bus).2 }

variable {p : EmittedProgram β} {addr : BitVec 32} {m m' : Machine β}

include hR in
theorem ngCallByAddress_relates (hh : HandlerRelates R p) (a : BitVec 32) (m : Machine β) :
    R m (ngCallByAddress p.handler a m) := by
  unfold ngCallByAddress
  cases hf : p.handler with
  | none => exact hR.log m _
  | some f =>
    dsimp only
    split_ifs
    · exact hh f hf _ m
    · exact hR.trans (hh f hf _ m) (hR.log { m with bus := (f (addr24 a) m.bus).2 } _)

theorem StepRun.relates (hh : HandlerRelates R p) (h : StepRun p addr m m') : E m m' := by
  have hpc : R m { m with cpu := m.cpu.setPc (addr24 addr) } := hR.cpu m _ ⟨rfl, rfl, rfl⟩
  cases h with
  | function _ hr => exact hR.after hpc (hr.relates (R := R) (E := E))
  | byAddress _ => exact hR.leave (hR.trans hpc (ngCallByAddress_relates (E := E) hh _ _))
  | nothing _ => exact hR.leave hpc

end Body

theorem CallLoop.relates {R : Machine β → Machine β → Prop} [hR : BodyRelation R R]
    {p : EmittedProgram β} {addr : BitVec 32} {m m' : Machine β}
    (hh : HandlerRelates R p) {steps : List (BitVec 32)} {s : DispatchSlot}
    (h : CallLoop p addr m steps s m') : R m m' := by
  induction h with
  | enter => exact hR.refl m
  | turn _ _ hr _ ih => exact hR.trans ih (hr.relates hh)

end NeoRecomp
