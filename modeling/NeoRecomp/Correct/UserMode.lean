import NeoRecomp.Correct.Exceptions
import NeoRecomp.Correct.Trampoline
import NeoRecomp.Emit.Frame
import NeoRecomp.Emit.RelatesBody

/-!
# User mode is confined

Code that runs with the S bit clear keeps the system byte of SR and both inactive stack pointers for
as long as it runs.  It gets to supervisor mode only by returning through exception frames on the
supervisor stack, through an interrupt frame, or through a reset.
-/

namespace NeoRecomp

open Gen

variable {β α γ : Type}

/-! ## Entering supervisor mode -/

/-- SR after exceptions taken one on top of the other. -/
def framesSr (sr : BitVec 16) (es : List ExceptionEntry) : BitVec 16 :=
  es.foldl (fun sr e => e.nextSr sr) sr

/-- Supervisor mode was entered by one or two frames on the supervisor stack, or by a reset. -/
inductive EntersSupervisor (g g' : NgM68kState) : Prop
  | frames (es : List ExceptionEntry) (ne : es ≠ []) (le : es.length ≤ 2)
      (sr : systemBits g'.sr = systemBits (framesSr g.sr es))
      (sp : supervisorSp g' = supervisorSp g - 6 * BitVec.ofNat 32 es.length)
  | reset (sr : g'.sr = 0x2700)

theorem systemBits_nextSr (e : ExceptionEntry) {sr sr' : BitVec 16}
    (h : systemBits sr = systemBits sr') :
    systemBits (e.nextSr sr) = systemBits (e.nextSr sr') := by
  have hbit := fun i => congrArg (fun v => v.getLsbD i) h
  apply BitVec.eq_of_getLsbD_eq
  intro i hi
  have hb := hbit i
  unfold systemBits at hb ⊢
  simp only [BitVec.getLsbD_and] at hb
  cases e <;>
    simp only [ExceptionEntry.nextSr, BitVec.getLsbD_and, BitVec.getLsbD_or] <;>
    cases hm : (0xFFE0#16).getLsbD i <;> simp_all

theorem systemBits_framesSr (es : List ExceptionEntry) {sr sr' : BitVec 16}
    (h : systemBits sr = systemBits sr') :
    systemBits (framesSr sr es) = systemBits (framesSr sr' es) := by
  induction es generalizing sr sr' with
  | nil => exact h
  | cons e es ih => exact ih (systemBits_nextSr e h)

theorem srHas_s_systemBits (sr : BitVec 16) : srHas (systemBits sr) ngSrS = srHas sr ngSrS := by
  rw [srHas_s, srHas_s]
  unfold systemBits
  simp

theorem srHas_t_systemBits (sr : BitVec 16) : srHas (systemBits sr) ngSrT = srHas sr ngSrT := by
  rw [srHas_t, srHas_t]
  unfold systemBits
  simp

/-- Every way in sets S and clears T. -/
theorem EntersSupervisor.mode {g g' : NgM68kState} (h : EntersSupervisor g g') :
    srHas g'.sr ngSrS = true ∧ srHas g'.sr ngSrT = false := by
  cases h with
  | reset sr => rw [sr]; decide
  | frames es ne le sr sp =>
    have hlast (sr : BitVec 16) :
        srHas (framesSr sr es) ngSrS = true ∧ srHas (framesSr sr es) ngSrT = false := by
      obtain ⟨es, e, rfl⟩ := List.eq_nil_or_concat es |>.resolve_left ne
      rw [List.concat_eq_append, framesSr, List.foldl_append]
      exact e.srHas_nextSr _
    rw [← srHas_s_systemBits, ← srHas_t_systemBits, sr, srHas_s_systemBits, srHas_t_systemBits]
    exact hlast g.sr

/-! ## The two relations -/

/-- Code that goes on in user mode has changed nothing of the system. -/
def UserKeeps (m m' : Machine β) : Prop :=
  srHas m.cpu.sr ngSrS = false → m.cpu.SameSystem m'.cpu

/-- Code that returns in user mode has changed nothing of the system or has entered supervisor
mode. -/
def UserLeaves (m m' : Machine β) : Prop :=
  srHas m.cpu.sr ngSrS = false → m.cpu.SameSystem m'.cpu ∨ EntersSupervisor m.cpu m'.cpu

theorem NgM68kState.SameSystem.user {g g' : NgM68kState} (h : g.SameSystem g')
    (hu : srHas g.sr ngSrS = false) : srHas g'.sr ngSrS = false := by
  rw [← srHas_s_systemBits, h.sr, srHas_s_systemBits]
  exact hu

theorem NgM68kState.SameSystem.supervisorSp {g g' : NgM68kState} (h : g.SameSystem g')
    (hu : srHas g.sr ngSrS = false) : supervisorSp g' = supervisorSp g := by
  unfold NeoRecomp.supervisorSp
  rw [hu, h.user hu]
  exact h.ssp

theorem EntersSupervisor.of_same {g g' g'' : NgM68kState} (hu : srHas g.sr ngSrS = false)
    (h : g.SameSystem g') (h' : EntersSupervisor g' g'') : EntersSupervisor g g'' := by
  cases h' with
  | reset sr => exact .reset sr
  | frames es ne le sr sp =>
    refine .frames es ne le (sr.trans (systemBits_framesSr es h.sr)) ?_
    rw [sp, h.supervisorSp hu]

variable [GeneratedAbi β]

instance userKeeps_machine : MachineRelation (UserKeeps (β := β)) UserLeaves where
  refl m _ := .refl m.cpu
  trans h h' hu := (h hu).trans (h' ((h hu).user hu))
  leave h hu := .inl (h hu)
  after h h' hu := by
    rcases h' ((h hu).user hu) with hs | he
    · exact .inl ((h hu).trans hs)
    · exact .inr (he.of_same hu (h hu))
  log m _ _ := .refl m.cpu
  bus m _ _ _ := .refl m.cpu

/-! ## Traps -/

/-- One frame of `e` lies on the supervisor stack. -/
structure Framed (e : ExceptionEntry) (m m' : Machine β) : Prop where
  sr : m'.cpu.sr = e.nextSr m.cpu.sr
  sp : supervisorSp m'.cpu = supervisorSp m.cpu - 6

theorem push_framed (e : ExceptionEntry) (m : Machine β) :
    ∃ m', e.push m = .next () m' ∧ m'.traceSr = m.traceSr ∧ Framed e m m' := by
  obtain ⟨m', hm, -, -, hsr, -, hsp, -⟩ := e.push_apply m
  refine ⟨m', hm, ?_, hsr, hsp⟩
  rw [e.push_eq] at hm
  cases hm
  rfl

/-- A frame, a dispatch through a vector and a `return`. -/
theorem framed_of_vector (e : ExceptionEntry) (vector : BitVec 32) (m : Machine β) :
    ∃ m', (do e.push; dispatch (← read32 vector); ret : Gen β Unit) m = .exit .ret m' ∧
      Framed e m m' := by
  obtain ⟨m₁, hm, -, hf⟩ := push_framed e m
  rw [bind_of_next hm]
  exact ⟨_, rfl, hf.sr, hf.sp⟩

/-- The trace test returns through a frame, or does nothing. -/
theorem traceOrReturn_cases (pc : BitVec 32) (m : Machine β) :
    traceOrReturn pc m = .next () m ∨
      ∃ m', traceOrReturn pc m = .exit .ret m' ∧ Framed (.exception pc) m m' := by
  unfold traceOrReturn ngServiceTrace
  rw [bind_of_next (getTraceSr_apply m)]
  by_cases ht : srHas m.traceSr ngSrT = true
  · right
    obtain ⟨m₁, hm, -, hf⟩ := push_framed (.exception pc) m
    have hpush : ngPushExceptionFrame pc m = .next () m₁ := hm
    simp only [if_pos ht]
    rw [bind_assoc, bind_of_next hpush]
    exact ⟨_, rfl, ⟨hf.sr, hf.sp⟩⟩
  · left
    simp only [if_neg ht]
    rfl

/-- The privilege test returns through a frame in user mode. -/
theorem emitRequireSupervisor_user (pc : BitVec 32) {m : Machine β}
    (hu : srHas m.cpu.sr ngSrS = false) :
    ∃ e m', emitRequireSupervisor pc m = .exit .ret m' ∧ Framed e m m' := by
  have hs : ¬ srHas m.cpu.sr ngSrS = true := by simp [hu]
  obtain ⟨m₁, hm, -, hf⟩ := push_framed (.exception (pc &&& 0x00FFFFFF)) m
  have hpush : ngPushExceptionFrame (pc &&& 0x00FFFFFF) m = .next () m₁ := hm
  unfold emitRequireSupervisor ngRequireSupervisor
  rw [bind_assoc, bind_of_next (getCpu_apply m), if_neg hs, bind_assoc, bind_of_next hpush]
  exact ⟨_, _, rfl, ⟨hf.sr, hf.sp⟩⟩

section Frames
omit [GeneratedAbi β]
variable {e e' : ExceptionEntry} {m m' m'' : Machine β}

theorem Framed.enters (h : Framed e m m') : EntersSupervisor m.cpu m'.cpu := by
  refine .frames [e] (by simp) (by simp) (congrArg systemBits h.sr) ?_
  rw [h.sp]
  rfl

theorem Framed.trans_enters (h : Framed e m m') (h' : Framed e' m' m'') :
    EntersSupervisor m.cpu m''.cpu := by
  refine .frames [e, e'] (by simp) (by simp) (congrArg systemBits ?_) ?_
  · rw [h'.sr, h.sr]
    rfl
  · rw [h'.sp, h.sp]
    exact BitVec.sub_sub ..

end Frames

/-- Code that returns through frames, or does nothing. -/
theorem relates_of_traps {x : Gen β Unit}
    (h : ∀ m, x m = .next () m ∨
      ∃ m', x m = .exit .ret m' ∧ EntersSupervisor m.cpu m'.cpu) :
    Relates UserKeeps UserLeaves x where
  next m u m' hm := by
    rcases h m with h | ⟨m₁, h, -⟩ <;> rw [h] at hm <;> cases hm
    exact userKeeps_machine.refl m
  goto m label m' hm := by
    rcases h m with h | ⟨m₁, h, -⟩ <;> rw [h] at hm <;> cases hm
  ret m m' hm := by
    rcases h m with h | ⟨m₁, h, he⟩ <;> rw [h] at hm <;> cases hm
    exact fun _ => .inr he

theorem trapThrough_enters (instr : NgM68kInstr) (addr : BitVec 32) (m : Machine β) :
    ∃ m', trapThrough instr addr m = .exit .ret m' ∧ EntersSupervisor m.cpu m'.cpu := by
  unfold trapThrough traceDispatchReturn
  obtain ⟨m₁, hm, -, hf⟩ :=
    push_framed (.exception ((instr.addr + instr.byteLength.setWidth 32) &&& 0x00FFFFFF)) m
  have hpush : ngPushExceptionFrame ((instr.addr + instr.byteLength.setWidth 32) &&& 0x00FFFFFF) m =
      .next () m₁ := hm
  rw [bind_of_next hpush, bind_of_next (read32_apply addr m₁)]
  -- The read of the vector changes neither SR nor A7.
  have hread : Framed (.exception ((instr.addr + instr.byteLength.setWidth 32) &&& 0x00FFFFFF)) m
      { m₁ with bus := (abiRead 4 addr m₁.bus).2, log := m₁.log ++ [.read 4 addr] } :=
    ⟨hf.sr, hf.sp⟩
  rcases traceOrReturn_cases (abiRead 4 addr m₁.bus).1
    { m₁ with bus := (abiRead 4 addr m₁.bus).2, log := m₁.log ++ [.read 4 addr] }
    with ht | ⟨m', ht, hf'⟩
  · rw [bind_of_next ht]
    exact ⟨_, rfl, Framed.enters (e := _) ⟨hf.sr, hf.sp⟩⟩
  · rw [bind_of_exit ht]
    exact ⟨m', rfl, hread.trans_enters hf'⟩

instance userKeeps_code : CodeRelation (UserKeeps (β := β)) UserLeaves where
  cpu _ _ h _ := h
  trace pc := relates_of_traps fun m => by
    rcases traceOrReturn_cases pc m with h | ⟨m', h, hf⟩
    · exact .inl h
    · exact .inr ⟨m', h, hf.enters⟩
  vector v pc := relates_of_traps fun m => by
    obtain ⟨m', h, hf⟩ :=
      framed_of_vector (.exception (pc &&& 0x00FFFFFF)) (v.setWidth 32 * 4) m
    exact .inr ⟨m', h, hf.enters⟩
  trap instr addr := relates_of_traps fun m => .inr (trapThrough_enters instr addr m)

/-! ## Interrupts and resets -/

/-- The reset test dispatches the reset vector, or does nothing but ask. -/
theorem ngServiceReset_cases (m : Machine β) :
    (∃ m', ngServiceReset m = .next false m' ∧ m'.cpu = m.cpu) ∨
      ∃ m', ngServiceReset m = .next true m' ∧ m'.cpu.sr = 0x2700 := by
  unfold ngServiceReset
  rw [bind_of_next (call_apply _ m)]
  cases (GeneratedAbi.takeReset m.bus).1 with
  | none => exact .inl ⟨_, rfl, rfl⟩
  | some out => exact .inr ⟨_, rfl, rfl⟩

/-- The interrupt test takes a reset or a frame, or leaves the CPU record alone. -/
theorem ngServiceInterrupt_cases (pc : BitVec 32) (m : Machine β) :
    (∃ m', ngServiceInterrupt pc m = .next false m' ∧ m'.cpu = m.cpu) ∨
      ∃ m', ngServiceInterrupt pc m = .next true m' ∧ EntersSupervisor m.cpu m'.cpu := by
  unfold ngServiceInterrupt
  rw [bind_of_next (getCpu_apply m)]
  rcases ngServiceReset_cases m with ⟨m₁, hm, hcpu⟩ | ⟨m₁, hm, hsr⟩
  · rw [bind_of_next hm]
    simp only [Bool.false_eq_true, if_false]
    rw [bind_of_next (call_apply _ m₁)]
    generalize GeneratedAbi.takeInterrupt _ m₁.bus = taken
    rcases ngServiceReset_cases { m₁ with bus := taken.2 } with ⟨m₂, hm₂, hcpu₂⟩ | ⟨m₂, hm₂, hsr⟩
    · rw [bind_of_next hm₂]
      have hsame : m₂.cpu = m.cpu := hcpu₂.trans hcpu
      cases htaken : taken.1 with
      | none => exact .inl ⟨m₂, rfl, hsame⟩
      | some out =>
        obtain ⟨m₃, hm₃, -, hf⟩ := push_framed (.interrupt pc out.1) m₂
        have hpush : ngPushInterruptFrame pc out.1 m₂ = .next () m₃ := hm₃
        simp only [Bool.false_eq_true, if_false]
        rw [bind_of_next hpush]
        exact .inr ⟨_, rfl, hsame ▸ hf.enters⟩
    · rw [bind_of_next hm₂]
      exact .inr ⟨m₂, rfl, .reset hsr⟩
  · rw [bind_of_next hm]
    exact .inr ⟨m₁, rfl, .reset hsr⟩

theorem interruptOrReturn_user (pc : BitVec 32) :
    Relates (UserKeeps (β := β)) UserLeaves (interruptOrReturn pc) := by
  have hcases (m : Machine β) : (∃ m', interruptOrReturn pc m = .next () m' ∧ m'.cpu = m.cpu) ∨
      ∃ m', interruptOrReturn pc m = .exit .ret m' ∧ EntersSupervisor m.cpu m'.cpu := by
    unfold interruptOrReturn
    rcases ngServiceInterrupt_cases pc m with ⟨m', hm, hcpu⟩ | ⟨m', hm, he⟩
    · rw [bind_of_next hm]
      exact .inl ⟨m', rfl, hcpu⟩
    · rw [bind_of_next hm]
      exact .inr ⟨m', rfl, he⟩
  constructor
  · intro m u m' hm hu
    rcases hcases m with ⟨m₁, h, hcpu⟩ | ⟨m₁, h, -⟩ <;> rw [h] at hm <;> cases hm
    rw [hcpu]
    exact .refl m.cpu
  · intro m label m' hm
    rcases hcases m with ⟨m₁, h, -⟩ | ⟨m₁, h, -⟩ <;> rw [h] at hm <;> cases hm
  · intro m m' hm hu
    rcases hcases m with ⟨m₁, h, -⟩ | ⟨m₁, h, he⟩ <;> rw [h] at hm <;> cases hm
    exact .inr he

/-! ## Privileged instructions -/

/-- Behind the privilege test everything is allowed: user mode does not get there. -/
theorem guarded_user (pc : BitVec 32) (rest : Unit → Gen β Unit) :
    Relates UserKeeps UserLeaves (emitRequireSupervisor pc >>= rest) := by
  constructor
  · intro m u m' hm hu
    obtain ⟨_, m₁, hm₁, -⟩ := bind_eq_next hm
    exact absurd (emitRequireSupervisor_next hm₁).2 (by simp [hu])
  all_goals intro m
  · intro label m' hm hu
    obtain ⟨e, m₁, hm₁, -⟩ := emitRequireSupervisor_user pc hu
    rw [bind_of_exit hm₁] at hm
    cases hm
  · intro m' hm hu
    obtain ⟨e, m₁, hm₁, hf⟩ := emitRequireSupervisor_user pc hu
    rw [bind_of_exit hm₁] at hm
    cases hm
    exact .inr hf.enters

theorem emitMoveSrCcr_user (instr : NgM68kInstr) (hm : instr.mnemonic = .moveSr)
    (hdst : instr.dst.mode = .none) :
    Relates (UserKeeps (β := β)) UserLeaves
      (orUnsupported instr (emitMoveSrCcr instr)).text := by
  unfold emitMoveSrCcr
  rw [if_neg (by simp [hm]), if_neg (by simp [hdst])]
  split_ifs
  · cases emitEaRead (β := β) instr.src 2 with
    | none => exact guarded_user _ _
    | some rd => exact guarded_user _ _
  · exact orUnsupported_relates instr .rejected

theorem emitInstr_privileged_user (instr : NgM68kInstr) (h : privileged instr = true) :
    Relates (UserKeeps (β := β)) UserLeaves (emitInstr instr).text := by
  unfold privileged at h
  unfold emitInstr
  cases hm : instr.mnemonic <;> rw [hm] at h
  case reset => exact guarded_user _ _
  case stop => exact guarded_user _ _
  case rte => exact guarded_user _ _
  case moveUsp =>
    dsimp only
    unfold emitMoveUsp
    split_ifs
    all_goals exact guarded_user _ _
  case moveSr => exact emitMoveSrCcr_user instr hm (of_decide_eq_true h)
  case oriToSr | andiToSr | eoriToSr =>
    unfold emitImmediateToSrCcr
    rw [hm]
    exact guarded_user _ _
  all_goals cases h

/-! ## Bodies -/

instance userKeeps_body : BodyRelation (UserKeeps (β := β)) UserLeaves where
  traceSr m _ _ := .refl m.cpu
  interrupt := interruptOrReturn_user
  privileged := emitInstr_privileged_user

/-- A body that starts in user mode stays in user mode, with the system byte and the inactive stack
pointers it started with, up to the moment it returns.  A step of the program that starts in user
mode ends there as well, or in supervisor mode with T clear: through one or two exception frames on
the supervisor stack, through an interrupt frame, or through a reset. -/
theorem user_mode_confined (p : EmittedProgram β) {m : Machine β}
    (hu : srHas m.cpu.sr ngSrS = false) :
    (∀ (body : List BodyItem) (i : Nat) (m' : Machine β),
      BodyRun p.cycles body m (.item i) m' → m.cpu.SameSystem m'.cpu) ∧
    ∀ (addr : BitVec 32) (m' : Machine β), StepRun p addr m m' →
      m.cpu.SameSystem m'.cpu ∨
        (EntersSupervisor m.cpu m'.cpu ∧ srHas m'.cpu.sr ngSrS = true ∧
          srHas m'.cpu.sr ngSrT = false) := by
  constructor
  · intro body i m' h
    exact h.relates (R := UserKeeps) (E := UserLeaves) hu
  · intro addr m' h
    have hh : HandlerRelates UserKeeps p := fun _ _ _ m _ => .refl m.cpu
    rcases h.relates (E := UserLeaves) hh hu with hs | he
    · exact .inl hs
    · exact .inr ⟨he, he.mode⟩

theorem rteImage_size :
    (#[0x4E, 0x71, 0x4E, 0x73] : Array (BitVec 8)).size = (4 : BitVec 32).toNat := rfl

/-- NOP and RTE. -/
def rteProgram : EmittedProgram Ram where
  rom := { data := #[0x4E, 0x71, 0x4E, 0x73], size := 4, size_eq := rteImage_size }
  discovery := rtsProgram.discovery
  step := generatedStep rtsProgram.discovery
  cycles _ := 16

def nopItem : BodyItem :=
  .decoded false { addr := 0, opcode := 0x4E71, mnemonic := .nop, byteLength := 2 }

def rteItem : BodyItem :=
  .decoded false { addr := 2, opcode := 0x4E73, mnemonic := .rte, byteLength := 2 }

theorem rteProgram_body :
    candidateBody Ram rteProgram.rom rteProgram.discovery 0 = [nopItem, rteItem] := by
  decide +kernel

/-- RTE in user mode traps: a frame, and supervisor mode. -/
theorem user_mode_confined_rte :
    ∃ m₁ m₂,
      BodyRun rteProgram.cycles [nopItem, rteItem] zeroedMachine (.item 1) m₁ ∧
      zeroedMachine.cpu.SameSystem m₁.cpu ∧ StepRun rteProgram 0 zeroedMachine m₂ ∧
      EntersSupervisor zeroedMachine.cpu m₂.cpu ∧ srHas m₂.cpu.sr ngSrS = true ∧
      srHas m₂.cpu.sr ngSrT = false := by
  have hu : srHas zeroedMachine.cpu.sr ngSrS = false := by decide
  obtain ⟨m₁, m₂, hnop, hrte, hS⟩ : ∃ m₁ m₂,
      bodyStep rteProgram.cycles [nopItem, rteItem] 0 zeroedMachine = some (.item 1, m₁) ∧
      bodyStep rteProgram.cycles [nopItem, rteItem] 1 m₁ = some (.returned, m₂) ∧
      srHas m₂.cpu.sr ngSrS = true := ⟨_, _, rfl, rfl, rfl⟩
  have hbody : BodyRun rteProgram.cycles [nopItem, rteItem] zeroedMachine (.item 1) m₁ :=
    .step .start hnop
  have hrun : StepRun rteProgram 0 zeroedMachine m₂ := by
    refine .function (i := 0) (by decide +kernel) ?_
    rw [rteProgram_body]
    exact .step hbody hrte
  obtain ⟨hitem, hstep⟩ := user_mode_confined rteProgram hu
  refine ⟨m₁, m₂, hbody, hitem _ 1 m₁ hbody, hrun, (hstep 0 m₂ hrun).resolve_left fun hs => ?_⟩
  rw [hs.user hu] at hS
  cases hS

end NeoRecomp
