import NeoRecomp.Correct.CycleTiming
import NeoRecomp.Correct.SaveState
import NeoRecomp.Correct.Trampoline
import NeoRecomp.Emit.RelatesBody
import NeoRecomp.Runtime.Host

/-!
# The emitted program as a guest of the runtime

Whatever the emitted program does, the runtime below it performs a sequence of its own operations,
and only of those the ABI and the hooks offer.  So the invariants of the runtime hold over every run
of every emitted program, and what only the host sets stays set.
-/

namespace NeoRecomp

open NeogeoRuntime

/-! ## Operations of the guest -/

/-- The operations behind the ABI and the hooks. -/
def RuntimeOp.isGuest : RuntimeOp → Bool
  | .cpu _ | .read8 _ | .read16 _ | .read32 _ => true
  | .write8 _ _ | .write16 _ _ | .write32 _ _ => true
  | .advanceCpuCycles _ | .takeReset true true | .takeInterrupt _ true => true
  | _ => false

/-- The cycles an operation charges. -/
def RuntimeOp.cycles : RuntimeOp → Nat
  | .advanceCpuCycles cycles => cycles.toNat
  | _ => 0

/-- The runtime gets from one state to the other by operations of the guest. -/
def GuestRun (rt rt' : NeogeoRuntime) : Prop :=
  ∃ ops : List RuntimeOp, (∀ op ∈ ops, op.isGuest = true) ∧ rt' = (rt.run ops).2

theorem run_append_state (rt : NeogeoRuntime) (ops ops' : List RuntimeOp) :
    (rt.run (ops ++ ops')).2 = ((rt.run ops).2.run ops').2 := by
  induction ops generalizing rt with
  | nil => rfl
  | cons op ops ih => exact ih _

theorem GuestRun.refl (rt : NeogeoRuntime) : GuestRun rt rt := ⟨[], by simp, rfl⟩

theorem GuestRun.trans {rt rt' rt'' : NeogeoRuntime} (h : GuestRun rt rt')
    (h' : GuestRun rt' rt'') : GuestRun rt rt'' := by
  obtain ⟨ops, hg, rfl⟩ := h
  obtain ⟨ops', hg', rfl⟩ := h'
  refine ⟨ops ++ ops', fun op hop => ?_, (run_append_state rt ops ops').symm⟩
  rcases List.mem_append.mp hop with hop | hop
  · exact hg op hop
  · exact hg' op hop

theorem GuestRun.single (rt : NeogeoRuntime) (op : RuntimeOp) (h : op.isGuest = true) :
    GuestRun rt (op.step rt).2 :=
  ⟨[op], by simpa using h, rfl⟩

/-- A call of the ABI is an operation of the guest, or none at all. -/
theorem guestRun_of_abiStep {h h' : SmokeHost} (hs : AbiStep h h') :
    GuestRun h.runtime h'.runtime := by
  cases hs with
  | read8 addr => exact .single _ (.read8 addr) rfl
  | read16 addr => exact .single _ (.read16 addr) rfl
  | read32 addr => exact .single _ (.read32 addr) rfl
  | write8 addr v => exact .single _ (.write8 addr v) rfl
  | write16 addr v => exact .single _ (.write16 addr v) rfl
  | write32 addr v => exact .single _ (.write32 addr v) rfl
  | instructionHook addr => exact .single _ (.cpu (h.runtime.m68k.setPc addr)) rfl
  | cycleHook addr cycles => exact .single _ (.advanceCpuCycles cycles) rfl
  | shouldYield addr => exact .refl _
  | resetDevices => exact .refl _
  | stopUntilInterrupt sr => exact .refl _
  | takeReset => exact .single _ (.takeReset true true) rfl
  | takeInterrupt mask => exact .single _ (.takeInterrupt mask true) rfl

/-- From one machine to the other the runtime performs operations of the guest. -/
def GuestOnly (m m' : Machine SmokeHost) : Prop := GuestRun m.bus.runtime m'.bus.runtime

instance guestOnly_free : FreeRelation GuestOnly where
  refl _ := .refl _
  trans h h' := GuestRun.trans h h'
  leave h := h
  after h h' := GuestRun.trans h h'
  log _ _ := .refl _
  bus _ _ h := guestRun_of_abiStep h
  cpu _ _ := .refl _
  traceSr _ _ := .refl _

/-! ## What only the host sets -/

/-- The ROMs, the inputs and the intervals and limits the host has chosen. -/
structure HostSettings where
  toRomState : RomState
  p1cnt : BitVec 8
  p2cnt : BitVec 8
  statusA : BitVec 8
  statusB : BitVec 8
  systemInputLow : BitVec 8
  dipswitch : BitVec 8
  soundReply : BitVec 8
  autoVblankInterval : BitVec 32
  autoScanlineInterval : BitVec 32
  watchdogTimeoutPolls : BitVec 32
  watchdogTimeoutCycles : BitVec 32
  watchdogResetPc : BitVec 32
  watchdogResetSsp : BitVec 32

namespace NeogeoRuntime

def hostSettings (rt : NeogeoRuntime) : HostSettings where
  toRomState := rt.toRomState
  p1cnt := rt.p1cnt
  p2cnt := rt.p2cnt
  statusA := rt.statusA
  statusB := rt.statusB
  systemInputLow := rt.systemInputLow
  dipswitch := rt.dipswitch
  soundReply := rt.soundReply
  autoVblankInterval := rt.autoVblankInterval
  autoScanlineInterval := rt.autoScanlineInterval
  watchdogTimeoutPolls := rt.watchdogTimeoutPolls
  watchdogTimeoutCycles := rt.watchdogTimeoutCycles
  watchdogResetPc := rt.watchdogResetPc
  watchdogResetSsp := rt.watchdogResetSsp

variable (rt : NeogeoRuntime) (addr : BitVec 32) (value : BitVec 8) (word : BitVec 16)

/-! ### Writes -/

theorem writeSystemLatch_settings :
    (rt.writeSystemLatch addr value).hostSettings = rt.hostSettings := by
  unfold writeSystemLatch
  dsimp only
  split <;> rfl

theorem writeLspcWord_settings :
    (rt.ngNeogeoWriteLspcWord addr word).hostSettings = rt.hostSettings := by
  unfold ngNeogeoWriteLspcWord
  dsimp only
  split <;> try rfl
  split <;> rfl

theorem writeBackupRam_settings :
    (rt.writeBackupRam addr value).hostSettings = rt.hostSettings := by
  unfold writeBackupRam
  split <;> rfl

theorem write8_settings : (rt.ng68kWrite8 addr value).hostSettings = rt.hostSettings :=
  ng68kWrite8_cases (P := fun rt' => rt'.hostSettings = rt.hostSettings) rt addr value rfl rfl rfl
    (rt.writeBackupRam_settings _ _) rfl rfl (fun _ => rfl) (rt.writeSystemLatch_settings _ _)
    (fun _ => rt.writeLspcWord_settings _ _)

theorem write16_settings : (rt.ng68kWrite16 addr word).hostSettings = rt.hostSettings :=
  ng68kWrite16_cases (P := fun rt' => rt'.hostSettings = rt.hostSettings) rt addr word
    (fun _ => rfl) (fun _ => rt.writeLspcWord_settings _ _)
    (fun _ => (write8_settings _ _ _).trans (write8_settings _ _ _))

/-! ### Time and polls -/

theorem updateWatchdogTimeout_settings :
    rt.ngNeogeoUpdateWatchdogTimeout.hostSettings = rt.hostSettings := by
  unfold ngNeogeoUpdateWatchdogTimeout WatchdogState.ngNeogeoUpdateWatchdogTimeout
  split
  · rfl
  · split
    · dsimp only
      split <;> rfl
    · split
      · rfl
      · dsimp only
        split <;> rfl

theorem advanceScanline_settings :
    { rt with toRasterState := rt.toRasterState.ngNeogeoAdvanceScanline }.hostSettings =
      rt.hostSettings := by
  have ht := RasterState.advanceScanline_toTimingState rt.toRasterState
  unfold hostSettings
  dsimp only
  rw [ht]
  rfl

set_option maxRecDepth 4096 in
theorem finishScanline_settings : rt.finishScanline.hostSettings = rt.hostSettings := by
  have hline (rt : NeogeoRuntime) :
      { rt with toRasterState := rt.toRasterState.ngNeogeoAdvanceScanline
        }.ngNeogeoUpdateWatchdogTimeout.hostSettings = rt.hostSettings := by
    rw [updateWatchdogTimeout_settings]
    exact rt.advanceScanline_settings
  unfold finishScanline
  exact hline _

theorem advanceCpuCyclesTurns_settings (turns : Nat) (cycles : BitVec 32) (rt : NeogeoRuntime) :
    (advanceCpuCyclesTurns turns cycles rt).hostSettings = rt.hostSettings := by
  induction turns generalizing cycles rt with
  | zero => rfl
  | succ turns ih =>
    unfold advanceCpuCyclesTurns
    split
    · rfl
    · split
      · exact updateWatchdogTimeout_settings _
      · exact (ih _ _).trans (rt.finishScanline_settings)

theorem advanceCpuCycles_settings (cycles : BitVec 32) :
    (rt.ngNeogeoAdvanceCpuCycles cycles).hostSettings = rt.hostSettings := by
  unfold ngNeogeoAdvanceCpuCycles
  split
  · rfl
  · exact advanceCpuCyclesTurns_settings _ _ _

theorem pollInterrupts_settings : rt.pollInterrupts.hostSettings = rt.hostSettings := by
  have hscan : ∀ rt : NeogeoRuntime, rt.autoScanline.hostSettings = rt.hostSettings := by
    intro rt
    unfold autoScanline
    split
    · exact rt.advanceScanline_settings
    · rfl
  have hvblank : ∀ rt : NeogeoRuntime, rt.autoVblank.hostSettings = rt.hostSettings := by
    intro rt
    unfold autoVblank
    split <;> rfl
  exact (updateWatchdogTimeout_settings _).trans ((hvblank _).trans (hscan _))

theorem takeInterrupt_settings (mask : BitVec 8) (out : Bool) :
    (rt.ngM68kTakeInterrupt mask out).2.hostSettings = rt.hostSettings := by
  unfold ngM68kTakeInterrupt
  dsimp only
  split
  · exact rt.pollInterrupts_settings
  · split
    · exact rt.pollInterrupts_settings
    · split <;> exact rt.pollInterrupts_settings

theorem takeReset_settings (pc ssp : Bool) :
    (rt.ngM68kTakeReset pc ssp).2.hostSettings = rt.hostSettings := by
  rcases rt.takeReset_cases pc ssp with ⟨-, h⟩ | ⟨-, rt', hr, h⟩
  · rw [h]
  · rw [h]
    unfold ReadsOnly at hr
    rw [hr]
    rfl

theorem step_settings {op : RuntimeOp} (h : op.isGuest = true) :
    (op.step rt).2.hostSettings = rt.hostSettings := by
  cases op with
  | cpu | read8 | read16 | read32 => rfl
  | write8 addr value => exact rt.write8_settings addr value
  | write16 addr word => exact rt.write16_settings addr word
  | write32 addr value => exact (write16_settings _ _ _).trans (rt.write16_settings _ _)
  | advanceCpuCycles cycles => exact rt.advanceCpuCycles_settings cycles
  | takeReset pc ssp => exact rt.takeReset_settings pc ssp
  | takeInterrupt mask out => exact rt.takeInterrupt_settings mask out
  | _ => cases h

/-! ### The clock -/

theorem write16_timing : (rt.ng68kWrite16 addr word).toTimingState = rt.toTimingState :=
  ng68kWrite16_cases (P := fun rt' => rt'.toTimingState = rt.toTimingState) rt addr word
    (fun _ => rfl) (fun _ => (rt.writeLspcWord_frame _ _).2.1)
    (fun _ => (write8_clock _ _ _).1.trans (write8_clock _ _ _).1)

/-- With no scanlines of its own a poll leaves the raster clock alone. -/
theorem ClockAt.poll {n : Nat} {rt : NeogeoRuntime} (h : ClockAt n rt.toTimingState)
    (hauto : rt.autoScanlineInterval = 0) : ClockAt n rt.pollInterrupts.toTimingState := by
  have hscan : { rt with interruptPolls := rt.interruptPolls + 1 }.autoScanline =
      { rt with interruptPolls := rt.interruptPolls + 1 } := by
    unfold autoScanline
    exact if_neg fun hc => hc.2.1 hauto
  have hpoll : rt.pollInterrupts.toTimingState =
      { rt.toTimingState with interruptPolls := rt.interruptPolls + 1 } := by
    unfold pollInterrupts
    rw [hscan]
    unfold autoVblank ngNeogeoUpdateWatchdogTimeout
    split <;> rfl
  rw [hpoll]
  exact ⟨h.cycles, h.scanlineCycle, h.scanline, h.frames⟩

theorem takeInterrupt_timing (mask : BitVec 8) (out : Bool) :
    (rt.ngM68kTakeInterrupt mask out).2.toTimingState = rt.pollInterrupts.toTimingState := by
  unfold ngM68kTakeInterrupt
  dsimp only
  split
  · rfl
  · split
    · rfl
    · split <;> rfl

theorem takeReset_timing (pc ssp : Bool) :
    (rt.ngM68kTakeReset pc ssp).2.toTimingState = rt.toTimingState := by
  rcases rt.takeReset_cases pc ssp with ⟨-, h⟩ | ⟨-, rt', hr, h⟩
  · rw [h]
  · rw [h]
    unfold ReadsOnly at hr
    rw [hr]
    rfl

theorem ClockAt.step {n : Nat} {rt : NeogeoRuntime} (h : ClockAt n rt.toTimingState)
    (hauto : rt.autoScanlineInterval = 0) {op : RuntimeOp} (hop : op.isGuest = true) :
    ClockAt (n + op.cycles) (op.step rt).2.toTimingState := by
  cases op with
  | cpu | read8 | read16 | read32 => exact h
  | write8 addr value => exact (rt.write8_clock addr value).1 ▸ h
  | write16 addr word => exact rt.write16_timing addr word ▸ h
  | write32 addr value => exact ((write16_timing _ _ _).trans (rt.write16_timing _ _)) ▸ h
  | advanceCpuCycles cycles => exact h.advanceCpuCycles
  | takeReset pc ssp => exact rt.takeReset_timing pc ssp ▸ h
  | takeInterrupt mask out => exact rt.takeInterrupt_timing mask out ▸ h.poll hauto
  | _ => cases hop

end NeogeoRuntime

/-! ## Runs -/

/-- The log that a queue refines when nothing is known of its past. -/
def SoundCommandQueue.log (q : SoundCommandQueue) : EventLog NgNeoSoundCommandEvent :=
  ⟨q.queued, 0, q.soundCommandQueueOverflows.toNat, Nat.zero_le _⟩

theorem SoundCommandQueue.WellFormed.refines {q : SoundCommandQueue} (h : q.WellFormed) :
    q.Refines q.log :=
  ⟨h, rfl, (Nat.mod_eq_of_lt q.soundCommandQueueOverflows.isLt).symm⟩

theorem step_savable {rt : NeogeoRuntime} (h : rt.Savable) (op : RuntimeOp) :
    (op.step rt).2.Savable where
  bank := (rt.step_keepsBank op).bank h.bank
  line := step_lineOk rt op h.line
  queue := (step_refines op h.queue.refines).2.wellFormed

/-- What every operation of the guest keeps, over a run. -/
theorem guest_run {rt : NeogeoRuntime} {n : Nat} {ops : List RuntimeOp}
    (hops : ∀ op ∈ ops, op.isGuest = true) :
    (rt.run ops).2.hostSettings = rt.hostSettings ∧
      (ClockAt n rt.toTimingState → rt.autoScanlineInterval = 0 →
        ClockAt (n + (ops.map RuntimeOp.cycles).sum) (rt.run ops).2.toTimingState) := by
  induction ops generalizing rt n with
  | nil => exact ⟨rfl, fun h _ => h⟩
  | cons op ops ih =>
    have hop := hops op (List.mem_cons_self ..)
    have hset := rt.step_settings hop
    obtain ⟨hrest, hclock⟩ := @ih (op.step rt).2 (n + op.cycles)
      fun other hother => hops other (List.mem_cons_of_mem _ hother)
    refine ⟨hrest.trans hset, fun h hauto => ?_⟩
    have hauto' : (op.step rt).2.autoScanlineInterval = 0 :=
      (congrArg HostSettings.autoScanlineInterval hset).trans hauto
    rw [List.map_cons, List.sum_cons, ← Nat.add_assoc]
    exact hclock (h.step hauto hop) hauto'

/-- Every run of an emitted program on the harness is a run of the runtime's operations behind the
ABI: the settings of the host stay, the invariants of a saved state are kept, and the raster clock
advances by exactly the cycles the instruction tables charge. -/
theorem callLoop_guest {p : EmittedProgram SmokeHost} (hh : HandlerRelates GuestOnly p)
    {addr : BitVec 32} {m m' : Machine SmokeHost} {steps : List (BitVec 32)} {s : DispatchSlot}
    (h : CallLoop p addr m steps s m') :
    ∃ ops : List RuntimeOp, (∀ op ∈ ops, op.isGuest = true) ∧
      m'.bus.runtime = (m.bus.runtime.run ops).2 ∧
      m'.bus.runtime.hostSettings = m.bus.runtime.hostSettings ∧
      (m.bus.runtime.Savable → m'.bus.runtime.Savable) ∧
      ∀ n, ClockAt n m.bus.runtime.toTimingState → m.bus.runtime.autoScanlineInterval = 0 →
        ClockAt (n + (ops.map RuntimeOp.cycles).sum) m'.bus.runtime.toTimingState := by
  obtain ⟨ops, hops, hrun⟩ : GuestOnly m m' := h.relates hh
  refine ⟨ops, hops, hrun, ?_, ?_, fun n => ?_⟩
  · rw [hrun]
    exact (guest_run (n := 0) hops).1
  · rw [hrun]
    intro hs
    apply run_invariant _ hs ops
    exact fun _ op h => step_savable h op
  · rw [hrun]
    exact (guest_run hops).2

/-! ### A run -/

/-- The single RTS on the harness, with the handler that takes no address outside the BIOS. -/
def rtsOnHost : EmittedProgram SmokeHost where
  rom := rtsProgram.rom
  discovery := rtsProgram.discovery
  step := rtsProgram.step
  cycles := rtsProgram.cycles
  handler := some fun _ b => (false, b)

def hostAtStart : Machine SmokeHost where
  cpu := zeroedMachine.cpu
  bus := { runtime := NeogeoRuntime.initial }
  traceSr := 0
  log := []

theorem rtsOnHost_body : candidateBody SmokeHost rtsOnHost.rom rtsOnHost.discovery 0 =
    [.decoded false rtsAtZero] := by
  decide +kernel

/-- One turn of the loop. -/
theorem callLoop_guest_rts : ∃ s m', CallLoop rtsOnHost 0 hostAtStart [0] s m' ∧
    ∃ ops : List RuntimeOp, (∀ op ∈ ops, op.isGuest = true) ∧
      m'.bus.runtime = (NeogeoRuntime.initial.run ops).2 ∧
      m'.bus.runtime.hostSettings = NeogeoRuntime.initial.hostSettings := by
  have hstep : rtsOnHost.step 0 = .function 0 := by decide +kernel
  have hret : ∃ m', bodyStep rtsOnHost.cycles [.decoded false rtsAtZero] 0 hostAtStart =
      some (.returned, m') ∧ ∃ es, m'.log = hostAtStart.log ++ es := ⟨_, rfl, _, rfl⟩
  obtain ⟨m', hbody, es, hlog⟩ := hret
  have hrun : StepRun rtsOnHost 0 hostAtStart m' := by
    refine .function hstep ?_
    rw [rtsOnHost_body]
    exact .step .start hbody
  have hloop : CallLoop rtsOnHost 0 hostAtStart [0] _ m' := .turn .enter rfl hrun hlog
  have hh : HandlerRelates GuestOnly rtsOnHost := by
    intro f hf addr m
    cases hf
    exact .refl _
  obtain ⟨ops, hops, hrt, hset, -, -⟩ := callLoop_guest hh hloop
  exact ⟨_, m', hloop, ops, hops, hrt, hset⟩

end NeoRecomp
