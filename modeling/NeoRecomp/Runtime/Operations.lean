import NeoRecomp.Runtime.Writes

/-!
# Operations of the runtime and their runs

Everything the host and the generated code call between two changes of ROM.  Setting the
interrupt level directly is not among them.
-/

namespace NeoRecomp
namespace NeogeoRuntime

/-! ## Reset -/

/-- `ng_neogeo_reset_runtime`: every variable it does not name keeps its value. -/
def ngNeogeoResetRuntime (rt : NeogeoRuntime) : NeogeoRuntime :=
  { NeogeoRuntime.initial with
    toRomState := rt.toRomState
    soundCommandQueue := rt.soundCommandQueue
    dipswitch := rt.dipswitch
    autoVblankInterval := rt.autoVblankInterval
    autoScanlineInterval := rt.autoScanlineInterval
    m68k := rt.m68k }

/-! ## Sound events -/

/-- `ng_neogeo_pop_sound_command_event`: the event it stores through a non-null `out`, or `none`
for its return value 0. -/
def ngNeogeoPopSoundCommandEvent (q : SoundCommandQueue) :
    Option NgNeoSoundCommandEvent × SoundCommandQueue :=
  if q.soundCommandQueueCount = 0 then (none, q)
  else (some (q.soundCommandQueue (q.soundCommandQueueTail.setWidth 9)), advanceTail q)

/-! ## What the CPU polls -/

/-- A vector of `ng_m68k_take_reset`, read only for a non-null output (`wanted`): the configured
one where it is set, else the long at `addr` under `mask`. -/
def resetVector (rt : NeogeoRuntime) (wanted : Bool) (configured addr mask : BitVec 32) :
    Option (BitVec 32) × NeogeoRuntime :=
  if wanted then
    if configured ≠ 0 then (some configured, rt)
    else
      let read := rt.busRead ng68kRead32 addr
      (some (read.1 &&& mask), read.2)
  else (none, rt)

/-- The pending reset is taken, which also restarts the watchdog. -/
def acceptReset (rt : NeogeoRuntime) : NeogeoRuntime :=
  { rt with
    watchdogResetPending := 0
    watchdogResets := rt.watchdogResets + 1
    watchdogLastKickPoll := rt.interruptPolls
    watchdogLastKickCycle := rt.cpuCycles }

/-- The devices a watchdog reset clears. -/
def clearForReset (rt : NeogeoRuntime) : NeogeoRuntime :=
  { rt with
    toInterruptState := { rt.toInterruptState with irqPending := 0 }.ngM68kClearInterruptLevel
    biosVectorsEnabled := 0
    backupRamUnlocked := 0 }

/-- `ng_m68k_take_reset`: what it stores through its non-null outputs, or `none` for its return
value 0.  The vectors are read while the BIOS vectors are still where they were. -/
def ngM68kTakeReset (rt : NeogeoRuntime) (pc ssp : Bool) :
    Option (Option (BitVec 32) × Option (BitVec 32)) × NeogeoRuntime :=
  if rt.watchdogResetPending = 0 then (none, rt)
  else
    let pcVector := rt.acceptReset.resetVector pc rt.watchdogResetPc 4 0x00FFFFFF
    let sspVector := pcVector.2.resetVector ssp rt.watchdogResetSsp 0 0xFFFFFFFF
    (some (pcVector.1, sspVector.1), sspVector.2.clearForReset)

/-- The scanline that `ng_m68k_take_interrupt` steps by itself while no cycles are counted. -/
def autoScanline (rt : NeogeoRuntime) : NeogeoRuntime :=
  if rt.cycleTimingActive = 0 ∧ rt.autoScanlineInterval ≠ 0 ∧
      rt.interruptPolls % rt.autoScanlineInterval = 0 then
    { rt with toRasterState := rt.toRasterState.ngNeogeoAdvanceScanline }
  else rt

/-- The vblank that it requests by itself. -/
def autoVblank (rt : NeogeoRuntime) : NeogeoRuntime :=
  if rt.cycleTimingActive = 0 ∧ rt.autoVblankInterval ≠ 0 ∧
      rt.interruptPolls % rt.autoVblankInterval = 0 then
    { rt with toInterruptState := rt.toInterruptState.ngNeogeoRequestVblankInterrupt }
  else rt

/-- What `ng_m68k_take_interrupt` does before it looks at the level. -/
def pollInterrupts (rt : NeogeoRuntime) : NeogeoRuntime :=
  { rt with
    interruptPolls := rt.interruptPolls + 1 }.autoScanline.autoVblank.ngNeogeoUpdateWatchdogTimeout

/-- The interrupt is handed over. -/
def noteInterrupt (rt : NeogeoRuntime) (level : BitVec 8) : NeogeoRuntime :=
  { rt with
    lastInterruptReturnPc := rt.pc24
    lastInterruptLevel := level
    lastInterruptVector := rt.interruptVector }

/-- `ng_m68k_take_interrupt`: the level and the vector it stores through its outputs, or `none`
for its return value 0, which null outputs (`out` false) always give. -/
def ngM68kTakeInterrupt (rt : NeogeoRuntime) (currentMask : BitVec 8) (out : Bool) :
    Option (BitVec 8 × BitVec 8) × NeogeoRuntime :=
  let rt := rt.pollInterrupts
  let pendingLevel := rt.interruptLevel &&& 7
  if out = false ∨ pendingLevel = 0 then (none, rt)
  else if pendingLevel = 7 ∧ rt.level7Edge ≠ 0 then
    (some (pendingLevel, rt.interruptVector), { rt with level7Edge := 0 }.noteInterrupt pendingLevel)
  else if pendingLevel ≤ currentMask &&& 7 then (none, rt)
  else (some (pendingLevel, rt.interruptVector), rt.noteInterrupt pendingLevel)

end NeogeoRuntime

/-! ## Operations -/

/-- A call of the runtime, or (`cpu`) generated code that changes the CPU registers.  A Boolean
says whether the output pointer of that name is not null. -/
inductive RuntimeOp
  | cpu (m68k : NgM68kState)
  | read8 (addr : BitVec 32)
  | read16 (addr : BitVec 32)
  | read32 (addr : BitVec 32)
  | write8 (addr : BitVec 32) (value : BitVec 8)
  | write16 (addr : BitVec 32) (value : BitVec 16)
  | write32 (addr : BitVec 32) (value : BitVec 32)
  | setP1Input (activeLow : BitVec 8)
  | setP2Input (activeLow : BitVec 8)
  | setStatusAInput (activeLow : BitVec 8)
  | setStatusBInput (activeLow : BitVec 8)
  | setDipswitchInput (activeLow : BitVec 8)
  | setSoundReply (reply : BitVec 8)
  | setAutoVblankInterval (interruptPolls : BitVec 32)
  | setAutoScanlineInterval (interruptPolls : BitVec 32)
  | setWatchdogTimeoutPolls (interruptPolls : BitVec 32)
  | setWatchdogTimeoutCycles (cpuCycles : BitVec 32)
  | setWatchdogResetVector (pc ssp : BitVec 32)
  | requestVblankInterrupt
  | requestTimerInterrupt
  | requestResetInterrupt
  | ackInterrupts (ackMask : BitVec 16)
  | beginVblank
  | advanceTimer (pixelTicks : BitVec 32)
  | advanceScanline
  | advanceFrame
  | advanceCpuCycles (cpuCycles : BitVec 32)
  | popSoundCommandEvent (out : Bool)
  | takeReset (pc ssp : Bool)
  | takeInterrupt (currentMask : BitVec 8) (out : Bool)
  | resetRuntime

/-- What a call returns, out parameters included. -/
inductive RuntimeResult
  | done
  | read8 (value : BitVec 8)
  | read16 (value : BitVec 16)
  | read32 (value : BitVec 32)
  | event (event : Option (Option NgNeoSoundCommandEvent))
  | reset (vectors : Option (Option (BitVec 32) × Option (BitVec 32)))
  | interrupt (line : Option (BitVec 8 × BitVec 8))

/-- One operation. -/
def RuntimeOp.step (op : RuntimeOp) (rt : NeogeoRuntime) : RuntimeResult × NeogeoRuntime :=
  match op with
  | .cpu m68k => (.done, { rt with m68k := m68k })
  | .read8 addr => (rt.busRead ng68kRead8 addr).map .read8 id
  | .read16 addr => (rt.busRead ng68kRead16 addr).map .read16 id
  | .read32 addr => (rt.busRead ng68kRead32 addr).map .read32 id
  | .write8 addr value => (.done, rt.ng68kWrite8 addr value)
  | .write16 addr value => (.done, rt.ng68kWrite16 addr value)
  | .write32 addr value => (.done, rt.ng68kWrite32 addr value)
  | .setP1Input activeLow => (.done, { rt with p1cnt := activeLow })
  | .setP2Input activeLow => (.done, { rt with p2cnt := activeLow })
  | .setStatusAInput activeLow => (.done, { rt with statusA := activeLow })
  | .setStatusBInput activeLow => (.done, { rt with statusB := activeLow })
  | .setDipswitchInput activeLow => (.done, { rt with dipswitch := activeLow })
  | .setSoundReply reply => (.done, { rt with soundReply := reply })
  | .setAutoVblankInterval polls => (.done, { rt with autoVblankInterval := polls })
  | .setAutoScanlineInterval polls => (.done, { rt with autoScanlineInterval := polls })
  | .setWatchdogTimeoutPolls polls =>
    (.done, { rt with
      watchdogTimeoutPolls := polls
      watchdogLastKickPoll := rt.interruptPolls
      watchdogResetPending := 0 })
  | .setWatchdogTimeoutCycles cycles =>
    (.done, { rt with
      watchdogTimeoutCycles := cycles
      watchdogLastKickCycle := rt.cpuCycles
      watchdogResetPending := 0 })
  | .setWatchdogResetVector pc ssp =>
    (.done, { rt with watchdogResetPc := pc &&& 0x00FFFFFF, watchdogResetSsp := ssp })
  | .requestVblankInterrupt =>
    (.done, { rt with toInterruptState := rt.toInterruptState.ngNeogeoRequestVblankInterrupt })
  | .requestTimerInterrupt =>
    (.done, { rt with toInterruptState := rt.toInterruptState.ngNeogeoRequestTimerInterrupt })
  | .requestResetInterrupt =>
    (.done, { rt with toInterruptState := rt.toInterruptState.ngNeogeoRequestResetInterrupt })
  | .ackInterrupts ackMask =>
    (.done, { rt with toInterruptState := rt.toInterruptState.ngNeogeoAckInterrupts ackMask })
  | .beginVblank => (.done, { rt with toRasterState := rt.toRasterState.ngNeogeoBeginVblank })
  | .advanceTimer pixelTicks =>
    (.done, { rt with toRasterState := rt.toRasterState.ngNeogeoAdvanceTimer pixelTicks })
  | .advanceScanline => (.done, { rt with toRasterState := rt.toRasterState.ngNeogeoAdvanceScanline })
  | .advanceFrame => (.done, { rt with toRasterState := rt.toRasterState.ngNeogeoAdvanceFrame })
  | .advanceCpuCycles cpuCycles => (.done, rt.ngNeogeoAdvanceCpuCycles cpuCycles)
  | .popSoundCommandEvent out =>
    let popped := NeogeoRuntime.ngNeogeoPopSoundCommandEvent rt.toSoundCommandQueue
    (.event (popped.1.map (if out then some else fun _ => none)),
      { rt with toSoundCommandQueue := popped.2 })
  | .takeReset pc ssp => (rt.ngM68kTakeReset pc ssp).map .reset id
  | .takeInterrupt currentMask out => (rt.ngM68kTakeInterrupt currentMask out).map .interrupt id
  | .resetRuntime => (.done, rt.ngNeogeoResetRuntime)

/-- The results of a sequence of operations, and the state after them. -/
def NeogeoRuntime.run (rt : NeogeoRuntime) : List RuntimeOp → List RuntimeResult × NeogeoRuntime
  | [] => ([], rt)
  | op :: ops =>
    let rest := (op.step rt).2.run ops
    ((op.step rt).1 :: rest.1, rest.2)

/-- The rule for invariants: what every operation preserves holds after every run. -/
theorem NeogeoRuntime.run_invariant {Inv : NeogeoRuntime → Prop}
    (hstep : ∀ rt op, Inv rt → Inv (RuntimeOp.step op rt).2) {rt : NeogeoRuntime} (h : Inv rt)
    (ops : List RuntimeOp) : Inv (rt.run ops).2 := by
  induction ops generalizing rt with
  | nil => exact h
  | cons op ops ih => exact ih (hstep rt op h)

end NeoRecomp
