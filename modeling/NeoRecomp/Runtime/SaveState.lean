import NeoRecomp.Lib.Layout
import NeoRecomp.Runtime.Operations

/-!
# Save states

`NgNeoRuntimeStateBlob` is a copy of the runtime's variables behind a header of magic number,
version and size.  Saving copies its bytes out, loading copies them back.
-/

namespace NeoRecomp

/-! ## The blob -/

def ngNeoRuntimeStateMagic : BitVec 32 := 0x4E475253

def ngNeoRuntimeStateVersion : BitVec 32 := 1

-- `NG_NEO_SOUND_COMMAND_QUEUE_CAPACITY`
def ngNeoSoundCommandQueueCapacity : BitVec 32 := 512

structure NgNeoRuntimeStateBlob where
  magic : BitVec 32
  version : BitVec 32
  size : BitVec 32
  m68k : NgM68kState
  workRam : BitVec 16 → BitVec 8
  paletteRam : BitVec 14 → BitVec 8
  backupRam : BitVec 16 → BitVec 8
  vram : BitVec 16 → BitVec 16
  soundCommandQueue : BitVec 9 → NgNeoSoundCommandEvent
  paletteBank : BitVec 8
  paletteNonzeroBytes : BitVec 32
  paletteChecksum : BitVec 32
  paletteWriteCount : BitVec 32
  paletteNonzeroWriteCount : BitVec 32
  paletteLastAddr : BitVec 32
  paletteLastValue : BitVec 16
  paletteLastBank : BitVec 8
  palettePeakNonzeroBytes : BitVec 32
  palettePeakChecksum : BitVec 32
  backupRamUnlocked : BitVec 8
  backupRamWriteCount : BitVec 32
  backupRamLastAddr : BitVec 32
  backupRamLastValue : BitVec 8
  vramAddr : BitVec 16
  vramMod : BitVec 16
  shadowEnabled : BitVec 8
  biosVectorsEnabled : BitVec 8
  boardFixEnabled : BitVec 8
  p1cnt : BitVec 8
  p2cnt : BitVec 8
  statusA : BitVec 8
  statusB : BitVec 8
  systemInputLow : BitVec 8
  statusAReads : BitVec 32
  portOutput : BitVec 8
  soundCommand : BitVec 8
  soundReply : BitVec 8
  soundCommandQueueHead : BitVec 32
  soundCommandQueueTail : BitVec 32
  soundCommandQueueCount : BitVec 32
  soundCommandQueueOverflows : BitVec 32
  dipswitch : BitVec 8
  watchdogKicks : BitVec 32
  lastWatchdogPc : BitVec 32
  lastWatchdogAddr : BitVec 32
  lastWatchdogValue : BitVec 8
  watchdogTimeoutPolls : BitVec 32
  watchdogLastKickPoll : BitVec 32
  watchdogMaxGapPolls : BitVec 32
  watchdogTimeoutCycles : BitVec 32
  watchdogLastKickCycle : BitVec 64
  watchdogMaxGapCycles : BitVec 64
  watchdogResetPc : BitVec 32
  watchdogResetSsp : BitVec 32
  watchdogResets : BitVec 32
  watchdogResetPending : BitVec 8
  watchdogLastResetPc : BitVec 32
  watchdogLastResetPoll : BitVec 32
  watchdogLastResetCycle : BitVec 64
  systemLatchWrites : BitVec 32
  lastSystemLatchPc : BitVec 32
  lastSystemLatchAddr : BitVec 32
  lastSystemLatchValue : BitVec 8
  biosVectorEnableWrites : BitVec 32
  biosVectorDisableWrites : BitVec 32
  lastBiosVectorPc : BitVec 32
  lastBiosVectorAddr : BitVec 32
  lastBiosVectorValue : BitVec 8
  lastPortOutputPc : BitVec 32
  lastPortOutputAddr : BitVec 32
  lastSoundPc : BitVec 32
  lastSoundAddr : BitVec 32
  interruptLevel : BitVec 8
  interruptVector : BitVec 8
  level7Edge : BitVec 8
  irqPending : BitVec 16
  vblankInterrupts : BitVec 32
  timerInterrupts : BitVec 32
  irqAckWrites : BitVec 32
  lastIrqAckPc : BitVec 32
  lastIrqAckValue : BitVec 16
  lastInterruptReturnPc : BitVec 32
  lastInterruptLevel : BitVec 8
  lastInterruptVector : BitVec 8
  lspcMode : BitVec 16
  lastLspcWritePc : BitVec 32
  lastLspcWriteAddr : BitVec 32
  lastLspcWriteValue : BitVec 16
  timerStop : BitVec 16
  timerReloadValue : BitVec 32
  timerCounterValue : BitVec 32
  timerCounterLoaded : BitVec 8
  currentScanline : BitVec 16
  frameCount : BitVec 32
  interruptPolls : BitVec 32
  autoVblankInterval : BitVec 32
  autoScanlineInterval : BitVec 32
  cpuCycles : BitVec 64
  scanlineCycle : BitVec 32
  cycleTimingActive : BitVec 8
  readMissLogCount : BitVec 32

def m68kMembers : Members NgM68kState NgM68kState :=
  Members.start NgM68kState.mk
    |>.next (.array 8 .u32) (·.d)
    |>.next (.array 8 .u32) (·.a)
    |>.next .u32 (·.pc)
    |>.next .u16 (·.sr)
    |>.next .u32 (·.usp)
    |>.next .u32 (·.ssp)

theorem m68kMembers_value (m68k : NgM68kState) : m68kMembers.value m68k = m68k := rfl

def m68kLayout : Layout NgM68kState := .struct m68kMembers m68kMembers_value

def soundEventMembers : Members NgNeoSoundCommandEvent NgNeoSoundCommandEvent :=
  Members.start NgNeoSoundCommandEvent.mk
    |>.next .u64 (·.cpuCycles)
    |>.next .u32 (·.pc)
    |>.next .u8 (·.command)

theorem soundEventMembers_value (event : NgNeoSoundCommandEvent) :
    soundEventMembers.value event = event := rfl

def soundEventLayout : Layout NgNeoSoundCommandEvent :=
  .struct soundEventMembers soundEventMembers_value

namespace NgNeoRuntimeStateBlob

def members : Members NgNeoRuntimeStateBlob NgNeoRuntimeStateBlob :=
  Members.start NgNeoRuntimeStateBlob.mk
    |>.next .u32 (·.magic)
    |>.next .u32 (·.version)
    |>.next .u32 (·.size)
    |>.next m68kLayout (·.m68k)
    |>.next (.memory 16 .u8) (·.workRam)
    |>.next (.memory 14 .u8) (·.paletteRam)
    |>.next (.memory 16 .u8) (·.backupRam)
    |>.next (.memory 16 .u16) (·.vram)
    |>.next (.memory 9 soundEventLayout) (·.soundCommandQueue)
    |>.next .u8 (·.paletteBank)
    |>.next .u32 (·.paletteNonzeroBytes)
    |>.next .u32 (·.paletteChecksum)
    |>.next .u32 (·.paletteWriteCount)
    |>.next .u32 (·.paletteNonzeroWriteCount)
    |>.next .u32 (·.paletteLastAddr)
    |>.next .u16 (·.paletteLastValue)
    |>.next .u8 (·.paletteLastBank)
    |>.next .u32 (·.palettePeakNonzeroBytes)
    |>.next .u32 (·.palettePeakChecksum)
    |>.next .u8 (·.backupRamUnlocked)
    |>.next .u32 (·.backupRamWriteCount)
    |>.next .u32 (·.backupRamLastAddr)
    |>.next .u8 (·.backupRamLastValue)
    |>.next .u16 (·.vramAddr)
    |>.next .u16 (·.vramMod)
    |>.next .u8 (·.shadowEnabled)
    |>.next .u8 (·.biosVectorsEnabled)
    |>.next .u8 (·.boardFixEnabled)
    |>.next .u8 (·.p1cnt)
    |>.next .u8 (·.p2cnt)
    |>.next .u8 (·.statusA)
    |>.next .u8 (·.statusB)
    |>.next .u8 (·.systemInputLow)
    |>.next .u32 (·.statusAReads)
    |>.next .u8 (·.portOutput)
    |>.next .u8 (·.soundCommand)
    |>.next .u8 (·.soundReply)
    |>.next .u32 (·.soundCommandQueueHead)
    |>.next .u32 (·.soundCommandQueueTail)
    |>.next .u32 (·.soundCommandQueueCount)
    |>.next .u32 (·.soundCommandQueueOverflows)
    |>.next .u8 (·.dipswitch)
    |>.next .u32 (·.watchdogKicks)
    |>.next .u32 (·.lastWatchdogPc)
    |>.next .u32 (·.lastWatchdogAddr)
    |>.next .u8 (·.lastWatchdogValue)
    |>.next .u32 (·.watchdogTimeoutPolls)
    |>.next .u32 (·.watchdogLastKickPoll)
    |>.next .u32 (·.watchdogMaxGapPolls)
    |>.next .u32 (·.watchdogTimeoutCycles)
    |>.next .u64 (·.watchdogLastKickCycle)
    |>.next .u64 (·.watchdogMaxGapCycles)
    |>.next .u32 (·.watchdogResetPc)
    |>.next .u32 (·.watchdogResetSsp)
    |>.next .u32 (·.watchdogResets)
    |>.next .u8 (·.watchdogResetPending)
    |>.next .u32 (·.watchdogLastResetPc)
    |>.next .u32 (·.watchdogLastResetPoll)
    |>.next .u64 (·.watchdogLastResetCycle)
    |>.next .u32 (·.systemLatchWrites)
    |>.next .u32 (·.lastSystemLatchPc)
    |>.next .u32 (·.lastSystemLatchAddr)
    |>.next .u8 (·.lastSystemLatchValue)
    |>.next .u32 (·.biosVectorEnableWrites)
    |>.next .u32 (·.biosVectorDisableWrites)
    |>.next .u32 (·.lastBiosVectorPc)
    |>.next .u32 (·.lastBiosVectorAddr)
    |>.next .u8 (·.lastBiosVectorValue)
    |>.next .u32 (·.lastPortOutputPc)
    |>.next .u32 (·.lastPortOutputAddr)
    |>.next .u32 (·.lastSoundPc)
    |>.next .u32 (·.lastSoundAddr)
    |>.next .u8 (·.interruptLevel)
    |>.next .u8 (·.interruptVector)
    |>.next .u8 (·.level7Edge)
    |>.next .u16 (·.irqPending)
    |>.next .u32 (·.vblankInterrupts)
    |>.next .u32 (·.timerInterrupts)
    |>.next .u32 (·.irqAckWrites)
    |>.next .u32 (·.lastIrqAckPc)
    |>.next .u16 (·.lastIrqAckValue)
    |>.next .u32 (·.lastInterruptReturnPc)
    |>.next .u8 (·.lastInterruptLevel)
    |>.next .u8 (·.lastInterruptVector)
    |>.next .u16 (·.lspcMode)
    |>.next .u32 (·.lastLspcWritePc)
    |>.next .u32 (·.lastLspcWriteAddr)
    |>.next .u16 (·.lastLspcWriteValue)
    |>.next .u16 (·.timerStop)
    |>.next .u32 (·.timerReloadValue)
    |>.next .u32 (·.timerCounterValue)
    |>.next .u8 (·.timerCounterLoaded)
    |>.next .u16 (·.currentScanline)
    |>.next .u32 (·.frameCount)
    |>.next .u32 (·.interruptPolls)
    |>.next .u32 (·.autoVblankInterval)
    |>.next .u32 (·.autoScanlineInterval)
    |>.next .u64 (·.cpuCycles)
    |>.next .u32 (·.scanlineCycle)
    |>.next .u8 (·.cycleTimingActive)
    |>.next .u32 (·.readMissLogCount)

theorem members_value (state : NgNeoRuntimeStateBlob) : members.value state = state := rfl

def layout : Layout NgNeoRuntimeStateBlob := .struct members members_value

end NgNeoRuntimeStateBlob

/-- `ng_neogeo_runtime_state_size`: the size of the blob, as a 32-bit number. -/
def ngNeogeoRuntimeStateSize : BitVec 32 := BitVec.ofNat 32 NgNeoRuntimeStateBlob.layout.size

namespace NeogeoRuntime

/-! ## Saving and loading -/

/-- The blob `ng_neogeo_runtime_save_state` fills in. -/
def stateBlob (rt : NeogeoRuntime) : NgNeoRuntimeStateBlob :=
  { magic := ngNeoRuntimeStateMagic, version := ngNeoRuntimeStateVersion,
    size := ngNeogeoRuntimeStateSize,
    m68k := rt.m68k, workRam := rt.workRam, paletteRam := rt.paletteRam,
    backupRam := rt.backupRam, vram := rt.vram, soundCommandQueue := rt.soundCommandQueue,
    paletteBank := rt.paletteBank, paletteNonzeroBytes := rt.paletteNonzeroBytes,
    paletteChecksum := rt.paletteChecksum, paletteWriteCount := rt.paletteWriteCount,
    paletteNonzeroWriteCount := rt.paletteNonzeroWriteCount,
    paletteLastAddr := rt.paletteLastAddr, paletteLastValue := rt.paletteLastValue,
    paletteLastBank := rt.paletteLastBank, palettePeakNonzeroBytes := rt.palettePeakNonzeroBytes,
    palettePeakChecksum := rt.palettePeakChecksum, backupRamUnlocked := rt.backupRamUnlocked,
    backupRamWriteCount := rt.backupRamWriteCount, backupRamLastAddr := rt.backupRamLastAddr,
    backupRamLastValue := rt.backupRamLastValue, vramAddr := rt.vramAddr, vramMod := rt.vramMod,
    shadowEnabled := rt.shadowEnabled, biosVectorsEnabled := rt.biosVectorsEnabled,
    boardFixEnabled := rt.boardFixEnabled, p1cnt := rt.p1cnt, p2cnt := rt.p2cnt,
    statusA := rt.statusA, statusB := rt.statusB, systemInputLow := rt.systemInputLow,
    statusAReads := rt.statusAReads, portOutput := rt.portOutput,
    soundCommand := rt.soundCommand, soundReply := rt.soundReply,
    soundCommandQueueHead := rt.soundCommandQueueHead,
    soundCommandQueueTail := rt.soundCommandQueueTail,
    soundCommandQueueCount := rt.soundCommandQueueCount,
    soundCommandQueueOverflows := rt.soundCommandQueueOverflows, dipswitch := rt.dipswitch,
    watchdogKicks := rt.watchdogKicks, lastWatchdogPc := rt.lastWatchdogPc,
    lastWatchdogAddr := rt.lastWatchdogAddr, lastWatchdogValue := rt.lastWatchdogValue,
    watchdogTimeoutPolls := rt.watchdogTimeoutPolls,
    watchdogLastKickPoll := rt.watchdogLastKickPoll,
    watchdogMaxGapPolls := rt.watchdogMaxGapPolls,
    watchdogTimeoutCycles := rt.watchdogTimeoutCycles,
    watchdogLastKickCycle := rt.watchdogLastKickCycle,
    watchdogMaxGapCycles := rt.watchdogMaxGapCycles, watchdogResetPc := rt.watchdogResetPc,
    watchdogResetSsp := rt.watchdogResetSsp, watchdogResets := rt.watchdogResets,
    watchdogResetPending := rt.watchdogResetPending,
    watchdogLastResetPc := rt.watchdogLastResetPc,
    watchdogLastResetPoll := rt.watchdogLastResetPoll,
    watchdogLastResetCycle := rt.watchdogLastResetCycle,
    systemLatchWrites := rt.systemLatchWrites, lastSystemLatchPc := rt.lastSystemLatchPc,
    lastSystemLatchAddr := rt.lastSystemLatchAddr,
    lastSystemLatchValue := rt.lastSystemLatchValue,
    biosVectorEnableWrites := rt.biosVectorEnableWrites,
    biosVectorDisableWrites := rt.biosVectorDisableWrites,
    lastBiosVectorPc := rt.lastBiosVectorPc, lastBiosVectorAddr := rt.lastBiosVectorAddr,
    lastBiosVectorValue := rt.lastBiosVectorValue, lastPortOutputPc := rt.lastPortOutputPc,
    lastPortOutputAddr := rt.lastPortOutputAddr, lastSoundPc := rt.lastSoundPc,
    lastSoundAddr := rt.lastSoundAddr, interruptLevel := rt.interruptLevel,
    interruptVector := rt.interruptVector, level7Edge := rt.level7Edge,
    irqPending := rt.irqPending, vblankInterrupts := rt.vblankInterrupts,
    timerInterrupts := rt.timerInterrupts, irqAckWrites := rt.irqAckWrites,
    lastIrqAckPc := rt.lastIrqAckPc, lastIrqAckValue := rt.lastIrqAckValue,
    lastInterruptReturnPc := rt.lastInterruptReturnPc,
    lastInterruptLevel := rt.lastInterruptLevel, lastInterruptVector := rt.lastInterruptVector,
    lspcMode := rt.lspcMode, lastLspcWritePc := rt.lastLspcWritePc,
    lastLspcWriteAddr := rt.lastLspcWriteAddr, lastLspcWriteValue := rt.lastLspcWriteValue,
    timerStop := rt.timerStop, timerReloadValue := rt.timerReloadValue,
    timerCounterValue := rt.timerCounterValue, timerCounterLoaded := rt.timerCounterLoaded,
    currentScanline := rt.currentScanline, frameCount := rt.frameCount,
    interruptPolls := rt.interruptPolls, autoVblankInterval := rt.autoVblankInterval,
    autoScanlineInterval := rt.autoScanlineInterval, cpuCycles := rt.cpuCycles,
    scanlineCycle := rt.scanlineCycle, cycleTimingActive := rt.cycleTimingActive,
    readMissLogCount := rt.readMissLogCount }

/-- `ng_neogeo_runtime_save_state`: the bytes written to `out`, which `out` says is not null. -/
def ngNeogeoRuntimeSaveState (rt : NeogeoRuntime) (out : Bool) (outSize : BitVec 32) :
    Option (List (BitVec 8)) :=
  if out = false ∨ outSize < ngNeogeoRuntimeStateSize then none
  else some (NgNeoRuntimeStateBlob.layout.store rt.stateBlob)

/-- The variables `ng_neogeo_runtime_load_state` assigns; the ROMs are not among them. -/
def restoreBlob (rt : NeogeoRuntime) (state : NgNeoRuntimeStateBlob) : NeogeoRuntime :=
  { toRomState := rt.toRomState,
    m68k := state.m68k, workRam := state.workRam, paletteRam := state.paletteRam,
    backupRam := state.backupRam, vram := state.vram,
    soundCommandQueue := state.soundCommandQueue, paletteBank := state.paletteBank &&& 1,
    paletteNonzeroBytes := state.paletteNonzeroBytes, paletteChecksum := state.paletteChecksum,
    paletteWriteCount := state.paletteWriteCount,
    paletteNonzeroWriteCount := state.paletteNonzeroWriteCount,
    paletteLastAddr := state.paletteLastAddr, paletteLastValue := state.paletteLastValue,
    paletteLastBank := state.paletteLastBank,
    palettePeakNonzeroBytes := state.palettePeakNonzeroBytes,
    palettePeakChecksum := state.palettePeakChecksum,
    backupRamUnlocked := state.backupRamUnlocked,
    backupRamWriteCount := state.backupRamWriteCount,
    backupRamLastAddr := state.backupRamLastAddr, backupRamLastValue := state.backupRamLastValue,
    vramAddr := state.vramAddr, vramMod := state.vramMod, shadowEnabled := state.shadowEnabled,
    biosVectorsEnabled := state.biosVectorsEnabled, boardFixEnabled := state.boardFixEnabled,
    p1cnt := state.p1cnt, p2cnt := state.p2cnt, statusA := state.statusA,
    statusB := state.statusB, systemInputLow := state.systemInputLow,
    statusAReads := state.statusAReads, portOutput := state.portOutput,
    soundCommand := state.soundCommand, soundReply := state.soundReply,
    soundCommandQueueHead := state.soundCommandQueueHead,
    soundCommandQueueTail := state.soundCommandQueueTail,
    soundCommandQueueCount := state.soundCommandQueueCount,
    soundCommandQueueOverflows := state.soundCommandQueueOverflows, dipswitch := state.dipswitch,
    watchdogKicks := state.watchdogKicks, lastWatchdogPc := state.lastWatchdogPc,
    lastWatchdogAddr := state.lastWatchdogAddr, lastWatchdogValue := state.lastWatchdogValue,
    watchdogTimeoutPolls := state.watchdogTimeoutPolls,
    watchdogLastKickPoll := state.watchdogLastKickPoll,
    watchdogMaxGapPolls := state.watchdogMaxGapPolls,
    watchdogTimeoutCycles := state.watchdogTimeoutCycles,
    watchdogLastKickCycle := state.watchdogLastKickCycle,
    watchdogMaxGapCycles := state.watchdogMaxGapCycles, watchdogResetPc := state.watchdogResetPc,
    watchdogResetSsp := state.watchdogResetSsp, watchdogResets := state.watchdogResets,
    watchdogResetPending := state.watchdogResetPending,
    watchdogLastResetPc := state.watchdogLastResetPc,
    watchdogLastResetPoll := state.watchdogLastResetPoll,
    watchdogLastResetCycle := state.watchdogLastResetCycle,
    systemLatchWrites := state.systemLatchWrites, lastSystemLatchPc := state.lastSystemLatchPc,
    lastSystemLatchAddr := state.lastSystemLatchAddr,
    lastSystemLatchValue := state.lastSystemLatchValue,
    biosVectorEnableWrites := state.biosVectorEnableWrites,
    biosVectorDisableWrites := state.biosVectorDisableWrites,
    lastBiosVectorPc := state.lastBiosVectorPc, lastBiosVectorAddr := state.lastBiosVectorAddr,
    lastBiosVectorValue := state.lastBiosVectorValue, lastPortOutputPc := state.lastPortOutputPc,
    lastPortOutputAddr := state.lastPortOutputAddr, lastSoundPc := state.lastSoundPc,
    lastSoundAddr := state.lastSoundAddr, interruptLevel := state.interruptLevel &&& 7,
    interruptVector := state.interruptVector, level7Edge := state.level7Edge,
    irqPending := state.irqPending, vblankInterrupts := state.vblankInterrupts,
    timerInterrupts := state.timerInterrupts, irqAckWrites := state.irqAckWrites,
    lastIrqAckPc := state.lastIrqAckPc, lastIrqAckValue := state.lastIrqAckValue,
    lastInterruptReturnPc := state.lastInterruptReturnPc,
    lastInterruptLevel := state.lastInterruptLevel,
    lastInterruptVector := state.lastInterruptVector, lspcMode := state.lspcMode,
    lastLspcWritePc := state.lastLspcWritePc, lastLspcWriteAddr := state.lastLspcWriteAddr,
    lastLspcWriteValue := state.lastLspcWriteValue, timerStop := state.timerStop,
    timerReloadValue := state.timerReloadValue, timerCounterValue := state.timerCounterValue,
    timerCounterLoaded := state.timerCounterLoaded, currentScanline := state.currentScanline,
    frameCount := state.frameCount, interruptPolls := state.interruptPolls,
    autoVblankInterval := state.autoVblankInterval,
    autoScanlineInterval := state.autoScanlineInterval, cpuCycles := state.cpuCycles,
    scanlineCycle := state.scanlineCycle, cycleTimingActive := state.cycleTimingActive,
    readMissLogCount := state.readMissLogCount }

end NeogeoRuntime

/-- The tests of `ng_neogeo_runtime_load_state` on the blob. -/
def NgNeoRuntimeStateBlob.accepted (state : NgNeoRuntimeStateBlob) : Bool :=
  if state.magic ≠ ngNeoRuntimeStateMagic ∨ state.version ≠ ngNeoRuntimeStateVersion ∨
      state.size ≠ ngNeogeoRuntimeStateSize then false
  else if ngNeoSoundCommandQueueCapacity ≤ state.soundCommandQueueHead ∨
      ngNeoSoundCommandQueueCapacity ≤ state.soundCommandQueueTail ∨
      ngNeoSoundCommandQueueCapacity < state.soundCommandQueueCount then false
  else true

/-- `ng_neogeo_runtime_load_state`: whether the blob was taken, and the state after it.  `none` is
a null pointer. -/
def NeogeoRuntime.ngNeogeoRuntimeLoadState (rt : NeogeoRuntime) (data : Option (List (BitVec 8)))
    (size : BitVec 32) : Bool × NeogeoRuntime :=
  match data with
  | none => (false, rt)
  | some bytes =>
    if size < ngNeogeoRuntimeStateSize then (false, rt)
    else
      let state := NgNeoRuntimeStateBlob.layout.fetch bytes
      if state.accepted then (true, rt.restoreBlob state) else (false, rt)

end NeoRecomp
