import NeoRecomp.Runtime.Bus

/-!
# The state of the runtime

The static variables of `neogeo_runtime.c`, each under its own name without the `g_ng_neogeo_`
and `g_ng_` prefixes, grouped by device.  Left out are the external dispatch handler and the path
of the miss log, which no operation modelled here reads.
-/

namespace NeoRecomp

/-- `NgNeoSoundCommandEvent`. -/
structure NgNeoSoundCommandEvent where
  cpuCycles : BitVec 64
  pc : BitVec 32
  command : BitVec 8
deriving DecidableEq

/-! ## Devices -/

structure RomState where
  programRom : Option (Array (BitVec 8))
  programRomSize : BitVec 32
  systemRom : Option (Array (BitVec 8))
  systemRomSize : BitVec 32

/-- The 0x4000 bytes of palette RAM are indexed by 14 bits. -/
structure PaletteState where
  paletteRam : BitVec 14 → BitVec 8
  paletteBank : BitVec 8
  paletteNonzeroBytes : BitVec 32
  paletteChecksum : BitVec 32
  paletteWriteCount : BitVec 32
  paletteNonzeroWriteCount : BitVec 32
  paletteLastAddr : BitVec 32
  paletteLastValue : BitVec 16
  paletteLastBank : BitVec 8
  palettePeakNonzeroBytes : BitVec 32
  palettePeakChecksum : BitVec 32

structure BackupState where
  backupRam : BitVec 16 → BitVec 8
  backupRamUnlocked : BitVec 8
  backupRamWriteCount : BitVec 32
  backupRamLastAddr : BitVec 32
  backupRamLastValue : BitVec 8

/-- The graphics chip: VRAM port, mode register and pixel timer. -/
structure LspcState where
  vram : BitVec 16 → BitVec 16
  vramAddr : BitVec 16
  vramMod : BitVec 16
  lspcMode : BitVec 16
  lastLspcWritePc : BitVec 32
  lastLspcWriteAddr : BitVec 32
  lastLspcWriteValue : BitVec 16
  timerStop : BitVec 16
  timerReloadValue : BitVec 32
  timerCounterValue : BitVec 32
  timerCounterLoaded : BitVec 8

structure LatchState where
  shadowEnabled : BitVec 8
  biosVectorsEnabled : BitVec 8
  boardFixEnabled : BitVec 8
  systemLatchWrites : BitVec 32
  lastSystemLatchPc : BitVec 32
  lastSystemLatchAddr : BitVec 32
  lastSystemLatchValue : BitVec 8
  biosVectorEnableWrites : BitVec 32
  biosVectorDisableWrites : BitVec 32
  lastBiosVectorPc : BitVec 32
  lastBiosVectorAddr : BitVec 32
  lastBiosVectorValue : BitVec 8

structure PortState where
  p1cnt : BitVec 8
  p2cnt : BitVec 8
  statusA : BitVec 8
  statusB : BitVec 8
  systemInputLow : BitVec 8
  statusAReads : BitVec 32
  dipswitch : BitVec 8
  portOutput : BitVec 8
  lastPortOutputPc : BitVec 32
  lastPortOutputAddr : BitVec 32
  readMissLogCount : BitVec 32

/-- The ring of `NG_NEO_SOUND_COMMAND_QUEUE_CAPACITY` = 512 events, which is indexed by 9 bits. -/
structure SoundCommandQueue where
  soundCommandQueue : BitVec 9 → NgNeoSoundCommandEvent
  soundCommandQueueHead : BitVec 32
  soundCommandQueueTail : BitVec 32
  soundCommandQueueCount : BitVec 32
  soundCommandQueueOverflows : BitVec 32

structure SoundState extends SoundCommandQueue where
  soundCommand : BitVec 8
  soundReply : BitVec 8
  lastSoundPc : BitVec 32
  lastSoundAddr : BitVec 32

structure WatchdogState where
  watchdogKicks : BitVec 32
  lastWatchdogPc : BitVec 32
  lastWatchdogAddr : BitVec 32
  lastWatchdogValue : BitVec 8
  watchdogTimeoutPolls : BitVec 32
  watchdogLastKickPoll : BitVec 32
  watchdogMaxGapPolls : BitVec 32
  watchdogTimeoutCycles : BitVec 32
  watchdogLastKickCycle : BitVec 64
  watchdogMaxGapCycles : BitVec 64
  watchdogResetPc : BitVec 32
  watchdogResetSsp : BitVec 32
  watchdogResets : BitVec 32
  watchdogResetPending : BitVec 8
  watchdogLastResetPc : BitVec 32
  watchdogLastResetPoll : BitVec 32
  watchdogLastResetCycle : BitVec 64

structure InterruptState where
  interruptLevel : BitVec 8
  interruptVector : BitVec 8
  level7Edge : BitVec 8
  irqPending : BitVec 16
  vblankInterrupts : BitVec 32
  timerInterrupts : BitVec 32
  irqAckWrites : BitVec 32
  lastIrqAckPc : BitVec 32
  lastIrqAckValue : BitVec 16
  lastInterruptReturnPc : BitVec 32
  lastInterruptLevel : BitVec 8
  lastInterruptVector : BitVec 8

structure TimingState where
  currentScanline : BitVec 16
  frameCount : BitVec 32
  interruptPolls : BitVec 32
  autoVblankInterval : BitVec 32
  autoScanlineInterval : BitVec 32
  cpuCycles : BitVec 64
  scanlineCycle : BitVec 32
  cycleTimingActive : BitVec 8

/-- What the passing of scanlines changes. -/
structure RasterState extends LspcState, InterruptState, TimingState

structure NeogeoRuntime extends RomState, PaletteState, BackupState, LatchState, PortState,
    SoundState, WatchdogState, RasterState where
  m68k : NgM68kState
  workRam : BitVec 16 → BitVec 8

/-! ## Static initialisers -/

/-- The variables before the first call: zero, where the source gives no other initialiser. -/
def NeogeoRuntime.initial : NeogeoRuntime where
  programRom := none
  programRomSize := 0
  systemRom := none
  systemRomSize := 0
  paletteRam := fun _ => 0
  paletteBank := 0
  paletteNonzeroBytes := 0
  paletteChecksum := 0
  paletteWriteCount := 0
  paletteNonzeroWriteCount := 0
  paletteLastAddr := 0
  paletteLastValue := 0
  paletteLastBank := 0
  palettePeakNonzeroBytes := 0
  palettePeakChecksum := 0
  backupRam := fun _ => 0
  backupRamUnlocked := 0
  backupRamWriteCount := 0
  backupRamLastAddr := 0
  backupRamLastValue := 0
  vram := fun _ => 0
  vramAddr := 0
  vramMod := 0
  lspcMode := 0
  lastLspcWritePc := 0
  lastLspcWriteAddr := 0
  lastLspcWriteValue := 0
  timerStop := 0
  timerReloadValue := 0
  timerCounterValue := 0
  timerCounterLoaded := 0
  shadowEnabled := 0
  biosVectorsEnabled := 0
  boardFixEnabled := 0
  systemLatchWrites := 0
  lastSystemLatchPc := 0
  lastSystemLatchAddr := 0
  lastSystemLatchValue := 0
  biosVectorEnableWrites := 0
  biosVectorDisableWrites := 0
  lastBiosVectorPc := 0
  lastBiosVectorAddr := 0
  lastBiosVectorValue := 0
  p1cnt := 0xFF
  p2cnt := 0xFF
  statusA := 0xBF
  statusB := 0xFF
  systemInputLow := 0xFF
  statusAReads := 0
  dipswitch := 0xFF
  portOutput := 0
  lastPortOutputPc := 0
  lastPortOutputAddr := 0
  readMissLogCount := 0
  soundCommand := 0
  soundReply := 0xFF
  soundCommandQueue := fun _ => ⟨0, 0, 0⟩
  soundCommandQueueHead := 0
  soundCommandQueueTail := 0
  soundCommandQueueCount := 0
  soundCommandQueueOverflows := 0
  lastSoundPc := 0
  lastSoundAddr := 0
  watchdogKicks := 0
  lastWatchdogPc := 0
  lastWatchdogAddr := 0
  lastWatchdogValue := 0
  watchdogTimeoutPolls := 0
  watchdogLastKickPoll := 0
  watchdogMaxGapPolls := 0
  watchdogTimeoutCycles := 0
  watchdogLastKickCycle := 0
  watchdogMaxGapCycles := 0
  watchdogResetPc := 0
  watchdogResetSsp := 0
  watchdogResets := 0
  watchdogResetPending := 0
  watchdogLastResetPc := 0
  watchdogLastResetPoll := 0
  watchdogLastResetCycle := 0
  interruptLevel := 0
  interruptVector := 0
  level7Edge := 0
  irqPending := 0
  vblankInterrupts := 0
  timerInterrupts := 0
  irqAckWrites := 0
  lastIrqAckPc := 0
  lastIrqAckValue := 0
  lastInterruptReturnPc := 0
  lastInterruptLevel := 0
  lastInterruptVector := 0
  currentScanline := 0
  frameCount := 0
  interruptPolls := 0
  autoVblankInterval := 0
  autoScanlineInterval := 0
  cpuCycles := 0
  scanlineCycle := 0
  cycleTimingActive := 0
  m68k := ⟨fun _ => 0, fun _ => 0, 0, 0, 0, 0⟩
  workRam := fun _ => 0

end NeoRecomp
