import NeoRecomp.Runtime.Timing

/-!
# Bus accesses on the whole state

Reads go through the view of the variables they use.  `ng68k_write8` and `ng68k_write16` decode
the same windows as the reads, in an order of their own.
-/

namespace NeoRecomp
namespace NeogeoRuntime

/-! ## Reads -/

/-- The variables a bus read uses. -/
def bus (rt : NeogeoRuntime) : NgNeoRuntime where
  programRom := rt.programRom
  programRomSize := rt.programRomSize
  systemRom := rt.systemRom
  systemRomSize := rt.systemRomSize
  workRam := fun i => rt.workRam (BitVec.ofNat 16 i)
  paletteRam := fun i => rt.paletteRam (BitVec.ofNat 14 i)
  paletteBank := rt.paletteBank
  backupRam := fun i => rt.backupRam (BitVec.ofNat 16 i)
  vram := fun i => rt.vram (BitVec.ofNat 16 i)
  vramAddr := rt.vramAddr
  vramMod := rt.vramMod
  biosVectorsEnabled := rt.biosVectorsEnabled != 0
  p1cnt := rt.p1cnt
  p2cnt := rt.p2cnt
  statusA := rt.statusA
  statusB := rt.statusB
  systemInputLow := rt.systemInputLow
  statusAReads := rt.statusAReads
  soundReply := rt.soundReply
  dipswitch := rt.dipswitch
  lspcMode := rt.lspcMode
  timerStop := rt.timerStop
  timerReloadValue := rt.timerReloadValue
  readMissLogCount := rt.readMissLogCount

/-- The two counters a bus read may change. -/
def noteReads (rt : NeogeoRuntime) (view : NgNeoRuntime) : NeogeoRuntime :=
  { rt with statusAReads := view.statusAReads, readMissLogCount := view.readMissLogCount }

/-- A bus read of the view, on the whole state. -/
def busRead {n : Nat} (rt : NeogeoRuntime) (read : NgNeoRuntime → BitVec 32 → BitVec n × NgNeoRuntime)
    (addr : BitVec 32) : BitVec n × NeogeoRuntime :=
  ((read rt.bus addr).1, rt.noteReads (read rt.bus addr).2)

/-! ## Palette RAM -/

/-- `ng_neogeo_update_palette_peak`. -/
def ngNeogeoUpdatePalettePeak (p : PaletteState) : PaletteState :=
  if p.palettePeakNonzeroBytes < p.paletteNonzeroBytes then
    { p with
      palettePeakNonzeroBytes := p.paletteNonzeroBytes
      palettePeakChecksum := p.paletteChecksum }
  else p

/-- `ng_neogeo_write_palette_byte`. -/
def ngNeogeoWritePaletteByte (p : PaletteState) (offset : BitVec 32) (value : BitVec 8) :
    PaletteState :=
  let old := p.paletteRam (offset.setWidth 14)
  if old = value then p
  else
    let nonzero := if old ≠ 0 then p.paletteNonzeroBytes - 1 else p.paletteNonzeroBytes
    ngNeogeoUpdatePalettePeak { p with
      paletteNonzeroBytes := if value ≠ 0 then nonzero + 1 else nonzero
      paletteChecksum := p.paletteChecksum - old.setWidth 32 + value.setWidth 32
      paletteRam := Function.update p.paletteRam (offset.setWidth 14) value }

/-- `ng_neogeo_note_palette_write`. -/
def ngNeogeoNotePaletteWrite (p : PaletteState) (addr : BitVec 32) (value : BitVec 16) :
    PaletteState :=
  { p with
    paletteWriteCount := p.paletteWriteCount + 1
    paletteNonzeroWriteCount :=
      if value ≠ 0 then p.paletteNonzeroWriteCount + 1 else p.paletteNonzeroWriteCount
    paletteLastAddr := addr &&& 0x00FFFFFF
    paletteLastValue := value
    paletteLastBank := p.paletteBank }

/-- A word to palette RAM, as `ng68k_write16` writes it and, with its byte twice,
`ng68k_write8`. -/
def writePalette (p : PaletteState) (addr : BitVec 32) (value : BitVec 16) : PaletteState :=
  let offset := (p.paletteBank.setWidth 32 * 0x2000 ||| (addr &&& 0x1FFF)) &&& ~~~1
  let p := ngNeogeoWritePaletteByte p offset ((value >>> 8).setWidth 8)
  let p := ngNeogeoWritePaletteByte p (offset + 1) (value.setWidth 8)
  ngNeogeoNotePaletteWrite p addr value

/-! ## Registers -/

/-- The 24-bit program counter that the diagnostics record. -/
def pc24 (rt : NeogeoRuntime) : BitVec 32 := rt.m68k.pc &&& 0x00FFFFFF

/-- The tail moves over the oldest event. -/
def advanceTail (q : SoundCommandQueue) : SoundCommandQueue :=
  { q with
    soundCommandQueueTail := (q.soundCommandQueueTail + 1) % 512
    soundCommandQueueCount := q.soundCommandQueueCount - 1 }

/-- A full queue loses its oldest event. -/
def dropOldest (q : SoundCommandQueue) : SoundCommandQueue :=
  if 512 ≤ q.soundCommandQueueCount then
    { advanceTail q with soundCommandQueueOverflows := q.soundCommandQueueOverflows + 1 }
  else q

/-- An event takes the cell at the head. -/
def enqueue (q : SoundCommandQueue) (event : NgNeoSoundCommandEvent) : SoundCommandQueue :=
  { q with
    soundCommandQueue :=
      Function.update q.soundCommandQueue (q.soundCommandQueueHead.setWidth 9) event
    soundCommandQueueHead := (q.soundCommandQueueHead + 1) % 512
    soundCommandQueueCount := q.soundCommandQueueCount + 1 }

/-- `ng_neogeo_queue_sound_command`, with the time and the place of the write. -/
def ngNeogeoQueueSoundCommand (q : SoundCommandQueue) (cpuCycles : BitVec 64) (pc : BitVec 32)
    (command : BitVec 8) : SoundCommandQueue :=
  enqueue (dropOldest q) ⟨cpuCycles, pc &&& 0x00FFFFFF, command⟩

def ngNeogeoIsSystemLatchAddr := isRegister 0x00FE0001 0x003A0001

/-- The latch `switch` of `ng68k_write8`. -/
def writeSystemLatch (rt : NeogeoRuntime) (addr : BitVec 32) (value : BitVec 8) : NeogeoRuntime :=
  let rt := { rt with
    systemLatchWrites := rt.systemLatchWrites + 1
    lastSystemLatchPc := rt.pc24
    lastSystemLatchAddr := addr &&& 0x00FFFFFF
    lastSystemLatchValue := value }
  match (addr &&& 0x1F).toNat with
  | 0x01 => { rt with shadowEnabled := 0 }
  | 0x11 => { rt with shadowEnabled := 1 }
  | 0x03 =>
    { rt with
      biosVectorsEnabled := 1
      biosVectorEnableWrites := rt.biosVectorEnableWrites + 1
      lastBiosVectorPc := rt.pc24
      lastBiosVectorAddr := addr &&& 0x00FFFFFF
      lastBiosVectorValue := value }
  | 0x13 =>
    { rt with
      biosVectorsEnabled := 0
      biosVectorDisableWrites := rt.biosVectorDisableWrites + 1
      lastBiosVectorPc := rt.pc24
      lastBiosVectorAddr := addr &&& 0x00FFFFFF
      lastBiosVectorValue := value }
  | 0x0B => { rt with boardFixEnabled := 1 }
  | 0x1B => { rt with boardFixEnabled := 0 }
  | 0x0D => { rt with backupRamUnlocked := 0 }
  | 0x1D => { rt with backupRamUnlocked := 1 }
  | 0x0F => { rt with paletteBank := 1 }
  | 0x1F => { rt with paletteBank := 0 }
  | _ => rt

/-- `ng_neogeo_write_lspc_word`. -/
def ngNeogeoWriteLspcWord (rt : NeogeoRuntime) (addr : BitVec 32) (value : BitVec 16) :
    NeogeoRuntime :=
  let rt := { rt with
    lastLspcWritePc := rt.pc24
    lastLspcWriteAddr := addr &&& 0x00FFFFFF
    lastLspcWriteValue := value }
  match addr.toNat with
  | 0x003C0000 => { rt with vramAddr := value }
  | 0x003C0002 =>
    { rt with
      vram := Function.update rt.vram rt.vramAddr value
      vramAddr := rt.vramAddr + rt.vramMod }
  | 0x003C0004 => { rt with vramMod := value }
  | 0x003C0006 => { rt with lspcMode := value }
  | 0x003C0008 =>
    { rt with
      timerReloadValue := (rt.timerReloadValue &&& 0x0000FFFF) ||| (value.setWidth 32 <<< 16) }
  | 0x003C000A =>
    let rt := { rt with
      timerReloadValue := (rt.timerReloadValue &&& 0xFFFF0000) ||| value.setWidth 32 }
    if rt.lspcMode &&& ngNeoLspcmodeTimerReloadOnWrite ≠ 0 then
      { rt with toLspcState := rt.toLspcState.ngNeogeoReloadTimerCounter }
    else rt
  | 0x003C000C =>
    let rt := { rt with lastIrqAckPc := rt.pc24, lastIrqAckValue := value }
    { rt with toInterruptState := rt.toInterruptState.ngNeogeoAckInterrupts value }
  | 0x003C000E => { rt with timerStop := value }
  | _ => rt

/-! ## Writes -/

/-- Backup RAM takes bytes only while it is unlocked. -/
def writeBackupRam (rt : NeogeoRuntime) (addr : BitVec 32) (value : BitVec 8) : NeogeoRuntime :=
  if rt.backupRamUnlocked ≠ 0 then
    { rt with
      backupRam := Function.update rt.backupRam (addr.setWidth 16) value
      backupRamWriteCount := rt.backupRamWriteCount + 1
      backupRamLastAddr := addr &&& 0x00FFFFFF
      backupRamLastValue := value }
  else rt

/-- Writing the DIP switch register kicks the watchdog. -/
def kickWatchdog (rt : NeogeoRuntime) (addr : BitVec 32) (value : BitVec 8) : NeogeoRuntime :=
  let w := { rt.toWatchdogState with
    watchdogKicks := rt.watchdogKicks + 1
    lastWatchdogPc := rt.pc24
    lastWatchdogAddr := addr &&& 0x00FFFFFF
    lastWatchdogValue := value }
  { rt with toWatchdogState := w.ngNeogeoNoteWatchdogKick rt.toTimingState }

def writePortOutput (rt : NeogeoRuntime) (addr : BitVec 32) (value : BitVec 8) : NeogeoRuntime :=
  { rt with
    portOutput := value
    lastPortOutputPc := rt.pc24
    lastPortOutputAddr := addr &&& 0x00FFFFFF }

/-- The sound register latches the command and queues it. -/
def writeSound (rt : NeogeoRuntime) (addr : BitVec 32) (value : BitVec 8) : NeogeoRuntime :=
  { rt with
    soundCommand := value
    lastSoundPc := rt.pc24
    lastSoundAddr := addr &&& 0x00FFFFFF
    toSoundCommandQueue :=
      ngNeogeoQueueSoundCommand rt.toSoundCommandQueue rt.cpuCycles rt.m68k.pc value }

/-- A byte in both halves of a word, as the 68000 drives the bus. -/
def twice (value : BitVec 8) : BitVec 16 := value ++ value

/-- `ng68k_write8`.  A write that nobody decodes is only reported. -/
def ng68kWrite8 (rt : NeogeoRuntime) (addr : BitVec 32) (value : BitVec 8) : NeogeoRuntime :=
  let addr := addr &&& 0x00FFFFFF
  if inWindow 0x00100000 0x0010FFFF addr then
    { rt with workRam := Function.update rt.workRam (addr.setWidth 16) value }
  else if ngNeogeoIsPaletteAddr addr then
    { rt with toPaletteState := writePalette rt.toPaletteState addr (twice value) }
  else if ngNeogeoIsBackupRamAddr addr then rt.writeBackupRam addr value
  else if ngNeogeoIsSystemRomAddr addr then rt
  else if ngNeogeoIsMemcardAddr addr then rt
  else if ngNeogeoIsDipswitchAddr addr then rt.kickWatchdog addr value
  else if ngNeogeoIsPortOutputAddr addr then rt.writePortOutput addr value
  else if ngNeogeoIsSoundAddr addr then rt.writeSound addr value
  else if ngNeogeoIsSystemLatchAddr addr then rt.writeSystemLatch addr value
  else if ngNeogeoIsLspcAddr addr then
    rt.ngNeogeoWriteLspcWord (addr &&& 0x00FFFFFE) (twice value)
  else rt

/-- `ng68k_write16`. -/
def ng68kWrite16 (rt : NeogeoRuntime) (addr : BitVec 32) (value : BitVec 16) : NeogeoRuntime :=
  let addr := addr &&& 0x00FFFFFF
  if ngNeogeoIsPaletteAddr addr then
    { rt with toPaletteState := writePalette rt.toPaletteState addr value }
  else if ngNeogeoIsLspcAddr addr then rt.ngNeogeoWriteLspcWord (addr &&& 0x00FFFFFE) value
  else (rt.ng68kWrite8 addr ((value >>> 8).setWidth 8)).ng68kWrite8 (addr + 1) (value.setWidth 8)

/-- `ng68k_write32`. -/
def ng68kWrite32 (rt : NeogeoRuntime) (addr : BitVec 32) (value : BitVec 32) : NeogeoRuntime :=
  (rt.ng68kWrite16 addr ((value >>> 16).setWidth 16)).ng68kWrite16 (addr + 2) (value.setWidth 16)

end NeogeoRuntime
end NeoRecomp
