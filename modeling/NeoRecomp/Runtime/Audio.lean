import NeoRecomp.Runtime.Ym2610

/-!
# The sound CPU and its devices

`neogeo_audio.c`: the address space of the Z80, its I/O ports, the log of YM2610 writes and the
stepping of both chips.  The vendored Z80 core is a parameter.
-/

namespace NeoRecomp

/-! ## The Z80 -/

/-- The registers of `struct z80`; its callbacks are always those of the audio object. -/
structure Z80 where
  cyc : BitVec 64
  pc : BitVec 16
  sp : BitVec 16
  ix : BitVec 16
  iy : BitVec 16
  memPtr : BitVec 16
  a : BitVec 8
  b : BitVec 8
  c : BitVec 8
  d : BitVec 8
  e : BitVec 8
  h : BitVec 8
  l : BitVec 8
  a_ : BitVec 8
  b_ : BitVec 8
  c_ : BitVec 8
  d_ : BitVec 8
  e_ : BitVec 8
  h_ : BitVec 8
  l_ : BitVec 8
  f_ : BitVec 8
  i : BitVec 8
  r : BitVec 8
  sf : Bool
  zf : Bool
  yf : Bool
  hf : Bool
  xf : Bool
  pf : Bool
  nf : Bool
  cf : Bool
  iffDelay : BitVec 8
  interruptMode : BitVec 8
  intData : BitVec 8
  iff1 : Bool
  iff2 : Bool
  halted : Bool
  intPending : Bool
  nmiPending : Bool
  deriving DecidableEq

/-- `z80_init`. -/
def Z80.z80Init : Z80 where
  cyc := 0
  pc := 0
  sp := 0xFFFF
  ix := 0
  iy := 0
  memPtr := 0
  a := 0xFF
  b := 0
  c := 0
  d := 0
  e := 0
  h := 0
  l := 0
  a_ := 0
  b_ := 0
  c_ := 0
  d_ := 0
  e_ := 0
  h_ := 0
  l_ := 0
  f_ := 0
  i := 0
  r := 0
  sf := true
  zf := true
  yf := true
  hf := true
  xf := true
  pf := true
  nf := true
  cf := true
  iffDelay := 0
  interruptMode := 0
  intData := 0
  iff1 := false
  iff2 := false
  halted := false
  intPending := false
  nmiPending := false

/-- `z80_step` as the callbacks it makes, each with the registers at that moment. -/
inductive Z80Run
  | done (cpu : Z80)
  | readByte (cpu : Z80) (addr : BitVec 16) (next : BitVec 8 → Z80Run)
  | writeByte (cpu : Z80) (addr : BitVec 16) (value : BitVec 8) (next : Z80Run)
  | portIn (cpu : Z80) (addr : BitVec 16) (next : BitVec 8 → Z80Run)
  | portOut (cpu : Z80) (addr : BitVec 16) (value : BitVec 8) (next : Z80Run)

/-! ## The audio object -/

structure NgNeoAudioYmWrite where
  z80Cycles : BitVec 64
  z80Pc : BitVec 16
  z80Caller : BitVec 16
  port : BitVec 8
  address : BitVec 8
  data : BitVec 8
  deriving DecidableEq

structure NgNeoAudioAdpcmAEvent where
  keyonCount : BitVec 32
  keyoffCount : BitVec 32
  startAddr : BitVec 32
  endAddr : BitVec 32
  channel : BitVec 8
  level : BitVec 8
  totalLevel : BitVec 8
  panLeft : BitVec 8
  panRight : BitVec 8
  deriving DecidableEq

structure NgNeoAudioAdpcmBEvent where
  keyonCount : BitVec 32
  resetCount : BitVec 32
  startAddr : BitVec 32
  endAddr : BitVec 32
  deltaN : BitVec 16
  level : BitVec 8
  control : BitVec 8
  panLeft : BitVec 8
  panRight : BitVec 8
  «repeat» : BitVec 8
  speakerOff : BitVec 8
  deriving DecidableEq

structure AudioRoms extends SampleRoms where
  mRom : Option (Array (BitVec 8)) := none
  mRomSize : BitVec 32 := 0

/-- The variables of the audio object that change while it runs, the YM2610 apart. -/
structure AudioCore where
  cpu : Z80
  ram : BitVec 11 → BitVec 8
  bankA : BitVec 8
  bankB : BitVec 8
  bankC : BitVec 8
  bankD : BitVec 8
  commandLatch : BitVec 8
  replyLatch : BitVec 8
  nmiEnabled : BitVec 8
  nmiPending : BitVec 8
  z80CycleCredit : BitVec 32
  commandAckCount : BitVec 32
  commandReadCount : BitVec 32
  commandClearCount : BitVec 32
  nmiServiceCount : BitVec 32
  ymAddress : Fin 2 → BitVec 8
  ymWriteCount : BitVec 32
  ymReadCount : BitVec 32
  ymWriteLog : BitVec 8 → NgNeoAudioYmWrite
  ymWriteLogHead : BitVec 32
  adpcmARegs : Fin 0x30 → BitVec 8
  adpcmBRegs : Fin 0x11 → BitVec 8
  lastAdpcmA : NgNeoAudioAdpcmAEvent
  lastAdpcmB : NgNeoAudioAdpcmBEvent

/-- `struct NgNeoAudio`; the YM2610 is missing when it could not be created. -/
structure NgNeoAudio (χ : Type) extends AudioRoms, AudioCore where
  ym : Option (YmBackend χ)

namespace NgNeoAudio

variable {χ : Type} (chip : Ym2610Chip χ)

/-! ## Program ROM -/

/-- `ng_audio_effective_m_rom_size`: a 128 KiB ROM is seen with its first half twice. -/
def ngAudioEffectiveMRomSize (roms : AudioRoms) : BitVec 32 :=
  if roms.mRomSize = 0x20000 then 0x30000 else roms.mRomSize

/-- `ng_audio_read_m`. -/
def ngAudioReadM (roms : AudioRoms) (addr : BitVec 32) : BitVec 8 :=
  match roms.mRom with
  | none => 0xFF
  | some rom =>
    if roms.mRomSize = 0 then 0xFF
    else
      let size := ngAudioEffectiveMRomSize roms
      let addr := if size ≠ 0 ∧ size ≤ addr then addr % size else addr
      if roms.mRomSize = 0x20000 ∧ 0x10000 ≤ addr then
        rom.getD ((addr - 0x10000) &&& 0x1FFFF).toNat 0
      else if addr < roms.mRomSize then rom.getD addr.toNat 0
      else rom.getD (addr % roms.mRomSize).toNat 0

/-- `ng_audio_m_bank_base`. -/
def ngAudioMBankBase (roms : AudioRoms) (bank : BitVec 8) (shift : Nat) : BitVec 32 :=
  let size := ngAudioEffectiveMRomSize roms
  if size ≤ 0x10000 then 0
  else
    let mask := (size - 0x10000 - 1) &&& 0x3FFFF
    let base := 0x10000 + ((bank.setWidth 32 <<< shift) &&& mask)
    if base < size then base
    else
      let bankSpan := size - 0x10000
      if bankSpan = 0 then 0 else 0x10000 + (base - 0x10000) % bankSpan

/-! ## Memory -/

/-- `ng_audio_debug_read_z80_impl`, which the Z80 reads through. -/
def ngAudioDebugReadZ80 (audio : NgNeoAudio χ) (addr : BitVec 16) : BitVec 8 :=
  let roms := audio.toAudioRoms
  let window (bank : BitVec 8) (shift : Nat) (mask : BitVec 16) : BitVec 8 :=
    ngAudioReadM roms (ngAudioMBankBase roms bank shift + (addr &&& mask).setWidth 32)
  if addr ≤ 0x7FFF then ngAudioReadM roms (addr.setWidth 32)
  else if addr ≤ 0xBFFF then window audio.bankA 14 0x3FFF
  else if addr ≤ 0xDFFF then window audio.bankB 13 0x1FFF
  else if addr ≤ 0xEFFF then window audio.bankC 12 0x0FFF
  else if addr ≤ 0xF7FF then window audio.bankD 11 0x07FF
  else audio.ram (addr.setWidth 11)

/-- `ng_audio_debug_write_z80_impl`. -/
def ngAudioDebugWriteZ80 (audio : NgNeoAudio χ) (addr : BitVec 16) (value : BitVec 8) :
    NgNeoAudio χ :=
  if 0xF800 ≤ addr then { audio with ram := Function.update audio.ram (addr.setWidth 11) value }
  else audio

/-! ## YM2610 registers -/

/-- `ng_audio_record_ym_write`. -/
def ngAudioRecordYmWrite (audio : NgNeoAudio χ) (port address data : BitVec 8) : NgNeoAudio χ :=
  let entry : NgNeoAudioYmWrite :=
    { z80Cycles := audio.cpu.cyc
      z80Pc := audio.cpu.pc
      z80Caller :=
        (audio.ngAudioDebugReadZ80 audio.cpu.sp).setWidth 16 |||
          ((audio.ngAudioDebugReadZ80 (audio.cpu.sp + 1)).setWidth 16 <<< 8)
      port := port
      address := address
      data := data }
  { audio with
    ymWriteLog := Function.update audio.ymWriteLog (audio.ymWriteLogHead.setWidth 8) entry
    ymWriteLogHead := (audio.ymWriteLogHead + 1) % 256
    ymWriteCount := audio.ymWriteCount + 1 }

/-- A register of one of the two shadow files. -/
def regAt {n : Nat} (regs : Fin n → BitVec 8) (i : Nat) : BitVec 8 :=
  if h : i < n then regs ⟨i, h⟩ else 0

-- Sample addresses are two registers in units of 256 bytes.
def sampleAddr (low high : BitVec 8) : BitVec 32 :=
  (low.setWidth 32 ||| (high.setWidth 32 <<< 8)) <<< 8

def flagBit (value mask : BitVec 8) : BitVec 8 := if value &&& mask ≠ 0 then 1 else 0

/-- `ng_audio_refresh_last_adpcm_a_event`. -/
def ngAudioRefreshLastAdpcmAEvent (core : AudioCore) : AudioCore :=
  if core.lastAdpcmA.keyonCount = 0 ∨ 6 ≤ core.lastAdpcmA.channel then core
  else
    let reg (base : Nat) : BitVec 8 := regAt core.adpcmARegs (base + core.lastAdpcmA.channel.toNat)
    { core with
      lastAdpcmA :=
        { core.lastAdpcmA with
          startAddr := sampleAddr (reg 0x10) (reg 0x18)
          endAddr := sampleAddr (reg 0x20) (reg 0x28)
          level := reg 0x08 &&& 0x1F
          totalLevel := regAt core.adpcmARegs 0x01 &&& 0x3F
          panLeft := flagBit (reg 0x08) 0x80
          panRight := flagBit (reg 0x08) 0x40 } }

/-- `ng_audio_refresh_last_adpcm_b_event`. -/
def ngAudioRefreshLastAdpcmBEvent (core : AudioCore) : AudioCore :=
  if core.lastAdpcmB.keyonCount = 0 then core
  else
    let reg := regAt core.adpcmBRegs
    { core with
      lastAdpcmB :=
        { core.lastAdpcmB with
          startAddr := sampleAddr (reg 0x02) (reg 0x03)
          endAddr := sampleAddr (reg 0x04) (reg 0x05)
          deltaN := (reg 0x09).setWidth 16 ||| ((reg 0x0A).setWidth 16 <<< 8)
          level := reg 0x0B
          control := reg 0x00
          panLeft := flagBit (reg 0x01) 0x80
          panRight := flagBit (reg 0x01) 0x40
          «repeat» := flagBit (reg 0x00) 0x10
          speakerOff := flagBit (reg 0x00) 0x08 } }

/-- The loop over the channels of a key-on or key-off. -/
def keyChannels (data : BitVec 8) (event : NgNeoAudioAdpcmAEvent) : NgNeoAudioAdpcmAEvent :=
  (List.range 6).foldl (fun event ch =>
    if data &&& 0x3F &&& (1 <<< ch) = 0 then event
    else if data &&& 0x80 ≠ 0 then { event with keyoffCount := event.keyoffCount + 1 }
    else { event with keyonCount := event.keyonCount + 1, channel := BitVec.ofNat 8 ch }) event

/-- The ADPCM-A half of `ng_audio_track_ym_data_write`. -/
def trackAdpcmA (core : AudioCore) (address : Fin 0x30) (data : BitVec 8) : AudioCore :=
  let core := { core with adpcmARegs := Function.update core.adpcmARegs address data }
  ngAudioRefreshLastAdpcmAEvent
    (if address.val = 0 then { core with lastAdpcmA := keyChannels data core.lastAdpcmA }
    else core)

/-- Its ADPCM-B half; register 0 has external mode forced and recording disabled. -/
def trackAdpcmB (core : AudioCore) (reg : Fin 0x11) (data : BitVec 8) : AudioCore :=
  let effective := if reg.val = 0 then (data ||| 0x20) &&& ~~~0x40 else data
  let core := { core with adpcmBRegs := Function.update core.adpcmBRegs reg effective }
  ngAudioRefreshLastAdpcmBEvent
    (if reg.val = 0 then
      let event := core.lastAdpcmB
      { core with
        lastAdpcmB :=
          { event with
            keyonCount :=
              if effective &&& 0x80 ≠ 0 then event.keyonCount + 1 else event.keyonCount
            resetCount :=
              if effective &&& 0x01 ≠ 0 then event.resetCount + 1 else event.resetCount } }
    else core)

/-- `ng_audio_track_ym_data_write`. -/
def ngAudioTrackYmDataWrite (core : AudioCore) (port address data : BitVec 8) : AudioCore :=
  if h : port = 3 ∧ address.toNat < 0x30 then trackAdpcmA core ⟨address.toNat, h.2⟩ data
  else if port = 1 ∧ 0x10 ≤ address ∧ address ≤ 0x1B then
    trackAdpcmB core (Fin.ofNat 0x11 (address - 0x10).toNat) data
  else core

/-- `ng_audio_ym_read`. -/
def ngAudioYmRead (audio : NgNeoAudio χ) (port : BitVec 8) : BitVec 8 × NgNeoAudio χ :=
  let audio := { audio with ymReadCount := audio.ymReadCount + 1 }
  match audio.ym with
  | none => (0, audio)
  | some ym =>
    let read := ym.ngNeogeoYm2610Read chip port
    (read.1, { audio with ym := some read.2 })

/-- `ng_audio_ym_write`; an even port sets the address of the next write to the odd one. -/
def ngAudioYmWrite (audio : NgNeoAudio χ) (port data : BitVec 8) : NgNeoAudio χ :=
  let half : Fin 2 := ((port >>> 1).setWidth 1).toFin
  let audio :=
    if port &&& 1 = 0 then
      { audio with ymAddress := Function.update audio.ymAddress half data }
    else
      let address := audio.ymAddress half
      let audio := audio.ngAudioRecordYmWrite port address data
      { audio with toAudioCore := ngAudioTrackYmDataWrite audio.toAudioCore port address data }
  { audio with ym := audio.ym.map fun ym => ym.ngNeogeoYm2610Write chip port data }

/-! ## Ports -/

/-- `ng_audio_port_read_impl`. -/
def ngAudioPortRead (audio : NgNeoAudio χ) (portAddr : BitVec 16) : BitVec 8 × NgNeoAudio χ :=
  let high : BitVec 8 := (portAddr >>> 8).setWidth 8
  match (portAddr &&& 0x000F).toNat with
  | 0x00 =>
    (audio.commandLatch,
      { audio with
        commandAckCount := audio.commandAckCount + 1
        commandReadCount := audio.commandReadCount + 1
        nmiPending := 0 })
  | 0x04 => audio.ngAudioYmRead chip 0
  | 0x05 => audio.ngAudioYmRead chip 1
  | 0x06 => audio.ngAudioYmRead chip 2
  | 0x07 => audio.ngAudioYmRead chip 3
  | 0x08 => (0, { audio with bankD := high })
  | 0x09 => (0, { audio with bankC := high })
  | 0x0A => (0, { audio with bankB := high })
  | 0x0B => (0, { audio with bankA := high })
  | 0x0C => (0, audio)
  | _ => (0xFF, audio)

/-- `ng_audio_port_write_impl`. -/
def ngAudioPortWrite (audio : NgNeoAudio χ) (portAddr : BitVec 16) (value : BitVec 8) :
    NgNeoAudio χ :=
  match (portAddr &&& 0x001F).toNat with
  | 0x08 | 0x09 | 0x0A | 0x0B => { audio with nmiEnabled := 1 }
  | 0x18 => { audio with nmiEnabled := 0 }
  | _ =>
    match (portAddr &&& 0x000F).toNat with
    | 0x00 =>
      { audio with
        commandLatch := 0
        commandAckCount := audio.commandAckCount + 1
        commandClearCount := audio.commandClearCount + 1 }
    | 0x04 => audio.ngAudioYmWrite chip 0 value
    | 0x05 => audio.ngAudioYmWrite chip 1 value
    | 0x06 => audio.ngAudioYmWrite chip 2 value
    | 0x07 => audio.ngAudioYmWrite chip 3 value
    | 0x0C => { audio with replyLatch := value }
    | _ => audio

/-! ## Control -/

/-- `ng_neogeo_audio_set_roms`. -/
def ngNeogeoAudioSetRoms (audio : NgNeoAudio χ) (roms : AudioRoms) : NgNeoAudio χ :=
  { audio with
    toAudioRoms := roms
    ym := audio.ym.map fun ym => ym.ngNeogeoYm2610SetRoms roms.toSampleRoms }

/-- `ng_neogeo_audio_reset`. -/
def ngNeogeoAudioReset (audio : NgNeoAudio χ) : NgNeoAudio χ where
  toAudioRoms := audio.toAudioRoms
  cpu := .z80Init
  ram := fun _ => 0
  bankA := 0x02
  bankB := 0x06
  bankC := 0x0E
  bankD := 0x1E
  commandLatch := 0
  replyLatch := 0xFF
  nmiEnabled := 0
  nmiPending := 0
  z80CycleCredit := 0
  commandAckCount := 0
  commandReadCount := 0
  commandClearCount := 0
  nmiServiceCount := 0
  ymAddress := fun _ => 0
  ymWriteCount := 0
  ymReadCount := 0
  ymWriteLog := fun _ => ⟨0, 0, 0, 0, 0, 0⟩
  ymWriteLogHead := 0
  adpcmARegs := fun _ => 0
  adpcmBRegs := fun _ => 0
  lastAdpcmA := ⟨0, 0, 0, 0, 0xFF, 0, 0, 0, 0⟩
  lastAdpcmB := ⟨0, 0, 0, 0, 0, 0, 0, 0, 0, 0, 0⟩
  ym := audio.ym.map fun ym =>
    (ym.ngNeogeoYm2610SetRoms audio.toSampleRoms).ngNeogeoYm2610Reset chip

/-- `ng_neogeo_audio_write_command`. -/
def ngNeogeoAudioWriteCommand (audio : NgNeoAudio χ) (command : BitVec 8) : NgNeoAudio χ :=
  { audio with commandLatch := command, nmiPending := 1 }

/-! ## Stepping -/

/-- The callbacks of a step of the Z80, on the audio object. -/
def runZ80 : Z80Run → NgNeoAudio χ → NgNeoAudio χ
  | .done cpu, audio => { audio with cpu := cpu }
  | .readByte cpu addr next, audio =>
    let audio := { audio with cpu := cpu }
    runZ80 (next (audio.ngAudioDebugReadZ80 addr)) audio
  | .writeByte cpu addr value next, audio =>
    let audio := { audio with cpu := cpu }
    runZ80 next (audio.ngAudioDebugWriteZ80 addr value)
  | .portIn cpu addr next, audio =>
    let audio := { audio with cpu := cpu }
    let read := audio.ngAudioPortRead chip addr
    runZ80 (next read.1) read.2
  | .portOut cpu addr value next, audio =>
    let audio := { audio with cpu := cpu }
    runZ80 next (audio.ngAudioPortWrite chip addr value)

/-- The NMI of `ng_audio_step_z80`: a pending command reaches the Z80 once NMIs are enabled. -/
def raiseNmi (audio : NgNeoAudio χ) : NgNeoAudio χ :=
  if audio.nmiPending ≠ 0 ∧ audio.nmiEnabled ≠ 0 ∧ audio.cpu.nmiPending = false then
    { audio with
      cpu := { audio.cpu with nmiPending := true }
      nmiPending := 0
      nmiServiceCount := audio.nmiServiceCount + 1 }
  else audio

/-- Its interrupt line, which follows the level of the YM2610's. -/
def followIrq (audio : NgNeoAudio χ) : NgNeoAudio χ :=
  if audio.ym.any (·.irqPending) then
    if audio.cpu.intPending then audio
    else { audio with cpu := { audio.cpu with intPending := true, intData := 0xFF } }
  else { audio with cpu := { audio.cpu with intPending := false } }

variable (z80Step : Z80 → Z80Run)

/-- `ng_audio_step_z80`. -/
def ngAudioStepZ80 (audio : NgNeoAudio χ) : NgNeoAudio χ :=
  let audio := audio.raiseNmi.followIrq
  let before := audio.cpu.cyc
  let audio := audio.runZ80 chip (z80Step audio.cpu)
  let after := audio.cpu.cyc
  if before < after then
    { audio with
      ym := audio.ym.map fun ym =>
        ym.ngNeogeoYm2610AdvanceClocks chip ((after - before).setWidth 32 * 2) }
  else audio

/-- The loop of `ng_neogeo_audio_advance_z80_cycles` with the instructions it may still run. -/
def advanceTurns (start : BitVec 64) (cycles : BitVec 32) : Nat → NgNeoAudio χ → NgNeoAudio χ
  | 0, audio => audio
  | turns + 1, audio =>
    if (audio.cpu.cyc - start).setWidth 32 < cycles then
      advanceTurns start cycles turns (audio.ngAudioStepZ80 chip z80Step)
    else audio

/-- The part of `ng_neogeo_audio_advance_z80_cycles` behind the credit. -/
def advanceBeyondCredit (audio : NgNeoAudio χ) (cycles : BitVec 32) : NgNeoAudio χ :=
  let start := audio.cpu.cyc
  let maxInstructions := cycles * 2 + 1024
  let audio := audio.advanceTurns chip z80Step start cycles maxInstructions.toNat
  let advanced := (audio.cpu.cyc - start).setWidth 32
  if cycles < advanced then { audio with z80CycleCredit := advanced - cycles } else audio

/-- `ng_neogeo_audio_advance_z80_cycles`. -/
def ngNeogeoAudioAdvanceZ80Cycles (audio : NgNeoAudio χ) (cycles : BitVec 32) : NgNeoAudio χ :=
  if cycles = 0 then audio
  else if audio.z80CycleCredit ≠ 0 then
    if cycles ≤ audio.z80CycleCredit then
      { audio with z80CycleCredit := audio.z80CycleCredit - cycles }
    else
      advanceBeyondCredit chip z80Step { audio with z80CycleCredit := 0 }
        (cycles - audio.z80CycleCredit)
  else advanceBeyondCredit chip z80Step audio cycles

end NgNeoAudio

/-! ## Operations -/

/-- What the host does with an audio object between two resets. -/
inductive AudioOp
  | writeCommand (command : BitVec 8)
  | portRead (portAddr : BitVec 16)
  | portWrite (portAddr : BitVec 16) (value : BitVec 8)
  | readZ80 (addr : BitVec 16)
  | writeZ80 (addr : BitVec 16) (value : BitVec 8)
  | advanceZ80Cycles (cycles : BitVec 32)

variable {χ : Type} (chip : Ym2610Chip χ) (z80Step : Z80 → Z80Run)

/-- One operation, with the byte it returns. -/
def AudioOp.step (op : AudioOp) (audio : NgNeoAudio χ) : Option (BitVec 8) × NgNeoAudio χ :=
  match op with
  | .writeCommand command => (none, audio.ngNeogeoAudioWriteCommand command)
  | .portRead portAddr => (audio.ngAudioPortRead chip portAddr).map some id
  | .portWrite portAddr value => (none, audio.ngAudioPortWrite chip portAddr value)
  | .readZ80 addr => (some (audio.ngAudioDebugReadZ80 addr), audio)
  | .writeZ80 addr value => (none, audio.ngAudioDebugWriteZ80 addr value)
  | .advanceZ80Cycles cycles => (none, audio.ngNeogeoAudioAdvanceZ80Cycles chip z80Step cycles)

/-- The bytes that a sequence of operations returns, and the object after them. -/
def NgNeoAudio.runOps (audio : NgNeoAudio χ) :
    List AudioOp → List (Option (BitVec 8)) × NgNeoAudio χ
  | [] => ([], audio)
  | op :: ops =>
    let rest := (op.step chip z80Step audio).2.runOps ops
    ((op.step chip z80Step audio).1 :: rest.1, rest.2)

end NeoRecomp
