import NeoRecomp.Runtime.Audio

/-!
# Save states of the sound CPU

The blob is a prefix with the Z80 and the variables of the audio object, and behind it the blob of
the YM2610 wrapper.
-/

namespace NeoRecomp

def ngNeoAudioStateMagic : BitVec 32 := 0x4E474153

def ngNeoAudioStateVersion : BitVec 32 := 1

-- `NG_NEO_AUDIO_YM_WRITE_LOG_CAPACITY`
def ngNeoAudioYmWriteLogCapacity : BitVec 32 := 256

/-! ## The Z80 -/

structure NgNeoAudioZ80State where
  cyc : BitVec 64
  pc : BitVec 16
  sp : BitVec 16
  ix : BitVec 16
  iy : BitVec 16
  memPtr : BitVec 16
  a : BitVec 8
  b : BitVec 8
  c : BitVec 8
  d : BitVec 8
  e : BitVec 8
  h : BitVec 8
  l : BitVec 8
  a_ : BitVec 8
  b_ : BitVec 8
  c_ : BitVec 8
  d_ : BitVec 8
  e_ : BitVec 8
  h_ : BitVec 8
  l_ : BitVec 8
  f_ : BitVec 8
  i : BitVec 8
  r : BitVec 8
  sf : BitVec 8
  zf : BitVec 8
  yf : BitVec 8
  hf : BitVec 8
  xf : BitVec 8
  pf : BitVec 8
  nf : BitVec 8
  cf : BitVec 8
  iffDelay : BitVec 8
  interruptMode : BitVec 8
  intData : BitVec 8
  iff1 : BitVec 8
  iff2 : BitVec 8
  halted : BitVec 8
  intPending : BitVec 8
  nmiPending : BitVec 8

def z80StateMembers : Members NgNeoAudioZ80State NgNeoAudioZ80State :=
  Members.start NgNeoAudioZ80State.mk
    |>.next .u64 (·.cyc)
    |>.next .u16 (·.pc)
    |>.next .u16 (·.sp)
    |>.next .u16 (·.ix)
    |>.next .u16 (·.iy)
    |>.next .u16 (·.memPtr)
    |>.next .u8 (·.a)
    |>.next .u8 (·.b)
    |>.next .u8 (·.c)
    |>.next .u8 (·.d)
    |>.next .u8 (·.e)
    |>.next .u8 (·.h)
    |>.next .u8 (·.l)
    |>.next .u8 (·.a_)
    |>.next .u8 (·.b_)
    |>.next .u8 (·.c_)
    |>.next .u8 (·.d_)
    |>.next .u8 (·.e_)
    |>.next .u8 (·.h_)
    |>.next .u8 (·.l_)
    |>.next .u8 (·.f_)
    |>.next .u8 (·.i)
    |>.next .u8 (·.r)
    |>.next .u8 (·.sf)
    |>.next .u8 (·.zf)
    |>.next .u8 (·.yf)
    |>.next .u8 (·.hf)
    |>.next .u8 (·.xf)
    |>.next .u8 (·.pf)
    |>.next .u8 (·.nf)
    |>.next .u8 (·.cf)
    |>.next .u8 (·.iffDelay)
    |>.next .u8 (·.interruptMode)
    |>.next .u8 (·.intData)
    |>.next .u8 (·.iff1)
    |>.next .u8 (·.iff2)
    |>.next .u8 (·.halted)
    |>.next .u8 (·.intPending)
    |>.next .u8 (·.nmiPending)

theorem z80StateMembers_value (state : NgNeoAudioZ80State) :
    z80StateMembers.value state = state := rfl

def z80StateLayout : Layout NgNeoAudioZ80State := .struct z80StateMembers z80StateMembers_value

-- A `bool` in a byte.
def flagByte (flag : Bool) : BitVec 8 := if flag then 1 else 0

/-- `ng_audio_capture_z80_state`. -/
def ngAudioCaptureZ80State (cpu : Z80) : NgNeoAudioZ80State :=
  { cyc := cpu.cyc, pc := cpu.pc, sp := cpu.sp, ix := cpu.ix, iy := cpu.iy, memPtr := cpu.memPtr,
    a := cpu.a, b := cpu.b, c := cpu.c, d := cpu.d, e := cpu.e, h := cpu.h, l := cpu.l,
    a_ := cpu.a_, b_ := cpu.b_, c_ := cpu.c_, d_ := cpu.d_, e_ := cpu.e_, h_ := cpu.h_,
    l_ := cpu.l_, f_ := cpu.f_, i := cpu.i, r := cpu.r, sf := flagByte cpu.sf,
    zf := flagByte cpu.zf, yf := flagByte cpu.yf, hf := flagByte cpu.hf, xf := flagByte cpu.xf,
    pf := flagByte cpu.pf, nf := flagByte cpu.nf, cf := flagByte cpu.cf,
    iffDelay := cpu.iffDelay, interruptMode := cpu.interruptMode, intData := cpu.intData,
    iff1 := flagByte cpu.iff1, iff2 := flagByte cpu.iff2, halted := flagByte cpu.halted,
    intPending := flagByte cpu.intPending, nmiPending := flagByte cpu.nmiPending }

/-- `ng_audio_restore_z80_state`. -/
def ngAudioRestoreZ80State (state : NgNeoAudioZ80State) : Z80 :=
  { cyc := state.cyc, pc := state.pc, sp := state.sp, ix := state.ix, iy := state.iy,
    memPtr := state.memPtr, a := state.a, b := state.b, c := state.c, d := state.d, e := state.e,
    h := state.h, l := state.l, a_ := state.a_, b_ := state.b_, c_ := state.c_, d_ := state.d_,
    e_ := state.e_, h_ := state.h_, l_ := state.l_, f_ := state.f_, i := state.i, r := state.r,
    sf := state.sf ≠ 0, zf := state.zf ≠ 0, yf := state.yf ≠ 0, hf := state.hf ≠ 0,
    xf := state.xf ≠ 0, pf := state.pf ≠ 0, nf := state.nf ≠ 0, cf := state.cf ≠ 0,
    iffDelay := state.iffDelay, interruptMode := state.interruptMode, intData := state.intData,
    iff1 := state.iff1 ≠ 0, iff2 := state.iff2 ≠ 0, halted := state.halted ≠ 0,
    intPending := state.intPending ≠ 0, nmiPending := state.nmiPending ≠ 0 }

/-! ## The prefix -/

def ymWriteMembers : Members NgNeoAudioYmWrite NgNeoAudioYmWrite :=
  Members.start NgNeoAudioYmWrite.mk
    |>.next .u64 (·.z80Cycles)
    |>.next .u16 (·.z80Pc)
    |>.next .u16 (·.z80Caller)
    |>.next .u8 (·.port)
    |>.next .u8 (·.address)
    |>.next .u8 (·.data)

theorem ymWriteMembers_value (entry : NgNeoAudioYmWrite) :
    ymWriteMembers.value entry = entry := rfl

def ymWriteLayout : Layout NgNeoAudioYmWrite := .struct ymWriteMembers ymWriteMembers_value

def adpcmAMembers : Members NgNeoAudioAdpcmAEvent NgNeoAudioAdpcmAEvent :=
  Members.start NgNeoAudioAdpcmAEvent.mk
    |>.next .u32 (·.keyonCount)
    |>.next .u32 (·.keyoffCount)
    |>.next .u32 (·.startAddr)
    |>.next .u32 (·.endAddr)
    |>.next .u8 (·.channel)
    |>.next .u8 (·.level)
    |>.next .u8 (·.totalLevel)
    |>.next .u8 (·.panLeft)
    |>.next .u8 (·.panRight)

theorem adpcmAMembers_value (event : NgNeoAudioAdpcmAEvent) :
    adpcmAMembers.value event = event := rfl

def adpcmALayout : Layout NgNeoAudioAdpcmAEvent := .struct adpcmAMembers adpcmAMembers_value

def adpcmBMembers : Members NgNeoAudioAdpcmBEvent NgNeoAudioAdpcmBEvent :=
  Members.start NgNeoAudioAdpcmBEvent.mk
    |>.next .u32 (·.keyonCount)
    |>.next .u32 (·.resetCount)
    |>.next .u32 (·.startAddr)
    |>.next .u32 (·.endAddr)
    |>.next .u16 (·.deltaN)
    |>.next .u8 (·.level)
    |>.next .u8 (·.control)
    |>.next .u8 (·.panLeft)
    |>.next .u8 (·.panRight)
    |>.next .u8 (·.«repeat»)
    |>.next .u8 (·.speakerOff)

theorem adpcmBMembers_value (event : NgNeoAudioAdpcmBEvent) :
    adpcmBMembers.value event = event := rfl

def adpcmBLayout : Layout NgNeoAudioAdpcmBEvent := .struct adpcmBMembers adpcmBMembers_value

structure NgNeoAudioStatePrefix where
  magic : BitVec 32
  version : BitVec 32
  size : BitVec 32
  ymStateSize : BitVec 32
  cpu : NgNeoAudioZ80State
  ram : BitVec 11 → BitVec 8
  bankA : BitVec 8
  bankB : BitVec 8
  bankC : BitVec 8
  bankD : BitVec 8
  commandLatch : BitVec 8
  replyLatch : BitVec 8
  nmiEnabled : BitVec 8
  nmiPending : BitVec 8
  z80CycleCredit : BitVec 32
  commandAckCount : BitVec 32
  commandReadCount : BitVec 32
  commandClearCount : BitVec 32
  nmiServiceCount : BitVec 32
  ymAddress : Fin 2 → BitVec 8
  ymWriteCount : BitVec 32
  ymReadCount : BitVec 32
  ymWriteLog : BitVec 8 → NgNeoAudioYmWrite
  ymWriteLogHead : BitVec 32
  adpcmARegs : Fin 0x30 → BitVec 8
  adpcmBRegs : Fin 0x11 → BitVec 8
  lastAdpcmA : NgNeoAudioAdpcmAEvent
  lastAdpcmB : NgNeoAudioAdpcmBEvent

namespace NgNeoAudioStatePrefix

def members : Members NgNeoAudioStatePrefix NgNeoAudioStatePrefix :=
  Members.start NgNeoAudioStatePrefix.mk
    |>.next .u32 (·.magic)
    |>.next .u32 (·.version)
    |>.next .u32 (·.size)
    |>.next .u32 (·.ymStateSize)
    |>.next z80StateLayout (·.cpu)
    |>.next (.memory 11 .u8) (·.ram)
    |>.next .u8 (·.bankA)
    |>.next .u8 (·.bankB)
    |>.next .u8 (·.bankC)
    |>.next .u8 (·.bankD)
    |>.next .u8 (·.commandLatch)
    |>.next .u8 (·.replyLatch)
    |>.next .u8 (·.nmiEnabled)
    |>.next .u8 (·.nmiPending)
    |>.next .u32 (·.z80CycleCredit)
    |>.next .u32 (·.commandAckCount)
    |>.next .u32 (·.commandReadCount)
    |>.next .u32 (·.commandClearCount)
    |>.next .u32 (·.nmiServiceCount)
    |>.next (.array 2 .u8) (·.ymAddress)
    |>.next .u32 (·.ymWriteCount)
    |>.next .u32 (·.ymReadCount)
    |>.next (.memory 8 ymWriteLayout) (·.ymWriteLog)
    |>.next .u32 (·.ymWriteLogHead)
    |>.next (.array 0x30 .u8) (·.adpcmARegs)
    |>.next (.array 0x11 .u8) (·.adpcmBRegs)
    |>.next adpcmALayout (·.lastAdpcmA)
    |>.next adpcmBLayout (·.lastAdpcmB)

theorem members_value (state : NgNeoAudioStatePrefix) : members.value state = state := rfl

def layout : Layout NgNeoAudioStatePrefix := .struct members members_value

/-- `sizeof(NgNeoAudioStatePrefix)` as the code casts it. -/
def sizeof : BitVec 32 := BitVec.ofNat 32 layout.size

/-- The prefix `ng_neogeo_audio_save_state` fills in. -/
def ofCore (core : AudioCore) (size ymStateSize : BitVec 32) : NgNeoAudioStatePrefix :=
  { magic := ngNeoAudioStateMagic, version := ngNeoAudioStateVersion, size := size,
    ymStateSize := ymStateSize, cpu := ngAudioCaptureZ80State core.cpu,
    ram := core.ram, bankA := core.bankA, bankB := core.bankB, bankC := core.bankC,
    bankD := core.bankD, commandLatch := core.commandLatch, replyLatch := core.replyLatch,
    nmiEnabled := core.nmiEnabled, nmiPending := core.nmiPending,
    z80CycleCredit := core.z80CycleCredit, commandAckCount := core.commandAckCount,
    commandReadCount := core.commandReadCount, commandClearCount := core.commandClearCount,
    nmiServiceCount := core.nmiServiceCount, ymAddress := core.ymAddress,
    ymWriteCount := core.ymWriteCount, ymReadCount := core.ymReadCount,
    ymWriteLog := core.ymWriteLog, ymWriteLogHead := core.ymWriteLogHead,
    adpcmARegs := core.adpcmARegs, adpcmBRegs := core.adpcmBRegs, lastAdpcmA := core.lastAdpcmA,
    lastAdpcmB := core.lastAdpcmB }

/-- What `ng_neogeo_audio_load_state` assigns from the prefix. -/
def toCore (state : NgNeoAudioStatePrefix) : AudioCore :=
  { cpu := ngAudioRestoreZ80State state.cpu,
    ram := state.ram, bankA := state.bankA, bankB := state.bankB, bankC := state.bankC,
    bankD := state.bankD, commandLatch := state.commandLatch, replyLatch := state.replyLatch,
    nmiEnabled := state.nmiEnabled, nmiPending := state.nmiPending,
    z80CycleCredit := state.z80CycleCredit, commandAckCount := state.commandAckCount,
    commandReadCount := state.commandReadCount, commandClearCount := state.commandClearCount,
    nmiServiceCount := state.nmiServiceCount, ymAddress := state.ymAddress,
    ymWriteCount := state.ymWriteCount, ymReadCount := state.ymReadCount,
    ymWriteLog := state.ymWriteLog, ymWriteLogHead := state.ymWriteLogHead,
    adpcmARegs := state.adpcmARegs, adpcmBRegs := state.adpcmBRegs,
    lastAdpcmA := state.lastAdpcmA, lastAdpcmB := state.lastAdpcmB }

end NgNeoAudioStatePrefix

/-! ## Saving and loading -/

namespace NgNeoAudio

variable {χ : Type} (chip : Ym2610Chip χ)

/-- `ng_neogeo_ym2610_state_size`, 0 for a missing chip. -/
def ymStateSize (audio : NgNeoAudio χ) : BitVec 32 :=
  match audio.ym with
  | none => 0
  | some ym => BitVec.ofNat 32 (ym.saveYm2610StateVector chip).length

/-- `ng_neogeo_audio_state_size`. -/
def ngNeogeoAudioStateSize (audio : NgNeoAudio χ) : BitVec 32 :=
  let ymSize := audio.ymStateSize chip
  if 0xFFFFFFFF - NgNeoAudioStatePrefix.sizeof < ymSize then 0
  else NgNeoAudioStatePrefix.sizeof + ymSize

/-- The YM2610 part of `ng_neogeo_audio_save_state`: nothing for size 0, else what the wrapper
writes to the rest of the buffer, which has to have the announced size. -/
def saveYm (audio : NgNeoAudio χ) (ymSize room : BitVec 32) : Option (List (BitVec 8)) :=
  if ymSize = 0 then some []
  else
    match audio.ym with
    | none => none
    | some ym =>
      (ym.ngNeogeoYm2610SaveState chip room).bind fun state =>
        if BitVec.ofNat 32 state.length = ymSize then some state else none

/-- `ng_neogeo_audio_save_state` with a non-null buffer of `outSize` bytes: the bytes written. -/
def ngNeogeoAudioSaveState (audio : NgNeoAudio χ) (outSize : BitVec 32) :
    Option (List (BitVec 8)) :=
  let totalSize := audio.ngNeogeoAudioStateSize chip
  let ymSize :=
    if NgNeoAudioStatePrefix.sizeof ≤ totalSize then totalSize - NgNeoAudioStatePrefix.sizeof else 0
  if totalSize = 0 ∨ outSize < totalSize then none
  else
    let state := NgNeoAudioStatePrefix.ofCore audio.toAudioCore totalSize ymSize
    (audio.saveYm chip ymSize (outSize - NgNeoAudioStatePrefix.sizeof)).map
      (NgNeoAudioStatePrefix.layout.store state ++ ·)

/-- The tests of `ng_neogeo_audio_load_state` on the prefix. -/
def acceptsPrefix (state : NgNeoAudioStatePrefix) (size : BitVec 32) : Bool :=
  if state.magic ≠ ngNeoAudioStateMagic ∨ state.version ≠ ngNeoAudioStateVersion ∨
      state.size ≠ size ∨ state.ymStateSize ≠ size - NgNeoAudioStatePrefix.sizeof then false
  else if ngNeoAudioYmWriteLogCapacity ≤ state.ymWriteLogHead then false
  else true

/-- The YM2610 part of `ng_neogeo_audio_load_state`. -/
def loadYm (audio : NgNeoAudio χ) (data : List (BitVec 8)) (size : BitVec 32) :
    Bool × NgNeoAudio χ :=
  if size = 0 then (true, audio)
  else
    match audio.ym with
    | none => (false, audio)
    | some ym =>
      let loaded := ym.ngNeogeoYm2610LoadState chip data size
      (loaded.1, { audio with ym := some loaded.2 })

/-- `ng_neogeo_audio_load_state`: whether it returns 1, and the object after it.  `none` is a null
pointer. -/
def ngNeogeoAudioLoadState (audio : NgNeoAudio χ) (data : Option (List (BitVec 8)))
    (size : BitVec 32) : Bool × NgNeoAudio χ :=
  match data with
  | none => (false, audio)
  | some bytes =>
    if size < NgNeoAudioStatePrefix.sizeof then (false, audio)
    else
      let state := NgNeoAudioStatePrefix.layout.fetch bytes
      if acceptsPrefix state size then
        loadYm chip { audio with toAudioCore := state.toCore }
          (bytes.drop NgNeoAudioStatePrefix.layout.size) state.ymStateSize
      else (false, audio)

end NgNeoAudio
end NeoRecomp
