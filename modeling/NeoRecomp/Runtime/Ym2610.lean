import NeoRecomp.Lib.Layout

/-!
# The YM2610 wrapper

`neogeo_ym2610.cpp` keeps the timers, the busy flag, the interrupt line and the sample ROMs of the
vendored `ymfm::ym2610`, and saves its state.  The chip itself is a parameter.
-/

namespace NeoRecomp

/-! ## The chip -/

/-- `ymfm::access_class`. -/
inductive AccessClass
  | io
  | adpcmA
  | adpcmB
  | pcm

/-- A function of the chip, as the calls it makes on the wrapper's `ymfm_interface` up to its
return. -/
inductive YmRun (χ ρ : Type)
  | done (chip : χ) (result : ρ)
  | setTimer (timer duration : BitVec 32) (next : YmRun χ ρ)
  | setBusyEnd (clocks : BitVec 32) (next : YmRun χ ρ)
  | isBusy (next : Bool → YmRun χ ρ)
  | updateIrq (asserted : Bool) (next : YmRun χ ρ)
  | externalRead (type : AccessClass) (address : BitVec 32) (next : BitVec 8 → YmRun χ ρ)

/-- What the wrapper uses of `ymfm::ym2610`; the two directions of `save_restore` are apart. -/
structure Ym2610Chip (χ : Type) where
  read : χ → BitVec 8 → YmRun χ (BitVec 8)
  write : χ → BitVec 8 → BitVec 8 → YmRun χ Unit
  engineTimerExpired : χ → BitVec 32 → YmRun χ Unit
  reset : χ → YmRun χ Unit
  setFidelity : χ → χ
  sampleRate : χ → BitVec 32 → BitVec 32
  saveState : χ → List (BitVec 8)
  restoreState : χ → List (BitVec 8) → χ

/-! ## The wrapper -/

/-- The sample ROMs of the wrapper. -/
structure SampleRoms where
  v1Rom : Option (Array (BitVec 8)) := none
  v1RomSize : BitVec 32 := 0
  v2Rom : Option (Array (BitVec 8)) := none
  v2RomSize : BitVec 32 := 0

/-- `YmBackend`; the phase is the bit pattern of a `double`. -/
structure YmBackend (χ : Type) extends SampleRoms where
  chip : χ
  busyCycles : BitVec 32
  timerCycles : Fin 2 → BitVec 32
  irqPending : Bool
  nativeRate : BitVec 32
  nativePhase : BitVec 64
  lastOutput : Fin 3 → BitVec 32

-- `NG_NEO_YM2610_CLOCK_HZ`
def ngNeoYm2610ClockHz : BitVec 32 := 8000000

/-- `read_combined_v`; the sum of the sizes is in 32 bits. -/
def SampleRoms.readCombinedV (roms : SampleRoms) (address : BitVec 32) : BitVec 8 :=
  let total := roms.v1RomSize + roms.v2RomSize
  if total = 0 then 0
  else
    let address := address % total
    if roms.v1Rom.isSome ∧ address < roms.v1RomSize then
      (roms.v1Rom.getD #[]).getD address.toNat 0
    else if roms.v2Rom.isSome ∧ roms.v1RomSize ≤ address ∧
        address - roms.v1RomSize < roms.v2RomSize then
      (roms.v2Rom.getD #[]).getD (address - roms.v1RomSize).toNat 0
    else 0

namespace YmBackend

variable {χ ρ : Type} (chip : Ym2610Chip χ)

/-- `ymfm_external_read`. -/
def externalRead (b : YmBackend χ) (type : AccessClass) (address : BitVec 32) : BitVec 8 :=
  match type with
  | .adpcmA => b.readCombinedV address
  | .adpcmB => b.readCombinedV address
  | _ => 0

/-- `ymfm_set_timer`. -/
def setTimer (b : YmBackend χ) (timer duration : BitVec 32) : YmBackend χ :=
  if h : timer.toNat < 2 then
    { b with
      timerCycles :=
        Function.update b.timerCycles ⟨timer.toNat, h⟩ (if duration.slt 0 then 0 else duration) }
  else b

/-- A function of the chip on the wrapper. -/
def run : YmRun χ ρ → YmBackend χ → ρ × YmBackend χ
  | .done chip result, b => (result, { b with chip := chip })
  | .setTimer timer duration next, b => run next (b.setTimer timer duration)
  | .setBusyEnd clocks next, b => run next { b with busyCycles := clocks }
  | .isBusy next, b => run (next ((0 : BitVec 32).slt b.busyCycles)) b
  | .updateIrq asserted next, b => run next { b with irqPending := asserted }
  | .externalRead type address next, b => run (next (b.externalRead type address)) b

/-- `configure_fidelity`. -/
def configureFidelity (b : YmBackend χ) : YmBackend χ :=
  let c := chip.setFidelity b.chip
  { b with chip := c, nativeRate := chip.sampleRate c ngNeoYm2610ClockHz }

/-- `ng_neogeo_ym2610_reset`. -/
def ngNeogeoYm2610Reset (b : YmBackend χ) : YmBackend χ :=
  let b := { b with
    busyCycles := 0
    timerCycles := fun _ => 0
    irqPending := false
    nativePhase := 0
    lastOutput := fun _ => 0 }
  let b := b.configureFidelity chip
  let b := (run (chip.reset b.chip) b).2
  { b with nativeRate := chip.sampleRate b.chip ngNeoYm2610ClockHz }

/-- `ng_neogeo_ym2610_set_roms`. -/
def ngNeogeoYm2610SetRoms (b : YmBackend χ) (roms : SampleRoms) : YmBackend χ :=
  { b with toSampleRoms := roms }

/-- `ng_neogeo_ym2610_read`. -/
def ngNeogeoYm2610Read (b : YmBackend χ) (port : BitVec 8) : BitVec 8 × YmBackend χ :=
  run (chip.read b.chip (port &&& 3)) b

/-- `ng_neogeo_ym2610_write`. -/
def ngNeogeoYm2610Write (b : YmBackend χ) (port data : BitVec 8) : YmBackend χ :=
  (run (chip.write b.chip (port &&& 3) data) b).2

/-- The busy counter of `advance_clocks`. -/
def advanceBusy (b : YmBackend χ) (clocks : BitVec 32) : YmBackend χ :=
  if (0 : BitVec 32).slt b.busyCycles then
    let busy := b.busyCycles - clocks
    { b with busyCycles := if busy.slt 0 then 0 else busy }
  else b

/-- One timer of `advance_clocks`, with the chip told when it expires. -/
def advanceTimerClocks (b : YmBackend χ) (i : Fin 2) (clocks : BitVec 32) : YmBackend χ :=
  if (b.timerCycles i).sle 0 then b
  else
    let left := b.timerCycles i - clocks
    if left.sle 0 then
      let b := { b with timerCycles := Function.update b.timerCycles i 0 }
      (run (chip.engineTimerExpired b.chip (BitVec.ofNat 32 i)) b).2
    else { b with timerCycles := Function.update b.timerCycles i left }

/-- `ng_neogeo_ym2610_advance_clocks`. -/
def ngNeogeoYm2610AdvanceClocks (b : YmBackend χ) (clocks : BitVec 32) : YmBackend χ :=
  if clocks = 0 then b
  else
    let b := b.advanceBusy clocks
    let b := b.advanceTimerClocks chip 0 clocks
    b.advanceTimerClocks chip 1 clocks

/-- The state in which `advance_clocks` looks at a timer. -/
def beforeTimer (i : Fin 2) (b : YmBackend χ) (clocks : BitVec 32) : YmBackend χ :=
  if i = 0 then b.advanceBusy clocks else (b.advanceBusy clocks).advanceTimerClocks chip 0 clocks

end YmBackend

/-! ## Its state in bytes -/

def kYm2610StateMagic : BitVec 32 := 0x4E475953

def kYm2610StateVersion : BitVec 32 := 1

structure Ym2610StatePrefix where
  magic : BitVec 32
  version : BitVec 32
  size : BitVec 32
  busyCycles : BitVec 32
  timerCycles : Fin 2 → BitVec 32
  irqPending : BitVec 8
  reserved : Fin 7 → BitVec 8
  nativeRate : BitVec 32
  nativePhaseBits : BitVec 64
  lastOutputData : Fin 3 → BitVec 32
  ymfmSize : BitVec 32

namespace Ym2610StatePrefix

def members : Members Ym2610StatePrefix Ym2610StatePrefix :=
  Members.start Ym2610StatePrefix.mk
    |>.next .u32 (·.magic)
    |>.next .u32 (·.version)
    |>.next .u32 (·.size)
    |>.next .u32 (·.busyCycles)
    |>.next (.array 2 .u32) (·.timerCycles)
    |>.next .u8 (·.irqPending)
    |>.next (.array 7 .u8) (·.reserved)
    |>.next .u32 (·.nativeRate)
    |>.next .u64 (·.nativePhaseBits)
    |>.next (.array 3 .u32) (·.lastOutputData)
    |>.next .u32 (·.ymfmSize)

theorem members_value (state : Ym2610StatePrefix) : members.value state = state := rfl

def layout : Layout Ym2610StatePrefix := .struct members members_value

end Ym2610StatePrefix

namespace YmBackend

variable {χ : Type} (chip : Ym2610Chip χ)

/-- The prefix that `save_ym2610_state_vector` fills in. -/
def statePrefix (b : YmBackend χ) : Ym2610StatePrefix :=
  let ymfmData := chip.saveState b.chip
  { magic := kYm2610StateMagic
    version := kYm2610StateVersion
    size := BitVec.ofNat 32 (Ym2610StatePrefix.layout.size + ymfmData.length)
    busyCycles := b.busyCycles
    timerCycles := b.timerCycles
    irqPending := if b.irqPending then 1 else 0
    reserved := fun _ => 0
    nativeRate := b.nativeRate
    nativePhaseBits := b.nativePhase
    lastOutputData := b.lastOutput
    ymfmSize := BitVec.ofNat 32 ymfmData.length }

/-- `save_ym2610_state_vector`. -/
def saveYm2610StateVector (b : YmBackend χ) : List (BitVec 8) :=
  Ym2610StatePrefix.layout.store (b.statePrefix chip) ++ chip.saveState b.chip

/-- `ng_neogeo_ym2610_save_state` into `outSize` bytes. -/
def ngNeogeoYm2610SaveState (b : YmBackend χ) (outSize : BitVec 32) : Option (List (BitVec 8)) :=
  let state := b.saveYm2610StateVector chip
  if state = [] ∨ outSize.toNat < state.length then none else some state

/-- The tests of `ng_neogeo_ym2610_load_state`. -/
def accepts (data : List (BitVec 8)) (size : BitVec 32) : Bool :=
  let state := Ym2610StatePrefix.layout.fetch data
  Ym2610StatePrefix.layout.size ≤ size.toNat && state.magic = kYm2610StateMagic &&
    state.version = kYm2610StateVersion && state.size = size &&
      state.ymfmSize.toNat = size.toNat - Ym2610StatePrefix.layout.size

/-- What `ng_neogeo_ym2610_load_state` assigns. -/
def restore (b : YmBackend χ) (data : List (BitVec 8)) : YmBackend χ :=
  let state := Ym2610StatePrefix.layout.fetch data
  let ymfmData := (data.drop Ym2610StatePrefix.layout.size).take state.ymfmSize.toNat
  { b with
    busyCycles := state.busyCycles
    timerCycles := state.timerCycles
    irqPending := state.irqPending ≠ 0
    nativeRate := state.nativeRate
    nativePhase := state.nativePhaseBits
    lastOutput := state.lastOutputData
    chip := chip.restoreState b.chip ymfmData }

/-- `ng_neogeo_ym2610_load_state`. -/
def ngNeogeoYm2610LoadState (b : YmBackend χ) (data : List (BitVec 8)) (size : BitVec 32) :
    Bool × YmBackend χ :=
  if accepts data size then (true, b.restore chip data) else (false, b)

end YmBackend
end NeoRecomp
