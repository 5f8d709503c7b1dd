import NeoRecomp.Machine

/-!
# Bus reads of the runtime

`ng68k_read8` and the two wider reads, which decode the 24-bit bus in hard-coded windows.  Reading
the coin status register and reading an address nobody decodes change counters, so a read returns
the new state too.
-/

namespace NeoRecomp

/-- The variables of `neogeo_runtime.c` that a bus read uses.  A ROM that has not been set is
`none`. -/
structure NgNeoRuntime where
  programRom : Option (Array (BitVec 8)) := none
  programRomSize : BitVec 32 := 0
  systemRom : Option (Array (BitVec 8)) := none
  systemRomSize : BitVec 32 := 0
  workRam : Nat → BitVec 8 := fun _ => 0
  paletteRam : Nat → BitVec 8 := fun _ => 0
  paletteBank : BitVec 8 := 0
  backupRam : Nat → BitVec 8 := fun _ => 0
  vram : Nat → BitVec 16 := fun _ => 0
  vramAddr : BitVec 16 := 0
  vramMod : BitVec 16 := 0
  biosVectorsEnabled : Bool := false
  p1cnt : BitVec 8 := 0xFF
  p2cnt : BitVec 8 := 0xFF
  statusA : BitVec 8 := 0xBF
  statusB : BitVec 8 := 0xFF
  systemInputLow : BitVec 8 := 0xFF
  statusAReads : BitVec 32 := 0
  soundReply : BitVec 8 := 0xFF
  dipswitch : BitVec 8 := 0xFF
  lspcMode : BitVec 16 := 0
  timerStop : BitVec 16 := 0
  timerReloadValue : BitVec 32 := 0
  readMissLogCount : BitVec 32 := 0

/-- `ng_neogeo_set_program_rom`. -/
def ngNeogeoSetProgramRom (rt : NgNeoRuntime) (data : Array (BitVec 8)) (size : BitVec 32) :
    NgNeoRuntime :=
  { rt with programRom := some data, programRomSize := size }

/-! ## Address decoding -/

/-- `addr >= first && addr <= last`. -/
def inWindow (first last : Nat) (addr : BitVec 32) : Bool :=
  first ≤ addr.toNat && addr.toNat ≤ last

def ngNeogeoIsPaletteAddr := inWindow 0x00400000 0x007FFFFF
def ngNeogeoIsBackupRamAddr := inWindow 0x00D00000 0x00DFFFFF
def ngNeogeoIsLspcAddr := inWindow 0x003C0000 0x003C000F
def ngNeogeoIsMemcardAddr := inWindow 0x00800000 0x00BFFFFF
def ngNeogeoIsSystemRomAddr := inWindow 0x00C00000 0x00CFFFFF
def ngNeogeoIsHighUnmappedAddr (addr : BitVec 32) : Bool := 0x00E00000 ≤ addr.toNat

/-- The register predicates `(addr & mask) == reg`. -/
def isRegister (mask reg addr : BitVec 32) : Bool := addr &&& mask == reg

def ngNeogeoIsDipswitchAddr := isRegister 0x00FE0081 0x00300001
def ngNeogeoIsP1cntAddr := isRegister 0x00FE0001 0x00300000
def ngNeogeoIsP2cntAddr := isRegister 0x00FE0001 0x00340000
def ngNeogeoIsSoundAddr := isRegister 0x00FE0001 0x00320000
def ngNeogeoIsStatusAAddr := isRegister 0x00FE0001 0x00320001
def ngNeogeoIsStatusBAddr := isRegister 0x00FE0001 0x00380000
def ngNeogeoIsPortOutputAddr := isRegister 0x00FE0001 0x00380001

/-- `ng_neogeo_palette_offset`. -/
def ngNeogeoPaletteOffset (rt : NgNeoRuntime) (addr : BitVec 32) : Nat :=
  (rt.paletteBank.setWidth 32 * 0x2000 ||| (addr &&& 0x1FFF)).toNat

/-! ## Reads -/

/-- A byte of a ROM, `0xFF` past its end or when it is not set. -/
def romByte (rom : Option (Array (BitVec 8))) (size : BitVec 32) (offset : Nat) : BitVec 8 :=
  match rom with
  | some data => if offset < size.toNat then data.getD offset 0 else 0xFF
  | none => 0xFF

/-- `ng_neogeo_read_system_rom`. -/
def ngNeogeoReadSystemRom (rt : NgNeoRuntime) (offset : Nat) : BitVec 8 :=
  romByte rt.systemRom rt.systemRomSize (offset % 0x20000)

/-- `ng_neogeo_hi_or_lo`. -/
def ngNeogeoHiOrLo (value : BitVec 16) (addr : BitVec 32) : BitVec 8 :=
  if addr &&& 1 ≠ 0 then value.setWidth 8 else (value >>> 8).setWidth 8

/-- `ng_neogeo_vram_data`. -/
def ngNeogeoVramData (rt : NgNeoRuntime) : BitVec 16 := rt.vram rt.vramAddr.toNat

/-- The register `switch` of the LSPC window. -/
def readLspc (rt : NgNeoRuntime) (addr : BitVec 32) : BitVec 8 :=
  match (addr &&& 0x00FFFFFE).toNat with
  | 0x003C0000 | 0x003C0002 => ngNeogeoHiOrLo (ngNeogeoVramData rt) addr
  | 0x003C0004 => ngNeogeoHiOrLo rt.vramMod addr
  | 0x003C0006 => ngNeogeoHiOrLo rt.lspcMode addr
  | 0x003C0008 => ngNeogeoHiOrLo ((rt.timerReloadValue >>> 16).setWidth 16) addr
  | 0x003C000A => ngNeogeoHiOrLo (rt.timerReloadValue.setWidth 16) addr
  | 0x003C000E => ngNeogeoHiOrLo rt.timerStop addr
  | _ => 0xFF

/-- `ng68k_read8` above the program ROM windows, on a masked address. -/
def readDevices (rt : NgNeoRuntime) (addr : BitVec 32) : BitVec 8 × NgNeoRuntime :=
  if ngNeogeoIsPaletteAddr addr then (rt.paletteRam (ngNeogeoPaletteOffset rt addr), rt)
  else if ngNeogeoIsBackupRamAddr addr then (rt.backupRam (addr &&& 0xFFFF).toNat, rt)
  else if ngNeogeoIsP1cntAddr addr then (rt.p1cnt, rt)
  else if ngNeogeoIsDipswitchAddr addr then (rt.dipswitch, rt)
  else if ngNeogeoIsP2cntAddr addr then (rt.p2cnt, rt)
  else if ngNeogeoIsSoundAddr addr then (rt.soundReply, rt)
  else if ngNeogeoIsStatusAAddr addr then
    -- Bit 6 is the coin clock, which toggles on every read.
    let rt := { rt with statusAReads := rt.statusAReads + 1 }
    ((rt.statusA &&& 0xBF) ||| (if rt.statusAReads &&& 1 ≠ 0 then 0x40 else 0x00), rt)
  else if ngNeogeoIsStatusBAddr addr then (rt.statusB, rt)
  else if ngNeogeoIsPortOutputAddr addr then (rt.systemInputLow, rt)
  else if ngNeogeoIsLspcAddr addr then (readLspc rt addr, rt)
  else if ngNeogeoIsMemcardAddr addr then (0xFF, rt)
  else if ngNeogeoIsSystemRomAddr addr then
    (ngNeogeoReadSystemRom rt (addr.toNat - 0x00C00000), rt)
  else if ngNeogeoIsHighUnmappedAddr addr then (0xFF, rt)
  else (0xFF, { rt with readMissLogCount := rt.readMissLogCount + 1 })

/-- `ng68k_read8`. -/
def ng68kRead8 (rt : NgNeoRuntime) (addr : BitVec 32) : BitVec 8 × NgNeoRuntime :=
  let addr := addr &&& 0x00FFFFFF
  if rt.biosVectorsEnabled ∧ addr.toNat ≤ 0x7F then (ngNeogeoReadSystemRom rt addr.toNat, rt)
  else if addr.toNat ≤ 0x000FFFFF then (romByte rt.programRom rt.programRomSize addr.toNat, rt)
  else if inWindow 0x00100000 0x0010FFFF addr then (rt.workRam (addr &&& 0xFFFF).toNat, rt)
  else if inWindow 0x00200000 0x002FFFFF addr then
    (romByte rt.programRom rt.programRomSize (0x00100000 + (addr.toNat - 0x00200000)), rt)
  else readDevices rt addr

/-- `ng68k_read16`. -/
def ng68kRead16 (rt : NgNeoRuntime) (addr : BitVec 32) : BitVec 16 × NgNeoRuntime :=
  let hi := ng68kRead8 rt addr
  let lo := ng68kRead8 hi.2 (addr + 1)
  (hi.1 ++ lo.1, lo.2)

/-- `ng68k_read32`. -/
def ng68kRead32 (rt : NgNeoRuntime) (addr : BitVec 32) : BitVec 32 × NgNeoRuntime :=
  let hi := ng68kRead16 rt addr
  let lo := ng68kRead16 hi.2 (addr + 2)
  (hi.1 ++ lo.1, lo.2)

end NeoRecomp
