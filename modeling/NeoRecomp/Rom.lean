import Mathlib.Data.BitVec

/-!
# Program ROM image and address map

The recompiler reads the 68000 program through `NgProgramRom`: a byte image with an optional
address map made of a fixed region and a window onto one of up to 256 banks.
-/

namespace NeoRecomp

/-- `NG_PROGRAM_ROM_MAX_BANKS`. -/
def ngProgramRomMaxBanks : Nat := 256

/-- `NgProgramRom`.  `data` and `size` describe one buffer, so its length is carried as a field;
the per-bank arrays are only ever read below `ngProgramRomMaxBanks`. -/
structure NgProgramRom where
  data : Array (BitVec 8)
  size : BitVec 32
  size_eq : data.size = size.toNat
  fixedBase : BitVec 32 := 0
  fixedSize : BitVec 32 := 0
  bankWindowBase : BitVec 32 := 0
  bankWindowSize : BitVec 32 := 0
  activeBank : BitVec 32 := 0
  bankCount : BitVec 32 := 0
  bankOffsets : Nat → BitVec 32 := fun _ => 0
  bankSizes : Nat → BitVec 32 := fun _ => 0
  bankConfigured : Nat → Bool := fun _ => false
  addressMapEnabled : Bool := false

/-! ## Configuring the map -/

/-- A loaded image, before any map is set. -/
def ngProgramRomLoaded (data : Array (BitVec 8)) (size : BitVec 32)
    (size_eq : data.size = size.toNat) : NgProgramRom :=
  { data, size, size_eq }

/-- `ng_program_rom_derived_bank_count`; the sum is in 32 bits. -/
def ngProgramRomDerivedBankCount (rom : NgProgramRom) (fixedSize bankWindowSize : BitVec 32) :
    BitVec 32 :=
  if bankWindowSize = 0 ∨ rom.size.toNat ≤ fixedSize.toNat then 0
  else (rom.size - fixedSize + bankWindowSize - 1) / bankWindowSize

/-- `ng_program_rom_clear_banks`. -/
def ngProgramRomClearBanks (rom : NgProgramRom) : NgProgramRom :=
  { rom with
    bankCount := 0
    bankOffsets := fun _ => 0
    bankSizes := fun _ => 0
    bankConfigured := fun _ => false }

/-- One row of the bank arrays. -/
def NgProgramRom.setBank (rom : NgProgramRom) (i : Nat) (offset size : BitVec 32) : NgProgramRom :=
  { rom with
    bankOffsets := Function.update rom.bankOffsets i offset
    bankSizes := Function.update rom.bankSizes i size
    bankConfigured := Function.update rom.bankConfigured i true }

/-- The loop of `ng_program_rom_set_address_map` with the number of turns left and the bank index;
the offset is computed in 64 bits. -/
def deriveBanks (fixedSize bankWindowSize : BitVec 32) : Nat → Nat → NgProgramRom → NgProgramRom
  | 0, _, rom => rom
  | turns + 1, i, rom =>
      let offset64 := fixedSize.toNat + i * bankWindowSize.toNat
      if rom.size.toNat ≤ offset64 then rom
      else
        let offset := BitVec.ofNat 32 offset64
        let remaining := rom.size - offset
        deriveBanks fixedSize bankWindowSize turns (i + 1)
          (rom.setBank i offset
            (if bankWindowSize.toNat < remaining.toNat then bankWindowSize else remaining))

/-- `ng_program_rom_set_address_map`. -/
def ngProgramRomSetAddressMap (rom : NgProgramRom)
    (fixedBase fixedSize bankWindowBase bankWindowSize : BitVec 32) : NgProgramRom :=
  let rom := { rom with fixedBase, fixedSize, bankWindowBase, bankWindowSize, activeBank := 0 }
  let rom := ngProgramRomClearBanks rom
  let derived := ngProgramRomDerivedBankCount rom fixedSize bankWindowSize
  let derived :=
    if ngProgramRomMaxBanks < derived.toNat then BitVec.ofNat 32 ngProgramRomMaxBanks else derived
  let rom := { rom with bankCount := derived }
  let rom := deriveBanks fixedSize bankWindowSize derived.toNat 0 rom
  { rom with addressMapEnabled := fixedSize ≠ 0 || bankWindowSize ≠ 0 }

/-- `ng_program_rom_configure_bank`: the returned flag and the new record. -/
def ngProgramRomConfigureBank (rom : NgProgramRom) (bankId physicalOffset size : BitVec 32) :
    Bool × NgProgramRom :=
  if !rom.addressMapEnabled ∨ rom.bankWindowSize = 0 ∨ ngProgramRomMaxBanks ≤ bankId.toNat ∨
      size = 0 ∨ rom.bankWindowSize.toNat < size.toNat ∨ rom.size.toNat ≤ physicalOffset.toNat ∨
      rom.size.toNat < physicalOffset.toNat + size.toNat then (false, rom)
  else
    let rom := rom.setBank bankId.toNat physicalOffset size
    (true, { rom with
      bankCount := if rom.bankCount.toNat ≤ bankId.toNat then bankId + 1 else rom.bankCount })

/-- `ng_program_rom_select_bank`. -/
def ngProgramRomSelectBank (rom : NgProgramRom) (bankId : BitVec 32) : NgProgramRom :=
  { rom with activeBank := bankId }

/-! ## Reading through the map -/

/-- `ng_program_rom_bank_count`. -/
def ngProgramRomBankCount (rom : NgProgramRom) : BitVec 32 :=
  if !rom.addressMapEnabled || rom.bankWindowSize == 0 then 0 else rom.bankCount

/-- `ng_program_rom_bank_is_configured`. -/
def ngProgramRomBankIsConfigured (rom : NgProgramRom) (bankId : BitVec 32) : Bool :=
  rom.addressMapEnabled && rom.bankWindowSize != 0 &&
    bankId.toNat < rom.bankCount.toNat && bankId.toNat < ngProgramRomMaxBanks &&
    rom.bankConfigured bankId.toNat

/-- `ng_program_rom_addr_is_banked`. -/
def ngProgramRomAddrIsBanked (rom : NgProgramRom) (addr : BitVec 32) : Bool :=
  if !rom.addressMapEnabled || rom.bankWindowSize == 0 ||
      addr.toNat < rom.bankWindowBase.toNat then
    false
  else
    (addr - rom.bankWindowBase).toNat < rom.bankWindowSize.toNat

/-- The bank-window half of `ng_program_rom_translate_addr`. -/
def translateBankWindow (rom : NgProgramRom) (addr : BitVec 32) : Option Nat :=
  let rel := (addr - rom.bankWindowBase).toNat
  if rom.bankWindowSize ≠ 0 ∧ rom.bankWindowBase.toNat ≤ addr.toNat ∧
      rel < rom.bankWindowSize.toNat then
    if rom.bankCount.toNat ≤ rom.activeBank.toNat ∨
        ngProgramRomMaxBanks ≤ rom.activeBank.toNat ∨
        !rom.bankConfigured rom.activeBank.toNat ∨
        (rom.bankSizes rom.activeBank.toNat).toNat ≤ rel then
      none
    else
      -- The source adds in 64 bits, so the sum does not wrap before the comparison.
      let offset := (rom.bankOffsets rom.activeBank.toNat).toNat + rel
      if offset < rom.size.toNat then some offset else none
  else
    none

/-- `ng_program_rom_translate_addr`: the physical offset of a mapped address. -/
def ngProgramRomTranslateAddr (rom : NgProgramRom) (addr : BitVec 32) : Option Nat :=
  if !rom.addressMapEnabled then
    if rom.size.toNat ≤ addr.toNat then none else some addr.toNat
  else
    let rel := (addr - rom.fixedBase).toNat
    if rom.fixedSize ≠ 0 ∧ rom.fixedBase.toNat ≤ addr.toNat ∧
        rel < rom.fixedSize.toNat ∧ rel < rom.size.toNat then
      some rel
    else
      translateBankWindow rom addr

/-- `ng_program_rom_addr_is_mapped`. -/
def ngProgramRomAddrIsMapped (rom : NgProgramRom) (addr : BitVec 32) : Bool :=
  (ngProgramRomTranslateAddr rom addr).isSome

/-- `ng_program_rom_read8`: unmapped bytes read as `0xFF`. -/
def ngProgramRomRead8 (rom : NgProgramRom) (addr : BitVec 32) : BitVec 8 :=
  match ngProgramRomTranslateAddr rom addr with
  | some offset => rom.data.getD offset 0
  | none => 0xFF

/-- `ng_program_rom_read16`. -/
def ngProgramRomRead16 (rom : NgProgramRom) (addr : BitVec 32) : BitVec 16 :=
  ngProgramRomRead8 rom addr ++ ngProgramRomRead8 rom (addr + 1)

/-- `ng_program_rom_read32`. -/
def ngProgramRomRead32 (rom : NgProgramRom) (addr : BitVec 32) : BitVec 32 :=
  ngProgramRomRead16 rom addr ++ ngProgramRomRead16 rom (addr + 2)

end NeoRecomp
