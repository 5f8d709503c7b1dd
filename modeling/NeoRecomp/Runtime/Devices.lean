import NeoRecomp.Runtime.Frame

/-!
# The devices on the bus

`ng68k_write8` tests its windows in a fixed order.  No address lies in two of them, so the order
does not matter and each device is known by its own window.
-/

namespace NeoRecomp

/-- The devices a byte can be written to; `none` stands for those that ignore it. -/
inductive BusDevice
  | workRam
  | palette
  | backupRam
  | watchdog
  | portOutput
  | sound
  | systemLatch
  | lspc
  | none
  deriving DecidableEq

/-- The device that `ng68k_write8` finds for a masked address. -/
def busDevice (addr : BitVec 32) : BusDevice :=
  if inWindow 0x00100000 0x0010FFFF addr then .workRam
  else if ngNeogeoIsPaletteAddr addr then .palette
  else if ngNeogeoIsBackupRamAddr addr then .backupRam
  else if ngNeogeoIsSystemRomAddr addr then .none
  else if ngNeogeoIsMemcardAddr addr then .none
  else if ngNeogeoIsDipswitchAddr addr then .watchdog
  else if ngNeogeoIsPortOutputAddr addr then .portOutput
  else if ngNeogeoIsSoundAddr addr then .sound
  else if NeogeoRuntime.ngNeogeoIsSystemLatchAddr addr then .systemLatch
  else if ngNeogeoIsLspcAddr addr then .lspc
  else .none

/-! ## Windows and pages -/

/-- The window in which `ng68k_write8` looks for a device. -/
def BusDevice.window : BusDevice → BitVec 32 → Bool
  | .workRam => inWindow 0x00100000 0x0010FFFF
  | .palette => ngNeogeoIsPaletteAddr
  | .backupRam => ngNeogeoIsBackupRamAddr
  | .watchdog => ngNeogeoIsDipswitchAddr
  | .portOutput => ngNeogeoIsPortOutputAddr
  | .sound => ngNeogeoIsSoundAddr
  | .systemLatch => NeogeoRuntime.ngNeogeoIsSystemLatchAddr
  | .lspc => ngNeogeoIsLspcAddr
  | .none => fun _ => true

/-- A device is found in its own window only. -/
theorem window_of_busDevice {addr : BitVec 32} {device : BusDevice}
    (h : busDevice addr = device) : device.window addr = true := by
  have htest {c : Prop} [Decidable c] {found other : BusDevice} (hfound : c → found.window addr = true)
      (hother : other.window addr = true) : (if c then found else other).window addr = true :=
    ite_cases (P := fun device : BusDevice => device.window addr = true) hfound hother
  rw [← h]
  unfold busDevice
  -- the tests in their order; two windows lead to no device
  exact htest id <| htest id <| htest id <| htest (fun _ => rfl) <| htest (fun _ => rfl) <|
    htest id <| htest id <| htest id <| htest id <| htest id rfl

theorem inWindow_iff {first last : Nat} {addr : BitVec 32} :
    inWindow first last addr = true ↔ first ≤ addr.toNat ∧ addr.toNat ≤ last := by
  rw [inWindow, Bool.and_eq_true, decide_eq_true_eq, decide_eq_true_eq]

theorem isRegister_eq_false_of_page {mask reg addr : BitVec 32} {page : Nat}
    (hm : mask >>> 17 = 0x7F#32) (hp : (addr &&& 0x00FFFFFF).toNat / 0x20000 = page)
    (h : page ≠ reg.toNat / 0x20000) : isRegister mask reg (addr &&& 0x00FFFFFF) = false := by
  by_contra ht
  have := isRegister_page hm (by simpa using ht)
  omega

section Windows
variable {addr : BitVec 32} {page : Nat}

/-- In the page of a register only the registers are tested. -/
theorem busDevice_of_page (hp : (addr &&& 0x00FFFFFF).toNat / 0x20000 = page)
    (h : 0x18 ≤ page ∧ page ≤ 0x1D) :
    busDevice (addr &&& 0x00FFFFFF) =
      if ngNeogeoIsDipswitchAddr (addr &&& 0x00FFFFFF) then .watchdog
      else if ngNeogeoIsPortOutputAddr (addr &&& 0x00FFFFFF) then .portOutput
      else if ngNeogeoIsSoundAddr (addr &&& 0x00FFFFFF) then .sound
      else if NeogeoRuntime.ngNeogeoIsSystemLatchAddr (addr &&& 0x00FFFFFF) then .systemLatch
      else .none := by
  unfold busDevice
  rw [inWindow_eq_false_of_page hp (by omega), ngNeogeoIsPaletteAddr,
    inWindow_eq_false_of_page hp (by omega), ngNeogeoIsBackupRamAddr,
    inWindow_eq_false_of_page hp (by omega), ngNeogeoIsSystemRomAddr,
    inWindow_eq_false_of_page hp (by omega), ngNeogeoIsMemcardAddr,
    inWindow_eq_false_of_page hp (by omega), ngNeogeoIsLspcAddr,
    inWindow_eq_false_of_page hp (by omega)]
  rfl

theorem busDevice_watchdog_iff :
    busDevice (addr &&& 0x00FFFFFF) = .watchdog ↔
      ngNeogeoIsDipswitchAddr (addr &&& 0x00FFFFFF) = true := by
  constructor
  · exact window_of_busDevice
  · intro h
    have hp : (addr &&& 0x00FFFFFF).toNat / 0x20000 = 0x18 := isRegister_page rfl h
    rw [busDevice_of_page hp (by decide), h]
    rfl

theorem busDevice_palette_iff :
    busDevice addr = .palette ↔ ngNeogeoIsPaletteAddr addr = true := by
  unfold busDevice
  by_cases h : ngNeogeoIsPaletteAddr addr = true
  · have hram : inWindow 0x00100000 0x0010FFFF addr = false := by
      rw [ngNeogeoIsPaletteAddr, inWindow_iff] at h
      rw [← Bool.not_eq_true, inWindow_iff]
      omega
    rw [hram, h]
    exact iff_of_true rfl rfl
  · exact iff_of_false (fun hdevice => h (window_of_busDevice hdevice)) h

theorem busDevice_workRam_iff :
    busDevice addr = .workRam ↔ inWindow 0x00100000 0x0010FFFF addr = true := by
  constructor
  · exact window_of_busDevice
  · intro h
    unfold busDevice
    rw [if_pos h]

theorem busDevice_backupRam_iff :
    busDevice addr = .backupRam ↔ ngNeogeoIsBackupRamAddr addr = true := by
  unfold busDevice
  by_cases h : ngNeogeoIsBackupRamAddr addr = true
  · have hother : inWindow 0x00100000 0x0010FFFF addr = false ∧
        ngNeogeoIsPaletteAddr addr = false := by
      rw [ngNeogeoIsBackupRamAddr, inWindow_iff] at h
      rw [ngNeogeoIsPaletteAddr, ← Bool.not_eq_true, inWindow_iff, ← Bool.not_eq_true, inWindow_iff]
      omega
    rw [hother.1, hother.2, h]
    exact iff_of_true rfl rfl
  · exact iff_of_false (fun hdevice => h (window_of_busDevice hdevice)) h

theorem busDevice_lspc_iff :
    busDevice (addr &&& 0x00FFFFFF) = .lspc ↔ ngNeogeoIsLspcAddr (addr &&& 0x00FFFFFF) = true := by
  constructor
  · exact window_of_busDevice
  · intro h
    have hp : (addr &&& 0x00FFFFFF).toNat / 0x20000 = 0x1E := by
      rw [ngNeogeoIsLspcAddr, inWindow_iff] at h
      omega
    unfold busDevice
    rw [inWindow_eq_false_of_page hp (by decide), ngNeogeoIsPaletteAddr,
      inWindow_eq_false_of_page hp (by decide), ngNeogeoIsBackupRamAddr,
      inWindow_eq_false_of_page hp (by decide), ngNeogeoIsSystemRomAddr,
      inWindow_eq_false_of_page hp (by decide), ngNeogeoIsMemcardAddr,
      inWindow_eq_false_of_page hp (by decide), ngNeogeoIsDipswitchAddr,
      isRegister_eq_false_of_page rfl hp (by decide), ngNeogeoIsPortOutputAddr,
      isRegister_eq_false_of_page rfl hp (by decide), ngNeogeoIsSoundAddr,
      isRegister_eq_false_of_page rfl hp (by decide), NeogeoRuntime.ngNeogeoIsSystemLatchAddr,
      isRegister_eq_false_of_page rfl hp (by decide), h]
    rfl

end Windows

/-! ## Writes by device -/

namespace NeogeoRuntime

variable (rt : NeogeoRuntime) (addr : BitVec 32)

/-- A byte for one of the devices. -/
def writeDevice (device : BusDevice) (value : BitVec 8) : NeogeoRuntime :=
  match device with
  | .workRam => { rt with workRam := Function.update rt.workRam (addr.setWidth 16) value }
  | .palette => { rt with toPaletteState := writePalette rt.toPaletteState addr (twice value) }
  | .backupRam => rt.writeBackupRam addr value
  | .watchdog => rt.kickWatchdog addr value
  | .portOutput => rt.writePortOutput addr value
  | .sound => rt.writeSound addr value
  | .systemLatch => rt.writeSystemLatch addr value
  | .lspc => rt.ngNeogeoWriteLspcWord (addr &&& 0x00FFFFFE) (twice value)
  | .none => rt

theorem ng68kWrite8_eq (value : BitVec 8) :
    rt.ng68kWrite8 addr value =
      rt.writeDevice (addr &&& 0x00FFFFFF) (busDevice (addr &&& 0x00FFFFFF)) value := by
  unfold ng68kWrite8 busDevice
  simp only [apply_ite (rt.writeDevice (addr &&& 0x00FFFFFF) · value)]
  rfl

/-! ## The bank of the palette -/

theorem updatePalettePeak_bank (p : PaletteState) :
    (ngNeogeoUpdatePalettePeak p).paletteBank = p.paletteBank := by
  unfold ngNeogeoUpdatePalettePeak
  split <;> rfl

theorem writePaletteByte_bank (p : PaletteState) (offset : BitVec 32) (value : BitVec 8) :
    (ngNeogeoWritePaletteByte p offset value).paletteBank = p.paletteBank := by
  unfold ngNeogeoWritePaletteByte
  dsimp only
  split
  · rfl
  · rw [updatePalettePeak_bank]

theorem writePalette_bank (p : PaletteState) (addr : BitVec 32) (value : BitVec 16) :
    (writePalette p addr value).paletteBank = p.paletteBank := by
  show (ngNeogeoWritePaletteByte (ngNeogeoWritePaletteByte p _ _) _ _).paletteBank = _
  rw [writePaletteByte_bank, writePaletteByte_bank]

/-! ## Words -/

variable {rt} in
/-- The bus sees 24 address bits. -/
theorem ng68kWrite8_congr {a b : BitVec 32} (h : a &&& 0x00FFFFFF = b &&& 0x00FFFFFF)
    (value : BitVec 8) : rt.ng68kWrite8 a value = rt.ng68kWrite8 b value := by
  unfold ng68kWrite8
  rw [h]

theorem mask24_add (n : BitVec 32) :
    ((addr &&& 0x00FFFFFF) + n) &&& 0x00FFFFFF = (addr + n) &&& 0x00FFFFFF := by
  apply BitVec.eq_of_toNat_eq
  have hn := n.isLt
  rw [toNat_and_mask24, toNat_and_mask24, BitVec.toNat_add, BitVec.toNat_add, toNat_and_mask24]
  omega

/-- A word goes to the palette or the graphics chip as a whole, and in two bytes elsewhere. -/
theorem ng68kWrite16_eq (value : BitVec 16) :
    rt.ng68kWrite16 addr value =
      match busDevice (addr &&& 0x00FFFFFF) with
      | .palette =>
        { rt with toPaletteState := writePalette rt.toPaletteState (addr &&& 0x00FFFFFF) value }
      | .lspc => rt.ngNeogeoWriteLspcWord (addr &&& 0x00FFFFFF &&& 0x00FFFFFE) value
      | _ => (rt.ng68kWrite8 addr ((value >>> 8).setWidth 8)).ng68kWrite8 (addr + 1)
          (value.setWidth 8) := by
  unfold ng68kWrite16
  dsimp only
  by_cases hp : ngNeogeoIsPaletteAddr (addr &&& 0x00FFFFFF) = true
  · rw [if_pos hp, busDevice_palette_iff.mpr hp]
  · rw [if_neg hp]
    by_cases hl : ngNeogeoIsLspcAddr (addr &&& 0x00FFFFFF) = true
    · rw [if_pos hl, busDevice_lspc_iff.mpr hl]
    · have hbytes : (rt.ng68kWrite8 (addr &&& 0x00FFFFFF) ((value >>> 8).setWidth 8)).ng68kWrite8
          ((addr &&& 0x00FFFFFF) + 1) (value.setWidth 8) =
          (rt.ng68kWrite8 addr ((value >>> 8).setWidth 8)).ng68kWrite8 (addr + 1)
            (value.setWidth 8) := by
        have hmask : (addr &&& 0x00FFFFFF) &&& 0x00FFFFFF = addr &&& 0x00FFFFFF := by
          rw [BitVec.and_assoc, BitVec.and_self]
        rw [ng68kWrite8_congr (mask24_add addr 1), ng68kWrite8_congr hmask]
      have hnp := fun h => hp (busDevice_palette_iff.mp h)
      have hnl := fun h => hl (busDevice_lspc_iff.mp h)
      rw [if_neg hl, hbytes]
      cases hd : busDevice (addr &&& 0x00FFFFFF)
      case palette => exact absurd hd hnp
      case lspc => exact absurd hd hnl
      all_goals rfl

end NeogeoRuntime
end NeoRecomp
