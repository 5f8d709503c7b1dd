import NeoRecomp.Runtime.Devices

/-!
# What a bus write leaves alone

A write of any width changes the devices of its own bytes and nothing else; in work RAM and in
unlocked backup RAM it changes its own cells, from which a read of that width takes it back.
-/

namespace NeoRecomp
namespace NeogeoRuntime

/-! ## The bytes of an access -/

/-- Byte `k` of an access. -/
def busByte (addr : BitVec 32) (k : Nat) : BitVec 32 := addr + BitVec.ofNat 32 k

/-- One of the first `n` bytes of an access. -/
def SomeByte (n : Nat) (addr : BitVec 32) (p : BitVec 32 → Prop) : Prop :=
  ∃ k < n, p (busByte addr k)

section Bytes
variable {n m : Nat} {addr : BitVec 32} {p : BitVec 32 → Prop}

theorem busByte_zero : busByte addr 0 = addr := BitVec.add_zero addr

theorem busByte_add (addr : BitVec 32) (j k : Nat) :
    busByte (busByte addr j) k = busByte addr (j + k) := by
  unfold busByte
  rw [BitVec.add_assoc, BitVec.ofNat_add]

theorem SomeByte.single (h : p addr) : SomeByte 1 addr p :=
  ⟨0, Nat.zero_lt_one, by rwa [busByte_zero]⟩

theorem someByte_one_iff : SomeByte 1 addr p ↔ p addr := by
  constructor
  · rintro ⟨k, hk, h⟩
    rwa [Nat.lt_one_iff.mp hk, busByte_zero] at h
  · exact SomeByte.single

theorem SomeByte.left (h : SomeByte n addr p) : SomeByte (n + m) addr p := by
  obtain ⟨k, hk, h⟩ := h
  exact ⟨k, Nat.lt_add_right m hk, h⟩

theorem SomeByte.right (h : SomeByte m (busByte addr n) p) : SomeByte (n + m) addr p := by
  obtain ⟨k, hk, h⟩ := h
  rw [busByte_add] at h
  exact ⟨n + k, Nat.add_lt_add_left hk n, h⟩

end Bytes

/-- The device of a byte of the 24-bit bus. -/
def deviceAt (addr : BitVec 32) : BusDevice := busDevice (addr &&& 0x00FFFFFF)

/-- A device decodes one of the bytes. -/
def Reaches (n : Nat) (addr : BitVec 32) (device : BusDevice) : Prop :=
  SomeByte n addr (deviceAt · = device)

/-! ## The devices a write leaves alone -/

/-- Only the devices in `touched` may have changed.  The latches select the bank of the palette
and unlock backup RAM; the ROMs, the clock, the CPU and the inputs belong to no device that can be
written. -/
structure ChangesOnly (touched : BusDevice → Prop) (rt rt' : NeogeoRuntime) : Prop where
  rom : rt'.toRomState = rt.toRomState
  timing : rt'.toTimingState = rt.toTimingState
  cpu : rt'.m68k = rt.m68k
  inputs : rt'.toPortState = { rt.toPortState with
    portOutput := rt'.portOutput
    lastPortOutputPc := rt'.lastPortOutputPc
    lastPortOutputAddr := rt'.lastPortOutputAddr }
  workRam : ¬ touched .workRam → rt'.workRam = rt.workRam
  palette : ¬ touched .palette →
    rt'.toPaletteState = { rt.toPaletteState with paletteBank := rt'.paletteBank }
  paletteBank : ¬ touched .systemLatch → rt'.paletteBank = rt.paletteBank
  backup : ¬ touched .backupRam →
    rt'.toBackupState = { rt.toBackupState with backupRamUnlocked := rt'.backupRamUnlocked }
  backupLock : ¬ touched .systemLatch → rt'.backupRamUnlocked = rt.backupRamUnlocked
  latches : ¬ touched .systemLatch → rt'.toLatchState = rt.toLatchState
  ports : ¬ touched .portOutput → rt'.toPortState = rt.toPortState
  sound : ¬ touched .sound → rt'.toSoundState = rt.toSoundState
  watchdog : ¬ touched .watchdog → rt'.toWatchdogState = rt.toWatchdogState
  lspc : ¬ touched .lspc →
    rt'.toLspcState = rt.toLspcState ∧ rt'.toInterruptState = rt.toInterruptState

section Frame
variable {touched touched' : BusDevice → Prop} {rt rt' rt'' : NeogeoRuntime}

theorem ChangesOnly.refl (rt : NeogeoRuntime) : ChangesOnly touched rt rt := by
  constructor
  all_goals first | exact rfl | exact fun _ => rfl | exact fun _ => ⟨rfl, rfl⟩

theorem ChangesOnly.trans (h : ChangesOnly touched rt rt') (h' : ChangesOnly touched' rt' rt'') :
    ChangesOnly (fun device => touched device ∨ touched' device) rt rt'' where
  rom := h'.rom.trans h.rom
  timing := h'.timing.trans h.timing
  cpu := h'.cpu.trans h.cpu
  inputs := by
    rw [h'.inputs, h.inputs]
  workRam hn := (h'.workRam (not_or.mp hn).2).trans (h.workRam (not_or.mp hn).1)
  palette hn := by
    rw [h'.palette (not_or.mp hn).2, h.palette (not_or.mp hn).1]
  paletteBank hn := (h'.paletteBank (not_or.mp hn).2).trans (h.paletteBank (not_or.mp hn).1)
  backup hn := by
    rw [h'.backup (not_or.mp hn).2, h.backup (not_or.mp hn).1]
  backupLock hn := (h'.backupLock (not_or.mp hn).2).trans (h.backupLock (not_or.mp hn).1)
  latches hn := (h'.latches (not_or.mp hn).2).trans (h.latches (not_or.mp hn).1)
  ports hn := (h'.ports (not_or.mp hn).2).trans (h.ports (not_or.mp hn).1)
  sound hn := (h'.sound (not_or.mp hn).2).trans (h.sound (not_or.mp hn).1)
  watchdog hn := (h'.watchdog (not_or.mp hn).2).trans (h.watchdog (not_or.mp hn).1)
  lspc hn := by
    obtain ⟨hl, hi⟩ := h.lspc (not_or.mp hn).1
    obtain ⟨hl', hi'⟩ := h'.lspc (not_or.mp hn).2
    exact ⟨hl'.trans hl, hi'.trans hi⟩

theorem ChangesOnly.mono (h : ChangesOnly touched rt rt') (hle : ∀ d, touched d → touched' d) :
    ChangesOnly touched' rt rt' where
  rom := h.rom
  timing := h.timing
  cpu := h.cpu
  inputs := h.inputs
  workRam hn := h.workRam fun ht => hn (hle _ ht)
  palette hn := h.palette fun ht => hn (hle _ ht)
  paletteBank hn := h.paletteBank fun ht => hn (hle _ ht)
  backup hn := h.backup fun ht => hn (hle _ ht)
  backupLock hn := h.backupLock fun ht => hn (hle _ ht)
  latches hn := h.latches fun ht => hn (hle _ ht)
  ports hn := h.ports fun ht => hn (hle _ ht)
  sound hn := h.sound fun ht => hn (hle _ ht)
  watchdog hn := h.watchdog fun ht => hn (hle _ ht)
  lspc hn := h.lspc fun ht => hn (hle _ ht)

/-- A word for the graphics chip. -/
theorem writeLspcWord_changesOnly (addr : BitVec 32) (value : BitVec 16) :
    ChangesOnly (· = .lspc) rt (rt.ngNeogeoWriteLspcWord addr value) := by
  unfold ngNeogeoWriteLspcWord
  dsimp only
  split
  case h_6 =>
    split
    all_goals
      constructor
      all_goals first | exact rfl | exact fun _ => rfl | exact fun hn => absurd rfl hn
  all_goals
    constructor
    all_goals first | exact rfl | exact fun _ => rfl | exact fun hn => absurd rfl hn

theorem writeSystemLatch_changesOnly (addr : BitVec 32) (value : BitVec 8) :
    ChangesOnly (· = .systemLatch) rt (rt.writeSystemLatch addr value) := by
  unfold writeSystemLatch
  dsimp only
  split
  all_goals
    constructor
    all_goals first | exact rfl | exact fun _ => rfl | exact fun _ => ⟨rfl, rfl⟩ |
      exact fun hn => absurd rfl hn

theorem writePalette_changesOnly (addr : BitVec 32) (value : BitVec 16) :
    ChangesOnly (· = .palette) rt
      { rt with toPaletteState := writePalette rt.toPaletteState addr value } := by
  constructor
  case paletteBank => exact fun _ => writePalette_bank _ addr value
  all_goals first | exact rfl | exact fun _ => rfl | exact fun _ => ⟨rfl, rfl⟩ |
    exact fun hn => absurd rfl hn

theorem writeDevice_changesOnly (addr : BitVec 32) (device : BusDevice) (value : BitVec 8) :
    ChangesOnly (· = device) rt (rt.writeDevice addr device value) := by
  cases device with
  | none => exact .refl rt
  | lspc => exact writeLspcWord_changesOnly _ _
  | palette => exact writePalette_changesOnly _ _
  | systemLatch => exact writeSystemLatch_changesOnly _ _
  | backupRam =>
    show ChangesOnly _ rt (rt.writeBackupRam addr value)
    unfold writeBackupRam
    split
    · constructor
      all_goals first | exact rfl | exact fun _ => rfl | exact fun _ => ⟨rfl, rfl⟩ |
        exact fun hn => absurd rfl hn
    · exact .refl rt
  | _ =>
    constructor
    all_goals first | exact rfl | exact fun _ => rfl | exact fun _ => ⟨rfl, rfl⟩ |
      exact fun hn => absurd rfl hn

theorem write8_changesOnly (addr : BitVec 32) (value : BitVec 8) :
    ChangesOnly (Reaches 1 addr) rt (rt.ng68kWrite8 addr value) := by
  rw [ng68kWrite8_eq]
  apply (writeDevice_changesOnly _ _ value).mono
  rintro device rfl
  exact SomeByte.single rfl

theorem write16_changesOnly (addr : BitVec 32) (value : BitVec 16) :
    ChangesOnly (Reaches 2 addr) rt (rt.ng68kWrite16 addr value) := by
  have hbytes := (@write8_changesOnly rt addr ((value >>> 8).setWidth 8)).trans
    (write8_changesOnly (busByte addr 1) (value.setWidth 8))
  rw [ng68kWrite16_eq]
  cases hd : busDevice (addr &&& 0x00FFFFFF) with
  | palette =>
    apply (writePalette_changesOnly _ value).mono
    rintro device rfl
    exact SomeByte.left (m := 1) (SomeByte.single hd)
  | lspc =>
    apply (writeLspcWord_changesOnly _ value).mono
    rintro device rfl
    exact SomeByte.left (m := 1) (SomeByte.single hd)
  | _ =>
    apply hbytes.mono
    rintro device (h | h)
    · exact SomeByte.left (m := 1) h
    · exact SomeByte.right (n := 1) h

theorem write32_changesOnly (addr : BitVec 32) (value : BitVec 32) :
    ChangesOnly (Reaches 4 addr) rt (rt.ng68kWrite32 addr value) := by
  have hwords := (@write16_changesOnly rt addr ((value >>> 16).setWidth 16)).trans
    (write16_changesOnly (busByte addr 2) (value.setWidth 16))
  apply hwords.mono
  rintro device (h | h)
  · exact SomeByte.left (m := 2) h
  · exact SomeByte.right (n := 2) h

end Frame

/-! ## RAM cells -/

section Cells
variable {rt rt' rt'' : NeogeoRuntime} {addr : BitVec 32} {n m : Nat}

/-- The cell of a RAM that a byte of the bus falls into; both RAMs repeat every 64 KiB. -/
def cellOf (addr : BitVec 32) : BitVec 16 := addr.setWidth 16

theorem cellOf_mask24 (addr : BitVec 32) : cellOf (addr &&& 0x00FFFFFF) = cellOf addr := by
  apply BitVec.eq_of_toNat_eq
  unfold cellOf
  rw [BitVec.toNat_setWidth, BitVec.toNat_setWidth, toNat_and_mask24]
  omega

/-- Work RAM changes in the cells of its own bytes. -/
def WorkRamChange (n : Nat) (addr : BitVec 32) (rt rt' : NeogeoRuntime) : Prop :=
  ∀ i, rt'.workRam i ≠ rt.workRam i →
    SomeByte n addr fun a => deviceAt a = .workRam ∧ i = cellOf a

/-- Backup RAM changes in the cells of its own bytes, and only while it is unlocked. -/
def BackupRamChange (n : Nat) (addr : BitVec 32) (rt rt' : NeogeoRuntime) : Prop :=
  ∀ i, rt'.backupRam i ≠ rt.backupRam i →
    rt.backupRamUnlocked ≠ 0 ∧ SomeByte n addr fun a => deviceAt a = .backupRam ∧ i = cellOf a

theorem WorkRamChange.append (h : WorkRamChange n addr rt rt')
    (h' : WorkRamChange m (busByte addr n) rt' rt'') : WorkRamChange (n + m) addr rt rt'' := by
  intro i hi
  by_cases hmid : rt'.workRam i = rt.workRam i
  · rw [← hmid] at hi
    exact (h' i hi).right
  · exact (h i hmid).left

/-- No access reaches both the latches and backup RAM. -/
theorem backupRam_far_from_latch {a b : Nat} (ha : a < 4) (hb : b < 4)
    (hlatch : deviceAt (busByte addr a) = .systemLatch) :
    deviceAt (busByte addr b) ≠ .backupRam := by
  intro hbackup
  have hpage : (busByte addr a &&& 0x00FFFFFF).toNat / 0x20000 = 0x1D :=
    isRegister_page rfl (window_of_busDevice hlatch)
  have hwindow := busDevice_backupRam_iff.mp hbackup
  rw [ngNeogeoIsBackupRamAddr, inWindow_iff, toNat_and_mask24] at hwindow
  rw [toNat_and_mask24] at hpage
  unfold busByte at hpage hwindow
  rw [BitVec.toNat_add, BitVec.toNat_ofNat] at hpage hwindow
  omega

theorem BackupRamChange.append (hn : n + m ≤ 4) (h : BackupRamChange n addr rt rt')
    (hlock : ChangesOnly (Reaches n addr) rt rt')
    (h' : BackupRamChange m (busByte addr n) rt' rt'') :
    BackupRamChange (n + m) addr rt rt'' := by
  intro i hi
  by_cases hmid : rt'.backupRam i = rt.backupRam i
  · rw [← hmid] at hi
    obtain ⟨hunlocked, hbyte⟩ := h' i hi
    refine ⟨?_, hbyte.right⟩
    -- A latch among the first bytes would be too far away from backup RAM.
    have hlatch : ¬ Reaches n addr .systemLatch := by
      rintro ⟨a, ha, hlatch⟩
      obtain ⟨b, hb, hbackup, _⟩ := hbyte
      rw [busByte_add] at hbackup
      exact @backupRam_far_from_latch addr a (n + b) (by omega) (by omega) hlatch hbackup
    rwa [hlock.backupLock hlatch] at hunlocked
  · obtain ⟨hunlocked, hbyte⟩ := h i hmid
    exact ⟨hunlocked, hbyte.left⟩

theorem WorkRamChange.of_eq (h : rt'.workRam = rt.workRam) : WorkRamChange n addr rt rt' :=
  fun i hi => absurd (congrFun h i) hi

theorem BackupRamChange.of_eq (h : rt'.backupRam = rt.backupRam) :
    BackupRamChange n addr rt rt' :=
  fun i hi => absurd (congrFun h i) hi

theorem ChangesOnly.backupRam {touched : BusDevice → Prop} (h : ChangesOnly touched rt rt')
    (hn : ¬ touched .backupRam) : rt'.backupRam = rt.backupRam := by
  have heq := congrArg BackupState.backupRam (h.backup hn)
  exact heq

theorem write8_workRamChange (addr : BitVec 32) (value : BitVec 8) :
    WorkRamChange 1 addr rt (rt.ng68kWrite8 addr value) := by
  by_cases hd : deviceAt addr = .workRam
  · intro i hi
    apply SomeByte.single
    refine ⟨hd, ?_⟩
    by_contra hne
    apply hi
    rw [ng68kWrite8_eq, ← deviceAt, hd]
    rw [← cellOf_mask24] at hne
    exact Function.update_of_ne hne _ _
  · have hframe := @write8_changesOnly rt addr value
    exact .of_eq (hframe.workRam fun h => hd (someByte_one_iff.mp h))

theorem write8_backupRamChange (addr : BitVec 32) (value : BitVec 8) :
    BackupRamChange 1 addr rt (rt.ng68kWrite8 addr value) := by
  by_cases hd : deviceAt addr = .backupRam
  · intro i hi
    rw [ng68kWrite8_eq, ← deviceAt, hd] at hi
    by_cases hunlocked : rt.backupRamUnlocked = 0
    · exfalso
      apply hi
      show (rt.writeBackupRam _ value).backupRam i = _
      rw [writeBackupRam, if_neg (not_not.mpr hunlocked)]
    · refine ⟨hunlocked, SomeByte.single ⟨hd, ?_⟩⟩
      by_contra hne
      apply hi
      show (rt.writeBackupRam _ value).backupRam i = _
      rw [writeBackupRam, if_pos hunlocked]
      rw [← cellOf_mask24] at hne
      exact Function.update_of_ne hne _ _
  · have hframe := @write8_changesOnly rt addr value
    exact .of_eq (hframe.backupRam fun h => hd (someByte_one_iff.mp h))

/-- A word is two bytes but for the palette and the graphics chip, which leave RAM alone. -/
theorem write16_ramChange (addr : BitVec 32) (value : BitVec 16) :
    WorkRamChange 2 addr rt (rt.ng68kWrite16 addr value) ∧
      BackupRamChange 2 addr rt (rt.ng68kWrite16 addr value) := by
  have hwork := (@write8_workRamChange rt addr ((value >>> 8).setWidth 8)).append
    (write8_workRamChange (busByte addr 1) (value.setWidth 8))
  have hbackup := BackupRamChange.append (by decide)
    (@write8_backupRamChange rt addr ((value >>> 8).setWidth 8)) (write8_changesOnly addr _)
    (write8_backupRamChange (busByte addr 1) (value.setWidth 8))
  rw [ng68kWrite16_eq]
  cases hd : busDevice (addr &&& 0x00FFFFFF) with
  | palette => exact ⟨.of_eq rfl, .of_eq rfl⟩
  | lspc =>
    have hframe := @writeLspcWord_changesOnly rt (addr &&& 0x00FFFFFF &&& 0x00FFFFFE) value
    exact ⟨.of_eq (hframe.workRam (by decide)), .of_eq (hframe.backupRam (by decide))⟩
  | _ => exact ⟨hwork, hbackup⟩

theorem write32_ramChange (addr : BitVec 32) (value : BitVec 32) :
    WorkRamChange 4 addr rt (rt.ng68kWrite32 addr value) ∧
      BackupRamChange 4 addr rt (rt.ng68kWrite32 addr value) := by
  obtain ⟨hwork, hbackup⟩ := @write16_ramChange rt addr ((value >>> 16).setWidth 16)
  obtain ⟨hwork', hbackup'⟩ :=
    @write16_ramChange (rt.ng68kWrite16 addr ((value >>> 16).setWidth 16)) (busByte addr 2)
      (value.setWidth 16)
  exact ⟨hwork.append hwork', hbackup.append (by decide) (write16_changesOnly addr _) hbackup'⟩

end Cells

/-! ## VRAM -/

section Vram
variable {rt rt' : NeogeoRuntime} {addr : BitVec 32}

/-- A byte of the register VRAMRW. -/
def isVramrw (addr : BitVec 32) : Prop := addr &&& 0x00FFFFFE = 0x003C0002

/-- VRAM changes at the current address, if at all. -/
def VramChange (addr : BitVec 32) (rt rt' : NeogeoRuntime) : Prop :=
  ∀ i, rt'.vram i ≠ rt.vram i → isVramrw addr ∧ i = rt.vramAddr

theorem VramChange.of_eq (h : rt'.vram = rt.vram) : VramChange addr rt rt' :=
  fun i hi => absurd (congrFun h i) hi

theorem ChangesOnly.vram {touched : BusDevice → Prop} (h : ChangesOnly touched rt rt')
    (hn : ¬ touched .lspc) : rt'.vram = rt.vram := by
  have heq := congrArg LspcState.vram (h.lspc hn).1
  exact heq

theorem writeLspcWord_vram {a : BitVec 32} (h : a ≠ 0x003C0002) (value : BitVec 16) :
    (rt.ngNeogeoWriteLspcWord a value).vram = rt.vram := by
  unfold ngNeogeoWriteLspcWord
  dsimp only
  split
  case h_2 heq => exact absurd (BitVec.eq_of_toNat_eq heq) h
  case h_6 => split <;> rfl
  all_goals rfl

theorem writeLspcWord_vramChange (value : BitVec 16) :
    VramChange addr rt (rt.ngNeogeoWriteLspcWord (addr &&& 0x00FFFFFF &&& 0x00FFFFFE) value) := by
  have hmask : addr &&& 0x00FFFFFF &&& 0x00FFFFFE = addr &&& 0x00FFFFFE := by
    rw [BitVec.and_assoc]
    rfl
  rw [hmask]
  by_cases hreg : addr &&& 0x00FFFFFE = 0x003C0002
  · intro i hi
    refine ⟨hreg, ?_⟩
    by_contra hne
    apply hi
    rw [hreg]
    exact Function.update_of_ne hne _ _
  · exact .of_eq (writeLspcWord_vram hreg value)

theorem write8_vramChange (addr : BitVec 32) (value : BitVec 8) :
    VramChange addr rt (rt.ng68kWrite8 addr value) := by
  by_cases hd : deviceAt addr = .lspc
  · rw [ng68kWrite8_eq, ← deviceAt, hd]
    exact writeLspcWord_vramChange _
  · have hframe := @write8_changesOnly rt addr value
    exact .of_eq (hframe.vram fun h => hd (someByte_one_iff.mp h))

/-- Behind a byte that is not the graphics chip's lies no byte of VRAMRW. -/
theorem isVramrw_next (h : deviceAt addr ≠ .lspc) : ¬ isVramrw (busByte addr 1) := by
  intro hreg
  have hshift : (busByte addr 1 &&& 0x00FFFFFF) >>> 1 = 0x001E0001 := by
    unfold isVramrw at hreg
    have hhalf := congrArg (fun w : BitVec 32 => w >>> 1) hreg
    rw [BitVec.ushiftRight_and_distrib] at hhalf
    rw [BitVec.ushiftRight_and_distrib]
    exact hhalf
  have hpair := congrArg BitVec.toNat hshift
  rw [BitVec.toNat_ushiftRight, toNat_and_mask24, Nat.shiftRight_eq_div_pow] at hpair
  unfold busByte at hpair
  rw [BitVec.toNat_add, show (BitVec.ofNat 32 1).toNat = 1 from rfl,
    show (0x001E0001 : BitVec 32).toNat = 0x001E0001 from rfl] at hpair
  apply h
  apply busDevice_lspc_iff.mpr
  rw [ngNeogeoIsLspcAddr, inWindow_iff, toNat_and_mask24]
  omega

theorem write16_vramChange (addr : BitVec 32) (value : BitVec 16) :
    VramChange addr rt (rt.ng68kWrite16 addr value) := by
  have hbytes : deviceAt addr ≠ .lspc → VramChange addr rt
      ((rt.ng68kWrite8 addr ((value >>> 8).setWidth 8)).ng68kWrite8 (addr + 1)
        (value.setWidth 8)) := by
    intro hd
    have hfirst := @write8_changesOnly rt addr ((value >>> 8).setWidth 8)
    have hsecond := @write8_vramChange (rt.ng68kWrite8 addr ((value >>> 8).setWidth 8))
      (busByte addr 1) (value.setWidth 8)
    apply VramChange.of_eq
    funext i
    rw [← hfirst.vram fun h => hd (someByte_one_iff.mp h)]
    by_contra hi
    exact isVramrw_next hd (hsecond i hi).1
  rw [ng68kWrite16_eq]
  cases hd : busDevice (addr &&& 0x00FFFFFF) with
  | palette => exact .of_eq rfl
  | lspc => exact writeLspcWord_vramChange value
  | _ => exact hbytes (by rw [deviceAt, hd]; decide)

end Vram

/-! ## ROM -/

section Rom
variable {rt rt' : NeogeoRuntime} {addr : BitVec 32} {n m : Nat}

/-- The windows of the two ROMs. -/
def isRomAddr (addr : BitVec 32) : Bool :=
  inWindow 0 0x000FFFFF (addr &&& 0x00FFFFFF) || inWindow 0x00200000 0x002FFFFF (addr &&& 0x00FFFFFF) ||
    ngNeogeoIsSystemRomAddr (addr &&& 0x00FFFFFF)

/-- The vectors, which the BIOS can replace by its own. -/
def isVectorAddr (addr : BitVec 32) : Bool := inWindow 0 0x7F (addr &&& 0x00FFFFFF)

/-- One of the two latches that select the vectors. -/
def isVectorLatch (addr : BitVec 32) : Prop :=
  deviceAt addr = .systemLatch ∧ (addr &&& 0x1F = 0x03 ∨ addr &&& 0x1F = 0x13)

/-- A byte of the program ROM. -/
def programByte (rt : NeogeoRuntime) (offset : Nat) : BitVec 8 :=
  romByte rt.programRom rt.programRomSize offset

/-- A byte of the system ROM. -/
def systemByte (rt : NeogeoRuntime) (offset : Nat) : BitVec 8 :=
  romByte rt.systemRom rt.systemRomSize (offset % 0x20000)

/-- Above the registers the system ROM is found behind the memory card. -/
theorem readDevices_systemRom {view : NgNeoRuntime}
    (hpage : 0x60 ≤ (addr &&& 0x00FFFFFF).toNat / 0x20000 ∧
      (addr &&& 0x00FFFFFF).toNat / 0x20000 ≤ 0x67)
    (h : ngNeogeoIsSystemRomAddr (addr &&& 0x00FFFFFF) = true) :
    readDevices view (addr &&& 0x00FFFFFF) =
      (ngNeogeoReadSystemRom view ((addr &&& 0x00FFFFFF).toNat - 0x00C00000), view) := by
  have hregister : ∀ mask reg : BitVec 32, mask >>> 17 = 0x7F#32 → reg.toNat / 0x20000 ≤ 0x1F →
      isRegister mask reg (addr &&& 0x00FFFFFF) = false := by
    intro mask reg hm hreg
    exact isRegister_eq_false_of_page hm rfl (by omega)
  unfold readDevices
  rw [ngNeogeoIsPaletteAddr, inWindow_eq_false_of_page rfl (by omega), ngNeogeoIsBackupRamAddr,
    inWindow_eq_false_of_page rfl (by omega), ngNeogeoIsP1cntAddr, hregister _ _ rfl (by decide),
    ngNeogeoIsDipswitchAddr, hregister _ _ rfl (by decide), ngNeogeoIsP2cntAddr,
    hregister _ _ rfl (by decide), ngNeogeoIsSoundAddr, hregister _ _ rfl (by decide),
    ngNeogeoIsStatusAAddr, hregister _ _ rfl (by decide), ngNeogeoIsStatusBAddr,
    hregister _ _ rfl (by decide), ngNeogeoIsPortOutputAddr, hregister _ _ rfl (by decide),
    ngNeogeoIsLspcAddr, inWindow_eq_false_of_page rfl (by omega), ngNeogeoIsMemcardAddr,
    inWindow_eq_false_of_page rfl (by omega), h]
  rfl

/-- What is read in the windows of the ROMs. -/
theorem read8_rom (h : isRomAddr addr = true) :
    (ng68kRead8 rt.bus addr).1 =
      if rt.biosVectorsEnabled ≠ 0 ∧ isVectorAddr addr = true then
        rt.systemByte (addr &&& 0x00FFFFFF).toNat
      else if inWindow 0 0x000FFFFF (addr &&& 0x00FFFFFF) then
        rt.programByte (addr &&& 0x00FFFFFF).toNat
      else if inWindow 0x00200000 0x002FFFFF (addr &&& 0x00FFFFFF) then
        rt.programByte (0x00100000 + ((addr &&& 0x00FFFFFF).toNat - 0x00200000))
      else rt.systemByte ((addr &&& 0x00FFFFFF).toNat - 0x00C00000) := by
  have hvector : isVectorAddr addr = true ↔ (addr &&& 0x00FFFFFF).toNat ≤ 0x7F :=
    inWindow_iff.trans (and_iff_right (Nat.zero_le _))
  have hlatch : (rt.bus.biosVectorsEnabled = true ∧ (addr &&& 0x00FFFFFF).toNat ≤ 0x7F) ↔
      rt.biosVectorsEnabled ≠ 0 ∧ isVectorAddr addr = true := by
    rw [hvector]
    exact and_congr_left fun _ => bne_iff_ne
  unfold ng68kRead8
  dsimp only
  by_cases hvectors : rt.biosVectorsEnabled ≠ 0 ∧ isVectorAddr addr = true
  · rw [if_pos (hlatch.mpr hvectors), if_pos hvectors]
    rfl
  · rw [if_neg fun hv => hvectors (hlatch.mp hv), if_neg hvectors]
    by_cases hlow : (addr &&& 0x00FFFFFF).toNat ≤ 0x000FFFFF
    · rw [if_pos hlow, if_pos (inWindow_iff.mpr ⟨Nat.zero_le _, hlow⟩)]
      rfl
    · have hnot : ¬ inWindow 0 0x000FFFFF (addr &&& 0x00FFFFFF) = true :=
        fun hw => hlow (inWindow_iff.mp hw).2
      rw [if_neg hlow, if_neg hnot]
      by_cases hhigh : inWindow 0x00200000 0x002FFFFF (addr &&& 0x00FFFFFF) = true
      · have hram : ¬ inWindow 0x00100000 0x0010FFFF (addr &&& 0x00FFFFFF) = true := by
          rw [inWindow_iff] at hhigh ⊢
          omega
        rw [if_neg hram, if_pos hhigh, if_pos hhigh]
        rfl
      · have hsystem : ngNeogeoIsSystemRomAddr (addr &&& 0x00FFFFFF) = true := by
          rw [isRomAddr, Bool.or_eq_true, Bool.or_eq_true] at h
          exact (h.resolve_left fun hl => hl.elim hnot hhigh)
        have hpage : 0x60 ≤ (addr &&& 0x00FFFFFF).toNat / 0x20000 ∧
            (addr &&& 0x00FFFFFF).toNat / 0x20000 ≤ 0x67 := by
          rw [ngNeogeoIsSystemRomAddr, inWindow_iff] at hsystem
          omega
        rw [inWindow_eq_false_of_page rfl (by omega), if_neg hhigh, if_neg hhigh,
          if_neg Bool.false_ne_true, readDevices_systemRom hpage hsystem]
        rfl

/-- The byte of a ROM depends on the ROMs, and among the vectors on the latch. -/
theorem read8_rom_congr (hrom : rt'.toRomState = rt.toRomState) (h : isRomAddr addr = true)
    (hvectors : isVectorAddr addr = true → rt'.biosVectorsEnabled = rt.biosVectorsEnabled) :
    (ng68kRead8 rt'.bus addr).1 = (ng68kRead8 rt.bus addr).1 := by
  have hp : rt'.programRom = rt.programRom := congrArg RomState.programRom hrom
  have hps : rt'.programRomSize = rt.programRomSize := congrArg RomState.programRomSize hrom
  have hs : rt'.systemRom = rt.systemRom := congrArg RomState.systemRom hrom
  have hss : rt'.systemRomSize = rt.systemRomSize := congrArg RomState.systemRomSize hrom
  rw [read8_rom h, read8_rom h]
  unfold programByte systemByte
  rw [hp, hps, hs, hss]
  by_cases hv : isVectorAddr addr = true
  · rw [hvectors hv]
  · have hoff : ∀ enabled : Prop, ¬ (enabled ∧ isVectorAddr addr = true) := fun _ hboth => hv hboth.2
    rw [if_neg (hoff _), if_neg (hoff _)]

/-- The latch of the vectors stays as it is unless one of the bytes is one of its registers. -/
def VectorChange (n : Nat) (addr : BitVec 32) (rt rt' : NeogeoRuntime) : Prop :=
  rt'.biosVectorsEnabled ≠ rt.biosVectorsEnabled → SomeByte n addr isVectorLatch

theorem VectorChange.append {rt'' : NeogeoRuntime} (h : VectorChange n addr rt rt')
    (h' : VectorChange m (busByte addr n) rt' rt'') : VectorChange (n + m) addr rt rt'' := by
  intro hne
  by_cases hmid : rt'.biosVectorsEnabled = rt.biosVectorsEnabled
  · rw [← hmid] at hne
    exact (h' hne).right
  · exact (h hmid).left

theorem ChangesOnly.vectors {touched : BusDevice → Prop} (h : ChangesOnly touched rt rt')
    (hn : ¬ touched .systemLatch) : VectorChange n addr rt rt' := by
  have heq := congrArg LatchState.biosVectorsEnabled (h.latches hn)
  exact fun hne => absurd heq hne

theorem writeSystemLatch_vectors (value : BitVec 8)
    (h : ¬ (addr &&& 0x1F = 0x03 ∨ addr &&& 0x1F = 0x13)) :
    (rt.writeSystemLatch addr value).biosVectorsEnabled = rt.biosVectorsEnabled := by
  unfold writeSystemLatch
  dsimp only
  split
  case h_3 heq => exact absurd (.inl (BitVec.eq_of_toNat_eq heq)) h
  case h_4 heq => exact absurd (.inr (BitVec.eq_of_toNat_eq heq)) h
  all_goals rfl

theorem write8_vectorChange (addr : BitVec 32) (value : BitVec 8) :
    VectorChange 1 addr rt (rt.ng68kWrite8 addr value) := by
  by_cases hd : deviceAt addr = .systemLatch
  · rw [ng68kWrite8_eq, ← deviceAt, hd]
    intro hne
    apply SomeByte.single
    refine ⟨hd, ?_⟩
    by_contra hlatch
    have hmask : addr &&& 0x00FFFFFF &&& 0x1F = addr &&& 0x1F := by
      rw [BitVec.and_assoc]
      rfl
    rw [← hmask] at hlatch
    exact hne (writeSystemLatch_vectors value hlatch)
  · have hframe := @write8_changesOnly rt addr value
    exact hframe.vectors fun h => hd (someByte_one_iff.mp h)

theorem write16_vectorChange (addr : BitVec 32) (value : BitVec 16) :
    VectorChange 2 addr rt (rt.ng68kWrite16 addr value) := by
  have hbytes := (@write8_vectorChange rt addr ((value >>> 8).setWidth 8)).append
    (write8_vectorChange (busByte addr 1) (value.setWidth 8))
  rw [ng68kWrite16_eq]
  cases hd : busDevice (addr &&& 0x00FFFFFF) with
  | palette => exact (@writePalette_changesOnly rt _ value).vectors (by decide)
  | lspc => exact (@writeLspcWord_changesOnly rt _ value).vectors (by decide)
  | _ => exact hbytes

theorem write32_vectorChange (addr : BitVec 32) (value : BitVec 32) :
    VectorChange 4 addr rt (rt.ng68kWrite32 addr value) :=
  (write16_vectorChange addr _).append (write16_vectorChange (busByte addr 2) _)

end Rom

/-! ## Reading back -/

section ReadBack
variable {rt : NeogeoRuntime} {addr : BitVec 32} {device : BusDevice}

/-- A device that keeps the bytes it is given: work RAM, and backup RAM while it is unlocked. -/
def Writable (rt : NeogeoRuntime) (device : BusDevice) : Prop :=
  device = .workRam ∨ device = .backupRam ∧ rt.backupRamUnlocked ≠ 0

/-- The cells of one of the RAMs. -/
def cells (device : BusDevice) (rt : NeogeoRuntime) : BitVec 16 → BitVec 8 :=
  if device = .workRam then rt.workRam else rt.backupRam

theorem write8_cells (hd : deviceAt addr = device) (h : Writable rt device) (value : BitVec 8) :
    cells device (rt.ng68kWrite8 addr value) =
        Function.update (cells device rt) (cellOf addr) value ∧
      Writable (rt.ng68kWrite8 addr value) device := by
  have hwrite : rt.ng68kWrite8 addr value =
      rt.writeDevice (addr &&& 0x00FFFFFF) device value := by
    rw [ng68kWrite8_eq, ← deviceAt, hd]
  rw [hwrite, ← cellOf_mask24]
  obtain rfl | ⟨rfl, hunlocked⟩ := h
  · exact ⟨rfl, .inl rfl⟩
  · have hbackup : rt.writeDevice (addr &&& 0x00FFFFFF) .backupRam value =
        { rt with
          backupRam := Function.update rt.backupRam ((addr &&& 0x00FFFFFF).setWidth 16) value
          backupRamWriteCount := rt.backupRamWriteCount + 1
          backupRamLastAddr := addr &&& 0x00FFFFFF &&& 0x00FFFFFF
          backupRamLastValue := value } := if_pos hunlocked
    rw [hbackup]
    exact ⟨rfl, .inr ⟨rfl, hunlocked⟩⟩

/-- The view of a RAM is indexed by the low 16 bits of the address. -/
theorem ofNat_low16 (addr : BitVec 32) :
    BitVec.ofNat 16 (addr &&& 0x00FFFFFF &&& 0xFFFF).toNat = cellOf addr := by
  apply BitVec.eq_of_toNat_eq
  unfold cellOf
  rw [BitVec.toNat_ofNat, BitVec.toNat_setWidth, BitVec.toNat_and, toNat_and_mask24,
    show (0xFFFF : BitVec 32).toNat = 2 ^ 16 - 1 from rfl, Nat.and_two_pow_sub_one_eq_mod]
  omega

theorem read8_cells (hd : deviceAt addr = device) (h : Writable rt device) :
    ng68kRead8 rt.bus addr = (cells device rt (cellOf addr), rt.bus) := by
  have hvectors : ∀ on : Prop, 0x7F < (addr &&& 0x00FFFFFF).toNat →
      ¬ (on ∧ (addr &&& 0x00FFFFFF).toNat ≤ 0x7F) :=
    fun on hlow hboth => absurd hboth.2 (Nat.not_le.mpr hlow)
  unfold ng68kRead8
  dsimp only
  obtain rfl | ⟨rfl, -⟩ := h
  · have hwindow := busDevice_workRam_iff.mp hd
    have hrange := inWindow_iff.mp hwindow
    rw [if_neg (hvectors _ (by omega)), if_neg (by omega), if_pos hwindow, ← ofNat_low16]
    rfl
  · have hwindow := busDevice_backupRam_iff.mp hd
    have hrange := inWindow_iff.mp hwindow
    have hother : ∀ first last : Nat, last < 0x00D00000 →
        inWindow first last (addr &&& 0x00FFFFFF) = false := by
      intro first last hlast
      rw [← Bool.not_eq_true, inWindow_iff]
      omega
    rw [if_neg (hvectors _ (by omega)), if_neg (by omega), hother _ _ (by decide),
      hother _ _ (by decide), readDevices, ngNeogeoIsPaletteAddr, hother _ _ (by decide), hwindow,
      ← ofNat_low16]
    rfl

theorem cellOf_ne {j k : Nat} (hj : j < 4) (hk : k < 4) (hne : j ≠ k) :
    cellOf (busByte addr j) ≠ cellOf (busByte addr k) := by
  intro heq
  have hnat := congrArg BitVec.toNat heq
  unfold cellOf busByte at hnat
  rw [BitVec.toNat_setWidth, BitVec.toNat_setWidth, BitVec.toNat_add, BitVec.toNat_add,
    BitVec.toNat_ofNat, BitVec.toNat_ofNat] at hnat
  omega

/-- All bytes of an access lie in one device. -/
def Inside (n : Nat) (addr : BitVec 32) (device : BusDevice) : Prop :=
  ∀ k < n, deviceAt (busByte addr k) = device

theorem Inside.first {n : Nat} (h : Inside (n + 1) addr device) : deviceAt addr = device := by
  have hzero := h 0 (Nat.succ_pos n)
  rwa [busByte_zero] at hzero

/-- A word for a RAM is two bytes. -/
theorem write16_cells (hin : Inside 2 addr device) (h : Writable rt device) (value : BitVec 16) :
    cells device (rt.ng68kWrite16 addr value) =
        Function.update (Function.update (cells device rt) (cellOf addr)
          ((value >>> 8).setWidth 8)) (cellOf (busByte addr 1)) (value.setWidth 8) ∧
      Writable (rt.ng68kWrite16 addr value) device := by
  have hfirst := write8_cells hin.first h ((value >>> 8).setWidth 8)
  have hsecond := write8_cells (hin 1 (by decide)) hfirst.2 (value.setWidth 8)
  rw [hfirst.1] at hsecond
  have hbytes : rt.ng68kWrite16 addr value = (rt.ng68kWrite8 addr
      ((value >>> 8).setWidth 8)).ng68kWrite8 (busByte addr 1) (value.setWidth 8) := by
    rw [ng68kWrite16_eq, ← deviceAt, hin.first]
    obtain rfl | ⟨rfl, -⟩ := h <;> rfl
  rw [hbytes]
  exact hsecond

theorem read16_cells (hin : Inside 2 addr device) (h : Writable rt device) :
    ng68kRead16 rt.bus addr =
      (cells device rt (cellOf addr) ++ cells device rt (cellOf (busByte addr 1)), rt.bus) := by
  unfold ng68kRead16
  dsimp only
  rw [read8_cells hin.first h]
  have hsecond : ng68kRead8 rt.bus (addr + 1) =
      (cells device rt (cellOf (busByte addr 1)), rt.bus) := read8_cells (hin 1 (by decide)) h
  dsimp only
  rw [hsecond]

theorem Inside.left {n m : Nat} (h : Inside (n + m) addr device) : Inside n addr device :=
  fun k hk => h k (Nat.lt_add_right m hk)

theorem Inside.right {n m : Nat} (h : Inside (n + m) addr device) :
    Inside m (busByte addr n) device := by
  intro k hk
  rw [busByte_add]
  exact h (n + k) (Nat.add_lt_add_left hk n)

/-- A word is its two halves, one behind the other. -/
theorem append_halves {w : Nat} (v : BitVec (w + w)) :
    (v >>> w).setWidth w ++ v.setWidth w = v := by
  apply BitVec.eq_of_getLsbD_eq
  intro i hi
  rw [BitVec.getLsbD_append]
  by_cases hlow : i < w
  · rw [if_pos hlow, BitVec.getLsbD_setWidth, decide_eq_true hlow, Bool.true_and]
  · have hhigh : i - w < w := by omega
    rw [if_neg hlow, BitVec.getLsbD_setWidth, decide_eq_true hhigh, Bool.true_and,
      BitVec.getLsbD_ushiftRight, Nat.add_sub_cancel' (Nat.le_of_not_lt hlow)]

/-- The two bytes of a word in cells that differ. -/
theorem append_update_halves {c : BitVec 16 → BitVec 8} {i j : BitVec 16} (hne : i ≠ j)
    (value : BitVec 16) :
    let c' := Function.update (Function.update c i ((value >>> 8).setWidth 8)) j (value.setWidth 8)
    c' i ++ c' j = value := by
  intro c'
  have hi : c' i = (value >>> 8).setWidth 8 := by
    rw [show c' i = Function.update (Function.update c i _) j _ i from rfl,
      Function.update_of_ne hne, Function.update_self]
  have hj : c' j = value.setWidth 8 := Function.update_self j _ _
  rw [hi, hj]
  exact @append_halves 8 value

theorem read8_after_write8 (hin : Inside 1 addr device) (h : Writable rt device)
    (value : BitVec 8) : (ng68kRead8 (rt.ng68kWrite8 addr value).bus addr).1 = value := by
  obtain ⟨hcells, hwritable⟩ := write8_cells hin.first h value
  rw [read8_cells hin.first hwritable, hcells]
  exact Function.update_self _ _ _

theorem read16_after_write16 (hin : Inside 2 addr device) (h : Writable rt device)
    (value : BitVec 16) : (ng68kRead16 (rt.ng68kWrite16 addr value).bus addr).1 = value := by
  obtain ⟨hcells, hwritable⟩ := write16_cells hin h value
  rw [read16_cells hin hwritable, hcells]
  have hne := @cellOf_ne addr 0 1 (by decide) (by decide) (by decide)
  rw [busByte_zero] at hne
  exact append_update_halves hne value

/-- A word leaves the cells of other bytes alone. -/
theorem read16_beside_write16 {addr' : BitVec 32} (hin : Inside 2 addr device)
    (hin' : Inside 2 addr' device) (h : Writable rt device) (value : BitVec 16)
    (hne : ∀ j < 2, ∀ k < 2, cellOf (busByte addr' j) ≠ cellOf (busByte addr k)) :
    (ng68kRead16 (rt.ng68kWrite16 addr value).bus addr').1 = (ng68kRead16 rt.bus addr').1 := by
  obtain ⟨hcells, hwritable⟩ := write16_cells hin h value
  have hkeep : ∀ j < 2, cells device (rt.ng68kWrite16 addr value) (cellOf (busByte addr' j)) =
      cells device rt (cellOf (busByte addr' j)) := by
    intro j hj
    have hzero := hne j hj 0 (by decide)
    rw [busByte_zero] at hzero
    rw [hcells, Function.update_of_ne (hne j hj 1 (by decide)), Function.update_of_ne hzero]
  have hfirst := hkeep 0 (by decide)
  rw [busByte_zero] at hfirst
  rw [read16_cells hin' hwritable, read16_cells hin' h, hfirst, hkeep 1 (by decide)]

theorem read32_after_write32 (hin : Inside 4 addr device) (h : Writable rt device)
    (value : BitVec 32) : (ng68kRead32 (rt.ng68kWrite32 addr value).bus addr).1 = value := by
  have hwords : Inside (2 + 2) addr device := hin
  have hlow := hwords.left
  have hhigh := hwords.right
  have hfirst := write16_cells hlow h ((value >>> 16).setWidth 16)
  have hsecond := write16_cells hhigh hfirst.2 (value.setWidth 16)
  have hbeside := @read16_beside_write16 _ _ _ addr hhigh hlow hfirst.2 (value.setWidth 16) (by
    intro j hj k hk
    rw [busByte_add]
    exact cellOf_ne (by omega) (by omega) (by omega))
  have hhi : (ng68kRead16 (rt.ng68kWrite32 addr value).bus addr).1 = (value >>> 16).setWidth 16 :=
    hbeside.trans (read16_after_write16 hlow h _)
  have hlo : (ng68kRead16 (rt.ng68kWrite32 addr value).bus (addr + 2)).1 = value.setWidth 16 :=
    read16_after_write16 hhigh hfirst.2 _
  have hkeep : (ng68kRead16 (rt.ng68kWrite32 addr value).bus addr).2 =
      (rt.ng68kWrite32 addr value).bus :=
    congrArg Prod.snd (read16_cells hlow hsecond.2)
  unfold ng68kRead32
  dsimp only
  rw [hkeep, hhi, hlo]
  exact @append_halves 16 value

end ReadBack

/-! ## Accesses of any width -/

/-- A value for `ng68k_write8`, `ng68k_write16` or `ng68k_write32`. -/
inductive BusValue
  | byte (value : BitVec 8)
  | word (value : BitVec 16)
  | long (value : BitVec 32)
deriving DecidableEq

namespace BusValue

/-- Its width in bytes. -/
def bytes : BusValue → Nat
  | .byte _ => 1
  | .word _ => 2
  | .long _ => 4

def write (rt : NeogeoRuntime) (addr : BitVec 32) : BusValue → NeogeoRuntime
  | .byte value => rt.ng68kWrite8 addr value
  | .word value => rt.ng68kWrite16 addr value
  | .long value => rt.ng68kWrite32 addr value

/-- What a read of its width finds. -/
def readBack (rt : NeogeoRuntime) (addr : BitVec 32) : BusValue → BusValue
  | .byte _ => .byte (ng68kRead8 rt.bus addr).1
  | .word _ => .word (ng68kRead16 rt.bus addr).1
  | .long _ => .long (ng68kRead32 rt.bus addr).1

/-- The cells of VRAM that it may change: the one at the current address, once for each of its
words that is meant for VRAMRW. -/
def reachesVram (rt : NeogeoRuntime) (addr : BitVec 32) (i : BitVec 16) : BusValue → Prop
  | .byte _ | .word _ => isVramrw addr ∧ i = rt.vramAddr
  | .long value => isVramrw addr ∧ i = rt.vramAddr ∨
      isVramrw (busByte addr 2) ∧
        i = (rt.ng68kWrite16 addr ((value >>> 16).setWidth 16)).vramAddr

variable {rt : NeogeoRuntime} {addr : BitVec 32} (v : BusValue)

theorem write_changesOnly : ChangesOnly (Reaches v.bytes addr) rt (v.write rt addr) := by
  cases v with
  | byte value => exact write8_changesOnly addr value
  | word value => exact write16_changesOnly addr value
  | long value => exact write32_changesOnly addr value

theorem write_ramChange :
    WorkRamChange v.bytes addr rt (v.write rt addr) ∧
      BackupRamChange v.bytes addr rt (v.write rt addr) := by
  cases v with
  | byte value => exact ⟨write8_workRamChange addr value, write8_backupRamChange addr value⟩
  | word value => exact write16_ramChange addr value
  | long value => exact write32_ramChange addr value

theorem write_vram {i : BitVec 16} (h : (v.write rt addr).vram i ≠ rt.vram i) :
    v.reachesVram rt addr i := by
  cases v with
  | byte value => exact write8_vramChange addr value i h
  | word value => exact write16_vramChange addr value i h
  | long value =>
    have hfirst := @write16_vramChange rt addr ((value >>> 16).setWidth 16) i
    have hsecond := @write16_vramChange (rt.ng68kWrite16 addr ((value >>> 16).setWidth 16))
      (busByte addr 2) (value.setWidth 16) i
    by_cases hmid : (rt.ng68kWrite16 addr ((value >>> 16).setWidth 16)).vram i = rt.vram i
    · rw [← hmid] at h
      exact .inr (hsecond h)
    · exact .inl (hfirst hmid)

theorem write_vectorChange : VectorChange v.bytes addr rt (v.write rt addr) := by
  cases v with
  | byte value => exact write8_vectorChange addr value
  | word value => exact write16_vectorChange addr value
  | long value => exact write32_vectorChange addr value

theorem readBack_write {device : BusDevice} (hin : Inside v.bytes addr device)
    (h : Writable rt device) : v.readBack (v.write rt addr) addr = v := by
  cases v with
  | byte value => exact congrArg BusValue.byte (read8_after_write8 hin h value)
  | word value => exact congrArg BusValue.word (read16_after_write16 hin h value)
  | long value => exact congrArg BusValue.long (read32_after_write32 hin h value)

end BusValue

/-- A bus write of any width changes the devices of its bytes only; in the RAMs its own cells, in
VRAM the cell at the current address and in the ROMs nothing, so that their bytes read as before
but for the vectors that a write of their latches swaps.  In work RAM and in unlocked backup RAM
the value is read back. -/
theorem bus_write_frame (rt : NeogeoRuntime) (addr : BitVec 32) (v : BusValue) :
    let rt' := v.write rt addr
    ChangesOnly (Reaches v.bytes addr) rt rt' ∧
    WorkRamChange v.bytes addr rt rt' ∧
    BackupRamChange v.bytes addr rt rt' ∧
    (∀ i, rt'.vram i ≠ rt.vram i → v.reachesVram rt addr i) ∧
    (∀ a, isRomAddr a = true →
      ¬ (isVectorAddr a = true ∧ SomeByte v.bytes addr isVectorLatch) →
      (ng68kRead8 rt'.bus a).1 = (ng68kRead8 rt.bus a).1) ∧
    (∀ device, Writable rt device → Inside v.bytes addr device → v.readBack rt' addr = v) := by
  intro rt'
  refine ⟨v.write_changesOnly, v.write_ramChange.1, v.write_ramChange.2, fun i hi => v.write_vram hi,
    fun a ha hvector => ?_, fun device hdevice hin => v.readBack_write hin hdevice⟩
  apply read8_rom_congr v.write_changesOnly.rom ha
  intro hav
  by_contra hne
  exact hvector ⟨hav, v.write_vectorChange hne⟩

theorem bus_write_frame_workRam :
    (BusValue.word 0x1234).readBack ((BusValue.word 0x1234).write NeogeoRuntime.initial 0x00100011)
      0x00100011 = .word 0x1234 := by
  have hinside : Inside 2 0x00100011 .workRam := by
    unfold Inside
    decide
  exact (bus_write_frame NeogeoRuntime.initial 0x00100011 (.word 0x1234)).2.2.2.2.2 .workRam
    (.inl rfl) hinside

/-- A program ROM and a system ROM that differ in their first byte. -/
def twoRoms : NeogeoRuntime :=
  { NeogeoRuntime.initial with
    programRom := some #[0x10]
    programRomSize := 1
    systemRom := some #[0x20]
    systemRomSize := 1 }

theorem bus_write_changes_rom_byte :
    ¬ ∀ (rt : NeogeoRuntime) (addr : BitVec 32) (v : BusValue) (a : BitVec 32),
      isRomAddr a = true → (ng68kRead8 (v.write rt addr).bus a).1 = (ng68kRead8 rt.bus a).1 := by
  intro h
  exact absurd (h twoRoms 0x003A0003 (.byte 0) 0 (by decide)) (by decide)

end NeogeoRuntime
end NeoRecomp
