import NeoRecomp.Rom
import NeoRecomp.Runtime.Bus

/-!
# The program ROM map

The invariant of the bank table under any configuration calls, and the agreement of the recompiler's
map for the Neo Geo layout with the windows that the runtime decodes.
-/

namespace NeoRecomp

variable {rom : NgProgramRom}

/-! ## Derived banks -/

/-- The loop of `ng_program_rom_set_address_map` only writes bank rows. -/
theorem deriveBanks_frame (fixedSize window : BitVec 32) (turns i : Nat) (rom : NgProgramRom) :
    ∃ offsets sizes configured, deriveBanks fixedSize window turns i rom =
      { rom with bankOffsets := offsets, bankSizes := sizes, bankConfigured := configured } := by
  induction turns generalizing i rom with
  | zero => exact ⟨_, _, _, rfl⟩
  | succ turns ih =>
    unfold deriveBanks
    dsimp only
    split_ifs
    · exact ⟨_, _, _, rfl⟩
    all_goals
      obtain ⟨o, s, c, h⟩ := ih (i + 1) (rom.setBank i _ _)
      exact ⟨o, s, c, h⟩

/-- Row `j` of the bank arrays. -/
def NgProgramRom.row (rom : NgProgramRom) (j : Nat) : Bool × BitVec 32 × BitVec 32 :=
  (rom.bankConfigured j, rom.bankOffsets j, rom.bankSizes j)

/-- The row that the map derives for bank `j`. -/
def derivedRow (rom : NgProgramRom) (fixedSize window : BitVec 32) (j : Nat) :
    Bool × BitVec 32 × BitVec 32 :=
  let offset := BitVec.ofNat 32 (fixedSize.toNat + j * window.toNat)
  (true, offset, if window.toNat < (rom.size - offset).toNat then window else rom.size - offset)

/-- A derived offset inside the image is exact. -/
theorem derivedRow_offset {fs ws : BitVec 32} {j : Nat}
    (h : fs.toNat + j * ws.toNat < rom.size.toNat) :
    (derivedRow rom fs ws j).2.1.toNat = fs.toNat + j * ws.toNat := by
  have := rom.size.isLt
  show (BitVec.ofNat 32 (fs.toNat + j * ws.toNat)).toNat = _
  rw [BitVec.toNat_ofNat, Nat.mod_eq_of_lt (by omega)]

theorem derivedRow_size {fs ws : BitVec 32} {j : Nat}
    (h : fs.toNat + j * ws.toNat < rom.size.toNat) :
    (derivedRow rom fs ws j).2.2.toNat =
      min ws.toNat (rom.size.toNat - (fs.toNat + j * ws.toNat)) := by
  have hoff := @derivedRow_offset rom fs ws j h
  have hrem : (rom.size - (derivedRow rom fs ws j).2.1).toNat =
      rom.size.toNat - (fs.toNat + j * ws.toNat) := by
    rw [BitVec.toNat_sub_of_le (by rw [BitVec.le_def, hoff]; omega), hoff]
  show (if ws.toNat < (rom.size - (derivedRow rom fs ws j).2.1).toNat then ws
    else rom.size - (derivedRow rom fs ws j).2.1).toNat = _
  split_ifs with hw
  · omega
  · rw [hrem] at hw ⊢
    omega

theorem setBank_row (rom : NgProgramRom) (i : Nat) (offset size : BitVec 32) (j : Nat) :
    (rom.setBank i offset size).row j = if j = i then (true, offset, size) else rom.row j := by
  unfold NgProgramRom.row NgProgramRom.setBank
  by_cases h : j = i
  · subst h; simp
  · simp [h]

/-- The loop derives the rows from its index on, as long as their offset lies in the image. -/
theorem deriveBanks_row (fixedSize window : BitVec 32) (turns i : Nat) (rom : NgProgramRom)
    (j : Nat) :
    (deriveBanks fixedSize window turns i rom).row j =
      if i ≤ j ∧ j < i + turns ∧ fixedSize.toNat + j * window.toNat < rom.size.toNat then
        derivedRow rom fixedSize window j
      else rom.row j := by
  induction turns generalizing i rom with
  | zero => rw [deriveBanks, if_neg (by omega)]
  | succ turns ih =>
    unfold deriveBanks
    dsimp only
    by_cases hstop : rom.size.toNat ≤ fixedSize.toNat + i * window.toNat
    · -- Offsets only grow, so no later row fits either.
      rw [if_pos hstop, if_neg]
      rintro ⟨hij, -, hlt⟩
      have := Nat.mul_le_mul_right window.toNat hij
      omega
    · rw [if_neg hstop, ih, setBank_row]
      by_cases hji : j = i
      · subst hji
        have hin : j ≤ j ∧ j < j + (turns + 1) ∧
            fixedSize.toNat + j * window.toNat < rom.size.toNat := ⟨le_refl _, by omega, by omega⟩
        rw [if_neg (by omega), if_pos rfl]
        symm
        rw [if_pos hin]
        rfl
      · rw [if_neg hji]
        have : (i + 1 ≤ j ∧ j < i + 1 + turns) ↔ (i ≤ j ∧ j < i + (turns + 1)) := by omega
        simp only [← and_assoc, this]
        rfl

/-- The number of banks a new map has. -/
def mappedBankCount (rom : NgProgramRom) (fixedSize window : BitVec 32) : BitVec 32 :=
  let derived := ngProgramRomDerivedBankCount rom fixedSize window
  if ngProgramRomMaxBanks < derived.toNat then BitVec.ofNat 32 ngProgramRomMaxBanks else derived

theorem mappedBankCount_le (rom : NgProgramRom) (fixedSize window : BitVec 32) :
    (mappedBankCount rom fixedSize window).toNat ≤ ngProgramRomMaxBanks := by
  unfold mappedBankCount
  dsimp only
  split_ifs with h
  · decide
  · omega

/-- What `ng_program_rom_set_address_map` leaves in the record. -/
theorem setAddressMap_eq (rom : NgProgramRom) (fb fs wb ws : BitVec 32) :
    ∃ offsets sizes configured, ngProgramRomSetAddressMap rom fb fs wb ws =
      { rom with
        fixedBase := fb, fixedSize := fs, bankWindowBase := wb, bankWindowSize := ws,
        activeBank := 0, bankCount := mappedBankCount rom fs ws, bankOffsets := offsets,
        bankSizes := sizes, bankConfigured := configured,
        addressMapEnabled := fs ≠ 0 || ws ≠ 0 } ∧
      ∀ j, (configured j, offsets j, sizes j) =
        if j < (mappedBankCount rom fs ws).toNat ∧ fs.toNat + j * ws.toNat < rom.size.toNat then
          derivedRow rom fs ws j
        else (false, 0, 0) := by
  let start : NgProgramRom :=
    { ngProgramRomClearBanks { rom with
        fixedBase := fb, fixedSize := fs, bankWindowBase := wb, bankWindowSize := ws,
        activeBank := 0 } with bankCount := mappedBankCount rom fs ws }
  obtain ⟨o, s, c, hframe⟩ := deriveBanks_frame fs ws (mappedBankCount rom fs ws).toNat 0 start
  refine ⟨o, s, c, ?_, ?_⟩
  · show ({ deriveBanks fs ws (mappedBankCount rom fs ws).toNat 0 start with
      addressMapEnabled := fs ≠ 0 || ws ≠ 0 } : NgProgramRom) = _
    rw [hframe]
    rfl
  · intro j
    have hrow := deriveBanks_row fs ws (mappedBankCount rom fs ws).toNat 0 start j
    rw [hframe] at hrow
    simp only [Nat.zero_le, true_and, Nat.zero_add] at hrow
    exact hrow

/-! ## The invariant -/

/-- What every sequence of map operations keeps. -/
structure MapInvariant (rom : NgProgramRom) : Prop where
  bankCount_le : rom.bankCount.toNat ≤ ngProgramRomMaxBanks
  size_le : ∀ j, rom.bankConfigured j = true →
    (rom.bankSizes j).toNat ≤ rom.bankWindowSize.toNat
  fits : ∀ j, rom.bankConfigured j = true →
    (rom.bankOffsets j).toNat + (rom.bankSizes j).toNat ≤ rom.size.toNat

theorem mapInvariant_loaded (data : Array (BitVec 8)) (size : BitVec 32)
    (h : data.size = size.toNat) : MapInvariant (ngProgramRomLoaded data size h) where
  bankCount_le := Nat.zero_le _
  size_le j hj := by cases hj
  fits j hj := by cases hj

theorem MapInvariant.setAddressMap (rom : NgProgramRom) (fb fs wb ws : BitVec 32) :
    MapInvariant (ngProgramRomSetAddressMap rom fb fs wb ws) := by
  obtain ⟨o, s, c, heq, hrow⟩ := setAddressMap_eq rom fb fs wb ws
  rw [heq]
  -- A configured row can only be a derived one.
  have hcfg : ∀ j, c j = true →
      fs.toNat + j * ws.toNat < rom.size.toNat ∧ (c j, o j, s j) = derivedRow rom fs ws j := by
    intro j hj
    have h := hrow j
    split_ifs at h with hin
    · exact ⟨hin.2, h⟩
    · have : c j = false := congrArg Prod.fst h
      rw [hj] at this
      cases this
  constructor
  · exact mappedBankCount_le rom fs ws
  · intro j hj
    obtain ⟨-, h⟩ := hcfg j hj
    have hs : s j = (derivedRow rom fs ws j).2.2 := congrArg (fun r => r.2.2) h
    show (s j).toNat ≤ ws.toNat
    rw [hs]
    dsimp only [derivedRow]
    split_ifs <;> omega
  · intro j hj
    obtain ⟨hlt, h⟩ := hcfg j hj
    have ho : o j = (derivedRow rom fs ws j).2.1 := congrArg (fun r => r.2.1) h
    have hs : s j = (derivedRow rom fs ws j).2.2 := congrArg (fun r => r.2.2) h
    show (o j).toNat + (s j).toNat ≤ rom.size.toNat
    rw [ho, hs, derivedRow_offset hlt, derivedRow_size hlt]
    omega

theorem MapInvariant.configureBank (h : MapInvariant rom) (id offset size : BitVec 32) :
    MapInvariant (ngProgramRomConfigureBank rom id offset size).2 := by
  unfold ngProgramRomConfigureBank
  split_ifs with hrej
  · exact h
  · simp only [not_or, not_lt, not_le] at hrej
    obtain ⟨-, -, hid, -, hsize, -, hfit⟩ := hrej
    have hcases : ∀ j, (rom.setBank id.toNat offset size).bankConfigured j = true →
        j = id.toNat ∨ rom.bankConfigured j = true := by
      intro j hj
      by_cases hji : j = id.toNat
      · exact .inl hji
      · right
        simpa [NgProgramRom.setBank, hji] using hj
    constructor
    · dsimp only
      split_ifs with hc
      · have : (id + 1).toNat = id.toNat + 1 := by
          unfold ngProgramRomMaxBanks at hid
          bv_omega
        rw [this]
        omega
      · exact h.bankCount_le
    · intro j hj
      rcases hcases j hj with rfl | hj'
      · simpa [NgProgramRom.setBank] using hsize
      · by_cases hji : j = id.toNat
        · subst hji; simpa [NgProgramRom.setBank] using hsize
        · simpa [NgProgramRom.setBank, hji] using h.size_le j hj'
    · intro j hj
      rcases hcases j hj with rfl | hj'
      · simpa [NgProgramRom.setBank] using hfit
      · by_cases hji : j = id.toNat
        · subst hji; simpa [NgProgramRom.setBank] using hfit
        · simpa [NgProgramRom.setBank, hji] using h.fits j hj'

/-! ## Any sequence of calls -/

/-- The calls that change the map. -/
inductive RomOp
  | setAddressMap (fixedBase fixedSize bankWindowBase bankWindowSize : BitVec 32)
  | configureBank (bankId physicalOffset size : BitVec 32)
  | selectBank (bankId : BitVec 32)

def RomOp.apply (rom : NgProgramRom) : RomOp → NgProgramRom
  | .setAddressMap fb fs wb ws => ngProgramRomSetAddressMap rom fb fs wb ws
  | .configureBank id offset size => (ngProgramRomConfigureBank rom id offset size).2
  | .selectBank id => ngProgramRomSelectBank rom id

theorem MapInvariant.apply (h : MapInvariant rom) (op : RomOp) : MapInvariant (op.apply rom) := by
  cases op with
  | setAddressMap fb fs wb ws => exact .setAddressMap rom fb fs wb ws
  | configureBank id offset size => exact h.configureBank id offset size
  | selectBank id => exact ⟨h.bankCount_le, h.size_le, h.fits⟩

theorem MapInvariant.run (h : MapInvariant rom) (ops : List RomOp) :
    MapInvariant (ops.foldl RomOp.apply rom) := by
  induction ops generalizing rom with
  | nil => exact h
  | cons op ops ih => exact ih (h.apply op)

/-- The fixed region has a byte of the image at this address. -/
def InFixedRegion (rom : NgProgramRom) (addr : BitVec 32) : Prop :=
  rom.fixedBase.toNat ≤ addr.toNat ∧ (addr - rom.fixedBase).toNat < rom.fixedSize.toNat ∧
    (addr - rom.fixedBase).toNat < rom.size.toNat

instance (rom : NgProgramRom) (addr : BitVec 32) : Decidable (InFixedRegion rom addr) :=
  inferInstanceAs (Decidable (_ ∧ _ ∧ _))

theorem translate_of_inFixedRegion {addr : BitVec 32} (he : rom.addressMapEnabled = true)
    (h : InFixedRegion rom addr) :
    ngProgramRomTranslateAddr rom addr = some (addr - rom.fixedBase).toNat := by
  obtain ⟨hbase, hfixed, hsize⟩ := h
  have hne : rom.fixedSize ≠ 0 := by
    rintro h0
    rw [h0] at hfixed
    exact Nat.not_lt_zero _ hfixed
  unfold ngProgramRomTranslateAddr
  simp only [he, Bool.not_true, Bool.false_eq_true, if_false]
  rw [if_pos ⟨hne, hbase, hfixed, hsize⟩]

/-- The window is only looked at where the fixed region has no byte. -/
theorem translate_of_not_inFixedRegion {addr : BitVec 32} (he : rom.addressMapEnabled = true)
    (h : ¬ InFixedRegion rom addr) :
    ngProgramRomTranslateAddr rom addr = translateBankWindow rom addr := by
  unfold ngProgramRomTranslateAddr
  simp only [he, Bool.not_true, Bool.false_eq_true, if_false]
  rw [if_neg fun hc => h hc.2]

theorem translate_lt_size {addr : BitVec 32} {offset : Nat}
    (h : ngProgramRomTranslateAddr rom addr = some offset) : offset < rom.size.toNat := by
  unfold ngProgramRomTranslateAddr translateBankWindow at h
  dsimp only at h
  split_ifs at h
  · cases h; omega
  · next hin => cases h; exact hin.2.2.2
  · next hlt => cases h; exact hlt

/-- An address that the active bank reaches. -/
theorem translateBankWindow_eq_some {a : BitVec 32} {b rel : Nat} (hb : rom.activeBank.toNat = b)
    (hrel : (a - rom.bankWindowBase).toNat = rel) (hbase : rom.bankWindowBase.toNat ≤ a.toNat)
    (hwin : rel < rom.bankWindowSize.toNat) (hcount : b < rom.bankCount.toNat)
    (hmax : b < ngProgramRomMaxBanks) (hconf : rom.bankConfigured b = true)
    (hsize : rel < (rom.bankSizes b).toNat)
    (himage : (rom.bankOffsets b).toNat + rel < rom.size.toNat) :
    translateBankWindow rom a = some ((rom.bankOffsets b).toNat + rel) := by
  subst hb hrel
  have hne : rom.bankWindowSize ≠ 0 := by
    intro h0
    rw [h0] at hwin
    exact Nat.not_lt_zero _ hwin
  unfold translateBankWindow
  dsimp only
  rw [if_pos ⟨hne, hbase, hwin⟩, if_neg, if_pos himage]
  rintro (h | h | h | h)
  · omega
  · omega
  · rw [hconf] at h; cases h
  · omega

/-- An address past the end of the active bank, or with no such bank. -/
theorem translateBankWindow_eq_none {a : BitVec 32} {b rel : Nat} (hb : rom.activeBank.toNat = b)
    (hrel : (a - rom.bankWindowBase).toNat = rel)
    (h : rom.bankConfigured b = false ∨ (rom.bankSizes b).toNat ≤ rel) :
    translateBankWindow rom a = none := by
  subst hb hrel
  unfold translateBankWindow
  dsimp only
  by_cases hin : rom.bankWindowSize ≠ 0 ∧ rom.bankWindowBase.toNat ≤ a.toNat ∧
      (a - rom.bankWindowBase).toNat < rom.bankWindowSize.toNat
  · rw [if_pos hin, if_pos]
    rcases h with h | h
    · exact .inr (.inr (.inl (by rw [h]; rfl)))
    · exact .inr (.inr (.inr h))
  · rw [if_neg hin]

/-- The map invariant after any calls on a loaded image: the bank count is bounded, configured banks
fit the window and the image, a rejected `ng_program_rom_configure_bank` changes nothing, and a
translated address is an offset of the image, with the fixed region first. -/
theorem romMap_invariant (data : Array (BitVec 8)) (size : BitVec 32)
    (hsize : data.size = size.toNat) (ops : List RomOp) :
    let rom := ops.foldl RomOp.apply (ngProgramRomLoaded data size hsize)
    rom.bankCount.toNat ≤ ngProgramRomMaxBanks ∧
      (∀ j, rom.bankConfigured j = true →
        (rom.bankSizes j).toNat ≤ rom.bankWindowSize.toNat ∧
          (rom.bankOffsets j).toNat + (rom.bankSizes j).toNat ≤ rom.size.toNat) ∧
      (∀ id offset size', (ngProgramRomConfigureBank rom id offset size').1 = false →
        (ngProgramRomConfigureBank rom id offset size').2 = rom) ∧
      ∀ addr, (∀ offset, ngProgramRomTranslateAddr rom addr = some offset →
          offset < rom.size.toNat) ∧
        (rom.addressMapEnabled = true → ngProgramRomTranslateAddr rom addr =
          if InFixedRegion rom addr then some (addr - rom.fixedBase).toNat
          else translateBankWindow rom addr) := by
  intro rom
  have hinv : MapInvariant rom := (mapInvariant_loaded data size hsize).run ops
  refine ⟨hinv.bankCount_le, fun j hj => ⟨hinv.size_le j hj, hinv.fits j hj⟩, ?_, ?_⟩
  · intro id offset size' h
    unfold ngProgramRomConfigureBank at h ⊢
    dsimp only at h ⊢
    split_ifs at h ⊢
    · rfl
  · intro addr
    refine ⟨fun offset h => translate_lt_size h, fun he => ?_⟩
    by_cases hin : InFixedRegion rom addr
    · rw [if_pos hin, translate_of_inFixedRegion he hin]
    · rw [if_neg hin, translate_of_not_inFixedRegion he hin]

/-- Eight bytes with two derived banks, a third one configured over them and an absent bank
selected. -/
theorem romMap_invariant_eightBytes :
    let rom := [RomOp.setAddressMap 0 4 0x10 2, .configureBank 5 1 2, .selectBank 9].foldl
      RomOp.apply (ngProgramRomLoaded #[0, 1, 2, 3, 4, 5, 6, 7] 8 rfl)
    rom.bankConfigured 5 = true ∧ rom.bankCount.toNat ≤ ngProgramRomMaxBanks := by
  exact ⟨by decide, (romMap_invariant #[0, 1, 2, 3, 4, 5, 6, 7] 8 rfl
    [.setAddressMap 0 4 0x10 2, .configureBank 5 1 2, .selectBank 9]).1⟩

/-! ## The Neo Geo layout -/

/-- The recompiler's view of a cartridge: 1 MiB fixed, a 1 MiB window, bank 0. -/
def neoGeoRom (data : Array (BitVec 8)) (size : BitVec 32) (h : data.size = size.toNat) :
    NgProgramRom :=
  ngProgramRomSelectBank
    (ngProgramRomSetAddressMap (ngProgramRomLoaded data size h) 0 0x100000 0x200000 0x100000) 0

/-- An access of `n` bytes wholly inside one of the two windows. -/
def InsideWindows (a : BitVec 32) (n : Nat) : Prop :=
  a.toNat + n ≤ 0x100000 ∨ 0x200000 ≤ a.toNat ∧ a.toNat + n ≤ 0x300000

section NeoGeo
variable {data : Array (BitVec 8)} {size : BitVec 32} (h : data.size = size.toNat)

theorem neoGeoRom_mappedBankCount (hlt : 0x100000 < size.toNat) :
    (mappedBankCount (ngProgramRomLoaded data size h) 0x100000 0x100000).toNat ≠ 0 := by
  have hderived : (ngProgramRomDerivedBankCount (ngProgramRomLoaded data size h) 0x100000
      0x100000).toNat = (size.toNat - 1) / 0x100000 := by
    unfold ngProgramRomDerivedBankCount
    rw [if_neg (by
      rintro (h0 | hle)
      · exact absurd h0 (by decide)
      · exact Nat.not_le.mpr hlt hle), BitVec.toNat_udiv]
    have hsum : (size - 0x100000 + 0x100000 - 1).toNat = size.toNat - 1 := by bv_omega
    show (size - 0x100000 + 0x100000 - 1).toNat / 0x100000 = _
    rw [hsum]
  unfold mappedBankCount
  dsimp only
  rw [hderived]
  split_ifs
  · decide
  · rw [hderived]
    have : 1 ≤ (size.toNat - 1) / 0x100000 := by
      rw [Nat.le_div_iff_mul_le (by omega)]
      omega
    omega

/-- The layout as numbers: the two windows, and bank 0 exactly when the image is longer than the
fixed region. -/
structure NeoGeoLayout (rom : NgProgramRom) : Prop where
  enabled : rom.addressMapEnabled = true
  fixedBase : rom.fixedBase = 0
  fixedSize : rom.fixedSize.toNat = 0x100000
  windowBase : rom.bankWindowBase.toNat = 0x200000
  windowSize : rom.bankWindowSize.toNat = 0x100000
  activeBank : rom.activeBank.toNat = 0
  long : 0x100000 < rom.size.toNat → 0 < rom.bankCount.toNat ∧ rom.bankConfigured 0 = true ∧
    (rom.bankOffsets 0).toNat = 0x100000 ∧
    (rom.bankSizes 0).toNat = min 0x100000 (rom.size.toNat - 0x100000)
  short : rom.size.toNat ≤ 0x100000 → rom.bankConfigured 0 = false

theorem neoGeoRom_layout : NeoGeoLayout (neoGeoRom data size h) := by
  obtain ⟨o, s, c, heq, hrow⟩ :=
    setAddressMap_eq (ngProgramRomLoaded data size h) 0 0x100000 0x200000 0x100000
  have hrow0 := hrow 0
  unfold neoGeoRom
  rw [heq]
  refine ⟨rfl, rfl, rfl, rfl, rfl, rfl, fun hlt => ?_, fun hle => ?_⟩
  · have hin : (0x100000 : BitVec 32).toNat + 0 * (0x100000 : BitVec 32).toNat <
        (ngProgramRomLoaded data size h).size.toNat := hlt
    have hcount := Nat.pos_of_ne_zero (neoGeoRom_mappedBankCount h hlt)
    rw [if_pos ⟨hcount, hin⟩] at hrow0
    exact ⟨hcount, congrArg Prod.fst hrow0,
      (congrArg (fun r => r.2.1.toNat) hrow0).trans (derivedRow_offset hin),
      (congrArg (fun r => r.2.2.toNat) hrow0).trans (derivedRow_size hin)⟩
  · rw [if_neg fun hx => Nat.not_lt.mpr hle hx.2] at hrow0
    exact congrArg Prod.fst hrow0

/-- Where the layout finds a byte: below the fixed size at the address itself, in the window one
mebibyte further into the image. -/
theorem NeoGeoLayout.translate (hl : NeoGeoLayout rom) {a : BitVec 32} (ha : InsideWindows a 1) :
    ngProgramRomTranslateAddr rom a =
      let offset := if a.toNat < 0x100000 then a.toNat else 0x100000 + (a.toNat - 0x200000)
      if offset < rom.size.toNat then some offset else none := by
  have hsub : (a - rom.fixedBase).toNat = a.toNat := by rw [hl.fixedBase]; simp
  have hfixed := hl.fixedSize
  have hwb := hl.windowBase
  rcases ha with hfix | ⟨hlo, hhi⟩
  · -- The fixed region; past the image the window does not start yet.
    rw [if_pos (show a.toNat < 0x100000 by omega)]
    dsimp only
    by_cases hin : a.toNat < rom.size.toNat
    · have hf : InFixedRegion rom a := ⟨by rw [hl.fixedBase]; exact Nat.zero_le _, by omega, by omega⟩
      rw [if_pos hin, translate_of_inFixedRegion hl.enabled hf, hsub]
    · rw [if_neg hin, translate_of_not_inFixedRegion hl.enabled (fun hf => hin (hsub ▸ hf.2.2))]
      unfold translateBankWindow
      dsimp only
      rw [if_neg]
      rintro ⟨-, hw, -⟩
      omega
  · rw [if_neg (show ¬ a.toNat < 0x100000 by omega),
      translate_of_not_inFixedRegion hl.enabled (fun hf => by have := hf.2.1; omega)]
    have hrel : (a - rom.bankWindowBase).toNat = a.toNat - 0x200000 := by
      rw [BitVec.toNat_sub_of_le (by rw [BitVec.le_def]; omega), hwb]
    have hwin : a.toNat - 0x200000 < 0x100000 := by omega
    have hbase : rom.bankWindowBase.toNat ≤ a.toNat := by omega
    generalize a.toNat - 0x200000 = rel at hrel hwin ⊢
    have hws := hl.windowSize
    have hlong := hl.long
    have hshort := hl.short
    dsimp only
    generalize hM : 0x100000 = M at hws hlong hshort hwin ⊢
    by_cases hlt : M < rom.size.toNat
    · -- Bank 0 is derived and ends with the window or with the image.
      obtain ⟨hcount, hc, ho, hs⟩ := hlong hlt
      by_cases hend : M + rel < rom.size.toNat
      · rw [if_pos hend, ← ho]
        exact translateBankWindow_eq_some hl.activeBank hrel hbase (by omega) hcount (by decide) hc
          (by omega) (by omega)
      · rw [if_neg hend]
        exact translateBankWindow_eq_none hl.activeBank hrel (.inr (by omega))
    · -- An image no longer than the fixed region has no bank.
      rw [if_neg (by omega)]
      exact translateBankWindow_eq_none hl.activeBank hrel (.inl (hshort (by omega)))

theorem neoGeoRom_image :
    (neoGeoRom data size h).data = data ∧ (neoGeoRom data size h).size = size := by
  obtain ⟨o, s, c, heq, -⟩ :=
    setAddressMap_eq (ngProgramRomLoaded data size h) 0 0x100000 0x200000 0x100000
  unfold neoGeoRom
  rw [heq]
  exact ⟨rfl, rfl⟩

/-- One byte: the two decoders agree, and the read leaves the runtime alone. -/
theorem neoGeoRom_read8 {a : BitVec 32} (ha : InsideWindows a 1) (rt : NgNeoRuntime)
    (hb : rt.biosVectorsEnabled = false) :
    ng68kRead8 (ngNeogeoSetProgramRom rt data size) a =
      (ngProgramRomRead8 (neoGeoRom data size h) a, ngNeogeoSetProgramRom rt data size) := by
  have hlt : a.toNat < 0x1000000 := by unfold InsideWindows at ha; omega
  have hmask : a &&& 0x00FFFFFF = a := by
    apply BitVec.eq_of_toNat_eq
    rw [BitVec.toNat_and]
    exact (Nat.and_two_pow_sub_one_eq_mod a.toNat 24).trans (Nat.mod_eq_of_lt hlt)
  have hrom : ngProgramRomRead8 (neoGeoRom data size h) a = romByte (some data) size
      (if a.toNat < 0x100000 then a.toNat else 0x100000 + (a.toNat - 0x200000)) := by
    unfold ngProgramRomRead8 romByte
    rw [(neoGeoRom_layout h).translate ha, (neoGeoRom_image h).1, (neoGeoRom_image h).2]
    dsimp only
    split_ifs <;> rfl
  rw [hrom]
  unfold ng68kRead8
  simp only [hmask, ngNeogeoSetProgramRom, hb, Bool.false_eq_true, false_and, if_false]
  rcases ha with hfix | ⟨hlo, hhi⟩
  · rw [if_pos (show a.toNat ≤ 0xFFFFF by omega), if_pos (show a.toNat < 0x100000 by omega)]
  · have hwork : inWindow 0x100000 0x10FFFF a = false := by
      simp only [inWindow, Bool.and_eq_false_iff, decide_eq_false_iff_not]
      omega
    have hwin : inWindow 0x200000 0x2FFFFF a = true := by
      simp only [inWindow, Bool.and_eq_true, decide_eq_true_eq]
      omega
    rw [if_neg (show ¬ a.toNat ≤ 0xFFFFF by omega), hwork, hwin,
      if_neg (show ¬ a.toNat < 0x100000 by omega)]
    rfl

theorem InsideWindows.byte {a : BitVec 32} {n k : Nat} (ha : InsideWindows a n) (hk : k < n) :
    InsideWindows (a + BitVec.ofNat 32 k) 1 := by
  have hsum : (a + BitVec.ofNat 32 k).toNat = a.toNat + k := by
    unfold InsideWindows at ha
    rw [BitVec.toNat_add, BitVec.toNat_ofNat, Nat.mod_eq_of_lt (show k < 2 ^ 32 by omega),
      Nat.mod_eq_of_lt (by omega)]
  unfold InsideWindows at ha ⊢
  rw [hsum]
  omega

theorem neoGeoRom_read16 {a : BitVec 32} (h0 : InsideWindows a 1) (h1 : InsideWindows (a + 1) 1)
    (rt : NgNeoRuntime) (hb : rt.biosVectorsEnabled = false) :
    ng68kRead16 (ngNeogeoSetProgramRom rt data size) a =
      (ngProgramRomRead16 (neoGeoRom data size h) a, ngNeogeoSetProgramRom rt data size) := by
  unfold ng68kRead16 ngProgramRomRead16
  dsimp only
  rw [neoGeoRom_read8 h h0 rt hb]
  dsimp only
  rw [neoGeoRom_read8 h h1 rt hb]

end NeoGeo

/-- The recompiler and the runtime read the same program: with the same image, the Neo Geo map and
bank 0 on one side and the BIOS vectors off on the other, every access wholly inside the fixed
megabyte or wholly inside the window gives the same value. -/
theorem program_rom_agrees (data : Array (BitVec 8)) (size : BitVec 32)
    (hsize : data.size = size.toNat) (rt : NgNeoRuntime) (hb : rt.biosVectorsEnabled = false)
    (a : BitVec 32) :
    (InsideWindows a 1 → ngProgramRomRead8 (neoGeoRom data size hsize) a =
      (ng68kRead8 (ngNeogeoSetProgramRom rt data size) a).1) ∧
    (InsideWindows a 2 → ngProgramRomRead16 (neoGeoRom data size hsize) a =
      (ng68kRead16 (ngNeogeoSetProgramRom rt data size) a).1) ∧
    (InsideWindows a 4 → ngProgramRomRead32 (neoGeoRom data size hsize) a =
      (ng68kRead32 (ngNeogeoSetProgramRom rt data size) a).1) := by
  refine ⟨fun ha => ?_, fun ha => ?_, fun ha => ?_⟩
  · rw [neoGeoRom_read8 hsize ha rt hb]
  · rw [neoGeoRom_read16 hsize (by simpa using ha.byte (show 0 < 2 by omega))
      (ha.byte (show 1 < 2 by omega)) rt hb]
  · have h0 : InsideWindows a 1 := by simpa using ha.byte (show 0 < 4 by omega)
    have h1 : InsideWindows (a + 1) 1 := ha.byte (show 1 < 4 by omega)
    have h2 : InsideWindows (a + 2) 1 := ha.byte (show 2 < 4 by omega)
    have h3 : InsideWindows (a + 2 + 1) 1 := by
      rw [BitVec.add_assoc]
      exact ha.byte (show 3 < 4 by omega)
    unfold ng68kRead32 ngProgramRomRead32
    dsimp only
    rw [neoGeoRom_read16 hsize h0 h1 rt hb]
    dsimp only
    rw [neoGeoRom_read16 hsize h2 h3 rt hb]

/-- A four-byte image read as a long at address 0. -/
theorem program_rom_agrees_fourBytes :
    ngProgramRomRead32 (neoGeoRom #[0x4E, 0x71, 0x4E, 0x75] 4 rfl) 0 =
      (ng68kRead32 (ngNeogeoSetProgramRom {} #[0x4E, 0x71, 0x4E, 0x75] 4) 0).1 :=
  (program_rom_agrees #[0x4E, 0x71, 0x4E, 0x75] 4 rfl {} rfl 0).2.2 (.inl (by decide))

end NeoRecomp
