import NeoRecomp.Correct.RomMap

/-!
# Derived banks

The banks of a new address map cut the image behind the fixed region into windows.  The rounded-up
division that counts them is in 32 bits.
-/

namespace NeoRecomp

variable (rom : NgProgramRom) (fixedBase fixedSize bankWindowBase bankWindowSize : BitVec 32)

/-! ## Offsets through a bank -/

/-- The physical offset of offset `rel` inside the window, with bank `bank` selected. -/
def bankOffset (bank rel : Nat) : Option Nat :=
  if rom.bankWindowSize.toNat ≤ rel ∨ rom.bankCount.toNat ≤ bank ∨ ngProgramRomMaxBanks ≤ bank ∨
      rom.bankConfigured bank = false ∨ (rom.bankSizes bank).toNat ≤ rel then none
  else if (rom.bankOffsets bank).toNat + rel < rom.size.toNat then
    some ((rom.bankOffsets bank).toNat + rel)
  else none

/-- An address at or behind the window's base is translated through the selected bank. -/
theorem translateBankWindow_selectBank (bank addr : BitVec 32)
    (hbase : rom.bankWindowBase.toNat ≤ addr.toNat) :
    translateBankWindow (ngProgramRomSelectBank rom bank) addr =
      bankOffset rom bank.toNat (addr - rom.bankWindowBase).toNat := by
  unfold translateBankWindow bankOffset ngProgramRomSelectBank
  dsimp only
  by_cases hrel : rom.bankWindowSize.toNat ≤ (addr - rom.bankWindowBase).toNat
  · rw [if_neg (by omega), if_pos (.inl hrel)]
  · have hne : rom.bankWindowSize ≠ 0 := by
      intro h
      rw [h] at hrel
      exact hrel (Nat.zero_le _)
    rw [if_pos ⟨hne, hbase, by omega⟩]
    simp only [hrel, false_or, Bool.not_eq_true']

variable {rom fixedBase fixedSize bankWindowBase bankWindowSize}

theorem setAddressMap_size :
    (ngProgramRomSetAddressMap rom fixedBase fixedSize bankWindowBase bankWindowSize).size =
      rom.size := by
  obtain ⟨o, s, c, heq, -⟩ :=
    setAddressMap_eq rom fixedBase fixedSize bankWindowBase bankWindowSize
  rw [heq]

/-- Through the banks of a new map. -/
theorem bankOffset_setAddressMap {bank rel offset : Nat} :
    bankOffset (ngProgramRomSetAddressMap rom fixedBase fixedSize bankWindowBase bankWindowSize)
        bank rel = some offset ↔
      bank < (mappedBankCount rom fixedSize bankWindowSize).toNat ∧ rel < bankWindowSize.toNat ∧
        offset = fixedSize.toNat + bank * bankWindowSize.toNat + rel ∧
        offset < rom.size.toNat := by
  obtain ⟨o, s, c, heq, hrow⟩ :=
    setAddressMap_eq rom fixedBase fixedSize bankWindowBase bankWindowSize
  have hmax := mappedBankCount_le rom fixedSize bankWindowSize
  have hbank := hrow bank
  rw [heq]
  unfold bankOffset
  dsimp only
  by_cases hin : bank < (mappedBankCount rom fixedSize bankWindowSize).toNat ∧
      fixedSize.toNat + bank * bankWindowSize.toNat < rom.size.toNat
  · rw [if_pos hin] at hbank
    have hc : c bank = true := congrArg Prod.fst hbank
    have ho : (o bank).toNat = fixedSize.toNat + bank * bankWindowSize.toNat := by
      rw [← derivedRow_offset hin.2]
      exact congrArg (fun row => row.2.1.toNat) hbank
    have hs : (s bank).toNat = min bankWindowSize.toNat
        (rom.size.toNat - (fixedSize.toNat + bank * bankWindowSize.toNat)) := by
      rw [← derivedRow_size hin.2]
      exact congrArg (fun row => row.2.2.toNat) hbank
    simp only [ho, hs, hc, Bool.true_eq_false, false_or]
    split_ifs with hout himage
    · simp only [false_iff]
      omega
    · rw [Option.some_inj]
      omega
    · simp only [false_iff]
      omega
  · rw [if_neg hin] at hbank
    have hc : c bank = false := congrArg Prod.fst hbank
    rw [if_pos (.inr (.inr (.inr (.inl hc))))]
    simp only [reduceCtorEq, false_iff]
    omega

/-! ## How many banks -/

theorem derivedBankCount_toNat (hne : bankWindowSize ≠ 0)
    (hlt : fixedSize.toNat < rom.size.toNat) :
    (ngProgramRomDerivedBankCount rom fixedSize bankWindowSize).toNat =
      (rom.size.toNat - fixedSize.toNat + (bankWindowSize.toNat - 1)) % 2 ^ 32 /
        bankWindowSize.toNat := by
  have hpos : 0 < bankWindowSize.toNat := Nat.pos_of_ne_zero fun h => hne (BitVec.eq_of_toNat_eq h)
  have hsum : rom.size - fixedSize + bankWindowSize - 1 =
      rom.size - fixedSize + (bankWindowSize - 1) := by bv_omega
  have hone : (bankWindowSize - 1).toNat = bankWindowSize.toNat - 1 :=
    BitVec.toNat_sub_of_le (BitVec.le_def.mpr hpos)
  have hrest : (rom.size - fixedSize).toNat = rom.size.toNat - fixedSize.toNat :=
    BitVec.toNat_sub_of_le (BitVec.le_def.mpr (Nat.le_of_lt hlt))
  unfold ngProgramRomDerivedBankCount
  rw [if_neg (by rw [not_or]; exact ⟨hne, by omega⟩), BitVec.toNat_udiv, hsum, BitVec.toNat_add,
    hone, hrest]

theorem mappedBankCount_toNat :
    (mappedBankCount rom fixedSize bankWindowSize).toNat =
      min ngProgramRomMaxBanks (ngProgramRomDerivedBankCount rom fixedSize bankWindowSize).toNat := by
  unfold mappedBankCount
  dsimp only
  split_ifs with h
  · rw [Nat.min_eq_left (Nat.le_of_lt h)]
    rfl
  · rw [Nat.min_eq_right (Nat.not_lt.mp h)]

/-- The sum of the rounded-up division does not leave 32 bits. -/
theorem mappedBankCount_of_fits (hne : bankWindowSize ≠ 0)
    (hlt : fixedSize.toNat < rom.size.toNat)
    (hfits : rom.size.toNat - fixedSize.toNat + bankWindowSize.toNat ≤ 2 ^ 32) :
    (mappedBankCount rom fixedSize bankWindowSize).toNat =
      min ngProgramRomMaxBanks
        ((rom.size.toNat - fixedSize.toNat + (bankWindowSize.toNat - 1)) /
          bankWindowSize.toNat) := by
  rw [mappedBankCount_toNat, derivedBankCount_toNat hne hlt, Nat.mod_eq_of_lt (by omega)]

/-- Otherwise what is left of the sum is smaller than a window. -/
theorem mappedBankCount_of_wraps (hne : bankWindowSize ≠ 0)
    (hlt : fixedSize.toNat < rom.size.toNat)
    (hwraps : 2 ^ 32 < rom.size.toNat - fixedSize.toNat + bankWindowSize.toNat) :
    (mappedBankCount rom fixedSize bankWindowSize).toNat = 0 := by
  have hsize := rom.size.isLt
  have hwindow := bankWindowSize.isLt
  have hmod : (rom.size.toNat - fixedSize.toNat + (bankWindowSize.toNat - 1)) % 2 ^ 32 =
      rom.size.toNat - fixedSize.toNat + (bankWindowSize.toNat - 1) - 2 ^ 32 := by
    rw [Nat.mod_eq_sub_mod (by omega), Nat.mod_eq_of_lt (by omega)]
  rw [mappedBankCount_toNat, derivedBankCount_toNat hne hlt, hmod, Nat.div_eq_of_lt (by omega),
    Nat.min_zero]

/-! ## The partition -/

/-- Every offset of the banked image is reached by one bank and offset inside the window, and
nothing else is reached. -/
def BanksPartition (rom : NgProgramRom) (fixedSize bankWindowSize : BitVec 32) : Prop :=
  (∀ offset, fixedSize.toNat ≤ offset →
    offset < min rom.size.toNat (fixedSize.toNat + 256 * bankWindowSize.toNat) →
      ∃! bankRel : Nat × Nat, bankOffset rom bankRel.1 bankRel.2 = some offset) ∧
  ∀ bank rel offset, bankOffset rom bank rel = some offset → fixedSize.toNat ≤ offset ∧
    offset < min rom.size.toNat (fixedSize.toNat + 256 * bankWindowSize.toNat)

/-- Bank and offset inside the window are quotient and remainder. -/
theorem bankRel_unique {start window bank rel bank' rel' : Nat} (hrel : rel < window)
    (hrel' : rel' < window) (h : start + bank * window + rel = start + bank' * window + rel') :
    bank = bank' ∧ rel = rel' := by
  have hmod := congrArg (· % window) (Nat.add_left_cancel ((Nat.add_assoc ..).symm.trans
    (h.trans (Nat.add_assoc ..))))
  simp only [Nat.mul_add_mod', Nat.mod_eq_of_lt hrel, Nat.mod_eq_of_lt hrel'] at hmod
  refine ⟨Nat.eq_of_mul_eq_mul_right (Nat.zero_lt_of_lt hrel) ?_, hmod⟩
  omega

/-- The derived banks partition the banked image unless the rounded-up division wraps. -/
theorem derived_banks_partition_iff (rom : NgProgramRom)
    (fixedBase fixedSize bankWindowBase bankWindowSize : BitVec 32) (hne : bankWindowSize ≠ 0) :
    BanksPartition
        (ngProgramRomSetAddressMap rom fixedBase fixedSize bankWindowBase bankWindowSize)
        fixedSize bankWindowSize ↔
      rom.size.toNat ≤ fixedSize.toNat ∨
        rom.size.toNat - fixedSize.toNat + bankWindowSize.toNat ≤ 2 ^ 32 := by
  have hpos : 0 < bankWindowSize.toNat := Nat.pos_of_ne_zero fun h => hne (BitVec.eq_of_toNat_eq h)
  have hmax := mappedBankCount_le rom fixedSize bankWindowSize
  unfold ngProgramRomMaxBanks at hmax
  constructor
  · intro hpart
    by_contra hnot
    rw [not_or, not_le, not_le] at hnot
    have hnone := mappedBankCount_of_wraps hne hnot.1 hnot.2
    -- The first banked offset lies in a bank, of which there are none.
    obtain ⟨bankRel, hreach, -⟩ := hpart.1 fixedSize.toNat (Nat.le_refl _) (by
      rw [setAddressMap_size]
      omega)
    have hbank := (bankOffset_setAddressMap.mp hreach).1
    omega
  · intro hfits
    refine ⟨fun offset hle hlt => ?_, fun bank rel offset hreach => ?_⟩
    · rw [setAddressMap_size] at hlt
      have hcount := mappedBankCount_of_fits hne (by omega : fixedSize.toNat < rom.size.toNat)
        (by omega)
      have hsplit := Nat.div_add_mod' (offset - fixedSize.toNat) bankWindowSize.toNat
      have hrel := Nat.mod_lt (offset - fixedSize.toNat) hpos
      have hbank : (offset - fixedSize.toNat) / bankWindowSize.toNat <
          (mappedBankCount rom fixedSize bankWindowSize).toNat := by
        rw [hcount, lt_min_iff]
        constructor
        · refine Nat.div_lt_of_lt_mul ?_
          unfold ngProgramRomMaxBanks
          omega
        · rw [Nat.lt_iff_add_one_le, ← Nat.add_div_right _ hpos]
          exact Nat.div_le_div_right (by omega)
      have hoffset : offset = fixedSize.toNat +
          (offset - fixedSize.toNat) / bankWindowSize.toNat * bankWindowSize.toNat +
            (offset - fixedSize.toNat) % bankWindowSize.toNat := by omega
      refine ⟨((offset - fixedSize.toNat) / bankWindowSize.toNat,
        (offset - fixedSize.toNat) % bankWindowSize.toNat),
        bankOffset_setAddressMap.mpr ⟨hbank, hrel, hoffset, by omega⟩, ?_⟩
      intro bankRel hreach
      obtain ⟨-, hrel', hoffset', -⟩ := bankOffset_setAddressMap.mp hreach
      obtain ⟨hbanks, hrels⟩ := bankRel_unique hrel' hrel (hoffset'.symm.trans hoffset)
      exact Prod.ext hbanks hrels
    · obtain ⟨hbank, hrel, hoffset, hin⟩ := bankOffset_setAddressMap.mp hreach
      have hwindows := Nat.mul_le_mul_right bankWindowSize.toNat
        (by omega : bank + 1 ≤ 256)
      rw [Nat.add_mul, Nat.one_mul] at hwindows
      rw [setAddressMap_size]
      omega

/-- Two bytes behind an empty fixed region: with the largest window no bank is derived. -/
theorem derived_banks_missing : ¬ BanksPartition
    (ngProgramRomSetAddressMap (ngProgramRomLoaded #[0x4E, 0x71] 2 rfl) 0 0 0 0xFFFFFFFF)
      0 0xFFFFFFFF := by
  intro h
  have hcount : (ngProgramRomSetAddressMap (ngProgramRomLoaded #[0x4E, 0x71] 2 rfl) 0 0 0
      0xFFFFFFFF).bankCount.toNat = 0 := by decide
  obtain ⟨bankRel, hreach, -⟩ := h.1 0 (Nat.le_refl _) (by decide)
  unfold bankOffset at hreach
  rw [if_pos (.inr (.inl (by omega)))] at hreach
  exact Option.some_ne_none 0 hreach.symm

/-- Three bytes behind a fixed region of one: two banks of two bytes. -/
theorem derived_banks_partition_small : BanksPartition
    (ngProgramRomSetAddressMap (ngProgramRomLoaded #[0, 1, 2, 3] 4 rfl) 0 1 0x10 2) 1 2 :=
  (derived_banks_partition_iff (ngProgramRomLoaded #[0, 1, 2, 3] 4 rfl) 0 1 0x10 2
    (by decide)).mpr (by decide)

end NeoRecomp
