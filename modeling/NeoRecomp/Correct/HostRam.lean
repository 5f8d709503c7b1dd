import NeoRecomp.Correct.BusFrame
import NeoRecomp.Runtime.Host
import NeoRecomp.Spec.Ram

/-!
# Work RAM of the running system is memory

What is proved of emitted code over an arbitrary RAM area holds of the 64 KiB at `0x100000` of the
runtime the harness links: an access there takes its bytes from the runtime's cells and gives them
to these cells, and touches nothing else.
-/

namespace NeoRecomp

open NeogeoRuntime

/-- The addresses of work RAM. -/
def workRamArea : Set (BitVec 32) := { x | 0x100000 ≤ x.toNat ∧ x.toNat ≤ 0x10FFFF }

/-- A byte of work RAM, by its address. -/
def SmokeHost.workRamByte (h : SmokeHost) (addr : BitVec 32) : BitVec 8 :=
  h.runtime.workRam (cellOf addr)

/-! ## Cells -/

theorem deviceAt_workRam {x : BitVec 32} (hx : x ∈ workRamArea) : deviceAt x = .workRam := by
  obtain ⟨hlo, hhi⟩ := hx
  rw [deviceAt, busDevice_workRam_iff, inWindow_iff, toNat_and_mask24]
  omega

theorem cellOf_inj {x y : BitVec 32} (hx : x ∈ workRamArea) (hy : y ∈ workRamArea)
    (h : cellOf x = cellOf y) : x = y := by
  obtain ⟨hxlo, hxhi⟩ := hx
  obtain ⟨hylo, hyhi⟩ := hy
  have hnat := congrArg BitVec.toNat h
  unfold cellOf at hnat
  rw [BitVec.toNat_setWidth, BitVec.toNat_setWidth] at hnat
  apply BitVec.eq_of_toNat_eq
  omega

section Access
variable {addr : BitVec 32} {h : SmokeHost}

theorem inside_of_operandIn {size : BitVec 8} (hin : OperandIn workRamArea size addr) :
    Inside (sizeBytes size) addr .workRam :=
  fun k hk => deviceAt_workRam (hin k hk)

theorem cells_workRam (rt : NeogeoRuntime) : cells .workRam rt = rt.workRam := if_pos rfl

/-! ## Reads -/

/-- A read that leaves the view of the runtime alone leaves the host alone. -/
theorem access_eq {n : Nat} {read : NgNeoRuntime → BitVec 32 → BitVec n × NgNeoRuntime}
    {value : BitVec n} (hread : read h.runtime.bus addr = (value, h.runtime.bus)) :
    SmokeHost.access read addr h = (value, h) := by
  unfold SmokeHost.access busRead
  rw [hread]
  rfl

theorem byteOf_append_zero (hi lo : BitVec 8) : byteOf (hi ++ lo) 0 = hi := by
  rw [byteOf_append_of_lt hi lo (by decide), byteOf_self]

theorem byteOf_append_one (hi lo : BitVec 8) : byteOf (hi ++ lo) 1 = lo :=
  byteOf_append_last hi lo (by decide)

/-- The bytes of a long word are those of its two words. -/
theorem byteOf_append_words (hi lo : BitVec 16) (k : Nat) (hk : k < 2) :
    byteOf (hi ++ lo) k = byteOf hi k ∧ byteOf (hi ++ lo) (k + 2) = byteOf lo k := by
  constructor
  all_goals
    apply BitVec.eq_of_getLsbD_eq
    intro i hi'
    simp only [byteOf, BitVec.getLsbD_extractLsb', BitVec.getLsbD_append]
  · rw [if_neg (by omega)]
    congr 2
    omega
  · rw [if_pos (by omega)]
    congr 2
    omega

theorem read8_workRam (hin : Inside 1 addr .workRam) :
    SmokeHost.access ng68kRead8 addr h = (h.workRamByte addr, h) := by
  apply access_eq
  rw [read8_cells hin.first (.inl rfl), cells_workRam]
  rfl

theorem read16_workRam (hin : Inside 2 addr .workRam) :
    SmokeHost.access ng68kRead16 addr h =
      (h.workRamByte addr ++ h.workRamByte (byteAddr addr 1), h) := by
  apply access_eq
  rw [read16_cells hin (.inl rfl), cells_workRam]
  rfl

theorem read32_workRam (hin : Inside 4 addr .workRam) :
    SmokeHost.access ng68kRead32 addr h =
      ((h.workRamByte addr ++ h.workRamByte (byteAddr addr 1)) ++
        (h.workRamByte (byteAddr addr 2) ++ h.workRamByte (byteAddr addr 3)), h) := by
  have hwords : Inside (2 + 2) addr .workRam := hin
  have hlow := @read16_cells h.runtime addr _ hwords.left (.inl rfl)
  have hhigh := @read16_cells h.runtime (addr + 2) _ hwords.right (.inl rfl)
  have hlast : busByte (addr + 2) 1 = byteAddr addr 3 := by
    unfold busByte byteAddr
    rw [BitVec.add_assoc]
    rfl
  apply access_eq
  unfold ng68kRead32
  dsimp only
  rw [hlow, hhigh, cells_workRam, hlast]
  rfl

/-- A read in work RAM takes its bytes from the cells and changes nothing. -/
theorem abiRead_workRam {size : BitVec 8} (hin : OperandIn workRamArea size addr) :
    (abiRead size addr h).2 = h ∧ ∀ k < sizeBytes size,
      byteOf (abiRead size addr h).1 k = h.workRamByte (byteAddr addr k) := by
  have hinside := inside_of_operandIn hin
  have hzero : byteAddr addr 0 = addr := BitVec.add_zero addr
  unfold abiRead
  unfold sizeBytes at hinside ⊢
  split_ifs at hinside ⊢ with h4 h1
  · refine ⟨congrArg Prod.snd (read32_workRam hinside), fun k hk => ?_⟩
    rw [byteOf_setWidth (by rw [ngSizeBits, if_pos h4]),
      show (GeneratedAbi.read32 addr h).1 = _ from congrArg Prod.fst (read32_workRam hinside)]
    interval_cases k
    · rw [(byteOf_append_words _ _ 0 (by decide)).1, byteOf_append_zero, hzero]
    · rw [(byteOf_append_words _ _ 1 (by decide)).1, byteOf_append_one]
    · rw [(byteOf_append_words _ _ 0 (by decide)).2, byteOf_append_zero]
    · rw [(byteOf_append_words _ _ 1 (by decide)).2, byteOf_append_one]
  · refine ⟨congrArg Prod.snd (read8_workRam hinside), fun k hk => ?_⟩
    rw [byteOf_setWidth (by rw [ngSizeBits, if_neg h4, if_pos h1]),
      show (GeneratedAbi.read8 addr h).1 = _ from congrArg Prod.fst (read8_workRam hinside)]
    interval_cases k
    rw [byteOf_self, hzero]
  · refine ⟨congrArg Prod.snd (read16_workRam hinside), fun k hk => ?_⟩
    rw [byteOf_setWidth (by rw [ngSizeBits, if_neg h4, if_neg h1]),
      show (GeneratedAbi.read16 addr h).1 = _ from congrArg Prod.fst (read16_workRam hinside)]
    interval_cases k
    · rw [byteOf_append_zero, hzero]
    · rw [byteOf_append_one]

/-! ## Writes -/

theorem setWidth_back {w k : Nat} (h : w = k) (v : BitVec w) : (v.setWidth k).setWidth w = v := by
  rw [setWidth_widen v h.le, BitVec.setWidth_eq]

/-- A write in work RAM is read back. -/
theorem abiRead_abiWrite_workRam {size : BitVec 8} (hin : OperandIn workRamArea size addr)
    (v : BitVec (ngSizeBits size)) : (abiRead size addr (abiWrite size addr v h)).1 = v := by
  have hinside := inside_of_operandIn hin
  unfold abiRead abiWrite
  unfold sizeBytes at hinside
  split_ifs at hinside ⊢ with h4 h1
  · have hback := @read32_after_write32 h.runtime addr _ hinside (.inl rfl) (v.setWidth 32)
    exact (congrArg (BitVec.setWidth _) hback).trans
      (setWidth_back (by rw [ngSizeBits, if_pos h4]) v)
  · have hback := @read8_after_write8 h.runtime addr _ hinside (.inl rfl) (v.setWidth 8)
    exact (congrArg (BitVec.setWidth _) hback).trans
      (setWidth_back (by rw [ngSizeBits, if_neg h4, if_pos h1]) v)
  · have hback := @read16_after_write16 h.runtime addr _ hinside (.inl rfl) (v.setWidth 16)
    exact (congrArg (BitVec.setWidth _) hback).trans
      (setWidth_back (by rw [ngSizeBits, if_neg h4, if_neg h1]) v)

/-- A write changes the cells of its own bytes only. -/
theorem abiWrite_workRamChange (size : BitVec 8) (v : BitVec (ngSizeBits size)) :
    WorkRamChange (sizeBytes size) addr h.runtime (abiWrite size addr v h).runtime := by
  unfold abiWrite sizeBytes
  split_ifs
  · exact (@write32_ramChange h.runtime addr _).1
  · exact write8_workRamChange addr _
  · exact (@write16_ramChange h.runtime addr _).1

end Access

/-- Work RAM of the running system is a RAM area. -/
theorem SmokeHost.workRam_ramArea : RamArea workRamArea SmokeHost.workRamByte where
  read_value size addr h hin := (abiRead_workRam hin).2
  read_keep size addr h hin x _ := by rw [(abiRead_workRam hin).1]
  write_value size addr v h hin k hk := by
    rw [← (abiRead_workRam hin).2 k hk, abiRead_abiWrite_workRam hin]
  write_keep size addr v h hin x hx hne := by
    by_contra hchanged
    obtain ⟨k, hk, -, hcell⟩ := abiWrite_workRamChange size v _ hchanged
    exact hne k hk (cellOf_inj hx (hin k hk) hcell)

end NeoRecomp
