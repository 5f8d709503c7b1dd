import Mathlib.Tactic.IntervalCases
import NeoRecomp.Emit.Access

/-!
# Memory behind the bus

`RamArea` says that a set of addresses behaves as RAM: an access there touches its own bytes only, a
write is read back, and a read changes nothing.  The devices outside the set stay arbitrary.
-/

namespace NeoRecomp

open Gen

/-! ## Bytes of a word -/

/-- Byte `k` of a word, the most significant one first. -/
def byteOf {w : Nat} (v : BitVec w) (k : Nat) : BitVec 8 := v.extractLsb' (w - 8 * (k + 1)) 8

theorem eq_of_byteOf_eq {n : Nat} {v v' : BitVec (8 * n)} (h : ∀ k < n, byteOf v k = byteOf v' k) :
    v = v' := by
  apply BitVec.eq_of_getLsbD_eq
  intro i hi
  have hk : i / 8 < n := by omega
  have hb := congrArg (fun b => b.getLsbD (i % 8)) (h (n - 1 - i / 8) (by omega))
  simp only [byteOf, BitVec.getLsbD_extractLsb'] at hb
  have hidx : 8 * n - 8 * (n - 1 - i / 8 + 1) + i % 8 = i := by omega
  simpa [hidx, Nat.mod_lt] using hb

theorem ngSizeBits_eq_sizeBytes (size : BitVec 8) : ngSizeBits size = 8 * sizeBytes size := by
  unfold ngSizeBits sizeBytes
  split_ifs <;> rfl

theorem eq_of_byteOf_eq_size {size : BitVec 8} {v v' : BitVec (ngSizeBits size)}
    (h : ∀ k < sizeBytes size, byteOf v k = byteOf v' k) : v = v' := by
  revert v v'
  rw [ngSizeBits_eq_sizeBytes]
  intro v v' h
  exact eq_of_byteOf_eq h

/-! ## RAM areas -/

section Area
variable {β : Type} [GeneratedAbi β]

/-- The address of byte `k` of an operand. -/
def byteAddr (addr : BitVec 32) (k : Nat) : BitVec 32 := addr + BitVec.ofNat 32 k

/-- All bytes of an operand lie in the area. -/
def OperandIn (area : Set (BitVec 32)) (size : BitVec 8) (addr : BitVec 32) : Prop :=
  ∀ k < sizeBytes size, byteAddr addr k ∈ area

/-- The addresses of `area` are RAM whose contents `peek` shows. -/
structure RamArea (area : Set (BitVec 32)) (peek : β → BitVec 32 → BitVec 8) : Prop where
  read_value : ∀ size addr b, OperandIn area size addr → ∀ k < sizeBytes size,
    byteOf (abiRead size addr b).1 k = peek b (byteAddr addr k)
  read_keep : ∀ size addr b, OperandIn area size addr → ∀ x ∈ area,
    peek (abiRead size addr b).2 x = peek b x
  write_value : ∀ size addr v b, OperandIn area size addr → ∀ k < sizeBytes size,
    peek (abiWrite size addr v b) (byteAddr addr k) = byteOf v k
  write_keep : ∀ size addr v b, OperandIn area size addr → ∀ x ∈ area,
    (∀ k < sizeBytes size, x ≠ byteAddr addr k) → peek (abiWrite size addr v b) x = peek b x

/-- A part of a RAM area is one. -/
theorem RamArea.mono {area area' : Set (BitVec 32)} {peek : β → BitVec 32 → BitVec 8}
    (ram : RamArea area peek) (h : area' ⊆ area) : RamArea area' peek where
  read_value size addr b hin := ram.read_value size addr b fun k hk => h (hin k hk)
  read_keep size addr b hin x hx := ram.read_keep size addr b (fun k hk => h (hin k hk)) x (h hx)
  write_value size addr v b hin := ram.write_value size addr v b fun k hk => h (hin k hk)
  write_keep size addr v b hin x hx :=
    ram.write_keep size addr v b (fun k hk => h (hin k hk)) x (h hx)

/-- The operand stored at an address. -/
def HoldsAt (peek : β → BitVec 32 → BitVec 8) (b : β) (size : BitVec 8) (addr : BitVec 32)
    (v : BitVec (ngSizeBits size)) : Prop :=
  ∀ k < sizeBytes size, peek b (byteAddr addr k) = byteOf v k

variable {area : Set (BitVec 32)} {peek : β → BitVec 32 → BitVec 8}

theorem RamArea.read_of_holds (ram : RamArea area peek) {size : BitVec 8} {addr : BitVec 32}
    {v : BitVec (ngSizeBits size)} {b : β} (hin : OperandIn area size addr)
    (h : HoldsAt peek b size addr v) : (abiRead size addr b).1 = v := by
  apply eq_of_byteOf_eq_size
  intro k hk
  rw [ram.read_value size addr b hin k hk, h k hk]

theorem RamArea.holds_write (ram : RamArea area peek) {size : BitVec 8} {addr : BitVec 32}
    (v : BitVec (ngSizeBits size)) (b : β) (hin : OperandIn area size addr) :
    HoldsAt peek (abiWrite size addr v b) size addr v :=
  fun k hk => ram.write_value size addr v b hin k hk

theorem RamArea.holds_after_read (ram : RamArea area peek) {size size' : BitVec 8}
    {addr addr' : BitVec 32} {v : BitVec (ngSizeBits size')} {b : β}
    (hin : OperandIn area size addr) (hin' : OperandIn area size' addr')
    (h : HoldsAt peek b size' addr' v) :
    HoldsAt peek (abiRead size addr b).2 size' addr' v := by
  intro k hk
  rw [ram.read_keep size addr b hin _ (hin' k hk), h k hk]

/-- Two operands without a common byte. -/
def OperandsDisjoint (size size' : BitVec 8) (addr addr' : BitVec 32) : Prop :=
  ∀ k < sizeBytes size, ∀ k' < sizeBytes size', byteAddr addr' k' ≠ byteAddr addr k

theorem RamArea.holds_after_write (ram : RamArea area peek) {size size' : BitVec 8}
    {addr addr' : BitVec 32} {v : BitVec (ngSizeBits size')} {b : β}
    (w : BitVec (ngSizeBits size)) (hin : OperandIn area size addr)
    (hin' : OperandIn area size' addr') (hd : OperandsDisjoint size size' addr addr')
    (h : HoldsAt peek b size' addr' v) :
    HoldsAt peek (abiWrite size addr w b) size' addr' v := by
  intro k hk
  rw [ram.write_keep size addr w b hin _ (hin' k hk) fun j hj => hd j hj k hk, h k hk]

end Area

/-! ## A memory without devices -/

/-- Bytes by address. -/
structure Ram where
  bytes : BitVec 32 → BitVec 8

/-- Big-endian store of the bytes of `v`. -/
def Ram.store {w : Nat} (n : Nat) (addr : BitVec 32) (v : BitVec w) (b : Ram) : Ram where
  bytes x := if (x - addr).toNat < n then byteOf v (x - addr).toNat else b.bytes x

instance : GeneratedAbi Ram where
  read8 a b := (b.bytes a, b)
  read16 a b := (b.bytes a ++ b.bytes (a + 1), b)
  read32 a b := (b.bytes a ++ b.bytes (a + 1) ++ b.bytes (a + 2) ++ b.bytes (a + 3), b)
  write8 a v b := b.store 1 a v
  write16 a v b := b.store 2 a v
  write32 a v b := b.store 4 a v
  instructionHook _ b := b
  cycleHook _ _ b := b
  shouldYield _ b := (false, b)
  resetDevices b := b
  stopUntilInterrupt _ b := b
  takeReset b := (none, b)
  takeInterrupt _ b := (none, b)

theorem byteAddr_sub_toNat (addr : BitVec 32) {k : Nat} (hk : k < 4) :
    (byteAddr addr k - addr).toNat = k := by
  rw [byteAddr, BitVec.add_comm, BitVec.add_sub_cancel, BitVec.toNat_ofNat]
  omega

theorem sizeBytes_le (size : BitVec 8) : sizeBytes size ≤ 4 := by
  unfold sizeBytes
  split_ifs <;> decide

theorem Ram.store_setWidth {w k : Nat} (h : w = k) (n : Nat) (addr : BitVec 32) (v : BitVec w)
    (b : Ram) : b.store n addr (v.setWidth k) = b.store n addr v := by
  subst h
  rw [BitVec.setWidth_eq]

theorem abiWrite_ram (size : BitVec 8) (addr : BitVec 32) (v : BitVec (ngSizeBits size))
    (b : Ram) : abiWrite size addr v b = b.store (sizeBytes size) addr v := by
  unfold abiWrite sizeBytes
  split_ifs with h4 h1
  · exact Ram.store_setWidth (by rw [ngSizeBits, if_pos h4]) 4 addr v b
  · exact Ram.store_setWidth (by rw [ngSizeBits, if_neg h4, if_pos h1]) 1 addr v b
  · exact Ram.store_setWidth (by rw [ngSizeBits, if_neg h4, if_neg h1]) 2 addr v b

theorem byteOf_setWidth {w k : Nat} (h : w = k) (v : BitVec w) (i : Nat) :
    byteOf (v.setWidth k) i = byteOf v i := by
  subst h
  rw [BitVec.setWidth_eq]

theorem byteOf_append_last {w : Nat} (hi : BitVec w) (lo : BitVec 8) {k : Nat}
    (hk : 8 * (k + 1) = w + 8) : byteOf (hi ++ lo) k = lo := by
  rw [byteOf, show w + 8 - 8 * (k + 1) = 0 by omega]
  apply BitVec.eq_of_getLsbD_eq
  intro i hi
  simp [BitVec.getLsbD_append, hi]

theorem byteOf_append_of_lt {w : Nat} (hi : BitVec w) (lo : BitVec 8) {k : Nat}
    (hk : 8 * (k + 1) ≤ w) : byteOf (hi ++ lo) k = byteOf hi k := by
  rw [byteOf, byteOf]
  apply BitVec.eq_of_getLsbD_eq
  intro i hi
  simp only [BitVec.getLsbD_extractLsb', BitVec.getLsbD_append]
  rw [if_neg (by omega), show w + 8 - 8 * (k + 1) + i - 8 = w - 8 * (k + 1) + i by omega]

theorem byteOf_self (x : BitVec 8) : byteOf x 0 = x := by
  simp [byteOf]

/-- `Ram` is RAM everywhere. -/
theorem Ram.ramArea : RamArea (β := Ram) Set.univ Ram.bytes where
  read_value size addr b _ k hk := by
    unfold sizeBytes at hk
    unfold abiRead byteAddr
    split_ifs at hk ⊢ with h4 h1
    · rw [byteOf_setWidth (by rw [ngSizeBits, if_pos h4])]
      dsimp only [GeneratedAbi.read32]
      interval_cases k <;>
        simp [byteOf_append_last, byteOf_append_of_lt, byteOf_self]
    · rw [byteOf_setWidth (by rw [ngSizeBits, if_neg h4, if_pos h1])]
      dsimp only [GeneratedAbi.read8]
      interval_cases k
      simp [byteOf_self]
    · rw [byteOf_setWidth (by rw [ngSizeBits, if_neg h4, if_neg h1])]
      dsimp only [GeneratedAbi.read16]
      interval_cases k <;> simp [byteOf_append_last, byteOf_append_of_lt, byteOf_self]
  read_keep size addr b _ x _ := by
    unfold abiRead
    split_ifs <;> rfl
  write_value size addr v b _ k hk := by
    have h4 := sizeBytes_le size
    rw [abiWrite_ram, Ram.store]
    dsimp only
    rw [byteAddr_sub_toNat addr (by omega), if_pos hk]
  write_keep size addr v b _ x _ hne := by
    rw [abiWrite_ram, Ram.store]
    dsimp only
    rw [if_neg]
    intro hlt
    apply hne _ hlt
    rw [byteAddr, BitVec.ofNat_toNat, BitVec.setWidth_eq, BitVec.add_comm, BitVec.sub_add_cancel]

end NeoRecomp
