import NeoRecomp.Emit.Operands

/-!
# Running operand accesses

What each primitive of emitted code does to the machine, as rewriting rules, so that straight-line
code can be executed symbolically.
-/

namespace NeoRecomp

open Gen

variable {β α γ : Type}

/-! ## Primitives -/

namespace Gen

@[simp] theorem getCpu_apply (m : Machine β) : getCpu m = .next m.cpu m := rfl

@[simp] theorem modifyCpu_apply (f : NgM68kState → NgM68kState) (m : Machine β) :
    modifyCpu f m = .next () { m with cpu := f m.cpu } := rfl

@[simp] theorem getTraceSr_apply (m : Machine β) : getTraceSr m = .next m.traceSr m := rfl

@[simp] theorem event_apply (e : Event) (m : Machine β) :
    event e m = .next () { m with log := m.log ++ [e] } := rfl

@[simp] theorem call_apply (f : β → α × β) (m : Machine β) :
    call f m = .next (f m.bus).1 { m with bus := (f m.bus).2 } := rfl

@[simp] theorem ret_apply (m : Machine β) : (ret : Gen β α) m = .exit .ret m := rfl

theorem bind_of_next {x : Gen β α} {m m' : Machine β} {a : α} (h : x m = .next a m')
    (f : α → Gen β γ) : (x >>= f) m = f a m' := by
  rw [bind_apply, h]

theorem bind_of_exit {x : Gen β α} {m m' : Machine β} {e : Exit} (h : x m = .exit e m')
    (f : α → Gen β γ) : (x >>= f) m = .exit e m' := by
  rw [bind_apply, h]

/-- Code that falls through ran each of its parts to the end. -/
theorem bind_eq_next {x : Gen β α} {f : α → Gen β γ} {m m' : Machine β} {c : γ}
    (h : (x >>= f) m = .next c m') : ∃ a m₁, x m = .next a m₁ ∧ f a m₁ = .next c m' := by
  rw [bind_apply] at h
  cases hm : x m with
  | exit e m₁ => rw [hm] at h; cases h
  | next a m₁ => rw [hm] at h; exact ⟨a, m₁, rfl, h⟩

end Gen

/-! ## Reads and writes of one operand size -/

theorem setWidth_widen {w k n : Nat} (v : BitVec w) (h : w ≤ k) :
    (v.setWidth k).setWidth n = v.setWidth n := by
  apply BitVec.eq_of_toNat_eq
  have hlt : v.toNat < 2 ^ k := lt_of_lt_of_le v.isLt (Nat.pow_le_pow_right (by decide) h)
  simp only [BitVec.toNat_setWidth, Nat.mod_eq_of_lt hlt]

/-- Bytes of an access. -/
def sizeBytes (size : BitVec 8) : Nat := if size = 4 then 4 else if size = 1 then 1 else 2

section Abi
variable [GeneratedAbi β]

/-- The read function of an operand size, on the device state. -/
def abiRead (size : BitVec 8) (addr : BitVec 32) (b : β) : BitVec (ngSizeBits size) × β :=
  if size = 4 then ((GeneratedAbi.read32 addr b).1.setWidth _, (GeneratedAbi.read32 addr b).2)
  else if size = 1 then ((GeneratedAbi.read8 addr b).1.setWidth _, (GeneratedAbi.read8 addr b).2)
  else ((GeneratedAbi.read16 addr b).1.setWidth _, (GeneratedAbi.read16 addr b).2)

/-- The write function of an operand size, on the device state. -/
def abiWrite (size : BitVec 8) (addr : BitVec 32) (v : BitVec (ngSizeBits size)) (b : β) : β :=
  if size = 4 then GeneratedAbi.write32 addr (v.setWidth 32) b
  else if size = 1 then GeneratedAbi.write8 addr (v.setWidth 8) b
  else GeneratedAbi.write16 addr (v.setWidth 16) b

@[simp] theorem readSize_apply (size : BitVec 8) (addr : BitVec 32) (m : Machine β) :
    readSize size addr m =
      .next (abiRead size addr m.bus).1
        { m with bus := (abiRead size addr m.bus).2
                 log := m.log ++ [.read (sizeBytes size) addr] } := by
  unfold readSize abiRead sizeBytes
  split_ifs <;> rfl

@[simp] theorem writeSize_apply (size : BitVec 8) (addr : BitVec 32)
    (v : BitVec (ngSizeBits size)) (m : Machine β) :
    writeSize size addr v m =
      .next ()
        { m with bus := abiWrite size addr v m.bus
                 log := m.log ++ [.write (sizeBytes size) addr (v.setWidth 32)] } := by
  unfold writeSize abiWrite sizeBytes
  split_ifs with h4 h1
  · rfl
  · have hb : ngSizeBits size = 8 := by rw [ngSizeBits, if_neg h4, if_pos h1]
    simp only [write8, bind_apply, event_apply, call_apply, setWidth_widen v (k := 8) hb.le]
  · have hb : ngSizeBits size = 16 := by rw [ngSizeBits, if_neg h4, if_neg h1]
    simp only [write16, bind_apply, event_apply, call_apply, setWidth_widen v (k := 16) hb.le]

theorem read8_apply (addr : BitVec 32) (m : Machine β) :
    read8 addr m = .next (abiRead 1 addr m.bus).1
      { m with bus := (abiRead 1 addr m.bus).2, log := m.log ++ [.read 1 addr] } := rfl

theorem read16_apply (addr : BitVec 32) (m : Machine β) :
    read16 addr m = .next (abiRead 2 addr m.bus).1
      { m with bus := (abiRead 2 addr m.bus).2, log := m.log ++ [.read 2 addr] } := rfl

theorem read32_apply (addr : BitVec 32) (m : Machine β) :
    read32 addr m = .next (abiRead 4 addr m.bus).1
      { m with bus := (abiRead 4 addr m.bus).2, log := m.log ++ [.read 4 addr] } := rfl

theorem write8_apply (addr : BitVec 32) (v : BitVec 8) (m : Machine β) :
    write8 addr v m = .next ()
      { m with bus := abiWrite 1 addr v m.bus
               log := m.log ++ [.write 1 addr (v.setWidth 32)] } := rfl

end Abi

end NeoRecomp
