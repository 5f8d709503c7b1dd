import Mathlib.Tactic.IntervalCases
import NeoRecomp.Decode

/-!
# Opcode fields as masked opcodes

A validator rebuilds the opcode word from the fields of the record.  Every field the decoder took
from the opcode is the opcode under a mask again, so the rebuilt word is the opcode as soon as the
masks cover all sixteen bits.
-/

namespace NeoRecomp

/-! ## Masks -/

theorem and_or_and (op a b : BitVec 16) : (op &&& a) ||| (op &&& b) = op &&& (a ||| b) := by
  rw [BitVec.and_or_distrib_left]

theorem and_ones (op : BitVec 16) : op &&& 65535#16 = op := by
  rw [show 65535#16 = BitVec.allOnes 16 from rfl, BitVec.and_allOnes]

theorem opMatch_iff {op mask value : BitVec 16} :
    opMatch op mask value = true ↔ op &&& mask = value := by
  rw [opMatch, beq_iff_eq]

/-- A match on more bits decides a match on fewer. -/
theorem and_of_and {op mask value sub : BitVec 16} (h : op &&& mask = value)
    (hsub : mask &&& sub = sub) : op &&& sub = value &&& sub := by
  rw [← h, BitVec.and_assoc, hsub]

/-- A single bit of the opcode. -/
theorem and_bit_cases (op : BitVec 16) {mask : BitVec 16} {i : Nat}
    (hmask : mask = BitVec.twoPow 16 i) : op &&& mask = 0 ∨ op &&& mask = mask := by
  rw [hmask, BitVec.and_twoPow]
  split_ifs
  · exact .inr rfl
  · exact .inl rfl

/-! ## Fields -/

/-- A field at position `n`, moved down and back up. -/
theorem field_shift (op mask : BitVec 16) (n : Nat) :
    ((op >>> n) &&& mask) <<< n = op &&& (mask <<< n) := by
  apply BitVec.eq_of_getLsbD_eq
  intro i hi
  simp only [BitVec.getLsbD_shiftLeft, BitVec.getLsbD_and, BitVec.getLsbD_ushiftRight]
  by_cases h : i < n
  · simp [h]
  · simp [h, hi, show n + (i - n) = i by omega]

/-- A field of at most eight bits survives its byte. -/
theorem field_widen (op : BitVec 16) {mask : BitVec 16} (hmask : mask &&& 0xFF = mask) :
    ((op &&& mask).setWidth 8).setWidth 16 = op &&& mask := by
  rw [← hmask, ← BitVec.and_assoc]
  generalize op &&& mask = v
  apply BitVec.eq_of_getLsbD_eq
  intro i hi
  simp only [BitVec.getLsbD_setWidth, BitVec.getLsbD_and]
  interval_cases i <;> simp

theorem field8_shift (op : BitVec 16) {mask : BitVec 16} (n : Nat) (hmask : mask &&& 0xFF = mask) :
    (((op >>> n) &&& mask).setWidth 8).setWidth 16 <<< n = op &&& (mask <<< n) := by
  rw [field_widen _ hmask, field_shift]

theorem reg9_shift (op : BitVec 16) : (opReg9 op).setWidth 16 <<< 9 = op &&& 0x0E00 :=
  field8_shift op 9 rfl

theorem mode6_shift (op : BitVec 16) : (opMode6 op).setWidth 16 <<< 6 = op &&& 0x01C0 :=
  field8_shift op 6 rfl

theorem top_shift (op : BitVec 16) : (opTop op).setWidth 16 <<< 12 = op &&& 0xF000 :=
  field8_shift op 12 rfl

theorem eaMode_shift (op : BitVec 16) : (opEaMode op).setWidth 16 <<< 3 = op &&& 0x0038 :=
  field8_shift op 3 rfl

theorem sizeCode_shift (op : BitVec 16) : (opSizeCode op).setWidth 16 <<< 6 = op &&& 0x00C0 :=
  field8_shift op 6 rfl

theorem condition_shift (op : BitVec 16) :
    (((op >>> 8) &&& 0xF).setWidth 8).setWidth 16 <<< 8 = op &&& 0x0F00 :=
  field8_shift op 8 rfl

theorem eaReg_widen (op : BitVec 16) : (opEaReg op).setWidth 16 = op &&& 0x0007 :=
  field_widen op rfl

theorem eaField_widen (op : BitVec 16) :
    ((opEaMode op <<< 3) ||| opEaReg op).setWidth 16 = op &&& 0x003F := by
  apply BitVec.eq_of_getLsbD_eq
  intro i hi
  simp only [opEaReg, opEaMode, BitVec.getLsbD_or, BitVec.getLsbD_shiftLeft,
    BitVec.getLsbD_setWidth, BitVec.getLsbD_and, BitVec.getLsbD_ushiftRight]
  interval_cases i <;> simp

theorem opEaMode_eq (op : BitVec 16) : opEaMode op = ((op &&& 0x0038) >>> 3).setWidth 8 := by
  rw [opEaMode, BitVec.ushiftRight_and_distrib]
  rfl

/-! ## Ranges -/

theorem and_seven_lt (v : BitVec 16) : ((v &&& 7).setWidth 8) < 8 := by
  rw [BitVec.lt_def, BitVec.toNat_setWidth, BitVec.toNat_and]
  have := Nat.and_le_right (n := v.toNat) (m := (7 : BitVec 16).toNat)
  change _ ≤ 7 at this
  change _ % 256 < 8
  omega

theorem opReg9_lt (op : BitVec 16) : opReg9 op < 8 := and_seven_lt _
theorem opMode6_lt (op : BitVec 16) : opMode6 op < 8 := and_seven_lt _
theorem opEaMode_lt (op : BitVec 16) : opEaMode op < 8 := and_seven_lt _
theorem opEaReg_lt (op : BitVec 16) : opEaReg op < 8 := and_seven_lt _

-- The same bounds with the literal in the form simp leaves it in.
@[simp] theorem opReg9_lt_eight (op : BitVec 16) : opReg9 op < 8#8 := and_seven_lt _
@[simp] theorem opEaReg_lt_eight (op : BitVec 16) : opEaReg op < 8#8 := and_seven_lt _

theorem opSizeCode_lt (op : BitVec 16) : opSizeCode op < 4 := by
  rw [opSizeCode, BitVec.lt_def, BitVec.toNat_setWidth, BitVec.toNat_and]
  have := Nat.and_le_right (n := (op >>> 6).toNat) (m := (3 : BitVec 16).toNat)
  change _ ≤ 3 at this
  change _ % 256 < 4
  omega

/-- A register or mode field is one of eight values. -/
theorem lt_eight_cases {v : BitVec 8} (h : v < 8) :
    v = 0 ∨ v = 1 ∨ v = 2 ∨ v = 3 ∨ v = 4 ∨ v = 5 ∨ v = 6 ∨ v = 7 := by
  have hv : v.toNat < 8 := h
  have hcast : v = BitVec.ofNat 8 v.toNat := by simp
  rw [hcast]
  interval_cases v.toNat <;> simp

theorem opSizeCode_cases {op : BitVec 16} (h : opSizeCode op ≠ 3) :
    opSizeCode op = 0 ∨ opSizeCode op = 1 ∨ opSizeCode op = 2 := by
  have hlt : (opSizeCode op).toNat < 4 := opSizeCode_lt op
  have hcast : opSizeCode op = BitVec.ofNat 8 (opSizeCode op).toNat := by simp
  rw [hcast] at h ⊢
  interval_cases (opSizeCode op).toNat <;> simp_all

end NeoRecomp
