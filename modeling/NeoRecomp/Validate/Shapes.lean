import NeoRecomp.Validate

/-!
# Operand shapes of validated instructions

What the emitter relies on: which addressing modes and sizes the operands of a validated record can
have.
-/

namespace NeoRecomp

/-! ## Extension lengths -/

section Lengths
variable {ea : NgM68kEa} {n : BitVec 8} {a : BitVec 32} {instr : NgM68kInstr}

theorem eaIsMemoryAlterable_of_extLength (h : exactMemoryAlterableExtLength ea = some n) :
    eaIsMemoryAlterable ea = true := by
  unfold exactMemoryAlterableExtLength at h
  unfold eaIsMemoryAlterable
  cases hm : ea.mode <;> simp_all

theorem mode_ne_none_of_dataAlterable (h : eaIsDataAlterable ea = true) : ea.mode ≠ .none := by
  rintro hm
  simp [eaIsDataAlterable, eaIsMemoryAlterable, hm] at h

theorem eaIsDataAlterable_of_extLength (h : exactDataAlterableExtLength ea = some n) :
    eaIsDataAlterable ea = true := by
  unfold exactDataAlterableExtLength at h
  rw [eaIsDataAlterable, Bool.or_eq_true, beq_iff_eq]
  split at h
  · rename_i hm
    exact .inl hm
  · exact .inr (eaIsMemoryAlterable_of_extLength h)

theorem areg_or_dataAlterable_of_extLength (h : quickAlterableExtLength ea = some n) :
    ea.mode = .areg ∨ eaIsDataAlterable ea = true := by
  unfold quickAlterableExtLength at h
  split at h
  · rename_i hm
    exact .inl hm
  · exact .inr (eaIsDataAlterable_of_extLength h)

/-- The addressing modes with an address that can be computed without side effects. -/
def eaIsControl (ea : NgM68kEa) : Bool :=
  match ea.mode with
  | .aind | .adisp | .aindex | .absW | .absL | .pcDisp | .pcIndex => true
  | _ => false

theorem eaIsControl_of_extLength (h : exactControlEaExtLength ea a = some n) :
    eaIsControl ea = true := by
  unfold exactControlEaExtLength at h
  unfold eaIsControl
  cases hm : ea.mode <;> simp_all

theorem dataSource_mode_ne_none (h : exactDataSourceExtLength instr = some n) :
    instr.src.mode ≠ .none ∧ instr.src.mode ≠ .areg := by
  unfold exactDataSourceExtLength at h
  constructor <;> intro hm <;> simp [hm, exactControlEaExtLength] at h

theorem addsubcmpSource_mode_ne_none (h : exactAddsubcmpSourceExtLength instr = some n) :
    instr.src.mode ≠ .none := by
  unfold exactAddsubcmpSourceExtLength at h
  split at h
  · simp_all
  · exact (dataSource_mode_ne_none h).1

end Lengths

/-! ## Instruction families -/

section Families
variable {instr : NgM68kInstr}

theorem eaIsExactRegister_mode {ea : NgM68kEa} {mode : NgM68kEaMode}
    (h : eaIsExactRegister ea mode = true) : ea.mode = mode := by
  simp only [eaIsExactRegister, Bool.and_eq_true, beq_iff_eq] at h
  exact h.1

theorem sizeBitsOf_isSome {size : BitVec 8} {bits : BitVec 16} (h : sizeBitsOf size = some bits) :
    size = 1 ∨ size = 2 ∨ size = 4 := by
  unfold sizeBitsOf at h
  split_ifs at h <;> simp_all

theorem validateEaToDregBinary_shape {b : Bool} (h : validateEaToDregBinary instr b = true) :
    instr.src.mode ≠ .none ∧ instr.dst.mode = .dreg ∧
      (instr.size = 1 ∨ instr.size = 2 ∨ instr.size = 4) := by
  unfold validateEaToDregBinary at h
  dsimp only at h
  split at h
  · rename_i hsrc _ hsize _
    simp only [Bool.and_eq_true] at h
    refine ⟨?_, eaIsExactRegister_mode h.1.1.1.1.2, sizeBitsOf_isSome hsize⟩
    split at hsrc
    · exact addsubcmpSource_mode_ne_none hsrc
    · exact (dataSource_mode_ne_none hsrc).1
  · simp at h

theorem validateDregToEa_shape {base : BitVec 16} {ext : Option (BitVec 8)} {b : Bool}
    (h : validateDregToEa instr base ext b = true) :
    ext.isSome = true ∧ instr.src.mode = .dreg ∧
      (instr.size = 1 ∨ instr.size = 2 ∨ instr.size = 4) := by
  unfold validateDregToEa at h
  split at h
  · rename_i hsize
    simp only [Bool.and_eq_true] at h
    exact ⟨rfl, eaIsExactRegister_mode h.1.1.1.1.2, sizeBitsOf_isSome hsize⟩
  · simp at h

theorem validateDregToMemoryBinary_shape (h : validateDregToMemoryBinary instr = true) :
    instr.src.mode = .dreg ∧ eaIsMemoryAlterable instr.dst = true ∧
      (instr.size = 1 ∨ instr.size = 2 ∨ instr.size = 4) := by
  have key : ∀ base, validateDregToEa instr base (exactMemoryAlterableExtLength instr.dst) false =
      true → instr.src.mode = .dreg ∧ eaIsMemoryAlterable instr.dst = true ∧
        (instr.size = 1 ∨ instr.size = 2 ∨ instr.size = 4) := by
    intro base hb
    obtain ⟨hsome, hsrc, hsize⟩ := validateDregToEa_shape hb
    obtain ⟨n, hn⟩ := Option.isSome_iff_exists.mp hsome
    exact ⟨hsrc, eaIsMemoryAlterable_of_extLength hn, hsize⟩
  unfold validateDregToMemoryBinary at h
  split at h
  · exact key _ h
  · exact key _ h
  · exact key _ h
  · exact key _ h
  · simp at h

theorem validateAddressRegOp_shape (h : validateAddressRegOp instr = true) :
    instr.src.mode ≠ .none ∧ instr.dst.mode = .areg ∧ (instr.size = 2 ∨ instr.size = 4) := by
  unfold validateAddressRegOp at h
  split at h
  · rename_i hsrc _ _
    simp only [Bool.and_eq_true, beq_iff_eq, validWordOrLong, Bool.or_eq_true] at h
    exact ⟨addsubcmpSource_mode_ne_none hsrc, h.1.1.1.2, h.1.1.1.1⟩
  · simp at h

theorem validateQuickOp_shape (h : validateQuickOp instr = true) :
    instr.dst.mode = .areg ∨ eaIsDataAlterable instr.dst = true := by
  unfold validateQuickOp at h
  split at h
  · rename_i hdst _ _
    exact areg_or_dataAlterable_of_extLength hdst
  · simp at h

theorem validateImmediateWithBase_shape {base : BitVec 16}
    (h : validateImmediateWithBase instr base = true) : eaIsDataAlterable instr.dst = true := by
  unfold validateImmediateWithBase at h
  split at h
  · rename_i hdst _ _
    exact eaIsDataAlterable_of_extLength hdst
  · simp at h

theorem validateImmediateToEa_shape (h : validateImmediateToEa instr = true) :
    eaIsDataAlterable instr.dst = true := by
  unfold validateImmediateToEa at h
  split at h
  · exact validateImmediateWithBase_shape h
  · exact validateImmediateWithBase_shape h
  · exact validateImmediateWithBase_shape h
  · exact validateImmediateWithBase_shape h
  · exact validateImmediateWithBase_shape h
  · simp at h

theorem validateUnaryDataAlterable_shape {b : Bool} (h : validateUnaryDataAlterable instr b = true) :
    eaIsDataAlterable instr.dst = true := by
  unfold validateUnaryDataAlterable at h
  split at h
  · rename_i hdst _ _ _
    exact eaIsDataAlterable_of_extLength hdst
  · simp at h

theorem validateCmpm_shape (h : validateCmpm instr = true) :
    instr.src.mode = .apost ∧ instr.dst.mode = .apost := by
  unfold validateCmpm at h
  split at h
  · simp only [Bool.and_eq_true] at h
    exact ⟨eaIsExactRegister_mode h.1.1.1.1.2, eaIsExactRegister_mode h.1.1.2⟩
  · simp at h

theorem validExtendPair_shape (h : validExtendPair instr = true) :
    (instr.src.mode = .dreg ∧ instr.dst.mode = .dreg) ∨
      (instr.src.mode = .apre ∧ instr.dst.mode = .apre) := by
  unfold validExtendPair at h
  split at h
  · dsimp only at h
    rw [Bool.and_eq_true] at h
    by_cases hd : instr.src.mode = .dreg ∧ instr.dst.mode = .dreg
    · exact .inl hd
    · by_cases ha : instr.src.mode = .apre ∧ instr.dst.mode = .apre
      · exact .inr ha
      · rw [if_neg hd, if_neg ha] at h
        exact absurd h.2 (by decide)
  · simp at h

end Families

end NeoRecomp
