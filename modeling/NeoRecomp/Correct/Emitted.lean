import Mathlib.Tactic.IntervalCases
import NeoRecomp.Emit.Body
import NeoRecomp.Validate.Shapes

/-!
# Validated instructions are emitted

`emit_instr` never reaches its unsupported fallback on a validated record, and whether the printed
code falls through depends on the mnemonic alone.
-/

namespace NeoRecomp

section Emission
variable {β : Type}

/-- The emitter routine returned 1. -/
def Emission.Succeeds (e : Emission β) : Prop := ∃ text, e = .emitted text

/-- The unsupported fallback was not reached, and the returned flag is `continues`. -/
def InstrEmission.Supported (e : InstrEmission β) (continues : Bool) : Prop :=
  e.unsupported = false ∧ e.continues = continues

theorem fallsThrough_supported (text : Gen β Unit) : (fallsThrough text).Supported true :=
  ⟨rfl, rfl⟩

theorem leaves_supported (text : Gen β Unit) : (leaves text).Supported false := ⟨rfl, rfl⟩

theorem orUnsupported_supported {instr : NgM68kInstr} {e : Emission β} (h : e.Succeeds) :
    (orUnsupported instr e).Supported true := by
  obtain ⟨text, rfl⟩ := h
  exact ⟨rfl, rfl⟩

theorem Emission.Succeeds.orElse_left {e : Emission β} (h : e.Succeeds) (e' : Emission β) :
    (e.orElse e').Succeeds := by
  obtain ⟨text, rfl⟩ := h
  exact ⟨text, rfl⟩

theorem Emission.Succeeds.orElse_right (e : Emission β) {e' : Emission β} (h : e'.Succeeds) :
    (e.orElse e').Succeeds := by
  obtain ⟨text, rfl⟩ := h
  cases e with
  | emitted text' => exact ⟨text', rfl⟩
  | failed printed => exact ⟨_, rfl⟩

theorem emitEaAddress_isSome {ea : NgM68kEa} (size : BitVec 8) (h : eaIsMemoryAlterable ea = true) :
    ∃ ad, emitEaAddress (β := β) ea size = some ad := by
  unfold emitEaAddress
  split <;> first | exact ⟨_, rfl⟩ | simp_all [eaIsMemoryAlterable]

theorem emitEaAddressValue_isSome {ea : NgM68kEa} (h : eaIsControl ea = true) :
    ∃ e, emitEaAddressValue ea = some e := by
  unfold emitEaAddressValue
  split <;> first | exact ⟨_, rfl⟩ | simp_all [eaIsControl]

/-! ## LEA, EXG and EXT, which touch no memory -/

theorem emitLea_supported {instr : NgM68kInstr} (h : validateLea instr = true) :
    (emitLea (β := β) instr).Supported true := by
  unfold validateLea at h
  split at h
  · rename_i hlen _
    obtain ⟨e, he⟩ := emitEaAddressValue_isSome (eaIsControl_of_extLength hlen)
    unfold emitLea
    rw [he]
    dsimp only
    split_ifs <;> exact fallsThrough_supported _
  · simp at h

theorem emitExchange_succeeds {instr : NgM68kInstr} (hm : instr.mnemonic = .exg)
    (h : validateExg instr = true) : (emitExchange (β := β) instr).Succeeds := by
  simp only [validateExg, Bool.and_eq_true] at h
  obtain ⟨-, h⟩ := h
  have hmodes : (instr.src.mode = .dreg ∧ instr.dst.mode = .dreg) ∨
      (instr.src.mode = .areg ∧ instr.dst.mode = .areg) ∨
      (instr.src.mode = .dreg ∧ instr.dst.mode = .areg) := by
    split_ifs at h with h1 h2 h3
    · exact .inl ⟨eaIsExactRegister_mode h1.1, eaIsExactRegister_mode h1.2⟩
    · exact .inr (.inl ⟨eaIsExactRegister_mode h2.1, eaIsExactRegister_mode h2.2⟩)
    · exact .inr (.inr ⟨eaIsExactRegister_mode h3.1, eaIsExactRegister_mode h3.2⟩)
  rcases hmodes with ⟨hs, hd⟩ | ⟨hs, hd⟩ | ⟨hs, hd⟩ <;>
  · simp only [emitExchange, hm, hs, hd, ne_eq, not_true_eq_false, if_false, reduceCtorEq, false_and,
      and_false, and_self, if_true]
    exact ⟨_, rfl⟩

theorem emitExt_supported {instr : NgM68kInstr} (hm : instr.mnemonic = .ext)
    (h : validateExtSwap instr = true) : (emitExt (β := β) instr).Supported true := by
  simp only [validateExtSwap, hm, Bool.and_eq_true, Bool.or_eq_true, beq_iff_eq] at h
  unfold emitExt
  dsimp only
  split_ifs with h2 h4
  · exact fallsThrough_supported _
  · exact fallsThrough_supported _
  · exact absurd h.2.1 (not_or.mpr ⟨h2, h4⟩)

end Emission

section Abi
variable {β : Type} [GeneratedAbi β] {instr : NgM68kInstr}

/-! ## Operands -/

theorem emitEaRead_isSome {ea : NgM68kEa} (size : BitVec 8) (h : ea.mode ≠ .none) :
    ∃ rd, emitEaRead (β := β) ea size = some rd := by
  unfold emitEaRead
  split <;> first | exact ⟨_, rfl⟩ | contradiction

theorem emitEaWrite_isSome {ea : NgM68kEa} (size : BitVec 8) (h : eaIsDataAlterable ea = true) :
    ∃ wr, emitEaWrite (β := β) ea size = some wr := by
  unfold emitEaWrite
  split <;> first | exact ⟨_, rfl⟩ | simp_all [eaIsDataAlterable, eaIsMemoryAlterable]

theorem memoryAlterable_of_not_dreg {ea : NgM68kEa} (h : eaIsDataAlterable ea = true)
    (hd : ea.mode ≠ .dreg) : eaIsMemoryAlterable ea = true := by
  rw [eaIsDataAlterable, Bool.or_eq_true, beq_iff_eq] at h
  exact h.resolve_left hd

theorem emitRmw_succeeds {ea : NgM68kEa} (size : BitVec 8)
    (body : BitVec (ngSizeBits size) → (BitVec (ngSizeBits size) → Gen β Unit) → Gen β Unit)
    (h : eaIsDataAlterable ea = true) : (emitRmw ea size body).Succeeds := by
  unfold emitRmw
  split_ifs with hd
  · obtain ⟨rd, hrd⟩ := emitEaRead_isSome (β := β) size (mode_ne_none_of_dataAlterable h)
    rw [hrd]
    exact ⟨_, rfl⟩
  · obtain ⟨ad, had⟩ := emitEaAddress_isSome (β := β) size (memoryAlterable_of_not_dreg h hd)
    rw [had]
    exact ⟨_, rfl⟩

/-! ## Instruction families -/

theorem emitPea_supported (h : validatePea instr = true) :
    (emitPea (β := β) instr).Supported true := by
  unfold validatePea at h
  split at h
  · rename_i hlen _
    obtain ⟨e, he⟩ := emitEaAddressValue_isSome (eaIsControl_of_extLength hlen)
    unfold emitPea
    rw [he]
    exact fallsThrough_supported _
  · simp at h

theorem emitMove_supported (h : validateMove instr = true) :
    (emitMove (β := β) instr).Supported true := by
  unfold validateMove at h
  split at h
  · rename_i hsrc hdst _ _
    have hs := addsubcmpSource_mode_ne_none hsrc
    have hd := eaIsDataAlterable_of_extLength hdst
    unfold emitMove
    cases moveShortcut (β := β) instr with
    | some text => exact fallsThrough_supported text
    | none =>
      refine orUnsupported_supported ?_
      obtain ⟨rd, hrd⟩ := emitEaRead_isSome (β := β) instr.size hs
      obtain ⟨wr, hwr⟩ := emitEaWrite_isSome (β := β) instr.size hd
      rw [emitMoveGeneric, if_neg (not_or.mpr ⟨hs, mode_ne_none_of_dataAlterable hd⟩), hrd, hwr]
      exact ⟨_, rfl⟩
  · simp at h

theorem emitAddressRegOp_supported (h : validateAddressRegOp instr = true) :
    (emitMoveaGeneric (β := β) instr).Succeeds ∧
      (instr.mnemonic = .adda ∨ instr.mnemonic = .suba ∨ instr.mnemonic = .cmpa →
        (emitAluAddressReg (β := β) instr).Succeeds) := by
  obtain ⟨hs, hd, -⟩ := validateAddressRegOp_shape h
  obtain ⟨rd, hrd⟩ := emitEaRead_isSome (β := β) instr.size hs
  constructor
  · rw [emitMoveaGeneric, if_neg (by simp [hs, hd]), hrd]
    exact ⟨_, rfl⟩
  · intro hmn
    unfold emitAluAddressReg
    dsimp only
    rw [if_neg (by rcases hmn with hm | hm | hm <;> simp [hs, hd, hm]), hrd]
    exact ⟨_, rfl⟩

theorem emitMoveUsp_supported (h : validateMoveUsp instr = true) :
    (emitMoveUsp (β := β) instr).Supported true := by
  simp only [validateMoveUsp, Bool.and_eq_true] at h
  obtain ⟨-, h⟩ := h
  have hmodes : instr.src.mode = .areg ∨ instr.dst.mode = .areg := by
    split_ifs at h with h1 h2
    · exact .inl (eaIsExactRegister_mode h1.1)
    · exact .inr (eaIsExactRegister_mode h2.1)
  unfold emitMoveUsp
  split_ifs with hs hd
  · exact fallsThrough_supported _
  · exact fallsThrough_supported _
  · exact absurd hmodes (not_or.mpr ⟨hs, hd⟩)

theorem emitMovep_succeeds (hm : instr.mnemonic = .movep) (h : validateMovep instr = true) :
    (emitMovep (β := β) instr).Succeeds := by
  simp only [validateMovep, Bool.and_eq_true] at h
  obtain ⟨-, h⟩ := h
  unfold emitMovep
  rw [if_neg (by simp [hm])]
  by_cases h1 : instr.src.mode = .dreg ∧ instr.dst.mode = .adisp
  · rw [if_pos h1]
    exact ⟨_, rfl⟩
  by_cases h2 : instr.src.mode = .adisp ∧ instr.dst.mode = .dreg
  · rw [if_neg h1, if_pos h2]
    exact ⟨_, rfl⟩
  · rw [if_neg h1, if_neg h2] at h
    cases h

/-- A validated MOVEM stores to `-(An)` or a control address, or loads from `(An)+` or one. -/
theorem validateMovem_shape (h : validateMovem instr = true) :
    (instr.dst.mode ≠ .none ∧ (instr.dst.mode = .apre ∨ eaIsControl instr.dst = true)) ∨
      (instr.dst.mode = .none ∧ instr.src.mode ≠ .none ∧
        (instr.src.mode = .apost ∨ eaIsControl instr.src = true)) := by
  simp only [validateMovem, Bool.and_eq_true] at h
  obtain ⟨-, h⟩ := h
  by_cases h1 : eaIsEmpty instr.src = true ∧ instr.dst.mode ≠ .none
  · rw [if_pos h1] at h
    refine .inl ⟨h1.2, ?_⟩
    split at h
    · rename_i hlen _
      unfold movemRegToMemExtLength at hlen
      unfold eaIsControl
      cases hm : instr.dst.mode <;> simp_all
    · simp at h
  by_cases h2 : eaIsEmpty instr.dst = true ∧ instr.src.mode ≠ .none
  · rw [if_neg h1, if_pos h2] at h
    have hdst : instr.dst.mode = .none := by
      have hempty := h2.1
      simp only [eaIsEmpty, Bool.and_eq_true, beq_iff_eq] at hempty
      exact hempty.1.1.1.1.1.1.1
    refine .inr ⟨hdst, h2.2, ?_⟩
    split at h
    · rename_i hlen _
      unfold movemMemToRegExtLength at hlen
      split at hlen
      · rename_i hpost
        exact .inl hpost
      · exact .inr (eaIsControl_of_extLength hlen)
    · simp at h
  · rw [if_neg h1, if_neg h2] at h
    cases h

theorem emitMovem_succeeds (h : validateMovem instr = true) :
    (emitMovem (β := β) instr).Succeeds := by
  unfold emitMovem
  dsimp only
  rcases validateMovem_shape h with ⟨hd, hmode⟩ | ⟨hd, hs, hmode⟩
  · rw [if_pos hd]
    split_ifs with hpre
    · exact ⟨_, rfl⟩
    · obtain ⟨e, he⟩ := emitEaAddressValue_isSome (hmode.resolve_left hpre)
      rw [he]
      exact ⟨_, rfl⟩
  · rw [if_neg (not_not.mpr hd), if_pos hs]
    split_ifs with hpost
    · exact ⟨_, rfl⟩
    · obtain ⟨e, he⟩ := emitEaAddressValue_isSome (hmode.resolve_left hpost)
      rw [he]
      exact ⟨_, rfl⟩

theorem validateMoveSrCcr_shape (h : validateMoveSrCcr instr = true) :
    eaIsDataAlterable instr.dst = true ∨ (instr.dst.mode = .none ∧ instr.src.mode ≠ .none) := by
  simp only [validateMoveSrCcr, Bool.and_eq_true] at h
  obtain ⟨-, h⟩ := h
  by_cases hd : instr.dst.mode = .none
  · rw [if_neg (not_not.mpr hd)] at h
    split at h
    · rename_i hlen _
      exact .inr ⟨hd, (dataSource_mode_ne_none hlen).1⟩
    · simp at h
  · rw [if_pos hd] at h
    split at h
    · rename_i hlen _
      exact .inl (eaIsDataAlterable_of_extLength hlen)
    · simp at h

theorem emitMoveSrCcr_succeeds (hm : instr.mnemonic = .moveSr ∨ instr.mnemonic = .moveCcr)
    (h : validateMoveSrCcr instr = true) : (emitMoveSrCcr (β := β) instr).Succeeds := by
  unfold emitMoveSrCcr
  rw [if_neg (by rcases hm with hm | hm <;> simp [hm])]
  dsimp only
  rcases validateMoveSrCcr_shape h with hd | ⟨hd, hs⟩
  · obtain ⟨wr, hwr⟩ := emitEaWrite_isSome (β := β) 2 hd
    rw [if_pos (mode_ne_none_of_dataAlterable hd), hwr]
    exact ⟨_, rfl⟩
  · obtain ⟨rd, hrd⟩ := emitEaRead_isSome (β := β) 2 hs
    rw [if_neg (not_not.mpr hd), if_pos hs, hrd]
    exact ⟨_, rfl⟩

/-- The operand of a one-operand or immediate instruction is data alterable; that is all its
emitter asks for. -/
theorem dstFamily_succeeds (h : eaIsDataAlterable instr.dst = true) :
    (emitClrGeneric (β := β) instr).Succeeds ∧ (emitUnaryRmwGeneric (β := β) instr).Succeeds ∧
      (emitArithImmGeneric (β := β) instr).Succeeds ∧ (emitCmpiGeneric (β := β) instr).Succeeds ∧
      (emitLogicalImmGeneric (β := β) instr).Succeeds := by
  have hne := mode_ne_none_of_dataAlterable h
  obtain ⟨wr, hwr⟩ := emitEaWrite_isSome (β := β) instr.size h
  obtain ⟨rd, hrd⟩ := emitEaRead_isSome (β := β) instr.size hne
  refine ⟨?_, ?_, ?_, ?_, ?_⟩
  · rw [emitClrGeneric, if_neg hne, hwr]
    exact ⟨_, rfl⟩
  · rw [emitUnaryRmwGeneric, if_neg hne]
    exact emitRmw_succeeds _ _ h
  · rw [emitArithImmGeneric, if_neg hne]
    exact emitRmw_succeeds _ _ h
  · rw [emitCmpiGeneric, if_neg hne, hrd]
    exact ⟨_, rfl⟩
  · rw [emitLogicalImmGeneric, if_neg hne]
    exact emitRmw_succeeds _ _ h

/-- The byte-sized operands of NBCD and TAS. -/
theorem byteUnary_succeeds (h : validateUnaryDataAlterable instr true = true) :
    (instr.mnemonic = .nbcd → (emitNbcdGeneric (β := β) instr).Succeeds) ∧
      (emitTasGeneric (β := β) instr).Succeeds := by
  have hd := validateUnaryDataAlterable_shape h
  have hne := mode_ne_none_of_dataAlterable hd
  have hsize : instr.size = 1 := by
    unfold validateUnaryDataAlterable at h
    split at h
    · simp_all
    · simp at h
  constructor
  · intro hm
    rw [emitNbcdGeneric, if_neg (by simp [hm, hne, hsize])]
    split_ifs with hr
    · exact ⟨_, rfl⟩
    · obtain ⟨ad, had⟩ := emitEaAddress_isSome (β := β) 1 (memoryAlterable_of_not_dreg hd hr)
      rw [had]
      exact ⟨_, rfl⟩
  · unfold emitTasGeneric
    rw [if_neg (by simp [hne, hsize])]
    split_ifs with hr
    · exact ⟨_, rfl⟩
    · obtain ⟨ad, had⟩ := emitEaAddress_isSome (β := β) 1 (memoryAlterable_of_not_dreg hd hr)
      rw [had]
      exact ⟨_, rfl⟩

/-- One of the first two routines ADD, SUB and CMP try succeeds. -/
theorem emitAlu_succeeds (hm : instr.mnemonic = .add ∨ instr.mnemonic = .sub ∨
    instr.mnemonic = .cmp) (hv : ngM68kValidate instr = true) :
    (emitAluDregToEa (β := β) instr).Succeeds ∨ (emitAluEaToDreg (β := β) instr).Succeeds := by
  have hshape : (instr.src.mode ≠ .none ∧ instr.dst.mode = .dreg) ∨
      (instr.mnemonic ≠ .cmp ∧ instr.src.mode = .dreg ∧ eaIsMemoryAlterable instr.dst = true) := by
    rcases hm with hm | hm | hm <;>
      simp only [ngM68kValidate, hm, Bool.and_eq_true, validateAddSubOrAnd] at hv
    · split_ifs at hv with hd
      · exact .inl ⟨(validateEaToDregBinary_shape hv.2).1, hd⟩
      · obtain ⟨hs, hd, -⟩ := validateDregToMemoryBinary_shape hv.2
        exact .inr ⟨by simp [hm], hs, hd⟩
    · split_ifs at hv with hd
      · exact .inl ⟨(validateEaToDregBinary_shape hv.2).1, hd⟩
      · obtain ⟨hs, hd, -⟩ := validateDregToMemoryBinary_shape hv.2
        exact .inr ⟨by simp [hm], hs, hd⟩
    · obtain ⟨hs, hd, -⟩ := validateEaToDregBinary_shape hv.2
      exact .inl ⟨hs, hd⟩
  rcases hshape with ⟨hs, hd⟩ | ⟨hc, hs, hd⟩
  · right
    obtain ⟨rd, hrd⟩ := emitEaRead_isSome (β := β) instr.size hs
    rw [emitAluEaToDreg, if_neg (by simp [hs, hd]), hrd]
    dsimp only
    rcases hm with hm | hm | hm <;> simp only [hm, reduceCtorEq, if_true, if_false] <;>
      exact ⟨_, rfl⟩
  · left
    obtain ⟨rd, hrd⟩ := @emitEaRead_isSome β _ instr.src instr.size (by simp [hs])
    obtain ⟨ad, had⟩ := emitEaAddress_isSome (β := β) instr.size hd
    have hmem : instr.dst.mode ≠ .none ∧ instr.dst.mode ≠ .dreg ∧ instr.dst.mode ≠ .areg := by
      refine ⟨?_, ?_, ?_⟩ <;> intro h <;> simp [eaIsMemoryAlterable, h] at hd
    rw [emitAluDregToEa, if_neg, hrd, had]
    · exact ⟨_, rfl⟩
    · rcases hm with hm | hm | hm
      · simp [hm, hs, hmem]
      · simp [hm, hs, hmem]
      · exact absurd hm hc

theorem emitAlu_supported (hm : instr.mnemonic = .add ∨ instr.mnemonic = .sub ∨
    instr.mnemonic = .cmp) (hv : ngM68kValidate instr = true) :
    (emitAlu (β := β) instr).Supported true := by
  refine orUnsupported_supported ?_
  rcases emitAlu_succeeds (β := β) hm hv with h | h
  · exact h.orElse_left _
  · exact .orElse_right _ (h.orElse_left _)

theorem emitLogicBinary_succeeds (hm : instr.mnemonic = .or ∨ instr.mnemonic = .and ∨
    instr.mnemonic = .eor) (hs : instr.src.mode ≠ .none) (hd : eaIsDataAlterable instr.dst = true) :
    (emitLogicBinaryGeneric (β := β) instr).Succeeds := by
  have hne := mode_ne_none_of_dataAlterable hd
  obtain ⟨rd, hrd⟩ := emitEaRead_isSome (β := β) instr.size hs
  obtain ⟨text, htext⟩ := emitRmw_succeeds (β := β) instr.size (fun _ _ => pure ()) hd
  rw [emitLogicBinaryGeneric, if_neg (by rcases hm with hm | hm | hm <;> simp [hm, hs, hne]), hrd]
  dsimp only
  rw [htext]
  exact ⟨_, rfl⟩

theorem logicBinary_shape (hm : instr.mnemonic = .or ∨ instr.mnemonic = .and ∨
    instr.mnemonic = .eor) (hv : ngM68kValidate instr = true) :
    instr.src.mode ≠ .none ∧ eaIsDataAlterable instr.dst = true := by
  have hmem : instr.mnemonic ≠ .eor → validateAddSubOrAnd instr = true →
      instr.src.mode ≠ .none ∧ eaIsDataAlterable instr.dst = true := by
    intro _ h
    unfold validateAddSubOrAnd at h
    split_ifs at h with hd
    · exact ⟨(validateEaToDregBinary_shape h).1, by simp [eaIsDataAlterable, hd]⟩
    · obtain ⟨hs, hmem, -⟩ := validateDregToMemoryBinary_shape h
      exact ⟨by simp [hs], by simp [eaIsDataAlterable, hmem]⟩
  rcases hm with hm | hm | hm <;> simp only [ngM68kValidate, hm, Bool.and_eq_true] at hv
  · exact hmem (by simp [hm]) hv.2
  · exact hmem (by simp [hm]) hv.2
  · rw [validateDregToDataAlterableBinary, Bool.and_eq_true] at hv
    obtain ⟨hsome, hs, -⟩ := validateDregToEa_shape hv.2.2
    obtain ⟨n, hn⟩ := Option.isSome_iff_exists.mp hsome
    exact ⟨by simp [hs], eaIsDataAlterable_of_extLength hn⟩

/-- CHK and the multiplications and divisions read a word and have a data register. -/
theorem wordDataToDreg_succeeds (h : validateWordDataToDreg instr = true) :
    (instr.mnemonic = .chk → (emitChk (β := β) instr).Succeeds) ∧
      (instr.mnemonic = .mulu ∨ instr.mnemonic = .muls → (emitMultiply (β := β) instr).Succeeds) ∧
      (instr.mnemonic = .divu ∨ instr.mnemonic = .divs → (emitDivide (β := β) instr).Succeeds) := by
  have hshape : instr.src.mode ≠ .none ∧ instr.dst.mode = .dreg ∧ instr.size = 2 := by
    unfold validateWordDataToDreg at h
    split at h
    · rename_i hlen _ _
      simp only [Bool.and_eq_true, beq_iff_eq] at h
      exact ⟨(dataSource_mode_ne_none hlen).1, eaIsExactRegister_mode h.1.1.1.2,
        h.1.1.1.1.1.1.1.1.1⟩
    · simp at h
  obtain ⟨hs, hd, hsize⟩ := hshape
  obtain ⟨rd, hrd⟩ := emitEaRead_isSome (β := β) 2 hs
  refine ⟨fun hm => ?_, fun hm => ?_, fun hm => ?_⟩
  · rw [emitChk, if_neg (by simp [hm, hs, hd, hsize]), hrd]
    exact ⟨_, rfl⟩
  · unfold emitMultiply
    dsimp only
    rw [if_neg (by rcases hm with hm | hm <;> simp [hm, hs, hd]), hrd]
    exact ⟨_, rfl⟩
  · unfold emitDivide
    dsimp only
    rw [if_neg (by rcases hm with hm | hm <;> simp [hm, hs, hd]), hrd]
    exact ⟨_, rfl⟩

theorem shiftIsKnown_of_kind {kd : BitVec 16 × BitVec 16}
    (h : shiftKind instr.mnemonic = some kd) : shiftIsKnown instr.mnemonic = true := by
  cases hm : instr.mnemonic <;> rw [hm] at h <;> first | rfl | cases h

theorem shiftRotate_succeeds (h : validateShiftRotate instr = true) :
    ((emitShiftRotateMemory (β := β) instr).orElse (emitShiftRotateDreg instr)).Succeeds := by
  unfold validateShiftRotate at h
  split at h
  · rename_i hkind
    have hknown := shiftIsKnown_of_kind hkind
    split_ifs at h with hd
    · refine .orElse_right _ ?_
      unfold emitShiftRotateDreg
      dsimp only
      rw [if_neg (not_not.mpr hd), hknown, Bool.not_true, if_neg Bool.false_ne_true]
      exact ⟨_, rfl⟩
    · split at h
      · rename_i hlen _
        have hmem := eaIsMemoryAlterable_of_extLength hlen
        simp only [Bool.and_eq_true, beq_iff_eq] at h
        have hsize : instr.size = 2 := h.1.1.1.1.1.1.1.1.2
        have hmode : instr.dst.mode ≠ .none ∧ instr.dst.mode ≠ .areg := by
          constructor <;> intro hm <;> simp [eaIsMemoryAlterable, hm] at hmem
        obtain ⟨ad, had⟩ := emitEaAddress_isSome (β := β) 2 hmem
        refine .orElse_left ?_ _
        unfold emitShiftRotateMemory
        dsimp only
        rw [if_neg (by simp [hmode, hd, hsize]), hknown, Bool.not_true, if_neg Bool.false_ne_true,
          had]
        exact ⟨_, rfl⟩
      · simp at h
  · simp at h

/-- Both register-pair emitters, on a checked pair. -/
theorem extendPair_succeeds (h : validExtendPair instr = true) :
    (instr.mnemonic = .addx ∨ instr.mnemonic = .subx → (emitAddsubx (β := β) instr).Succeeds) ∧
      (instr.mnemonic = .abcd ∨ instr.mnemonic = .sbcd →
        (emitAbcdSbcd (β := β) instr).Succeeds) := by
  constructor
  · intro hm
    unfold emitAddsubx
    dsimp only
    rw [if_neg (by rcases hm with hm | hm <;> simp [hm])]
    rcases validExtendPair_shape h with hp | hp
    · rw [if_pos hp]
      exact ⟨_, rfl⟩
    · rw [if_neg (by simp [hp]), if_pos hp]
      exact ⟨_, rfl⟩
  · intro hm
    unfold emitAbcdSbcd
    dsimp only
    rw [if_neg (by rcases hm with hm | hm <;> simp [hm])]
    rcases validExtendPair_shape h with hp | hp
    · rw [if_pos hp]
      exact ⟨_, rfl⟩
    · rw [if_neg (by simp [hp]), if_pos hp]
      exact ⟨_, rfl⟩

theorem emitQuick_succeeds (h : validateQuickOp instr = true) :
    (emitQuickGeneric (β := β) instr).Succeeds := by
  unfold emitQuickGeneric
  rcases validateQuickOp_shape h with ha | hd
  · rw [if_neg (by simp [ha]), if_pos ha]
    dsimp only
    split_ifs <;> exact ⟨_, rfl⟩
  · rw [if_neg (mode_ne_none_of_dataAlterable hd), if_neg]
    · exact emitRmw_succeeds _ _ hd
    · intro ha
      simp [eaIsDataAlterable, eaIsMemoryAlterable, ha] at hd

theorem emitBit_succeeds (h : instr.mnemonic = .btst ∧ instr.dst.mode ≠ .none ∨
    eaIsDataAlterable instr.dst = true) : (emitBitImmGeneric (β := β) instr).Succeeds := by
  have hne : instr.dst.mode ≠ .none := h.elim And.right mode_ne_none_of_dataAlterable
  unfold emitBitImmGeneric
  rw [if_neg hne]
  split_ifs with hd hb
  · exact ⟨_, rfl⟩
  · obtain ⟨rd, hrd⟩ := emitEaRead_isSome (β := β) 1 hne
    rw [hrd]
    exact ⟨_, rfl⟩
  · have halt := h.resolve_left fun hbt => hb hbt.1
    obtain ⟨ad, had⟩ := emitEaAddress_isSome (β := β) 1 (memoryAlterable_of_not_dreg halt hd)
    rw [had]
    exact ⟨_, rfl⟩

theorem emitTst_supported (h : validateTst instr = true) :
    (emitTst (β := β) instr).Supported true := by
  unfold validateTst at h
  split at h
  · rename_i hlen _ _
    have hs := (dataSource_mode_ne_none hlen).1
    unfold emitTst
    cases tstShortcut (β := β) instr with
    | some text => exact fallsThrough_supported text
    | none =>
      obtain ⟨rd, hrd⟩ := emitEaRead_isSome (β := β) instr.size hs
      refine orUnsupported_supported ?_
      rw [emitTstGeneric, if_neg hs, hrd]
      exact ⟨_, rfl⟩
  · simp at h

/-- Every condition from 2 to 15 has an expression. -/
theorem ngConditionExpr_isSome {c : BitVec 8} (h0 : c ≠ 0) (h1 : c ≠ 1) (h : c ≤ 15) :
    ∃ expr, ngConditionExpr c = some expr := by
  have hle : c.toNat ≤ 15 := h
  have hcast : c = BitVec.ofNat 8 c.toNat := by simp
  rw [hcast] at h0 h1 ⊢
  interval_cases c.toNat
  · exact absurd rfl h0
  · exact absurd rfl h1
  all_goals exact ⟨_, rfl⟩

theorem emitBcc_supported (hm : instr.mnemonic = .bcc) (h : validateBranch instr = true) :
    (emitBcc (β := β) instr).Supported true := by
  simp only [validateBranch, hm, Bool.and_eq_true, decide_eq_true_iff] at h
  obtain ⟨-, ⟨-, hlo⟩, hhi⟩ := h
  have h0 : instr.condition ≠ 0 := by rintro h; rw [h] at hlo; exact absurd hlo (by decide)
  have h1 : instr.condition ≠ 1 := by rintro h; rw [h] at hlo; exact absurd hlo (by decide)
  obtain ⟨expr, hexpr⟩ := ngConditionExpr_isSome h0 h1 hhi
  refine ⟨rfl, ?_⟩
  rw [emitBcc, emitBranchCondition]
  simp only [h0, h1, if_false, hexpr]

theorem emitBra_supported (hm : instr.mnemonic = .bra) (h : validateBranch instr = true) :
    (emitBra (β := β) instr).Supported false := by
  simp only [validateBranch, hm, Bool.and_eq_true, beq_iff_eq] at h
  rw [emitBra, emitBranchCondition]
  simp only [h.2.2, if_true]
  exact leaves_supported _

theorem emitDbcc_supported (h : validateDbcc instr = true) :
    (emitDbcc (β := β) instr).Supported true := by
  simp only [validateDbcc, Bool.and_eq_true, decide_eq_true_iff] at h
  have hle : instr.condition ≤ 15 := h.1.1.1.1.1.1.1.1.2
  unfold emitDbcc
  split_ifs with h0 h1
  · exact fallsThrough_supported _
  · exact fallsThrough_supported _
  · obtain ⟨expr, hexpr⟩ := ngConditionExpr_isSome h0 h1 hle
    rw [hexpr]
    exact fallsThrough_supported _

theorem emitScc_supported (h : validateScc instr = true) :
    (emitScc (β := β) instr).Supported true := by
  unfold validateScc at h
  split at h
  · rename_i hlen _
    simp only [Bool.and_eq_true, decide_eq_true_iff] at h
    have hle : instr.condition ≤ 15 := h.1.1.1.1.1.1.1.1.2
    obtain ⟨wr, hwr⟩ := emitEaWrite_isSome (β := β) 1 (eaIsDataAlterable_of_extLength hlen)
    unfold emitScc
    simp only [hwr]
    split_ifs with h0 h1
    · exact fallsThrough_supported _
    · exact fallsThrough_supported _
    · obtain ⟨expr, hexpr⟩ := ngConditionExpr_isSome h0 h1 hle
      rw [hexpr]
      exact fallsThrough_supported _
  · simp at h

/-! ## All mnemonics -/

theorem emitInstr_supported (hv : ngM68kValidate instr = true) :
    (emitInstr (β := β) instr).Supported (!endsBody instr.mnemonic) := by
  have hv' := hv
  rw [ngM68kValidate, Bool.and_eq_true] at hv'
  obtain ⟨-, h⟩ := hv'
  cases hm : instr.mnemonic <;> simp only [hm] at h <;>
    simp only [emitInstr, hm, endsBody, Bool.not_true, Bool.not_false]
  case invalid | unknown => cases h
  case nop | reset | trapv | link | unlk | moveq | swap => exact fallsThrough_supported _
  case stop | illegal | trap | rte | rtr | rts | bsr => exact leaves_supported _
  case lea => exact emitLea_supported h
  case pea => exact emitPea_supported h
  case move => exact emitMove_supported h
  case movea => exact orUnsupported_supported (emitAddressRegOp_supported h).1
  case adda | suba | cmpa =>
    exact orUnsupported_supported ((emitAddressRegOp_supported h).2 (by simp [hm]))
  case movem => exact orUnsupported_supported (emitMovem_succeeds h)
  case movep => exact orUnsupported_supported (emitMovep_succeeds hm h)
  case moveSr | moveCcr =>
    exact orUnsupported_supported (emitMoveSrCcr_succeeds (by simp [hm]) h)
  case moveUsp => exact emitMoveUsp_supported h
  case exg => exact orUnsupported_supported (emitExchange_succeeds hm h)
  case add | sub | cmp => exact emitAlu_supported (by simp [hm]) hv
  case or | and | eor =>
    obtain ⟨hs, hd⟩ := logicBinary_shape (by simp [hm]) hv
    exact orUnsupported_supported (emitLogicBinary_succeeds (by simp [hm]) hs hd)
  case chk => exact orUnsupported_supported ((wordDataToDreg_succeeds h).1 hm)
  case mulu | muls => exact orUnsupported_supported ((wordDataToDreg_succeeds h).2.1 (by simp [hm]))
  case divu | divs => exact orUnsupported_supported ((wordDataToDreg_succeeds h).2.2 (by simp [hm]))
  case asl | asr | lsl | lsr | roxl | roxr | rol | ror =>
    exact orUnsupported_supported (shiftRotate_succeeds h)
  case addx | subx =>
    rw [Bool.and_eq_true] at h
    exact orUnsupported_supported ((extendPair_succeeds h.2).1 (by simp [hm]))
  case abcd | sbcd =>
    rw [Bool.and_eq_true] at h
    exact orUnsupported_supported ((extendPair_succeeds h.2).2 (by simp [hm]))
  case addq | subq => exact orUnsupported_supported (emitQuick_succeeds h)
  case clr =>
    unfold emitClr
    cases clrShortcut (β := β) instr with
    | some text => exact fallsThrough_supported text
    | none =>
      exact orUnsupported_supported (dstFamily_succeeds (validateUnaryDataAlterable_shape h)).1
  case neg | negx | not =>
    exact orUnsupported_supported (dstFamily_succeeds (validateUnaryDataAlterable_shape h)).2.1
  case nbcd => exact orUnsupported_supported ((byteUnary_succeeds h).1 hm)
  case tas => exact orUnsupported_supported (byteUnary_succeeds h).2
  case ext => exact emitExt_supported hm h
  case tst => exact emitTst_supported h
  case addi | subi =>
    exact orUnsupported_supported (dstFamily_succeeds (validateImmediateToEa_shape h)).2.2.1
  case cmpi =>
    exact orUnsupported_supported (dstFamily_succeeds (validateImmediateWithBase_shape h)).2.2.2.1
  case ori | andi | eori =>
    unfold emitLogicalImm
    cases andiShortcut (β := β) instr with
    | some text => exact fallsThrough_supported text
    | none =>
      exact orUnsupported_supported (dstFamily_succeeds (validateImmediateToEa_shape h)).2.2.2.2
  case cmpm =>
    obtain ⟨hs, hd⟩ := validateCmpm_shape h
    refine orUnsupported_supported ?_
    rw [emitCmpm, if_neg (by simp [hm, hs, hd])]
    exact ⟨_, rfl⟩
  case btst =>
    refine orUnsupported_supported (emitBit_succeeds (.inl ⟨hm, ?_⟩))
    intro hn
    rw [validateBtst, exactBitDataExtLength, hn] at h
    cases h
  case bchg | bclr | bset =>
    refine orUnsupported_supported (emitBit_succeeds (.inr ?_))
    unfold validateAlteringBitOp at h
    split at h
    · rename_i hlen
      exact eaIsDataAlterable_of_extLength hlen
    · cases h
  case oriToCcr | oriToSr | andiToCcr | andiToSr | eoriToCcr | eoriToSr =>
    refine orUnsupported_supported ?_
    simp only [emitImmediateToSrCcr, hm]
    exact ⟨_, rfl⟩
  case bra => exact emitBra_supported hm h
  case bcc => exact emitBcc_supported hm h
  case scc => exact emitScc_supported h
  case dbcc => exact emitDbcc_supported h
  case jsr =>
    unfold emitJsr
    split <;> exact leaves_supported _
  case jmp =>
    unfold emitJmp
    split <;> exact leaves_supported _

end Abi

end NeoRecomp
