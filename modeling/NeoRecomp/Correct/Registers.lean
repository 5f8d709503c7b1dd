import NeoRecomp.Correct.Emitted
import NeoRecomp.Emit.Writes

/-!
# What a validated instruction does to the registers

Validated records keep their legacy register field in step with the destination operand, so the
code of every validated instruction changes no register outside `instrWrites`.
-/

namespace NeoRecomp

open Gen

/-! ## Legacy register fields -/

section Legacy
variable {instr : NgM68kInstr}

theorem validateLea_dst (h : validateLea instr = true) :
    instr.dst.mode = .areg ∧ instr.reg = instr.dst.reg := by
  unfold validateLea at h
  split at h
  · simp only [Bool.and_eq_true, beq_iff_eq] at h
    exact ⟨h.1.1.1.1.1.1.1.1.2, h.1.1.1.1.1.1.2⟩
  · simp at h

theorem validateMoveq_dst (h : validateMoveq instr = true) :
    instr.dst.mode = .dreg ∧ instr.reg = instr.dst.reg := by
  simp only [validateMoveq, Bool.and_eq_true, beq_iff_eq] at h
  exact ⟨eaIsExactRegister_mode h.1.1.2, h.1.2⟩

theorem validateExtSwap_dst (h : validateExtSwap instr = true) :
    instr.dst.mode = .dreg ∧ instr.reg = instr.dst.reg := by
  simp only [validateExtSwap, Bool.and_eq_true, beq_iff_eq] at h
  exact ⟨eaIsExactRegister_mode h.1.1.2, h.1.2⟩

/-- The forms whose shortcut loads a data register go with a data-register destination. -/
theorem validateMove_dst (h : validateMove instr = true)
    (hf : instr.form = .absToDreg ∨ instr.form = .aregDisp ∨ instr.form = .immToDreg) :
    instr.dst.mode = .dreg ∧ instr.reg = instr.dst.reg := by
  unfold validateMove at h
  split at h
  · simp only [Bool.and_eq_true] at h
    have hl := h.1.1.2
    unfold validateMoveLegacyFields moveLegacyFields at hl
    dsimp only at hl
    split_ifs at hl with h1 h2 h3 h4 h5 h6 h7 <;>
      simp only [Bool.and_eq_true, beq_iff_eq] at hl <;>
      first
        | exact ⟨h4.2, hl.1.1.1.1.2⟩
        | exact ⟨h5.2, hl.1.1.1.1.2⟩
        | exact ⟨h6.2, hl.1.1.1.1.2⟩
        | rw [hl.1.1.1.1.1] at hf; simp at hf
  · simp at h

theorem validateDstLegacyFields_dreg {form : NgM68kOperandForm} (hne : form ≠ .aregDisp)
    (hne' : form ≠ .abs) (hne'' : form ≠ .none) (h : validateDstLegacyFields form instr = true)
    (hf : instr.form = form) : instr.dst.mode = .dreg ∧ instr.reg = instr.dst.reg := by
  unfold validateDstLegacyFields at h
  split at h <;> simp only [Bool.and_eq_true, beq_iff_eq] at h
  · exact ⟨‹_›, h.1.1.2⟩
  all_goals rw [h.1.1.1] at hf; subst hf; contradiction

theorem validateClr_dst (h : validateUnaryDataAlterable instr false = true)
    (hf : instr.form = .dreg) : instr.dst.mode = .dreg ∧ instr.reg = instr.dst.reg := by
  unfold validateUnaryDataAlterable at h
  split at h
  · simp only [Bool.and_eq_true] at h
    exact validateDstLegacyFields_dreg (by decide) (by decide) (by decide) h.2 hf
  · simp at h

end Legacy

/-! ## Instructions -/

section Abi
variable {β : Type} [GeneratedAbi β] {w : Set Reg} (instr : NgM68kInstr)

theorem emitAlu_writesOnly [StepsIn w instr.src] [StepsIn w instr.dst]
    (hn : instr.mnemonic ≠ .cmp → NamesIn w instr.dst)
    (h : (emitAluDregToEa (β := β) instr).Succeeds ∨ (emitAluEaToDreg (β := β) instr).Succeeds) :
    WritesOnly w (emitAlu (β := β) instr).text := by
  have hmem := emitAluDregToEa_writesOnly (β := β) (w := w) instr
  have hreg := emitAluEaToDreg_writesOnly (β := β) (w := w) instr hn
  -- A routine that succeeds hides the ones after it.
  unfold emitAlu
  rcases h with ⟨text, h⟩ | ⟨text, h⟩
  · have := hmem.emitted text h
    rw [h]
    exact orUnsupported_writesOnly instr (.emitted text)
  · have := hreg.emitted text h
    rw [h]
    exact orUnsupported_writesOnly instr ((emitAluDregToEa instr).orElse (.emitted text))

theorem moveShortcut_writesOnly [NamesIn w instr.dst] (h : validateMove instr = true)
    {text : Gen β Unit} (hs : moveShortcut instr = some text) : WritesOnly w text := by
  have hreg (hf : instr.form = .absToDreg ∨ instr.form = .aregDisp ∨ instr.form = .immToDreg) :
      Fact (.d (regIndex instr.reg) ∈ w) := by
    obtain ⟨hd, hr⟩ := validateMove_dst h hf
    rw [hr]
    exact fact_dreg hd
  unfold moveShortcut at hs
  split_ifs at hs with h1 h2 h3 h4 h5 h6 <;> cases hs
  · infer_instance
  · infer_instance
  · have := hreg (.inl h3); infer_instance
  · have := hreg (.inr (.inl h4.1)); infer_instance
  · infer_instance
  · have := hreg (.inr (.inr h6)); infer_instance

theorem emitMove_writesOnly [StepsIn w instr.src] [StepsIn w instr.dst] [NamesIn w instr.dst]
    (h : validateMove instr = true) : WritesOnly w (emitMove (β := β) instr).text := by
  unfold emitMove
  split
  · next hs => exact moveShortcut_writesOnly instr h hs
  · exact @orUnsupported_writesOnly _ _ _ _ (emitMoveGeneric_writesOnly instr)

theorem emitClr_writesOnly [StepsIn w instr.dst] [NamesIn w instr.dst]
    (h : validateUnaryDataAlterable instr false = true) :
    WritesOnly w (emitClr (β := β) instr).text := by
  unfold emitClr
  split
  · next text hs =>
    change WritesOnly w text
    unfold clrShortcut at hs
    dsimp only at hs
    split_ifs at hs with _ hf <;> cases hs
    · infer_instance
    · obtain ⟨hd, hr⟩ := validateClr_dst h hf
      have := fact_dreg (w := w) hd
      rw [hr]
      infer_instance
  · exact @orUnsupported_writesOnly _ _ _ _ (emitClrGeneric_writesOnly instr)

theorem emitTst_writesOnly [StepsIn w instr.src] : WritesOnly w (emitTst (β := β) instr).text := by
  unfold emitTst
  split
  · next text hs =>
    change WritesOnly w text
    unfold tstShortcut at hs
    split_ifs at hs <;> cases hs <;> infer_instance
  · exact @orUnsupported_writesOnly _ _ _ _ (emitTstGeneric_writesOnly instr)

theorem emitLogicalImm_writesOnly [StepsIn w instr.dst] [NamesIn w instr.dst] :
    WritesOnly w (emitLogicalImm (β := β) instr).text := by
  unfold emitLogicalImm
  split
  · next text hs =>
    change WritesOnly w text
    unfold andiShortcut at hs
    dsimp only at hs
    split_ifs at hs
    cases hs
    infer_instance
  · exact @orUnsupported_writesOnly _ _ _ _ (emitLogicalImmGeneric_writesOnly instr)

omit [GeneratedAbi β] in
theorem emitLea_writesOnly [NamesIn w instr.dst] (h : validateLea instr = true) :
    WritesOnly w (emitLea (β := β) instr).text := by
  obtain ⟨hd, hr⟩ := validateLea_dst h
  have := fact_areg (w := w) hd
  unfold emitLea
  dsimp only
  rw [hr]
  split_ifs
  · split
    · infer_instance
    · infer_instance
  · infer_instance

omit [GeneratedAbi β] in
theorem emitExt_writesOnly [NamesIn w instr.dst] (h : validateExtSwap instr = true) :
    WritesOnly w (emitExt (β := β) instr).text := by
  obtain ⟨hd, hr⟩ := validateExtSwap_dst h
  have := fact_dreg (w := w) hd
  unfold emitExt
  dsimp only
  rw [hr]
  split_ifs <;> infer_instance

theorem emitMoveUsp_writesOnly [NamesIn w instr.dst] :
    WritesOnly w (emitMoveUsp (β := β) instr).text := by
  unfold emitMoveUsp
  split_ifs with _ hd
  · infer_instance
  · have := fact_areg (w := w) hd; infer_instance
  · infer_instance

/-! ## Control flow and stack frames -/

theorem linkText_writesOnly [Fact (.a (regIndex instr.reg) ∈ w)] [Fact (.a 7 ∈ w)] :
    WritesOnly w (linkText instr : Gen β Unit) := by
  unfold linkText; dsimp only; infer_instance

theorem unlkText_writesOnly [Fact (.a (regIndex instr.reg) ∈ w)] [Fact (.a 7 ∈ w)] :
    WritesOnly w (unlkText instr : Gen β Unit) := by
  unfold unlkText; dsimp only; infer_instance

theorem emitPea_writesOnly [Fact (.a 7 ∈ w)] : WritesOnly w (emitPea (β := β) instr).text := by
  unfold emitPea
  split <;> infer_instance

theorem emitBcc_writesOnly : WritesOnly w (emitBcc (β := β) instr).text := by
  unfold emitBcc emitBranchCondition
  dsimp only
  split_ifs
  · infer_instance
  · infer_instance
  · split <;> infer_instance

theorem emitBra_neverNext (h : instr.condition = 0) : NeverNext (emitBra (β := β) instr).text := by
  unfold emitBra emitBranchCondition
  rw [if_pos h]
  dsimp only
  infer_instance

theorem emitDbcc_writesOnly [Fact (.d (regIndex instr.reg) ∈ w)] :
    WritesOnly w (emitDbcc (β := β) instr).text := by
  have hs : WritesOnly w (dbccStatements instr : Gen β Unit) := by
    unfold dbccStatements; dsimp only; infer_instance
  unfold emitDbcc
  split_ifs
  · infer_instance
  · infer_instance
  · split <;> infer_instance

theorem trapvText_writesOnly : WritesOnly w (trapvText instr : Gen β Unit) := by
  unfold trapvText; infer_instance

instance : NeverNext (stopText instr : Gen β Unit) := by
  unfold stopText
  refine @neverNext_bind _ _ _ _ _ fun _ => ?_
  refine @neverNext_bind _ _ _ _ _ fun _ => ?_
  infer_instance

instance : NeverNext (rtsText : Gen β Unit) := by unfold rtsText; infer_instance

instance : NeverNext (rtrText : Gen β Unit) := by unfold rtrText; infer_instance

instance : NeverNext (rteText instr : Gen β Unit) := by
  unfold rteText
  refine @neverNext_bind _ _ _ _ _ fun _ => ?_
  infer_instance

instance : NeverNext (callText instr : Gen β Unit) := by unfold callText; infer_instance

instance : NeverNext (emitJsr (β := β) instr).text := by
  unfold emitJsr
  split <;> infer_instance

instance : NeverNext (emitJmp (β := β) instr).text := by
  unfold emitJmp
  split <;> infer_instance

theorem emitInstr_writesOnly (hv : ngM68kValidate instr = true) :
    WritesOnly {r | instrWrites instr r = true} (emitInstr (β := β) instr).text := by
  have hv' := hv
  rw [ngM68kValidate, Bool.and_eq_true] at hv'
  obtain ⟨-, h⟩ := hv'
  -- What the set holds besides the stepped operands.
  have names (hs : storesDst instr.mnemonic = true) := instrWrites_names instr hs
  have implicit {r : Reg} (hr : implicitWrites instr r = true) :
      Fact (r ∈ {r | instrWrites instr r = true}) := ⟨instrWrites_implicit instr hr⟩
  cases hm : instr.mnemonic <;> simp only [hm] at h <;> simp only [emitInstr, hm]
  case invalid | unknown => cases h
  case lea => have := names (by rw [hm]; rfl); exact emitLea_writesOnly instr h
  case move => have := names (by rw [hm]; rfl); exact emitMove_writesOnly instr h
  case clr => have := names (by rw [hm]; rfl); exact emitClr_writesOnly instr h
  case ext => have := names (by rw [hm]; rfl); exact emitExt_writesOnly instr h
  case moveUsp => have := names (by rw [hm]; rfl); exact emitMoveUsp_writesOnly instr
  case scc => have := names (by rw [hm]; rfl); exact emitScc_writesOnly instr
  case ori | andi | eori => have := names (by rw [hm]; rfl); exact emitLogicalImm_writesOnly instr
  case tst => exact emitTst_writesOnly instr
  case add | sub =>
    have := names (by rw [hm]; rfl)
    exact emitAlu_writesOnly instr (fun _ => this) (emitAlu_succeeds (by simp [hm]) hv)
  case cmp =>
    exact emitAlu_writesOnly instr (fun hc => absurd hm hc) (emitAlu_succeeds (by simp [hm]) hv)
  case adda | suba =>
    have := names (by rw [hm]; rfl)
    exact @orUnsupported_writesOnly _ _ _ _ (emitAluAddressReg_writesOnly instr fun _ => this)
  case cmpa =>
    exact @orUnsupported_writesOnly _ _ _ _
      (emitAluAddressReg_writesOnly instr fun hc => absurd hm hc)
  case movea =>
    have := names (by rw [hm]; rfl)
    exact @orUnsupported_writesOnly _ _ _ _ (emitMoveaGeneric_writesOnly instr)
  case moveq =>
    obtain ⟨hd, hr⟩ := validateMoveq_dst h
    have := names (by rw [hm]; rfl)
    have := fact_dreg (w := {r | instrWrites instr r = true}) hd
    unfold moveqText
    rw [hr]
    infer_instance
  case swap =>
    obtain ⟨hd, hr⟩ := validateExtSwap_dst h
    have := names (by rw [hm]; rfl)
    have := fact_dreg (w := {r | instrWrites instr r = true}) hd
    unfold swapText
    dsimp only
    rw [hr]
    infer_instance
  case movem =>
    refine @orUnsupported_writesOnly _ _ _ _ (emitMovem_writesOnly instr fun hd i hi => ?_)
    apply instrWrites_implicit
    simp only [implicitWrites, hm, hd, decide_true, Bool.true_and, List.any_eq_true]
    exact ⟨i, hi, decide_eq_true rfl⟩
  case movep =>
    have := names (by rw [hm]; rfl)
    exact @orUnsupported_writesOnly _ _ _ _ (emitMovep_writesOnly instr)
  case moveSr | moveCcr =>
    have := names (by rw [hm]; rfl)
    refine @orUnsupported_writesOnly _ _ _ _
      (emitMoveSrCcr_writesOnly instr this fun hsr hd => ?_)
    by_cases hi : instr.src.mode = .imm ∧ srHas (instr.src.immediate.setWidth 16) ngSrS = true
    · exact .inl hi
    · refine .inr (instrWrites_implicit instr ?_)
      rcases not_and_or.mp hi with hi | hi <;>
        simp [implicitWrites, mayLeaveSupervisor, hsr, hd, hi]
  case oriToCcr | oriToSr | andiToCcr | andiToSr | eoriToCcr | eoriToSr =>
    refine @orUnsupported_writesOnly _ _ _ _ (emitImmediateToSrCcr_writesOnly instr
      (fun hsr => ?_) fun hsr => ?_)
    · cases hi : srHas (instr.immediate.setWidth 16) ngSrS with
      | true => exact .inl rfl
      | false =>
        refine .inr (instrWrites_implicit instr ?_)
        simp [implicitWrites, mayLeaveSupervisor, hsr, hi]
    · cases hi : srHas (instr.immediate.setWidth 16) ngSrS with
      | false => exact .inl rfl
      | true =>
        refine .inr (instrWrites_implicit instr ?_)
        simp [implicitWrites, mayLeaveSupervisor, hsr, hi]
  case exg =>
    have := names (by rw [hm]; rfl)
    have : NamesIn {r | instrWrites instr r = true} instr.src :=
      ⟨fun r hr => instrWrites_implicit instr (by simpa [implicitWrites, hm] using hr)⟩
    exact @orUnsupported_writesOnly _ _ _ _ (emitExchange_writesOnly instr)
  case or | and | eor =>
    have := names (by rw [hm]; rfl)
    exact @orUnsupported_writesOnly _ _ _ _ (emitLogicBinaryGeneric_writesOnly instr)
  case mulu | muls =>
    have := names (by rw [hm]; rfl)
    exact @orUnsupported_writesOnly _ _ _ _ (emitMultiply_writesOnly instr)
  case divu | divs =>
    have := names (by rw [hm]; rfl)
    exact @orUnsupported_writesOnly _ _ _ _ (emitDivide_writesOnly instr)
  case asl | asr | lsl | lsr | roxl | roxr | rol | ror =>
    have := names (by rw [hm]; rfl)
    have := emitShiftRotateMemory_writesOnly (β := β) (w := {r | instrWrites instr r = true}) instr
    have := emitShiftRotateDreg_writesOnly (β := β) (w := {r | instrWrites instr r = true}) instr
    exact orUnsupported_writesOnly _ _
  case addx | subx =>
    have := names (by rw [hm]; rfl)
    exact @orUnsupported_writesOnly _ _ _ _ (emitAddsubx_writesOnly instr)
  case abcd | sbcd =>
    have := names (by rw [hm]; rfl)
    exact @orUnsupported_writesOnly _ _ _ _ (emitAbcdSbcd_writesOnly instr)
  case addq | subq =>
    have := names (by rw [hm]; rfl)
    exact @orUnsupported_writesOnly _ _ _ _ (emitQuickGeneric_writesOnly instr)
  case neg | negx | not =>
    have := names (by rw [hm]; rfl)
    exact @orUnsupported_writesOnly _ _ _ _ (emitUnaryRmwGeneric_writesOnly instr)
  case nbcd =>
    have := names (by rw [hm]; rfl)
    exact @orUnsupported_writesOnly _ _ _ _ (emitNbcdGeneric_writesOnly instr)
  case tas =>
    have := names (by rw [hm]; rfl)
    exact @orUnsupported_writesOnly _ _ _ _ (emitTasGeneric_writesOnly instr)
  case addi | subi =>
    have := names (by rw [hm]; rfl)
    exact @orUnsupported_writesOnly _ _ _ _ (emitArithImmGeneric_writesOnly instr)
  case bchg | bclr | bset =>
    have := names (by rw [hm]; rfl)
    exact @orUnsupported_writesOnly _ _ _ _ (emitBitImmGeneric_writesOnly instr fun _ => this)
  case btst =>
    exact @orUnsupported_writesOnly _ _ _ _
      (emitBitImmGeneric_writesOnly instr fun hb => absurd hm hb)
  case cmpi => exact @orUnsupported_writesOnly _ _ _ _ (emitCmpiGeneric_writesOnly instr)
  case cmpm => exact @orUnsupported_writesOnly _ _ _ _ (emitCmpm_writesOnly instr)
  case chk => exact @orUnsupported_writesOnly _ _ _ _ (emitChk_writesOnly instr)
  case link =>
    have := implicit (r := .a (regIndex instr.reg)) (by simp [implicitWrites, hm])
    have := implicit (r := .a 7) (by simp [implicitWrites, hm])
    have := linkText_writesOnly (β := β) (w := {r | instrWrites instr r = true}) instr
    infer_instance
  case unlk =>
    have := implicit (r := .a (regIndex instr.reg)) (by simp [implicitWrites, hm])
    have := implicit (r := .a 7) (by simp [implicitWrites, hm])
    have := unlkText_writesOnly (β := β) (w := {r | instrWrites instr r = true}) instr
    infer_instance
  case pea =>
    have := implicit (r := .a 7) (by simp [implicitWrites, hm])
    exact emitPea_writesOnly instr
  case dbcc =>
    have := implicit (r := .d (regIndex instr.reg)) (by simp [implicitWrites, hm])
    exact emitDbcc_writesOnly instr
  case bcc => exact emitBcc_writesOnly instr
  case bra =>
    have hc : instr.condition = 0 := by
      simp only [validateBranch, hm, Bool.and_eq_true, beq_iff_eq] at h
      exact h.2.2
    exact @writesOnly_of_neverNext _ _ _ _ (emitBra_neverNext instr hc)
  case trapv =>
    have := trapvText_writesOnly (β := β) (w := {r | instrWrites instr r = true}) instr
    infer_instance
  all_goals infer_instance

end Abi

end NeoRecomp
