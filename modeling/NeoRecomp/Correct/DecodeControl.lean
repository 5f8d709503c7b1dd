import NeoRecomp.Correct.DecodeBinary

/-!
# Decoded control and system instructions are accepted
-/

namespace NeoRecomp

section Patterns
variable {rom : NgProgramRom} {addr : BitVec 32} {op : BitVec 16}

/-! ## Instructions without operands -/

theorem decodeFixed_accepted {opcode : BitVec 16} {mn : NgM68kMnemonic}
    (hmn : (opcode, mn) ∈ [(0x4AFC, .illegal), (0x4E70, .reset), (0x4E71, .nop), (0x4E73, .rte),
      (0x4E75, .rts), (0x4E76, .trapv), (0x4E77, .rtr)])
    (hg : (decodeFixed opcode mn).guard op = true) :
    Accepted ((decodeFixed opcode mn).fill rom addr op (blankInstr addr op)) := by
  simp only [decodeFixed, decide_eq_true_iff] at hg
  subst hg
  right
  simp only [List.mem_cons, Prod.mk.injEq, List.not_mem_nil, or_false] at hmn
  rcases hmn with ⟨rfl, rfl⟩ | ⟨rfl, rfl⟩ | ⟨rfl, rfl⟩ | ⟨rfl, rfl⟩ | ⟨rfl, rfl⟩ | ⟨rfl, rfl⟩ |
    ⟨rfl, rfl⟩ <;> rfl

theorem decodeTrap_accepted (hg : decodeTrap.guard op = true) :
    Accepted (decodeTrap.fill rom addr op (blankInstr addr op)) := by
  have hle : (op &&& 0x000F).setWidth 32 ≤ (15 : BitVec 32) := by
    rw [BitVec.le_def, BitVec.toNat_setWidth, BitVec.toNat_and]
    have := Nat.and_le_right (n := op.toNat) (m := (0xF : BitVec 16).toNat)
    change _ ≤ 15 at this
    change _ % 4294967296 ≤ 15
    omega
  simp only [decodeTrap] at hg ⊢
  right
  simp only [ngM68kValidate, validateTrapMetadata, decide_eq_true hle]
  simpa [blankInstr, validControlImmediateFields, zeroTargetAbsDisp, noEaFields, eaIsEmpty] using hg

theorem decodeStop_accepted (hg : decodeStop.guard op = true) :
    Accepted (decodeStop.fill rom addr op (blankInstr addr op)) := by
  simp only [decodeStop, decide_eq_true_iff] at hg ⊢
  subst hg
  right
  simp only [ngM68kValidate, validateStopMetadata, decide_eq_true (word_le _)]
  rfl

theorem decodeLineAF_accepted (hg : decodeLineAF.guard op = true) :
    Accepted (decodeLineAF.fill rom addr op (blankInstr addr op)) := by
  simp only [decodeLineAF, Bool.or_eq_true] at hg ⊢
  right
  split_ifs with hA
  · simpa [ngM68kValidate, validateIllegalOpcodeMetadata, blankInstr, validControlImmediateFields,
      zeroTargetAbsDisp, noEaFields, eaIsEmpty] using hA
  · simpa [ngM68kValidate, validateIllegalOpcodeMetadata, blankInstr, validControlImmediateFields,
      zeroTargetAbsDisp, noEaFields, eaIsEmpty] using hg.resolve_left hA

theorem decodeImmediateToSrCcr_accepted (hg : decodeImmediateToSrCcr.guard op = true) :
    Accepted (decodeImmediateToSrCcr.fill rom addr op (blankInstr addr op)) := by
  simp only [decodeImmediateToSrCcr, Bool.or_eq_true, decide_eq_true_iff] at hg
  right
  rcases hg with ((((rfl | rfl) | rfl) | rfl) | rfl) | rfl <;>
  · simp only [decodeImmediateToSrCcr, BitVec.reduceEq, if_true, if_false]
    simp only [ngM68kValidate, validateImmediateToCcrSr, decide_eq_true (word_le _),
      decide_eq_true (and_byte_le _)]
    rfl

/-! ## Single registers -/

/-- The opcode of an instruction with one register in the low bits. -/
theorem opcode_eq_reg {base : BitVec 16} (h : op &&& 0xFFF8 = base) :
    op = base ||| (op &&& 0x0007) := by
  rw [← h]
  simp only [and_or_and, BitVec.reduceOr, and_ones]

theorem decodeLink_accepted (hg : decodeLink.guard op = true) :
    Accepted (decodeLink.fill rom addr op (blankInstr addr op)) := by
  have hopc := opcode_eq_reg (opMatch_iff.mp hg)
  right
  simp only [decodeLink, ngM68kValidate, validateLinkUnlk, eaReg_widen, ← hopc]
  simp [blankInstr, noEaFields, eaIsEmpty]

theorem decodeUnlk_accepted (hg : decodeUnlk.guard op = true) :
    Accepted (decodeUnlk.fill rom addr op (blankInstr addr op)) := by
  have hopc := opcode_eq_reg (opMatch_iff.mp hg)
  right
  simp only [decodeUnlk, ngM68kValidate, validateLinkUnlk, eaReg_widen, ← hopc]
  simp [blankInstr, noEaFields, eaIsEmpty]

theorem decodeMoveUsp_accepted (hg : decodeMoveUsp.guard op = true) :
    Accepted (decodeMoveUsp.fill rom addr op (blankInstr addr op)) := by
  simp only [decodeMoveUsp, Bool.or_eq_true, opMatch_iff] at hg
  right
  rcases hg with hop | hop
  · have hopc := opcode_eq_reg hop
    have hdir : op &&& 0x0008 = 0 := and_of_and hop rfl
    simp only [decodeMoveUsp, opMatch, hdir, beq_self_eq_true, if_true, ngM68kValidate,
      validateMoveUsp, eaReg_widen, ← hopc]
    simp [blankInstr, eaIsExactRegister, eaSimpleRegisterPayload, eaIsEmpty, zeroTargetAbsDisp]
  · have hopc := opcode_eq_reg hop
    have hdir : op &&& 0x0008 = 0x0008 := and_of_and hop rfl
    simp only [decodeMoveUsp, opMatch, hdir, show ((0x0008 : BitVec 16) == 0) = false from rfl,
      Bool.false_eq_true, if_false, ngM68kValidate, validateMoveUsp, eaReg_widen, ← hopc]
    simp [blankInstr, eaIsExactRegister, eaSimpleRegisterPayload, eaIsEmpty, zeroTargetAbsDisp]

theorem decodeSwap_accepted (hg : decodeSwap.guard op = true) :
    Accepted (decodeSwap.fill rom addr op (blankInstr addr op)) := by
  have hopc := opcode_eq_reg (opMatch_iff.mp hg)
  right
  simp only [decodeSwap, ngM68kValidate, validateExtSwap, eaReg_widen, ← hopc]
  simp [blankInstr, eaIsExactRegister, eaSimpleRegisterPayload, eaIsEmpty, zeroTargetAbsDisp]

theorem decodeExt_accepted (hg : decodeExt.guard op = true) :
    Accepted (decodeExt.fill rom addr op (blankInstr addr op)) := by
  simp only [decodeExt, Bool.or_eq_true, opMatch_iff] at hg
  right
  rcases hg with hop | hop
  · have hopc := opcode_eq_reg hop
    have hsz : op &&& 0x0040 = 0 := and_of_and hop rfl
    simp only [decodeExt, opMatch, hsz, beq_self_eq_true, if_true, ngM68kValidate, validateExtSwap,
      eaReg_widen, decide_eq_true (opEaReg_lt op), eaIsExactRegister, eaSimpleRegisterPayload]
    simpa [blankInstr, eaIsEmpty, zeroTargetAbsDisp] using hopc
  · have hopc := opcode_eq_reg hop
    have hsz : op &&& 0x0040 = 0x0040 := and_of_and hop rfl
    simp only [decodeExt, opMatch, hsz, ngM68kValidate, validateExtSwap,
      eaReg_widen, decide_eq_true (opEaReg_lt op), eaIsExactRegister, eaSimpleRegisterPayload]
    simpa [blankInstr, eaIsEmpty, zeroTargetAbsDisp] using hopc

/-! ## Jumps and branches -/

theorem decodeJumpAbsLong_accepted (hg : decodeJumpAbsLong.guard op = true) :
    Accepted (decodeJumpAbsLong.fill rom addr op (blankInstr addr op)) := by
  simp only [decodeJumpAbsLong, Bool.or_eq_true, decide_eq_true_iff] at hg
  right
  rcases hg with rfl | rfl <;>
  · simp only [decodeJumpAbsLong, if_true, BitVec.reduceEq, if_false, ngM68kValidate,
      validateControlTransfer, exactControlSourceExtLength, exactControlEaExtLength, eaOpcodeField,
      validateControlTransferFields]
    simp [blankInstr, extIf, eaAbsLongPayload, eaIsEmpty]

theorem decodeJumpPcRelative_accepted (hg : decodeJumpPcRelative.guard op = true) :
    Accepted (decodeJumpPcRelative.fill rom addr op (blankInstr addr op)) := by
  simp only [decodeJumpPcRelative, Bool.or_eq_true, decide_eq_true_iff] at hg
  right
  rcases hg with rfl | rfl <;>
  · simp only [decodeJumpPcRelative, if_true, BitVec.reduceEq, if_false, ngM68kValidate,
      validateControlTransfer, exactControlSourceExtLength, exactControlEaExtLength, eaOpcodeField,
      validateControlTransferFields]
    simp [blankInstr, extIf, eaPcDisplacementPayload, eaIsEmpty]

/-- JMP and JSR through a control address that is not PC-relative. -/
theorem jumpControl_accepted {mn : NgM68kMnemonic} {base : BitVec 16}
    (hmn : (mn = .jsr ∧ base = 0x4E80) ∨ (mn = .jmp ∧ base = 0x4EC0)) (hop : op &&& 0xFFC0 = base)
    (hea : isControlEa (opEaMode op) (opEaReg op) = true)
    (hpc : ¬ (opEaMode op = 7 ∧ opEaReg op = 2)) :
    let src := decodeEa rom (addr + 2) (opEaMode op) (opEaReg op) 0
    ngM68kValidate
      (if src.1.mode = .aind then
        { blankInstr addr op with
            mnemonic := mn, byteLength := 2 + src.2, src := src.1, form := .aregIndirect,
            reg := src.1.reg }
      else if src.1.mode = .absW ∨ src.1.mode = .absL then
        { blankInstr addr op with
            mnemonic := mn, byteLength := 2 + src.2, src := src.1, form := .abs,
            target := src.1.absoluteAddr }
      else
        { blankInstr addr op with mnemonic := mn, byteLength := 2 + src.2, src := src.1 }) =
      true := by
  have hnpc : (decodeEa rom (addr + 2) (opEaMode op) (opEaReg op) 0).1.mode ≠ .pcDisp :=
    fun h => hpc (decodeEa_mode_pcDisp (opEaMode_lt op) (opEaReg_lt op) h)
  obtain ⟨hc, hlen⟩ := control_checked rom (addr + 2) 0 hea
  generalize decodeEa rom (addr + 2) (opEaMode op) (opEaReg op) 0 = src at hnpc hc hlen ⊢
  have hlen0 := add_len_ne_zero (.inl rfl) hc.len
  have hopc : op = base ||| (op &&& 0x003F) := by
    rw [← hop]
    simp only [and_or_and, BitVec.reduceOr, and_ones]
  have hbase : (if mn = .jmp then 0x4EC0 else 0x4E80) = base := by
    rcases hmn with ⟨rfl, rfl⟩ | ⟨rfl, rfl⟩ <;> rfl
  have hval (instr : NgM68kInstr) (h : instr.mnemonic = mn) :
      ngM68kValidate instr = (instr.byteLength != 0 && validateControlTransfer instr) := by
    rcases hmn with ⟨rfl, -⟩ | ⟨rfl, -⟩ <;> simp only [ngM68kValidate, h]
  dsimp only
  split_ifs with h1 h2 <;> rw [hval _ rfl] <;>
    simp only [validateControlTransfer, exactControlSourceExtLength, blankInstr, hlen, hlen0,
      hc.field, eaField_widen, hbase, ← hopc, validateControlTransferFields]
  · simp [h1, eaIsEmpty]
  · rcases h2 with h2 | h2 <;> simp [h2, eaIsEmpty]
  · rw [not_or] at h2
    clear hopc
    split <;> simp_all [eaIsEmpty]

theorem decodeJumpControl_accepted (hg : decodeJumpControl.guard op = true)
    (hpc : decodeJumpPcRelative.guard op = false) :
    Accepted (decodeJumpControl.fill rom addr op (blankInstr addr op)) := by
  simp only [decodeJumpControl, Bool.and_eq_true, Bool.or_eq_true, opMatch_iff] at hg
  simp only [decodeJumpPcRelative, Bool.or_eq_false_iff, decide_eq_false_iff_not] at hpc
  obtain ⟨hop, hea⟩ := hg
  have hnpc : ¬ (opEaMode op = 7 ∧ opEaReg op = 2) := by
    intro ⟨hm, hr⟩
    have hlow : op &&& 0x003F = 0x003A := by
      rw [← eaField_widen, hm, hr]
      rfl
    have hsplit : op = (op &&& 0xFFC0) ||| (op &&& 0x003F) := by
      simp only [and_or_and, BitVec.reduceOr, and_ones]
    rcases hop with hop | hop <;> rw [hop, hlow] at hsplit
    · exact hpc.2 hsplit
    · exact hpc.1 hsplit
  have hne := (control_checked rom (addr + 2) 0 hea).1.mode
  have hnmode : (decodeEa rom (addr + 2) (opEaMode op) (opEaReg op) 0).1.mode ≠ .pcDisp :=
    fun h => hnpc (decodeEa_mode_pcDisp (opEaMode_lt op) (opEaReg_lt op) h)
  right
  have hsize : (blankInstr addr op).size = 0 := rfl
  simp only [decodeJumpControl, hsize, hne, hnmode, if_false]
  rcases hop with hop | hop
  · simp only [opMatch, hop, beq_self_eq_true, if_true]
    exact jumpControl_accepted (.inl ⟨rfl, rfl⟩) hop hea hnpc
  · simp only [opMatch, hop, show ((0x4EC0 : BitVec 16) == 0x4E80) = false from rfl,
      Bool.false_eq_true, if_false]
    exact jumpControl_accepted (.inr ⟨rfl, rfl⟩) hop hea hnpc

theorem decodeJumpAregIndirect_accepted (hg : decodeJumpAregIndirect.guard op = true) :
    Accepted (decodeJumpAregIndirect.fill rom addr op (blankInstr addr op)) := by
  have hop : op &&& 0xFFF8 = 0x4ED0 := opMatch_iff.mp hg
  have hbase : op &&& 0xFFC0 = 0x4EC0 := and_of_and hop rfl
  have hmode : opEaMode op = 2 := by
    rw [opEaMode_eq, show op &&& 0x0038 = 0x0010 from and_of_and hop rfl]
    rfl
  have hval := @jumpControl_accepted rom addr op _ _ (.inr ⟨rfl, rfl⟩) hbase
    (by simp [isControlEa, hmode]) (by simp [hmode])
  rw [hmode] at hval
  exact .inr hval

/-- The displacement and target of a branch. -/
theorem branch_accepted {mn : NgM68kMnemonic} {condition : BitVec 8}
    (hmn : (mn = .bra ∧ op &&& 0xFF00 = 0x6000 ∧ condition = 0) ∨
      (mn = .bsr ∧ op &&& 0xFF00 = 0x6100 ∧ condition = 0) ∨
      (mn = .bcc ∧ op &&& 0xF000 = 0x6000 ∧ condition = ((op >>> 8) &&& 0xF).setWidth 8 ∧
        2 ≤ condition)) :
    Accepted (populateBranchTarget rom addr op
      { blankInstr addr op with mnemonic := mn, condition := condition }) := by
  right
  have hcond := condition_le op
  generalize hd : (op &&& 0xFF).setWidth 8 = disp8
  by_cases h0 : disp8 = 0
  all_goals
    simp only [populateBranchTarget, hd, h0, if_true, if_false]
    rcases hmn with ⟨rfl, hop, rfl⟩ | ⟨rfl, hop, rfl⟩ | ⟨rfl, hop, hc, h2⟩
  all_goals
    simp only [ngM68kValidate, validateBranch, blankInstr, opMatch, hop, hd, h0]
    simp_all [noEaFields, eaIsEmpty]

theorem decodeBra_accepted (hg : decodeBra.guard op = true) :
    Accepted (decodeBra.fill rom addr op (blankInstr addr op)) :=
  branch_accepted (.inl ⟨rfl, opMatch_iff.mp hg, rfl⟩)

theorem decodeBsr_accepted (hg : decodeBsr.guard op = true) :
    Accepted (decodeBsr.fill rom addr op (blankInstr addr op)) :=
  branch_accepted (.inr (.inl ⟨rfl, opMatch_iff.mp hg, rfl⟩))

/-- Conditions 0 and 1 are BRA and BSR, which come first. -/
theorem decodeBcc_accepted (hg : decodeBcc.guard op = true) (hbra : decodeBra.guard op = false)
    (hbsr : decodeBsr.guard op = false) :
    Accepted (decodeBcc.fill rom addr op (blankInstr addr op)) := by
  have hop : op &&& 0xF000 = 0x6000 := opMatch_iff.mp hg
  refine branch_accepted (.inr (.inr ⟨rfl, hop, rfl, ?_⟩))
  have hsplit : op &&& 0xFF00 = (op &&& 0xF000) ||| (op &&& 0x0F00) := by
    rw [and_or_and]
    rfl
  rw [hop, ← condition_shift] at hsplit
  simp only [decodeBra, decodeBsr, opMatch, beq_eq_false_iff_ne, ne_eq, hsplit] at hbra hbsr
  generalize ((op >>> 8) &&& 0xF).setWidth 8 = condition at hbra hbsr
  by_contra hlt
  have hc : condition.toNat < 2 := by simpa [BitVec.le_def] using hlt
  have hcast : condition = BitVec.ofNat 8 condition.toNat := by simp
  rw [hcast] at hbra hbsr
  interval_cases condition.toNat
  · exact hbra rfl
  · exact hbsr rfl

theorem decodeDbcc_accepted (hg : decodeDbcc.guard op = true) :
    Accepted (decodeDbcc.fill rom addr op (blankInstr addr op)) := by
  simp only [decodeDbcc, Bool.and_eq_true, decide_eq_true_iff] at hg
  obtain ⟨hscc, hm⟩ := hg
  obtain ⟨hop, hs⟩ : op &&& 0xF000 = 0x5000 ∧ opSizeCode op = 3 := by
    simpa only [isSccDbcc, Bool.and_eq_true, opMatch_iff, decide_eq_true_iff] using hscc
  have hopc : op = 0x50C8 ||| (op &&& 0x0F00) ||| (op &&& 0x0007) := by
    have hsize : op &&& 0x00C0 = 0x00C0 := by rw [← sizeCode_shift, hs]; rfl
    have hmode : op &&& 0x0038 = 0x0008 := by rw [and_eaMode hm]; rfl
    have hbase : (0x50C8 : BitVec 16) = (op &&& 0xF000) ||| (op &&& 0x00C0) ||| (op &&& 0x0038) := by
      rw [hop, hsize, hmode]
      rfl
    rw [hbase]
    simp only [and_or_and, BitVec.reduceOr, and_ones]
  right
  simp only [decodeDbcc, withSccCondition, hscc, if_true, ngM68kValidate, validateDbcc,
    condition_shift, eaReg_widen, ← hopc, decide_eq_true (condition_le op)]
  simp [blankInstr, noEaFields, eaIsEmpty]

/-! ## Addresses -/

theorem decodeMoveq_accepted (hg : decodeMoveq.guard op = true) :
    Accepted (decodeMoveq.fill rom addr op (blankInstr addr op)) := by
  have hop : op &&& 0xF100 = 0x7000 := opMatch_iff.mp hg
  have hlow : (((op &&& 0xFF).setWidth 8).signExtend 32).setWidth 8 = (op &&& 0xFF).setWidth 8 := by
    apply BitVec.eq_of_getLsbD_eq
    intro i hi
    rw [BitVec.getLsbD_setWidth, BitVec.getLsbD_signExtend]
    simp [hi, show i < 32 by omega]
  have hopc : op = 0x7000 ||| (op &&& 0x0E00) ||| (op &&& 0x00FF) := by
    rw [← hop]
    simp only [and_or_and, BitVec.reduceOr, and_ones]
  right
  simp only [decodeMoveq, ngM68kValidate, validateMoveq, hlow, reg9_shift,
    @field_widen op 0xFF rfl, ← hopc]
  simp [blankInstr, eaIsEmpty, eaIsExactRegister, eaSimpleRegisterPayload, zeroTargetAbsDisp]

theorem decodePea_accepted (hg : decodePea.guard op = true) :
    Accepted (decodePea.fill rom addr op (blankInstr addr op)) := by
  simp only [decodePea, Bool.and_eq_true, opMatch_iff] at hg
  obtain ⟨hop, hea⟩ := hg
  obtain ⟨hc, hlen⟩ := control_checked rom (addr + 2) 4 hea
  have hopc : op = 0x4840 ||| (op &&& 0x003F) := by
    rw [← hop]
    simp only [and_or_and, BitVec.reduceOr, and_ones]
  simp only [decodePea]
  generalize decodeEa rom (addr + 2) (opEaMode op) (opEaReg op) 4 = ea at hc hlen ⊢
  have hlen0 := add_len_ne_zero (.inl rfl) hc.len
  rw [if_neg hc.mode]
  right
  simp only [ngM68kValidate, validatePea, exactControlSourceExtLength, blankInstr, hlen, hlen0,
    hc.field, eaField_widen, ← hopc]
  simp [eaIsEmpty, zeroTargetAbsDisp]

theorem decodeLeaPcRelative_accepted (hg : decodeLeaPcRelative.guard op = true) :
    Accepted (decodeLeaPcRelative.fill rom addr op (blankInstr addr op)) := by
  have hop : op &&& 0xF1FF = 0x41FA := opMatch_iff.mp hg
  have hopc : op = 0x41C0 ||| (op &&& 0x0E00) ||| 0x003A := by
    have hbase : op &&& 0xF1C0 = 0x41C0 := and_of_and hop rfl
    have hlow : op &&& 0x003F = 0x003A := and_of_and hop rfl
    rw [← hbase, ← hlow]
    simp only [and_or_and, BitVec.reduceOr, and_ones]
  right
  simp only [decodeLeaPcRelative, ngM68kValidate, validateLea, exactControlSourceExtLength,
    exactControlEaExtLength, eaPcDisplacementPayload, extIf, blankInstr, beq_self_eq_true,
    Bool.and_self, if_true, eaOpcodeField, reg9_shift, show (0x3A : BitVec 8).setWidth 16 = 0x003A
    from rfl, ← hopc]
  simp [validateLeaLegacyFields]

/-- PC-relative LEA has a pattern of its own, which comes first. -/
theorem decodeLea_accepted (hg : decodeLea.guard op = true)
    (hpc : decodeLeaPcRelative.guard op = false) :
    Accepted (decodeLea.fill rom addr op (blankInstr addr op)) := by
  simp only [decodeLea, Bool.and_eq_true, opMatch_iff] at hg
  obtain ⟨hop, hea⟩ := hg
  have hopc := opcode_eq_reg9 hop
  obtain ⟨hc, hlen⟩ := control_checked rom (addr + 2) 4 hea
  have hnpc : (decodeEa rom (addr + 2) (opEaMode op) (opEaReg op) 4).1.mode ≠ .pcDisp := by
    intro h
    obtain ⟨hm, hr⟩ := decodeEa_mode_pcDisp (opEaMode_lt op) (opEaReg_lt op) h
    have hlow : op &&& 0x003F = 0x003A := by
      rw [← eaField_widen, hm, hr]
      rfl
    have hall : op &&& 0xF1FF = (op &&& 0xF1C0) ||| (op &&& 0x003F) := by
      rw [and_or_and]
      rfl
    rw [hop, hlow] at hall
    simp only [decodeLeaPcRelative, opMatch, beq_eq_false_iff_ne] at hpc
    exact hpc hall
  simp only [decodeLea]
  generalize decodeEa rom (addr + 2) (opEaMode op) (opEaReg op) 4 = ea at hc hlen hnpc ⊢
  have hlen0 := add_len_ne_zero (.inl rfl) hc.len
  rw [if_neg hc.mode]
  right
  split_ifs with habs <;>
    simp only [ngM68kValidate, validateLea, exactControlSourceExtLength, blankInstr, hlen, hlen0,
      hc.field, eaField_widen, reg9_shift, ← hopc, validateLeaLegacyFields]
  · rcases habs with h | h | h | h
    · simp [h]
    · simp [h]
    · exact absurd h hnpc
    · simp [h]
  · simp only [not_or] at habs
    clear hopc
    split <;> simp_all

/-! ## Status register moves -/

theorem decodeMoveFromSr_accepted (hg : decodeMoveFromSr.guard op = true) :
    Accepted (decodeMoveFromSr.fill rom addr op (blankInstr addr op)) := by
  have hop : op &&& 0xFFC0 = 0x40C0 := opMatch_iff.mp hg
  have hopc : op = 0x40C0 ||| (op &&& 0x003F) := by
    rw [← hop]
    simp only [and_or_and, BitVec.reduceOr, and_ones]
  simp only [decodeMoveFromSr]
  by_cases hea : isDataAlterableEa (opEaMode op) (opEaReg op) = true
  · rw [hea, Bool.not_true, if_neg Bool.false_ne_true]
    obtain ⟨hc, hlen⟩ := dataAlterable_checked rom (addr + 2) 2 hea
    generalize decodeEa rom (addr + 2) (opEaMode op) (opEaReg op) 2 = ea at hc hlen ⊢
    have hlen0 := add_len_ne_zero (.inl rfl) hc.len
    rw [if_neg hc.mode]
    right
    simp only [ngM68kValidate, validateMoveSrCcr, moveDestinationExtLength, blankInstr, hlen, hlen0,
      hc.field, hc.mode, ne_eq, not_false_eq_true, if_true, eaField_widen, ← hopc]
    simp [eaIsEmpty, zeroTargetAbsDisp]
  · rw [if_pos (by simpa using hea)]
    exact .inl rfl

theorem decodeMoveToSrCcr_accepted (hg : decodeMoveToSrCcr.guard op = true) :
    Accepted (decodeMoveToSrCcr.fill rom addr op (blankInstr addr op)) := by
  simp only [decodeMoveToSrCcr, Bool.or_eq_true, opMatch_iff] at hg
  simp only [decodeMoveToSrCcr]
  by_cases hea : isDataEa (opEaMode op) (opEaReg op) = true
  · rw [hea, Bool.not_true, if_neg Bool.false_ne_true]
    by_cases hne : (decodeEa rom (addr + 2) (opEaMode op) (opEaReg op) 2).1.mode = .none
    · rw [if_pos hne]
      exact accepted_unknown _
    rw [if_neg hne]
    obtain ⟨hc, hlen⟩ := dataSource_checked hne (by simp_all [isDataEa]) rfl
    generalize decodeEa rom (addr + 2) (opEaMode op) (opEaReg op) 2 = ea at hc hlen ⊢
    have hlen0 := add_len_ne_zero (.inl rfl) hc.len
    right
    rcases hg with hop | hop
    all_goals
      have hopc : op = (op &&& 0xFFC0) ||| (op &&& 0x003F) := by
        simp only [and_or_and, BitVec.reduceOr, and_ones]
      rw [hop] at hopc
      simp only [opMatch, hop, ngM68kValidate, validateMoveSrCcr, blankInstr, ne_eq,
        not_true_eq_false, if_false, beq_self_eq_true, if_true, BitVec.reduceBEq,
        Bool.false_eq_true, reduceCtorEq]
      rw [hlen _ rfl rfl rfl]
      simp only [hlen0, hc.field, eaField_widen, ← hopc]
      simp [eaIsEmpty, zeroTargetAbsDisp, hc.mode]
  · rw [if_pos (by simpa using hea)]
    exact .inl rfl

/-! ## MOVEP and MOVEM -/

/-- Bit 6 of the opcode chooses between words and longs. -/
theorem wordOrLong_bit (op : BitVec 16) :
    ∃ size : BitVec 8, (if opMatch op 0x0040 0 then 2 else 4) = size ∧
      (if size = 4 then 0x0040 else 0) = op &&& 0x0040 ∧ validWordOrLong size = true := by
  rcases @and_bit_cases op 0x0040 6 rfl with h | h <;>
    rw [opMatch, h] <;> exact ⟨_, rfl, rfl, rfl⟩

theorem decodeMovep_accepted (hg : decodeMovep.guard op = true) :
    Accepted (decodeMovep.fill rom addr op (blankInstr addr op)) := by
  have hop : op &&& 0xF138 = 0x0108 := opMatch_iff.mp hg
  obtain ⟨size, hsz, hbit, hwl⟩ := wordOrLong_bit op
  simp only [decodeMovep, hsz]
  right
  by_cases h7 : (op >>> 7) &&& 1 = 0
  · have h7' : op &&& 0x0080 = 0 := (bit_eq_zero_iff op rfl (by decide)).mp h7
    have hopc : op = 0x0108 ||| (op &&& 0x0E00) ||| (op &&& 0x0040) ||| (op &&& 0x0007) := by
      have hbase : (0x0108 : BitVec 16) = (op &&& 0xF138) ||| (op &&& 0x0080) := by
        rw [hop, h7']
        rfl
      rw [hbase]
      simp only [and_or_and, BitVec.reduceOr, and_ones]
    rw [if_neg (not_not.mpr h7)]
    simp only [ngM68kValidate, validateMovep, hbit, hwl, reg9_shift, eaReg_widen, ← hopc]
    simp [blankInstr, eaIsExactRegister, eaSimpleRegisterPayload, eaAddressDisplacementPayload]
  · have h7' : op &&& 0x0080 = 0x0080 := (and_bit_cases op (i := 7) rfl).resolve_left
      fun h => h7 ((bit_eq_zero_iff op rfl (by decide)).mpr h)
    have hopc : op = 0x0188 ||| (op &&& 0x0E00) ||| (op &&& 0x0040) ||| (op &&& 0x0007) := by
      have hbase : (0x0188 : BitVec 16) = (op &&& 0xF138) ||| (op &&& 0x0080) := by
        rw [hop, h7']
        rfl
      rw [hbase]
      simp only [and_or_and, BitVec.reduceOr, and_ones]
    rw [if_pos h7]
    simp only [ngM68kValidate, validateMovep, hbit, hwl, reg9_shift, eaReg_widen, ← hopc]
    simp [blankInstr, eaIsExactRegister, eaSimpleRegisterPayload, eaAddressDisplacementPayload]

theorem decodeMovemRegToMem_accepted (hg : decodeMovemRegToMem.guard op = true) :
    Accepted (decodeMovemRegToMem.fill rom addr op (blankInstr addr op)) := by
  simp only [decodeMovemRegToMem, Bool.and_eq_true, opMatch_iff] at hg
  obtain ⟨hop, hea⟩ := hg
  obtain ⟨size, hsz, hbit, hwl⟩ := wordOrLong_bit op
  have hopc : op = 0x4880 ||| (op &&& 0x0040) ||| (op &&& 0x003F) := by
    rw [← hop]
    simp only [and_or_and, BitVec.reduceOr, and_ones]
  have hlen := @decodeEa_movemRegToMem rom (addr + 4) _ _ size (opEaMode_lt op)
    (opEaReg_lt op) hea
  have hc : EaChecked (decodeEa rom (addr + 4) (opEaMode op) (opEaReg op) size) op := by
    refine eaChecked fun hnone => ?_
    rw [movemRegToMemExtLength, hnone] at hlen
    cases hlen
  simp only [decodeMovemRegToMem, hsz]
  generalize decodeEa rom (addr + 4) (opEaMode op) (opEaReg op) size = ea at hc hlen ⊢
  have hlen0 := add_len_ne_zero (.inr (.inl rfl)) hc.len
  rw [if_neg hc.mode]
  right
  simp only [ngM68kValidate, validateMovem, blankInstr, hlen, hlen0, hc.field, hbit, hwl,
    eaField_widen, ← hopc, decide_eq_true (word_le _)]
  simp [eaIsEmpty, zeroTargetAbsDisp, hc.mode]

theorem decodeMovemMemToReg_accepted (hg : decodeMovemMemToReg.guard op = true) :
    Accepted (decodeMovemMemToReg.fill rom addr op (blankInstr addr op)) := by
  simp only [decodeMovemMemToReg, Bool.and_eq_true, opMatch_iff] at hg
  obtain ⟨hop, hea⟩ := hg
  obtain ⟨size, hsz, hbit, hwl⟩ := wordOrLong_bit op
  have hopc : op = 0x4C80 ||| (op &&& 0x0040) ||| (op &&& 0x003F) := by
    rw [← hop]
    simp only [and_or_and, BitVec.reduceOr, and_ones]
  have hlen (instr : NgM68kInstr) (haddr : instr.addr = addr)
      (hsrc : instr.src = (decodeEa rom (addr + 4) (opEaMode op) (opEaReg op) size).1) :
      movemMemToRegExtLength instr =
        some (decodeEa rom (addr + 4) (opEaMode op) (opEaReg op) size).2 :=
    decodeEa_movemMemToReg (opEaMode_lt op) (opEaReg_lt op) hea hsrc (by rw [haddr])
  have hc : EaChecked (decodeEa rom (addr + 4) (opEaMode op) (opEaReg op) size) op := by
    refine eaChecked fun hnone => ?_
    have h := hlen { addr := addr, src := (decodeEa rom (addr + 4) (opEaMode op) (opEaReg op) size).1 }
      rfl rfl
    rw [movemMemToRegExtLength, hnone, exactControlEaExtLength, hnone] at h
    cases h
  simp only [decodeMovemMemToReg, hsz]
  generalize decodeEa rom (addr + 4) (opEaMode op) (opEaReg op) size = ea at hc hlen ⊢
  have hlen0 := add_len_ne_zero (.inr (.inl rfl)) hc.len
  rw [if_neg hc.mode]
  right
  simp only [ngM68kValidate, validateMovem, blankInstr]
  rw [hlen _ rfl rfl]
  simp only [hlen0, hc.field, hbit, hwl, eaField_widen, ← hopc, decide_eq_true (word_le _)]
  simp [eaIsEmpty, zeroTargetAbsDisp, hc.mode]

end Patterns

end NeoRecomp
