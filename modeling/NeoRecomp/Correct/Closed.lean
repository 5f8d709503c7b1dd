import NeoRecomp.Correct.DecodeControl
import NeoRecomp.Correct.Emitted

/-!
# Decoder, validator and emitter agree

Every record the decoder produces is UNKNOWN or accepted by the validator, whatever the extension
words hold, and every accepted record is emitted without the unsupported fallback.
-/

namespace NeoRecomp

section Decoders
variable {rom : NgProgramRom} {addr : BitVec 32} {op : BitVec 16}

/-! ## Walking down the pattern list -/

/-- The record of the first pattern that applies is accepted. -/
def FirstAccepted (rom : NgProgramRom) (addr : BitVec 32) (op : BitVec 16)
    (decoders : List OpcodeDecoder) : Prop :=
  ∀ d, decoders.find? (fun d => d.guard op) = some d →
    Accepted (d.fill rom addr op (blankInstr addr op))

theorem firstAccepted_nil : FirstAccepted rom addr op [] := by
  intro d h
  cases h

theorem firstAccepted_cons {d : OpcodeDecoder} {rest : List OpcodeDecoder}
    (hd : d.guard op = true → Accepted (d.fill rom addr op (blankInstr addr op)))
    (hrest : d.guard op = false → FirstAccepted rom addr op rest) :
    FirstAccepted rom addr op (d :: rest) := by
  intro d' h
  rw [List.find?_cons] at h
  cases hg : d.guard op with
  | true =>
    rw [hg] at h
    cases h
    exact hd hg
  | false =>
    rw [hg] at h
    exact hrest hg d' h

/-- A pattern whose opcodes an earlier one has already taken. -/
theorem firstAccepted_shadowed {d d' : OpcodeDecoder} {rest : List OpcodeDecoder}
    (hsub : d.guard op = true → d'.guard op = true) (hd' : d'.guard op = false)
    (hrest : FirstAccepted rom addr op rest) : FirstAccepted rom addr op (d :: rest) :=
  firstAccepted_cons (fun hg => by rw [hsub hg] at hd'; cases hd') fun _ => hrest

/-! ## Shadowed patterns -/

theorem opTop_eq (op : BitVec 16) : opTop op = ((op &&& 0xF000) >>> 12).setWidth 8 := by
  rw [opTop, BitVec.ushiftRight_and_distrib]
  rfl

theorem opSizeCode_eq (op : BitVec 16) : opSizeCode op = ((op &&& 0x00C0) >>> 6).setWidth 8 := by
  rw [opSizeCode, BitVec.ushiftRight_and_distrib]
  rfl

theorem decodeMove_guard_of_and {mask value : BitVec 16} (hop : op &&& mask = value)
    (hmask : mask &&& 0xF000 = 0xF000)
    (htop : ((value &&& 0xF000) >>> 12).setWidth 8 ∈ [(1 : BitVec 8), 2, 3]) :
    decodeMove.guard op = true := by
  have h := and_of_and hop hmask
  rw [← h, ← opTop_eq] at htop
  simp only [List.mem_cons, List.not_mem_nil, or_false] at htop
  simp only [decodeMove, Bool.or_eq_true, decide_eq_true_iff]
  rcases htop with h | h | h
  · exact .inl (.inl h)
  · exact .inl (.inr h)
  · exact .inr h

theorem decodeLeaAbsLong_shadowed (hg : decodeLeaAbsLong.guard op = true) :
    decodeLea.guard op = true := by
  have hop : op &&& 0xF1FF = 0x41F9 := opMatch_iff.mp hg
  have hbase : op &&& 0xF1C0 = 0x41C0 := and_of_and hop rfl
  have hmode : opEaMode op = 7 := by
    rw [opEaMode_eq, show op &&& 0x0038 = 0x0038 from and_of_and hop rfl]
    rfl
  have hreg : opEaReg op = 1 := by
    rw [opEaReg, show op &&& 7 = 1 from and_of_and hop rfl]
    rfl
  simp only [decodeLea, opMatch, hbase, hmode, hreg]
  decide

/-- The operand of an immediate or one-operand pattern, read off the low byte. -/
theorem immediateToEaGuard_of_and {value : BitVec 16} (hop : op &&& 0x00F8 = value)
    (hsize : ((value &&& 0x00C0) >>> 6).setWidth 8 ≠ (3 : BitVec 8))
    (hmode1 : ((value &&& 0x0038) >>> 3).setWidth 8 ≠ (1 : BitVec 8))
    (hmode7 : ((value &&& 0x0038) >>> 3).setWidth 8 ≠ (7 : BitVec 8)) :
    immediateToEaGuard op = true := by
  have hs : op &&& 0x00C0 = value &&& 0x00C0 := and_of_and hop rfl
  have hm : op &&& 0x0038 = value &&& 0x0038 := and_of_and hop rfl
  rw [← hs, ← opSizeCode_eq] at hsize
  rw [← hm, ← opEaMode_eq] at hmode1 hmode7
  simp only [immediateToEaGuard, decide_eq_true hsize, decide_eq_true hmode1,
    decide_eq_false hmode7, Bool.false_and, Bool.not_false, Bool.and_self]

theorem decodeLateAndiAregDisp_shadowed (hg : decodeLateAndiAregDisp.guard op = true) :
    decodeAndi.guard op = true := by
  have hop : op &&& 0xFFF8 = 0x0228 := opMatch_iff.mp hg
  rw [decodeAndi, Bool.and_eq_true, opMatch_iff]
  exact ⟨and_of_and hop rfl, immediateToEaGuard_of_and (and_of_and hop rfl) (by decide) (by decide)
    (by decide)⟩

theorem decodeLateCmpiByteDreg_shadowed (hg : decodeLateCmpiByteDreg.guard op = true) :
    decodeCmpi.guard op = true := by
  have hop : op &&& 0xFFF8 = 0x0C00 := opMatch_iff.mp hg
  rw [decodeCmpi, Bool.and_eq_true, opMatch_iff]
  exact ⟨and_of_and hop rfl, immediateToEaGuard_of_and (and_of_and hop rfl) (by decide) (by decide)
    (by decide)⟩

theorem decodeLateTstAregDisp_shadowed (hg : decodeLateTstAregDisp.guard op = true) :
    decodeTst.guard op = true := by
  have hop : op &&& 0xFFF8 = 0x4A28 := opMatch_iff.mp hg
  rw [decodeTst, Bool.and_eq_true, opMatch_iff]
  exact ⟨and_of_and hop rfl, immediateToEaGuard_of_and (and_of_and hop rfl) (by decide) (by decide)
    (by decide)⟩

theorem decodeLateClrDreg_shadowed (hg : decodeLateClrDreg.guard op = true) :
    decodeClr.guard op = true := by
  simp only [decodeLateClrDreg, Bool.and_eq_true, Bool.not_eq_true', opMatch_iff] at hg
  obtain ⟨hop, hs⟩ := hg
  have hmode : opEaMode op = 0 := by
    rw [opEaMode_eq, show op &&& 0x0038 = 0 from and_of_and hop rfl]
    rfl
  have hsize : opSizeCode op ≠ 3 := by
    intro h3
    rw [opMatch, ← sizeCode_shift, h3] at hs
    cases hs
  have hbase : op &&& 0xFF00 = 0x4200 := and_of_and hop rfl
  simp only [decodeClr, opMatch, hbase, decide_eq_true hsize, isDataAlterableEa, hmode]
  rfl

theorem decodeLateClrAbsLong_shadowed
    (hg : (decodeLateAbsLong 0x4239 0x4279 0x42B9 .clr).guard op = true) :
    decodeClr.guard op = true := by
  simp only [decodeLateAbsLong, Bool.or_eq_true, decide_eq_true_iff] at hg
  rcases hg with (rfl | rfl) | rfl <;> rfl

theorem decodeLateTstAbsLong_shadowed
    (hg : (decodeLateAbsLong 0x4A39 0x4A79 0x4AB9 .tst).guard op = true) :
    decodeTst.guard op = true := by
  simp only [decodeLateAbsLong, Bool.or_eq_true, decide_eq_true_iff] at hg
  rcases hg with (rfl | rfl) | rfl <;> rfl

theorem decodeOf_eq {d : OpcodeDecoder} {opcode : BitVec 16} (h : op = opcode)
    (hd : d.guard opcode = true) : d.guard op = true := by
  rw [h, hd]

/-! ## The patterns with a mnemonic to choose -/

theorem decodeOriEori_accepted (hg : decodeOriEori.guard op = true) :
    Accepted (decodeOriEori.fill rom addr op (blankInstr addr op)) := by
  simp only [decodeOriEori, Bool.and_eq_true, Bool.or_eq_true, opMatch_iff] at hg
  obtain ⟨hop | hop, hg⟩ := hg <;> simp only [decodeOriEori, opMatch, hop] <;>
    exact fillImmediateToEa_accepted (by decide) hop hg

theorem decodeSubiAddi_accepted (hg : decodeSubiAddi.guard op = true) :
    Accepted (decodeSubiAddi.fill rom addr op (blankInstr addr op)) := by
  simp only [decodeSubiAddi, Bool.and_eq_true, Bool.or_eq_true, opMatch_iff] at hg
  obtain ⟨hop | hop, hg⟩ := hg <;> simp only [decodeSubiAddi, opMatch, hop] <;>
    exact fillImmediateToEa_accepted (by decide) hop hg

theorem decodeCmpi_accepted (hg : decodeCmpi.guard op = true) :
    Accepted (decodeCmpi.fill rom addr op (blankInstr addr op)) := by
  simp only [decodeCmpi, Bool.and_eq_true, opMatch_iff] at hg
  exact fillImmediateToEa_accepted (by decide) hg.1 hg.2

theorem decodeAndi_accepted (hg : decodeAndi.guard op = true) :
    Accepted (decodeAndi.fill rom addr op (blankInstr addr op)) := by
  simp only [decodeAndi, Bool.and_eq_true, opMatch_iff] at hg
  exact fillImmediateToEa_accepted (by decide) hg.1 hg.2

theorem decodeClr_accepted (hg : decodeClr.guard op = true) :
    Accepted (decodeClr.fill rom addr op (blankInstr addr op)) := by
  simp only [decodeClr, Bool.and_eq_true, opMatch_iff, decide_eq_true_iff] at hg
  exact fillUnary_accepted (by decide) rfl hg.1.1 hg.1.2 hg.2

theorem decodeNegNot_accepted (hg : decodeNegNot.guard op = true) :
    Accepted (decodeNegNot.fill rom addr op (blankInstr addr op)) := by
  simp only [decodeNegNot, Bool.and_eq_true, Bool.or_eq_true, opMatch_iff] at hg
  obtain ⟨hop, hg⟩ := hg
  obtain ⟨hs, hea⟩ := dataAlterable_of_immediateToEaGuard hg
  rcases hop with (hop | hop) | hop <;> simp only [decodeNegNot, opMatch, hop] <;>
    exact fillUnary_accepted (by decide) rfl hop hs hea

theorem decodeNbcd_accepted (hg : decodeNbcd.guard op = true) :
    Accepted (decodeNbcd.fill rom addr op (blankInstr addr op)) := by
  simp only [decodeNbcd, Bool.and_eq_true, opMatch_iff] at hg
  exact fillByteUnary_accepted (by decide) rfl hg.1 hg.2

theorem decodeTas_accepted (hg : decodeTas.guard op = true) :
    Accepted (decodeTas.fill rom addr op (blankInstr addr op)) := by
  simp only [decodeTas, Bool.and_eq_true, opMatch_iff] at hg
  exact fillByteUnary_accepted (by decide) rfl hg.1 hg.2

/-! ## The whole list -/

theorem opcodeDecoders_accepted : FirstAccepted rom addr op opcodeDecoders := by
  refine firstAccepted_cons decodeMove_accepted fun hmove => ?_
  refine firstAccepted_cons decodeAluAddressReg_accepted fun _ => ?_
  refine firstAccepted_cons decodeLogicBinary_accepted fun _ => ?_
  refine firstAccepted_cons decodeAddsubDregToEa_accepted fun _ => ?_
  refine firstAccepted_cons decodeExchange_accepted fun _ => ?_
  refine firstAccepted_cons decodeShiftRotate_accepted fun _ => ?_
  refine firstAccepted_cons decodeMultiply_accepted fun _ => ?_
  refine firstAccepted_cons decodeDivide_accepted fun _ => ?_
  refine firstAccepted_cons decodeAluEaToDreg_accepted fun halu => ?_
  refine firstAccepted_cons decodeCmpm_accepted fun _ => ?_
  refine firstAccepted_cons (decodeFixed_accepted (by decide)) fun _ => ?_
  refine firstAccepted_cons decodeTrap_accepted fun _ => ?_
  refine firstAccepted_cons (decodeFixed_accepted (by decide)) fun _ => ?_
  refine firstAccepted_cons (decodeFixed_accepted (by decide)) fun _ => ?_
  refine firstAccepted_cons decodeStop_accepted fun _ => ?_
  refine firstAccepted_cons (decodeFixed_accepted (by decide)) fun _ => ?_
  refine firstAccepted_cons (decodeFixed_accepted (by decide)) fun _ => ?_
  refine firstAccepted_cons (decodeFixed_accepted (by decide)) fun _ => ?_
  refine firstAccepted_cons (decodeFixed_accepted (by decide)) fun _ => ?_
  refine firstAccepted_cons decodeLink_accepted fun _ => ?_
  refine firstAccepted_cons decodeUnlk_accepted fun _ => ?_
  refine firstAccepted_cons decodeMoveUsp_accepted fun _ => ?_
  refine firstAccepted_cons decodeJumpAbsLong_accepted fun _ => ?_
  refine firstAccepted_cons decodeJumpPcRelative_accepted fun hjump => ?_
  refine firstAccepted_cons decodeJumpAregIndirect_accepted fun _ => ?_
  refine firstAccepted_cons (fun hg => decodeJumpControl_accepted hg hjump) fun _ => ?_
  refine firstAccepted_cons decodeBra_accepted fun hbra => ?_
  refine firstAccepted_cons decodeBsr_accepted fun hbsr => ?_
  refine firstAccepted_cons (fun hg => decodeBcc_accepted hg hbra hbsr) fun _ => ?_
  refine firstAccepted_cons decodeMoveq_accepted fun _ => ?_
  refine firstAccepted_cons decodeLeaPcRelative_accepted fun hleaPc => ?_
  refine firstAccepted_cons decodeChk_accepted fun _ => ?_
  refine firstAccepted_cons (fun hg => decodeLea_accepted hg hleaPc) fun hlea => ?_
  refine firstAccepted_shadowed decodeLeaAbsLong_shadowed hlea ?_
  refine firstAccepted_shadowed (fun hg => decodeOf_eq (of_decide_eq_true hg) rfl) hmove ?_
  refine firstAccepted_cons decodeImmediateToSrCcr_accepted fun _ => ?_
  refine firstAccepted_cons decodeMovep_accepted fun _ => ?_
  refine firstAccepted_cons decodeMoveFromSr_accepted fun _ => ?_
  refine firstAccepted_cons decodeMoveToSrCcr_accepted fun _ => ?_
  refine firstAccepted_cons decodeStaticBit_accepted fun _ => ?_
  refine firstAccepted_cons decodeDynamicBit_accepted fun _ => ?_
  refine firstAccepted_cons decodeOriEori_accepted fun _ => ?_
  refine firstAccepted_cons decodeSubiAddi_accepted fun _ => ?_
  refine firstAccepted_cons decodeCmpi_accepted fun hcmpi => ?_
  refine firstAccepted_cons decodeAndi_accepted fun handi => ?_
  refine firstAccepted_shadowed decodeLateAndiAregDisp_shadowed handi ?_
  have hlate {d : OpcodeDecoder} {mask value : BitVec 16} {rest : List OpcodeDecoder}
      (hd : d.guard op = true → op &&& mask = value) (hmask : mask &&& 0xF000 = 0xF000)
      (htop : ((value &&& 0xF000) >>> 12).setWidth 8 ∈ [(1 : BitVec 8), 2, 3])
      (hrest : FirstAccepted rom addr op rest) : FirstAccepted rom addr op (d :: rest) :=
    firstAccepted_shadowed (fun hg => decodeMove_guard_of_and (hd hg) hmask htop) hmove hrest
  refine hlate opMatch_iff.mp rfl (by decide) ?_
  refine firstAccepted_shadowed (fun hg => decodeOf_eq (of_decide_eq_true hg) rfl) hmove ?_
  refine firstAccepted_shadowed (fun hg => decodeOf_eq (of_decide_eq_true hg) rfl) hmove ?_
  refine hlate opMatch_iff.mp rfl (by decide) ?_
  refine hlate opMatch_iff.mp rfl (by decide) ?_
  refine hlate opMatch_iff.mp rfl (by decide) ?_
  refine hlate opMatch_iff.mp rfl (by decide) ?_
  refine hlate opMatch_iff.mp rfl (by decide) ?_
  refine hlate opMatch_iff.mp rfl (by decide) ?_
  refine firstAccepted_shadowed decodeLateCmpiByteDreg_shadowed hcmpi ?_
  refine firstAccepted_cons decodeAddxSubx_accepted fun _ => ?_
  refine firstAccepted_cons decodeAbcdSbcd_accepted fun _ => ?_
  refine firstAccepted_shadowed (fun hg => decodeOf_eq (of_decide_eq_true hg) rfl) halu ?_
  refine firstAccepted_cons decodeDbcc_accepted fun _ => ?_
  refine firstAccepted_cons decodeScc_accepted fun _ => ?_
  refine firstAccepted_cons decodeQuick_accepted fun _ => ?_
  refine firstAccepted_cons decodeClr_accepted fun hclr => ?_
  refine firstAccepted_cons decodeNegNot_accepted fun _ => ?_
  refine firstAccepted_cons decodeNbcd_accepted fun _ => ?_
  refine firstAccepted_cons decodeSwap_accepted fun _ => ?_
  refine firstAccepted_cons decodeExt_accepted fun _ => ?_
  refine firstAccepted_cons decodeMovemRegToMem_accepted fun _ => ?_
  refine firstAccepted_cons decodeMovemMemToReg_accepted fun _ => ?_
  refine firstAccepted_cons decodePea_accepted fun _ => ?_
  refine firstAccepted_cons decodeTas_accepted fun _ => ?_
  refine firstAccepted_cons decodeTst_accepted fun htst => ?_
  refine firstAccepted_shadowed decodeLateClrAbsLong_shadowed hclr ?_
  refine firstAccepted_shadowed decodeLateClrDreg_shadowed hclr ?_
  refine firstAccepted_shadowed decodeLateTstAbsLong_shadowed htst ?_
  refine firstAccepted_shadowed decodeLateTstAregDisp_shadowed htst ?_
  exact firstAccepted_cons decodeLineAF_accepted fun _ => firstAccepted_nil

theorem decodeOpcode_accepted : Accepted (decodeOpcode rom addr op) := by
  unfold decodeOpcode
  dsimp only
  split
  · rename_i d hd
    exact opcodeDecoders_accepted d hd
  · left
    unfold withSccCondition
    split_ifs <;> rfl

end Decoders

/-! ## Decoded instructions -/

section Decoded
variable {rom : NgProgramRom} {pc : BitVec 32} {instr : NgM68kInstr}

/-- What a successful decode says about the bytes of the instruction. -/
theorem ngM68kDecode_eq (h : ngM68kDecode rom pc = (true, instr)) :
    instr = decodeOpcode rom pc (ngProgramRomRead16 rom pc) ∧ instr.byteLength ≠ 0 ∧
      pc ≤ pc + instr.byteLength.setWidth 32 - 1 := by
  unfold ngM68kDecode finishDecode at h
  dsimp only at h
  split_ifs at h with h1 h2 h3
  · simp at h
  · simp at h
  · simp at h
  · simp only [Bool.or_eq_true, decide_eq_true_iff, not_or, BitVec.not_lt] at h3
    cases h
    exact ⟨rfl, h2, h3.1⟩

/-- A decoded instruction is UNKNOWN or validated. -/
theorem ngM68kDecode_accepted (h : ngM68kDecode rom pc = (true, instr)) : Accepted instr := by
  rw [(ngM68kDecode_eq h).1]
  exact decodeOpcode_accepted

end Decoded

end NeoRecomp
