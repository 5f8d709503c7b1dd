import NeoRecomp.Correct.Closed

/-!
# What a decoded record takes from the ROM

The mnemonic is a function of the opcode word, the operands come from at most four extension words,
and the record carries the address it was decoded at.
-/

namespace NeoRecomp

/-! ## Operands -/

/-- The addressing mode `decode_ea` finds, from the opcode fields. -/
def eaModeOf (mode reg : BitVec 8) : NgM68kEaMode :=
  if mode = 0 then .dreg else if mode = 1 then .areg else if mode = 2 then .aind
  else if mode = 3 then .apost else if mode = 4 then .apre else if mode = 5 then .adisp
  else if mode = 6 then .aindex
  else if reg = 0 then .absW else if reg = 1 then .absL else if reg = 2 then .pcDisp
  else if reg = 3 then .pcIndex else if reg = 4 then .imm else .none

theorem decodeEa_mode {mode reg : BitVec 8} (hm : mode < 8) (hr : reg < 8) (rom : NgProgramRom)
    (ext : BitVec 32) (size : BitVec 8) :
    (decodeEa rom ext mode reg size).1.mode = eaModeOf mode reg := by
  refine decodeEa_cases rom ext size (P := fun mode reg p => p.1.mode = eaModeOf mode reg)
    ?_ ?_ ?_ ?_ ?_ ?_ ?_ ?_ ?_ ?_ ?_ ?_ ?none hm hr
  case none => rintro r (rfl | rfl | rfl) <;> rfl
  all_goals intros; rfl

theorem decodeEa_op_mode (rom : NgProgramRom) (ext : BitVec 32) (op : BitVec 16) (size : BitVec 8) :
    (decodeEa rom ext (opEaMode op) (opEaReg op) size).1.mode =
      eaModeOf (opEaMode op) (opEaReg op) :=
  decodeEa_mode (opEaMode_lt op) (opEaReg_lt op) rom ext size

theorem decodeEa_dst_mode (rom : NgProgramRom) (ext : BitVec 32) (op : BitVec 16) (size : BitVec 8) :
    (decodeEa rom ext (opMode6 op) (opReg9 op) size).1.mode =
      eaModeOf (opMode6 op) (opReg9 op) :=
  decodeEa_mode (opMode6_lt op) (opReg9_lt op) rom ext size

theorem decodeEa_congr {rom rom' : NgProgramRom} {ext : BitVec 32}
    (h0 : ngProgramRomRead16 rom ext = ngProgramRomRead16 rom' ext)
    (h2 : ngProgramRomRead16 rom (ext + 2) = ngProgramRomRead16 rom' (ext + 2))
    (mode reg size : BitVec 8) :
    decodeEa rom ext mode reg size = decodeEa rom' ext mode reg size := by
  simp only [decodeEa, decodeEaMode7, ngProgramRomRead32, h0, h2]

/-! ## Extension words -/

/-- Two images hold the same words where the extension words of an instruction at `addr` are. -/
structure SameExtensions (rom rom' : NgProgramRom) (addr : BitVec 32) : Prop where
  two : ngProgramRomRead16 rom (addr + 2) = ngProgramRomRead16 rom' (addr + 2)
  four : ngProgramRomRead16 rom (addr + 4) = ngProgramRomRead16 rom' (addr + 4)
  six : ngProgramRomRead16 rom (addr + 6) = ngProgramRomRead16 rom' (addr + 6)
  eight : ngProgramRomRead16 rom (addr + 8) = ngProgramRomRead16 rom' (addr + 8)

/-! ## The patterns in groups -/

def binaryDecoders : List OpcodeDecoder :=
  [decodeMove, decodeAluAddressReg, decodeLogicBinary, decodeAddsubDregToEa, decodeExchange,
   decodeShiftRotate, decodeMultiply, decodeDivide, decodeAluEaToDreg, decodeCmpm]

def controlDecoders : List OpcodeDecoder :=
  [decodeIllegal, decodeTrap, decodeReset, decodeNop, decodeStop, decodeRte, decodeRts,
   decodeTrapv, decodeRtr, decodeLink, decodeUnlk, decodeMoveUsp,
   decodeJumpAbsLong, decodeJumpPcRelative, decodeJumpAregIndirect, decodeJumpControl,
   decodeBra, decodeBsr, decodeBcc, decodeMoveq, decodeLeaPcRelative, decodeChk, decodeLea,
   decodeLeaAbsLong, decodeMoveaPcIndex]

def immediateDecoders : List OpcodeDecoder :=
  [decodeImmediateToSrCcr, decodeMovep, decodeMoveFromSr, decodeMoveToSrCcr, decodeStaticBit,
   decodeDynamicBit, decodeOriEori, decodeSubiAddi, decodeCmpi, decodeAndi]

def lateDecoders : List OpcodeDecoder :=
  [decodeLateAndiAregDisp, decodeLateMoveAregToAbs, decodeLateMoveWordImmToAbs,
   decodeLateMoveByteImmToAbs, decodeLateMoveDregToAbs, decodeLateMoveAbsToDreg 0x1039 1,
   decodeLateMoveByteAregDisp, decodeLateMoveAbsToDreg 0x2039 4, decodeLateMoveWordImmToDreg,
   decodeLateMoveByteImmToDreg, decodeLateCmpiByteDreg]

def dataDecoders : List OpcodeDecoder :=
  [decodeAddxSubx, decodeAbcdSbcd, decodeLateAddWordDreg, decodeDbcc, decodeScc, decodeQuick,
   decodeClr, decodeNegNot, decodeNbcd, decodeSwap, decodeExt, decodeMovemRegToMem,
   decodeMovemMemToReg, decodePea, decodeTas, decodeTst,
   decodeLateAbsLong 0x4239 0x4279 0x42B9 .clr, decodeLateClrDreg,
   decodeLateAbsLong 0x4A39 0x4A79 0x4AB9 .tst, decodeLateTstAregDisp, decodeLineAF]

theorem opcodeDecoders_eq : opcodeDecoders =
    binaryDecoders ++ controlDecoders ++ immediateDecoders ++ lateDecoders ++ dataDecoders := rfl

section Frame
variable {rom rom' : NgProgramRom} {addr : BitVec 32} (h : SameExtensions rom rom' addr)
include h

theorem SameExtensions.long_two :
    ngProgramRomRead32 rom (addr + 2) = ngProgramRomRead32 rom' (addr + 2) := by
  have e : addr + 2 + 2 = addr + 4 := by rw [BitVec.add_assoc]; rfl
  rw [ngProgramRomRead32, ngProgramRomRead32, e, h.two, h.four]

theorem SameExtensions.long_four :
    ngProgramRomRead32 rom (addr + 4) = ngProgramRomRead32 rom' (addr + 4) := by
  have e : addr + 4 + 2 = addr + 6 := by rw [BitVec.add_assoc]; rfl
  rw [ngProgramRomRead32, ngProgramRomRead32, e, h.four, h.six]

theorem SameExtensions.ea_two (mode reg size : BitVec 8) :
    decodeEa rom (addr + 2) mode reg size = decodeEa rom' (addr + 2) mode reg size := by
  have e : addr + 2 + 2 = addr + 4 := by rw [BitVec.add_assoc]; rfl
  exact decodeEa_congr h.two (by rw [e]; exact h.four) mode reg size

theorem SameExtensions.ea_four (mode reg size : BitVec 8) :
    decodeEa rom (addr + 4) mode reg size = decodeEa rom' (addr + 4) mode reg size := by
  have e : addr + 4 + 2 = addr + 6 := by rw [BitVec.add_assoc]; rfl
  exact decodeEa_congr h.four (by rw [e]; exact h.six) mode reg size

theorem SameExtensions.ea_six (mode reg size : BitVec 8) :
    decodeEa rom (addr + 6) mode reg size = decodeEa rom' (addr + 6) mode reg size := by
  have e : addr + 6 + 2 = addr + 8 := by rw [BitVec.add_assoc]; rfl
  exact decodeEa_congr h.six (by rw [e]; exact h.eight) mode reg size

/-- The second operand of MOVE stands behind the first. -/
theorem SameExtensions.ea_second (op : BitVec 16) (s mode reg size : BitVec 8) :
    decodeEa rom
        (addr + (2 + (decodeEa rom' (addr + 2) (opEaMode op) (opEaReg op) s).2).setWidth 32)
        mode reg size =
      decodeEa rom'
        (addr + (2 + (decodeEa rom' (addr + 2) (opEaMode op) (opEaReg op) s).2).setWidth 32)
        mode reg size := by
  rcases @decodeEa_len rom' (addr + 2) (opEaMode op) (opEaReg op) s (opEaMode_lt op)
    (opEaReg_lt op) with hl | hl | hl <;> rw [hl]
  · exact h.ea_two mode reg size
  · exact h.ea_four mode reg size
  · exact h.ea_six mode reg size

/-- The destination of an immediate instruction stands behind the immediate. -/
theorem SameExtensions.ea_immediate (p : Prop) [Decidable p] (mode reg size : BitVec 8) :
    decodeEa rom (addr + 2 + (if p then 4 else 2 : BitVec 8).setWidth 32) mode reg size =
      decodeEa rom' (addr + 2 + (if p then 4 else 2 : BitVec 8).setWidth 32) mode reg size := by
  have e4 : addr + 2 + (4 : BitVec 8).setWidth 32 = addr + 6 := by rw [BitVec.add_assoc]; rfl
  have e2 : addr + 2 + (2 : BitVec 8).setWidth 32 = addr + 4 := by rw [BitVec.add_assoc]; rfl
  split_ifs
  · rw [e4]
    exact h.ea_six mode reg size
  · rw [e2]
    exact h.ea_four mode reg size

end Frame

/-! ## Lengths -/

/-- An instruction has one to five words. -/
def WordLength (l : BitVec 8) : Prop := l = 2 ∨ l = 4 ∨ l = 6 ∨ l = 8 ∨ l = 10

instance (l : BitVec 8) : Decidable (WordLength l) :=
  inferInstanceAs (Decidable (l = 2 ∨ l = 4 ∨ l = 6 ∨ l = 8 ∨ l = 10))

section Length
variable (rom : NgProgramRom) (ext : BitVec 32) (op : BitVec 16) (size : BitVec 8)

theorem ea_cases {P : BitVec 8 → Prop} (h0 : P 0) (h2 : P 2) (h4 : P 4) :
    P (decodeEa rom ext (opEaMode op) (opEaReg op) size).2 := by
  rcases @decodeEa_len rom ext _ _ size (opEaMode_lt op) (opEaReg_lt op) with h | h | h <;>
    rw [h] <;> assumption

theorem wordLength_two : WordLength (2 + (decodeEa rom ext (opEaMode op) (opEaReg op) size).2) :=
  ea_cases rom ext op size (P := fun l => WordLength (2 + l)) (by decide) (by decide) (by decide)

theorem wordLength_four : WordLength (4 + (decodeEa rom ext (opEaMode op) (opEaReg op) size).2) :=
  ea_cases rom ext op size (P := fun l => WordLength (4 + l)) (by decide) (by decide) (by decide)

theorem wordLength_immediate (p : Prop) [Decidable p] :
    WordLength
      (2 + (if p then 4 else 2) + (decodeEa rom ext (opEaMode op) (opEaReg op) size).2) := by
  split_ifs
  · exact ea_cases rom ext op size (P := fun l => WordLength (2 + 4 + l)) (by decide) (by decide)
      (by decide)
  · exact ea_cases rom ext op size (P := fun l => WordLength (2 + 2 + l)) (by decide) (by decide)
      (by decide)

theorem wordLength_move (ext' : BitVec 32) (size' : BitVec 8) :
    WordLength (2 + (decodeEa rom ext (opEaMode op) (opEaReg op) size).2 +
      (decodeEa rom ext' (opMode6 op) (opReg9 op) size').2) := by
  rcases @decodeEa_len rom ext' _ _ size' (opMode6_lt op) (opReg9_lt op) with h | h | h <;> rw [h]
  · exact ea_cases rom ext op size (P := fun l => WordLength (2 + l + 0)) (by decide) (by decide)
      (by decide)
  · exact ea_cases rom ext op size (P := fun l => WordLength (2 + l + 2)) (by decide) (by decide)
      (by decide)
  · exact ea_cases rom ext op size (P := fun l => WordLength (2 + l + 4)) (by decide) (by decide)
      (by decide)

end Length

theorem wordLength_lit : WordLength 2 ∧ WordLength 4 ∧ WordLength 6 ∧ WordLength 8 := by decide

/-! ## Legacy fields -/

theorem populateMoveLegacyFields_frame (out : NgM68kInstr) :
    (populateMoveLegacyFields out).addr = out.addr ∧
      (populateMoveLegacyFields out).mnemonic = out.mnemonic ∧
      (populateMoveLegacyFields out).byteLength = out.byteLength := by
  unfold populateMoveLegacyFields
  dsimp only
  split_ifs <;> exact ⟨rfl, rfl, rfl⟩

theorem populateMemoryDstLegacyFields_frame (out : NgM68kInstr) :
    (populateMemoryDstLegacyFields out).addr = out.addr ∧
      (populateMemoryDstLegacyFields out).mnemonic = out.mnemonic ∧
      (populateMemoryDstLegacyFields out).byteLength = out.byteLength := by
  unfold populateMemoryDstLegacyFields
  split_ifs <;> exact ⟨rfl, rfl, rfl⟩

theorem populateDstLegacyFields_frame (form : NgM68kOperandForm) (out : NgM68kInstr) :
    (populateDstLegacyFields form out).addr = out.addr ∧
      (populateDstLegacyFields form out).mnemonic = out.mnemonic ∧
      (populateDstLegacyFields form out).byteLength = out.byteLength := by
  unfold populateDstLegacyFields
  split_ifs
  · exact ⟨rfl, rfl, rfl⟩
  · exact populateMemoryDstLegacyFields_frame out

/-! ## Patterns -/

/-- What a pattern makes of its inputs: the address is kept, the length is a number of words, the
mnemonic depends on the opcode word only, and the image matters through the extension words only. -/
def OpcodeDecoder.Framed (d : OpcodeDecoder) : Prop :=
  ∀ (rom rom' : NgProgramRom) (addr addr' : BitVec 32) (op : BitVec 16),
    (d.fill rom addr op (blankInstr addr op)).addr = addr ∧
      (d.fill rom addr op (blankInstr addr op)).mnemonic =
        (d.fill rom' addr' op (blankInstr addr' op)).mnemonic ∧
      WordLength (d.fill rom addr op (blankInstr addr op)).byteLength ∧
      (SameExtensions rom rom' addr →
        d.fill rom addr op (blankInstr addr op) = d.fill rom' addr op (blankInstr addr op))

theorem binary_framed {d : OpcodeDecoder} (hd : d ∈ binaryDecoders) : d.Framed := by
  simp only [binaryDecoders, List.mem_cons, List.not_mem_nil, or_false] at hd
  rcases hd with rfl | rfl | rfl | rfl | rfl | rfl | rfl | rfl | rfl | rfl <;>
    intro rom rom' addr addr' op <;>
    simp only [decodeMove, decodeAluAddressReg, decodeLogicBinary, decodeAddsubDregToEa,
      decodeExchange, decodeShiftRotate, decodeMultiply, decodeDivide, decodeAluEaToDreg,
      decodeCmpm, fillWordSourceToDreg, fillExchange, shiftMnemonic, decodeEa_op_mode,
      decodeEa_dst_mode, decodeUnknown, apply_ite NgM68kInstr.mnemonic,
      apply_ite NgM68kInstr.addr, apply_ite NgM68kInstr.byteLength,
      populateMoveLegacyFields_frame, populateMemoryDstLegacyFields_frame,
      populateDstLegacyFields_frame, ite_self, true_and, apply_ite WordLength, wordLength_two,
      wordLength_move, wordLength_lit, blankInstr] <;>
    intro h <;> simp only [h.ea_two, h.ea_second]

theorem control_framed {d : OpcodeDecoder} (hd : d ∈ controlDecoders) : d.Framed := by
  simp only [controlDecoders, List.mem_cons, List.not_mem_nil, or_false] at hd
  rcases hd with rfl | rfl | rfl | rfl | rfl | rfl | rfl | rfl | rfl | rfl | rfl | rfl | rfl
    | rfl | rfl | rfl | rfl | rfl | rfl | rfl | rfl | rfl | rfl | rfl | rfl <;>
    intro rom rom' addr addr' op <;>
    simp only [decodeIllegal, decodeTrap, decodeReset, decodeNop, decodeStop, decodeRte,
      decodeRts, decodeTrapv, decodeRtr, decodeLink, decodeUnlk, decodeMoveUsp, decodeJumpAbsLong,
      decodeJumpPcRelative, decodeJumpAregIndirect, decodeJumpControl, decodeBra, decodeBsr,
      decodeBcc, decodeMoveq, decodeLeaPcRelative, decodeChk, decodeLea, decodeLeaAbsLong,
      decodeMoveaPcIndex, decodeFixed, populateBranchTarget, decodeEa_op_mode, decodeUnknown,
      apply_ite NgM68kInstr.mnemonic, apply_ite NgM68kInstr.addr,
      apply_ite NgM68kInstr.byteLength, ite_self, true_and, apply_ite WordLength, wordLength_two,
      wordLength_lit, blankInstr] <;>
    intro h <;> simp only [h.two, h.long_two, h.ea_two]

theorem immediate_framed {d : OpcodeDecoder} (hd : d ∈ immediateDecoders) : d.Framed := by
  simp only [immediateDecoders, List.mem_cons, List.not_mem_nil, or_false] at hd
  rcases hd with rfl | rfl | rfl | rfl | rfl | rfl | rfl | rfl | rfl | rfl <;>
    intro rom rom' addr addr' op <;>
    simp only [decodeImmediateToSrCcr, decodeMovep, decodeMoveFromSr, decodeMoveToSrCcr,
      decodeStaticBit, decodeDynamicBit, decodeOriEori, decodeSubiAddi, decodeCmpi, decodeAndi,
      fillImmediateToEa, decodeEa_op_mode, decodeUnknown, apply_ite NgM68kInstr.mnemonic,
      apply_ite NgM68kInstr.addr, apply_ite NgM68kInstr.byteLength, populateDstLegacyFields_frame,
      ite_self, true_and, apply_ite WordLength, wordLength_two, wordLength_four,
      wordLength_immediate, wordLength_lit, blankInstr] <;>
    intro h <;> simp only [h.two, h.long_two, h.ea_two, h.ea_four, h.ea_immediate]

theorem late_framed {d : OpcodeDecoder} (hd : d ∈ lateDecoders) : d.Framed := by
  simp only [lateDecoders, List.mem_cons, List.not_mem_nil, or_false] at hd
  rcases hd with rfl | rfl | rfl | rfl | rfl | rfl | rfl | rfl | rfl | rfl | rfl <;>
    intro rom rom' addr addr' op <;>
    simp only [decodeLateAndiAregDisp, decodeLateMoveAregToAbs, decodeLateMoveWordImmToAbs,
      decodeLateMoveByteImmToAbs, decodeLateMoveDregToAbs, decodeLateMoveAbsToDreg,
      decodeLateMoveByteAregDisp, decodeLateMoveWordImmToDreg, decodeLateMoveByteImmToDreg,
      decodeLateCmpiByteDreg, true_and, wordLength_lit, blankInstr] <;>
    intro h <;> simp only [h.two, h.four, h.long_two, h.long_four]

theorem data_framed {d : OpcodeDecoder} (hd : d ∈ dataDecoders) : d.Framed := by
  simp only [dataDecoders, List.mem_cons, List.not_mem_nil, or_false] at hd
  rcases hd with rfl | rfl | rfl | rfl | rfl | rfl | rfl | rfl | rfl | rfl | rfl | rfl | rfl
    | rfl | rfl | rfl | rfl | rfl | rfl | rfl | rfl <;>
    intro rom rom' addr addr' op <;>
    simp only [decodeAddxSubx, decodeAbcdSbcd, decodeLateAddWordDreg, decodeDbcc, decodeScc,
      decodeQuick, decodeClr, decodeNegNot, decodeNbcd, decodeSwap, decodeExt,
      decodeMovemRegToMem, decodeMovemMemToReg, decodePea, decodeTas, decodeTst,
      decodeLateAbsLong, decodeLateClrDreg, decodeLateTstAregDisp, decodeLineAF, fillExtendPair,
      fillUnary, fillByteUnary, decodeEa_op_mode, decodeUnknown, withSccCondition,
      populateUnaryDstLegacyFields, apply_ite NgM68kInstr.mnemonic, apply_ite NgM68kInstr.addr,
      apply_ite NgM68kInstr.byteLength, populateDstLegacyFields_frame, ite_self, true_and,
      apply_ite WordLength, wordLength_two, wordLength_four, wordLength_lit, blankInstr] <;>
    intro h <;> simp only [h.two, h.long_two, h.ea_two, h.ea_four]

theorem opcodeDecoders_framed {d : OpcodeDecoder} (hd : d ∈ opcodeDecoders) : d.Framed := by
  rw [opcodeDecoders_eq] at hd
  simp only [List.mem_append] at hd
  rcases hd with (((hd | hd) | hd) | hd) | hd
  · exact binary_framed hd
  · exact control_framed hd
  · exact immediate_framed hd
  · exact late_framed hd
  · exact data_framed hd

section Opcode
variable (rom rom' : NgProgramRom) (addr addr' : BitVec 32) (op : BitVec 16)

theorem decodeOpcode_framed :
    (decodeOpcode rom addr op).addr = addr ∧
      (decodeOpcode rom addr op).mnemonic = (decodeOpcode rom' addr' op).mnemonic ∧
      WordLength (decodeOpcode rom addr op).byteLength ∧
      (SameExtensions rom rom' addr → decodeOpcode rom addr op = decodeOpcode rom' addr op) := by
  unfold decodeOpcode
  cases hf : opcodeDecoders.find? fun d => d.guard op with
  | none =>
    dsimp only
    unfold withSccCondition
    split_ifs <;> exact ⟨rfl, rfl, wordLength_lit.1, fun _ => rfl⟩
  | some d => exact opcodeDecoders_framed (List.mem_of_find?_eq_some hf) rom rom' addr addr' op

end Opcode

/-! ## Decoded instructions -/

section Decoded
variable {rom rom' : NgProgramRom} {pc : BitVec 32} {instr instr' : NgM68kInstr}

theorem ngM68kDecode_addr (h : ngM68kDecode rom pc = (true, instr)) : instr.addr = pc := by
  rw [(ngM68kDecode_eq h).1]
  exact (decodeOpcode_framed rom rom pc pc _).1

theorem ngM68kDecode_length (h : ngM68kDecode rom pc = (true, instr)) :
    WordLength instr.byteLength := by
  rw [(ngM68kDecode_eq h).1]
  exact (decodeOpcode_framed rom rom pc pc _).2.2.1

theorem ngM68kDecode_mnemonic (h : ngM68kDecode rom pc = (true, instr))
    (h' : ngM68kDecode rom' pc = (true, instr'))
    (hop : ngProgramRomRead16 rom pc = ngProgramRomRead16 rom' pc) :
    instr.mnemonic = instr'.mnemonic := by
  rw [(ngM68kDecode_eq h).1, (ngM68kDecode_eq h').1, hop]
  exact (decodeOpcode_framed rom rom' pc pc _).2.1

theorem ngM68kDecode_mapped (h : ngM68kDecode rom pc = (true, instr)) :
    ngProgramRomAddrIsMapped rom pc = true ∧ ngProgramRomAddrIsMapped rom (pc + 1) = true := by
  unfold ngM68kDecode at h
  cases h0 : ngProgramRomAddrIsMapped rom pc with
  | false => simp [h0] at h
  | true =>
    cases h1 : ngProgramRomAddrIsMapped rom (pc + 1) with
    | false =>
      rw [h0, h1] at h
      simp at h
    | true => exact ⟨rfl, rfl⟩

end Decoded

/-- Two images with the same bytes mapped at the ten addresses an instruction at `pc` can take. -/
def SameBytes (rom rom' : NgProgramRom) (pc : BitVec 32) : Prop :=
  ∀ k < 10, ngProgramRomAddrIsMapped rom (pc + BitVec.ofNat 32 k) =
      ngProgramRomAddrIsMapped rom' (pc + BitVec.ofNat 32 k) ∧
    ngProgramRomRead8 rom (pc + BitVec.ofNat 32 k) = ngProgramRomRead8 rom' (pc + BitVec.ofNat 32 k)

section SameBytes
variable {rom rom' : NgProgramRom} {pc : BitVec 32} (h : SameBytes rom rom' pc)
include h

theorem SameBytes.word {k : Nat} (hk : k < 9) :
    ngProgramRomRead16 rom (pc + BitVec.ofNat 32 k) =
      ngProgramRomRead16 rom' (pc + BitVec.ofNat 32 k) := by
  have e : pc + BitVec.ofNat 32 k + 1 = pc + BitVec.ofNat 32 (k + 1) := by
    rw [BitVec.add_assoc, BitVec.ofNat_add]
    rfl
  rw [ngProgramRomRead16, ngProgramRomRead16, e, (h k (by omega)).2, (h (k + 1) (by omega)).2]

theorem SameBytes.extensions : SameExtensions rom rom' pc where
  two := h.word (k := 2) (by omega)
  four := h.word (k := 4) (by omega)
  six := h.word (k := 6) (by omega)
  eight := h.word (k := 8) (by omega)

/-- The decoder looks at no byte but these ten. -/
theorem SameBytes.decode : ngM68kDecode rom pc = ngM68kDecode rom' pc := by
  have hop : ngProgramRomRead16 rom pc = ngProgramRomRead16 rom' pc := by
    simpa using h.word (k := 0) (by omega)
  have hm0 : ngProgramRomAddrIsMapped rom pc = ngProgramRomAddrIsMapped rom' pc := by
    simpa using (h 0 (by omega)).1
  have hm1 : ngProgramRomAddrIsMapped rom (pc + 1) = ngProgramRomAddrIsMapped rom' (pc + 1) :=
    (h 1 (by omega)).1
  obtain ⟨-, -, hlen, hext⟩ := decodeOpcode_framed rom rom' pc pc (ngProgramRomRead16 rom' pc)
  unfold ngM68kDecode finishDecode
  dsimp only
  rw [hm0, hm1, hop, hext h.extensions]
  rw [hext h.extensions] at hlen
  -- the last byte is one of the ten
  have hlast : ∀ l, WordLength l → ngProgramRomAddrIsMapped rom (pc + l.setWidth 32 - 1) =
      ngProgramRomAddrIsMapped rom' (pc + l.setWidth 32 - 1) := by
    have e : ∀ l : BitVec 32, pc + l - 1 = pc + (l - 1) := fun l => by
      rw [BitVec.sub_eq_add_neg, BitVec.add_assoc, ← BitVec.sub_eq_add_neg]
    rintro l (rfl | rfl | rfl | rfl | rfl) <;> rw [e]
    · exact (h 1 (by omega)).1
    · exact (h 3 (by omega)).1
    · exact (h 5 (by omega)).1
    · exact (h 7 (by omega)).1
    · exact (h 9 (by omega)).1
  rw [hlast _ hlen]

end SameBytes

end NeoRecomp
