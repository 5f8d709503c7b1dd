import NeoRecomp.Correct.DecodeFrame

/-!
# Decoding looks at no byte behind the instruction

The extension words a pattern reads are those its length counts, so a decoded record is decided by
the bytes it covers.
-/

namespace NeoRecomp

/-! ## Extension words inside a length -/

/-- Two images hold the same extension words within the first `len` bytes at `addr`. -/
structure SameWords (rom rom' : NgProgramRom) (addr : BitVec 32) (len : BitVec 8) : Prop where
  two : 4 ≤ len → ngProgramRomRead16 rom (addr + 2) = ngProgramRomRead16 rom' (addr + 2)
  four : 6 ≤ len → ngProgramRomRead16 rom (addr + 4) = ngProgramRomRead16 rom' (addr + 4)
  six : 8 ≤ len → ngProgramRomRead16 rom (addr + 6) = ngProgramRomRead16 rom' (addr + 6)
  eight : 10 ≤ len → ngProgramRomRead16 rom (addr + 8) = ngProgramRomRead16 rom' (addr + 8)

theorem SameWords.mono {rom rom' : NgProgramRom} {addr : BitVec 32} {len len' : BitVec 8}
    (h : SameWords rom rom' addr len') (hle : len ≤ len') : SameWords rom rom' addr len where
  two hl := h.two (BitVec.le_trans hl hle)
  four hl := h.four (BitVec.le_trans hl hle)
  six hl := h.six (BitVec.le_trans hl hle)
  eight hl := h.eight (BitVec.le_trans hl hle)

/-! ## Operands -/

/-- The number of extension bytes of an operand, from the opcode fields. -/
def eaLengthOf (mode reg size : BitVec 8) : BitVec 8 :=
  if mode < 5 then 0 else if mode < 7 then 2
  else if reg = 1 then 4 else if reg = 4 then (if size = 4 then 4 else 2)
  else if reg < 4 then 2 else 0

theorem decodeEa_length {mode reg : BitVec 8} (hm : mode < 8) (hr : reg < 8) (rom : NgProgramRom)
    (ext : BitVec 32) (size : BitVec 8) :
    (decodeEa rom ext mode reg size).2 = eaLengthOf mode reg size := by
  refine decodeEa_cases rom ext size (P := fun mode reg p => p.2 = eaLengthOf mode reg size)
    ?_ ?_ ?_ ?_ ?_ ?_ ?_ ?_ ?_ ?_ ?_ ?_ ?none hm hr
  case none => rintro r (rfl | rfl | rfl) <;> rfl
  all_goals intros; rfl

/-- An operand looks at the extension words its length counts. -/
theorem decodeEa_congr_length {rom rom' : NgProgramRom} {ext : BitVec 32} {mode reg : BitVec 8}
    (hm : mode < 8) (hr : reg < 8) (size : BitVec 8)
    (h0 : 2 ≤ eaLengthOf mode reg size → ngProgramRomRead16 rom ext = ngProgramRomRead16 rom' ext)
    (h2 : 4 ≤ eaLengthOf mode reg size →
      ngProgramRomRead16 rom (ext + 2) = ngProgramRomRead16 rom' (ext + 2)) :
    decodeEa rom ext mode reg size = decodeEa rom' ext mode reg size := by
  have h32 : 4 ≤ eaLengthOf mode reg size →
      ngProgramRomRead32 rom ext = ngProgramRomRead32 rom' ext := by
    intro hl
    rw [ngProgramRomRead32, ngProgramRomRead32, h0 (BitVec.le_trans (by decide) hl), h2 hl]
  revert h0 h32
  refine decodeEa_cases rom ext size (P := fun mode reg p =>
    (2 ≤ eaLengthOf mode reg size → ngProgramRomRead16 rom ext = ngProgramRomRead16 rom' ext) →
    (4 ≤ eaLengthOf mode reg size → ngProgramRomRead32 rom ext = ngProgramRomRead32 rom' ext) →
      p = decodeEa rom' ext mode reg size)
    ?_ ?_ ?_ ?_ ?_ ?adisp ?aindex ?absW ?absL ?pcDisp ?pcIndex ?imm ?none hm hr
  case none => rintro r (rfl | rfl | rfl) - - <;> rfl
  case adisp =>
    intro r _ h0 _
    rw [h0 (show (2 : BitVec 8) ≤ 2 by decide)]
    rfl
  case aindex =>
    intro r _ h0 _
    rw [h0 (show (2 : BitVec 8) ≤ 2 by decide)]
    rfl
  case absW =>
    intro h0 _
    rw [h0 (show (2 : BitVec 8) ≤ 2 by decide)]
    rfl
  case absL =>
    intro _ h32
    rw [h32 (show (4 : BitVec 8) ≤ 4 by decide)]
    rfl
  case pcDisp =>
    intro h0 _
    rw [h0 (show (2 : BitVec 8) ≤ 2 by decide)]
    rfl
  case pcIndex =>
    intro h0 _
    rw [h0 (show (2 : BitVec 8) ≤ 2 by decide)]
    rfl
  case imm =>
    intro h0 h32
    change (2 ≤ if size = 4 then (4 : BitVec 8) else 2) → _ at h0
    change (4 ≤ if size = 4 then (4 : BitVec 8) else 2) → _ at h32
    change _ = decodeEaMode7 rom' ext 4 size
    unfold immediateOperand decodeEaMode7
    by_cases hs : size = 4
    · rw [if_pos hs] at h32
      rw [if_pos hs, if_pos hs, h32 (by decide), if_pos hs]
      rfl
    · rw [if_neg hs] at h0
      rw [if_neg hs, if_neg hs, h0 (by decide), if_neg hs]
      by_cases h1 : size = 1
      · rw [if_pos h1, if_pos h1]
        rfl
      · rw [if_neg h1, if_neg h1]
        rfl
  all_goals intros; rfl

section Operands
variable (rom : NgProgramRom) (ext : BitVec 32) (op : BitVec 16) (size : BitVec 8)

/-- The length of the operand in the low opcode bits. -/
def opEaLength : BitVec 8 := eaLengthOf (opEaMode op) (opEaReg op) size

/-- The length of the destination of MOVE. -/
def opDstLength : BitVec 8 := eaLengthOf (opMode6 op) (opReg9 op) size

theorem decodeEa_op_length :
    (decodeEa rom ext (opEaMode op) (opEaReg op) size).2 = opEaLength op size :=
  decodeEa_length (opEaMode_lt op) (opEaReg_lt op) rom ext size

theorem decodeEa_dst_length :
    (decodeEa rom ext (opMode6 op) (opReg9 op) size).2 = opDstLength op size :=
  decodeEa_length (opMode6_lt op) (opReg9_lt op) rom ext size

theorem eaLengthOf_cases (mode reg : BitVec 8) :
    eaLengthOf mode reg size = 0 ∨ eaLengthOf mode reg size = 2 ∨ eaLengthOf mode reg size = 4 := by
  unfold eaLengthOf
  split_ifs <;> decide

theorem four_le_four_add : 4 ≤ 4 + opEaLength op size := by
  have h : opEaLength op size = 0 ∨ opEaLength op size = 2 ∨ opEaLength op size = 4 :=
    eaLengthOf_cases size _ _
  bv_omega

end Operands

section Words
variable {rom rom' : NgProgramRom} {addr : BitVec 32} {op : BitVec 16} {size : BitVec 8}

/-- An operand at the offset `k` of an instruction that ends behind it. -/
theorem SameWords.ea_at {k len : BitVec 8} {mode reg : BitVec 8} (hm : mode < 8) (hr : reg < 8)
    (h : SameWords rom rom' addr len) (hk : k = 2 ∨ k = 4 ∨ k = 6)
    (hlen : len = k + eaLengthOf mode reg size) :
    decodeEa rom (addr + k.setWidth 32) mode reg size =
      decodeEa rom' (addr + k.setWidth 32) mode reg size := by
  subst hlen
  have hl := eaLengthOf_cases size mode reg
  apply decodeEa_congr_length hm hr
  · intro hle
    rcases hk with rfl | rfl | rfl
    · exact h.two (by bv_omega)
    · exact h.four (by bv_omega)
    · exact h.six (by bv_omega)
  · intro hle
    rcases hk with rfl | rfl | rfl
    · exact (BitVec.add_assoc addr 2 2).symm ▸ h.four (by bv_omega)
    · exact (BitVec.add_assoc addr 4 2).symm ▸ h.six (by bv_omega)
    · exact (BitVec.add_assoc addr 6 2).symm ▸ h.eight (by bv_omega)

theorem SameWords.ea_two (h : SameWords rom rom' addr (2 + opEaLength op size)) :
    decodeEa rom (addr + 2) (opEaMode op) (opEaReg op) size =
      decodeEa rom' (addr + 2) (opEaMode op) (opEaReg op) size :=
  h.ea_at (k := 2) (opEaMode_lt op) (opEaReg_lt op) (.inl rfl) rfl

theorem SameWords.ea_four (h : SameWords rom rom' addr (4 + opEaLength op size)) :
    decodeEa rom (addr + 4) (opEaMode op) (opEaReg op) size =
      decodeEa rom' (addr + 4) (opEaMode op) (opEaReg op) size :=
  h.ea_at (k := 4) (opEaMode_lt op) (opEaReg_lt op) (.inr (.inl rfl)) rfl

theorem SameWords.long_two {len : BitVec 8} (h : SameWords rom rom' addr len) (hl : 6 ≤ len) :
    ngProgramRomRead32 rom (addr + 2) = ngProgramRomRead32 rom' (addr + 2) := by
  have e : addr + 2 + 2 = addr + 4 := by rw [BitVec.add_assoc]; rfl
  rw [ngProgramRomRead32, ngProgramRomRead32, e, h.two (BitVec.le_trans (by decide) hl), h.four hl]

theorem SameWords.long_four {len : BitVec 8} (h : SameWords rom rom' addr len) (hl : 8 ≤ len) :
    ngProgramRomRead32 rom (addr + 4) = ngProgramRomRead32 rom' (addr + 4) := by
  have e : addr + 4 + 2 = addr + 6 := by rw [BitVec.add_assoc]; rfl
  rw [ngProgramRomRead32, ngProgramRomRead32, e, h.four (BitVec.le_trans (by decide) hl), h.six hl]

/-- The two operands of MOVE. -/
theorem SameWords.ea_pair (h : SameWords rom rom' addr (2 + opEaLength op size + opDstLength op size)) :
    decodeEa rom (addr + 2) (opEaMode op) (opEaReg op) size =
        decodeEa rom' (addr + 2) (opEaMode op) (opEaReg op) size ∧
      decodeEa rom (addr + (2 + opEaLength op size).setWidth 32) (opMode6 op) (opReg9 op) size =
        decodeEa rom' (addr + (2 + opEaLength op size).setWidth 32) (opMode6 op) (opReg9 op) size := by
  have hs : opEaLength op size = 0 ∨ opEaLength op size = 2 ∨ opEaLength op size = 4 :=
    eaLengthOf_cases size _ _
  have hd : opDstLength op size = 0 ∨ opDstLength op size = 2 ∨ opDstLength op size = 4 :=
    eaLengthOf_cases size _ _
  constructor
  · exact (h.mono (by bv_omega)).ea_two
  · exact h.ea_at (opMode6_lt op) (opReg9_lt op) (by bv_omega) rfl

/-- The destination behind an immediate. -/
theorem SameWords.ea_immediate {p : Prop} [Decidable p]
    (h : SameWords rom rom' addr (2 + (if p then 4 else 2) + opEaLength op size)) :
    decodeEa rom (addr + 2 + (if p then 4 else 2 : BitVec 8).setWidth 32) (opEaMode op) (opEaReg op)
        size =
      decodeEa rom' (addr + 2 + (if p then 4 else 2 : BitVec 8).setWidth 32) (opEaMode op)
        (opEaReg op) size := by
  by_cases hp : p
  · rw [if_pos hp] at h ⊢
    rw [BitVec.add_assoc]
    exact h.ea_at (k := 6) (opEaMode_lt op) (opEaReg_lt op) (.inr (.inr rfl)) rfl
  · rw [if_neg hp] at h ⊢
    rw [BitVec.add_assoc]
    exact h.ea_at (k := 4) (opEaMode_lt op) (opEaReg_lt op) (.inr (.inl rfl)) rfl

/-- The immediate itself. -/
theorem SameWords.immediateOperand
    (h : SameWords rom rom' addr (2 + (if size = 4 then 4 else 2) + opEaLength op size)) :
    immediateOperand rom (addr + 2) size = immediateOperand rom' (addr + 2) size := by
  have hl : opEaLength op size = 0 ∨ opEaLength op size = 2 ∨ opEaLength op size = 4 :=
    eaLengthOf_cases size _ _
  unfold NeoRecomp.immediateOperand
  by_cases hs : size = 4
  · rw [if_pos hs] at h
    rw [if_pos hs, if_pos hs, h.long_two (by bv_omega)]
  · rw [if_neg hs] at h
    rw [if_neg hs, if_neg hs, h.two (by bv_omega)]

end Words

/-! ## Patterns -/

/-- A pattern that names an instruction reads no extension word behind it. -/
def OpcodeDecoder.Delimited (d : OpcodeDecoder) : Prop :=
  ∀ (rom rom' : NgProgramRom) (addr : BitVec 32) (op : BitVec 16),
    (d.fill rom addr op (blankInstr addr op)).mnemonic ≠ .unknown →
    SameWords rom rom' addr (d.fill rom addr op (blankInstr addr op)).byteLength →
      d.fill rom addr op (blankInstr addr op) = d.fill rom' addr op (blankInstr addr op)

theorem decodeMove_delimited : decodeMove.Delimited := by
  intro rom rom' addr op hm h
  simp only [decodeMove, decodeEa_op_mode, decodeEa_dst_mode, decodeEa_op_length,
    decodeEa_dst_length] at hm h ⊢
  generalize (if opTop op = 1 then (1 : BitVec 8) else if opTop op = 2 then 4 else 2) = size
    at hm h ⊢
  by_cases h1 : opMode6 op = 1 ∧ size = 1
  · rw [if_pos h1] at hm
    exact absurd rfl hm
  by_cases h2 : opEaMode op = 1 ∧ size = 1
  · rw [if_neg h1, if_pos h2] at hm
    exact absurd rfl hm
  by_cases h3 : opMode6 op ≠ 1 ∧ (!isDataAlterableEa (opMode6 op) (opReg9 op)) = true
  · rw [if_neg h1, if_neg h2, if_pos h3] at hm
    exact absurd rfl hm
  by_cases hsrc : eaModeOf (opEaMode op) (opEaReg op) = .none
  · rw [if_neg h1, if_neg h2, if_neg h3, if_pos hsrc] at hm
    exact absurd rfl hm
  by_cases hdst : eaModeOf (opMode6 op) (opReg9 op) = .none
  · rw [if_neg h1, if_neg h2, if_neg h3, if_neg hsrc, if_pos hdst] at hm
    exact absurd rfl hm
  rw [if_neg h1, if_neg h2, if_neg h3, if_neg hsrc, if_neg hdst,
    (populateMoveLegacyFields_frame _).2.2, apply_ite NgM68kInstr.byteLength, ite_self] at h
  simp only [if_neg h1, if_neg h2, if_neg h3, if_neg hsrc, if_neg hdst, h.ea_pair]

theorem decodeShiftRotate_delimited : decodeShiftRotate.Delimited := by
  intro rom rom' addr op hm h
  simp only [decodeShiftRotate, decodeEa_op_mode, decodeEa_op_length] at hm h ⊢
  by_cases hmem : opSizeCode op = 3
  · rw [if_pos hmem] at hm h ⊢
    rw [if_pos hmem]
    by_cases hnone : eaModeOf (opEaMode op) (opEaReg op) = .none
    · rw [if_pos hnone] at hm
      exact absurd rfl hm
    · rw [if_neg hnone] at h ⊢
      rw [if_neg hnone, h.ea_two]
  · rw [if_neg hmem, if_neg hmem]

theorem binary_delimited {d : OpcodeDecoder} (hd : d ∈ binaryDecoders) : d.Delimited := by
  simp only [binaryDecoders, List.mem_cons, List.not_mem_nil, or_false] at hd
  rcases hd with rfl | rfl | rfl | rfl | rfl | rfl | rfl | rfl | rfl | rfl
  · exact decodeMove_delimited
  all_goals try exact decodeShiftRotate_delimited
  all_goals
    intro rom rom' addr op hm h
    by_cases hnone : eaModeOf (opEaMode op) (opEaReg op) = .none <;>
    simp only [decodeAluAddressReg, decodeLogicBinary, decodeAddsubDregToEa,
      decodeExchange, decodeMultiply, decodeDivide, decodeAluEaToDreg,
      decodeCmpm, fillWordSourceToDreg, fillExchange, decodeEa_op_mode,
      decodeEa_op_length, decodeUnknown, hnone, if_true, if_false, ne_eq, not_true_eq_false,
      apply_ite NgM68kInstr.mnemonic,
      apply_ite NgM68kInstr.byteLength, populateMemoryDstLegacyFields_frame,
      populateDstLegacyFields_frame, ite_self, blankInstr] at hm h ⊢ <;>
    simp only [h.ea_two]

/-- A branch reads its extension word only where it is four bytes long. -/
theorem populateBranchTarget_congr {rom rom' : NgProgramRom} {addr : BitVec 32} {op : BitVec 16}
    {out : NgM68kInstr}
    (h : SameWords rom rom' addr (populateBranchTarget rom addr op out).byteLength) :
    populateBranchTarget rom addr op out = populateBranchTarget rom' addr op out := by
  unfold populateBranchTarget at h ⊢
  dsimp only at h ⊢
  by_cases hz : (op &&& 0xFF).setWidth 8 = (0 : BitVec 8)
  · rw [if_pos hz] at h ⊢
    rw [if_pos hz, h.two (show (4 : BitVec 8) ≤ 4 by decide)]
  · rw [if_neg hz, if_neg hz]

theorem control_delimited {d : OpcodeDecoder} (hd : d ∈ controlDecoders) : d.Delimited := by
  simp only [controlDecoders, List.mem_cons, List.not_mem_nil, or_false] at hd
  rcases hd with rfl | rfl | rfl | rfl | rfl | rfl | rfl | rfl | rfl | rfl | rfl | rfl | rfl
    | rfl | rfl | rfl | rfl | rfl | rfl | rfl | rfl | rfl | rfl | rfl | rfl <;>
    intro rom rom' addr op hm h <;>
    first
    | exact populateBranchTarget_congr h
    | by_cases hnone : eaModeOf (opEaMode op) (opEaReg op) = .none <;>
      simp only [decodeIllegal, decodeTrap, decodeReset, decodeNop, decodeStop, decodeRte,
        decodeRts, decodeTrapv, decodeRtr, decodeLink, decodeUnlk, decodeMoveUsp, decodeJumpAbsLong,
        decodeJumpPcRelative, decodeJumpAregIndirect, decodeJumpControl, decodeMoveq,
        decodeLeaPcRelative, decodeChk, decodeLea, decodeLeaAbsLong,
        decodeMoveaPcIndex, decodeFixed, decodeEa_op_mode, decodeEa_op_length,
        decodeUnknown, hnone, if_true, if_false, ne_eq, not_true_eq_false,
        apply_ite NgM68kInstr.mnemonic, apply_ite NgM68kInstr.byteLength, ite_self, blankInstr]
        at hm h ⊢ <;>
      first
      | simp only [h.ea_two]
      | simp only [h.two (by decide)]
      | simp only [h.long_two (by decide)]

/-- The immediate and the destination behind it. -/
theorem fillImmediateToEa_congr {rom rom' : NgProgramRom} {addr : BitVec 32} {op : BitVec 16}
    {mn : NgM68kMnemonic} {out : NgM68kInstr}
    (hm : (fillImmediateToEa mn rom addr op out).mnemonic ≠ .unknown)
    (h : SameWords rom rom' addr (fillImmediateToEa mn rom addr op out).byteLength) :
    fillImmediateToEa mn rom addr op out = fillImmediateToEa mn rom' addr op out := by
  unfold fillImmediateToEa at hm h ⊢
  dsimp only at hm h ⊢
  simp only [decodeEa_op_mode, decodeEa_op_length] at hm h ⊢
  generalize sizeFromOpcodeBits (opSizeCode op) = size at hm h ⊢
  by_cases hnone : eaModeOf (opEaMode op) (opEaReg op) = .none
  · rw [if_pos hnone] at hm
    exact absurd rfl hm
  rw [if_neg hnone, (populateDstLegacyFields_frame _ _).2.2] at h
  have himm := h.immediateOperand
  unfold immediateOperand at himm
  rw [if_neg hnone, if_neg hnone, h.ea_immediate, himm]

theorem decodeStaticBit_delimited : decodeStaticBit.Delimited := by
  intro rom rom' addr op hm h
  simp only [decodeStaticBit, decodeEa_op_mode, decodeEa_op_length] at hm h ⊢
  generalize (if opEaMode op = 0 then (4 : BitVec 8) else 1) = size at hm h ⊢
  by_cases hnone : eaModeOf (opEaMode op) (opEaReg op) = .none
  · rw [if_pos hnone] at hm
    exact absurd rfl hm
  · rw [if_neg hnone, (populateDstLegacyFields_frame _ _).2.2] at h
    rw [if_neg hnone, if_neg hnone, h.ea_four, h.two (four_le_four_add op size)]

theorem decodeDynamicBit_delimited : decodeDynamicBit.Delimited := by
  intro rom rom' addr op hm h
  simp only [decodeDynamicBit, decodeEa_op_mode, decodeEa_op_length] at hm h ⊢
  generalize (if opEaMode op = 0 then (4 : BitVec 8) else 1) = size at hm h ⊢
  by_cases hnone : eaModeOf (opEaMode op) (opEaReg op) = .none
  · rw [if_pos hnone] at hm
    exact absurd rfl hm
  · rw [if_neg hnone, (populateDstLegacyFields_frame _ _).2.2] at h
    rw [if_neg hnone, if_neg hnone, h.ea_two]

theorem decodeImmediateToSrCcr_delimited : decodeImmediateToSrCcr.Delimited := by
  intro rom rom' addr op _ h
  simp only [decodeImmediateToSrCcr, apply_ite NgM68kInstr.byteLength, ite_self] at h ⊢
  rw [h.two (by decide)]

theorem decodeMovep_delimited : decodeMovep.Delimited := by
  intro rom rom' addr op _ h
  simp only [decodeMovep, apply_ite NgM68kInstr.byteLength, ite_self] at h ⊢
  rw [h.two (by decide)]

theorem decodeMoveFromSr_delimited : decodeMoveFromSr.Delimited := by
  intro rom rom' addr op hm h
  simp only [decodeMoveFromSr, decodeEa_op_mode, decodeEa_op_length] at hm h ⊢
  by_cases hea : (!isDataAlterableEa (opEaMode op) (opEaReg op)) = true
  · rw [if_pos hea] at hm
    exact absurd rfl hm
  by_cases hnone : eaModeOf (opEaMode op) (opEaReg op) = .none
  · rw [if_neg hea, if_pos hnone] at hm
    exact absurd rfl hm
  rw [if_neg hea, if_neg hnone] at h ⊢
  rw [if_neg hea, if_neg hnone, h.ea_two]

theorem decodeMoveToSrCcr_delimited : decodeMoveToSrCcr.Delimited := by
  intro rom rom' addr op hm h
  simp only [decodeMoveToSrCcr, decodeEa_op_mode, decodeEa_op_length] at hm h ⊢
  by_cases hea : (!isDataEa (opEaMode op) (opEaReg op)) = true
  · rw [if_pos hea] at hm
    exact absurd rfl hm
  by_cases hnone : eaModeOf (opEaMode op) (opEaReg op) = .none
  · rw [if_neg hea, if_pos hnone] at hm
    exact absurd rfl hm
  rw [if_neg hea, if_neg hnone] at h ⊢
  rw [if_neg hea, if_neg hnone, h.ea_two]

theorem immediate_delimited {d : OpcodeDecoder} (hd : d ∈ immediateDecoders) : d.Delimited := by
  simp only [immediateDecoders, List.mem_cons, List.not_mem_nil, or_false] at hd
  rcases hd with rfl | rfl | rfl | rfl | rfl | rfl | rfl | rfl | rfl | rfl
  · exact decodeImmediateToSrCcr_delimited
  · exact decodeMovep_delimited
  · exact decodeMoveFromSr_delimited
  · exact decodeMoveToSrCcr_delimited
  · exact decodeStaticBit_delimited
  · exact decodeDynamicBit_delimited
  all_goals intro rom rom' addr op hm h
  all_goals exact fillImmediateToEa_congr hm h

theorem late_delimited {d : OpcodeDecoder} (hd : d ∈ lateDecoders) : d.Delimited := by
  simp only [lateDecoders, List.mem_cons, List.not_mem_nil, or_false] at hd
  rcases hd with rfl | rfl | rfl | rfl | rfl | rfl | rfl | rfl | rfl | rfl | rfl <;>
    intro rom rom' addr op hm h
  · have hw : SameWords rom rom' addr 6 := h
    simp only [decodeLateAndiAregDisp, hw.two (by decide), hw.four (by decide)]
  · have hw : SameWords rom rom' addr 6 := h
    simp only [decodeLateMoveAregToAbs, hw.long_two (by decide)]
  · have hw : SameWords rom rom' addr 8 := h
    simp only [decodeLateMoveWordImmToAbs, hw.two (by decide), hw.long_four (by decide)]
  · have hw : SameWords rom rom' addr 8 := h
    simp only [decodeLateMoveByteImmToAbs, hw.two (by decide), hw.long_four (by decide)]
  · have hw : SameWords rom rom' addr 6 := h
    simp only [decodeLateMoveDregToAbs, hw.long_two (by decide)]
  · have hw : SameWords rom rom' addr 6 := h
    simp only [decodeLateMoveAbsToDreg, hw.long_two (by decide)]
  · have hw : SameWords rom rom' addr 4 := h
    simp only [decodeLateMoveByteAregDisp, hw.two (by decide)]
  · have hw : SameWords rom rom' addr 6 := h
    simp only [decodeLateMoveAbsToDreg, hw.long_two (by decide)]
  · have hw : SameWords rom rom' addr 4 := h
    simp only [decodeLateMoveWordImmToDreg, hw.two (by decide)]
  · have hw : SameWords rom rom' addr 4 := h
    simp only [decodeLateMoveByteImmToDreg, hw.two (by decide)]
  · have hw : SameWords rom rom' addr 4 := h
    simp only [decodeLateCmpiByteDreg, hw.two (by decide)]

section Unary
variable {rom rom' : NgProgramRom} {addr : BitVec 32} {op : BitVec 16} {mn : NgM68kMnemonic}
  {out : NgM68kInstr}

theorem fillUnary_congr (hm : (fillUnary mn rom addr op out).mnemonic ≠ .unknown)
    (h : SameWords rom rom' addr (fillUnary mn rom addr op out).byteLength) :
    fillUnary mn rom addr op out = fillUnary mn rom' addr op out := by
  unfold fillUnary at hm h ⊢
  dsimp only at hm h ⊢
  simp only [decodeEa_op_mode, decodeEa_op_length] at hm h ⊢
  by_cases hnone : eaModeOf (opEaMode op) (opEaReg op) = .none
  · rw [if_pos hnone] at hm
    exact absurd rfl hm
  · rw [if_neg hnone, populateUnaryDstLegacyFields, (populateDstLegacyFields_frame _ _).2.2] at h
    rw [if_neg hnone, if_neg hnone, h.ea_two]

theorem fillByteUnary_congr (hm : (fillByteUnary mn rom addr op out).mnemonic ≠ .unknown)
    (h : SameWords rom rom' addr (fillByteUnary mn rom addr op out).byteLength) :
    fillByteUnary mn rom addr op out = fillByteUnary mn rom' addr op out := by
  unfold fillByteUnary at hm h ⊢
  dsimp only at hm h ⊢
  simp only [decodeEa_op_mode, decodeEa_op_length] at hm h ⊢
  by_cases hnone : eaModeOf (opEaMode op) (opEaReg op) = .none
  · rw [if_pos hnone, populateUnaryDstLegacyFields, (populateDstLegacyFields_frame _ _).2.1] at hm
    exact absurd rfl hm
  · rw [if_neg hnone, populateUnaryDstLegacyFields, (populateDstLegacyFields_frame _ _).2.2] at h
    rw [if_neg hnone, if_neg hnone, h.ea_two]

end Unary

theorem decodeQuick_delimited : decodeQuick.Delimited := by
  intro rom rom' addr op hm h
  simp only [decodeQuick, decodeEa_op_mode, decodeEa_op_length] at hm h ⊢
  by_cases hnone : eaModeOf (opEaMode op) (opEaReg op) = .none
  · rw [if_pos hnone] at hm
    exact absurd rfl hm
  · rw [if_neg hnone, (populateDstLegacyFields_frame _ _).2.2] at h
    rw [if_neg hnone, if_neg hnone, h.ea_two]

theorem decodeMovemRegToMem_delimited : decodeMovemRegToMem.Delimited := by
  intro rom rom' addr op hm h
  simp only [decodeMovemRegToMem, decodeEa_op_mode, decodeEa_op_length] at hm h ⊢
  generalize (if opMatch op 0x0040 0 = true then (2 : BitVec 8) else 4) = size at hm h ⊢
  by_cases hnone : eaModeOf (opEaMode op) (opEaReg op) = .none
  · rw [if_pos hnone] at hm
    exact absurd rfl hm
  · rw [if_neg hnone] at h ⊢
    rw [if_neg hnone, h.ea_four, h.two (four_le_four_add op size)]

theorem decodeMovemMemToReg_delimited : decodeMovemMemToReg.Delimited := by
  intro rom rom' addr op hm h
  simp only [decodeMovemMemToReg, decodeEa_op_mode, decodeEa_op_length] at hm h ⊢
  generalize (if opMatch op 0x0040 0 = true then (2 : BitVec 8) else 4) = size at hm h ⊢
  by_cases hnone : eaModeOf (opEaMode op) (opEaReg op) = .none
  · rw [if_pos hnone] at hm
    exact absurd rfl hm
  · rw [if_neg hnone] at h ⊢
    rw [if_neg hnone, h.ea_four, h.two (four_le_four_add op size)]

theorem decodeScc_delimited : decodeScc.Delimited := by
  intro rom rom' addr op hm h
  simp only [decodeScc, decodeEa_op_mode, decodeEa_op_length] at hm h ⊢
  by_cases hnone : eaModeOf (opEaMode op) (opEaReg op) = .none
  · rw [if_pos hnone] at hm
    exact absurd rfl hm
  · rw [if_neg hnone] at h ⊢
    rw [if_neg hnone, h.ea_two]

theorem decodePea_delimited : decodePea.Delimited := by
  intro rom rom' addr op hm h
  simp only [decodePea, decodeEa_op_mode, decodeEa_op_length] at hm h ⊢
  by_cases hnone : eaModeOf (opEaMode op) (opEaReg op) = .none
  · rw [if_pos hnone] at hm
    exact absurd rfl hm
  · rw [if_neg hnone] at h ⊢
    rw [if_neg hnone, h.ea_two]

theorem decodeTst_delimited : decodeTst.Delimited := by
  intro rom rom' addr op hm h
  by_cases hnone : eaModeOf (opEaMode op) (opEaReg op) = .none
  · simp only [decodeTst, decodeEa_op_mode, if_pos hnone] at hm
    exact absurd rfl hm
  · simp only [decodeTst, decodeEa_op_mode, decodeEa_op_length, if_neg hnone,
      apply_ite NgM68kInstr.byteLength, ite_self] at h ⊢
    rw [h.ea_two]

theorem data_delimited {d : OpcodeDecoder} (hd : d ∈ dataDecoders) : d.Delimited := by
  simp only [dataDecoders, List.mem_cons, List.not_mem_nil, or_false] at hd
  rcases hd with rfl | rfl | rfl | rfl | rfl | rfl | rfl | rfl | rfl | rfl | rfl | rfl | rfl
    | rfl | rfl | rfl | rfl | rfl | rfl | rfl | rfl
  · exact fun _ _ _ _ _ _ => rfl
  · exact fun _ _ _ _ _ _ => rfl
  · exact fun _ _ _ _ _ _ => rfl
  · intro rom rom' addr op hm h
    have hw : SameWords rom rom' addr 4 := h
    simp only [decodeDbcc, hw.two (by decide)]
  · exact decodeScc_delimited
  · exact decodeQuick_delimited
  · exact fun _ _ _ _ hm h => fillUnary_congr hm h
  · exact fun _ _ _ _ hm h => fillUnary_congr hm h
  · exact fun _ _ _ _ hm h => fillByteUnary_congr hm h
  · exact fun _ _ _ _ _ _ => rfl
  · exact fun _ _ _ _ _ _ => rfl
  · exact decodeMovemRegToMem_delimited
  · exact decodeMovemMemToReg_delimited
  · exact decodePea_delimited
  · exact fun _ _ _ _ hm h => fillByteUnary_congr hm h
  · exact decodeTst_delimited
  · intro rom rom' addr op hm h
    have hw : SameWords rom rom' addr 6 := h
    simp only [decodeLateAbsLong, hw.long_two (by decide)]
  · exact fun _ _ _ _ _ _ => rfl
  · intro rom rom' addr op hm h
    have hw : SameWords rom rom' addr 6 := h
    simp only [decodeLateAbsLong, hw.long_two (by decide)]
  · intro rom rom' addr op hm h
    have hw : SameWords rom rom' addr 4 := h
    simp only [decodeLateTstAregDisp, hw.two (by decide)]
  · exact fun _ _ _ _ _ _ => rfl

theorem opcodeDecoders_delimited {d : OpcodeDecoder} (hd : d ∈ opcodeDecoders) : d.Delimited := by
  rw [opcodeDecoders_eq] at hd
  simp only [List.mem_append] at hd
  rcases hd with (((hd | hd) | hd) | hd) | hd
  · exact binary_delimited hd
  · exact control_delimited hd
  · exact immediate_delimited hd
  · exact late_delimited hd
  · exact data_delimited hd

theorem decodeOpcode_delimited {rom rom' : NgProgramRom} {addr : BitVec 32} {op : BitVec 16}
    (hm : (decodeOpcode rom addr op).mnemonic ≠ .unknown)
    (h : SameWords rom rom' addr (decodeOpcode rom addr op).byteLength) :
    decodeOpcode rom addr op = decodeOpcode rom' addr op := by
  unfold decodeOpcode at hm h ⊢
  cases hf : opcodeDecoders.find? fun d => d.guard op with
  | none => rfl
  | some d =>
    rw [hf] at hm h
    exact opcodeDecoders_delimited (List.mem_of_find?_eq_some hf) rom rom' addr op hm h

/-! ## Decoding -/

/-- `rom'` agrees with `rom` on which of `n` bytes from `addr` on are mapped and on their
content. -/
def AgreeOn (rom rom' : NgProgramRom) (addr : BitVec 32) (n : Nat) : Prop :=
  ∀ k < n, ngProgramRomAddrIsMapped rom (addr + BitVec.ofNat 32 k) =
      ngProgramRomAddrIsMapped rom' (addr + BitVec.ofNat 32 k) ∧
    (ngProgramRomAddrIsMapped rom (addr + BitVec.ofNat 32 k) = true →
      ngProgramRomRead8 rom (addr + BitVec.ofNat 32 k) =
        ngProgramRomRead8 rom' (addr + BitVec.ofNat 32 k))

theorem read8_of_not_mapped {rom : NgProgramRom} {addr : BitVec 32}
    (h : ngProgramRomAddrIsMapped rom addr = false) : ngProgramRomRead8 rom addr = 0xFF := by
  rw [ngProgramRomAddrIsMapped, Option.isSome_eq_false_iff, Option.isNone_iff_eq_none] at h
  rw [ngProgramRomRead8, h]

section AgreeOn
variable {rom rom' : NgProgramRom} {addr : BitVec 32} {n : Nat} (h : AgreeOn rom rom' addr n)
include h

theorem AgreeOn.byte {k : Nat} (hk : k < n) : ngProgramRomRead8 rom (addr + BitVec.ofNat 32 k) =
    ngProgramRomRead8 rom' (addr + BitVec.ofNat 32 k) := by
  obtain ⟨hmap, hread⟩ := h k hk
  cases hm : ngProgramRomAddrIsMapped rom (addr + BitVec.ofNat 32 k) with
  | true => exact hread hm
  | false =>
    have hm' := hmap.symm.trans hm
    rw [read8_of_not_mapped hm, read8_of_not_mapped hm']

theorem AgreeOn.word {k : Nat} (hk : k + 1 < n) :
    ngProgramRomRead16 rom (addr + BitVec.ofNat 32 k) =
      ngProgramRomRead16 rom' (addr + BitVec.ofNat 32 k) := by
  have e : addr + BitVec.ofNat 32 k + 1 = addr + BitVec.ofNat 32 (k + 1) := by
    rw [BitVec.add_assoc, BitVec.ofNat_add]
    rfl
  rw [ngProgramRomRead16, ngProgramRomRead16, e, h.byte (by omega), h.byte hk]

end AgreeOn

theorem AgreeOn.sameWords {rom rom' : NgProgramRom} {addr : BitVec 32} {len : BitVec 8}
    (h : AgreeOn rom rom' addr len.toNat) : SameWords rom rom' addr len where
  two hl := h.word (k := 2) (by bv_omega)
  four hl := h.word (k := 4) (by bv_omega)
  six hl := h.word (k := 6) (by bv_omega)
  eight hl := h.word (k := 8) (by bv_omega)

/-- The bytes a named instruction covers decide its record. -/
theorem ngM68kDecode_agree {rom rom' : NgProgramRom} {addr : BitVec 32} {instr : NgM68kInstr}
    (h : ngM68kDecode rom addr = (true, instr)) (hm : instr.mnemonic ≠ .unknown)
    (hagree : AgreeOn rom rom' addr instr.byteLength.toNat) :
    ngM68kDecode rom' addr = (true, instr) := by
  have hlen := ngM68kDecode_length h
  have htwo : 2 ≤ instr.byteLength.toNat ∧ instr.byteLength.toNat ≤ 10 := by
    rcases hlen with hl | hl | hl | hl | hl <;> rw [hl] <;> decide
  have hword : ngProgramRomRead16 rom addr = ngProgramRomRead16 rom' addr := by
    simpa using hagree.word (k := 0) (by omega)
  have hm0 : ngProgramRomAddrIsMapped rom addr = ngProgramRomAddrIsMapped rom' addr := by
    simpa using (hagree 0 (by omega)).1
  have hm1 : ngProgramRomAddrIsMapped rom (addr + 1) = ngProgramRomAddrIsMapped rom' (addr + 1) :=
    (hagree 1 (by omega)).1
  have hopcode := (ngM68kDecode_eq h).1
  have hsame : decodeOpcode rom addr (ngProgramRomRead16 rom addr) =
      decodeOpcode rom' addr (ngProgramRomRead16 rom' addr) := by
    rw [← hword]
    apply decodeOpcode_delimited
    · rwa [← hopcode]
    · rw [← hopcode]
      exact hagree.sameWords
  -- the last byte is one of the bytes covered
  have hlast : ngProgramRomAddrIsMapped rom (addr + instr.byteLength.setWidth 32 - 1) =
      ngProgramRomAddrIsMapped rom' (addr + instr.byteLength.setWidth 32 - 1) := by
    have e : addr + instr.byteLength.setWidth 32 - 1 =
        addr + BitVec.ofNat 32 (instr.byteLength.toNat - 1) := by
      bv_omega
    rw [e]
    exact (hagree _ (by omega)).1
  rw [hopcode] at hlast
  rw [← h]
  unfold ngM68kDecode finishDecode
  dsimp only
  rw [← hsame, hm0, hm1, hlast]

/-- A failed decode leaves the blank record of the address. -/
theorem ngM68kDecode_failed {rom : NgProgramRom} {addr : BitVec 32} {instr : NgM68kInstr}
    (h : ngM68kDecode rom addr = (false, instr)) : instr = { addr := addr } := by
  have hlen := (decodeOpcode_framed rom rom addr addr (ngProgramRomRead16 rom addr)).2.2.1
  have hne : (decodeOpcode rom addr (ngProgramRomRead16 rom addr)).byteLength ≠ 0 := by
    rcases hlen with hl | hl | hl | hl | hl <;> rw [hl] <;> decide
  unfold ngM68kDecode finishDecode at h
  dsimp only at h
  rw [if_neg hne] at h
  split_ifs at h
  · exact (Prod.mk.inj h).2.symm
  · exact (Prod.mk.inj h).2.symm
  · exact absurd (Prod.mk.inj h).1 (by decide)

/-- Decoding is self-delimiting: a decoded instruction other than UNKNOWN has two to ten bytes in
whole words and is decided by them, and a failed decode leaves an INVALID record without a length
at the address asked for. -/
theorem ngM68kDecode_selfDelimiting (rom : NgProgramRom) (addr : BitVec 32) (instr : NgM68kInstr) :
    (ngM68kDecode rom addr = (true, instr) → instr.mnemonic ≠ .unknown →
      instr.byteLength.toNat % 2 = 0 ∧ 2 ≤ instr.byteLength.toNat ∧
        instr.byteLength.toNat ≤ 10 ∧
        ∀ rom', AgreeOn rom rom' addr instr.byteLength.toNat →
          ngM68kDecode rom' addr = (true, instr)) ∧
    (ngM68kDecode rom addr = (false, instr) →
      instr.mnemonic = .invalid ∧ instr.byteLength = 0 ∧ instr.addr = addr) := by
  constructor
  · intro h hm
    have hlen : instr.byteLength.toNat % 2 = 0 ∧ 2 ≤ instr.byteLength.toNat ∧
        instr.byteLength.toNat ≤ 10 := by
      rcases ngM68kDecode_length h with hl | hl | hl | hl | hl <;> rw [hl] <;> decide
    exact ⟨hlen.1, hlen.2.1, hlen.2.2, fun rom' hagree => ngM68kDecode_agree h hm hagree⟩
  · intro h
    rw [ngM68kDecode_failed h]
    exact ⟨rfl, rfl, rfl⟩

/-- `STOP #$2700` and two more bytes. -/
def stopRom (tail : BitVec 16) : NgProgramRom :=
  { data := #[0x4E, 0x72, 0x27, 0x00, tail.extractLsb' 8 8, tail.extractLsb' 0 8], size := 6,
    size_eq := rfl }

theorem ngM68kDecode_selfDelimiting_stop :
    ngM68kDecode (stopRom 0xFFFF) 0 = (true,
      { addr := 0, opcode := 0x4E72, mnemonic := .stop, byteLength := 4, immediate := 0x2700 }) := by
  refine ((ngM68kDecode_selfDelimiting (stopRom 0x4E71) 0 _).1 ?_ ?_).2.2.2 (stopRom 0xFFFF) ?_
  · rfl
  · decide
  · unfold AgreeOn
    decide +kernel

end NeoRecomp
