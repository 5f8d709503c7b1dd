import NeoRecomp.Correct.DecodeOperands
import NeoRecomp.Validate.Shapes

/-!
# Decoded one-operand instructions are accepted

Here and in the next two modules there is one lemma for each opcode pattern: the record it fills in
is either UNKNOWN or passes validation.
-/

namespace NeoRecomp

/-- UNKNOWN, or accepted by the validator. -/
def Accepted (instr : NgM68kInstr) : Prop :=
  instr.mnemonic = .unknown ∨ ngM68kValidate instr = true

/-- The record before the first pattern is tried. -/
def blankInstr (addr : BitVec 32) (op : BitVec 16) : NgM68kInstr :=
  { addr := addr, opcode := op, mnemonic := .unknown, byteLength := 2 }

theorem accepted_unknown (out : NgM68kInstr) : Accepted (decodeUnknown out) := .inl rfl

/-! ## Shared parts -/

theorem sizeBitsOf_opSizeCode {op : BitVec 16} (h : opSizeCode op ≠ 3) :
    sizeBitsOf (sizeFromOpcodeBits (opSizeCode op)) = some (op &&& 0x00C0) ∧
      validSize (sizeFromOpcodeBits (opSizeCode op)) = true := by
  rw [← sizeCode_shift]
  rcases opSizeCode_cases h with h | h | h <;> rw [h] <;> decide

/-- The summary fields of a destination pass their check. -/
theorem populateDstLegacyFields_eq (dregForm : NgM68kOperandForm) (out : NgM68kInstr)
    (hform : out.form = .none) (hreg : out.reg = 0) (habs : out.absoluteAddr = 0)
    (hdisp : out.displacement = 0) :
    ∃ form reg absoluteAddr displacement,
      populateDstLegacyFields dregForm out = { out with form, reg, absoluteAddr, displacement } ∧
      validateDstLegacyFields dregForm { out with form, reg, absoluteAddr, displacement } = true := by
  unfold populateDstLegacyFields populateMemoryDstLegacyFields
  split_ifs with h1 h2 h3
  · exact ⟨_, _, _, _, rfl, by simp [validateDstLegacyFields, h1, habs, hdisp]⟩
  · refine ⟨_, _, _, _, rfl, ?_⟩
    rcases h2 with h2 | h2 <;> simp [validateDstLegacyFields, h2, hreg, hdisp]
  · exact ⟨_, _, _, _, rfl, by simp [validateDstLegacyFields, h3, habs]⟩
  · refine ⟨out.form, out.reg, out.absoluteAddr, out.displacement, rfl, ?_⟩
    rw [not_or] at h2
    unfold validateDstLegacyFields
    split <;> simp_all

section Patterns
variable {rom : NgProgramRom} {addr : BitVec 32} {op : BitVec 16}

theorem add_len_ne_zero {base len : BitVec 8} (hb : base = 2 ∨ base = 4 ∨ base = 6)
    (h : len = 0 ∨ len = 2 ∨ len = 4) : (base + len != 0) = true := by
  rcases hb with rfl | rfl | rfl <;> rcases h with rfl | rfl | rfl <;> rfl

/-- What the validator asks of the operand in the low six opcode bits. -/
structure EaChecked (ea : NgM68kEa × BitVec 8) (op : BitVec 16) : Prop where
  mode : ea.1.mode ≠ .none
  field : eaOpcodeField ea.1 = some ((opEaMode op <<< 3) ||| opEaReg op)
  len : ea.2 = 0 ∨ ea.2 = 2 ∨ ea.2 = 4

theorem eaChecked {ext : BitVec 32} {size : BitVec 8}
    (hne : (decodeEa rom ext (opEaMode op) (opEaReg op) size).1.mode ≠ .none) :
    EaChecked (decodeEa rom ext (opEaMode op) (opEaReg op) size) op :=
  ⟨hne, decodeEa_field (opEaMode_lt op) (opEaReg_lt op) hne,
    decodeEa_len (opEaMode_lt op) (opEaReg_lt op)⟩

theorem dataAlterable_checked (rom : NgProgramRom) (ext : BitVec 32) (size : BitVec 8)
    (hea : isDataAlterableEa (opEaMode op) (opEaReg op) = true) :
    EaChecked (decodeEa rom ext (opEaMode op) (opEaReg op) size) op ∧
      exactDataAlterableExtLength (decodeEa rom ext (opEaMode op) (opEaReg op) size).1 =
        some (decodeEa rom ext (opEaMode op) (opEaReg op) size).2 := by
  have hlen := @decodeEa_dataAlterable rom ext _ _ size (opEaMode_lt op)
    (opEaReg_lt op) hea
  refine ⟨eaChecked ?_, hlen⟩
  intro hnone
  rw [exactDataAlterableExtLength, hnone, exactMemoryAlterableExtLength, hnone] at hlen
  cases hlen

theorem memoryAlterable_checked (rom : NgProgramRom) (ext : BitVec 32) (size : BitVec 8)
    (hea : isMemoryAlterableEa (opEaMode op) (opEaReg op) = true) :
    EaChecked (decodeEa rom ext (opEaMode op) (opEaReg op) size) op ∧
      exactMemoryAlterableExtLength (decodeEa rom ext (opEaMode op) (opEaReg op) size).1 =
        some (decodeEa rom ext (opEaMode op) (opEaReg op) size).2 := by
  have hlen := @decodeEa_memoryAlterable rom ext _ _ size (opEaMode_lt op)
    (opEaReg_lt op) hea
  refine ⟨eaChecked ?_, hlen⟩
  intro hnone
  rw [exactMemoryAlterableExtLength, hnone] at hlen
  cases hlen

theorem control_checked (rom : NgProgramRom) (ext : BitVec 32) (size : BitVec 8)
    (hea : isControlEa (opEaMode op) (opEaReg op) = true) :
    EaChecked (decodeEa rom ext (opEaMode op) (opEaReg op) size) op ∧
      exactControlEaExtLength (decodeEa rom ext (opEaMode op) (opEaReg op) size).1 ext =
        some (decodeEa rom ext (opEaMode op) (opEaReg op) size).2 := by
  have hlen := @decodeEa_control rom ext _ _ size (opEaMode_lt op)
    (opEaReg_lt op) hea
  refine ⟨eaChecked ?_, hlen⟩
  intro hnone
  rw [exactControlEaExtLength, hnone] at hlen
  cases hlen

/-! ## One-operand instructions -/

theorem fillUnary_accepted {mn : NgM68kMnemonic} {base : BitVec 16}
    (hmn : mn = .clr ∨ mn = .negx ∨ mn = .neg ∨ mn = .not) (hbase : unaryBaseOpcode mn = some base)
    (hop : op &&& 0xFF00 = base) (hs : opSizeCode op ≠ 3)
    (hea : isDataAlterableEa (opEaMode op) (opEaReg op) = true) :
    Accepted (fillUnary mn rom addr op (blankInstr addr op)) := by
  obtain ⟨hbits, -⟩ := sizeBitsOf_opSizeCode hs
  obtain ⟨hc, hlen⟩ := dataAlterable_checked rom (addr + 2) (sizeFromOpcodeBits (opSizeCode op)) hea
  unfold fillUnary
  dsimp only
  generalize decodeEa rom (addr + 2) (opEaMode op) (opEaReg op)
    (sizeFromOpcodeBits (opSizeCode op)) = ea at hc hlen ⊢
  rw [if_neg hc.mode, populateUnaryDstLegacyFields]
  obtain ⟨form, reg, absAddr, disp, heq, hlegacy⟩ := populateDstLegacyFields_eq .dreg
    { blankInstr addr op with mnemonic := mn, size := sizeFromOpcodeBits (opSizeCode op),
                              byteLength := 2 + ea.2, dst := ea.1 } rfl rfl rfl rfl
  rw [heq]
  right
  have hlen0 := add_len_ne_zero (.inl rfl) hc.len
  rcases hmn with rfl | rfl | rfl | rfl <;>
  · simp only [ngM68kValidate, validateUnaryDataAlterable, hlen0, hlen, hc.field, hbits, hbase,
      Bool.false_eq_true, if_false, hlegacy, eaField_widen, ← hop, and_or_and, BitVec.reduceOr]
    simp [blankInstr, eaIsEmpty, and_ones]

theorem fillByteUnary_accepted {mn : NgM68kMnemonic} {base : BitVec 16}
    (hmn : mn = .nbcd ∨ mn = .tas) (hbase : unaryBaseOpcode mn = some base)
    (hop : op &&& 0xFFC0 = base) (hea : isDataAlterableEa (opEaMode op) (opEaReg op) = true) :
    Accepted (fillByteUnary mn rom addr op (blankInstr addr op)) := by
  obtain ⟨hc, hlen⟩ := dataAlterable_checked rom (addr + 2) 1 hea
  unfold fillByteUnary
  dsimp only
  generalize decodeEa rom (addr + 2) (opEaMode op) (opEaReg op) 1 = ea at hc hlen ⊢
  rw [if_neg hc.mode, populateUnaryDstLegacyFields]
  obtain ⟨form, reg, absAddr, disp, heq, hlegacy⟩ := populateDstLegacyFields_eq .dreg
    { blankInstr addr op with mnemonic := mn, size := 1, byteLength := 2 + ea.2, dst := ea.1 }
    rfl rfl rfl rfl
  rw [heq]
  right
  have hlen0 := add_len_ne_zero (.inl rfl) hc.len
  rcases hmn with rfl | rfl <;>
  · simp only [ngM68kValidate, validateUnaryDataAlterable, hlen0, hlen, hc.field, hbase, if_true,
      hlegacy, eaField_widen, ← hop]
    simp [blankInstr, eaIsEmpty, and_or_and, and_ones]

/-! ## Immediate instructions -/

theorem fillImmediateToEa_accepted {mn : NgM68kMnemonic} {base : BitVec 16}
    (hmn : (mn, base) ∈ [(.ori, 0x0000), (.andi, 0x0200), (.subi, 0x0400), (.addi, 0x0600),
      (.eori, 0x0A00), (.cmpi, 0x0C00)])
    (hop : op &&& 0xFF00 = base) (hg : immediateToEaGuard op = true) :
    Accepted (fillImmediateToEa mn rom addr op (blankInstr addr op)) := by
  simp only [immediateToEaGuard, Bool.and_eq_true, decide_eq_true_iff] at hg
  obtain ⟨⟨hs, hm1⟩, hm7⟩ := hg
  have hea : isDataAlterableEa (opEaMode op) (opEaReg op) = true := by
    simp only [isDataAlterableEa, Bool.and_eq_true, decide_eq_true_iff]
    exact ⟨hm1, hm7⟩
  obtain ⟨hbits, hvs⟩ := sizeBitsOf_opSizeCode hs
  unfold fillImmediateToEa
  dsimp only
  have hw := @validImmediateWidth_immediateOperand rom (addr + 2) _ hvs
  unfold immediateOperand at hw
  generalize sizeFromOpcodeBits (opSizeCode op) = size at hbits hvs hw ⊢
  obtain ⟨hc, hlen⟩ := dataAlterable_checked rom
    (addr + 2 + (if size = 4 then (4 : BitVec 8) else 2).setWidth 32) size hea
  generalize decodeEa rom _ (opEaMode op) (opEaReg op) size = ea at hc hlen ⊢
  generalize (if size = 4 then ngProgramRomRead32 rom (addr + 2) else _) = immediate at hw ⊢
  rw [if_neg hc.mode]
  obtain ⟨form, reg, absAddr, disp, heq, hlegacy⟩ := populateDstLegacyFields_eq .immToDreg
    { blankInstr addr op with
        mnemonic := mn, size := size, immediate := immediate,
        byteLength := 2 + (if size = 4 then 4 else 2) + ea.2, dst := ea.1 } rfl rfl rfl rfl
  rw [heq]
  right
  have hlen0 : (2 + (if size = 4 then 4 else 2) + ea.2 != 0) = true :=
    add_len_ne_zero (by split_ifs <;> decide) hc.len
  simp only [List.mem_cons, Prod.mk.injEq, List.not_mem_nil, or_false] at hmn
  rcases hmn with ⟨rfl, rfl⟩ | ⟨rfl, rfl⟩ | ⟨rfl, rfl⟩ | ⟨rfl, rfl⟩ | ⟨rfl, rfl⟩ | ⟨rfl, rfl⟩ <;>
  · simp only [ngM68kValidate, validateImmediateToEa, validateCmpi, validateImmediateWithBase,
      validateImmediateDestLegacyFields, hlen0, hlen, hc.field, hbits, hw, hlegacy, eaField_widen]
    rw [← hop]
    simp [blankInstr, eaIsEmpty, and_or_and, and_ones]

theorem dataAlterable_of_immediateToEaGuard (hg : immediateToEaGuard op = true) :
    opSizeCode op ≠ 3 ∧ isDataAlterableEa (opEaMode op) (opEaReg op) = true := by
  simp only [immediateToEaGuard, Bool.and_eq_true, decide_eq_true_iff] at hg
  obtain ⟨⟨hs, hm1⟩, hm7⟩ := hg
  refine ⟨hs, ?_⟩
  simp only [isDataAlterableEa, Bool.and_eq_true, decide_eq_true_iff]
  exact ⟨hm1, hm7⟩

theorem isDataEa_of_dataAlterable (h : isDataAlterableEa (opEaMode op) (opEaReg op) = true) :
    isDataEa (opEaMode op) (opEaReg op) = true := by
  rcases lt_eight_cases (opEaReg_lt op) with hr | hr | hr | hr | hr | hr | hr | hr <;>
    simp_all [isDataAlterableEa, isDataEa]

theorem decodeTst_accepted (hg : decodeTst.guard op = true) :
    Accepted (decodeTst.fill rom addr op (blankInstr addr op)) := by
  simp only [decodeTst, Bool.and_eq_true, opMatch_iff] at hg
  obtain ⟨hop, hg⟩ := hg
  obtain ⟨hs, hea⟩ := dataAlterable_of_immediateToEaGuard hg
  obtain ⟨hbits, hvs⟩ := sizeBitsOf_opSizeCode hs
  simp only [decodeTst]
  generalize sizeFromOpcodeBits (opSizeCode op) = size at hbits hvs ⊢
  obtain ⟨hc, hlen⟩ := dataAlterable_checked rom (addr + 2) size hea
  have hdata : ∀ instr : NgM68kInstr, instr.size = size → instr.addr = addr →
      instr.src = (decodeEa rom (addr + 2) (opEaMode op) (opEaReg op) size).1 →
      exactDataSourceExtLength instr =
        some (decodeEa rom (addr + 2) (opEaMode op) (opEaReg op) size).2 :=
    fun instr h1 h2 h3 => decodeEa_data (opEaMode_lt op) (opEaReg_lt op)
      (isDataEa_of_dataAlterable hea) hvs h1 h3 (by rw [h2])
  generalize decodeEa rom (addr + 2) (opEaMode op) (opEaReg op) size = ea at hc hlen hdata ⊢
  have halt := eaIsDataAlterable_of_extLength hlen
  have hlen0 := add_len_ne_zero (.inl rfl) hc.len
  rw [if_neg hc.mode]
  have hopc : op = 0x4A00 ||| (op &&& 0x00C0) ||| (op &&& 0x003F) := by
    rw [← hop]
    simp only [and_or_and, BitVec.reduceOr, and_ones]
  right
  split_ifs with h1 h2 h3 <;>
    (simp only [ngM68kValidate, validateTst]
     rw [hdata _ rfl rfl rfl]
     simp only [hlen0, hc.field, hbits, halt, validateTstLegacyFields, eaField_widen, Bool.true_and]
     rw [← hopc])
  · simp [h1, blankInstr, eaIsEmpty]
  · rcases h2 with h2 | h2 <;> simp [h2, blankInstr, eaIsEmpty]
  · simp [h3, blankInstr, eaIsEmpty]
  · rw [not_or] at h2
    clear hopc
    split <;> simp_all [blankInstr, eaIsEmpty]

theorem condition_le (op : BitVec 16) : ((op >>> 8) &&& 0xF).setWidth 8 ≤ (15 : BitVec 8) := by
  rw [BitVec.le_def, BitVec.toNat_setWidth, BitVec.toNat_and]
  have := Nat.and_le_right (n := (op >>> 8).toNat) (m := (0xF : BitVec 16).toNat)
  change _ ≤ 15 at this
  change _ % 256 ≤ 15
  omega

theorem decodeScc_accepted (hg : decodeScc.guard op = true) :
    Accepted (decodeScc.fill rom addr op (blankInstr addr op)) := by
  simp only [decodeScc, Bool.and_eq_true] at hg
  obtain ⟨hscc, hea⟩ := hg
  obtain ⟨hop, hs⟩ : op &&& 0xF000 = 0x5000 ∧ opSizeCode op = 3 := by
    simpa only [isSccDbcc, Bool.and_eq_true, opMatch_iff, decide_eq_true_iff] using hscc
  obtain ⟨hc, hlen⟩ := dataAlterable_checked rom (addr + 2) 1 hea
  have hsize : op &&& 0x00C0 = 0x00C0 := by rw [← sizeCode_shift, hs]; rfl
  have hopc : op = 0x50C0 ||| (op &&& 0x0F00) ||| (op &&& 0x003F) := by
    have hbase : (0x50C0 : BitVec 16) = (op &&& 0xF000) ||| (op &&& 0x00C0) := by
      rw [hop, hsize]
      rfl
    rw [hbase]
    simp only [and_or_and, BitVec.reduceOr, and_ones]
  simp only [decodeScc, withSccCondition, hscc, if_true]
  generalize decodeEa rom (addr + 2) (opEaMode op) (opEaReg op) 1 = ea at hc hlen ⊢
  have hlen0 := add_len_ne_zero (.inl rfl) hc.len
  rw [if_neg hc.mode]
  right
  simp only [ngM68kValidate, validateScc, hlen0, hlen, hc.field, eaField_widen, condition_shift,
    ← hopc, decide_eq_true (condition_le op)]
  simp [blankInstr, zeroTargetAbsDisp, eaIsEmpty]

/-! ## Quick and bit instructions -/

/-- The count field of ADDQ, SUBQ and the shifts: zero stands for eight. -/
theorem count_field (op : BitVec 16) :
    let count := if opReg9 op = 0 then 8 else (opReg9 op).setWidth 32
    (1 : BitVec 32) ≤ count ∧ count ≤ 8 ∧
      (if count = 8 then (0 : BitVec 16) else count.setWidth 16) = (opReg9 op).setWidth 16 := by
  rcases lt_eight_cases (opReg9_lt op) with h | h | h | h | h | h | h | h <;> rw [h] <;> decide

theorem quickAlterable_checked (rom : NgProgramRom) (ext : BitVec 32) {size : BitVec 8}
    (hvs : validSize size = true) (hwl : opEaMode op = 1 → validWordOrLong size = true)
    (hea : opEaMode op = 1 ∨ isDataAlterableEa (opEaMode op) (opEaReg op) = true) :
    EaChecked (decodeEa rom ext (opEaMode op) (opEaReg op) size) op ∧
      quickAlterableExtLength (decodeEa rom ext (opEaMode op) (opEaReg op) size).1 =
        some (decodeEa rom ext (opEaMode op) (opEaReg op) size).2 ∧
      (if (decodeEa rom ext (opEaMode op) (opEaReg op) size).1.mode = .areg then
        validWordOrLong size
       else validSize size &&
        eaIsDataAlterable (decodeEa rom ext (opEaMode op) (opEaReg op) size).1) = true := by
  by_cases h1 : opEaMode op = 1
  · have hareg : decodeEa rom ext (opEaMode op) (opEaReg op) size =
        ({ mode := .areg, reg := opEaReg op }, 0) := by rw [h1]; rfl
    have hr := decide_eq_true (opEaReg_lt op)
    refine ⟨eaChecked (by rw [hareg]; simp), ?_, ?_⟩
    · rw [hareg]
      simp only [quickAlterableExtLength, eaSimpleRegisterPayload, hr, extIf, beq_self_eq_true,
        Bool.and_self, if_true]
    · rw [hareg, if_pos rfl, hwl h1]
  · obtain ⟨hc, hlen⟩ := dataAlterable_checked rom ext size (hea.resolve_left h1)
    have hna : (decodeEa rom ext (opEaMode op) (opEaReg op) size).1.mode ≠ .areg :=
      fun h => h1 (decodeEa_mode_areg (opEaMode_lt op) (opEaReg_lt op) h)
    refine ⟨hc, ?_, ?_⟩
    · rw [quickAlterableExtLength]
      split
      · rename_i h
        exact absurd h hna
      · exact hlen
    · rw [if_neg hna, hvs, eaIsDataAlterable_of_extLength hlen]
      rfl

theorem decodeQuick_accepted (hg : decodeQuick.guard op = true) :
    Accepted (decodeQuick.fill rom addr op (blankInstr addr op)) := by
  simp only [decodeQuick, Bool.and_eq_true, opMatch_iff, decide_eq_true_iff, Bool.or_eq_true,
    Bool.not_eq_true', Bool.and_eq_false_iff, decide_eq_false_iff_not] at hg
  obtain ⟨⟨⟨hop, hs⟩, hbyte⟩, hea⟩ := hg
  obtain ⟨hbits, hvs⟩ := sizeBitsOf_opSizeCode hs
  obtain ⟨hc1, hc8, hcount⟩ := count_field op
  have hwl : opEaMode op = 1 → validWordOrLong (sizeFromOpcodeBits (opSizeCode op)) = true := by
    intro h1
    rcases opSizeCode_cases hs with h | h | h
    · rcases hbyte with hb | hb
      · exact absurd h1 hb
      · exact absurd h hb
    · rw [h]; decide
    · rw [h]; decide
  simp only [decodeQuick]
  generalize sizeFromOpcodeBits (opSizeCode op) = size at hbits hvs hwl ⊢
  obtain ⟨hc, hlen, hmode⟩ := quickAlterable_checked rom (addr + 2) hvs hwl hea
  generalize decodeEa rom (addr + 2) (opEaMode op) (opEaReg op) size = ea at hc hlen hmode ⊢
  generalize (if opReg9 op = 0 then 8 else (opReg9 op).setWidth 32) = count at hc1 hc8 hcount ⊢
  rw [if_neg hc.mode]
  obtain ⟨form, reg, absAddr, disp, heq, hlegacy⟩ := populateDstLegacyFields_eq .dreg
    { blankInstr addr op with
        mnemonic := if opMatch op 0x0100 0 = true then .addq else .subq, size := size,
        immediate := count, byteLength := 2 + ea.2, dst := ea.1 } rfl rfl rfl rfl
  rw [heq]
  have hlen0 := add_len_ne_zero (.inl rfl) hc.len
  have hopc : op = 0x5000 ||| (op &&& 0x0E00) ||| (op &&& 0x0100) ||| (op &&& 0x00C0) |||
      (op &&& 0x003F) := by
    rw [← hop]
    simp only [and_or_and, BitVec.reduceOr, and_ones]
  right
  rcases @and_bit_cases op 0x0100 8 rfl with hdir | hdir <;>
    rw [hdir] at hopc <;>
    simp only [opMatch, hdir, beq_self_eq_true, if_true, show ((0x0100 : BitVec 16) == 0) = false
      from rfl, Bool.false_eq_true, if_false] at hlegacy ⊢ <;>
    simp only [ngM68kValidate, validateQuickOp, hlen0, hlen, hc.field, hbits, hmode, hlegacy,
      decide_eq_true hc1, decide_eq_true hc8, hcount, reg9_shift, eaField_widen, reduceCtorEq,
      if_true, if_false, ← hopc] <;>
    simp [blankInstr, eaIsEmpty]

/-- The operation field of the bit instructions. -/
theorem bitMnemonic_kind (op : BitVec 16) :
    bitOpKind (bitMnemonic (opSizeCode op)) = some ((opSizeCode op).setWidth 16) := by
  have hlt : (opSizeCode op).toNat < 4 := opSizeCode_lt op
  have hcast : opSizeCode op = BitVec.ofNat 8 (opSizeCode op).toNat := by simp
  rw [hcast]
  interval_cases (opSizeCode op).toNat <;> rfl

/-- BTST reads, the other three alter. -/
theorem bitMnemonic_cases (op : BitVec 16) :
    (opSizeCode op = 0 ∧ bitMnemonic (opSizeCode op) = .btst) ∨
      (opSizeCode op ≠ 0 ∧ (bitMnemonic (opSizeCode op) = .bchg ∨
        bitMnemonic (opSizeCode op) = .bclr ∨ bitMnemonic (opSizeCode op) = .bset)) := by
  have hlt : (opSizeCode op).toNat < 4 := opSizeCode_lt op
  have hcast : opSizeCode op = BitVec.ofNat 8 (opSizeCode op).toNat := by simp
  rw [hcast]
  interval_cases (opSizeCode op).toNat <;> simp [bitMnemonic]

/-- A bit instruction whose tail checks pass is accepted. -/
theorem bit_accepted {instr : NgM68kInstr} {dynamic : Bool} {len : BitVec 8}
    (hmn : instr.mnemonic = bitMnemonic (opSizeCode op)) (hdyn : (instr.src.mode == .dreg) = dynamic)
    (hlen0 : (instr.byteLength != 0) = true)
    (hbtst : opSizeCode op = 0 → exactBitDataExtLength instr.dst instr.size
      (instr.addr + if dynamic then 2 else 4) dynamic = some len)
    (halter : opSizeCode op ≠ 0 → exactDataAlterableExtLength instr.dst = some len ∧
      (if instr.dst.mode = .dreg then instr.size == 4 else instr.size == 1) = true)
    (htail : validateBitTail instr dynamic len = true) : ngM68kValidate instr = true := by
  unfold ngM68kValidate
  rcases bitMnemonic_cases op with ⟨h0, hm⟩ | ⟨h0, hm | hm | hm⟩
  · simp only [hmn, hm, hlen0, Bool.true_and, validateBtst, hdyn, hbtst h0, htail]
  all_goals
    obtain ⟨h1, h2⟩ := halter h0
    simp only [hmn, hm, hlen0, Bool.true_and, validateAlteringBitOp, hdyn, h1, h2, htail]

/-- The operand checks of a bit instruction. -/
theorem bit_checked (rom : NgProgramRom) (ext : BitVec 32) {allow : Bool}
    (hg : (opSizeCode op = 0 ∧ isDataEa (opEaMode op) (opEaReg op) = true ∧
        (opEaMode op = 7 → opEaReg op = 4 → allow = true)) ∨
      (opSizeCode op ≠ 0 ∧ isDataAlterableEa (opEaMode op) (opEaReg op) = true)) :
    let size : BitVec 8 := if opEaMode op = 0 then 4 else 1
    let ea := decodeEa rom ext (opEaMode op) (opEaReg op) size
    EaChecked ea op ∧
      (opSizeCode op = 0 → exactBitDataExtLength ea.1 size ext allow = some ea.2) ∧
      (opSizeCode op ≠ 0 → exactDataAlterableExtLength ea.1 = some ea.2 ∧
        (if ea.1.mode = .dreg then size == 4 else size == 1) = true) := by
  intro size ea
  rcases hg with ⟨h0, hdata, himm⟩ | ⟨h0, halt⟩
  · have hlen : exactBitDataExtLength ea.1 size ext allow = some ea.2 :=
      decodeEa_bit (opEaMode_lt op) (opEaReg_lt op) hdata himm rfl
    refine ⟨eaChecked ?_, fun _ => hlen, fun h => absurd h0 h⟩
    intro hnone
    rw [exactBitDataExtLength, hnone] at hlen
    cases hlen
  · obtain ⟨hc, hlen⟩ := dataAlterable_checked rom ext size halt
    refine ⟨hc, fun h => absurd h h0, fun _ => ⟨hlen, ?_⟩⟩
    by_cases hm : opEaMode op = 0
    · have hea : ea = ({ mode := .dreg, reg := opEaReg op }, 0) := by
        simp only [ea, hm]
        rfl
      rw [hea, if_pos rfl]
      simp only [size, hm, if_true]
      decide
    · have hne : ea.1.mode ≠ .dreg := by
        intro hd
        exact hm (decodeEa_mode_dreg (opEaMode_lt op) (opEaReg_lt op) hd)
      rw [if_neg hne]
      simp only [size, hm, if_false]
      decide

theorem decodeStaticBit_accepted (hg : decodeStaticBit.guard op = true) :
    Accepted (decodeStaticBit.fill rom addr op (blankInstr addr op)) := by
  simp only [decodeStaticBit, Bool.and_eq_true, opMatch_iff, decide_eq_true_iff, Bool.or_eq_true,
    Bool.not_eq_true', Bool.and_eq_false_iff, decide_eq_false_iff_not] at hg
  obtain ⟨hop, hg⟩ := hg
  obtain ⟨hc, hbtst, halter⟩ := @bit_checked op rom (addr + 4) false (by
    rcases hg with ⟨⟨h0, hdata⟩, h7⟩ | hg
    · exact .inl ⟨h0, hdata, fun h h' => by simp_all⟩
    · exact .inr hg)
  simp only [decodeStaticBit]
  generalize (if opEaMode op = 0 then (4 : BitVec 8) else 1) = size at hc hbtst halter ⊢
  generalize decodeEa rom (addr + 4) (opEaMode op) (opEaReg op) size = ea at hc hbtst halter ⊢
  rw [if_neg hc.mode]
  obtain ⟨form, reg, absAddr, disp, heq, hlegacy⟩ := populateDstLegacyFields_eq .dreg
    { blankInstr addr op with
        mnemonic := bitMnemonic (opSizeCode op), size := size,
        immediate := (ngProgramRomRead16 rom (addr + 2)).setWidth 32 &&& 0xFF,
        byteLength := 4 + ea.2, dst := ea.1 } rfl rfl rfl rfl
  rw [heq]
  have hopc : op = 0x0800 ||| (op &&& 0x00C0) ||| (op &&& 0x003F) := by
    rw [← hop]
    simp only [and_or_and, BitVec.reduceOr, and_ones]
  right
  refine @bit_accepted op _ false _ rfl rfl
    (add_len_ne_zero (.inr (.inl rfl)) hc.len) hbtst halter ?_
  simp only [validateBitTail, Bool.false_eq_true, if_false, validateStaticBitSource,
    validateBitOpcode, bitMnemonic_kind, hc.field, eaField_widen, sizeCode_shift, ← hopc,
    validateBitDestinationLegacyFields, hlegacy, decide_eq_true (and_byte_le _)]
  simp [blankInstr, eaIsEmpty]

theorem decodeDynamicBit_accepted (hg : decodeDynamicBit.guard op = true) :
    Accepted (decodeDynamicBit.fill rom addr op (blankInstr addr op)) := by
  simp only [decodeDynamicBit, Bool.and_eq_true, opMatch_iff, decide_eq_true_iff,
    Bool.or_eq_true] at hg
  obtain ⟨hop, hg⟩ := hg
  obtain ⟨hc, hbtst, halter⟩ := @bit_checked op rom (addr + 2) true (by
    rcases hg with ⟨h0, hdata⟩ | hg
    · exact .inl ⟨h0, hdata, fun _ _ => rfl⟩
    · exact .inr hg)
  simp only [decodeDynamicBit]
  generalize (if opEaMode op = 0 then (4 : BitVec 8) else 1) = size at hc hbtst halter ⊢
  generalize decodeEa rom (addr + 2) (opEaMode op) (opEaReg op) size = ea at hc hbtst halter ⊢
  rw [if_neg hc.mode]
  obtain ⟨form, reg, absAddr, disp, heq, hlegacy⟩ := populateDstLegacyFields_eq .dregToDreg
    { blankInstr addr op with
        mnemonic := bitMnemonic (opSizeCode op), size := size,
        src := { (blankInstr addr op).src with mode := .dreg, reg := opReg9 op },
        srcReg := opReg9 op, byteLength := 2 + ea.2, dst := ea.1 } rfl rfl rfl rfl
  rw [heq]
  have hopc : op = 0x0100 ||| (op &&& 0x0E00) ||| (op &&& 0x00C0) ||| (op &&& 0x003F) := by
    rw [← hop]
    simp only [and_or_and, BitVec.reduceOr, and_ones]
  right
  refine @bit_accepted op _ true _ rfl rfl
    (add_len_ne_zero (.inl rfl) hc.len) hbtst halter ?_
  simp only [validateBitTail, if_true, validateDynamicBitSource, eaIsExactRegister,
    eaSimpleRegisterPayload, decide_eq_true (opReg9_lt op), validateBitOpcode, bitMnemonic_kind,
    hc.field, eaField_widen, sizeCode_shift, reg9_shift, ← hopc,
    validateBitDestinationLegacyFields, hlegacy]
  simp [blankInstr]

end Patterns

end NeoRecomp
