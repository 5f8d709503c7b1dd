import NeoRecomp.Correct.DecodeUnary

/-!
# Decoded two-operand instructions are accepted
-/

namespace NeoRecomp

section Patterns
variable {rom : NgProgramRom} {addr : BitVec 32} {op : BitVec 16}

theorem and_top {v : BitVec 8} (h : opTop op = v) :
    op &&& (0xF000 : BitVec 16) = v.setWidth 16 <<< 12 := by
  rw [← top_shift, h]

theorem and_mode6 {v : BitVec 8} (h : opMode6 op = v) :
    op &&& (0x01C0 : BitVec 16) = v.setWidth 16 <<< 6 := by
  rw [← mode6_shift, h]

/-- A decoded source operand that exists, as the source of a record. -/
theorem source_checked {size : BitVec 8}
    (hne : (decodeEa rom (addr + 2) (opEaMode op) (opEaReg op) size).1.mode ≠ .none)
    (h1 : opEaMode op = 1 → size ≠ 1) (hs : validSize size = true) :
    EaChecked (decodeEa rom (addr + 2) (opEaMode op) (opEaReg op) size) op ∧
      ∀ instr : NgM68kInstr, instr.size = size → instr.addr = addr →
        instr.src = (decodeEa rom (addr + 2) (opEaMode op) (opEaReg op) size).1 →
        exactAddsubcmpSourceExtLength instr =
          some (decodeEa rom (addr + 2) (opEaMode op) (opEaReg op) size).2 :=
  ⟨eaChecked hne, fun _ hsize haddr hsrc => decodeEa_addsubcmp (opEaMode_lt op) (opEaReg_lt op) hne
    h1 hs hsize hsrc (by rw [haddr])⟩

theorem dataSource_checked {size : BitVec 8}
    (hne : (decodeEa rom (addr + 2) (opEaMode op) (opEaReg op) size).1.mode ≠ .none)
    (h1 : opEaMode op ≠ 1) (hs : validSize size = true) :
    EaChecked (decodeEa rom (addr + 2) (opEaMode op) (opEaReg op) size) op ∧
      ∀ instr : NgM68kInstr, instr.size = size → instr.addr = addr →
        instr.src = (decodeEa rom (addr + 2) (opEaMode op) (opEaReg op) size).1 →
        exactDataSourceExtLength instr =
          some (decodeEa rom (addr + 2) (opEaMode op) (opEaReg op) size).2 :=
  ⟨eaChecked hne, fun _ hsize haddr hsrc => decodeEa_data (opEaMode_lt op) (opEaReg_lt op)
    (isDataEa_of_ne_none (opEaMode_lt op) (opEaReg_lt op) hne h1) hs hsize hsrc (by rw [haddr])⟩

/-- The opcode of an instruction with a data or address register in bits 9 to 11. -/
theorem opcode_eq_reg9 {base : BitVec 16} (h : op &&& 0xF1C0 = base) :
    op = base ||| (op &&& 0x0E00) ||| (op &&& 0x003F) := by
  rw [← h]
  simp only [and_or_and, BitVec.reduceOr, and_ones]

theorem and_top_mode6 {t m : BitVec 8} (ht : opTop op = t) (hm : opMode6 op = m) :
    op &&& (0xF1C0 : BitVec 16) = (t.setWidth 16 <<< 12) ||| (m.setWidth 16 <<< 6) := by
  rw [← and_top ht, ← and_mode6 hm, and_or_and]
  rfl

/-- The three mnemonics and two sizes of `decode_alu_address_reg`. -/
theorem aluAddressReg_fields (hg : decodeAluAddressReg.guard op = true) :
    ∃ (mn : NgM68kMnemonic) (size : BitVec 8),
      (if opTop op = 0xD then .adda else if opTop op = 0x9 then .suba else .cmpa) = mn ∧
      (if opMode6 op = 7 then 4 else 2) = size ∧ (mn = .adda ∨ mn = .suba ∨ mn = .cmpa) ∧
      (size = 2 ∨ size = 4) ∧ addressRegOpBase mn size = some (op &&& 0xF1C0) := by
  simp only [decodeAluAddressReg, Bool.and_eq_true, Bool.or_eq_true, decide_eq_true_iff] at hg
  obtain ⟨(ht | ht) | ht, hm | hm⟩ := hg <;> rw [and_top_mode6 ht hm, ht, hm] <;>
    exact ⟨_, _, rfl, rfl, by decide, by decide, rfl⟩

theorem decodeAluAddressReg_accepted (hg : decodeAluAddressReg.guard op = true) :
    Accepted (decodeAluAddressReg.fill rom addr op (blankInstr addr op)) := by
  obtain ⟨mn, size, hmn, hsz, hmns, hsizes, hbase⟩ := aluAddressReg_fields hg
  have hopc := @opcode_eq_reg9 op _ rfl
  simp only [decodeAluAddressReg, hmn, hsz]
  by_cases hne : (decodeEa rom (addr + 2) (opEaMode op) (opEaReg op) size).1.mode = .none
  · rw [if_pos hne]
    exact accepted_unknown _
  rw [if_neg hne]
  obtain ⟨hc, hlen⟩ := source_checked hne (by rcases hsizes with rfl | rfl <;> intro _ <;> decide)
    (by rcases hsizes with rfl | rfl <;> rfl)
  generalize decodeEa rom (addr + 2) (opEaMode op) (opEaReg op) size = ea at hc hlen ⊢
  have hlen0 := add_len_ne_zero (.inl rfl) hc.len
  have hwl : validWordOrLong size = true := by rcases hsizes with rfl | rfl <;> rfl
  right
  rcases hmns with rfl | rfl | rfl <;>
  · simp only [ngM68kValidate, validateAddressRegOp, moveSourceExtLength]
    rw [hlen _ rfl rfl rfl]
    simp only [hlen0, hc.field, eaField_widen, reg9_shift, hbase, hwl,
      validateAddressRegOpLegacyFields, eaSimpleRegisterPayload, decide_eq_true (opReg9_lt op),
      ← hopc]
    simp [blankInstr]

/-! ## Word sources -/

theorem fillWordSourceToDreg_accepted {mn : NgM68kMnemonic}
    (hmn : mn = .mulu ∨ mn = .muls ∨ mn = .divu ∨ mn = .divs)
    (hbase : wordDataToDregBase mn = some (op &&& 0xF1C0)) (h1 : opEaMode op ≠ 1) :
    Accepted (fillWordSourceToDreg mn rom addr op (blankInstr addr op)) := by
  have hopc := @opcode_eq_reg9 op _ rfl
  unfold fillWordSourceToDreg
  dsimp only
  by_cases hne : (decodeEa rom (addr + 2) (opEaMode op) (opEaReg op) 2).1.mode = .none
  · rw [if_pos hne]
    exact accepted_unknown _
  rw [if_neg hne]
  obtain ⟨hc, hlen⟩ := dataSource_checked hne h1 rfl
  generalize decodeEa rom (addr + 2) (opEaMode op) (opEaReg op) 2 = ea at hc hlen ⊢
  have hlen0 := add_len_ne_zero (.inl rfl) hc.len
  right
  rcases hmn with rfl | rfl | rfl | rfl <;>
  · simp only [ngM68kValidate, validateWordDataToDreg]
    rw [hlen _ rfl rfl rfl]
    simp only [hlen0, hc.field, eaField_widen, reg9_shift, hbase, eaIsExactRegister,
      eaSimpleRegisterPayload, decide_eq_true (opReg9_lt op), ← hopc]
    simp [blankInstr, zeroTargetAbsDisp]

theorem decodeMultiply_accepted (hg : decodeMultiply.guard op = true) :
    Accepted (decodeMultiply.fill rom addr op (blankInstr addr op)) := by
  simp only [decodeMultiply, Bool.and_eq_true, Bool.or_eq_true, decide_eq_true_iff] at hg
  obtain ⟨⟨ht, hm | hm⟩, h1⟩ := hg <;>
  · simp only [decodeMultiply, hm]
    exact fillWordSourceToDreg_accepted (by decide) (by rw [and_top_mode6 ht hm]; rfl) h1

theorem decodeDivide_accepted (hg : decodeDivide.guard op = true) :
    Accepted (decodeDivide.fill rom addr op (blankInstr addr op)) := by
  simp only [decodeDivide, Bool.and_eq_true, Bool.or_eq_true, decide_eq_true_iff] at hg
  obtain ⟨⟨ht, hm | hm⟩, h1⟩ := hg <;>
  · simp only [decodeDivide, hm]
    exact fillWordSourceToDreg_accepted (by decide) (by rw [and_top_mode6 ht hm]; rfl) h1

theorem decodeChk_accepted (hg : decodeChk.guard op = true) :
    Accepted (decodeChk.fill rom addr op (blankInstr addr op)) := by
  simp only [decodeChk, Bool.and_eq_true, opMatch_iff, decide_eq_true_iff] at hg
  obtain ⟨hop, h1⟩ := hg
  have hopc := opcode_eq_reg9 hop
  simp only [decodeChk]
  by_cases hne : (decodeEa rom (addr + 2) (opEaMode op) (opEaReg op) 2).1.mode = .none
  · rw [if_pos hne]
    exact accepted_unknown _
  rw [if_neg hne]
  obtain ⟨hc, hlen⟩ := dataSource_checked hne h1 rfl
  generalize decodeEa rom (addr + 2) (opEaMode op) (opEaReg op) 2 = ea at hc hlen ⊢
  have hlen0 := add_len_ne_zero (.inl rfl) hc.len
  right
  simp only [ngM68kValidate, validateWordDataToDreg, wordDataToDregBase]
  rw [hlen _ rfl rfl rfl]
  simp only [hlen0, hc.field, eaField_widen, reg9_shift, eaIsExactRegister,
    eaSimpleRegisterPayload, decide_eq_true (opReg9_lt op), ← hopc]
  simp [blankInstr, zeroTargetAbsDisp]

/-! ## Operations into a data register -/

/-- The opcode of `<ea>,Dn` with a size in bits 6 and 7. -/
theorem opcode_eq_toDreg (hd : op &&& 0x0100 = 0) :
    op = (op &&& 0xF000) ||| (op &&& 0x0E00) ||| (op &&& 0x00C0) ||| (op &&& 0x003F) := by
  conv_lhs => rw [← and_ones op, show 65535#16 = 0xF000 ||| 0x0E00 ||| 0x00C0 ||| 0x003F ||| 0x0100
    from rfl]
  simp only [← and_or_and, hd]
  exact BitVec.or_zero

/-- The opcode of `Dn,<ea>` with a size in bits 6 and 7. -/
theorem opcode_eq_toEa (hd : op &&& 0x0100 = 0x0100) :
    op = (op &&& 0xF000) ||| (op &&& 0x0E00) ||| 0x0100 ||| (op &&& 0x00C0) |||
      (op &&& 0x003F) := by
  rw [← hd]
  simp only [and_or_and, BitVec.reduceOr, and_ones]

/-- A bit moved to position zero. -/
theorem bit_eq_zero_iff (op : BitVec 16) {mask : BitVec 16} {n : Nat}
    (hmask : mask = BitVec.twoPow 16 n) (hne : mask ≠ 0) :
    (op >>> n) &&& 1 = 0 ↔ op &&& mask = 0 := by
  have hbit := BitVec.and_twoPow op n
  have hshift := BitVec.and_twoPow (op >>> n) 0
  rw [← hmask] at hbit
  rw [show BitVec.twoPow 16 0 = 1 from rfl, BitVec.getLsbD_ushiftRight, Nat.add_zero] at hshift
  rw [hbit, hshift]
  cases op.getLsbD n
  · simp
  · simpa using hne

theorem aluEaToDreg_mnemonic (ht : (opTop op = 0xD ∨ opTop op = 0x9) ∨ opTop op = 0xB) :
    ∃ mn : NgM68kMnemonic,
      (if opTop op = 0xD then .add else if opTop op = 0x9 then .sub else .cmp) = mn ∧
      (mn = .add ∨ mn = .sub ∨ mn = .cmp) ∧ binaryBaseOpcode mn = some (op &&& 0xF000) := by
  rcases ht with (ht | ht) | ht <;> rw [and_top ht, ht] <;> exact ⟨_, rfl, by decide, rfl⟩

theorem decodeAluEaToDreg_accepted (hg : decodeAluEaToDreg.guard op = true) :
    Accepted (decodeAluEaToDreg.fill rom addr op (blankInstr addr op)) := by
  simp only [decodeAluEaToDreg, Bool.and_eq_true, Bool.or_eq_true, decide_eq_true_iff] at hg
  obtain ⟨⟨⟨ht, hs⟩, hd⟩, hea⟩ := hg
  obtain ⟨hbits, hvs⟩ := sizeBitsOf_opSizeCode hs
  obtain ⟨mn, hmn, hmns, hbase⟩ := aluEaToDreg_mnemonic ht
  have hopc := opcode_eq_toDreg ((bit_eq_zero_iff op rfl (by decide)).mp hd)
  have h1 : opEaMode op = 1 → sizeFromOpcodeBits (opSizeCode op) ≠ 1 := by
    intro h1
    rcases hea with hea | ⟨-, hea⟩
    · simp [isDataEa, h1] at hea
    · rcases opSizeCode_cases hs with h | h | h
      · exact absurd h hea
      · rw [h]; decide
      · rw [h]; decide
  simp only [decodeAluEaToDreg, hmn]
  generalize sizeFromOpcodeBits (opSizeCode op) = size at hbits hvs h1 ⊢
  by_cases hne : (decodeEa rom (addr + 2) (opEaMode op) (opEaReg op) size).1.mode = .none
  · rw [if_pos hne]
    exact accepted_unknown _
  rw [if_neg hne]
  obtain ⟨hc, hlen⟩ := source_checked hne h1 hvs
  have hreg := @decodeEa_reg rom (addr + 2) _ _ size (opEaMode_lt op) (opEaReg_lt op)
  generalize decodeEa rom (addr + 2) (opEaMode op) (opEaReg op) size = ea at hc hlen hreg ⊢
  have hlen0 := add_len_ne_zero (.inl rfl) hc.len
  right
  rcases hmns with rfl | rfl | rfl <;>
  · simp only [ngM68kValidate, validateAddSubOrAnd, validateEaToDregBinary, beq_self_eq_true,
      Bool.or_true, Bool.true_or, if_true]
    rw [hlen _ rfl rfl rfl]
    simp only [hlen0, hc.field, hbits, hbase, hreg, eaField_widen, reg9_shift, eaIsExactRegister,
      eaSimpleRegisterPayload, decide_eq_true (opReg9_lt op), ← hopc]
    simp [blankInstr, zeroTargetAbsDisp]

/-! ## OR, AND and EOR -/

theorem opMode6_and_three (op : BitVec 16) : opMode6 op &&& 3 = opSizeCode op := by
  rw [opMode6, opSizeCode, show (3 : BitVec 8) = (3 : BitVec 16).setWidth 8 from rfl,
    ← BitVec.setWidth_and, BitVec.and_assoc]
  rfl

/-- The direction bit, read from the mode field. -/
theorem direction_bit (op : BitVec 16) :
    op &&& (0x0100 : BitVec 16) = ((opMode6 op).setWidth 16 <<< 6) &&& (0x0100 : BitVec 16) := by
  rw [mode6_shift, BitVec.and_assoc]
  rfl

theorem direction_toDreg (h : opMode6 op ≤ 2) : op &&& 0x0100 = 0 := by
  rw [direction_bit]
  rcases lt_eight_cases (opMode6_lt op) with hm | hm | hm | hm | hm | hm | hm | hm <;>
    rw [hm] at h ⊢ <;> first | rfl | exact absurd h (by decide)

theorem direction_toEa (h : 4 ≤ opMode6 op) : op &&& 0x0100 = 0x0100 := by
  rw [direction_bit]
  rcases lt_eight_cases (opMode6_lt op) with hm | hm | hm | hm | hm | hm | hm | hm <;>
    rw [hm] at h ⊢ <;> first | rfl | exact absurd h (by decide)

theorem opSizeCode_of_mode6 (h4 : 4 ≤ opMode6 op) (h6 : opMode6 op ≤ 6) : opSizeCode op ≠ 3 := by
  rw [← opMode6_and_three]
  rcases lt_eight_cases (opMode6_lt op) with hm | hm | hm | hm | hm | hm | hm | hm <;>
    rw [hm] at h4 h6 ⊢ <;> first | decide | exact absurd h6 (by decide) | exact absurd h4 (by decide)

/-- `<ea>,Dn` of OR and AND. -/
theorem logicToDreg_validate {mn : NgM68kMnemonic} {size : BitVec 8} {ea : NgM68kEa × BitVec 8}
    (hmns : mn = .or ∨ mn = .and) (hbase : binaryBaseOpcode mn = some (op &&& 0xF000))
    (hbits : sizeBitsOf size = some (op &&& 0x00C0)) (hd : op &&& 0x0100 = 0) (hc : EaChecked ea op)
    (hlen : ∀ instr : NgM68kInstr, instr.size = size → instr.addr = addr → instr.src = ea.1 →
      exactDataSourceExtLength instr = some ea.2) (hreg : ea.1.reg = opEaReg op) :
    ngM68kValidate { blankInstr addr op with
      mnemonic := mn, size := size, byteLength := 2 + ea.2, src := ea.1,
      dst := { (blankInstr addr op).dst with mode := .dreg, reg := opReg9 op },
      reg := opReg9 op, srcReg := opEaReg op } = true := by
  have hopc := opcode_eq_toDreg hd
  have hlen0 := add_len_ne_zero (.inl rfl) hc.len
  rcases hmns with rfl | rfl <;>
  · simp only [ngM68kValidate, validateAddSubOrAnd, validateEaToDregBinary, if_true,
      show (NgM68kMnemonic.or == .add || NgM68kMnemonic.or == .sub) = false from rfl,
      show (NgM68kMnemonic.and == .add || NgM68kMnemonic.and == .sub) = false from rfl,
      Bool.false_eq_true, if_false]
    rw [hlen _ rfl rfl rfl]
    simp only [hlen0, hc.field, hbits, hbase, hreg, eaField_widen, reg9_shift, eaIsExactRegister,
      eaSimpleRegisterPayload, decide_eq_true (opReg9_lt op), ← hopc]
    simp [blankInstr, zeroTargetAbsDisp]

/-- `Dn,<ea>` with the opcode and the operand checked. -/
theorem validateDregToEa_of {instr : NgM68kInstr} {base : BitVec 16} {ea : NgM68kEa × BitVec 8}
    {allow : Bool} (hinstr : instr.opcode = op ∧ instr.byteLength = 2 + ea.2 ∧ instr.dst = ea.1 ∧
      instr.src = { mode := .dreg, reg := opReg9 op } ∧ instr.srcReg = opReg9 op ∧
      instr.immediate = 0 ∧ instr.condition = 0 ∧ instr.target = 0)
    (hbase : op &&& 0xF000 = base) (hbits : sizeBitsOf instr.size = some (op &&& 0x00C0))
    (hd : op &&& 0x0100 = 0x0100) (hc : EaChecked ea op)
    (hlegacy : validateDstLegacyFields .dregToDreg instr = true)
    (hdreg : (ea.1.mode != .dreg || (allow && eaSimpleRegisterPayload ea.1)) = true) :
    validateDregToEa instr base (some ea.2) allow = true := by
  obtain ⟨hop, hlen, hdst, hsrc, hsreg, himm, hcond, htarget⟩ := hinstr
  have hopc := opcode_eq_toEa hd
  rw [hbase] at hopc
  simp only [validateDregToEa, hop, hlen, hdst, hsrc, hsreg, himm, hcond, htarget, hbits, hc.field,
    validateBinaryDestinationLegacyFields, hlegacy, eaIsExactRegister, eaSimpleRegisterPayload,
    decide_eq_true (opReg9_lt op), reg9_shift, eaField_widen, ← hopc]
  simpa [eaSimpleRegisterPayload] using hdreg

theorem not_dreg_of_memoryAlterable {ea : NgM68kEa} {len : BitVec 8}
    (h : exactMemoryAlterableExtLength ea = some len) : ea.mode ≠ .dreg := by
  intro hd
  rw [exactMemoryAlterableExtLength, hd] at h
  cases h

/-- The `Dn,<ea>` record before its legacy fields are filled in. -/
def dregToEaInstr (addr : BitVec 32) (op : BitVec 16) (mn : NgM68kMnemonic) (size : BitVec 8)
    (ea : NgM68kEa × BitVec 8) : NgM68kInstr :=
  { blankInstr addr op with
      mnemonic := mn, size := size, byteLength := 2 + ea.2, dst := ea.1,
      src := { mode := .dreg, reg := opReg9 op }, srcReg := opReg9 op }

theorem dregToMemory_validate {mn : NgM68kMnemonic} {size : BitVec 8} {ea : NgM68kEa × BitVec 8}
    (hmns : mn = .or ∨ mn = .and ∨ mn = .add ∨ mn = .sub)
    (hbase : binaryBaseOpcode mn = some (op &&& 0xF000))
    (hbits : sizeBitsOf size = some (op &&& 0x00C0)) (hd : op &&& 0x0100 = 0x0100)
    (hc : EaChecked ea op) (hlen : exactMemoryAlterableExtLength ea.1 = some ea.2) :
    ngM68kValidate (populateDstLegacyFields .dregToDreg (dregToEaInstr addr op mn size ea)) =
      true := by
  have hnd := not_dreg_of_memoryAlterable hlen
  obtain ⟨form, reg, absAddr, disp, heq, hlegacy⟩ := populateDstLegacyFields_eq .dregToDreg
    (dregToEaInstr addr op mn size ea) rfl rfl rfl rfl
  have hlen0 := add_len_ne_zero (.inl rfl) hc.len
  rw [heq]
  have hdr : ((ea.1.mode != .dreg) || (false && eaSimpleRegisterPayload ea.1)) = true := by
    simpa using hnd
  have hval := @validateDregToEa_of op _ _ _ false
    ⟨rfl, rfl, rfl, rfl, rfl, rfl, rfl, rfl⟩ rfl hbits hd hc hlegacy hdr
  rcases hmns with rfl | rfl | rfl | rfl <;>
  · have hb := Option.some.inj hbase
    rw [← hb] at hval
    simpa only [ngM68kValidate, validateAddSubOrAnd, validateDregToMemoryBinary, dregToEaInstr,
      blankInstr, hnd, if_false, hlen, hlen0, Bool.true_and] using hval

theorem eor_validate {size : BitVec 8} {ea : NgM68kEa × BitVec 8} (htop : op &&& 0xF000 = 0xB000)
    (hbits : sizeBitsOf size = some (op &&& 0x00C0)) (hd : op &&& 0x0100 = 0x0100)
    (hc : EaChecked ea op) (hlen : exactDataAlterableExtLength ea.1 = some ea.2) :
    ngM68kValidate (populateDstLegacyFields .dregToDreg (dregToEaInstr addr op .eor size ea)) =
      true := by
  obtain ⟨form, reg, absAddr, disp, heq, hlegacy⟩ := populateDstLegacyFields_eq .dregToDreg
    (dregToEaInstr addr op .eor size ea) rfl rfl rfl rfl
  have hlen0 := add_len_ne_zero (.inl rfl) hc.len
  rw [heq]
  have hdr : ((ea.1.mode != .dreg) || (true && eaSimpleRegisterPayload ea.1)) = true := by
    by_cases hm : ea.1.mode = .dreg
    · rw [exactDataAlterableExtLength, hm, extIf] at hlen
      split_ifs at hlen with hp
      rw [hp, Bool.true_and, Bool.or_true]
    · simp [hm]
  have hval := @validateDregToEa_of op _ _ _ true
    ⟨rfl, rfl, rfl, rfl, rfl, rfl, rfl, rfl⟩ htop hbits hd hc hlegacy hdr
  simpa only [ngM68kValidate, validateDregToDataAlterableBinary, dregToEaInstr, blankInstr, hlen,
    hlen0, Bool.true_and, beq_self_eq_true] using hval

theorem decodeLogicBinary_accepted (hg : decodeLogicBinary.guard op = true) :
    Accepted (decodeLogicBinary.fill rom addr op (blankInstr addr op)) := by
  simp only [decodeLogicBinary, Bool.and_eq_true, Bool.or_eq_true, decide_eq_true_iff] at hg
  obtain ⟨hs, hform⟩ := hg
  rw [opMode6_and_three] at hs
  obtain ⟨hbits, hvs⟩ := sizeBitsOf_opSizeCode hs
  simp only [decodeLogicBinary, opMode6_and_three]
  by_cases hto : logicBinaryToDreg op = true
  · rw [if_pos hto]
    simp only [logicBinaryToDreg, Bool.and_eq_true, Bool.or_eq_true, decide_eq_true_iff] at hto
    obtain ⟨⟨htop, hm⟩, hdata⟩ := hto
    generalize sizeFromOpcodeBits (opSizeCode op) = size at hbits hvs ⊢
    by_cases hne : (decodeEa rom (addr + 2) (opEaMode op) (opEaReg op) size).1.mode = .none
    · rw [if_pos hne]
      exact accepted_unknown _
    rw [if_neg hne]
    obtain ⟨hc, hlen⟩ := dataSource_checked hne (by simp_all [isDataEa]) hvs
    right
    rcases htop with htop | htop
    · rw [htop]
      exact logicToDreg_validate (.inl rfl) (by rw [and_top htop]; rfl) hbits (direction_toDreg hm)
        hc hlen (decodeEa_reg (opEaMode_lt op) (opEaReg_lt op))
    · rw [htop]
      exact logicToDreg_validate (.inr rfl) (by rw [and_top htop]; rfl) hbits (direction_toDreg hm)
        hc hlen (decodeEa_reg (opEaMode_lt op) (opEaReg_lt op))
  · rw [if_neg hto]
    have hea := hform.resolve_left hto
    simp only [logicBinaryToEa, Bool.and_eq_true, Bool.or_eq_true, decide_eq_true_iff] at hea
    obtain ⟨⟨h4, h6⟩, ⟨htop, hmem⟩ | ⟨htop, hdata⟩⟩ := hea
    · obtain ⟨hc, hlen⟩ := memoryAlterable_checked rom (addr + 2)
        (sizeFromOpcodeBits (opSizeCode op)) hmem
      rw [if_neg hc.mode]
      right
      rcases htop with htop | htop
      · rw [htop]
        exact dregToMemory_validate (.inl rfl) (by rw [and_top htop]; rfl) hbits
          (direction_toEa h4) hc hlen
      · rw [htop]
        exact dregToMemory_validate (.inr (.inl rfl)) (by rw [and_top htop]; rfl) hbits
          (direction_toEa h4) hc hlen
    · obtain ⟨hc, hlen⟩ := dataAlterable_checked rom (addr + 2)
        (sizeFromOpcodeBits (opSizeCode op)) hdata
      rw [if_neg hc.mode]
      right
      rw [htop]
      exact eor_validate (and_top htop) hbits (direction_toEa h4) hc hlen

theorem decodeAddsubDregToEa_accepted (hg : decodeAddsubDregToEa.guard op = true) :
    Accepted (decodeAddsubDregToEa.fill rom addr op (blankInstr addr op)) := by
  simp only [decodeAddsubDregToEa, Bool.and_eq_true, Bool.or_eq_true, decide_eq_true_iff] at hg
  obtain ⟨⟨⟨htop, h4⟩, h6⟩, hmem⟩ := hg
  obtain ⟨hbits, -⟩ := sizeBitsOf_opSizeCode (opSizeCode_of_mode6 h4 h6)
  simp only [decodeAddsubDregToEa, opMode6_and_three]
  generalize sizeFromOpcodeBits (opSizeCode op) = size at hbits ⊢
  obtain ⟨hc, hlen⟩ := memoryAlterable_checked rom (addr + 2) size hmem
  have hnd := not_dreg_of_memoryAlterable hlen
  generalize decodeEa rom (addr + 2) (opEaMode op) (opEaReg op) size = ea at hc hlen hnd ⊢
  rw [if_neg hc.mode]
  right
  have hval {mn : NgM68kMnemonic} (hmns : mn = .add ∨ mn = .sub)
      (hbase : binaryBaseOpcode mn = some (op &&& 0xF000)) :=
    @dregToMemory_validate addr op mn size ea (.inr (.inr hmns)) hbase hbits (direction_toEa h4) hc hlen
  simp only [populateDstLegacyFields, dregToEaInstr, hnd, if_false] at hval
  rcases htop with htop | htop
  · rw [htop]
    exact hval (.inl rfl) (by rw [and_top htop]; rfl)
  · rw [htop]
    exact hval (.inr rfl) (by rw [and_top htop]; rfl)

/-! ## Register pairs -/

theorem decodeCmpm_accepted (hg : decodeCmpm.guard op = true) :
    Accepted (decodeCmpm.fill rom addr op (blankInstr addr op)) := by
  simp only [decodeCmpm, Bool.and_eq_true, opMatch_iff, decide_eq_true_iff] at hg
  obtain ⟨hop, hs⟩ := hg
  obtain ⟨hbits, -⟩ := sizeBitsOf_opSizeCode hs
  have hopc : op = 0xB000 ||| (op &&& 0x0E00) ||| 0x0100 ||| (op &&& 0x00C0) ||| 0x0008 |||
      (op &&& 0x0007) := by
    have htop : op &&& 0xF000 = 0xB000 := and_of_and hop rfl
    have hdir : op &&& 0x0100 = 0x0100 := and_of_and hop rfl
    have hmode : op &&& 0x0038 = 0x0008 := and_of_and hop rfl
    rw [← htop, ← hdir, ← hmode]
    simp only [and_or_and, BitVec.reduceOr, and_ones]
  simp only [decodeCmpm]
  right
  simp only [ngM68kValidate, validateCmpm, hbits, eaIsExactRegister, eaSimpleRegisterPayload,
    decide_eq_true (opReg9_lt op), decide_eq_true (opEaReg_lt op), reg9_shift, eaReg_widen, ← hopc]
  simp [blankInstr, zeroTargetAbsDisp]

theorem fillExchange_accepted {srcMode dstMode : NgM68kEaMode} {base : BitVec 16}
    (hmode : (srcMode = .dreg ∧ dstMode = .dreg ∧ base = 0xC140) ∨
      (srcMode = .areg ∧ dstMode = .areg ∧ base = 0xC148) ∨
      (srcMode = .dreg ∧ dstMode = .areg ∧ base = 0xC188)) (hop : op &&& 0xF1F8 = base) :
    Accepted (fillExchange srcMode dstMode op (blankInstr addr op)) := by
  have hopc : op = base ||| (op &&& 0x0E00) ||| (op &&& 0x0007) := by
    rw [← hop]
    simp only [and_or_and, BitVec.reduceOr, and_ones]
  have h9 : opReg9 op < 8#8 := opReg9_lt op
  have hea : opEaReg op < 8#8 := opEaReg_lt op
  right
  rcases hmode with ⟨rfl, rfl, rfl⟩ | ⟨rfl, rfl, rfl⟩ | ⟨rfl, rfl, rfl⟩ <;>
  · simp only [fillExchange, ngM68kValidate, validateExg, eaIsExactRegister,
      eaSimpleRegisterPayload, reg9_shift, eaReg_widen, ← hopc]
    simp [blankInstr, zeroTargetAbsDisp, h9, hea]

theorem decodeExchange_accepted (hg : decodeExchange.guard op = true) :
    Accepted (decodeExchange.fill rom addr op (blankInstr addr op)) := by
  simp only [decodeExchange, Bool.or_eq_true] at hg
  simp only [decodeExchange]
  split_ifs with h1 h2
  · exact fillExchange_accepted (.inl ⟨rfl, rfl, rfl⟩) (opMatch_iff.mp h1)
  · exact fillExchange_accepted (.inr (.inl ⟨rfl, rfl, rfl⟩)) (opMatch_iff.mp h2)
  · rcases hg with (hg | hg) | hg
    · exact absurd hg h1
    · exact absurd hg h2
    · exact fillExchange_accepted (.inr (.inr ⟨rfl, rfl, rfl⟩)) (opMatch_iff.mp hg)

theorem and_eaMode {v : BitVec 8} (h : opEaMode op = v) :
    op &&& (0x0038 : BitVec 16) = v.setWidth 16 <<< 3 := by
  rw [← h, ← eaMode_shift]

theorem fillExtendPair_accepted {mn : NgM68kMnemonic} {size : BitVec 8}
    (hmns : ((mn = .addx ∨ mn = .subx) ∧ validSize size = true ∧
        sizeBitsOf size = some (op &&& 0x00C0)) ∨
      ((mn = .abcd ∨ mn = .sbcd) ∧ size = 1 ∧ op &&& 0x00C0#16 = 0))
    (hbase : extendPairBase mn = some (op &&& 0xF100))
    (hm : opEaMode op = 0 ∨ opEaMode op = 1) :
    Accepted (fillExtendPair mn size op (blankInstr addr op)) := by
  have hopc : op = (op &&& 0xF100) ||| (op &&& 0x0E00) ||| (op &&& 0x00C0) ||| (op &&& 0x0038) |||
      (op &&& 0x0007) := by
    simp only [and_or_and, BitVec.reduceOr, and_ones]
  have h9 : opReg9 op < 8#8 := opReg9_lt op
  have hea : opEaReg op < 8#8 := opEaReg_lt op
  right
  rcases hm with hm | hm <;> rw [and_eaMode hm] at hopc <;>
    rcases hmns with ⟨rfl | rfl, hvs, hbits⟩ | ⟨rfl | rfl, hvs, hbits⟩ <;>
  · simp only [fillExtendPair, ngM68kValidate, validExtendPair, hbase, hm, hbits, reg9_shift,
      eaReg_widen, eaSimpleRegisterPayload]
    simpa [blankInstr, zeroTargetAbsDisp, h9, hea, hvs, hbits] using hopc

theorem decodeAddxSubx_accepted (hg : decodeAddxSubx.guard op = true) :
    Accepted (decodeAddxSubx.fill rom addr op (blankInstr addr op)) := by
  simp only [decodeAddxSubx, Bool.and_eq_true, Bool.or_eq_true, opMatch_iff,
    decide_eq_true_iff] at hg
  obtain ⟨⟨hop, hm⟩, hs⟩ := hg
  obtain ⟨hbits, hvs⟩ := sizeBitsOf_opSizeCode hs
  rcases hop with hop | hop
  · have htop : op &&& 0xF000 = 0xD000 := and_of_and hop rfl
    simp only [decodeAddxSubx, opMatch, htop]
    exact fillExtendPair_accepted (.inl ⟨by decide, hvs, hbits⟩) (by rw [hop]; rfl) hm
  · have htop : op &&& 0xF000 = 0x9000 := and_of_and hop rfl
    simp only [decodeAddxSubx, opMatch, htop]
    exact fillExtendPair_accepted (.inl ⟨by decide, hvs, hbits⟩) (by rw [hop]; rfl) hm

theorem decodeAbcdSbcd_accepted (hg : decodeAbcdSbcd.guard op = true) :
    Accepted (decodeAbcdSbcd.fill rom addr op (blankInstr addr op)) := by
  simp only [decodeAbcdSbcd, Bool.and_eq_true, Bool.or_eq_true, opMatch_iff,
    decide_eq_true_iff] at hg
  obtain ⟨hop, hm⟩ := hg
  rcases hop with hop | hop
  · have htop : op &&& 0xF000 = 0xC000 := and_of_and hop rfl
    have hbits : op &&& 0x00C0 = 0 := and_of_and hop rfl
    have hbase : op &&& 0xF100 = 0xC100 := and_of_and hop rfl
    simp only [decodeAbcdSbcd, opMatch, htop]
    exact fillExtendPair_accepted (.inr ⟨by decide, rfl, hbits⟩) (by rw [hbase]; rfl) hm
  · have htop : op &&& 0xF000 = 0x8000 := and_of_and hop rfl
    have hbits : op &&& 0x00C0 = 0 := and_of_and hop rfl
    have hbase : op &&& 0xF100 = 0x8100 := and_of_and hop rfl
    simp only [decodeAbcdSbcd, opMatch, htop]
    exact fillExtendPair_accepted (.inr ⟨by decide, rfl, hbits⟩) (by rw [hbase]; rfl) hm

/-! ## Shifts -/

/-- The shift mnemonic gives its direction and kind back. -/
theorem shiftKind_shiftMnemonic (d k : BitVec 16) :
    shiftKind (shiftMnemonic ((d &&& 1).setWidth 8) ((k &&& 3).setWidth 8)) =
      some (k &&& 3, d &&& 1) := by
  have hd : (d &&& 1).toNat ≤ 1 := by
    rw [BitVec.toNat_and]
    exact Nat.and_le_right
  have hk : (k &&& 3).toNat ≤ 3 := by
    rw [BitVec.toNat_and]
    exact Nat.and_le_right
  have hdcast : d &&& 1 = BitVec.ofNat 16 (d &&& 1).toNat := by
    rw [BitVec.ofNat_toNat, BitVec.setWidth_eq]
  have hkcast : k &&& 3 = BitVec.ofNat 16 (k &&& 3).toNat := by
    rw [BitVec.ofNat_toNat, BitVec.setWidth_eq]
  rw [hdcast, hkcast]
  interval_cases (d &&& 1).toNat <;> interval_cases (k &&& 3).toNat <;> rfl

/-- The validator of a mnemonic with a shift kind. -/
theorem ngM68kValidate_shift {instr : NgM68kInstr} {kd : BitVec 16 × BitVec 16}
    (h : shiftKind instr.mnemonic = some kd) :
    ngM68kValidate instr = (instr.byteLength != 0 && validateShiftRotate instr) := by
  unfold ngM68kValidate
  cases hm : instr.mnemonic <;> first | rfl | (rw [hm] at h; cases h)

theorem decodeShiftRotate_accepted (hg : decodeShiftRotate.guard op = true) :
    Accepted (decodeShiftRotate.fill rom addr op (blankInstr addr op)) := by
  simp only [decodeShiftRotate, Bool.and_eq_true, Bool.or_eq_true, opMatch_iff,
    decide_eq_true_iff] at hg
  obtain ⟨hop, hg⟩ := hg
  simp only [decodeShiftRotate]
  have hd8 : (((op >>> 8) &&& 1) <<< 8) = op &&& 0x0100 := field_shift op 1 8
  by_cases hs : opSizeCode op = 3
  · rw [if_pos hs]
    obtain ⟨h11, hmem⟩ := hg.resolve_left (not_not.mpr hs)
    obtain ⟨hc, hlen⟩ := memoryAlterable_checked rom (addr + 2) 2 hmem
    have hnd := not_dreg_of_memoryAlterable hlen
    generalize decodeEa rom (addr + 2) (opEaMode op) (opEaReg op) 2 = ea at hc hlen hnd ⊢
    rw [if_neg hc.mode]
    right
    have hlen0 := add_len_ne_zero (.inl rfl) hc.len
    rw [ngM68kValidate_shift (shiftKind_shiftMnemonic _ _), validateShiftRotate,
      shiftKind_shiftMnemonic]
    have hk : (((op >>> 9) &&& 3) <<< 9) = op &&& 0x0600 := field_shift op 3 9
    have hopc : op = 0xE0C0 ||| (op &&& 0x0600) ||| (op &&& 0x0100) ||| (op &&& 0x003F) := by
      have hsize : op &&& 0x00C0 = 0x00C0 := by rw [← sizeCode_shift, hs]; rfl
      have hbase : (0xE0C0 : BitVec 16) = (op &&& 0xF000) ||| (op &&& 0x00C0) ||| (op &&& 0x0800) := by
        rw [hop, hsize, h11]
        rfl
      rw [hbase]
      simp only [and_or_and, BitVec.reduceOr, and_ones]
    simp only [hnd, if_false, hlen, hc.field, hk, hd8, eaField_widen, ← hopc, hlen0]
    simp [blankInstr, eaIsEmpty, zeroTargetAbsDisp]
  · rw [if_neg hs]
    obtain ⟨hbits, hvs⟩ := sizeBitsOf_opSizeCode hs
    have hk : (((op >>> 3) &&& 3) <<< 3) = op &&& 0x0018 := field_shift op 3 3
    have hsize : (if sizeFromOpcodeBits (opSizeCode op) = 1 then (0 : BitVec 16)
        else if sizeFromOpcodeBits (opSizeCode op) = 2 then 1 else 2) <<< 6 = op &&& 0x00C0 := by
      rw [← sizeCode_shift]
      rcases opSizeCode_cases hs with h | h | h <;> rw [h] <;> rfl
    have hea : opEaReg op < 8#8 := opEaReg_lt op
    have h9 : opReg9 op < 8#8 := opReg9_lt op
    generalize sizeFromOpcodeBits (opSizeCode op) = size at hbits hvs hsize ⊢
    right
    by_cases h5 : (op >>> 5) &&& 1 = 0
    · rw [if_neg (not_not.mpr h5)]
      have h5' : op &&& 0x0020 = 0 := (bit_eq_zero_iff op rfl (by decide)).mp h5
      obtain ⟨hc1, hc8, hcount⟩ := count_field op
      generalize (if opReg9 op = 0 then 8 else (opReg9 op).setWidth 32) = count at hc1 hc8 hcount ⊢
      rw [ngM68kValidate_shift (shiftKind_shiftMnemonic _ _), validateShiftRotate,
        shiftKind_shiftMnemonic]
      have hopc : op = 0xE000 ||| (op &&& 0x0E00) ||| (op &&& 0x0100) ||| (op &&& 0x00C0) ||| 0 |||
          (op &&& 0x0018) ||| (op &&& 0x0007) := by
        rw [← h5', ← hop]
        simp only [and_or_and, BitVec.reduceOr, and_ones]
      simp only [validateShiftRotateDreg, if_true, hvs, hk, hd8, hsize, hcount, reg9_shift,
        eaReg_widen, decide_eq_true hc1, decide_eq_true hc8, ← hopc]
      simp [blankInstr, eaIsEmpty, zeroTargetAbsDisp, eaSimpleRegisterPayload, hea]
    · rw [if_pos h5]
      have h5' : op &&& 0x0020 = 0x0020 := (and_bit_cases op (i := 5) rfl).resolve_left
        fun h => h5 ((bit_eq_zero_iff op rfl (by decide)).mpr h)
      rw [ngM68kValidate_shift (shiftKind_shiftMnemonic _ _), validateShiftRotate,
        shiftKind_shiftMnemonic]
      have hopc : op = 0xE000 ||| (op &&& 0x0E00) ||| (op &&& 0x0100) ||| (op &&& 0x00C0) |||
          0x0020 ||| (op &&& 0x0018) ||| (op &&& 0x0007) := by
        conv_rhs => rw [← h5', ← hop]
        simp only [and_or_and, BitVec.reduceOr, and_ones]
      simp only [validateShiftRotateDreg, if_true, hvs, hk, hd8, hsize, reg9_shift,
        eaReg_widen, ← hopc]
      simp [blankInstr, eaIsExactRegister, zeroTargetAbsDisp, eaSimpleRegisterPayload, hea, h9]

/-! ## MOVE -/

/-- The summary fields of a MOVE pass their check. -/
theorem populateMoveLegacyFields_eq (out : NgM68kInstr) (hmn : out.mnemonic = .move)
    (hform : out.form = .none) (hreg : out.reg = 0) (hsreg : out.srcReg = 0)
    (himm : out.immediate = 0) (habs : out.absoluteAddr = 0) (hdisp : out.displacement = 0) :
    ∃ form reg srcReg immediate absoluteAddr displacement,
      populateMoveLegacyFields out =
        { out with form, reg, srcReg, immediate, absoluteAddr, displacement } ∧
      validateMoveLegacyFields
        { out with form, reg, srcReg, immediate, absoluteAddr, displacement } = true := by
  unfold populateMoveLegacyFields
  dsimp only
  rw [if_neg (by simp [hmn])]
  split_ifs with h1 h2 h3 h4 h5 h6 h7 <;> refine ⟨_, _, _, _, _, _, rfl, ?_⟩ <;>
    simp [validateMoveLegacyFields, moveLegacyFields, *]

/-- The destination of a MOVE sits in the upper operand bits, register first. -/
theorem move_dstField (op : BitVec 16) :
    ((((opMode6 op <<< 3) ||| opReg9 op) &&& 7).setWidth 16 <<< 9) |||
      (((((opMode6 op <<< 3) ||| opReg9 op) >>> 3) &&& 7).setWidth 16 <<< 6) =
      op &&& 0x0FC0 := by
  have h9 : ((opMode6 op <<< 3) ||| opReg9 op) &&& 7 = opReg9 op := by
    rcases lt_eight_cases (opMode6_lt op) with hm | hm | hm | hm | hm | hm | hm | hm <;> rw [hm] <;>
    rcases lt_eight_cases (opReg9_lt op) with hr | hr | hr | hr | hr | hr | hr | hr <;> rw [hr] <;> rfl
  have h6 : (((opMode6 op <<< 3) ||| opReg9 op) >>> 3) &&& 7 = opMode6 op := by
    rcases lt_eight_cases (opMode6_lt op) with hm | hm | hm | hm | hm | hm | hm | hm <;> rw [hm] <;>
    rcases lt_eight_cases (opReg9_lt op) with hr | hr | hr | hr | hr | hr | hr | hr <;> rw [hr] <;> rfl
  rw [h9, h6, reg9_shift, mode6_shift, and_or_and]
  rfl

/-- The three sizes of MOVE, by the top opcode digit. -/
theorem move_sizes (hg : decodeMove.guard op = true) :
    ∃ size : BitVec 8, (if opTop op = 1 then 1 else if opTop op = 2 then 4 else 2) = size ∧
      validSize size = true ∧ (size = 1 ∨ size = 2 ∨ size = 4) ∧
      (if size = 1 then 0x1000 else if size = 2 then 0x3000 else 0x2000) = op &&& 0xF000 := by
  simp only [decodeMove, Bool.or_eq_true, decide_eq_true_iff] at hg
  rcases hg with (ht | ht) | ht <;> rw [and_top ht, ht] <;>
    exact ⟨_, rfl, rfl, by decide, rfl⟩

theorem move_validate {size : BitVec 8} {src dst : NgM68kEa × BitVec 8}
    (hvs : validSize size = true)
    (hsize : (if size = 1 then 0x1000 else if size = 2 then 0x3000 else 0x2000) = op &&& 0xF000)
    (hsrc : EaChecked src op)
    (hsrcLen : ∀ instr : NgM68kInstr, instr.size = size → instr.addr = addr → instr.src = src.1 →
      exactAddsubcmpSourceExtLength instr = some src.2)
    (hdst : eaOpcodeField dst.1 = some ((opMode6 op <<< 3) ||| opReg9 op))
    (hdstLen : exactDataAlterableExtLength dst.1 = some dst.2)
    (hlen0 : (2 + src.2 + dst.2 != 0) = true) :
    ngM68kValidate (populateMoveLegacyFields { blankInstr addr op with
      mnemonic := .move, size := size, byteLength := 2 + src.2 + dst.2, src := src.1,
      dst := dst.1 }) = true := by
  obtain ⟨form, reg, sreg, imm, absAddr, disp, heq, hlegacy⟩ := populateMoveLegacyFields_eq
    { blankInstr addr op with
        mnemonic := .move, size := size, byteLength := 2 + src.2 + dst.2, src := src.1,
        dst := dst.1 } rfl rfl rfl rfl rfl rfl rfl
  have hopc : op = (op &&& 0xF000) ||| (op &&& 0x0FC0) ||| (op &&& 0x003F) := by
    simp only [and_or_and, BitVec.reduceOr, and_ones]
  rw [heq]
  simp only [ngM68kValidate, validateMove, moveSourceExtLength, moveDestinationExtLength]
  rw [hsrcLen _ rfl rfl rfl]
  simp only [hdstLen, hsrc.field, hdst, hlegacy, hvs, hsize, eaField_widen, hlen0, BitVec.or_assoc]
  rw [← BitVec.or_assoc (x := BitVec.setWidth 16 _ <<< 9), move_dstField, ← BitVec.or_assoc, ← hopc]
  simp [blankInstr]

/-- MOVEA with its summary fields. -/
theorem movea_validate {size : BitVec 8} {src : NgM68kEa × BitVec 8} (hs : size = 2 ∨ size = 4)
    (hsize : (if size = 1 then 0x1000 else if size = 2 then 0x3000 else 0x2000) = op &&& 0xF000)
    (hmode : opMode6 op = 1) (hsrc : EaChecked src op)
    (hsrcLen : ∀ instr : NgM68kInstr, instr.size = size → instr.addr = addr → instr.src = src.1 →
      exactAddsubcmpSourceExtLength instr = some src.2) :
    ngM68kValidate (populateMoveLegacyFields { blankInstr addr op with
      mnemonic := .movea, size := size, byteLength := 2 + src.2, src := src.1,
      dst := { mode := .areg, reg := opReg9 op }, reg := opReg9 op }) = true := by
  have hlen0 := add_len_ne_zero (.inl rfl) hsrc.len
  have hbase : addressRegOpBase .movea size = some (op &&& 0xF1C0) := by
    have hb : op &&& 0xF1C0 = (op &&& 0xF000) ||| (op &&& 0x01C0) := by
      rw [and_or_and]
      rfl
    rw [hb, ← hsize, and_mode6 hmode]
    rcases hs with rfl | rfl <;> rfl
  have hwl : validWordOrLong size = true := by rcases hs with rfl | rfl <;> rfl
  have hopc := @opcode_eq_reg9 op _ rfl
  by_cases hpc : src.1.mode = .pcIndex
  · simp only [populateMoveLegacyFields, hpc, true_and, if_true, ngM68kValidate,
      validateAddressRegOp, moveSourceExtLength]
    rw [hsrcLen _ rfl rfl rfl]
    simp only [hlen0, hsrc.field, hbase, hwl, hpc, validateAddressRegOpLegacyFields,
      eaSimpleRegisterPayload, decide_eq_true (opReg9_lt op), eaField_widen, reg9_shift, ← hopc]
    simp [blankInstr]
  · simp only [populateMoveLegacyFields, hpc, false_and, and_false, if_false, reduceCtorEq, or_self,
      ngM68kValidate, validateAddressRegOp, moveSourceExtLength]
    rw [hsrcLen _ rfl rfl rfl]
    simp only [hlen0, hsrc.field, hbase, hwl, hpc, validateAddressRegOpLegacyFields,
      eaSimpleRegisterPayload, decide_eq_true (opReg9_lt op), eaField_widen, reg9_shift, ← hopc]
    simp [blankInstr]

theorem decodeMove_accepted (hg : decodeMove.guard op = true) :
    Accepted (decodeMove.fill rom addr op (blankInstr addr op)) := by
  obtain ⟨size, hsz, hvs, hsizes, hsize⟩ := move_sizes hg
  simp only [decodeMove, hsz]
  by_cases hbyteDst : opMode6 op = 1 ∧ size = 1
  · rw [if_pos hbyteDst]
    exact accepted_unknown _
  by_cases hbyteSrc : opEaMode op = 1 ∧ size = 1
  · rw [if_neg hbyteDst, if_pos hbyteSrc]
    exact accepted_unknown _
  by_cases halt : opMode6 op ≠ 1 ∧ (!isDataAlterableEa (opMode6 op) (opReg9 op)) = true
  · rw [if_neg hbyteDst, if_neg hbyteSrc, if_pos halt]
    exact accepted_unknown _
  rw [if_neg hbyteDst, if_neg hbyteSrc, if_neg halt]
  by_cases hne : (decodeEa rom (addr + 2) (opEaMode op) (opEaReg op) size).1.mode = .none
  · rw [if_pos hne]
    exact accepted_unknown _
  rw [if_neg hne]
  obtain ⟨hc, hlen⟩ := source_checked hne (fun h h1 => hbyteSrc ⟨h, h1⟩) hvs
  generalize decodeEa rom (addr + 2) (opEaMode op) (opEaReg op) size = src at hc hlen ⊢
  right
  by_cases hm : opMode6 op = 1
  · have hs : size = 2 ∨ size = 4 := hsizes.resolve_left fun h => hbyteDst ⟨hm, h⟩
    have hdst (ext : BitVec 32) : decodeEa rom ext 1 (opReg9 op) size =
        ({ mode := .areg, reg := opReg9 op }, 0) := rfl
    have hlen2 : 2 + src.2 + 0 = 2 + src.2 := BitVec.add_zero _
    simp only [hm, hdst, if_true, reduceCtorEq, if_false, hlen2]
    exact movea_validate hs hsize hm hc hlen
  · have hda : isDataAlterableEa (opMode6 op) (opReg9 op) = true := by
      simpa only [ne_eq, hm, not_false_eq_true, true_and, Bool.not_eq_true', Bool.not_eq_false]
        using halt
    have hdlen (ext : BitVec 32) := @decodeEa_dataAlterable rom ext _ _ size
      (opMode6_lt op) (opReg9_lt op) hda
    have hdne (ext : BitVec 32) : (decodeEa rom ext (opMode6 op) (opReg9 op) size).1.mode ≠ .none := by
      intro hnone
      have h := hdlen ext
      rw [exactDataAlterableExtLength, hnone, exactMemoryAlterableExtLength, hnone] at h
      cases h
    simp only [hm, if_false, hdne, reduceCtorEq]
    refine move_validate hvs hsize hc hlen
      (decodeEa_field (opMode6_lt op) (opReg9_lt op) (hdne _)) (hdlen _) ?_
    rcases hc.len with h | h | h <;> rw [h] <;>
    exact add_len_ne_zero (by decide) (decodeEa_len (opMode6_lt op) (opReg9_lt op))

end Patterns

end NeoRecomp
