import NeoRecomp.Validate.Control

/-!
# Validation of arithmetic, logic, bit and shift instructions
-/

namespace NeoRecomp

/-! ## Destination legacy fields -/

/-- The destination fields the decoder leaves behind; `dregForm` is the form of a data-register
destination.  The bit, quick, immediate, binary and unary validators share this check. -/
def validateDstLegacyFields (dregForm : NgM68kOperandForm) (instr : NgM68kInstr) : Bool :=
  match instr.dst.mode with
  | .dreg => instr.form == dregForm && instr.reg == instr.dst.reg && instr.absoluteAddr == 0 &&
      instr.displacement == 0
  | .adisp => instr.form == .aregDisp && instr.reg == instr.dst.reg && instr.absoluteAddr == 0 &&
      instr.displacement == instr.dst.displacement
  | .absW | .absL => instr.form == .abs && instr.reg == 0 &&
      instr.absoluteAddr == instr.dst.absoluteAddr && instr.displacement == 0
  | _ => instr.form == .none && instr.reg == 0 && instr.absoluteAddr == 0 &&
      instr.displacement == 0

/-! ## Bit operations -/

/-- `validate_bit_destination_legacy_fields`. -/
def validateBitDestinationLegacyFields (instr : NgM68kInstr) (dynamic : Bool) : Bool :=
  instr.condition == 0 && instr.target == 0 &&
    validateDstLegacyFields (if dynamic then .dregToDreg else .dreg) instr

/-- `validate_dynamic_bit_source`. -/
def validateDynamicBitSource (instr : NgM68kInstr) : Bool :=
  eaIsExactRegister instr.src .dreg && instr.srcReg == instr.src.reg && instr.immediate == 0

/-- `validate_static_bit_source`. -/
def validateStaticBitSource (instr : NgM68kInstr) : Bool :=
  eaIsEmpty instr.src && instr.srcReg == 0 && instr.immediate ≤ 0xFF

/-- `bit_op_kind`. -/
def bitOpKind (mnemonic : NgM68kMnemonic) : Option (BitVec 16) :=
  match mnemonic with
  | .btst => some 0
  | .bchg => some 1
  | .bclr => some 2
  | .bset => some 3
  | _ => none

/-- `validate_bit_opcode`. -/
def validateBitOpcode (instr : NgM68kInstr) (dynamic : Bool) : Bool :=
  match bitOpKind instr.mnemonic, eaOpcodeField instr.dst with
  | some kind, some eaField =>
      instr.opcode ==
        if dynamic then
          (0x0100 : BitVec 16) ||| (instr.src.reg.setWidth 16 <<< 9) ||| (kind <<< 6) |||
            eaField.setWidth 16
        else
          (0x0800 : BitVec 16) ||| (kind <<< 6) ||| eaField.setWidth 16
  | _, _ => false

/-- The tail `validate_btst` and `validate_altering_bit_op` share. -/
def validateBitTail (instr : NgM68kInstr) (dynamic : Bool) (extLen : BitVec 8) : Bool :=
  (if dynamic then validateDynamicBitSource instr else validateStaticBitSource instr) &&
    validateBitOpcode instr dynamic && validateBitDestinationLegacyFields instr dynamic &&
    instr.byteLength == (if dynamic then 2 else 4) + extLen

/-- `validate_btst`. -/
def validateBtst (instr : NgM68kInstr) : Bool :=
  let dynamic := instr.src.mode == .dreg
  match exactBitDataExtLength instr.dst instr.size (instr.addr + if dynamic then 2 else 4)
      dynamic with
  | some extLen => validateBitTail instr dynamic extLen
  | none => false

/-- `validate_altering_bit_op`. -/
def validateAlteringBitOp (instr : NgM68kInstr) : Bool :=
  match exactDataAlterableExtLength instr.dst with
  | some extLen =>
      (if instr.dst.mode = .dreg then instr.size == 4 else instr.size == 1) &&
        validateBitTail instr (instr.src.mode == .dreg) extLen
  | none => false

/-! ## Quick, immediate and unary operations -/

/-- `validate_quick_op`. -/
def validateQuickOp (instr : NgM68kInstr) : Bool :=
  match quickAlterableExtLength instr.dst, eaOpcodeField instr.dst, sizeBitsOf instr.size with
  | some extLen, some eaField, some sizeBits =>
      1 ≤ instr.immediate && instr.immediate ≤ 8 && eaIsEmpty instr.src && instr.srcReg == 0 &&
        instr.condition == 0 && instr.target == 0 &&
        (if instr.dst.mode = .areg then validWordOrLong instr.size
         else validSize instr.size && eaIsDataAlterable instr.dst) &&
        validateDstLegacyFields .dreg instr && instr.byteLength == 2 + extLen &&
        instr.opcode ==
          (0x5000 : BitVec 16) |||
            ((if instr.immediate = 8 then 0 else instr.immediate.setWidth 16) <<< 9) |||
            (if instr.mnemonic = .subq then (0x0100 : BitVec 16) else 0) ||| sizeBits |||
            eaField.setWidth 16
  | _, _, _ => false

/-- `validate_immediate_dest_legacy_fields`. -/
def validateImmediateDestLegacyFields (instr : NgM68kInstr) : Bool :=
  instr.srcReg == 0 && instr.condition == 0 && instr.target == 0 && eaIsEmpty instr.src &&
    validateDstLegacyFields .immToDreg instr

/-- The check `validate_cmpi` and `validate_immediate_to_ea` share. -/
def validateImmediateWithBase (instr : NgM68kInstr) (base : BitVec 16) : Bool :=
  match exactDataAlterableExtLength instr.dst, eaOpcodeField instr.dst, sizeBitsOf instr.size with
  | some dstExt, some eaField, some sizeBits =>
      validImmediateWidth instr.size instr.immediate &&
        validateImmediateDestLegacyFields instr &&
        instr.byteLength == 2 + (if instr.size = 4 then 4 else 2) + dstExt &&
        instr.opcode == base ||| sizeBits ||| eaField.setWidth 16
  | _, _, _ => false

/-- `validate_cmpi`. -/
def validateCmpi (instr : NgM68kInstr) : Bool := validateImmediateWithBase instr 0x0C00

/-- `validate_immediate_to_ea`. -/
def validateImmediateToEa (instr : NgM68kInstr) : Bool :=
  match instr.mnemonic with
  | .ori => validateImmediateWithBase instr 0x0000
  | .andi => validateImmediateWithBase instr 0x0200
  | .subi => validateImmediateWithBase instr 0x0400
  | .addi => validateImmediateWithBase instr 0x0600
  | .eori => validateImmediateWithBase instr 0x0A00
  | _ => false

/-- The base opcodes of `validate_unary_data_alterable`. -/
def unaryBaseOpcode (mnemonic : NgM68kMnemonic) : Option (BitVec 16) :=
  match mnemonic with
  | .negx => some 0x4000
  | .clr => some 0x4200
  | .neg => some 0x4400
  | .not => some 0x4600
  | .nbcd => some 0x4800
  | .tas => some 0x4AC0
  | _ => none

/-- `validate_unary_data_alterable`. -/
def validateUnaryDataAlterable (instr : NgM68kInstr) (byteOnly : Bool) : Bool :=
  match exactDataAlterableExtLength instr.dst, eaOpcodeField instr.dst,
      if byteOnly then (if instr.size = 1 then some 0 else none) else sizeBitsOf instr.size,
      unaryBaseOpcode instr.mnemonic with
  | some extLen, some eaField, some sizeBits, some base =>
      eaIsEmpty instr.src && instr.immediate == 0 && instr.srcReg == 0 &&
        instr.condition == 0 && instr.target == 0 && instr.byteLength == 2 + extLen &&
        instr.opcode == base ||| sizeBits ||| eaField.setWidth 16 &&
        validateDstLegacyFields .dreg instr
  | _, _, _, _ => false

/-- `validate_tst_legacy_fields`. -/
def validateTstLegacyFields (instr : NgM68kInstr) : Bool :=
  instr.target == 0 && instr.condition == 0 && instr.srcReg == 0 && instr.immediate == 0 &&
    eaIsEmpty instr.dst &&
    match instr.src.mode with
    | .dreg => instr.form == .dreg && instr.reg == instr.src.reg && instr.absoluteAddr == 0 &&
        instr.displacement == 0
    | .absW | .absL => instr.form == .abs && instr.reg == 0 &&
        instr.absoluteAddr == instr.src.absoluteAddr && instr.displacement == 0
    | .adisp => instr.form == .aregDisp && instr.reg == instr.src.reg &&
        instr.absoluteAddr == 0 && instr.displacement == instr.src.displacement
    | _ => instr.form == .none && instr.reg == 0 && instr.absoluteAddr == 0 &&
        instr.displacement == 0

/-- `validate_tst`. -/
def validateTst (instr : NgM68kInstr) : Bool :=
  match exactDataSourceExtLength instr, eaOpcodeField instr.src, sizeBitsOf instr.size with
  | some srcExt, some eaField, some sizeBits =>
      eaIsDataAlterable instr.src && validateTstLegacyFields instr &&
        instr.byteLength == 2 + srcExt &&
        instr.opcode == 0x4A00 ||| sizeBits ||| eaField.setWidth 16
  | _, _, _ => false

/-! ## Binary operations -/

/-- The base opcodes of the binary operations. -/
def binaryBaseOpcode (mnemonic : NgM68kMnemonic) : Option (BitVec 16) :=
  match mnemonic with
  | .or => some 0x8000
  | .sub => some 0x9000
  | .cmp => some 0xB000
  | .and => some 0xC000
  | .add => some 0xD000
  | _ => none

/-- `validate_ea_to_dreg_binary`. -/
def validateEaToDregBinary (instr : NgM68kInstr) (allowAregSource : Bool) : Bool :=
  let aluForm := instr.mnemonic = .add ∨ instr.mnemonic = .sub ∨ instr.mnemonic = .cmp
  match if allowAregSource then exactAddsubcmpSourceExtLength instr
      else exactDataSourceExtLength instr,
      eaOpcodeField instr.src, sizeBitsOf instr.size, binaryBaseOpcode instr.mnemonic with
  | some extLen, some eaField, some sizeBits, some base =>
      instr.immediate == 0 && instr.condition == 0 && zeroTargetAbsDisp instr &&
        instr.srcReg == instr.src.reg && eaIsExactRegister instr.dst .dreg &&
        instr.reg == instr.dst.reg && instr.form == (if aluForm then .dregToDreg else .none) &&
        instr.byteLength == 2 + extLen &&
        instr.opcode == base ||| (instr.dst.reg.setWidth 16 <<< 9) ||| sizeBits |||
          eaField.setWidth 16
  | _, _, _, _ => false

/-- `validate_binary_destination_legacy_fields`. -/
def validateBinaryDestinationLegacyFields (instr : NgM68kInstr) (allowDregDst : Bool) : Bool :=
  instr.condition == 0 && instr.target == 0 &&
    (instr.dst.mode != .dreg || (allowDregDst && eaSimpleRegisterPayload instr.dst)) &&
    validateDstLegacyFields .dregToDreg instr

/-- `Dn,<ea>` with a given base opcode: `validate_dreg_to_memory_binary` and
`validate_dreg_to_data_alterable_binary`. -/
def validateDregToEa (instr : NgM68kInstr) (base : BitVec 16) (dstExt : Option (BitVec 8))
    (allowDregDst : Bool) : Bool :=
  match dstExt, eaOpcodeField instr.dst, sizeBitsOf instr.size with
  | some extLen, some eaField, some sizeBits =>
      instr.immediate == 0 && eaIsExactRegister instr.src .dreg &&
        instr.srcReg == instr.src.reg &&
        validateBinaryDestinationLegacyFields instr allowDregDst &&
        instr.byteLength == 2 + extLen &&
        instr.opcode == base ||| (instr.src.reg.setWidth 16 <<< 9) ||| (0x0100 : BitVec 16) |||
          sizeBits ||| eaField.setWidth 16
  | _, _, _ => false

/-- `validate_dreg_to_memory_binary`. -/
def validateDregToMemoryBinary (instr : NgM68kInstr) : Bool :=
  match instr.mnemonic with
  | .or => validateDregToEa instr 0x8000 (exactMemoryAlterableExtLength instr.dst) false
  | .sub => validateDregToEa instr 0x9000 (exactMemoryAlterableExtLength instr.dst) false
  | .and => validateDregToEa instr 0xC000 (exactMemoryAlterableExtLength instr.dst) false
  | .add => validateDregToEa instr 0xD000 (exactMemoryAlterableExtLength instr.dst) false
  | _ => false

/-- `validate_dreg_to_data_alterable_binary`. -/
def validateDregToDataAlterableBinary (instr : NgM68kInstr) : Bool :=
  instr.mnemonic == .eor &&
    validateDregToEa instr 0xB000 (exactDataAlterableExtLength instr.dst) true

/-- `validate_add_sub_or_and`. -/
def validateAddSubOrAnd (instr : NgM68kInstr) : Bool :=
  if instr.dst.mode = .dreg then
    validateEaToDregBinary instr (instr.mnemonic == .add || instr.mnemonic == .sub)
  else
    validateDregToMemoryBinary instr

/-- `validate_cmpm`. -/
def validateCmpm (instr : NgM68kInstr) : Bool :=
  match sizeBitsOf instr.size with
  | some sizeBits =>
      instr.byteLength == 2 && instr.immediate == 0 && instr.condition == 0 &&
        instr.form == .none && zeroTargetAbsDisp instr && eaIsExactRegister instr.src .apost &&
        instr.srcReg == instr.src.reg && eaIsExactRegister instr.dst .apost &&
        instr.reg == instr.dst.reg &&
        instr.opcode == (0xB000 : BitVec 16) ||| (instr.dst.reg.setWidth 16 <<< 9) |||
          (0x0100 : BitVec 16) ||| sizeBits ||| (0x0008 : BitVec 16) ||| instr.src.reg.setWidth 16
  | none => false

/-- `validate_address_reg_op_legacy_fields`. -/
def validateAddressRegOpLegacyFields (instr : NgM68kInstr) : Bool :=
  instr.reg == instr.dst.reg && instr.immediate == 0 && instr.absoluteAddr == 0 &&
    instr.condition == 0 && eaSimpleRegisterPayload instr.dst &&
    if instr.mnemonic = .movea ∧ instr.src.mode = .pcIndex then
      instr.form == .pcIndexToAreg && instr.srcReg == instr.src.indexReg &&
        instr.displacement == instr.src.displacement && instr.target == instr.src.absoluteAddr
    else
      instr.form == .none && instr.srcReg == 0 && instr.displacement == 0 && instr.target == 0

/-- The opcode bits `validate_address_reg_op` puts around the two register fields. -/
def addressRegOpBase (mnemonic : NgM68kMnemonic) (size : BitVec 8) : Option (BitVec 16) :=
  let opmodeBits : BitVec 16 := if size = 2 then 0x00C0 else 0x01C0
  match mnemonic with
  | .movea => some ((if size = 2 then 0x3000 else 0x2000) ||| 0x0040)
  | .adda => some (0xD000 ||| opmodeBits)
  | .suba => some (0x9000 ||| opmodeBits)
  | .cmpa => some (0xB000 ||| opmodeBits)
  | _ => none

/-- `validate_address_reg_op`. -/
def validateAddressRegOp (instr : NgM68kInstr) : Bool :=
  match moveSourceExtLength instr, eaOpcodeField instr.src,
      addressRegOpBase instr.mnemonic instr.size with
  | some srcExt, some eaField, some base =>
      validWordOrLong instr.size && instr.dst.mode == .areg &&
        validateAddressRegOpLegacyFields instr && instr.byteLength == 2 + srcExt &&
        instr.opcode == base ||| (instr.dst.reg.setWidth 16 <<< 9) ||| eaField.setWidth 16
  | _, _, _ => false

/-- The base opcodes of `validate_word_data_to_dreg`. -/
def wordDataToDregBase (mnemonic : NgM68kMnemonic) : Option (BitVec 16) :=
  match mnemonic with
  | .chk => some 0x4180
  | .mulu => some 0xC0C0
  | .muls => some 0xC1C0
  | .divu => some 0x80C0
  | .divs => some 0x81C0
  | _ => none

/-- `validate_word_data_to_dreg`. -/
def validateWordDataToDreg (instr : NgM68kInstr) : Bool :=
  match exactDataSourceExtLength instr, eaOpcodeField instr.src,
      wordDataToDregBase instr.mnemonic with
  | some srcExt, some eaField, some base =>
      instr.size == 2 && instr.immediate == 0 && instr.srcReg == 0 && instr.condition == 0 &&
        instr.form == .none && zeroTargetAbsDisp instr && eaIsExactRegister instr.dst .dreg &&
        instr.reg == instr.dst.reg && instr.byteLength == 2 + srcExt &&
        instr.opcode == base ||| (instr.dst.reg.setWidth 16 <<< 9) ||| eaField.setWidth 16
  | _, _, _ => false

/-! ## Shifts and extended operations -/

/-- The `kind` and `dir_left` of `validate_shift_rotate`. -/
def shiftKind (mnemonic : NgM68kMnemonic) : Option (BitVec 16 × BitVec 16) :=
  match mnemonic with
  | .asr => some (0, 0)
  | .asl => some (0, 1)
  | .lsr => some (1, 0)
  | .lsl => some (1, 1)
  | .roxr => some (2, 0)
  | .roxl => some (2, 1)
  | .ror => some (3, 0)
  | .rol => some (3, 1)
  | _ => none

/-- The data-register half of `validate_shift_rotate`. -/
def validateShiftRotateDreg (instr : NgM68kInstr) (kind dirLeft : BitVec 16) : Bool :=
  let sizeCode : BitVec 16 := if instr.size = 1 then 0 else if instr.size = 2 then 1 else 2
  let opcode (countField countBit : BitVec 16) :=
    (0xE000 : BitVec 16) ||| (countField <<< 9) ||| (dirLeft <<< 8) ||| (sizeCode <<< 6) ||| countBit |||
      (kind <<< 3) ||| instr.dst.reg.setWidth 16
  validSize instr.size && instr.byteLength == 2 && eaSimpleRegisterPayload instr.dst &&
    instr.reg == instr.dst.reg && instr.condition == 0 && instr.form == .none &&
    zeroTargetAbsDisp instr &&
    if instr.src.mode ≠ .none then
      eaIsExactRegister instr.src .dreg && instr.srcReg == instr.src.reg &&
        instr.immediate == 0 && instr.opcode == opcode (instr.src.reg.setWidth 16) 0x0020
    else
      eaIsEmpty instr.src && instr.srcReg == 0 && 1 ≤ instr.immediate &&
        instr.immediate ≤ 8 &&
        instr.opcode == opcode (if instr.immediate = 8 then 0 else instr.immediate.setWidth 16) 0

/-- `validate_shift_rotate`. -/
def validateShiftRotate (instr : NgM68kInstr) : Bool :=
  match shiftKind instr.mnemonic with
  | some (kind, dirLeft) =>
      if instr.dst.mode = .dreg then validateShiftRotateDreg instr kind dirLeft
      else
        match exactMemoryAlterableExtLength instr.dst, eaOpcodeField instr.dst with
        | some extLen, some eaField =>
            eaIsEmpty instr.src && instr.size == 2 && instr.immediate == 1 &&
              instr.srcReg == 0 && instr.reg == 0 && instr.condition == 0 &&
              instr.form == .none && zeroTargetAbsDisp instr &&
              instr.byteLength == 2 + extLen &&
              instr.opcode == (0xE0C0 : BitVec 16) ||| (kind <<< 9) ||| (dirLeft <<< 8) |||
                eaField.setWidth 16
        | _, _ => false
  | none => false

/-- The base opcodes of `valid_extend_pair`. -/
def extendPairBase (mnemonic : NgM68kMnemonic) : Option (BitVec 16) :=
  match mnemonic with
  | .addx => some 0xD100
  | .subx => some 0x9100
  | .abcd => some 0xC100
  | .sbcd => some 0x8100
  | _ => none

/-- `valid_extend_pair`. -/
def validExtendPair (instr : NgM68kInstr) : Bool :=
  match extendPairBase instr.mnemonic,
      if instr.mnemonic = .addx ∨ instr.mnemonic = .subx then sizeBitsOf instr.size
      else if instr.size = 1 then some 0 else none with
  | some base, some sizeBits =>
      let opcode (formBits : BitVec 16) :=
        base ||| (instr.dst.reg.setWidth 16 <<< 9) ||| sizeBits ||| formBits |||
          instr.src.reg.setWidth 16
      instr.byteLength == 2 && instr.immediate == 0 && instr.condition == 0 &&
        zeroTargetAbsDisp instr && instr.srcReg == instr.src.reg && instr.reg == instr.dst.reg &&
        if instr.src.mode = .dreg ∧ instr.dst.mode = .dreg then
          eaSimpleRegisterPayload instr.src && eaSimpleRegisterPayload instr.dst &&
            instr.form == .dregToDreg && instr.opcode == opcode 0
        else if instr.src.mode = .apre ∧ instr.dst.mode = .apre then
          eaSimpleRegisterPayload instr.src && eaSimpleRegisterPayload instr.dst &&
            instr.form == .none && instr.opcode == opcode 0x0008
        else false
  | _, _ => false

end NeoRecomp
