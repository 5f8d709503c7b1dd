import NeoRecomp.Validate.Operands

/-!
# Validation of control and move instructions

A validator accepts a decoded record only when the opcode word rebuilt from the record's own fields
is the recorded one, the length is right and the unused fields are zero.
-/

namespace NeoRecomp

/-- The fields a validator requires to be zero together in most families. -/
def zeroTargetAbsDisp (instr : NgM68kInstr) : Bool :=
  instr.target == 0 && instr.absoluteAddr == 0 && instr.displacement == 0

/-! ## Instructions without operands -/

/-- `valid_control_immediate_fields`. -/
def validControlImmediateFields (instr : NgM68kInstr) : Bool :=
  instr.reg == 0 && instr.srcReg == 0 && instr.condition == 0 && instr.form == .none &&
    zeroTargetAbsDisp instr && noEaFields instr

/-- `valid_no_operand_2byte`. -/
def validNoOperand2byte (instr : NgM68kInstr) : Bool :=
  instr.byteLength == 2 && instr.size == 0 && instr.immediate == 0 &&
    validControlImmediateFields instr

/-- `valid_fixed_no_operand_2byte`. -/
def validFixedNoOperand2byte (instr : NgM68kInstr) (opcode : BitVec 16) : Bool :=
  instr.opcode == opcode && validNoOperand2byte instr

/-- `validate_illegal_opcode_metadata`. -/
def validateIllegalOpcodeMetadata (instr : NgM68kInstr) : Bool :=
  instr.byteLength == 2 && instr.size == 0 && validControlImmediateFields instr &&
    (if instr.immediate = 0 then instr.opcode == 0x4AFC
     else if instr.immediate = 10 then opMatch instr.opcode 0xF000 0xA000
     else if instr.immediate = 11 then opMatch instr.opcode 0xF000 0xF000
     else false)

/-- `validate_stop_metadata`. -/
def validateStopMetadata (instr : NgM68kInstr) : Bool :=
  instr.opcode == 0x4E72 && instr.byteLength == 4 && instr.size == 0 &&
    instr.immediate ≤ 0xFFFF && validControlImmediateFields instr

/-- `validate_trap_metadata`. -/
def validateTrapMetadata (instr : NgM68kInstr) : Bool :=
  opMatch instr.opcode 0xFFF0 0x4E40 &&
    (instr.opcode &&& 0x000F).setWidth 32 == instr.immediate &&
    instr.byteLength == 2 && instr.size == 0 && instr.immediate ≤ 15 &&
    validControlImmediateFields instr

/-- `validate_immediate_to_ccr_sr`. -/
def validateImmediateToCcrSr (instr : NgM68kInstr) : Bool :=
  let ccr (opcode : BitVec 16) :=
    instr.opcode == opcode && instr.size == 1 && instr.immediate ≤ 0xFF
  let sr (opcode : BitVec 16) :=
    instr.opcode == opcode && instr.size == 2 && instr.immediate ≤ 0xFFFF
  instr.byteLength == 4 && validControlImmediateFields instr &&
    match instr.mnemonic with
    | .oriToCcr => ccr 0x003C
    | .andiToCcr => ccr 0x023C
    | .eoriToCcr => ccr 0x0A3C
    | .oriToSr => sr 0x007C
    | .andiToSr => sr 0x027C
    | .eoriToSr => sr 0x0A7C
    | _ => false

/-! ## Control flow -/

/-- `validate_branch`. -/
def validateBranch (instr : NgM68kInstr) : Bool :=
  let disp8 := (instr.opcode &&& 0xFF).setWidth 8
  let lengthOk :=
    if instr.byteLength = 2 then disp8 != 0 && instr.displacement == sign8 disp8
    else if instr.byteLength = 4 then disp8 == 0
    else false
  instr.size == 0 && instr.immediate == 0 && instr.reg == 0 && instr.srcReg == 0 &&
    instr.form == .none && instr.absoluteAddr == 0 && noEaFields instr &&
    instr.target == addDisplacement (instr.addr + 2) instr.displacement && lengthOk &&
    match instr.mnemonic with
    | .bcc => opMatch instr.opcode 0xF000 0x6000 &&
        instr.condition == ((instr.opcode >>> 8) &&& 0xF).setWidth 8 &&
        2 ≤ instr.condition && instr.condition ≤ 15
    | .bra => opMatch instr.opcode 0xFF00 0x6000 && instr.condition == 0
    | _ => opMatch instr.opcode 0xFF00 0x6100 && instr.condition == 0

/-- The mode-dependent fields of `validate_control_transfer`. -/
def validateControlTransferFields (instr : NgM68kInstr) : Bool :=
  match instr.src.mode with
  | .aind => instr.form == .aregIndirect && instr.reg == instr.src.reg && instr.target == 0 &&
      instr.displacement == 0
  | .absW | .absL => instr.form == .abs && instr.reg == 0 &&
      instr.target == instr.src.absoluteAddr && instr.displacement == 0
  | .pcDisp => instr.form == .pcRelative && instr.reg == 0 &&
      instr.target == instr.src.absoluteAddr && instr.displacement == instr.src.displacement
  | _ => instr.form == .none && instr.reg == 0 && instr.target == 0 && instr.displacement == 0

/-- `validate_control_transfer`: JMP and JSR. -/
def validateControlTransfer (instr : NgM68kInstr) : Bool :=
  match exactControlSourceExtLength instr, eaOpcodeField instr.src with
  | some extLen, some eaField =>
      instr.size == 0 && eaIsEmpty instr.dst && instr.immediate == 0 && instr.srcReg == 0 &&
        instr.condition == 0 && instr.byteLength == 2 + extLen && instr.absoluteAddr == 0 &&
        instr.opcode ==
          (if instr.mnemonic = .jmp then 0x4EC0 else 0x4E80) ||| eaField.setWidth 16 &&
        validateControlTransferFields instr
  | _, _ => false

/-- `validate_dbcc`. -/
def validateDbcc (instr : NgM68kInstr) : Bool :=
  instr.byteLength == 4 && instr.size == 2 && instr.condition ≤ 15 && instr.reg < 8 &&
    instr.immediate == 0 && instr.srcReg == 0 && instr.form == .none &&
    instr.absoluteAddr == 0 && noEaFields instr &&
    instr.target == addDisplacement (instr.addr + 2) instr.displacement &&
    instr.opcode ==
      (0x50C8 : BitVec 16) ||| (instr.condition.setWidth 16 <<< 8) ||| instr.reg.setWidth 16

/-- `validate_scc`. -/
def validateScc (instr : NgM68kInstr) : Bool :=
  match exactDataAlterableExtLength instr.dst, eaOpcodeField instr.dst with
  | some extLen, some eaField =>
      instr.size == 1 && instr.condition ≤ 15 && instr.immediate == 0 && instr.reg == 0 &&
        instr.srcReg == 0 && instr.form == .none && zeroTargetAbsDisp instr &&
        eaIsEmpty instr.src && instr.byteLength == 2 + extLen &&
        instr.opcode ==
          (0x50C0 : BitVec 16) ||| (instr.condition.setWidth 16 <<< 8) ||| eaField.setWidth 16
  | _, _ => false

/-- `validate_link_unlk`. -/
def validateLinkUnlk (instr : NgM68kInstr) : Bool :=
  instr.immediate == 0 && instr.condition == 0 && instr.form == .none && instr.target == 0 &&
    instr.absoluteAddr == 0 && instr.srcReg == 0 && instr.reg < 8 && noEaFields instr &&
    match instr.mnemonic with
    | .link => instr.opcode == 0x4E50 ||| instr.reg.setWidth 16 && instr.byteLength == 4 &&
        instr.size == 2
    | _ => instr.opcode == 0x4E58 ||| instr.reg.setWidth 16 && instr.byteLength == 2 &&
        instr.size == 0 && instr.displacement == 0

/-- `validate_move_usp`. -/
def validateMoveUsp (instr : NgM68kInstr) : Bool :=
  instr.byteLength == 2 && instr.size == 4 && instr.reg < 8 && instr.immediate == 0 &&
    instr.srcReg == 0 && instr.condition == 0 && instr.form == .none &&
    zeroTargetAbsDisp instr &&
    (if eaIsExactRegister instr.src .areg && instr.src.reg == instr.reg then
       instr.opcode == 0x4E60 ||| instr.reg.setWidth 16 && eaIsEmpty instr.dst
     else if eaIsExactRegister instr.dst .areg && instr.dst.reg == instr.reg then
       instr.opcode == 0x4E68 ||| instr.reg.setWidth 16 && eaIsEmpty instr.src
     else false)

/-! ## Moves and addresses -/

/-- The legacy fields of MOVE, as one expected tuple. -/
def moveLegacyFields (instr : NgM68kInstr) (form : NgM68kOperandForm) (reg srcReg : BitVec 8)
    (immediate absoluteAddr : BitVec 32) (displacement : BitVec 16) : Bool :=
  instr.form == form && instr.reg == reg && instr.srcReg == srcReg &&
    instr.immediate == immediate && instr.absoluteAddr == absoluteAddr &&
    instr.displacement == displacement

/-- `validate_move_legacy_fields`. -/
def validateMoveLegacyFields (instr : NgM68kInstr) : Bool :=
  let src := instr.src
  let dst := instr.dst
  let dstAbs := dst.mode = .absW ∨ dst.mode = .absL
  let srcAbs := src.mode = .absW ∨ src.mode = .absL
  if src.mode = .areg ∧ dstAbs then
    moveLegacyFields instr .aregToAbs src.reg 0 0 dst.absoluteAddr 0
  else if src.mode = .imm ∧ dstAbs then
    moveLegacyFields instr .immToAbs 0 0 src.immediate dst.absoluteAddr 0
  else if src.mode = .dreg ∧ dstAbs then
    moveLegacyFields instr .dregToAbs src.reg 0 0 dst.absoluteAddr 0
  else if srcAbs ∧ dst.mode = .dreg then
    moveLegacyFields instr .absToDreg dst.reg 0 0 src.absoluteAddr 0
  else if src.mode = .adisp ∧ dst.mode = .dreg then
    moveLegacyFields instr .aregDisp dst.reg src.reg 0 0 src.displacement
  else if src.mode = .imm ∧ dst.mode = .dreg then
    moveLegacyFields instr .immToDreg dst.reg 0 src.immediate 0 0
  else if src.mode = .dreg ∧ dst.mode = .dreg then
    moveLegacyFields instr .dregToDreg dst.reg src.reg 0 0 0
  else
    moveLegacyFields instr .none 0 0 0 0 0

/-- `validate_move`. -/
def validateMove (instr : NgM68kInstr) : Bool :=
  match moveSourceExtLength instr, moveDestinationExtLength instr.dst, eaOpcodeField instr.src,
      eaOpcodeField instr.dst with
  | some srcExt, some dstExt, some srcField, some dstField =>
      let sizeBase : BitVec 16 :=
        if instr.size = 1 then 0x1000 else if instr.size = 2 then 0x3000 else 0x2000
      validSize instr.size && instr.condition == 0 && instr.target == 0 &&
        validateMoveLegacyFields instr && instr.byteLength == 2 + srcExt + dstExt &&
        instr.opcode == sizeBase ||| ((dstField &&& 7).setWidth 16 <<< 9) |||
          (((dstField >>> 3) &&& 7).setWidth 16 <<< 6) ||| srcField.setWidth 16
  | _, _, _, _ => false

/-- `validate_pea`. -/
def validatePea (instr : NgM68kInstr) : Bool :=
  match exactControlSourceExtLength instr, eaOpcodeField instr.src with
  | some extLen, some eaField =>
      instr.size == 4 && eaIsEmpty instr.dst && instr.immediate == 0 && instr.srcReg == 0 &&
        instr.reg == 0 && instr.condition == 0 && instr.form == .none &&
        zeroTargetAbsDisp instr && instr.byteLength == 2 + extLen &&
        instr.opcode == 0x4840 ||| eaField.setWidth 16
  | _, _ => false

/-- `validate_lea_legacy_fields`. -/
def validateLeaLegacyFields (instr : NgM68kInstr) : Bool :=
  instr.form == .none && instr.absoluteAddr == 0 &&
    match instr.src.mode with
    | .pcDisp => instr.target == instr.src.absoluteAddr &&
        instr.displacement == instr.src.displacement
    | .pcIndex | .absW | .absL => instr.target == instr.src.absoluteAddr &&
        instr.displacement == 0
    | _ => instr.target == 0 && instr.displacement == 0

/-- `validate_lea`.  Only the mode and the register of the destination are looked at. -/
def validateLea (instr : NgM68kInstr) : Bool :=
  match exactControlSourceExtLength instr, eaOpcodeField instr.src with
  | some extLen, some eaField =>
      instr.size == 4 && instr.dst.mode == .areg && instr.dst.reg < 8 &&
        instr.reg == instr.dst.reg && instr.immediate == 0 && instr.srcReg == 0 &&
        instr.condition == 0 && validateLeaLegacyFields instr &&
        instr.byteLength == 2 + extLen &&
        instr.opcode ==
          (0x41C0 : BitVec 16) ||| (instr.dst.reg.setWidth 16 <<< 9) ||| eaField.setWidth 16
  | _, _ => false

/-- `validate_move_sr_ccr`. -/
def validateMoveSrCcr (instr : NgM68kInstr) : Bool :=
  instr.size == 2 && instr.immediate == 0 && instr.srcReg == 0 && instr.reg == 0 &&
    instr.condition == 0 && instr.form == .none && zeroTargetAbsDisp instr &&
    if instr.dst.mode ≠ .none then
      match moveDestinationExtLength instr.dst, eaOpcodeField instr.dst with
      | some extLen, some eaField =>
          instr.mnemonic == .moveSr && eaIsEmpty instr.src && instr.byteLength == 2 + extLen &&
            instr.opcode == 0x40C0 ||| eaField.setWidth 16
      | _, _ => false
    else
      match exactDataSourceExtLength instr, eaOpcodeField instr.src with
      | some extLen, some eaField =>
          instr.src.mode != .none && eaIsEmpty instr.dst && instr.byteLength == 2 + extLen &&
            instr.opcode ==
              (if instr.mnemonic = .moveCcr then 0x44C0 else 0x46C0) ||| eaField.setWidth 16
      | _, _ => false

/-- `validate_movem`. -/
def validateMovem (instr : NgM68kInstr) : Bool :=
  let sizeBit : BitVec 16 := if instr.size = 4 then 0x0040 else 0
  validWordOrLong instr.size && instr.immediate ≤ 0xFFFF && instr.reg == 0 &&
    instr.srcReg == 0 && instr.condition == 0 && instr.form == .none &&
    zeroTargetAbsDisp instr &&
    if eaIsEmpty instr.src ∧ instr.dst.mode ≠ .none then
      match movemRegToMemExtLength instr.dst, eaOpcodeField instr.dst with
      | some extLen, some eaField => instr.byteLength == 4 + extLen &&
          instr.opcode == 0x4880 ||| sizeBit ||| eaField.setWidth 16
      | _, _ => false
    else if eaIsEmpty instr.dst ∧ instr.src.mode ≠ .none then
      match movemMemToRegExtLength instr, eaOpcodeField instr.src with
      | some extLen, some eaField => instr.byteLength == 4 + extLen &&
          instr.opcode == 0x4C80 ||| sizeBit ||| eaField.setWidth 16
      | _, _ => false
    else false

/-- `validate_movep`. -/
def validateMovep (instr : NgM68kInstr) : Bool :=
  let sizeBit : BitVec 16 := if instr.size = 4 then 0x0040 else 0
  instr.byteLength == 4 && validWordOrLong instr.size && instr.immediate == 0 &&
    instr.condition == 0 && instr.form == .none && instr.target == 0 &&
    instr.absoluteAddr == 0 &&
    if instr.src.mode = .dreg ∧ instr.dst.mode = .adisp then
      eaIsExactRegister instr.src .dreg && eaAddressDisplacementPayload instr.dst &&
        instr.srcReg == instr.src.reg && instr.reg == instr.src.reg &&
        instr.displacement == instr.dst.displacement &&
        instr.opcode == (0x0188 : BitVec 16) ||| (instr.src.reg.setWidth 16 <<< 9) ||| sizeBit |||
          instr.dst.reg.setWidth 16
    else if instr.src.mode = .adisp ∧ instr.dst.mode = .dreg then
      eaAddressDisplacementPayload instr.src && eaIsExactRegister instr.dst .dreg &&
        instr.srcReg == 0 && instr.reg == instr.dst.reg &&
        instr.displacement == instr.src.displacement &&
        instr.opcode == (0x0108 : BitVec 16) ||| (instr.dst.reg.setWidth 16 <<< 9) ||| sizeBit |||
          instr.src.reg.setWidth 16
    else false

/-- `validate_exg`. -/
def validateExg (instr : NgM68kInstr) : Bool :=
  let pair (base : BitVec 16) :=
    instr.opcode == base ||| (instr.src.reg.setWidth 16 <<< 9) ||| instr.dst.reg.setWidth 16
  instr.byteLength == 2 && instr.size == 4 && instr.immediate == 0 && instr.condition == 0 &&
    instr.form == .none && zeroTargetAbsDisp instr && instr.srcReg == instr.src.reg &&
    instr.reg == instr.dst.reg &&
    if eaIsExactRegister instr.src .dreg ∧ eaIsExactRegister instr.dst .dreg then pair 0xC140
    else if eaIsExactRegister instr.src .areg ∧ eaIsExactRegister instr.dst .areg then pair 0xC148
    else if eaIsExactRegister instr.src .dreg ∧ eaIsExactRegister instr.dst .areg then pair 0xC188
    else false

/-- `validate_moveq`. -/
def validateMoveq (instr : NgM68kInstr) : Bool :=
  instr.byteLength == 2 && instr.size == 4 && instr.form == .immToDreg && instr.reg < 8 &&
    instr.srcReg == 0 && instr.condition == 0 && zeroTargetAbsDisp instr &&
    instr.immediate == (instr.immediate.setWidth 8).signExtend 32 && eaIsEmpty instr.src &&
    eaIsExactRegister instr.dst .dreg && instr.reg == instr.dst.reg &&
    instr.opcode == (0x7000 : BitVec 16) ||| (instr.reg.setWidth 16 <<< 9) |||
      (instr.immediate.setWidth 8).setWidth 16

/-- `validate_ext_swap`. -/
def validateExtSwap (instr : NgM68kInstr) : Bool :=
  instr.byteLength == 2 && instr.form == .dreg && instr.immediate == 0 && instr.srcReg == 0 &&
    instr.condition == 0 && zeroTargetAbsDisp instr && eaIsEmpty instr.src &&
    eaIsExactRegister instr.dst .dreg && instr.reg == instr.dst.reg &&
    match instr.mnemonic with
    | .ext => (instr.size == 2 || instr.size == 4) &&
        instr.opcode == (if instr.size = 4 then 0x48C0 else 0x4880) ||| instr.reg.setWidth 16
    | _ => instr.size == 2 && instr.opcode == 0x4840 ||| instr.reg.setWidth 16

end NeoRecomp
