import NeoRecomp.Decode.Operands

/-!
# Operand checks of the instruction validator

Payload checks for one effective address, the extension length each addressing mode takes, and the
six-bit opcode field it is encoded in.  A length function returns `none` where the source returns 0.
-/

namespace NeoRecomp

/-! ## Addressing-mode classes -/

def eaIsMemoryAlterable (ea : NgM68kEa) : Bool :=
  match ea.mode with
  | .aind | .apost | .apre | .adisp | .aindex | .absW | .absL => true
  | _ => false

def eaIsDataAlterable (ea : NgM68kEa) : Bool := ea.mode == .dreg || eaIsMemoryAlterable ea

def eaIsEmpty (ea : NgM68kEa) : Bool :=
  ea.mode == .none && ea.reg == 0 && ea.indexReg == 0 && ea.indexIsAddr == 0 &&
    ea.indexIsLong == 0 && ea.displacement == 0 && ea.absoluteAddr == 0 && ea.immediate == 0

def noEaFields (instr : NgM68kInstr) : Bool := eaIsEmpty instr.src && eaIsEmpty instr.dst

def validSize (size : BitVec 8) : Bool := size == 1 || size == 2 || size == 4
def validWordOrLong (size : BitVec 8) : Bool := size == 2 || size == 4
def validBoolField (value : BitVec 8) : Bool := value ≤ 1

/-- `signed_byte_value`: the 16-bit displacement lies in `[-128, 127]`. -/
def signedByteValue (value : BitVec 16) : Bool := -128 ≤ value.toInt && value.toInt ≤ 127

def signExtendAbsWordValue (value : BitVec 32) : BitVec 32 := (value.setWidth 16).signExtend 32

/-! ## Payloads -/

def eaSimpleRegisterPayload (ea : NgM68kEa) : Bool :=
  ea.reg < 8 && ea.indexReg == 0 && ea.indexIsAddr == 0 && ea.indexIsLong == 0 &&
    ea.displacement == 0 && ea.absoluteAddr == 0 && ea.immediate == 0

/-- `ea_is_exact_register`. -/
def eaIsExactRegister (ea : NgM68kEa) (mode : NgM68kEaMode) : Bool :=
  ea.mode == mode && eaSimpleRegisterPayload ea

def eaAddressDisplacementPayload (ea : NgM68kEa) : Bool :=
  ea.reg < 8 && ea.indexReg == 0 && ea.indexIsAddr == 0 && ea.indexIsLong == 0 &&
    ea.absoluteAddr == 0 && ea.immediate == 0

def eaAddressIndexPayload (ea : NgM68kEa) : Bool :=
  ea.reg < 8 && ea.indexReg < 8 && validBoolField ea.indexIsAddr &&
    validBoolField ea.indexIsLong && signedByteValue ea.displacement &&
    ea.absoluteAddr == 0 && ea.immediate == 0

def eaAbsWordPayload (ea : NgM68kEa) : Bool :=
  ea.reg == 0 && ea.indexReg == 0 && ea.indexIsAddr == 0 && ea.indexIsLong == 0 &&
    ea.displacement == 0 && ea.absoluteAddr == signExtendAbsWordValue ea.absoluteAddr &&
    ea.immediate == 0

def eaAbsLongPayload (ea : NgM68kEa) : Bool :=
  ea.reg == 1 && ea.indexReg == 0 && ea.indexIsAddr == 0 && ea.indexIsLong == 0 &&
    ea.displacement == 0 && ea.immediate == 0

def eaPcDisplacementPayload (ea : NgM68kEa) (extensionAddr : BitVec 32) : Bool :=
  ea.reg == 2 && ea.indexReg == 0 && ea.indexIsAddr == 0 && ea.indexIsLong == 0 &&
    ea.absoluteAddr == addDisplacement extensionAddr ea.displacement && ea.immediate == 0

def eaPcIndexPayload (ea : NgM68kEa) (extensionAddr : BitVec 32) : Bool :=
  ea.reg == 3 && ea.indexReg < 8 && validBoolField ea.indexIsAddr &&
    validBoolField ea.indexIsLong && signedByteValue ea.displacement &&
    ea.absoluteAddr == addDisplacement extensionAddr ea.displacement && ea.immediate == 0

/-- `valid_immediate_width`. -/
def validImmediateWidth (size : BitVec 8) (immediate : BitVec 32) : Bool :=
  if size = 1 then immediate ≤ 0xFF
  else if size = 2 then immediate ≤ 0xFFFF
  else size == 4

def eaImmediatePayload (ea : NgM68kEa) (size : BitVec 8) : Bool :=
  ea.reg == 4 && ea.indexReg == 0 && ea.indexIsAddr == 0 && ea.indexIsLong == 0 &&
    ea.displacement == 0 && ea.absoluteAddr == 0 && validImmediateWidth size ea.immediate

/-! ## Extension lengths -/

/-- `if (!payload) return 0; *out_ext = len; return 1;` -/
def extIf (payload : Bool) (len : BitVec 8) : Option (BitVec 8) :=
  if payload then some len else none

/-- `exact_memory_alterable_ext_length`. -/
def exactMemoryAlterableExtLength (ea : NgM68kEa) : Option (BitVec 8) :=
  match ea.mode with
  | .aind | .apost | .apre => extIf (eaSimpleRegisterPayload ea) 0
  | .adisp => extIf (eaAddressDisplacementPayload ea) 2
  | .aindex => extIf (eaAddressIndexPayload ea) 2
  | .absW => extIf (eaAbsWordPayload ea) 2
  | .absL => extIf (eaAbsLongPayload ea) 4
  | _ => none

/-- `exact_data_alterable_ext_length`; `move_destination_ext_length` is the same function written
out again. -/
def exactDataAlterableExtLength (ea : NgM68kEa) : Option (BitVec 8) :=
  match ea.mode with
  | .dreg => extIf (eaSimpleRegisterPayload ea) 0
  | _ => exactMemoryAlterableExtLength ea

def moveDestinationExtLength : NgM68kEa → Option (BitVec 8) := exactDataAlterableExtLength

/-- `quick_alterable_ext_length`: as above, with address registers. -/
def quickAlterableExtLength (ea : NgM68kEa) : Option (BitVec 8) :=
  match ea.mode with
  | .areg => extIf (eaSimpleRegisterPayload ea) 0
  | _ => exactDataAlterableExtLength ea

/-- `exact_control_ea_ext_length`. -/
def exactControlEaExtLength (ea : NgM68kEa) (extensionAddr : BitVec 32) : Option (BitVec 8) :=
  match ea.mode with
  | .aind => extIf (eaSimpleRegisterPayload ea) 0
  | .adisp => extIf (eaAddressDisplacementPayload ea) 2
  | .aindex => extIf (eaAddressIndexPayload ea) 2
  | .absW => extIf (eaAbsWordPayload ea) 2
  | .absL => extIf (eaAbsLongPayload ea) 4
  | .pcDisp => extIf (eaPcDisplacementPayload ea extensionAddr) 2
  | .pcIndex => extIf (eaPcIndexPayload ea extensionAddr) 2
  | _ => none

/-- `exact_control_source_ext_length`. -/
def exactControlSourceExtLength (instr : NgM68kInstr) : Option (BitVec 8) :=
  exactControlEaExtLength instr.src (instr.addr + 2)

/-- `exact_data_source_ext_length`. -/
def exactDataSourceExtLength (instr : NgM68kInstr) : Option (BitVec 8) :=
  match instr.src.mode with
  | .dreg | .apost | .apre => extIf (eaSimpleRegisterPayload instr.src) 0
  | .imm => extIf (eaImmediatePayload instr.src instr.size && validSize instr.size)
      (if instr.size = 4 then 4 else 2)
  | _ => exactControlEaExtLength instr.src (instr.addr + 2)

/-- `exact_addsubcmp_source_ext_length`; `move_source_ext_length` accepts the same operands. -/
def exactAddsubcmpSourceExtLength (instr : NgM68kInstr) : Option (BitVec 8) :=
  match instr.src.mode with
  | .areg => extIf (instr.size != 1 && eaSimpleRegisterPayload instr.src) 0
  | _ => exactDataSourceExtLength instr

def moveSourceExtLength : NgM68kInstr → Option (BitVec 8) := exactAddsubcmpSourceExtLength

/-- `exact_bit_data_ext_length`: data registers are long operands, everything else bytes. -/
def exactBitDataExtLength (ea : NgM68kEa) (size : BitVec 8) (extensionAddr : BitVec 32)
    (allowImmediate : Bool) : Option (BitVec 8) :=
  match ea.mode with
  | .dreg => extIf (size == 4 && eaSimpleRegisterPayload ea) 0
  | .aind | .apost | .apre => extIf (size == 1 && eaSimpleRegisterPayload ea) 0
  | .adisp => extIf (size == 1 && eaAddressDisplacementPayload ea) 2
  | .aindex => extIf (size == 1 && eaAddressIndexPayload ea) 2
  | .absW => extIf (size == 1 && eaAbsWordPayload ea) 2
  | .absL => extIf (size == 1 && eaAbsLongPayload ea) 4
  | .pcDisp => extIf (size == 1 && eaPcDisplacementPayload ea extensionAddr) 2
  | .pcIndex => extIf (size == 1 && eaPcIndexPayload ea extensionAddr) 2
  | .imm => extIf (allowImmediate && size == 1 && eaImmediatePayload ea size) 2
  | _ => none

/-- `movem_reg_to_mem_ext_length`. -/
def movemRegToMemExtLength (ea : NgM68kEa) : Option (BitVec 8) :=
  match ea.mode with
  | .aind | .apre => extIf (eaSimpleRegisterPayload ea) 0
  | .adisp => extIf (eaAddressDisplacementPayload ea) 2
  | .aindex => extIf (eaAddressIndexPayload ea) 2
  | .absW => extIf (eaAbsWordPayload ea) 2
  | .absL => extIf (eaAbsLongPayload ea) 4
  | _ => none

/-- `movem_mem_to_reg_ext_length`. -/
def movemMemToRegExtLength (instr : NgM68kInstr) : Option (BitVec 8) :=
  match instr.src.mode with
  | .apost => extIf (eaSimpleRegisterPayload instr.src) 0
  | _ => exactControlEaExtLength instr.src (instr.addr + 4)

/-! ## Opcode fields -/

/-- A register addressing mode in the opcode: three mode bits and the register. -/
def eaRegisterField (base : BitVec 8) (reg : BitVec 8) : Option (BitVec 8) :=
  if 8 ≤ reg then none else some (base ||| reg)

/-- `ea_opcode_field`. -/
def eaOpcodeField (ea : NgM68kEa) : Option (BitVec 8) :=
  match ea.mode with
  | .dreg => eaRegisterField 0x00 ea.reg
  | .areg => eaRegisterField 0x08 ea.reg
  | .aind => eaRegisterField 0x10 ea.reg
  | .apost => eaRegisterField 0x18 ea.reg
  | .apre => eaRegisterField 0x20 ea.reg
  | .adisp => eaRegisterField 0x28 ea.reg
  | .aindex => eaRegisterField 0x30 ea.reg
  | .absW => some 0x38
  | .absL => some 0x39
  | .pcDisp => some 0x3A
  | .pcIndex => some 0x3B
  | .imm => some 0x3C
  | .none => none

/-- The size field `00`, `01`, `10` of the opcode; other sizes are rejected. -/
def sizeBitsOf (size : BitVec 8) : Option (BitVec 16) :=
  if size = 1 then some 0x0000
  else if size = 2 then some 0x0040
  else if size = 4 then some 0x0080
  else none

end NeoRecomp
