import NeoRecomp.Instr
import NeoRecomp.Rom

/-!
# Operand decoding

Opcode fields, effective addresses and the older summary fields of `NgM68kInstr`.
-/

namespace NeoRecomp

/-! ## Opcode fields -/

def opTop (op : BitVec 16) : BitVec 8 := ((op >>> 12) &&& 0xF).setWidth 8
def opReg9 (op : BitVec 16) : BitVec 8 := ((op >>> 9) &&& 7).setWidth 8
def opMode6 (op : BitVec 16) : BitVec 8 := ((op >>> 6) &&& 7).setWidth 8
def opSizeCode (op : BitVec 16) : BitVec 8 := ((op >>> 6) &&& 3).setWidth 8
def opEaMode (op : BitVec 16) : BitVec 8 := ((op >>> 3) &&& 7).setWidth 8
def opEaReg (op : BitVec 16) : BitVec 8 := (op &&& 7).setWidth 8

/-- `(op & mask) == value`. -/
def opMatch (op mask value : BitVec 16) : Bool := op &&& mask == value

/-! ## Sign extension -/

/-- `sign8`, widened to the 16-bit displacement it is stored in. -/
def sign8 (value : BitVec 8) : BitVec 16 := value.signExtend 16

/-- `sign_extend_abs_w`. -/
def signExtendAbsW (value : BitVec 16) : BitVec 32 := value.signExtend 32

/-- Base address plus a signed 16-bit displacement, modulo `2^32`. -/
def addDisplacement (base : BitVec 32) (displacement : BitVec 16) : BitVec 32 :=
  base + displacement.signExtend 32

/-! ## Effective addresses -/

/-- The brief extension word of the indexed modes. -/
def decodeIndexExt (mode : NgM68kEaMode) (reg : BitVec 8) (ext : BitVec 16) : NgM68kEa :=
  { mode := mode
    reg := reg
    indexIsAddr := ((ext >>> 15) &&& 1).setWidth 8
    indexReg := ((ext >>> 12) &&& 7).setWidth 8
    indexIsLong := ((ext >>> 11) &&& 1).setWidth 8
    displacement := sign8 ((ext &&& 0xFF).setWidth 8) }

/-- Mode 7 of `decode_ea`, selected by the register field. -/
def decodeEaMode7 (rom : NgProgramRom) (extAddr : BitVec 32) (reg size : BitVec 8) :
    NgM68kEa × BitVec 8 :=
  if reg = 0 then
    ({ mode := .absW, reg := reg,
       absoluteAddr := signExtendAbsW (ngProgramRomRead16 rom extAddr) }, 2)
  else if reg = 1 then
    ({ mode := .absL, reg := reg, absoluteAddr := ngProgramRomRead32 rom extAddr }, 4)
  else if reg = 2 then
    let displacement := ngProgramRomRead16 rom extAddr
    ({ mode := .pcDisp, reg := reg, displacement := displacement,
       absoluteAddr := addDisplacement extAddr displacement }, 2)
  else if reg = 3 then
    let ea := decodeIndexExt .pcIndex reg (ngProgramRomRead16 rom extAddr)
    ({ ea with absoluteAddr := addDisplacement extAddr ea.displacement }, 2)
  else if reg = 4 then
    if size = 4 then
      ({ mode := .imm, reg := reg, immediate := ngProgramRomRead32 rom extAddr }, 4)
    else if size = 1 then
      ({ mode := .imm, reg := reg,
         immediate := (ngProgramRomRead16 rom extAddr).setWidth 32 &&& 0xFF }, 2)
    else
      ({ mode := .imm, reg := reg, immediate := (ngProgramRomRead16 rom extAddr).setWidth 32 }, 2)
  else
    ({ reg := reg }, 0)

/-- `decode_ea`: the effective address and the number of extension bytes it takes. -/
def decodeEa (rom : NgProgramRom) (extAddr : BitVec 32) (mode reg size : BitVec 8) :
    NgM68kEa × BitVec 8 :=
  if mode = 0 then ({ mode := .dreg, reg := reg }, 0)
  else if mode = 1 then ({ mode := .areg, reg := reg }, 0)
  else if mode = 2 then ({ mode := .aind, reg := reg }, 0)
  else if mode = 3 then ({ mode := .apost, reg := reg }, 0)
  else if mode = 4 then ({ mode := .apre, reg := reg }, 0)
  else if mode = 5 then
    ({ mode := .adisp, reg := reg, displacement := ngProgramRomRead16 rom extAddr }, 2)
  else if mode = 6 then (decodeIndexExt .aindex reg (ngProgramRomRead16 rom extAddr), 2)
  else if mode = 7 then decodeEaMode7 rom extAddr reg size
  else ({ reg := reg }, 0)

def isDataAlterableEa (mode reg : BitVec 8) : Bool := mode ≠ 1 && !(mode = 7 && 2 ≤ reg)
def isDataEa (mode reg : BitVec 8) : Bool := mode ≠ 1 && !(mode = 7 && 4 < reg)
def isMemoryAlterableEa (mode reg : BitVec 8) : Bool := 2 ≤ mode && !(mode = 7 && 2 ≤ reg)
def isControlEa (mode reg : BitVec 8) : Bool :=
  mode = 2 || mode = 5 || mode = 6 || (mode = 7 && reg ≤ 3)
def isMovemRegToMemEa (mode reg : BitVec 8) : Bool :=
  mode = 2 || mode = 4 || mode = 5 || mode = 6 || (mode = 7 && reg ≤ 1)
def isMovemMemToRegEa (mode reg : BitVec 8) : Bool :=
  mode = 2 || mode = 3 || mode = 5 || mode = 6 || (mode = 7 && reg ≤ 3)

/-- `size_from_opcode_bits`. -/
def sizeFromOpcodeBits (sizeCode : BitVec 8) : BitVec 8 :=
  if sizeCode = 2 then 4 else if sizeCode = 1 then 2 else 1

/-! ## Legacy fields -/

/-- What the source does when an operand turns out not to exist. -/
def decodeUnknown (out : NgM68kInstr) : NgM68kInstr :=
  { out with mnemonic := .unknown, byteLength := 2 }

/-- `populate_move_legacy_fields`. -/
def populateMoveLegacyFields (out : NgM68kInstr) : NgM68kInstr :=
  let dstAbs := out.dst.mode = .absW ∨ out.dst.mode = .absL
  let srcAbs := out.src.mode = .absW ∨ out.src.mode = .absL
  if out.mnemonic = .movea ∧ out.src.mode = .pcIndex ∧ out.dst.mode = .areg then
    { out with form := .pcIndexToAreg, reg := out.dst.reg, srcReg := out.src.indexReg,
               displacement := out.src.displacement, target := out.src.absoluteAddr }
  else if out.src.mode = .areg ∧ dstAbs then
    { out with form := .aregToAbs, reg := out.src.reg, absoluteAddr := out.dst.absoluteAddr }
  else if out.src.mode = .imm ∧ dstAbs then
    { out with form := .immToAbs, immediate := out.src.immediate,
               absoluteAddr := out.dst.absoluteAddr }
  else if out.src.mode = .dreg ∧ dstAbs then
    { out with form := .dregToAbs, reg := out.src.reg, absoluteAddr := out.dst.absoluteAddr }
  else if srcAbs ∧ out.dst.mode = .dreg then
    { out with form := .absToDreg, reg := out.dst.reg, absoluteAddr := out.src.absoluteAddr }
  else if out.src.mode = .adisp ∧ out.dst.mode = .dreg then
    { out with form := .aregDisp, reg := out.dst.reg, srcReg := out.src.reg,
               displacement := out.src.displacement }
  else if out.src.mode = .imm ∧ out.dst.mode = .dreg then
    { out with form := .immToDreg, reg := out.dst.reg, immediate := out.src.immediate }
  else if out.src.mode = .dreg ∧ out.dst.mode = .dreg then
    { out with form := .dregToDreg, srcReg := out.src.reg, reg := out.dst.reg }
  else
    out

/-- The part of the destination legacy fields every form shares: absolute and displaced
addresses. -/
def populateMemoryDstLegacyFields (out : NgM68kInstr) : NgM68kInstr :=
  if out.dst.mode = .absW ∨ out.dst.mode = .absL then
    { out with form := .abs, absoluteAddr := out.dst.absoluteAddr }
  else if out.dst.mode = .adisp then
    { out with form := .aregDisp, reg := out.dst.reg, displacement := out.dst.displacement }
  else
    out

/-- Destination legacy fields; `dregForm` is the form given to a data-register destination. -/
def populateDstLegacyFields (dregForm : NgM68kOperandForm) (out : NgM68kInstr) : NgM68kInstr :=
  if out.dst.mode = .dreg then
    { out with form := dregForm, reg := out.dst.reg }
  else
    populateMemoryDstLegacyFields out

/-- `populate_unary_dst_legacy_fields`. -/
def populateUnaryDstLegacyFields : NgM68kInstr → NgM68kInstr := populateDstLegacyFields .dreg

/-- `populate_branch_target`. -/
def populateBranchTarget (rom : NgProgramRom) (addr : BitVec 32) (op : BitVec 16)
    (out : NgM68kInstr) : NgM68kInstr :=
  let disp8 := (op &&& 0xFF).setWidth 8
  let out :=
    if disp8 = 0 then
      { out with byteLength := 4, displacement := ngProgramRomRead16 rom (addr + 2) }
    else
      { out with byteLength := 2, displacement := sign8 disp8 }
  { out with target := addDisplacement (addr + 2) out.displacement }

end NeoRecomp
