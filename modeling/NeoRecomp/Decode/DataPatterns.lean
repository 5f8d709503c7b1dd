import NeoRecomp.Decode.ControlPatterns

/-!
# Opcode patterns of the remaining data instructions

The second half of the patterns written inline in `ng_m68k_decode`, in source order.  The patterns
called `decodeLate…` are older spellings that an earlier pattern of the list already covers.
-/

namespace NeoRecomp

def decodeLateAndiAregDisp : OpcodeDecoder where
  guard op := opMatch op 0xFFF8 0x0228
  fill rom addr op out :=
    { out with mnemonic := .andi, byteLength := 6, size := 1, form := .aregDisp, reg := opEaReg op,
               immediate := (ngProgramRomRead16 rom (addr + 2)).setWidth 32 &&& 0xFF,
               displacement := ngProgramRomRead16 rom (addr + 4) }

def decodeLateMoveAregToAbs : OpcodeDecoder where
  guard op := opMatch op 0xFFF8 0x23C8
  fill rom addr op out :=
    { out with mnemonic := .move, byteLength := 6, size := 4, reg := opEaReg op,
               form := .aregToAbs, absoluteAddr := ngProgramRomRead32 rom (addr + 2) }

def decodeLateMoveWordImmToAbs : OpcodeDecoder where
  guard op := op = 0x33FC
  fill rom addr _ out :=
    { out with mnemonic := .move, byteLength := 8, size := 2, form := .immToAbs,
               immediate := (ngProgramRomRead16 rom (addr + 2)).setWidth 32,
               absoluteAddr := ngProgramRomRead32 rom (addr + 4) }

def decodeLateMoveByteImmToAbs : OpcodeDecoder where
  guard op := op = 0x13FC
  fill rom addr _ out :=
    { out with mnemonic := .move, byteLength := 8, size := 1, form := .immToAbs,
               immediate := (ngProgramRomRead16 rom (addr + 2)).setWidth 32 &&& 0xFF,
               absoluteAddr := ngProgramRomRead32 rom (addr + 4) }

def decodeLateMoveDregToAbs : OpcodeDecoder where
  guard op := opMatch op 0xFFF8 0x13C0
  fill rom addr op out :=
    { out with mnemonic := .move, byteLength := 6, size := 1, form := .dregToAbs,
               reg := opEaReg op, absoluteAddr := ngProgramRomRead32 rom (addr + 2) }

/-- MOVE from an absolute long address to a data register, in one size. -/
def decodeLateMoveAbsToDreg (opcode : BitVec 16) (size : BitVec 8) : OpcodeDecoder where
  guard op := opMatch op 0xF1FF opcode
  fill rom addr op out :=
    { out with mnemonic := .move, byteLength := 6, size := size, form := .absToDreg,
               reg := opReg9 op, absoluteAddr := ngProgramRomRead32 rom (addr + 2) }

def decodeLateMoveByteAregDisp : OpcodeDecoder where
  guard op := opMatch op 0xF1F8 0x1028
  fill rom addr op out :=
    { out with mnemonic := .move, byteLength := 4, size := 1, form := .aregDisp,
               reg := opReg9 op, srcReg := opEaReg op,
               displacement := ngProgramRomRead16 rom (addr + 2) }

def decodeLateMoveWordImmToDreg : OpcodeDecoder where
  guard op := opMatch op 0xF1FF 0x303C
  fill rom addr op out :=
    { out with mnemonic := .move, byteLength := 4, size := 2, form := .immToDreg,
               reg := opReg9 op, immediate := (ngProgramRomRead16 rom (addr + 2)).setWidth 32 }

def decodeLateMoveByteImmToDreg : OpcodeDecoder where
  guard op := opMatch op 0xF1FF 0x103C
  fill rom addr op out :=
    { out with mnemonic := .move, byteLength := 4, size := 1, form := .immToDreg,
               reg := opReg9 op,
               immediate := (ngProgramRomRead16 rom (addr + 2)).setWidth 32 &&& 0xFF }

def decodeLateCmpiByteDreg : OpcodeDecoder where
  guard op := opMatch op 0xFFF8 0x0C00
  fill rom addr op out :=
    { out with mnemonic := .cmpi, byteLength := 4, size := 1, form := .immToDreg,
               reg := opEaReg op,
               immediate := (ngProgramRomRead16 rom (addr + 2)).setWidth 32 &&& 0xFF }

/-- The operand pair of ADDX, SUBX, ABCD and SBCD: two data registers, or two predecremented
addresses. -/
def fillExtendPair (mnemonic : NgM68kMnemonic) (size : BitVec 8) (op : BitVec 16)
    (out : NgM68kInstr) : NgM68kInstr :=
  let memForm := opEaMode op = 1
  let mode : NgM68kEaMode := if memForm then .apre else .dreg
  { out with mnemonic := mnemonic, byteLength := 2, size := size,
             form := if memForm then out.form else .dregToDreg,
             src := { out.src with mode := mode, reg := opEaReg op },
             dst := { out.dst with mode := mode, reg := opReg9 op },
             srcReg := opEaReg op, reg := opReg9 op }

def decodeAddxSubx : OpcodeDecoder where
  guard op := (opMatch op 0xF100 0xD100 || opMatch op 0xF100 0x9100) &&
    (opEaMode op = 0 || opEaMode op = 1) && opSizeCode op ≠ 3
  fill _ _ op out :=
    fillExtendPair (if opMatch op 0xF000 0xD000 then .addx else .subx)
      (sizeFromOpcodeBits (opSizeCode op)) op out

def decodeAbcdSbcd : OpcodeDecoder where
  guard op := (opMatch op 0xF1F0 0xC100 || opMatch op 0xF1F0 0x8100) &&
    (opEaMode op = 0 || opEaMode op = 1)
  fill _ _ op out :=
    fillExtendPair (if opMatch op 0xF000 0xC000 then .abcd else .sbcd) 1 op out

def decodeLateAddWordDreg : OpcodeDecoder where
  guard op := op = 0xD040
  fill _ _ _ out :=
    { out with mnemonic := .add, byteLength := 2, size := 2, form := .dregToDreg, srcReg := 0,
               reg := 0 }

/-- The condition field is stored as soon as the opcode is known to be Scc or DBcc. -/
def isSccDbcc (op : BitVec 16) : Bool := opMatch op 0xF000 0x5000 && opSizeCode op = 3

def withSccCondition (op : BitVec 16) (out : NgM68kInstr) : NgM68kInstr :=
  if isSccDbcc op then { out with condition := ((op >>> 8) &&& 0xF).setWidth 8 } else out

def decodeDbcc : OpcodeDecoder where
  guard op := isSccDbcc op && opEaMode op = 1
  fill rom addr op out :=
    let displacement := ngProgramRomRead16 rom (addr + 2)
    { withSccCondition op out with
        mnemonic := .dbcc, byteLength := 4, size := 2, reg := opEaReg op,
        displacement := displacement, target := addDisplacement (addr + 2) displacement }

def decodeScc : OpcodeDecoder where
  guard op := isSccDbcc op && isDataAlterableEa (opEaMode op) (opEaReg op)
  fill rom addr op out :=
    let dst := decodeEa rom (addr + 2) (opEaMode op) (opEaReg op) 1
    let out := { withSccCondition op out with
                   mnemonic := .scc, size := 1, byteLength := 2 + dst.2, dst := dst.1 }
    if dst.1.mode = .none then decodeUnknown out else out

def decodeQuick : OpcodeDecoder where
  guard op := opMatch op 0xF000 0x5000 && opSizeCode op ≠ 3 &&
    !(opEaMode op = 1 && opSizeCode op = 0) &&
    (opEaMode op = 1 || isDataAlterableEa (opEaMode op) (opEaReg op))
  fill rom addr op out :=
    let size := sizeFromOpcodeBits (opSizeCode op)
    let immediate := if opReg9 op = 0 then 8 else (opReg9 op).setWidth 32
    let dst := decodeEa rom (addr + 2) (opEaMode op) (opEaReg op) size
    let out := { out with mnemonic := if opMatch op 0x0100 0 then .addq else .subq, size := size,
                          immediate := immediate, byteLength := 2 + dst.2, dst := dst.1 }
    if dst.1.mode = .none then decodeUnknown out else populateDstLegacyFields .dreg out

/-- A one-operand instruction on a data alterable address: CLR, NEGX, NEG and NOT. -/
def fillUnary (mnemonic : NgM68kMnemonic) (rom : NgProgramRom) (addr : BitVec 32)
    (op : BitVec 16) (out : NgM68kInstr) : NgM68kInstr :=
  let size := sizeFromOpcodeBits (opSizeCode op)
  let dst := decodeEa rom (addr + 2) (opEaMode op) (opEaReg op) size
  let out := { out with mnemonic := mnemonic, size := size, byteLength := 2 + dst.2, dst := dst.1 }
  if dst.1.mode = .none then decodeUnknown out else populateUnaryDstLegacyFields out

def decodeClr : OpcodeDecoder where
  guard op := opMatch op 0xFF00 0x4200 && opSizeCode op ≠ 3 &&
    isDataAlterableEa (opEaMode op) (opEaReg op)
  fill rom addr op out := fillUnary .clr rom addr op out

def decodeNegNot : OpcodeDecoder where
  guard op := (opMatch op 0xFF00 0x4000 || opMatch op 0xFF00 0x4400 || opMatch op 0xFF00 0x4600) &&
    immediateToEaGuard op
  fill rom addr op out :=
    fillUnary
      (if opMatch op 0xFF00 0x4000 then .negx else if opMatch op 0xFF00 0x4400 then .neg else .not)
      rom addr op out

/-- The byte-sized one-operand instructions NBCD and TAS. -/
def fillByteUnary (mnemonic : NgM68kMnemonic) (rom : NgProgramRom) (addr : BitVec 32)
    (op : BitVec 16) (out : NgM68kInstr) : NgM68kInstr :=
  let dst := decodeEa rom (addr + 2) (opEaMode op) (opEaReg op) 1
  let out := { out with mnemonic := mnemonic, size := 1, byteLength := 2 + dst.2, dst := dst.1 }
  populateUnaryDstLegacyFields (if dst.1.mode = .none then decodeUnknown out else out)

def decodeNbcd : OpcodeDecoder where
  guard op := opMatch op 0xFFC0 0x4800 && isDataAlterableEa (opEaMode op) (opEaReg op)
  fill rom addr op out := fillByteUnary .nbcd rom addr op out

def decodeSwap : OpcodeDecoder where
  guard op := opMatch op 0xFFF8 0x4840
  fill _ _ op out :=
    { out with mnemonic := .swap, size := 2, byteLength := 2, form := .dreg, reg := opEaReg op,
               dst := { out.dst with mode := .dreg, reg := opEaReg op } }

def decodeExt : OpcodeDecoder where
  guard op := opMatch op 0xFFF8 0x4880 || opMatch op 0xFFF8 0x48C0
  fill _ _ op out :=
    { out with mnemonic := .ext, size := if opMatch op 0x0040 0 then 2 else 4, byteLength := 2,
               form := .dreg, reg := opEaReg op,
               dst := { out.dst with mode := .dreg, reg := opEaReg op } }

def decodeMovemRegToMem : OpcodeDecoder where
  guard op := opMatch op 0xFF80 0x4880 && isMovemRegToMemEa (opEaMode op) (opEaReg op)
  fill rom addr op out :=
    let size := if opMatch op 0x0040 0 then 2 else 4
    let dst := decodeEa rom (addr + 4) (opEaMode op) (opEaReg op) size
    let out := { out with mnemonic := .movem, size := size,
                          immediate := (ngProgramRomRead16 rom (addr + 2)).setWidth 32,
                          byteLength := 4 + dst.2, dst := dst.1 }
    if dst.1.mode = .none then decodeUnknown out else out

def decodeMovemMemToReg : OpcodeDecoder where
  guard op := opMatch op 0xFF80 0x4C80 && isMovemMemToRegEa (opEaMode op) (opEaReg op)
  fill rom addr op out :=
    let size := if opMatch op 0x0040 0 then 2 else 4
    let src := decodeEa rom (addr + 4) (opEaMode op) (opEaReg op) size
    let out := { out with mnemonic := .movem, size := size,
                          immediate := (ngProgramRomRead16 rom (addr + 2)).setWidth 32,
                          byteLength := 4 + src.2, src := src.1 }
    if src.1.mode = .none then decodeUnknown out else out

def decodePea : OpcodeDecoder where
  guard op := opMatch op 0xFFC0 0x4840 && isControlEa (opEaMode op) (opEaReg op)
  fill rom addr op out :=
    let src := decodeEa rom (addr + 2) (opEaMode op) (opEaReg op) 4
    let out := { out with mnemonic := .pea, size := 4, byteLength := 2 + src.2, src := src.1 }
    if src.1.mode = .none then decodeUnknown out else out

def decodeTas : OpcodeDecoder where
  guard op := opMatch op 0xFFC0 0x4AC0 && isDataAlterableEa (opEaMode op) (opEaReg op)
  fill rom addr op out := fillByteUnary .tas rom addr op out

def decodeTst : OpcodeDecoder where
  guard op := opMatch op 0xFF00 0x4A00 && immediateToEaGuard op
  fill rom addr op out :=
    let size := sizeFromOpcodeBits (opSizeCode op)
    let src := decodeEa rom (addr + 2) (opEaMode op) (opEaReg op) size
    let out := { out with mnemonic := .tst, size := size, byteLength := 2 + src.2, src := src.1 }
    if src.1.mode = .none then decodeUnknown out
    else if src.1.mode = .dreg then { out with form := .dreg, reg := src.1.reg }
    else if src.1.mode = .absW ∨ src.1.mode = .absL then
      { out with form := .abs, absoluteAddr := src.1.absoluteAddr }
    else if src.1.mode = .adisp then
      { out with form := .aregDisp, reg := src.1.reg, displacement := src.1.displacement }
    else out

/-- CLR and TST of an absolute long address in the three sizes. -/
def decodeLateAbsLong (byteOp wordOp longOp : BitVec 16) (mnemonic : NgM68kMnemonic) :
    OpcodeDecoder where
  guard op := op = byteOp || op = wordOp || op = longOp
  fill rom addr op out :=
    { out with mnemonic := mnemonic, byteLength := 6,
               size := if op = byteOp then 1 else if op = longOp then 4 else 2,
               form := .abs, absoluteAddr := ngProgramRomRead32 rom (addr + 2) }

def decodeLateClrDreg : OpcodeDecoder where
  guard op := opMatch op 0xFF38 0x4200 && !opMatch op 0x00C0 0x00C0
  fill _ _ op out :=
    { out with mnemonic := .clr, byteLength := 2, form := .dreg, reg := opEaReg op,
               size := if opMatch op 0x00C0 0x0080 then 4
                 else if opMatch op 0x00C0 0x0040 then 2 else 1 }

def decodeLateTstAregDisp : OpcodeDecoder where
  guard op := opMatch op 0xFFF8 0x4A28
  fill rom addr op out :=
    { out with mnemonic := .tst, byteLength := 4, size := 1, form := .aregDisp, reg := opEaReg op,
               displacement := ngProgramRomRead16 rom (addr + 2) }

/-- The unimplemented A-line and F-line opcodes, decoded as ILLEGAL with their vector number. -/
def decodeLineAF : OpcodeDecoder where
  guard op := opMatch op 0xF000 0xA000 || opMatch op 0xF000 0xF000
  fill _ _ op out :=
    { out with mnemonic := .illegal, immediate := if opMatch op 0xF000 0xA000 then 10 else 11 }

end NeoRecomp
