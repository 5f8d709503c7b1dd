import NeoRecomp.Decode.BinaryPatterns

/-!
# Opcode patterns of the control, bit and immediate instructions

The first half of the patterns written inline in `ng_m68k_decode`, in source order.
-/

namespace NeoRecomp

/-- A pattern that only sets the mnemonic. -/
def decodeFixed (opcode : BitVec 16) (mnemonic : NgM68kMnemonic) : OpcodeDecoder where
  guard op := op = opcode
  fill _ _ _ out := { out with mnemonic := mnemonic }

def decodeIllegal : OpcodeDecoder := decodeFixed 0x4AFC .illegal
def decodeReset : OpcodeDecoder := decodeFixed 0x4E70 .reset
def decodeNop : OpcodeDecoder := decodeFixed 0x4E71 .nop
def decodeRte : OpcodeDecoder := decodeFixed 0x4E73 .rte
def decodeRts : OpcodeDecoder := decodeFixed 0x4E75 .rts
def decodeTrapv : OpcodeDecoder := decodeFixed 0x4E76 .trapv
def decodeRtr : OpcodeDecoder := decodeFixed 0x4E77 .rtr

def decodeTrap : OpcodeDecoder where
  guard op := opMatch op 0xFFF0 0x4E40
  fill _ _ op out := { out with mnemonic := .trap, immediate := (op &&& 0x000F).setWidth 32 }

def decodeStop : OpcodeDecoder where
  guard op := op = 0x4E72
  fill rom addr _ out :=
    { out with mnemonic := .stop, byteLength := 4,
               immediate := (ngProgramRomRead16 rom (addr + 2)).setWidth 32 }

def decodeLink : OpcodeDecoder where
  guard op := opMatch op 0xFFF8 0x4E50
  fill rom addr op out :=
    { out with mnemonic := .link, byteLength := 4, size := 2, reg := opEaReg op,
               displacement := ngProgramRomRead16 rom (addr + 2) }

def decodeUnlk : OpcodeDecoder where
  guard op := opMatch op 0xFFF8 0x4E58
  fill _ _ op out := { out with mnemonic := .unlk, byteLength := 2, reg := opEaReg op }

def decodeMoveUsp : OpcodeDecoder where
  guard op := opMatch op 0xFFF8 0x4E60 || opMatch op 0xFFF8 0x4E68
  fill _ _ op out :=
    let out := { out with mnemonic := .moveUsp, size := 4, byteLength := 2, reg := opEaReg op }
    if opMatch op 0x0008 0 then
      { out with src := { out.src with mode := .areg, reg := opEaReg op } }
    else
      { out with dst := { out.dst with mode := .areg, reg := opEaReg op } }

/-- JMP and JSR to an absolute long address. -/
def decodeJumpAbsLong : OpcodeDecoder where
  guard op := op = 0x4EF9 || op = 0x4EB9
  fill rom addr op out :=
    let target := ngProgramRomRead32 rom (addr + 2)
    { out with mnemonic := if op = 0x4EF9 then .jmp else .jsr, byteLength := 6, target := target,
               form := .abs, src := { out.src with mode := .absL, reg := 1, absoluteAddr := target } }

/-- JMP and JSR relative to the program counter. -/
def decodeJumpPcRelative : OpcodeDecoder where
  guard op := op = 0x4EFA || op = 0x4EBA
  fill rom addr op out :=
    let displacement := ngProgramRomRead16 rom (addr + 2)
    let target := addDisplacement (addr + 2) displacement
    { out with mnemonic := if op = 0x4EFA then .jmp else .jsr, byteLength := 4,
               form := .pcRelative, displacement := displacement, target := target,
               src := { out.src with mode := .pcDisp, reg := 2, displacement := displacement,
                                     absoluteAddr := target } }

/-- JMP through an address register. -/
def decodeJumpAregIndirect : OpcodeDecoder where
  guard op := opMatch op 0xFFF8 0x4ED0
  fill _ _ op out :=
    { out with mnemonic := .jmp, byteLength := 2, form := .aregIndirect, reg := opEaReg op,
               src := { out.src with mode := .aind, reg := opEaReg op } }

/-- JMP and JSR through any other control address. -/
def decodeJumpControl : OpcodeDecoder where
  guard op := (opMatch op 0xFFC0 0x4E80 || opMatch op 0xFFC0 0x4EC0) &&
    isControlEa (opEaMode op) (opEaReg op)
  fill rom addr op out :=
    let src := decodeEa rom (addr + 2) (opEaMode op) (opEaReg op) out.size
    let out := { out with mnemonic := if opMatch op 0xFFC0 0x4E80 then .jsr else .jmp,
                          byteLength := 2 + src.2, src := src.1 }
    let out :=
      if src.1.mode = .aind then { out with form := .aregIndirect, reg := src.1.reg }
      else if src.1.mode = .pcDisp then
        { out with form := .pcRelative, target := src.1.absoluteAddr }
      else if src.1.mode = .absW ∨ src.1.mode = .absL then
        { out with form := .abs, target := src.1.absoluteAddr }
      else out
    if src.1.mode = .none then decodeUnknown out else out

def decodeBra : OpcodeDecoder where
  guard op := opMatch op 0xFF00 0x6000
  fill rom addr op out := populateBranchTarget rom addr op { out with mnemonic := .bra }

def decodeBsr : OpcodeDecoder where
  guard op := opMatch op 0xFF00 0x6100
  fill rom addr op out := populateBranchTarget rom addr op { out with mnemonic := .bsr }

def decodeBcc : OpcodeDecoder where
  guard op := opMatch op 0xF000 0x6000
  fill rom addr op out :=
    populateBranchTarget rom addr op
      { out with mnemonic := .bcc, condition := ((op >>> 8) &&& 0xF).setWidth 8 }

def decodeMoveq : OpcodeDecoder where
  guard op := opMatch op 0xF100 0x7000
  fill _ _ op out :=
    { out with mnemonic := .moveq, size := 4, byteLength := 2, form := .immToDreg,
               reg := opReg9 op,
               immediate := ((op &&& 0xFF).setWidth 8).signExtend 32,
               dst := { out.dst with mode := .dreg, reg := opReg9 op } }

/-- LEA relative to the program counter. -/
def decodeLeaPcRelative : OpcodeDecoder where
  guard op := opMatch op 0xF1FF 0x41FA
  fill rom addr op out :=
    let displacement := ngProgramRomRead16 rom (addr + 2)
    let target := addDisplacement (addr + 2) displacement
    { out with mnemonic := .lea, size := 4, byteLength := 4, reg := opReg9 op,
               displacement := displacement, target := target,
               src := { out.src with mode := .pcDisp, reg := 2, displacement := displacement,
                                     absoluteAddr := target },
               dst := { out.dst with mode := .areg, reg := opReg9 op } }

def decodeChk : OpcodeDecoder where
  guard op := opMatch op 0xF1C0 0x4180 && opEaMode op ≠ 1
  fill rom addr op out :=
    let src := decodeEa rom (addr + 2) (opEaMode op) (opEaReg op) 2
    let out := { out with mnemonic := .chk, size := 2, reg := opReg9 op,
                          dst := { out.dst with mode := .dreg, reg := opReg9 op },
                          byteLength := 2 + src.2, src := src.1 }
    if src.1.mode = .none then decodeUnknown out else out

/-- LEA of any other control address. -/
def decodeLea : OpcodeDecoder where
  guard op := opMatch op 0xF1C0 0x41C0 && isControlEa (opEaMode op) (opEaReg op)
  fill rom addr op out :=
    let src := decodeEa rom (addr + 2) (opEaMode op) (opEaReg op) 4
    let out := { out with mnemonic := .lea, size := 4, reg := opReg9 op,
                          byteLength := 2 + src.2, src := src.1,
                          dst := { out.dst with mode := .areg, reg := opReg9 op } }
    let out :=
      if src.1.mode = .absW ∨ src.1.mode = .absL ∨ src.1.mode = .pcDisp ∨
          src.1.mode = .pcIndex then
        { out with target := src.1.absoluteAddr }
      else out
    if src.1.mode = .none then decodeUnknown out else out

/-- LEA of an absolute long address; `decodeLea` comes first. -/
def decodeLeaAbsLong : OpcodeDecoder where
  guard op := opMatch op 0xF1FF 0x41F9
  fill rom addr op out :=
    let target := ngProgramRomRead32 rom (addr + 2)
    { out with mnemonic := .lea, size := 4, byteLength := 6, reg := opReg9 op, target := target,
               src := { out.src with mode := .absL, reg := 1, absoluteAddr := target },
               dst := { out.dst with mode := .areg, reg := opReg9 op } }

/-- MOVEA.L from an indexed table; `decodeMove` comes first. -/
def decodeMoveaPcIndex : OpcodeDecoder where
  guard op := op = 0x207B
  fill rom addr _ out :=
    let ext := ngProgramRomRead16 rom (addr + 2)
    let displacement := sign8 ((ext &&& 0xFF).setWidth 8)
    { out with mnemonic := .movea, byteLength := 4, size := 4, form := .pcIndexToAreg, reg := 0,
               srcReg := ((ext >>> 12) &&& 7).setWidth 8, displacement := displacement,
               target := addDisplacement (addr + 2) displacement }

/-- `decode_immediate_to_sr_ccr`. -/
def decodeImmediateToSrCcr : OpcodeDecoder where
  guard op := op = 0x003C || op = 0x007C || op = 0x023C || op = 0x027C || op = 0x0A3C ||
    op = 0x0A7C
  fill rom addr op out :=
    let word := (ngProgramRomRead16 rom (addr + 2)).setWidth 32
    let toCcr (mnemonic : NgM68kMnemonic) :=
      { out with mnemonic := mnemonic, size := 1, immediate := word &&& 0xFF, byteLength := 4 }
    let toSr (mnemonic : NgM68kMnemonic) :=
      { out with mnemonic := mnemonic, size := 2, immediate := word, byteLength := 4 }
    if op = 0x003C then toCcr .oriToCcr
    else if op = 0x007C then toSr .oriToSr
    else if op = 0x023C then toCcr .andiToCcr
    else if op = 0x027C then toSr .andiToSr
    else if op = 0x0A3C then toCcr .eoriToCcr
    else toSr .eoriToSr

def decodeMovep : OpcodeDecoder where
  guard op := opMatch op 0xF138 0x0108
  fill rom addr op out :=
    let displacement := ngProgramRomRead16 rom (addr + 2)
    let out := { out with mnemonic := .movep, size := if opMatch op 0x0040 0 then 2 else 4,
                          byteLength := 4, displacement := displacement, reg := opReg9 op }
    if (op >>> 7) &&& 1 ≠ 0 then
      { out with src := { out.src with mode := .dreg, reg := opReg9 op }, srcReg := opReg9 op,
                 dst := { out.dst with mode := .adisp, reg := opEaReg op,
                                       displacement := displacement } }
    else
      { out with src := { out.src with mode := .adisp, reg := opEaReg op,
                                       displacement := displacement },
                 dst := { out.dst with mode := .dreg, reg := opReg9 op } }

/-- MOVE from SR. -/
def decodeMoveFromSr : OpcodeDecoder where
  guard op := opMatch op 0xFFC0 0x40C0
  fill rom addr op out :=
    if !isDataAlterableEa (opEaMode op) (opEaReg op) then { out with mnemonic := .unknown }
    else
      let dst := decodeEa rom (addr + 2) (opEaMode op) (opEaReg op) 2
      let out := { out with mnemonic := .moveSr, size := 2, byteLength := 2 + dst.2, dst := dst.1 }
      if dst.1.mode = .none then decodeUnknown out else out

/-- MOVE to CCR and to SR. -/
def decodeMoveToSrCcr : OpcodeDecoder where
  guard op := opMatch op 0xFFC0 0x44C0 || opMatch op 0xFFC0 0x46C0
  fill rom addr op out :=
    if !isDataEa (opEaMode op) (opEaReg op) then { out with mnemonic := .unknown }
    else
      let src := decodeEa rom (addr + 2) (opEaMode op) (opEaReg op) 2
      let out := { out with mnemonic := if opMatch op 0xFFC0 0x46C0 then .moveSr else .moveCcr,
                            size := 2, byteLength := 2 + src.2, src := src.1 }
      if src.1.mode = .none then decodeUnknown out else out

/-- The bit-operation `mnemonics` table. -/
def bitMnemonic (kind : BitVec 8) : NgM68kMnemonic :=
  if kind = 0 then .btst else if kind = 1 then .bchg else if kind = 2 then .bclr else .bset

/-- Bit operations with the bit number in the extension word. -/
def decodeStaticBit : OpcodeDecoder where
  guard op := opMatch op 0xFF00 0x0800 &&
    ((opSizeCode op = 0 && isDataEa (opEaMode op) (opEaReg op) &&
        !(opEaMode op = 7 && opEaReg op = 4)) ||
      (opSizeCode op ≠ 0 && isDataAlterableEa (opEaMode op) (opEaReg op)))
  fill rom addr op out :=
    let size := if opEaMode op = 0 then 4 else 1
    let dst := decodeEa rom (addr + 4) (opEaMode op) (opEaReg op) size
    let out := { out with mnemonic := bitMnemonic (opSizeCode op), size := size,
                          immediate := (ngProgramRomRead16 rom (addr + 2)).setWidth 32 &&& 0xFF,
                          byteLength := 4 + dst.2, dst := dst.1 }
    if dst.1.mode = .none then decodeUnknown out else populateDstLegacyFields .dreg out

/-- Bit operations with the bit number in a data register. -/
def decodeDynamicBit : OpcodeDecoder where
  guard op := opMatch op 0xF100 0x0100 &&
    ((opSizeCode op = 0 && isDataEa (opEaMode op) (opEaReg op)) ||
      (opSizeCode op ≠ 0 && isDataAlterableEa (opEaMode op) (opEaReg op)))
  fill rom addr op out :=
    let size := if opEaMode op = 0 then 4 else 1
    let dst := decodeEa rom (addr + 2) (opEaMode op) (opEaReg op) size
    let out := { out with mnemonic := bitMnemonic (opSizeCode op), size := size,
                          src := { out.src with mode := .dreg, reg := opReg9 op },
                          srcReg := opReg9 op, byteLength := 2 + dst.2, dst := dst.1 }
    if dst.1.mode = .none then decodeUnknown out else populateDstLegacyFields .dregToDreg out

/-- The operand test of the immediate instructions. -/
def immediateToEaGuard (op : BitVec 16) : Bool :=
  opSizeCode op ≠ 3 && opEaMode op ≠ 1 && !(opEaMode op = 7 && 2 ≤ opEaReg op)

/-- The body ORI, EORI, SUBI, ADDI, CMPI and ANDI share. -/
def fillImmediateToEa (mnemonic : NgM68kMnemonic) (rom : NgProgramRom) (addr : BitVec 32)
    (op : BitVec 16) (out : NgM68kInstr) : NgM68kInstr :=
  let size := sizeFromOpcodeBits (opSizeCode op)
  let immediate :=
    if size = 4 then ngProgramRomRead32 rom (addr + 2)
    else if size = 1 then (ngProgramRomRead16 rom (addr + 2)).setWidth 32 &&& 0xFF
    else (ngProgramRomRead16 rom (addr + 2)).setWidth 32
  let immLen : BitVec 8 := if size = 4 then 4 else 2
  let dst := decodeEa rom (addr + 2 + immLen.setWidth 32) (opEaMode op) (opEaReg op) size
  let out := { out with mnemonic := mnemonic, size := size, immediate := immediate,
                        byteLength := 2 + immLen + dst.2, dst := dst.1 }
  if dst.1.mode = .none then decodeUnknown out else populateDstLegacyFields .immToDreg out

def decodeOriEori : OpcodeDecoder where
  guard op := (opMatch op 0xFF00 0x0000 || opMatch op 0xFF00 0x0A00) && immediateToEaGuard op
  fill rom addr op out :=
    fillImmediateToEa (if opMatch op 0xFF00 0x0000 then .ori else .eori) rom addr op out

def decodeSubiAddi : OpcodeDecoder where
  guard op := (opMatch op 0xFF00 0x0400 || opMatch op 0xFF00 0x0600) && immediateToEaGuard op
  fill rom addr op out :=
    fillImmediateToEa (if opMatch op 0xFF00 0x0400 then .subi else .addi) rom addr op out

def decodeCmpi : OpcodeDecoder where
  guard op := opMatch op 0xFF00 0x0C00 && immediateToEaGuard op
  fill rom addr op out := fillImmediateToEa .cmpi rom addr op out

def decodeAndi : OpcodeDecoder where
  guard op := opMatch op 0xFF00 0x0200 && immediateToEaGuard op
  fill rom addr op out := fillImmediateToEa .andi rom addr op out

end NeoRecomp
