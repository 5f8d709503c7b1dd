import NeoRecomp.Decode.Operands

/-!
# Opcode patterns of the two-operand instructions

`ng_m68k_decode` tries one opcode pattern after the other.  Whether a pattern applies depends on
the opcode word alone; only the operands come from the extension words.  Each pattern is therefore
an `OpcodeDecoder`: the test on the opcode and the record the source fills in when it holds.  This
module has the patterns that are functions of their own in the source.
-/

namespace NeoRecomp

/-- One opcode pattern: the test on the opcode and the record filled in when it holds. -/
structure OpcodeDecoder where
  guard : BitVec 16 → Bool
  fill : NgProgramRom → BitVec 32 → BitVec 16 → NgM68kInstr → NgM68kInstr

/-- `decode_move`. -/
def decodeMove : OpcodeDecoder where
  guard op := opTop op = 1 || opTop op = 2 || opTop op = 3
  fill rom addr op out :=
    let size := if opTop op = 1 then 1 else if opTop op = 2 then 4 else 2
    let dstMode := opMode6 op
    if dstMode = 1 ∧ size = 1 then decodeUnknown out
    else if opEaMode op = 1 ∧ size = 1 then decodeUnknown out
    else if dstMode ≠ 1 ∧ !isDataAlterableEa dstMode (opReg9 op) then decodeUnknown out
    else
      let src := decodeEa rom (addr + 2) (opEaMode op) (opEaReg op) size
      let out := { out with mnemonic := if dstMode = 1 then .movea else .move, size := size,
                            byteLength := 2 + src.2, src := src.1 }
      if src.1.mode = .none then decodeUnknown out
      else
        let dst := decodeEa rom (addr + out.byteLength.setWidth 32) dstMode (opReg9 op) size
        let out := { out with byteLength := out.byteLength + dst.2, dst := dst.1 }
        if dst.1.mode = .none then decodeUnknown out
        else
          let out := if out.mnemonic = .movea then { out with reg := opReg9 op } else out
          populateMoveLegacyFields out

/-- `decode_alu_address_reg`. -/
def decodeAluAddressReg : OpcodeDecoder where
  guard op := (opTop op = 0xD || opTop op = 0x9 || opTop op = 0xB) &&
    (opMode6 op = 3 || opMode6 op = 7)
  fill rom addr op out :=
    let mnemonic :=
      if opTop op = 0xD then .adda else if opTop op = 0x9 then .suba else .cmpa
    let size := if opMode6 op = 7 then 4 else 2
    let src := decodeEa rom (addr + 2) (opEaMode op) (opEaReg op) size
    let out := { out with mnemonic := mnemonic, size := size, byteLength := 2 + src.2,
                          src := src.1 }
    if src.1.mode = .none then decodeUnknown out
    else
      { out with dst := { out.dst with mode := .areg, reg := opReg9 op }, reg := opReg9 op }

/-- Whether `decode_logic_binary` takes the opcode as `<ea>,Dn`. -/
def logicBinaryToDreg (op : BitVec 16) : Bool :=
  (opTop op = 0x8 || opTop op = 0xC) && opMode6 op ≤ 2 && isDataEa (opEaMode op) (opEaReg op)

/-- Whether `decode_logic_binary` takes the opcode as `Dn,<ea>`. -/
def logicBinaryToEa (op : BitVec 16) : Bool :=
  4 ≤ opMode6 op && opMode6 op ≤ 6 &&
    (((opTop op = 0x8 || opTop op = 0xC) && isMemoryAlterableEa (opEaMode op) (opEaReg op)) ||
      (opTop op = 0xB && isDataAlterableEa (opEaMode op) (opEaReg op)))

/-- `decode_logic_binary`. -/
def decodeLogicBinary : OpcodeDecoder where
  guard op := opMode6 op &&& 3 ≠ 3 && (logicBinaryToDreg op || logicBinaryToEa op)
  fill rom addr op out :=
    let mnemonic := if opTop op = 0x8 then .or else if opTop op = 0xC then .and else .eor
    let size := sizeFromOpcodeBits (opMode6 op &&& 3)
    let ea := decodeEa rom (addr + 2) (opEaMode op) (opEaReg op) size
    let out := { out with mnemonic := mnemonic, size := size, byteLength := 2 + ea.2 }
    if logicBinaryToDreg op then
      let out := { out with src := ea.1 }
      if ea.1.mode = .none then decodeUnknown out
      else
        { out with dst := { out.dst with mode := .dreg, reg := opReg9 op }, reg := opReg9 op,
                   srcReg := opEaReg op }
    else
      let out := { out with src := { out.src with mode := .dreg, reg := opReg9 op },
                            srcReg := opReg9 op, dst := ea.1 }
      if ea.1.mode = .none then decodeUnknown out
      else populateDstLegacyFields .dregToDreg out

/-- `decode_addsub_dreg_to_ea`. -/
def decodeAddsubDregToEa : OpcodeDecoder where
  guard op := (opTop op = 0xD || opTop op = 0x9) && 4 ≤ opMode6 op && opMode6 op ≤ 6 &&
    isMemoryAlterableEa (opEaMode op) (opEaReg op)
  fill rom addr op out :=
    let size := sizeFromOpcodeBits (opMode6 op &&& 3)
    let dst := decodeEa rom (addr + 2) (opEaMode op) (opEaReg op) size
    let out := { out with mnemonic := if opTop op = 0xD then .add else .sub, size := size,
                          src := { out.src with mode := .dreg, reg := opReg9 op },
                          srcReg := opReg9 op, byteLength := 2 + dst.2, dst := dst.1 }
    if dst.1.mode = .none then decodeUnknown out
    else populateMemoryDstLegacyFields out

/-- The register pair of one `decode_exchange` pattern. -/
def fillExchange (srcMode dstMode : NgM68kEaMode) (op : BitVec 16) (out : NgM68kInstr) :
    NgM68kInstr :=
  { out with mnemonic := .exg, byteLength := 2, size := 4,
             src := { out.src with mode := srcMode, reg := opReg9 op }, srcReg := opReg9 op,
             dst := { out.dst with mode := dstMode, reg := opEaReg op }, reg := opEaReg op }

/-- `decode_exchange`. -/
def decodeExchange : OpcodeDecoder where
  guard op := opMatch op 0xF1F8 0xC140 || opMatch op 0xF1F8 0xC148 || opMatch op 0xF1F8 0xC188
  fill _ _ op out :=
    if opMatch op 0xF1F8 0xC140 then fillExchange .dreg .dreg op out
    else if opMatch op 0xF1F8 0xC148 then fillExchange .areg .areg op out
    else fillExchange .dreg .areg op out

/-- The `left_mnemonics` and `right_mnemonics` tables. -/
def shiftMnemonic (dirLeft kind : BitVec 8) : NgM68kMnemonic :=
  if dirLeft ≠ 0 then
    if kind = 0 then .asl else if kind = 1 then .lsl else if kind = 2 then .roxl else .rol
  else
    if kind = 0 then .asr else if kind = 1 then .lsr else if kind = 2 then .roxr else .ror

/-- `decode_shift_rotate`. -/
def decodeShiftRotate : OpcodeDecoder where
  guard op := opMatch op 0xF000 0xE000 &&
    (opSizeCode op ≠ 3 ||
      (opMatch op 0x0800 0 && isMemoryAlterableEa (opEaMode op) (opEaReg op)))
  fill rom addr op out :=
    let dirLeft := ((op >>> 8) &&& 1).setWidth 8
    if opSizeCode op = 3 then
      let dst := decodeEa rom (addr + 2) (opEaMode op) (opEaReg op) 2
      let out := { out with mnemonic := shiftMnemonic dirLeft (((op >>> 9) &&& 3).setWidth 8),
                            size := 2, immediate := 1, byteLength := 2 + dst.2, dst := dst.1 }
      if dst.1.mode = .none then decodeUnknown out else out
    else
      let out := { out with mnemonic := shiftMnemonic dirLeft (((op >>> 3) &&& 3).setWidth 8),
                            size := sizeFromOpcodeBits (opSizeCode op), byteLength := 2,
                            dst := { out.dst with mode := .dreg, reg := opEaReg op },
                            reg := opEaReg op }
      if (op >>> 5) &&& 1 ≠ 0 then
        { out with src := { out.src with mode := .dreg, reg := opReg9 op }, srcReg := opReg9 op }
      else
        { out with immediate := if opReg9 op = 0 then 8 else (opReg9 op).setWidth 32 }

/-- The body `decode_multiply` and `decode_divide` share: a word source and a data register. -/
def fillWordSourceToDreg (mnemonic : NgM68kMnemonic) (rom : NgProgramRom) (addr : BitVec 32)
    (op : BitVec 16) (out : NgM68kInstr) : NgM68kInstr :=
  let src := decodeEa rom (addr + 2) (opEaMode op) (opEaReg op) 2
  let out := { out with mnemonic := mnemonic, size := 2, byteLength := 2 + src.2, src := src.1 }
  if src.1.mode = .none then decodeUnknown out
  else { out with dst := { out.dst with mode := .dreg, reg := opReg9 op }, reg := opReg9 op }

/-- `decode_multiply`. -/
def decodeMultiply : OpcodeDecoder where
  guard op := opTop op = 0xC && (opMode6 op = 3 || opMode6 op = 7) && opEaMode op ≠ 1
  fill rom addr op out :=
    fillWordSourceToDreg (if opMode6 op = 3 then .mulu else .muls) rom addr op out

/-- `decode_divide`. -/
def decodeDivide : OpcodeDecoder where
  guard op := opTop op = 0x8 && (opMode6 op = 3 || opMode6 op = 7) && opEaMode op ≠ 1
  fill rom addr op out :=
    fillWordSourceToDreg (if opMode6 op = 3 then .divu else .divs) rom addr op out

/-- `decode_alu_ea_to_dreg`. -/
def decodeAluEaToDreg : OpcodeDecoder where
  guard op := (opTop op = 0xD || opTop op = 0x9 || opTop op = 0xB) && opSizeCode op ≠ 3 &&
    ((op >>> 8) &&& 1) = 0 &&
    (isDataEa (opEaMode op) (opEaReg op) || (opEaMode op = 1 && opSizeCode op ≠ 0))
  fill rom addr op out :=
    let size := sizeFromOpcodeBits (opSizeCode op)
    let src := decodeEa rom (addr + 2) (opEaMode op) (opEaReg op) size
    let out := { out with
      mnemonic := if opTop op = 0xD then .add else if opTop op = 0x9 then .sub else .cmp,
      size := size, byteLength := 2 + src.2, src := src.1 }
    if src.1.mode = .none then decodeUnknown out
    else
      { out with dst := { out.dst with mode := .dreg, reg := opReg9 op }, form := .dregToDreg,
                 srcReg := opEaReg op, reg := opReg9 op }

/-- `decode_cmpm`. -/
def decodeCmpm : OpcodeDecoder where
  guard op := opMatch op 0xF138 0xB108 && opSizeCode op ≠ 3
  fill _ _ op out :=
    { out with mnemonic := .cmpm, size := sizeFromOpcodeBits (opSizeCode op), byteLength := 2,
               src := { out.src with mode := .apost, reg := opEaReg op },
               dst := { out.dst with mode := .apost, reg := opReg9 op },
               srcReg := opEaReg op, reg := opReg9 op }

end NeoRecomp
