import NeoRecomp.Decode.DataPatterns

/-!
# 68000 instruction decoder

`opcodeDecoders` lists the patterns of `ng_m68k_decode` in the order the source tries them.
-/

namespace NeoRecomp

/-- The opcode patterns in source order. -/
def opcodeDecoders : List OpcodeDecoder :=
  [decodeMove, decodeAluAddressReg, decodeLogicBinary, decodeAddsubDregToEa, decodeExchange,
   decodeShiftRotate, decodeMultiply, decodeDivide, decodeAluEaToDreg, decodeCmpm,
   decodeIllegal, decodeTrap, decodeReset, decodeNop, decodeStop, decodeRte, decodeRts,
   decodeTrapv, decodeRtr, decodeLink, decodeUnlk, decodeMoveUsp,
   decodeJumpAbsLong, decodeJumpPcRelative, decodeJumpAregIndirect, decodeJumpControl,
   decodeBra, decodeBsr, decodeBcc, decodeMoveq, decodeLeaPcRelative, decodeChk, decodeLea,
   decodeLeaAbsLong, decodeMoveaPcIndex, decodeImmediateToSrCcr, decodeMovep,
   decodeMoveFromSr, decodeMoveToSrCcr, decodeStaticBit, decodeDynamicBit,
   decodeOriEori, decodeSubiAddi, decodeCmpi, decodeAndi,
   decodeLateAndiAregDisp, decodeLateMoveAregToAbs, decodeLateMoveWordImmToAbs,
   decodeLateMoveByteImmToAbs, decodeLateMoveDregToAbs, decodeLateMoveAbsToDreg 0x1039 1,
   decodeLateMoveByteAregDisp, decodeLateMoveAbsToDreg 0x2039 4, decodeLateMoveWordImmToDreg,
   decodeLateMoveByteImmToDreg, decodeLateCmpiByteDreg,
   decodeAddxSubx, decodeAbcdSbcd, decodeLateAddWordDreg, decodeDbcc, decodeScc, decodeQuick,
   decodeClr, decodeNegNot, decodeNbcd, decodeSwap, decodeExt, decodeMovemRegToMem,
   decodeMovemMemToReg, decodePea, decodeTas, decodeTst,
   decodeLateAbsLong 0x4239 0x4279 0x42B9 .clr, decodeLateClrDreg,
   decodeLateAbsLong 0x4A39 0x4A79 0x4AB9 .tst, decodeLateTstAregDisp, decodeLineAF]

/-- The record filled in for one opcode word, before the length check. -/
def decodeOpcode (rom : NgProgramRom) (addr : BitVec 32) (op : BitVec 16) : NgM68kInstr :=
  let out : NgM68kInstr := { addr := addr, opcode := op, mnemonic := .unknown, byteLength := 2 }
  match opcodeDecoders.find? (fun d => d.guard op) with
  | some d => d.fill rom addr op out
  | none => withSccCondition op out

/-- `finish_decode`: the last byte has to be mapped and must not wrap around. -/
def finishDecode (rom : NgProgramRom) (addr : BitVec 32) (out : NgM68kInstr) :
    Bool × NgM68kInstr :=
  if out.byteLength = 0 then (false, out)
  else
    let last := addr + out.byteLength.setWidth 32 - 1
    if last < addr || !ngProgramRomAddrIsMapped rom last then (false, { addr := addr })
    else (true, out)

/-- `ng_m68k_decode`: the returned flag and the record left in `*out`. -/
def ngM68kDecode (rom : NgProgramRom) (addr : BitVec 32) : Bool × NgM68kInstr :=
  if !ngProgramRomAddrIsMapped rom addr || !ngProgramRomAddrIsMapped rom (addr + 1) then
    (false, { addr := addr })
  else
    finishDecode rom addr (decodeOpcode rom addr (ngProgramRomRead16 rom addr))

end NeoRecomp
