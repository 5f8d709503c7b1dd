import NeoRecomp.Validate.Arithmetic

/-!
# Instruction validator
-/

namespace NeoRecomp

/-- `ng_m68k_validate`. -/
def ngM68kValidate (instr : NgM68kInstr) : Bool :=
  instr.byteLength != 0 &&
    match instr.mnemonic with
    | .invalid | .unknown => false
    | .nop => validFixedNoOperand2byte instr 0x4E71
    | .reset => validFixedNoOperand2byte instr 0x4E70
    | .rte => validFixedNoOperand2byte instr 0x4E73
    | .rtr => validFixedNoOperand2byte instr 0x4E77
    | .rts => validFixedNoOperand2byte instr 0x4E75
    | .trapv => validFixedNoOperand2byte instr 0x4E76
    | .illegal => validateIllegalOpcodeMetadata instr
    | .stop => validateStopMetadata instr
    | .trap => validateTrapMetadata instr
    | .bra | .bsr | .bcc => validateBranch instr
    | .jmp | .jsr => validateControlTransfer instr
    | .pea => validatePea instr
    | .lea => validateLea instr
    | .move => validateMove instr
    | .movea | .adda | .suba | .cmpa => validateAddressRegOp instr
    | .exg => validateExg instr
    | .moveUsp => validateMoveUsp instr
    | .link | .unlk => validateLinkUnlk instr
    | .movep => validateMovep instr
    | .movem => validateMovem instr
    | .moveSr | .moveCcr => validateMoveSrCcr instr
    | .clr | .neg | .negx | .not => validateUnaryDataAlterable instr false
    | .nbcd | .tas => validateUnaryDataAlterable instr true
    | .addi | .subi | .ori | .andi | .eori => validateImmediateToEa instr
    | .oriToCcr | .oriToSr | .andiToCcr | .andiToSr | .eoriToCcr | .eoriToSr =>
        validateImmediateToCcrSr instr
    | .add | .sub | .or | .and => validateAddSubOrAnd instr
    | .cmp => validateEaToDregBinary instr true
    | .cmpm => validateCmpm instr
    | .eor => validateDregToDataAlterableBinary instr
    | .btst => validateBtst instr
    | .bchg | .bclr | .bset => validateAlteringBitOp instr
    | .addq | .subq => validateQuickOp instr
    | .tst => validateTst instr
    | .cmpi => validateCmpi instr
    | .chk | .mulu | .muls | .divu | .divs => validateWordDataToDreg instr
    | .ext | .swap => validateExtSwap instr
    | .scc => validateScc instr
    | .dbcc => validateDbcc instr
    | .asl | .asr | .lsl | .lsr | .roxl | .roxr | .rol | .ror => validateShiftRotate instr
    | .addx | .subx => validSize instr.size && validExtendPair instr
    | .abcd | .sbcd => instr.size == 1 && validExtendPair instr
    | .moveq => validateMoveq instr

end NeoRecomp
