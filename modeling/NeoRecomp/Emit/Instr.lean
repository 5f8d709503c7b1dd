import NeoRecomp.Emit.Shift

/-!
# Emitted code of one instruction

`emit_instr` with its form-specific shortcuts.  It returns 1 when the printed code falls through to
the next instruction and 0 when the code always leaves the function.
-/

namespace NeoRecomp

open Gen

/-- Text of one instruction, the returned flag, and whether `emit_record_unsupported` ran. -/
structure InstrEmission (β : Type) where
  text : Gen β Unit
  continues : Bool
  unsupported : Bool := false

section Abi
variable {β : Type} [GeneratedAbi β]

/-- `return 1` after printing `text`. -/
def fallsThrough (text : Gen β Unit) : InstrEmission β := { text, continues := true }

/-- `return 0` after printing `text`. -/
def leaves (text : Gen β Unit) : InstrEmission β := { text, continues := false }

/-- The unsupported fallback at the end of `emit_instr`, after what was already printed. -/
def unsupportedFallback (instr : NgM68kInstr) (printed : Gen β Unit) : InstrEmission β :=
  { text := do printed; missReturn instr.addr, continues := false, unsupported := true }

/-- `if (emit_x(out, instr)) return 1; break;` -/
def orUnsupported (instr : NgM68kInstr) : Emission β → InstrEmission β
  | .emitted text => fallsThrough text
  | .failed printed => unsupportedFallback instr printed

/-- `if (emit_x(out, instr)) return 1;` followed by another attempt. -/
def Emission.orElse : Emission β → Emission β → Emission β
  | .emitted text, _ => .emitted text
  | .failed printed, .emitted text => .emitted do printed; text
  | .failed printed, .failed text => .failed do printed; text

/-- `(instr->addr + instr->byte_length) & 0x00FFFFFFu`. -/
def nextPc (instr : NgM68kInstr) : BitVec 32 :=
  (instr.addr + instr.byteLength.setWidth 32) &&& 0x00FFFFFF

/-- `emit_push_return_address`. -/
def emitPushReturnAddress (returnPc : BitVec 32) : Gen β Unit := pushLong (returnPc &&& 0x00FFFFFF)

/-! ## Control flow -/

/-- STOP. -/
def stopText (instr : NgM68kInstr) : Gen β Unit := do
  emitRequireSupervisor instr.addr
  modifyCpu (ngSetSr (instr.immediate.setWidth 16))
  call fun b => ((), GeneratedAbi.stopUntilInterrupt (instr.immediate.setWidth 16) b)
  modifyCpu fun g => g.setPc (nextPc instr)
  traceOrReturn (nextPc instr)
  if ← ngServiceInterrupt (nextPc instr) then ret else ret

/-- `emit_branch_condition`: the text and whether the condition was known. -/
def emitBranchCondition (instr : NgM68kInstr) : Gen β Unit × Bool :=
  let branch : Gen β Unit := do
    traceOrReturn (instr.target &&& 0x00FFFFFF)
    goto instr.target
  if instr.condition = 0 then (branch, true)
  else if instr.condition = 1 then (pure (), true)
  else
    match ngConditionExpr instr.condition with
    | some expr => (do if expr (← getCpu).sr then branch else pure (), true)
    | none => (missReturn instr.addr, false)

/-- BRA. -/
def emitBra (instr : NgM68kInstr) : InstrEmission β :=
  match emitBranchCondition instr with
  | (text, true) => leaves text
  | (text, false) => unsupportedFallback instr text

/-- BCC. -/
def emitBcc (instr : NgM68kInstr) : InstrEmission β :=
  { text := (emitBranchCondition instr).1, continues := (emitBranchCondition (β := β) instr).2 }

/-- The counter statements of DBCC. -/
def dbccStatements (instr : NgM68kInstr) : Gen β Unit := do
  let r := regIndex instr.reg
  let counter : BitVec 16 := (((← getCpu).d r &&& 0xFFFF) - 1).setWidth 16
  modifyCpu fun g => g.setD r ((g.d r &&& 0xFFFF0000) ||| counter.setWidth 32)
  if counter ≠ 0xFFFF then
    traceOrReturn (instr.target &&& 0x00FFFFFF)
    goto instr.target

/-- DBCC. -/
def emitDbcc (instr : NgM68kInstr) : InstrEmission β :=
  if instr.condition = 0 then fallsThrough (pure ())
  else if instr.condition = 1 then fallsThrough (dbccStatements instr)
  else
    match ngConditionExpr instr.condition with
    | none => unsupportedFallback instr (pure ())
    | some expr => fallsThrough do
        if expr (← getCpu).sr then pure () else dbccStatements instr

/-- SCC. -/
def emitScc (instr : NgM68kInstr) : InstrEmission β :=
  let write (value : CExpr) : InstrEmission β :=
    match emitEaWrite instr.dst 1 with
    | some wr => fallsThrough (wr value)
    | none => unsupportedFallback instr (pure ())
  if instr.condition = 0 then write fun _ => 0xFF
  else if instr.condition = 1 then write fun _ => 0x00
  else
    match ngConditionExpr instr.condition with
    | some expr => write fun g => if expr g.sr then 0xFF else 0x00
    | none => unsupportedFallback instr (pure ())

/-- The address expression JSR and JMP use when the target is not a constant. -/
def jumpAddressValue (instr : NgM68kInstr) : Option CExpr :=
  if instr.src.mode ≠ .none ∧ instr.form ≠ .abs ∧ instr.form ≠ .pcRelative then
    emitEaAddressValue instr.src
  else none

/-- BSR, and JSR with a constant target. -/
def callText (instr : NgM68kInstr) : Gen β Unit := do
  emitPushReturnAddress (instr.addr + instr.byteLength.setWidth 32)
  traceDispatchReturn (instr.target &&& 0x00FFFFFF)

/-- JSR. -/
def emitJsr (instr : NgM68kInstr) : InstrEmission β :=
  match jumpAddressValue instr with
  | some e => leaves do
      let target := e (← getCpu)
      pushLong (nextPc instr)
      traceDispatchReturn target
  | none => leaves (callText instr)

/-- JMP; the address expression is printed into the trace test and into the dispatch. -/
def emitJmp (instr : NgM68kInstr) : InstrEmission β :=
  match jumpAddressValue instr with
  | some e => leaves do
      traceOrReturn (e (← getCpu))
      dispatch (e (← getCpu))
      ret
  | none => leaves (traceDispatchReturn (instr.target &&& 0x00FFFFFF))

/-- RTE. -/
def rteText (instr : NgM68kInstr) : Gen β Unit := do
  emitRequireSupervisor instr.addr
  let sr ← read16 ((← getCpu).a 7)
  modifyCpu fun g => g.setA 7 (g.a 7 + 2)
  let pc ← read32 ((← getCpu).a 7)
  modifyCpu fun g => g.setA 7 (g.a 7 + 4)
  modifyCpu (ngSetSr sr)
  traceDispatchReturn pc

/-- RTR. -/
def rtrText : Gen β Unit := do
  let ccr ← read16 ((← getCpu).a 7)
  modifyCpu fun g => g.setA 7 (g.a 7 + 2)
  let pc ← read32 ((← getCpu).a 7)
  modifyCpu fun g => g.setA 7 (g.a 7 + 4)
  modifyCpu fun g => g.setSr ((g.sr &&& 0xFFE0) ||| (ccr &&& 0x001F))
  traceDispatchReturn pc

/-- RTS. -/
def rtsText : Gen β Unit := do
  let pc ← read32 ((← getCpu).a 7)
  modifyCpu fun g => g.setA 7 (g.a 7 + 4)
  traceDispatchReturn pc

/-- TRAPV. -/
def trapvText (instr : NgM68kInstr) : Gen β Unit := do
  if srHas (← getCpu).sr ngCcrV then trapThrough instr 0x0000001C

/-! ## Stack frames and addresses -/

/-- LINK. -/
def linkText (instr : NgM68kInstr) : Gen β Unit := do
  let r := regIndex instr.reg
  let oldAn := (← getCpu).a r
  pushLong oldAn
  modifyCpu fun g => g.setA r (g.a 7)
  modifyCpu fun g => g.setA 7 (g.a 7 + instr.displacement.signExtend 32)

/-- UNLK. -/
def unlkText (instr : NgM68kInstr) : Gen β Unit := do
  if instr.reg = 7 then
    let v ← read32 ((← getCpu).a 7)
    modifyCpu fun g => g.setA 7 v
  else
    let r := regIndex instr.reg
    modifyCpu fun g => g.setA 7 (g.a r)
    let v ← read32 ((← getCpu).a 7)
    modifyCpu fun g => g.setA r v
    modifyCpu fun g => g.setA 7 (g.a 7 + 4)

/-- LEA. -/
def emitLea (instr : NgM68kInstr) : InstrEmission β :=
  let r := regIndex instr.reg
  if instr.src.mode ≠ .none then
    match emitEaAddressValue instr.src with
    | some e => fallsThrough (modifyCpu fun g => g.setA r (e g))
    | none => unsupportedFallback instr (pure ())
  else fallsThrough (modifyCpu fun g => g.setA r (instr.target &&& 0x00FFFFFF))

/-- PEA. -/
def emitPea (instr : NgM68kInstr) : InstrEmission β :=
  match emitEaAddressValue instr.src with
  | some e => fallsThrough do pushLong (e (← getCpu))
  | none => unsupportedFallback instr (pure ())

/-- MOVE to and from USP. -/
def emitMoveUsp (instr : NgM68kInstr) : InstrEmission β :=
  if instr.src.mode = .areg then fallsThrough do
    emitRequireSupervisor instr.addr
    modifyCpu fun g => { g with usp := g.a (regIndex instr.src.reg) }
  else if instr.dst.mode = .areg then fallsThrough do
    emitRequireSupervisor instr.addr
    modifyCpu fun g => g.setA (regIndex instr.dst.reg) g.usp
  else unsupportedFallback instr (emitRequireSupervisor instr.addr)

/-! ## Shortcuts by operand form -/

/-- `g_ng_m68k.d[reg] = (g_ng_m68k.d[reg] & keep) | value;` then `ng_set_nz` on its low part. -/
def loadDreg (reg size : BitVec 8) (value : BitVec (ngSizeBits size)) : Gen β Unit := do
  let r := regIndex reg
  modifyCpu fun g => g.setD r ((g.d r &&& ngDregKeepMask size) ||| promote value)
  modifyCpu fun g => g.setSr (ngSetNz (castSize size (g.d r &&& ngValueMask size)) g.sr)

/-- `ng68k_write` of a value and `ng_set_nz` on the same value. -/
def storeAbs (size : BitVec 8) (addr : BitVec 32) (value : CExpr) : Gen β Unit := do
  writeThrough size (fun _ => addr &&& 0x00FFFFFF) value
  emitSetNzForSize size value

/-- The form-specific shortcuts of MOVE. -/
def moveShortcut (instr : NgM68kInstr) : Option (Gen β Unit) :=
  if instr.form = .aregToAbs ∧ instr.size = 4 then
    some (storeAbs 4 instr.absoluteAddr fun g => g.a (regIndex instr.reg))
  else if instr.form = .immToAbs then
    some (storeAbs instr.size instr.absoluteAddr fun _ => instr.immediate)
  else if instr.form = .absToDreg then
    some do
      let v ← readSize instr.size (instr.absoluteAddr &&& 0x00FFFFFF)
      loadDreg instr.reg instr.size v
  else if instr.form = .aregDisp ∧ instr.size = 1 then
    some do
      let v ← readSize 1
        ((← getCpu).a (regIndex instr.srcReg) + instr.displacement.signExtend 32)
      loadDreg instr.reg 1 v
  else if instr.form = .dregToAbs ∧ instr.size = 1 then
    some (storeAbs 1 instr.absoluteAddr fun g => g.d (regIndex instr.reg) &&& 0xFF)
  else if instr.form = .immToDreg then
    some (loadDreg instr.reg instr.size (castSize instr.size instr.immediate))
  else none

/-- MOVE. -/
def emitMove (instr : NgM68kInstr) : InstrEmission β :=
  match moveShortcut instr with
  | some text => fallsThrough text
  | none => orUnsupported instr (emitMoveGeneric instr)

/-- The form-specific shortcuts of CLR. -/
def clrShortcut (instr : NgM68kInstr) : Option (Gen β Unit) :=
  if instr.form = .abs then some (storeAbs instr.size instr.absoluteAddr fun _ => 0)
  else if instr.form = .dreg then
    some do
      let r := regIndex instr.reg
      modifyCpu fun g => g.setD r (g.d r &&& ngDregKeepMask instr.size)
      emitSetNzForSize instr.size fun _ => 0
  else none

/-- `emit_ea_write` of zero with `emit_set_nz_for_size`, the generic CLR. -/
def emitClrGeneric (instr : NgM68kInstr) : Emission β :=
  if instr.dst.mode = .none then .rejected
  else
    match emitEaWrite instr.dst instr.size with
    | none => .rejected
    | some wr => .emitted do
        wr fun _ => 0
        emitSetNzForSize instr.size fun _ => 0

/-- CLR. -/
def emitClr (instr : NgM68kInstr) : InstrEmission β :=
  match clrShortcut instr with
  | some text => fallsThrough text
  | none => orUnsupported instr (emitClrGeneric instr)

/-- The form-specific shortcuts of TST. -/
def tstShortcut (instr : NgM68kInstr) : Option (Gen β Unit) :=
  if instr.form = .abs then
    some do
      let v ← readSize instr.size (instr.absoluteAddr &&& 0x00FFFFFF)
      modifyCpu fun g => g.setSr (ngSetNz v g.sr)
  else if instr.form = .aregDisp ∧ instr.size = 1 then
    some do
      let v ← read8 ((← getCpu).a (regIndex instr.reg) + instr.displacement.signExtend 32)
      modifyCpu fun g => g.setSr (ngSetNz v g.sr)
  else none

/-- TST. -/
def emitTst (instr : NgM68kInstr) : InstrEmission β :=
  match tstShortcut instr with
  | some text => fallsThrough text
  | none => orUnsupported instr (emitTstGeneric instr)

/-- The form-specific shortcut of ANDI: the flags come from a second read. -/
def andiShortcut (instr : NgM68kInstr) : Option (Gen β Unit) :=
  if instr.mnemonic = .andi ∧ instr.form = .aregDisp ∧ instr.size = 1 then
    let addr : CExpr := fun g => g.a (regIndex instr.reg) + instr.displacement.signExtend 32
    some do
      let v ← read8 (addr (← getCpu))
      write8 (addr (← getCpu)) (v &&& instr.immediate.setWidth 8)
      let v ← read8 (addr (← getCpu))
      modifyCpu fun g => g.setSr (ngSetNz v g.sr)
  else none

/-- ORI, ANDI and EORI. -/
def emitLogicalImm (instr : NgM68kInstr) : InstrEmission β :=
  match andiShortcut instr with
  | some text => fallsThrough text
  | none => orUnsupported instr (emitLogicalImmGeneric instr)

/-- The word-register addition tried after the two ALU emitters. -/
def aluWordShortcut (instr : NgM68kInstr) : Emission β :=
  if instr.form = .dregToDreg ∧ instr.size = 2 then
    .emitted do
      let r := regIndex instr.reg
      modifyCpu fun g => g.setD r
        ((g.d r &&& 0xFFFF0000) ||| ((g.d r + g.d (regIndex instr.srcReg)) &&& 0x0000FFFF))
      modifyCpu fun g => g.setSr (ngSetNz ((g.d r &&& 0xFFFF).setWidth 16) g.sr)
  else .rejected

/-- ADD, SUB and CMP. -/
def emitAlu (instr : NgM68kInstr) : InstrEmission β :=
  orUnsupported instr
    ((emitAluDregToEa instr).orElse ((emitAluEaToDreg instr).orElse (aluWordShortcut instr)))

/-! ## Register instructions -/

/-- MOVEQ. -/
def moveqText (instr : NgM68kInstr) : Gen β Unit := do
  modifyCpu fun g => g.setD (regIndex instr.reg) instr.immediate
  modifyCpu fun g => g.setSr (ngSetNz (g.d (regIndex instr.reg)) g.sr)

/-- EXT. -/
def emitExt (instr : NgM68kInstr) : InstrEmission β :=
  let r := regIndex instr.reg
  if instr.size = 2 then fallsThrough do
    let result : BitVec 16 := (((← getCpu).d r).setWidth 8).signExtend 16
    modifyCpu fun g => g.setD r ((g.d r &&& 0xFFFF0000) ||| result.setWidth 32)
    modifyCpu fun g => g.setSr (ngSetNz result g.sr)
  else if instr.size = 4 then fallsThrough do
    modifyCpu fun g => g.setD r (((g.d r).setWidth 16).signExtend 32)
    modifyCpu fun g => g.setSr (ngSetNz (g.d r) g.sr)
  else unsupportedFallback instr (pure ())

/-- SWAP. -/
def swapText (instr : NgM68kInstr) : Gen β Unit := do
  let r := regIndex instr.reg
  modifyCpu fun g => g.setD r ((g.d r <<< 16) ||| (g.d r >>> 16))
  modifyCpu fun g => g.setSr (ngSetNz (g.d r) g.sr)

/-! ## All mnemonics -/

/-- `emit_instr`. -/
def emitInstr (instr : NgM68kInstr) : InstrEmission β :=
  match instr.mnemonic with
  | .nop => fallsThrough (pure ())
  | .reset => fallsThrough do
      emitRequireSupervisor instr.addr
      call fun b => ((), GeneratedAbi.resetDevices b)
  | .stop => leaves (stopText instr)
  | .illegal => leaves
      (emitExceptionVectorCall
        (if instr.immediate ≠ 0 then instr.immediate.setWidth 8 else 4)
        (instr.addr + instr.byteLength.setWidth 32))
  | .trap => leaves (trapThrough instr ((32 + (instr.immediate &&& 0xF)) * 4))
  | .trapv => fallsThrough (trapvText instr)
  | .rte => leaves (rteText instr)
  | .rtr => leaves rtrText
  | .rts => leaves rtsText
  | .link => fallsThrough (linkText instr)
  | .unlk => fallsThrough (unlkText instr)
  | .lea => emitLea instr
  | .movea => orUnsupported instr (emitMoveaGeneric instr)
  | .moveq => fallsThrough (moveqText instr)
  | .move => emitMove instr
  | .movem => orUnsupported instr (emitMovem instr)
  | .movep => orUnsupported instr (emitMovep instr)
  | .moveSr | .moveCcr => orUnsupported instr (emitMoveSrCcr instr)
  | .moveUsp => emitMoveUsp instr
  | .add | .sub | .cmp => emitAlu instr
  | .adda | .suba | .cmpa => orUnsupported instr (emitAluAddressReg instr)
  | .or | .and | .eor => orUnsupported instr (emitLogicBinaryGeneric instr)
  | .mulu | .muls => orUnsupported instr (emitMultiply instr)
  | .divu | .divs => orUnsupported instr (emitDivide instr)
  | .exg => orUnsupported instr (emitExchange instr)
  | .asl | .asr | .lsl | .lsr | .roxl | .roxr | .rol | .ror =>
      orUnsupported instr ((emitShiftRotateMemory instr).orElse (emitShiftRotateDreg instr))
  | .addx | .subx => orUnsupported instr (emitAddsubx instr)
  | .abcd | .sbcd => orUnsupported instr (emitAbcdSbcd instr)
  | .addq | .subq => orUnsupported instr (emitQuickGeneric instr)
  | .clr => emitClr instr
  | .neg | .negx | .not => orUnsupported instr (emitUnaryRmwGeneric instr)
  | .nbcd => orUnsupported instr (emitNbcdGeneric instr)
  | .ext => emitExt instr
  | .swap => fallsThrough (swapText instr)
  | .pea => emitPea instr
  | .tst => emitTst instr
  | .tas => orUnsupported instr (emitTasGeneric instr)
  | .addi | .subi => orUnsupported instr (emitArithImmGeneric instr)
  | .cmpi => orUnsupported instr (emitCmpiGeneric instr)
  | .cmpm => orUnsupported instr (emitCmpm instr)
  | .ori | .andi | .eori => emitLogicalImm instr
  | .btst | .bchg | .bclr | .bset => orUnsupported instr (emitBitImmGeneric instr)
  | .oriToCcr | .oriToSr | .andiToCcr | .andiToSr | .eoriToCcr | .eoriToSr =>
      orUnsupported instr (emitImmediateToSrCcr instr)
  | .bra => emitBra instr
  | .bcc => emitBcc instr
  | .scc => emitScc instr
  | .dbcc => emitDbcc instr
  | .chk => orUnsupported instr (emitChk instr)
  | .jsr => emitJsr instr
  | .bsr => leaves (callText instr)
  | .jmp => emitJmp instr
  | .invalid | .unknown => unsupportedFallback instr (pure ())

end Abi

end NeoRecomp
