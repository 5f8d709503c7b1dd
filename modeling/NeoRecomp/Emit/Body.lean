import NeoRecomp.Decode
import NeoRecomp.Emit.Instr
import NeoRecomp.Validate

/-!
# Emitted function bodies

`emit_function_body` decodes up to 192 instructions in a first pass and prints them in a second.
The printed body is a list of items; a `goto` continues at the item that carries the label, and
running past the last item returns from the function.
-/

namespace NeoRecomp

open Gen

/-- `NG_EMIT_MAX_INSTRUCTIONS`. -/
def ngEmitMaxInstructions : Nat := 192

/-- `addr & 0x00FFFFFFu`: the address bus has 24 lines, and labels and dispatches carry no more. -/
def addr24 (addr : BitVec 32) : BitVec 32 := addr &&& 0x00FFFFFF

theorem addr24_addr24 (a : BitVec 32) : addr24 (addr24 a) = addr24 a := by
  unfold addr24
  rw [BitVec.and_assoc, BitVec.and_self]

/-! ## Diagnostics -/

/-- `NgEmitDiagnostics`, as `ng_emit_diagnostics_init` leaves it. -/
structure NgEmitDiagnostics where
  unsupportedCount : BitVec 32 := 0
  decodeErrorCount : BitVec 32 := 0
  firstUnsupportedAddr : BitVec 32 := 0xFFFFFFFF
  firstDecodeErrorAddr : BitVec 32 := 0xFFFFFFFF
  deriving DecidableEq, Repr

/-- `emit_record_unsupported`. -/
def emitRecordUnsupported (addr : BitVec 32) (d : NgEmitDiagnostics) : NgEmitDiagnostics :=
  { d with
    firstUnsupportedAddr := if d.unsupportedCount = 0 then addr24 addr else d.firstUnsupportedAddr
    unsupportedCount := d.unsupportedCount + 1 }

/-- `emit_record_decode_error`. -/
def emitRecordDecodeError (addr : BitVec 32) (d : NgEmitDiagnostics) : NgEmitDiagnostics :=
  { d with
    firstDecodeErrorAddr := if d.decodeErrorCount = 0 then addr24 addr else d.firstDecodeErrorAddr
    decodeErrorCount := d.decodeErrorCount + 1 }

/-! ## First pass -/

/-- `addr_in_list`. -/
def addrInList (addrs : List (BitVec 32)) (addr : BitVec 32) : Bool :=
  addrs.any fun a => addr24 a == addr24 addr

/-- `instr_has_local_branch_target`. -/
def instrHasLocalBranchTarget (instr : NgM68kInstr) : Bool :=
  match instr.mnemonic with
  | .bra => true
  | .bcc => instr.condition ≠ 1
  | .dbcc => instr.condition ≠ 0
  | _ => false

/-- The mnemonics after which the first pass stops. -/
def endsBody : NgM68kMnemonic → Bool
  | .bra | .bsr | .jmp | .jsr | .rts | .stop | .illegal | .trap | .rte | .rtr | .unknown
  | .invalid => true
  | _ => false

/-- The `break` condition of the first pass. -/
def stopsFirstPass (instr : NgM68kInstr) : Bool :=
  !ngM68kValidate instr || instr.byteLength = 0 || endsBody instr.mnemonic

/-- The arrays `instrs` and `label_targets`, the running `pc`, and whether decoding failed there. -/
structure FirstPass where
  instrs : List NgM68kInstr
  labelTargets : List (BitVec 32)
  pc : BitVec 32
  decodeFailed : Bool
  deriving DecidableEq, Repr

/-- Append one decoded instruction and its branch target. -/
def FirstPass.record (p : FirstPass) (instr : NgM68kInstr) : FirstPass :=
  { p with
    instrs := p.instrs ++ [instr]
    labelTargets :=
      if instrHasLocalBranchTarget instr && !addrInList p.labelTargets instr.target then
        p.labelTargets ++ [instr.target]
      else p.labelTargets }

/-- The first loop of `emit_function_body`; the fuel is the number of turns left. -/
def firstPass (rom : NgProgramRom) : Nat → FirstPass → FirstPass
  | 0, p => p
  | fuel + 1, p =>
      match ngM68kDecode rom p.pc with
      | (false, _) => { p with decodeFailed := true }
      | (true, instr) =>
          let p := p.record instr
          if stopsFirstPass instr then p
          else firstPass rom fuel { p with pc := p.pc + instr.byteLength.setWidth 32 }

/-- The first pass from a start address. -/
def bodyFirstPass (rom : NgProgramRom) (start : BitVec 32) : FirstPass :=
  firstPass rom ngEmitMaxInstructions
    { instrs := [], labelTargets := [], pc := start, decodeFailed := false }

/-! ## Second pass -/

/-- One piece of a printed body. -/
inductive BodyItem
  /-- A decoded instruction with its hooks, after its label if a branch in the body needs one. -/
  | decoded (labelled : Bool) (instr : NgM68kInstr)
  /-- A label of `emit_missing_branch_labels`. -/
  | dispatchLabel (target : BitVec 32)
  /-- `ng_log_dispatch_miss(addr);`, with a `return;` after a decode error. -/
  | miss (addr : BitVec 32) (returns : Bool)
  deriving DecidableEq, Repr

/-- The label printed before an item. -/
def BodyItem.label : BodyItem → Option (BitVec 32)
  | .decoded true instr => some (addr24 instr.addr)
  | .decoded false _ => none
  | .dispatchLabel target => some (addr24 target)
  | .miss _ _ => none

/-- `emit_missing_branch_labels`. -/
def emitMissingBranchLabels (instrs : List NgM68kInstr) (labelTargets : List (BitVec 32)) :
    List BodyItem :=
  (labelTargets.filter fun t => !instrs.any fun i => addr24 i.addr == addr24 t).map .dispatchLabel

section Abi
variable (β : Type) [GeneratedAbi β]

/-- The second loop of `emit_function_body`; `trailing` is what `emit_missing_branch_labels`
prints and `pc` the address the first pass ended at. -/
def secondPass (labelTargets : List (BitVec 32)) (trailing : List BodyItem) (pc : BitVec 32) :
    List NgM68kInstr → NgEmitDiagnostics → List BodyItem × NgEmitDiagnostics
  | [], d => (trailing ++ [.miss pc false], d)
  | instr :: rest, d =>
      let item := BodyItem.decoded (addrInList labelTargets instr.addr) instr
      if !ngM68kValidate instr then (item :: trailing, emitRecordUnsupported instr.addr d)
      else
        let e := emitInstr (β := β) instr
        let d := if e.unsupported then emitRecordUnsupported instr.addr d else d
        if e.continues then
          let out := secondPass labelTargets trailing pc rest d
          (item :: out.1, out.2)
        else (item :: trailing, d)

/-- `emit_function_body`: the printed items and the diagnostics. -/
def emitFunctionBody (rom : NgProgramRom) (start : BitVec 32) (d : NgEmitDiagnostics) :
    List BodyItem × NgEmitDiagnostics :=
  let p := bodyFirstPass rom start
  if p.decodeFailed then ([.miss p.pc true], emitRecordDecodeError p.pc d)
  else
    secondPass β p.labelTargets (emitMissingBranchLabels p.instrs p.labelTargets) p.pc p.instrs d

/-! ## Running a body -/

variable {β}

/-- The statements printed before every instruction.  `cycles` is
`ng_m68k_base_cycles_for_instr`. -/
def instrPrologue (cycles : NgM68kInstr → BitVec 8) (instr : NgM68kInstr) : Gen β Unit := do
  modifyCpu fun g => g.setPc (addr24 instr.addr)
  call fun b => ((), GeneratedAbi.instructionHook (addr24 instr.addr) b)
  if ← call (GeneratedAbi.shouldYield (addr24 instr.addr)) then ret
  if ← ngServiceInterrupt (addr24 instr.addr) then ret
  call fun b => ((), GeneratedAbi.cycleHook (addr24 instr.addr) ((cycles instr).setWidth 32) b)
  sampleTraceSr

/-- The statements printed after an instruction that falls through. -/
def instrEpilogue (instr : NgM68kInstr) : Gen β Unit := do
  modifyCpu fun g => g.setPc (nextPc instr)
  traceOrReturn (nextPc instr)

/-- The text between prologue and the next item. -/
def instrText (instr : NgM68kInstr) : Gen β Unit :=
  if !ngM68kValidate instr then missReturn instr.addr
  else do
    (emitInstr instr).text
    if (emitInstr (β := β) instr).continues then instrEpilogue instr

/-- The code of an item. -/
def BodyItem.code (cycles : NgM68kInstr → BitVec 8) : BodyItem → Gen β Unit
  | .decoded _ instr => do
      instrPrologue cycles instr
      instrText instr
  | .dispatchLabel target => do
      dispatch (addr24 target)
      ret
  | .miss addr returns => do
      logDispatchMiss (addr24 addr)
      if returns then ret

/-- The item a `goto` continues at. -/
def labelIndex (body : List BodyItem) (label : BitVec 32) : Option Nat :=
  body.findIdx? fun item => item.label == some label

end Abi

end NeoRecomp
