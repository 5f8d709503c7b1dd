import Mathlib.Data.BitVec

/-!
# Decoded 68000 instructions

`NgM68kInstr` is the record the decoder fills, the validator checks and the emitter reads.  Its
fields are redundant: `opcode`, the effective addresses and the older `form`/`reg`/`target` fields
describe the same operands.  Every field starts at zero, as `memset` leaves it.
-/

namespace NeoRecomp

/-- `NgM68kMnemonic`. -/
inductive NgM68kMnemonic
  | invalid | unknown | nop | illegal | reset | stop | rts | rte | rtr | trap | trapv
  | jmp | jsr | link | unlk | bra | bsr | bcc | scc | dbcc | chk | lea | movea | moveq | move
  | movem | movep | moveSr | moveCcr | moveUsp
  | add | adda | addq | addx | abcd | sub | suba | subq | subx | sbcd | cmp | cmpa | cmpm
  | or | and | eor | mulu | muls | divu | divs | exg | clr | neg | negx | nbcd | not | ext | swap
  | asl | asr | lsl | lsr | roxl | roxr | rol | ror | pea | tst | tas
  | addi | subi | cmpi | ori | andi | eori | btst | bchg | bclr | bset
  | oriToCcr | oriToSr | andiToCcr | andiToSr | eoriToCcr | eoriToSr
  deriving DecidableEq, Repr

/-- `NgM68kOperandForm`. -/
inductive NgM68kOperandForm
  | none | aregToAbs | immToAbs | immToDreg | absToDreg | dregToAbs | dregToDreg | dreg
  | aregDisp | pcIndexToAreg | aregIndirect | pcRelative | abs
  deriving DecidableEq, Repr

/-- `NgM68kEaMode`. -/
inductive NgM68kEaMode
  | none | dreg | areg | aind | apost | apre | adisp | aindex | absW | absL | pcDisp | pcIndex | imm
  deriving DecidableEq, Repr

/-- `NgM68kEa`. -/
structure NgM68kEa where
  mode : NgM68kEaMode := .none
  reg : BitVec 8 := 0
  indexReg : BitVec 8 := 0
  indexIsAddr : BitVec 8 := 0
  indexIsLong : BitVec 8 := 0
  displacement : BitVec 16 := 0
  absoluteAddr : BitVec 32 := 0
  immediate : BitVec 32 := 0
  deriving DecidableEq, Repr

/-- `NgM68kInstr`. -/
structure NgM68kInstr where
  addr : BitVec 32
  opcode : BitVec 16 := 0
  mnemonic : NgM68kMnemonic := .invalid
  byteLength : BitVec 8 := 0
  reg : BitVec 8 := 0
  srcReg : BitVec 8 := 0
  size : BitVec 8 := 0
  condition : BitVec 8 := 0
  form : NgM68kOperandForm := .none
  target : BitVec 32 := 0
  immediate : BitVec 32 := 0
  absoluteAddr : BitVec 32 := 0
  displacement : BitVec 16 := 0
  src : NgM68kEa := {}
  dst : NgM68kEa := {}
  deriving DecidableEq, Repr

end NeoRecomp
