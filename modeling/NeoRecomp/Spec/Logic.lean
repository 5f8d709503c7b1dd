import NeoRecomp.Spec.ControlFlow
import NeoRecomp.Spec.Move

/-!
# What the logic and bit instructions do

A logic instruction replaces its operand by a bitwise function of it and describes the result in N
and Z.  A bit instruction looks at one bit of its operand, counted modulo the operand's width, and
moves nothing but Z.
-/

namespace NeoRecomp

open Gen

/-! ## Logic -/

/-- The operator of AND, OR, EOR and their immediate variants. -/
def bitwise {w : Nat} (mn : NgM68kMnemonic) (dst src : BitVec w) : BitVec w :=
  match mn with
  | .and | .andi => dst &&& src
  | .eor | .eori => dst ^^^ src
  | _ => dst ||| src

/-- A result together with the condition codes that describe it. -/
def described {w : Nat} (v : BitVec w) : BitVec w × (BitVec 16 → Ccr) := (v, resultCcr v)

section Abi
variable {β : Type} [GeneratedAbi β]

/-- The logic instructions.  CLR does not read what it replaces, and TAS describes the byte it
found, not the one it leaves. -/
def logicReference (instr : NgM68kInstr) : Gen β Unit :=
  match instr.mnemonic with
  | .and | .or | .eor => do
      let src ← moveSource instr.src instr.size
      alterOperand instr.dst instr.size fun dst => described (bitwise instr.mnemonic dst src)
  | .andi | .ori | .eori =>
      alterOperand instr.dst instr.size fun dst =>
        described (bitwise instr.mnemonic dst (castSize instr.size instr.immediate))
  | .not => alterOperand instr.dst instr.size fun value => described (~~~value)
  | .tas => alterOperand instr.dst 1 fun value => (value ||| 0x80, resultCcr value)
  | .clr => do
      moveDestination instr.dst instr.size 0
      modifyCpu fun g => g.setSr ((resultCcr (0 : BitVec (ngSizeBits instr.size)) g.sr).put g.sr)
  | .tst => do
      let value ← moveSource instr.src instr.size
      modifyCpu fun g => g.setSr ((resultCcr value g.sr).put g.sr)
  | _ => pure ()

/-- The mnemonics `logicReference` describes. -/
def isLogic : NgM68kMnemonic → Bool
  | .and | .or | .eor | .andi | .ori | .eori | .not | .tas | .clr | .tst => true
  | _ => false

end Abi

/-! ## Bits -/

/-- A word with one bit replaced. -/
def putBit {w : Nat} (v : BitVec w) (n : Nat) (b : Bool) : BitVec w :=
  if b then v ||| BitVec.twoPow w n else v &&& ~~~BitVec.twoPow w n

theorem getLsbD_putBit {w n : Nat} (hn : n < w) (v : BitVec w) (b : Bool) (i : Nat) :
    (putBit v n b).getLsbD i = if i = n then b else v.getLsbD i := by
  unfold putBit
  cases b with
  | true =>
    rw [if_pos rfl, BitVec.getLsbD_or, BitVec.getLsbD_twoPow]
    by_cases h : i = n
    · simp [h, hn]
    · simp [h, Ne.symm h]
  | false =>
    rw [if_neg Bool.false_ne_true, BitVec.getLsbD_and, BitVec.getLsbD_not, BitVec.getLsbD_twoPow]
    by_cases h : i = n
    · simp [h, hn]
    · by_cases hi : i < w
      · simp [h, Ne.symm h, hi]
      · simp [h, BitVec.getLsbD_of_ge v i (by omega)]

/-- What becomes of the bit: BCHG turns it over, BCLR clears it, BSET sets it. -/
def bitAfter (mn : NgM68kMnemonic) (old : Bool) : Bool :=
  match mn with
  | .bchg => !old
  | .bclr => false
  | .bset => true
  | _ => old

/-- Condition codes of a bit test: Z says that the bit was clear, the others are kept. -/
def bitCcr (old : Bool) (sr : BitVec 16) : Ccr :=
  { x := flagX sr, n := flagN sr, z := !old, v := flagV sr, c := flagC sr }

/-- A bit instruction works on a whole data register or on a byte of memory. -/
def bitSize (ea : NgM68kEa) : BitVec 8 := if ea.mode = .dreg then 4 else 1

/-- The number of the bit, from a data register or the extension word. -/
def bitIndex (instr : NgM68kInstr) (g : NgM68kState) : Nat :=
  (if instr.src.mode = .dreg then g.d (regIndex instr.src.reg) else instr.immediate).toNat %
    ngSizeBits (bitSize instr.dst)

section Abi
variable {β : Type} [GeneratedAbi β]

/-- BTST, BCHG, BCLR and BSET. -/
def bitReference (instr : NgM68kInstr) : Gen β Unit := do
  let n := bitIndex instr (← getCpu)
  if instr.mnemonic = .btst then
    let value ← moveSource instr.dst (bitSize instr.dst)
    modifyCpu fun g => g.setSr ((bitCcr (value.getLsbD n) g.sr).put g.sr)
  else
    alterOperand instr.dst (bitSize instr.dst) fun value =>
      (putBit value n (bitAfter instr.mnemonic (value.getLsbD n)), bitCcr (value.getLsbD n))

/-- The mnemonics `bitReference` describes. -/
def isBitOp : NgM68kMnemonic → Bool
  | .btst | .bchg | .bclr | .bset => true
  | _ => false

end Abi

end NeoRecomp
