import NeoRecomp.Lib.Overflow
import NeoRecomp.Spec.Operands

/-!
# What the 68000 arithmetic instructions compute

The reference for the emitted arithmetic.  Results and flags are read off the exact integer value of
the operation: the stored word is that value modulo `2^w`, C says that the unsigned value does not
fit, V that the signed value does not fit.  Nothing here repeats the expressions the emitter prints.
-/

namespace NeoRecomp

open Gen BitArith

/-! ## Exact arithmetic -/

/-- Addition and subtraction of a source to or from a destination. -/
inductive ArithKind
  | add
  | sub
  deriving DecidableEq, Repr

/-- The exact value of the operation. -/
def ArithKind.exact : ArithKind → Int → Int → Int
  | .add, dst, src => dst + src
  | .sub, dst, src => dst - src

/-- The exact value modulo `2^w`. -/
def arithResult {w : Nat} (k : ArithKind) (dst src : BitVec w) : BitVec w :=
  BitVec.ofInt w (k.exact dst.toNat src.toNat)

/-- Condition codes of an addition or subtraction that sets X. -/
def arithCcr {w : Nat} (k : ArithKind) (dst src : BitVec w) : Ccr :=
  let carry := decide (¬ FitsUnsigned w (k.exact dst.toNat src.toNat))
  { x := carry
    n := decide ((arithResult k dst src).toInt < 0)
    z := decide (arithResult k dst src = 0)
    v := decide (¬ FitsSigned w (k.exact dst.toInt src.toInt))
    c := carry }

/-- Condition codes of a comparison, which keeps X. -/
def compareCcr {w : Nat} (dst src : BitVec w) (sr : BitVec 16) : Ccr :=
  { arithCcr .sub dst src with x := flagX sr }

/-! ## Instructions -/

section Abi
variable {β : Type} [GeneratedAbi β]

/-- Add a source to an operand, or subtract it. -/
def combine (k : ArithKind) (ea : NgM68kEa) (size : BitVec 8) (src : BitVec (ngSizeBits size)) :
    Gen β Unit :=
  alterOperand ea size fun dst => (arithResult k dst src, fun _ => arithCcr k dst src)

/-- Compare two values. -/
def compare {w : Nat} (dst src : BitVec w) : Gen β Unit :=
  modifyCpu fun g => g.setSr ((compareCcr dst src g.sr).put g.sr)

/-- Add a signed value to an address register, or subtract it; no flag changes. -/
def combineAddress (k : ArithKind) (r : Fin 8) (src : Int) : Gen β Unit :=
  modifyCpu fun g => g.setA r (BitVec.ofInt 32 (k.exact (g.a r).toNat src))

/-- ADDQ and SUBQ. -/
def quickReference (k : ArithKind) (instr : NgM68kInstr) : Gen β Unit :=
  if instr.dst.mode = .areg then combineAddress k (regIndex instr.dst.reg) instr.immediate.toNat
  else combine k instr.dst instr.size (instr.immediate.setWidth _)

/-- The arithmetic instructions: ADD, SUB, CMP, their address-register, quick, immediate and memory
variants, and NEG as a subtraction from zero. -/
def arithReference (instr : NgM68kInstr) : Gen β Unit :=
  match instr.mnemonic with
  | .add => do combine .add instr.dst instr.size (← moveSource instr.src instr.size)
  | .sub => do combine .sub instr.dst instr.size (← moveSource instr.src instr.size)
  | .cmp => do
      let src ← moveSource instr.src instr.size
      let dst ← moveSource instr.dst instr.size
      compare dst src
  | .adda => do
      combineAddress .add (regIndex instr.dst.reg) (← moveSource instr.src instr.size).toInt
  | .suba => do
      combineAddress .sub (regIndex instr.dst.reg) (← moveSource instr.src instr.size).toInt
  | .cmpa => do
      let src ← moveSource instr.src instr.size
      compare ((← getCpu).a (regIndex instr.dst.reg)) (src.signExtend 32)
  | .addq => quickReference .add instr
  | .subq => quickReference .sub instr
  | .addi => combine .add instr.dst instr.size (instr.immediate.setWidth _)
  | .subi => combine .sub instr.dst instr.size (instr.immediate.setWidth _)
  | .cmpi => do
      compare (← moveSource instr.dst instr.size)
        (instr.immediate.setWidth (ngSizeBits instr.size))
  | .cmpm => do
      let src ← moveSource instr.src instr.size
      let dst ← moveSource instr.dst instr.size
      compare dst src
  | .neg => alterOperand instr.dst instr.size fun value =>
      (arithResult .sub 0 value, fun _ => arithCcr .sub 0 value)
  | _ => pure ()

/-- The mnemonics `arithReference` describes. -/
def isArith : NgM68kMnemonic → Bool
  | .add | .sub | .cmp | .adda | .suba | .cmpa | .addq | .subq | .addi | .subi | .cmpi | .cmpm
  | .neg => true
  | _ => false

end Abi

end NeoRecomp
