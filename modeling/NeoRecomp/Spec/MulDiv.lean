import NeoRecomp.Lib.Division
import NeoRecomp.Spec.Arithmetic

/-!
# What the multiplications and divisions compute
-/

namespace NeoRecomp

open Gen BitArith

/-- MULS and DIVS read their operands as signed numbers. -/
def isSignedOp : NgM68kMnemonic → Bool
  | .muls | .divs => true
  | _ => false

/-- The number a word stands for. -/
def operandValue {w : Nat} (mn : NgM68kMnemonic) (v : BitVec w) : Int :=
  if isSignedOp mn then v.toInt else v.toNat

/-- The numbers of a word. -/
def OperandFits (mn : NgM68kMnemonic) (w : Nat) (z : Int) : Prop :=
  if isSignedOp mn then FitsSigned w z else FitsUnsigned w z

/-- Condition codes of a result: N and Z of it, V and C clear, X kept. -/
def resultCcr {w : Nat} (v : BitVec w) (sr : BitVec 16) : Ccr :=
  { x := flagX sr, n := v.msb, z := decide (v = 0), v := false, c := false }

section Outcomes
variable {β : Type} (instr : NgM68kInstr) (text : Gen β Unit) (operand : BitVec 16)

/-- From `m` on, with the operand read, the text multiplies: the product is exact, so that C's
multiplication of the two `int32_t` does not overflow. -/
def Multiplies (m m' : Machine β) : Prop :=
  let r := regIndex instr.dst.reg
  let a := operandValue instr.mnemonic ((m'.cpu.d r).setWidth 16)
  let b := operandValue instr.mnemonic operand
  ∃ p : BitVec 32, operandValue instr.mnemonic p = a * b ∧ OperandFits instr.mnemonic 32 (a * b) ∧
    text m = .next ()
      { m' with cpu := (m'.cpu.setD r p).setSr ((resultCcr p m'.cpu.sr).put m'.cpu.sr) }

/-- From `m` on, with an operand that is not zero, the text divides.  The quotient `q` and the
remainder `r` fit C's `int64_t`; where `q` fits a word both go into the register, and where it does
not the register keeps its value. -/
def Divides (m m' : Machine β) : Prop :=
  let r := regIndex instr.dst.reg
  ∃ quotient remainder : Int,
    IsQuotient (operandValue instr.mnemonic (m'.cpu.d r)) (operandValue instr.mnemonic operand)
      quotient remainder ∧
    FitsSigned 64 quotient ∧
    (OperandFits instr.mnemonic 16 quotient → ∃ hi lo : BitVec 16,
      operandValue instr.mnemonic hi = remainder ∧ operandValue instr.mnemonic lo = quotient ∧
      text m = .next () { m' with
        cpu := (m'.cpu.setD r (hi ++ lo)).setSr ((resultCcr lo m'.cpu.sr).put m'.cpu.sr) }) ∧
    (¬ OperandFits instr.mnemonic 16 quotient → ∃ sr,
      flagV sr = true ∧ flagC sr = false ∧ flagX sr = flagX m'.cpu.sr ∧
      text m = .next () { m' with cpu := m'.cpu.setSr sr })

end Outcomes

end NeoRecomp
