import NeoRecomp.Spec.MulDiv

/-!
# What MOVE does

The source operand is read once, and what was read is what the destination receives and what N and Z
describe.  The address registers of `-(An)` and `(An)+` operands step around their own access.
-/

namespace NeoRecomp

open Gen

section Abi
variable {β : Type} [GeneratedAbi β]

/-- MOVE: N and Z of the value moved, V and C clear, X kept. -/
def moveReference (instr : NgM68kInstr) : Gen β Unit := do
  let v ← moveSource instr.src instr.size
  moveDestination instr.dst instr.size v
  modifyCpu fun g => g.setSr ((resultCcr v g.sr).put g.sr)

end Abi

/-! ## The source register as a stepped destination -/

/-- The destination's address register after the instruction. -/
def steppedReg (ea : NgM68kEa) (size : BitVec 8) (a : BitVec 32) : BitVec 32 :=
  match ea.mode with
  | .apost => a + ngEaStepBytes ea size
  | .apre => a - ngEaStepBytes ea size
  | _ => a

/-- Two values with the same N and Z. -/
def SameNz {w : Nat} (v v' : BitVec w) : Prop := v.msb = v'.msb ∧ (v = 0 ↔ v' = 0)

instance {w : Nat} (v v' : BitVec w) : Decidable (SameNz v v') :=
  inferInstanceAs (Decidable (_ ∧ _))

/-- Where the source is the address register that the destination steps, N and Z of the register are
the same before and after the step. -/
def StepKeepsNz (instr : NgM68kInstr) (g : NgM68kState) : Prop :=
  instr.src.mode = .areg → regIndex instr.src.reg = regIndex instr.dst.reg →
    let a := g.a (regIndex instr.src.reg)
    SameNz (castSize instr.size (steppedReg instr.dst instr.size a)) (castSize instr.size a)

instance (instr : NgM68kInstr) (g : NgM68kState) : Decidable (StepKeepsNz instr g) :=
  inferInstanceAs (Decidable (_ → _ → _))

end NeoRecomp
