import NeoRecomp.Emit.Body
import NeoRecomp.Spec.Arithmetic

/-!
# The order of instructions

The reference for the control flow of emitted code.  After a taken branch the 68000 goes to the
target and after every other instruction that is neither a jump nor an exception to the next one;
a path follows executed instructions through the ROM.
-/

namespace NeoRecomp

open Gen

/-! ## Branches -/

/-- The N flag of a status register. -/
def flagN (sr : BitVec 16) : Bool := sr.getLsbD 3

/-- The sixteen conditions. -/
def conditionHolds (condition : BitVec 8) (sr : BitVec 16) : Bool :=
  match condition.toNat with
  | 0 => true
  | 1 => false
  | 2 => !flagC sr && !flagZ sr
  | 3 => flagC sr || flagZ sr
  | 4 => !flagC sr
  | 5 => flagC sr
  | 6 => !flagZ sr
  | 7 => flagZ sr
  | 8 => !flagV sr
  | 9 => flagV sr
  | 10 => !flagN sr
  | 11 => flagN sr
  | 12 => flagN sr == flagV sr
  | 13 => flagN sr != flagV sr
  | 14 => !flagZ sr && flagN sr == flagV sr
  | 15 => flagZ sr || flagN sr != flagV sr
  | _ => false

/-- BRA, a Bcc whose condition holds, and a DBcc whose condition fails and whose counter is not
exhausted. -/
def branchTaken (instr : NgM68kInstr) (g : NgM68kState) : Bool :=
  match instr.mnemonic with
  | .bra => true
  | .bcc => conditionHolds instr.condition g.sr
  | .dbcc =>
      !conditionHolds instr.condition g.sr &&
        (g.d (regIndex instr.reg)).setWidth 16 - 1 != (0xFFFF : BitVec 16)
  | _ => false

/-- Where an instruction goes that is neither a jump nor an exception. -/
def successor (instr : NgM68kInstr) (g : NgM68kState) : BitVec 32 :=
  if branchTaken instr g then addr24 instr.target
  else addr24 (instr.addr + instr.byteLength.setWidth 32)

/-! ## Paths -/

section Paths
variable {β : Type} (rom : NgProgramRom)

/-- `Path rom start es a`: the executed instructions `es`, each with the machine it ran on, follow
each other in the ROM from `start` on and lead to `a`. -/
inductive Path (start : BitVec 32) : List (NgM68kInstr × Machine β) → BitVec 32 → Prop
  | nil : Path start [] (addr24 start)
  | snoc {es a instr m} (h : Path start es a) (hd : ngM68kDecode rom instr.addr = (true, instr))
      (ha : addr24 instr.addr = a) : Path start (es ++ [(instr, m)]) (successor instr m.cpu)

/-- `StraightLine rom pc instrs last`: the instructions `instrs` stand one behind the other from `pc`
up to `last`, and none of them ends a body. -/
inductive StraightLine : BitVec 32 → List NgM68kInstr → BitVec 32 → Prop
  | nil (pc) : StraightLine pc [] pc
  | cons {pc instr rest last} (hd : ngM68kDecode rom pc = (true, instr))
      (hs : stopsFirstPass instr = false)
      (hrest : StraightLine (pc + instr.byteLength.setWidth 32) rest last) :
      StraightLine pc (instr :: rest) last

/-- Up to the instruction limit, what follows an instruction decodes. -/
def LineDecodes (start : BitVec 32) : Prop :=
  ∀ instrs pc, StraightLine rom start instrs pc → instrs ≠ [] →
    instrs.length < ngEmitMaxInstructions → (ngM68kDecode rom pc).1 = true

end Paths

/-- The branch targets of a list of instructions, in their order. -/
def branchTargets (instrs : List NgM68kInstr) : List (BitVec 32) :=
  (instrs.filter instrHasLocalBranchTarget).map fun i => i.target

/-- The first branch target that is none of the instructions. -/
def outsideTarget (instrs : List NgM68kInstr) : Option (BitVec 32) :=
  (branchTargets instrs).find? fun t => !addrInList (instrs.map fun i => i.addr) t

end NeoRecomp
