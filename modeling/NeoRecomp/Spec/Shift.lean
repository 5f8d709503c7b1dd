import NeoRecomp.Emit.Shift
import NeoRecomp.Spec.Arithmetic

/-!
# What the shifts and rotations compute

Closed forms in the count: a shift by the count, a rotation by the count modulo the operand width,
and a rotation of X and the operand together modulo one more than that.
-/

namespace NeoRecomp

open Gen BitArith

section Value
variable {w : Nat}

/-- X and the operand as one word, rotated left or right by `n` places. -/
def rotateExtended (isLeft : Bool) (v : BitVec w) (x : Bool) (n : Nat) : BitVec (w + 1) :=
  if isLeft then (BitVec.cons x v).rotateLeft (n % (w + 1))
  else (BitVec.cons x v).rotateRight (n % (w + 1))

/-- The operand after `n` places. -/
def shiftResult (mn : NgM68kMnemonic) (v : BitVec w) (x : Bool) (n : Nat) : BitVec w :=
  match mn with
  | .asl | .lsl => v <<< n
  | .asr => v.sshiftRight n
  | .lsr => v >>> n
  | .rol => v.rotateLeft (n % w)
  | .ror => v.rotateRight (n % w)
  | .roxl => (rotateExtended true v x n).setWidth w
  | .roxr => (rotateExtended false v x n).setWidth w
  | _ => v

/-- The bit that leaves a word with the next move: the top one to the left, the bottom one to the
right. -/
def nextOut (mn : NgM68kMnemonic) (v : BitVec w) : Bool :=
  if shiftIsLeft mn then v.msb else v.getLsbD 0

/-- The last bit moved out by `n` places, where `n` is not zero. -/
def lastOut (mn : NgM68kMnemonic) (v : BitVec w) (x : Bool) (n : Nat) : Bool :=
  nextOut mn (shiftResult mn v x (n - 1))

/-- Whether the sign changes at some place of a left shift by `n`. -/
def signChanges (v : BitVec w) (n : Nat) : Bool :=
  decide (∃ k < n, (v <<< (k + 1)).msb ≠ (v <<< k).msb)

/-- Condition codes after `n` places. -/
def shiftCcr (mn : NgM68kMnemonic) (v : BitVec w) (x : Bool) (n : Nat) : Ccr :=
  { x := if shiftIsRot mn || n == 0 then x else lastOut mn v x n
    n := (shiftResult mn v x n).msb
    z := decide (shiftResult mn v x n = 0)
    v := mn == .asl && signChanges v n
    c := if n = 0 then shiftIsRox mn && x else lastOut mn v x n }

end Value

/-- The count of a shift of a data register: the low six bits of a register, or the constant in the
instruction, which C keeps in a byte. -/
def shiftCount (instr : NgM68kInstr) (g : NgM68kState) : Nat :=
  if instr.src.mode = .dreg then (g.d (regIndex instr.src.reg)).toNat % 64
  else instr.immediate.toNat % 256

section Abi
variable {β : Type} [GeneratedAbi β]

/-- A shift of a data register.  The bits above the operand stay. -/
def shiftDreg (instr : NgM68kInstr) : Gen β Unit :=
  modifyCpu fun g =>
    let r := regIndex instr.dst.reg
    let v : BitVec (ngSizeBits instr.size) := (g.d r).setWidth _
    let x := flagX g.sr
    let n := shiftCount instr g
    (g.setD r (replaceLow (g.d r) (shiftResult instr.mnemonic v x n))).setSr
      ((shiftCcr instr.mnemonic v x n).put g.sr)

/-- A shift of a word in memory, by one place. -/
def shiftMemory (instr : NgM68kInstr) : Gen β Unit :=
  match emitEaAddress instr.dst 2 with
  | some ad => do
      let addr := (← ad) (← getCpu)
      let v : BitVec 16 ← read16 addr
      let x := flagX (← getCpu).sr
      write16 addr (shiftResult instr.mnemonic v x 1)
      modifyCpu fun g => g.setSr ((shiftCcr instr.mnemonic v x 1).put g.sr)
  | none => pure ()

/-- A shift or rotation. -/
def shiftReference (instr : NgM68kInstr) : Gen β Unit :=
  if instr.dst.mode = .dreg then shiftDreg instr else shiftMemory instr

end Abi

end NeoRecomp
