import NeoRecomp.Lib.Limbs
import NeoRecomp.Spec.Arithmetic
import NeoRecomp.Spec.Ram

/-!
# What ADDX, SUBX and NEGX compute

The extended instructions take X as a third operand, so that a number longer than a register can be
processed limb by limb.
-/

namespace NeoRecomp

open Gen BitArith

/-- ADDX, SUBX and NEGX. -/
def isExtended : NgM68kMnemonic → Bool
  | .addx | .subx | .negx => true
  | _ => false

/-- The exact value of the operation: `dst + src + X`, `dst - src - X` or `0 - dst - X`. -/
def extendExact (mn : NgM68kMnemonic) (dst src : Int) (x : Bool) : Int :=
  match mn with
  | .addx => dst + src + x.toNat
  | .subx => dst - src - x.toNat
  | _ => 0 - dst - x.toNat

/-- The exact value modulo `2^w`. -/
def extendResult {w : Nat} (mn : NgM68kMnemonic) (dst src : BitVec w) (x : Bool) : BitVec w :=
  BitVec.ofInt w (extendExact mn dst.toNat src.toNat x)

/-- Carry or borrow out of the limb. -/
def extendCarry {w : Nat} (mn : NgM68kMnemonic) (dst src : BitVec w) (x : Bool) : Bool :=
  decide (¬ FitsUnsigned w (extendExact mn dst.toNat src.toNat x))

/-- Whether the exact signed value is out of range. -/
def extendOverflow {w : Nat} (mn : NgM68kMnemonic) (dst src : BitVec w) (x : Bool) : Bool :=
  decide (¬ FitsSigned w (extendExact mn dst.toInt src.toInt x))

/-- Condition codes after the operation, with the overflow flag left open: Z is only ever
cleared. -/
def extendCcr {w : Nat} (mn : NgM68kMnemonic) (dst src : BitVec w) (x v : Bool) (sr : BitVec 16) :
    Ccr :=
  { x := extendCarry mn dst src x
    n := decide ((extendResult mn dst src x).toInt < 0)
    z := flagZ sr && decide (extendResult mn dst src x = 0)
    v := v
    c := extendCarry mn dst src x }

/-! ## Operands -/

/-- Where a result goes. -/
inductive Place
  | dreg (r : Fin 8)
  | mem (addr : BitVec 32)

/-- The operands of an extended instruction and the place of its result. -/
structure ExtendOperands (w : Nat) where
  dst : BitVec w
  src : BitVec w
  place : Place

section Abi
variable {β : Type} [GeneratedAbi β]

/-- Store a result. -/
def Place.store (size : BitVec 8) (v : BitVec (ngSizeBits size)) : Place → Gen β Unit
  | .dreg r => modifyCpu fun g => g.setD r (replaceLow (g.d r) v)
  | .mem addr => writeSize size addr v

/-- The destination operand of NEGX. -/
def unaryOperand (ea : NgM68kEa) (size : BitVec 8) :
    Gen β (ExtendOperands (ngSizeBits size)) := do
  if ea.mode = .dreg then
    let r := regIndex ea.reg
    pure ⟨((← getCpu).d r).setWidth _, 0, .dreg r⟩
  else
    match emitEaAddress ea size with
    | some ad =>
        let addr := (← ad) (← getCpu)
        pure ⟨← readSize size addr, 0, .mem addr⟩
    | none => pure ⟨0, 0, .dreg 0⟩

/-- The operand pair of ADDX and SUBX: two data registers, or two predecremented addresses of which
the source is read first. -/
def pairOperands (src dst : NgM68kEa) (size : BitVec 8) :
    Gen β (ExtendOperands (ngSizeBits size)) := do
  if dst.mode = .dreg then
    let g ← getCpu
    let r := regIndex dst.reg
    pure ⟨(g.d r).setWidth _, (g.d (regIndex src.reg)).setWidth _, .dreg r⟩
  else
    stepDown src size
    let srcAddr := (← getCpu).a (regIndex src.reg)
    stepDown dst size
    let dstAddr := (← getCpu).a (regIndex dst.reg)
    let s ← readSize size srcAddr
    let d ← readSize size dstAddr
    pure ⟨d, s, .mem dstAddr⟩

/-- The operands of ADDX, SUBX and NEGX. -/
def extendOperands (instr : NgM68kInstr) : Gen β (ExtendOperands (ngSizeBits instr.size)) :=
  if instr.mnemonic = .negx then unaryOperand instr.dst instr.size
  else pairOperands instr.src instr.dst instr.size

/-- Fetch, compute with the current X, store and set the flags; `overflow` gives V. -/
def extendReference {size : BitVec 8}
    (overflow : BitVec (ngSizeBits size) → BitVec (ngSizeBits size) → Bool → Bool)
    (mn : NgM68kMnemonic) (operands : Gen β (ExtendOperands (ngSizeBits size))) : Gen β Unit := do
  let o ← operands
  let x := flagX (← getCpu).sr
  o.place.store size (extendResult mn o.dst o.src x)
  modifyCpu fun g => g.setSr ((extendCcr mn o.dst o.src x (overflow o.dst o.src x) g.sr).put g.sr)

end Abi

end NeoRecomp
