import NeoRecomp.Emit.Operands

/-!
# Operands and condition codes

The reference instructions take their operands by addressing mode: a register, or memory at one
address, with the address registers of `-(An)` and `(An)+` operands stepping around their own
access.  What they find out goes into the five condition codes.
-/

namespace NeoRecomp

open Gen

/-! ## Condition codes -/

/-- The condition codes X, N, Z, V and C. -/
structure Ccr where
  x : Bool
  n : Bool
  z : Bool
  v : Bool
  c : Bool
  deriving DecidableEq, Repr

/-- The status register with its five condition codes replaced. -/
def Ccr.put (f : Ccr) (sr : BitVec 16) : BitVec 16 :=
  sr.extractLsb' 5 11 ++ BitVec.ofBool f.x ++ BitVec.ofBool f.n ++ BitVec.ofBool f.z ++
    BitVec.ofBool f.v ++ BitVec.ofBool f.c

/-- The X flag of a status register. -/
def flagX (sr : BitVec 16) : Bool := sr.getLsbD 4

/-- The Z flag of a status register. -/
def flagZ (sr : BitVec 16) : Bool := sr.getLsbD 2

/-- The V flag of a status register. -/
def flagV (sr : BitVec 16) : Bool := sr.getLsbD 1

/-- The C flag of a status register. -/
def flagC (sr : BitVec 16) : Bool := sr.getLsbD 0

theorem Ccr.getLsbD_put (f : Ccr) (sr : BitVec 16) (i : Nat) :
    (f.put sr).getLsbD i =
      if i = 0 then f.c else if i = 1 then f.v else if i = 2 then f.z else if i = 3 then f.n
      else if i = 4 then f.x else sr.getLsbD i := by
  simp only [Ccr.put, BitVec.getLsbD_append, BitVec.getLsbD_ofBool, BitVec.getLsbD_extractLsb']
  match i with
  | 0 | 1 | 2 | 3 | 4 => simp
  | i + 5 =>
    simp only [Nat.add_one_sub_one, Nat.add_eq_zero_iff]
    by_cases h : i < 11
    · simp [h, Nat.add_comm 5 i]
    · simp [h, BitVec.getLsbD_of_ge sr (i + 5) (by omega)]

@[simp] theorem flagX_put (f : Ccr) (sr : BitVec 16) : flagX (f.put sr) = f.x := by
  rw [flagX, Ccr.getLsbD_put]; rfl

@[simp] theorem flagZ_put (f : Ccr) (sr : BitVec 16) : flagZ (f.put sr) = f.z := by
  rw [flagZ, Ccr.getLsbD_put]; rfl

@[simp] theorem flagV_put (f : Ccr) (sr : BitVec 16) : flagV (f.put sr) = f.v := by
  rw [flagV, Ccr.getLsbD_put]; rfl

@[simp] theorem flagC_put (f : Ccr) (sr : BitVec 16) : flagC (f.put sr) = f.c := by
  rw [flagC, Ccr.getLsbD_put]; rfl

/-! ## Operands -/

/-- A register with its low `w` bits replaced. -/
def replaceLow {w : Nat} (old : BitVec 32) (v : BitVec w) : BitVec 32 :=
  BitVec.ofNat 32 (old.toNat / 2 ^ w * 2 ^ w + v.toNat)

/-- The address of a memory operand. -/
def operandAddr (ea : NgM68kEa) (g : NgM68kState) : BitVec 32 :=
  match ea.mode with
  | .adisp => g.a (regIndex ea.reg) + ea.displacement.signExtend 32
  | .aindex => g.a (regIndex ea.reg) + ngFormatIndexExpr ea g + ea.displacement.signExtend 32
  | .absW | .absL | .pcDisp => ea.absoluteAddr &&& 0x00FFFFFF
  | .pcIndex => (ea.absoluteAddr &&& 0x00FFFFFF) + ngFormatIndexExpr ea g
  | _ => g.a (regIndex ea.reg)

section Abi
variable {β : Type} [GeneratedAbi β]

/-- An access to a memory operand, with the register steps of its mode. -/
def accessMemory {α : Type} (ea : NgM68kEa) (size : BitVec 8) (access : BitVec 32 → Gen β α) :
    Gen β α := do
  if ea.mode = .apre then stepDown ea size
  let out ← access (operandAddr ea (← getCpu))
  if ea.mode = .apost then stepUp ea size
  pure out

/-- The value of an operand. -/
def moveSource (ea : NgM68kEa) (size : BitVec 8) : Gen β (BitVec (ngSizeBits size)) :=
  match ea.mode with
  | .dreg => do pure (castSize size ((← getCpu).d (regIndex ea.reg)))
  | .areg => do pure (castSize size ((← getCpu).a (regIndex ea.reg)))
  | .imm => pure (castSize size ea.immediate)
  | _ => accessMemory ea size (readSize size)

/-- Replace an operand. -/
def moveDestination (ea : NgM68kEa) (size : BitVec 8) (v : BitVec (ngSizeBits size)) :
    Gen β Unit :=
  if ea.mode = .dreg then
    modifyCpu fun g => g.setD (regIndex ea.reg) (replaceLow (g.d (regIndex ea.reg)) v)
  else accessMemory ea size fun addr => writeSize size addr v

/-- Replace an operand by a function of its value, and set the condition codes that go with it.  A
memory operand is read and written once, at one address. -/
def alterOperand (ea : NgM68kEa) (size : BitVec 8)
    (f : BitVec (ngSizeBits size) → BitVec (ngSizeBits size) × (BitVec 16 → Ccr)) :
    Gen β Unit :=
  if ea.mode = .dreg then
    modifyCpu fun g =>
      let r := regIndex ea.reg
      let out := f ((g.d r).setWidth _)
      (g.setD r (replaceLow (g.d r) out.1)).setSr ((out.2 g.sr).put g.sr)
  else do
    let ccr ← accessMemory ea size fun addr => do
      let out := f (← readSize size addr)
      writeSize size addr out.1
      pure out.2
    modifyCpu fun g => g.setSr ((ccr g.sr).put g.sr)

end Abi

end NeoRecomp
