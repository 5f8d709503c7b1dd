import NeoRecomp.Emit.Helpers
import NeoRecomp.Instr

/-!
# Operand access in emitted code

A C expression printed into the text is evaluated where it stands, so it is kept as a function of
the CPU record (`CExpr`); a memory operand is read once into a temporary, whose expression no longer
depends on the CPU.  The functions return `none` where the source returns 0, which it does before
printing anything.
-/

namespace NeoRecomp

open Gen

/-! ## Operand sizes -/

/-- `ng_size_bits`, the width of `ng_ctype_for_size`. -/
def ngSizeBits (size : BitVec 8) : Nat := if size = 4 then 32 else if size = 1 then 8 else 16

/-- `ng_value_mask`. -/
def ngValueMask (size : BitVec 8) : BitVec 32 :=
  if size = 4 then 0xFFFFFFFF else if size = 1 then 0x000000FF else 0x0000FFFF

/-- `ng_dreg_keep_mask`. -/
def ngDregKeepMask (size : BitVec 8) : BitVec 32 :=
  if size = 4 then 0x00000000 else if size = 1 then 0xFFFFFF00 else 0xFFFF0000

/-- `ng_sign_mask`. -/
def ngSignMask (size : BitVec 8) : BitVec 32 :=
  if size = 4 then 0x80000000 else if size = 1 then 0x00000080 else 0x00008000

/-- `ng_ea_step_bytes`: byte accesses through A7 move it by two. -/
def ngEaStepBytes (ea : NgM68kEa) (size : BitVec 8) : BitVec 32 :=
  if ea.reg = 7 ∧ size = 1 then 2 else size.setWidth 32

/-- A C expression over the CPU record, zero-extended to 32 bits. -/
abbrev CExpr : Type := NgM68kState → BitVec 32

/-- A value held in a C variable. -/
def CExpr.var {w : Nat} (v : BitVec w) : CExpr := fun _ => v.setWidth 32

/-- `(ctype)(expr)` for the operand size. -/
def castSize (size : BitVec 8) (v : BitVec 32) : BitVec (ngSizeBits size) :=
  v.setWidth (ngSizeBits size)

/-- `ng_format_index_expr`. -/
def ngFormatIndexExpr (ea : NgM68kEa) : CExpr := fun g =>
  let r := if ea.indexIsAddr ≠ 0 then g.a (regIndex ea.indexReg) else g.d (regIndex ea.indexReg)
  if ea.indexIsLong ≠ 0 then r else (r.setWidth 16).signExtend 32

section Abi
variable {β : Type} [GeneratedAbi β]

/-- The read function of `ng_read_fn_for_size`. -/
def readSize (size : BitVec 8) (addr : BitVec 32) : Gen β (BitVec (ngSizeBits size)) :=
  if size = 4 then (fun v => v.setWidth _) <$> read32 addr
  else if size = 1 then (fun v => v.setWidth _) <$> read8 addr
  else (fun v => v.setWidth _) <$> read16 addr

/-- The write function of `ng_write_fn_for_size`. -/
def writeSize (size : BitVec 8) (addr : BitVec 32) (v : BitVec (ngSizeBits size)) : Gen β Unit :=
  if size = 4 then write32 addr (v.setWidth 32)
  else if size = 1 then write8 addr (v.setWidth 8)
  else write16 addr (v.setWidth 16)

/-- `g_ng_m68k.a[reg] += step;` -/
def stepUp (ea : NgM68kEa) (size : BitVec 8) : Gen β Unit :=
  modifyCpu fun g => g.setA (regIndex ea.reg) (g.a (regIndex ea.reg) + ngEaStepBytes ea size)

/-- `g_ng_m68k.a[reg] -= step;` -/
def stepDown (ea : NgM68kEa) (size : BitVec 8) : Gen β Unit :=
  modifyCpu fun g => g.setA (regIndex ea.reg) (g.a (regIndex ea.reg) - ngEaStepBytes ea size)

/-! ## Addresses -/

/-- The address expressions that `emit_ea_read`, `emit_ea_write`, `emit_ea_address` and
`emit_ea_address_value` print for the address-register modes. -/
def aregAddr (ea : NgM68kEa) : CExpr := fun g => g.a (regIndex ea.reg)

def aregDispAddr (ea : NgM68kEa) : CExpr := fun g =>
  g.a (regIndex ea.reg) + ea.displacement.signExtend 32

def aregIndexAddr (ea : NgM68kEa) : CExpr := fun g =>
  g.a (regIndex ea.reg) + ngFormatIndexExpr ea g + ea.displacement.signExtend 32

/-- Read through an address expression into a temporary of the operand's type. -/
def readThrough (size : BitVec 8) (addr : CExpr) : Gen β CExpr := do
  let v ← readSize size (addr (← getCpu))
  pure (CExpr.var v)

/-- `emit_ea_read`: code that prepares the operand, and the expression that stands for it. -/
def emitEaRead (ea : NgM68kEa) (size : BitVec 8) : Option (Gen β CExpr) :=
  match ea.mode with
  | .dreg => some (pure fun g =>
      if size = 4 then g.d (regIndex ea.reg) else g.d (regIndex ea.reg) &&& ngValueMask size)
  | .areg => some (pure fun g => g.a (regIndex ea.reg))
  | .aind => some (readThrough size (aregAddr ea))
  | .apost => some do
      let e ← readThrough size (aregAddr ea)
      stepUp ea size
      pure e
  | .apre => some do
      stepDown ea size
      readThrough size (aregAddr ea)
  | .adisp => some (readThrough size (aregDispAddr ea))
  | .absW | .absL | .pcDisp =>
      some (readThrough size fun _ => ea.absoluteAddr &&& 0x00FFFFFF)
  | .aindex => some (readThrough size (aregIndexAddr ea))
  | .pcIndex =>
      some (readThrough size fun g => (ea.absoluteAddr &&& 0x00FFFFFF) + ngFormatIndexExpr ea g)
  | .imm => some (pure fun _ => ea.immediate &&& ngValueMask size)
  | .none => none

/-- `g_ng_m68k.d[reg]` with its low part replaced, as `emit_ea_write` prints it. -/
def writeDreg (reg size : BitVec 8) (v : BitVec 32) (g : NgM68kState) : NgM68kState :=
  g.setD (regIndex reg)
    (if size = 4 then v
     else (g.d (regIndex reg) &&& ngDregKeepMask size) ||| (castSize size v).setWidth 32)

/-- Write an expression through an address expression; both are evaluated here. -/
def writeThrough (size : BitVec 8) (addr : CExpr) (e : CExpr) : Gen β Unit := do
  let g ← getCpu
  writeSize size (addr g) (castSize size (e g))

/-- `emit_ea_write`. -/
def emitEaWrite (ea : NgM68kEa) (size : BitVec 8) : Option (CExpr → Gen β Unit) :=
  match ea.mode with
  | .dreg => some fun e => modifyCpu fun g => writeDreg ea.reg size (e g) g
  | .areg => some fun e => modifyCpu fun g => g.setA (regIndex ea.reg) (e g)
  | .aind => some fun e => writeThrough size (aregAddr ea) e
  | .apost => some fun e => do
      writeThrough size (aregAddr ea) e
      stepUp ea size
  | .apre => some fun e => do
      -- The value is taken before the register moves.
      let v := castSize size (e (← getCpu))
      stepDown ea size
      writeSize size (aregAddr ea (← getCpu)) v
  | .adisp => some fun e => writeThrough size (aregDispAddr ea) e
  | .absW | .absL => some fun e => writeThrough size (fun _ => ea.absoluteAddr &&& 0x00FFFFFF) e
  | .aindex => some fun e => writeThrough size (aregIndexAddr ea) e
  | .none | .pcDisp | .pcIndex | .imm => none

/-- `emit_ea_address`: code that prepares the address, and its expression. -/
def emitEaAddress (ea : NgM68kEa) (size : BitVec 8) : Option (Gen β CExpr) :=
  match ea.mode with
  | .aind => some (pure (aregAddr ea))
  | .apost => some do
      let addr := aregAddr ea (← getCpu)
      stepUp ea size
      pure (CExpr.var addr)
  | .apre => some do
      stepDown ea size
      pure (aregAddr ea)
  | .adisp => some (pure (aregDispAddr ea))
  | .absW | .absL => some (pure fun _ => ea.absoluteAddr &&& 0x00FFFFFF)
  | .aindex => some (pure (aregIndexAddr ea))
  | .none | .dreg | .areg | .pcDisp | .pcIndex | .imm => none

/-- `emit_ea_address_value`: an address without side effects.  Absolute addresses keep all 32
bits here. -/
def emitEaAddressValue (ea : NgM68kEa) : Option CExpr :=
  match ea.mode with
  | .aind => some (aregAddr ea)
  | .adisp => some (aregDispAddr ea)
  | .aindex => some (aregIndexAddr ea)
  | .absW | .absL | .pcDisp => some fun _ => ea.absoluteAddr
  | .pcIndex => some fun g => ea.absoluteAddr + ngFormatIndexExpr ea g
  | .none | .dreg | .areg | .apost | .apre | .imm => none

/-- `emit_set_nz_for_size`. -/
def emitSetNzForSize (size : BitVec 8) (e : CExpr) : Gen β Unit :=
  modifyCpu fun g => g.setSr (ngSetNz (castSize size (e g)) g.sr)

end Abi

end NeoRecomp
