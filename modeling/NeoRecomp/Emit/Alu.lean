import NeoRecomp.Emit.Operands

/-!
# Emitted arithmetic

The emitter routines for ADD, SUB, CMP and their variants.  Operands are C variables of the operand
type; C promotes them to 32 bits before `-`, `^`, `&` and `~`, and the sums are taken in 64 bits, so
the expressions are written at those widths.
-/

namespace NeoRecomp

open Gen

/-- Text printed by an emitter routine, and whether the routine returned 1. -/
inductive Emission (β : Type)
  | emitted (text : Gen β Unit)
  | failed (text : Gen β Unit)

/-- A routine that returned 0 before printing anything. -/
def Emission.rejected {β : Type} : Emission β := .failed (pure ())

/-! ## Flag statements -/

/-- Promotion of an operand to 32 bits. -/
def promote {w : Nat} (v : BitVec w) : BitVec 32 := v.setWidth 32

/-- `(value & sign_mask) != 0`. -/
def signSet (size : BitVec 8) (value : BitVec 32) : Bool := value &&& ngSignMask size != 0

/-- The Z and N statements after the flags in `~keep` were cleared. -/
def zeroNegFlags (size : BitVec 8) (keep : BitVec 16) (result : BitVec (ngSizeBits size))
    (sr : BitVec 16) : BitVec 16 :=
  orIf (signSet size (promote result)) ngCcrN (orIf (result == 0) ngCcrZ (sr &&& keep))

/-- The flag statements of ADD, ADDQ and ADDI. -/
def addFlags (size : BitVec 8) (src dst result : BitVec (ngSizeBits size)) (full : BitVec 64)
    (sr : BitVec 16) : BitVec 16 :=
  orIf (signSet size
      (~~~(promote dst ^^^ promote src) &&& (promote dst ^^^ promote result))) ngCcrV
    (orIf (full > (ngValueMask size).setWidth 64) (ngCcrC ||| ngCcrX)
      (zeroNegFlags size 0xFFE0 result sr))

/-- The flag statements of the subtracting instructions: `keep` and `carry` tell SUB (which also
sets X) from CMP (which keeps it). -/
def subtractFlags (size : BitVec 8) (keep carry : BitVec 16)
    (src dst result : BitVec (ngSizeBits size)) (sr : BitVec 16) : BitVec 16 :=
  orIf (signSet size
      ((promote dst ^^^ promote src) &&& (promote dst ^^^ promote result))) ngCcrV
    (orIf (src > dst) carry (zeroNegFlags size keep result sr))

def subFlags (size : BitVec 8) := subtractFlags size 0xFFE0 (ngCcrC ||| ngCcrX)
def cmpFlags (size : BitVec 8) := subtractFlags size 0xFFF0 ngCcrC

/-- `uint64_t ng_full = (uint64_t)ng_dst + (uint64_t)ng_src;` -/
def addFull {w : Nat} (dst src : BitVec w) : BitVec 64 := dst.setWidth 64 + src.setWidth 64

/-- `(ctype)(ng_dst - ng_src)`. -/
def subResult {w : Nat} (dst src : BitVec w) : BitVec w := (promote dst - promote src).setWidth w

/-- `g_ng_m68k.sr & NG_CCR_X ? 1u : 0u`. -/
def extendBit (sr : BitVec 16) : BitVec 8 := if srHas sr ngCcrX then 1 else 0

section Abi
variable {β : Type} [GeneratedAbi β]

/-- The sum or difference of an adding or subtracting instruction, its store and its flags, once
both operands are in variables. -/
def addStatements (size : BitVec 8) (src dst : BitVec (ngSizeBits size))
    (store : BitVec (ngSizeBits size) → Gen β Unit) : Gen β Unit := do
  let full := addFull dst src
  let result := full.setWidth (ngSizeBits size)
  store result
  modifyCpu fun g => g.setSr (addFlags size src dst result full g.sr)

def subStatements (size : BitVec 8) (src dst : BitVec (ngSizeBits size))
    (store : BitVec (ngSizeBits size) → Gen β Unit) : Gen β Unit := do
  let result := subResult dst src
  store result
  modifyCpu fun g => g.setSr (subFlags size src dst result g.sr)

def cmpStatements (size : BitVec 8) (src dst : BitVec (ngSizeBits size)) : Gen β Unit :=
  modifyCpu fun g => g.setSr (cmpFlags size src dst (subResult dst src) g.sr)

/-- ADD-like or SUB-like statements, by mnemonic. -/
def addOrSubStatements (isAdd : Bool) (size : BitVec 8) (src dst : BitVec (ngSizeBits size))
    (store : BitVec (ngSizeBits size) → Gen β Unit) : Gen β Unit :=
  if isAdd then addStatements size src dst store else subStatements size src dst store

/-- `emit_ea_write(out, &instr->dst, size, "ng_result")` on a data register. -/
def storeDreg (reg size : BitVec 8) (result : BitVec (ngSizeBits size)) : Gen β Unit :=
  modifyCpu fun g => writeDreg reg size (promote result) g

/-- Code of a read-modify-write instruction on the destination: the data register is read and
written in place, a memory operand goes through one address expression used twice. -/
def emitRmw (ea : NgM68kEa) (size : BitVec 8)
    (body : BitVec (ngSizeBits size) → (BitVec (ngSizeBits size) → Gen β Unit) → Gen β Unit) :
    Emission β :=
  if ea.mode = .dreg then
    match emitEaRead ea size with
    | none => .rejected
    | some rd => .emitted do
        let e ← rd
        let dst := castSize size (e (← getCpu))
        body dst (storeDreg ea.reg size)
  else
    match emitEaAddress ea size with
    | none => .rejected
    | some ad => .emitted do
        let addr ← ad
        let dst ← readSize size (addr (← getCpu))
        body dst fun result => do writeSize size (addr (← getCpu)) result

/-- `emit_quick_generic`. -/
def emitQuickGeneric (instr : NgM68kInstr) : Emission β :=
  if instr.dst.mode = .none then .rejected
  else if instr.dst.mode = .areg then
    let r := regIndex instr.dst.reg
    if instr.mnemonic = .addq then
      .emitted (modifyCpu fun g => g.setA r (g.a r + instr.immediate))
    else
      .emitted (modifyCpu fun g => g.setA r (g.a r - instr.immediate))
  else
    emitRmw instr.dst instr.size fun dst store =>
      addOrSubStatements (instr.mnemonic = .addq) instr.size (castSize instr.size instr.immediate)
        dst store

/-- `emit_arith_imm_generic`. -/
def emitArithImmGeneric (instr : NgM68kInstr) : Emission β :=
  if instr.dst.mode = .none then .rejected
  else
    emitRmw instr.dst instr.size fun dst store =>
      addOrSubStatements (instr.mnemonic = .addi) instr.size
        (castSize instr.size (instr.immediate &&& ngValueMask instr.size)) dst store

/-- `emit_cmpi_generic`. -/
def emitCmpiGeneric (instr : NgM68kInstr) : Emission β :=
  if instr.dst.mode = .none then .rejected
  else
    match emitEaRead instr.dst instr.size with
    | none => .rejected
    | some rd => .emitted do
        let e ← rd
        let src := castSize instr.size (instr.immediate &&& ngValueMask instr.size)
        let dst := castSize instr.size (e (← getCpu))
        cmpStatements instr.size src dst

/-- `emit_cmpm`. -/
def emitCmpm (instr : NgM68kInstr) : Emission β :=
  if instr.mnemonic ≠ .cmpm ∨ instr.src.mode ≠ .apost ∨ instr.dst.mode ≠ .apost then .rejected
  else .emitted do
    let srcAddr := aregAddr instr.src (← getCpu)
    stepUp instr.src instr.size
    let dstAddr := aregAddr instr.dst (← getCpu)
    stepUp instr.dst instr.size
    let src ← readSize instr.size srcAddr
    let dst ← readSize instr.size dstAddr
    cmpStatements instr.size src dst

/-- The NEG result and flags. -/
def negStatements (size : BitVec 8) (value : BitVec (ngSizeBits size))
    (store : BitVec (ngSizeBits size) → Gen β Unit) : Gen β Unit := do
  let result := (0 - promote value).setWidth (ngSizeBits size)
  store result
  modifyCpu fun g => g.setSr
    (orIf (promote value == (ngSignMask size &&& ngValueMask size)) ngCcrV
      (orIf (value != 0) (ngCcrC ||| ngCcrX) (zeroNegFlags size 0xFFE0 result g.sr)))

/-- The sticky Z and the N statement of the extended instructions, on the copy `ng_sr`. -/
def stickyZeroNegFlags (size : BitVec 8) (result : BitVec (ngSizeBits size)) (sr : BitVec 16) :
    BitVec 16 :=
  let sr := sr &&& 0xFFE4
  let sr := if result != 0 then sr &&& ~~~ngCcrZ else sr
  orIf (signSet size (promote result)) ngCcrN sr

/-- The NEGX result and flags; `x` is read before the result is stored. -/
def negxStatements (size : BitVec 8) (value : BitVec (ngSizeBits size))
    (store : BitVec (ngSizeBits size) → Gen β Unit) : Gen β Unit := do
  let x := extendBit (← getCpu).sr
  let src := ((promote value + promote x) &&& ngValueMask size).setWidth (ngSizeBits size)
  let result := (0 - promote value - promote x).setWidth (ngSizeBits size)
  store result
  modifyCpu fun g => g.setSr
    (orIf (signSet size (promote src &&& promote result)) ngCcrV
      (orIf (value != 0 || x != 0) (ngCcrC ||| ngCcrX) (stickyZeroNegFlags size result g.sr)))

/-- The NOT result and flags. -/
def notStatements (size : BitVec 8) (value : BitVec (ngSizeBits size))
    (store : BitVec (ngSizeBits size) → Gen β Unit) : Gen β Unit := do
  let result := (~~~(promote value)).setWidth (ngSizeBits size)
  store result
  emitSetNzForSize size (CExpr.var result)

/-- `emit_unary_rmw_generic`. -/
def emitUnaryRmwGeneric (instr : NgM68kInstr) : Emission β :=
  if instr.dst.mode = .none then .rejected
  else
    emitRmw instr.dst instr.size fun value store =>
      if instr.mnemonic = .not then notStatements instr.size value store
      else if instr.mnemonic = .negx then negxStatements instr.size value store
      else negStatements instr.size value store

/-- `(uint32_t)(int32_t)(int16_t)(expr)` for word sources, `(uint32_t)(expr)` otherwise. -/
def addressSource (size : BitVec 8) (v : BitVec 32) : BitVec 32 :=
  if size = 2 then (v.setWidth 16).signExtend 32 else v

/-- `emit_alu_address_reg`: ADDA, SUBA and CMPA. -/
def emitAluAddressReg (instr : NgM68kInstr) : Emission β :=
  let r := regIndex instr.dst.reg
  if instr.src.mode = .none ∨ instr.dst.mode ≠ .areg ∨
      (instr.mnemonic ≠ .adda ∧ instr.mnemonic ≠ .suba ∧ instr.mnemonic ≠ .cmpa) then .rejected
  else
    match emitEaRead instr.src instr.size with
    | none => .rejected
    | some rd => .emitted do
        let e ← rd
        let src := addressSource instr.size (e (← getCpu))
        if instr.mnemonic = .adda then modifyCpu fun g => g.setA r (g.a r + src)
        else if instr.mnemonic = .suba then modifyCpu fun g => g.setA r (g.a r - src)
        else modifyCpu fun g =>
          g.setSr (cmpFlags 4 src (g.a r) (subResult (g.a r) src) g.sr)

/-- `emit_alu_dreg_to_ea`: ADD and SUB with a memory destination. -/
def emitAluDregToEa (instr : NgM68kInstr) : Emission β :=
  if (instr.mnemonic ≠ .add ∧ instr.mnemonic ≠ .sub) ∨ instr.src.mode ≠ .dreg ∨
      instr.dst.mode = .none ∨ instr.dst.mode = .dreg ∨ instr.dst.mode = .areg then .rejected
  else
    match emitEaRead instr.src instr.size, emitEaAddress instr.dst instr.size with
    | some rd, some ad => .emitted do
        let e ← rd
        let addr ← ad
        let src := castSize instr.size (e (← getCpu))
        let dst ← readSize instr.size (addr (← getCpu))
        addOrSubStatements (instr.mnemonic = .add) instr.size src dst fun result => do
          writeSize instr.size (addr (← getCpu)) result
    | _, _ => .rejected

/-- `emit_alu_ea_to_dreg`: ADD, SUB and CMP with a data-register destination. -/
def emitAluEaToDreg (instr : NgM68kInstr) : Emission β :=
  if instr.src.mode = .none ∨ instr.dst.mode ≠ .dreg then .rejected
  else
    match emitEaRead instr.src instr.size with
    | none => .rejected
    | some rd =>
        let operands (body : BitVec (ngSizeBits instr.size) → BitVec (ngSizeBits instr.size) →
            Gen β Unit) : Gen β Unit := do
          let e ← rd
          let src := castSize instr.size (e (← getCpu))
          let dst := castSize instr.size
            ((← getCpu).d (regIndex instr.dst.reg) &&& ngValueMask instr.size)
          body src dst
        if instr.mnemonic = .add then
          .emitted (operands fun src dst =>
            addStatements instr.size src dst (storeDreg instr.dst.reg instr.size))
        else if instr.mnemonic = .sub then
          .emitted (operands fun src dst =>
            subStatements instr.size src dst (storeDreg instr.dst.reg instr.size))
        else if instr.mnemonic = .cmp then
          .emitted (operands fun src dst => cmpStatements instr.size src dst)
        else
          -- The source expression has been printed by then.
          .failed (do let _ ← rd)

/-- The ADDX result and flags. -/
def addxStatements (size : BitVec 8) (src dst : BitVec (ngSizeBits size)) (x : BitVec 8)
    (store : BitVec (ngSizeBits size) → Gen β Unit) : Gen β Unit := do
  let full : BitVec 64 := dst.setWidth 64 + src.setWidth 64 + x.setWidth 64
  let result := full.setWidth (ngSizeBits size)
  store result
  modifyCpu fun g => g.setSr
    (orIf (signSet size
        (~~~(promote dst ^^^ promote src) &&& (promote dst ^^^ promote result))) ngCcrV
      (orIf (full > (ngValueMask size).setWidth 64) (ngCcrC ||| ngCcrX)
        (stickyZeroNegFlags size result g.sr)))

/-- The SUBX result and flags.  The overflow test uses `src + x` cut to the operand size. -/
def subxStatements (size : BitVec 8) (src dst : BitVec (ngSizeBits size)) (x : BitVec 8)
    (store : BitVec (ngSizeBits size) → Gen β Unit) : Gen β Unit := do
  let srcFull : BitVec 64 := src.setWidth 64 + x.setWidth 64
  let srcV := (srcFull &&& (ngValueMask size).setWidth 64).setWidth (ngSizeBits size)
  let result := (dst.setWidth 64 - srcFull).setWidth (ngSizeBits size)
  store result
  modifyCpu fun g => g.setSr
    (orIf (signSet size
        ((promote dst ^^^ promote srcV) &&& (promote dst ^^^ promote result))) ngCcrV
      (orIf (srcFull > dst.setWidth 64) (ngCcrC ||| ngCcrX)
        (stickyZeroNegFlags size result g.sr)))

/-- `g_ng_m68k.d[reg] = (g_ng_m68k.d[reg] & keep) | (uint32_t)(ng_result & mask);` -/
def storeDregMasked (reg size : BitVec 8) (result : BitVec (ngSizeBits size)) : Gen β Unit :=
  modifyCpu fun g => g.setD (regIndex reg)
    ((g.d (regIndex reg) &&& ngDregKeepMask size) ||| (promote result &&& ngValueMask size))

/-- `emit_addsubx`. -/
def emitAddsubx (instr : NgM68kInstr) : Emission β :=
  let statements (src dst : BitVec (ngSizeBits instr.size)) (x : BitVec 8)
      (store : BitVec (ngSizeBits instr.size) → Gen β Unit) : Gen β Unit :=
    if instr.mnemonic = .subx then subxStatements instr.size src dst x store
    else addxStatements instr.size src dst x store
  if instr.mnemonic ≠ .addx ∧ instr.mnemonic ≠ .subx then .rejected
  else if instr.src.mode = .dreg ∧ instr.dst.mode = .dreg then
    .emitted do
      let g ← getCpu
      let src := castSize instr.size (g.d (regIndex instr.src.reg) &&& ngValueMask instr.size)
      let dst := castSize instr.size (g.d (regIndex instr.dst.reg) &&& ngValueMask instr.size)
      statements src dst (extendBit g.sr) (storeDregMasked instr.dst.reg instr.size)
  else if instr.src.mode = .apre ∧ instr.dst.mode = .apre then
    .emitted do
      stepDown instr.src instr.size
      let srcAddr := aregAddr instr.src (← getCpu)
      stepDown instr.dst instr.size
      let dstAddr := aregAddr instr.dst (← getCpu)
      let src ← readSize instr.size srcAddr
      let dst ← readSize instr.size dstAddr
      let x := extendBit (← getCpu).sr
      statements src dst x (writeSize instr.size dstAddr)
  else .rejected

end Abi

end NeoRecomp
