import NeoRecomp.Emit.Alu

/-!
# Emitted moves and status-register accesses
-/

namespace NeoRecomp

open Gen

section Abi
variable {β : Type} [GeneratedAbi β]

/-- `emit_move_generic`.  The source expression is printed twice: into the store and into the flag
statement, where it is evaluated again. -/
def emitMoveGeneric (instr : NgM68kInstr) : Emission β :=
  if instr.src.mode = .none ∨ instr.dst.mode = .none then .rejected
  else
    match emitEaRead instr.src instr.size, emitEaWrite instr.dst instr.size with
    | none, _ => .rejected
    | some rd, none => .failed (do let _ ← rd)
    | some rd, some wr => .emitted do
        let e ← rd
        wr e
        emitSetNzForSize instr.size e

/-- `emit_movea_generic`. -/
def emitMoveaGeneric (instr : NgM68kInstr) : Emission β :=
  if instr.src.mode = .none ∨ instr.dst.mode ≠ .areg then .rejected
  else
    match emitEaRead instr.src instr.size with
    | none => .rejected
    | some rd => .emitted do
        let e ← rd
        modifyCpu fun g => g.setA (regIndex instr.dst.reg) (addressSource instr.size (e g))

/-- The registers of a MOVEM mask in the order the loops of `emit_movem` visit the bits. -/
def movemBits (mask : BitVec 16) : List Nat := (List.range 16).filter fun bit => mask.getLsbD bit

/-- Register number `i` of the forward order D0-D7, A0-A7. -/
def movemReg (g : NgM68kState) (i : Nat) : BitVec 32 :=
  if i < 8 then g.d (Fin.ofNat 8 i) else g.a (Fin.ofNat 8 (i - 8))

def setMovemReg (i : Nat) (v : BitVec 32) (g : NgM68kState) : NgM68kState :=
  if i < 8 then g.setD (Fin.ofNat 8 i) v else g.setA (Fin.ofNat 8 (i - 8)) v

/-- One predecrement store; bit `bit` of the mask names the registers backwards from A7. -/
def movemStoreDown (size : BitVec 8) (addr : BitVec 32) (bit : Nat) : Gen β (BitVec 32) := do
  let addr := addr - size.setWidth 32
  let g ← getCpu
  writeSize size addr (castSize size (movemReg g (15 - bit)))
  pure addr

/-- One store of the ascending order. -/
def movemStoreUp (size : BitVec 8) (addr : BitVec 32) (i : Nat) : Gen β (BitVec 32) := do
  let g ← getCpu
  writeSize size addr (castSize size (movemReg g i))
  pure (addr + size.setWidth 32)

/-- One load; word loads are sign-extended. -/
def movemLoad (size : BitVec 8) (addr : BitVec 32) (i : Nat) : Gen β (BitVec 32) := do
  let v ← readSize size addr
  let v := if size = 4 then v.setWidth 32 else (v.setWidth 16).signExtend 32
  modifyCpu (setMovemReg i v)
  pure (addr + size.setWidth 32)

/-- `emit_movem`. -/
def emitMovem (instr : NgM68kInstr) : Emission β :=
  let bits := movemBits (instr.immediate.setWidth 16)
  if instr.dst.mode ≠ .none then
    if instr.dst.mode = .apre then
      .emitted do
        let addr ← bits.foldlM (movemStoreDown instr.size) (aregAddr instr.dst (← getCpu))
        modifyCpu fun g => g.setA (regIndex instr.dst.reg) addr
    else
      match emitEaAddressValue instr.dst with
      | none => .rejected
      | some ad => .emitted do
          let _ ← bits.foldlM (movemStoreUp instr.size) (ad (← getCpu))
  else if instr.src.mode ≠ .none then
    if instr.src.mode = .apost then
      .emitted do
        let addr ← bits.foldlM (movemLoad instr.size) (aregAddr instr.src (← getCpu))
        modifyCpu fun g => g.setA (regIndex instr.src.reg) addr
    else
      match emitEaAddressValue instr.src with
      | none => .rejected
      | some ad => .emitted do
          let _ ← bits.foldlM (movemLoad instr.size) (ad (← getCpu))
  else .rejected

/-- `emit_movep`. -/
def emitMovep (instr : NgM68kInstr) : Emission β :=
  if instr.mnemonic ≠ .movep then .rejected
  else if instr.src.mode = .dreg ∧ instr.dst.mode = .adisp then
    .emitted do
      let g ← getCpu
      let addr := aregDispAddr instr.dst g
      let value := g.d (regIndex instr.src.reg)
      if instr.size = 4 then
        write8 addr ((value >>> 24).setWidth 8)
        write8 (addr + 2) ((value >>> 16).setWidth 8)
        write8 (addr + 4) ((value >>> 8).setWidth 8)
        write8 (addr + 6) (value.setWidth 8)
      else
        write8 addr ((value >>> 8).setWidth 8)
        write8 (addr + 2) (value.setWidth 8)
  else if instr.src.mode = .adisp ∧ instr.dst.mode = .dreg then
    .emitted do
      let addr := aregDispAddr instr.src (← getCpu)
      let r := regIndex instr.dst.reg
      if instr.size = 4 then
        let b0 ← read8 addr
        let b1 ← read8 (addr + 2)
        let b2 ← read8 (addr + 4)
        let b3 ← read8 (addr + 6)
        modifyCpu fun g => g.setD r (b0 ++ b1 ++ b2 ++ b3)
      else
        let b0 ← read8 addr
        let b1 ← read8 (addr + 2)
        modifyCpu fun g => g.setD r ((g.d r &&& 0xFFFF0000) ||| (b0 ++ b1).setWidth 32)
  else .rejected

/-- `emit_move_sr_ccr`. -/
def emitMoveSrCcr (instr : NgM68kInstr) : Emission β :=
  if instr.mnemonic ≠ .moveSr ∧ instr.mnemonic ≠ .moveCcr then .rejected
  else if instr.dst.mode ≠ .none then
    let value : CExpr := fun g =>
      if instr.mnemonic = .moveSr then g.sr.setWidth 32 else (g.sr &&& 0x001F).setWidth 32
    match emitEaWrite instr.dst 2 with
    | none => .rejected
    | some wr => .emitted (wr value)
  else if instr.src.mode ≠ .none then
    let privileged : Gen β Unit :=
      if instr.mnemonic = .moveSr then emitRequireSupervisor instr.addr else pure ()
    match emitEaRead instr.src 2 with
    | none => .failed privileged
    | some rd => .emitted do
        privileged
        let e ← rd
        if instr.mnemonic = .moveSr then modifyCpu fun g => ngSetSr ((e g).setWidth 16) g
        else modifyCpu fun g =>
          g.setSr ((g.sr &&& 0xFFE0) ||| ((e g).setWidth 16 &&& 0x001F))
  else .rejected

/-- `emit_immediate_to_sr_ccr`. -/
def emitImmediateToSrCcr (instr : NgM68kInstr) : Emission β :=
  let toCcr (op : BitVec 16 → BitVec 16 → BitVec 16) : Emission β :=
    .emitted (modifyCpu fun g => g.setSr
      ((g.sr &&& 0xFFE0) ||| (op g.sr (instr.immediate.setWidth 16 &&& 0xFF) &&& 0x001F)))
  let toSr (op : BitVec 16 → BitVec 16 → BitVec 16) : Emission β :=
    .emitted do
      emitRequireSupervisor instr.addr
      modifyCpu fun g => ngSetSr (op g.sr (instr.immediate.setWidth 16)) g
  match instr.mnemonic with
  | .oriToCcr => toCcr (· ||| ·)
  | .andiToCcr => toCcr (· &&& ·)
  | .eoriToCcr => toCcr (· ^^^ ·)
  | .oriToSr => toSr (· ||| ·)
  | .andiToSr => toSr (· &&& ·)
  | .eoriToSr => toSr (· ^^^ ·)
  | _ => .rejected

/-- `emit_exchange`. -/
def emitExchange (instr : NgM68kInstr) : Emission β :=
  let s := regIndex instr.src.reg
  let t := regIndex instr.dst.reg
  if instr.mnemonic ≠ .exg then .rejected
  else if instr.src.mode = .dreg ∧ instr.dst.mode = .dreg then
    .emitted (modifyCpu fun g => (g.setD s (g.d t)).setD t (g.d s))
  else if instr.src.mode = .areg ∧ instr.dst.mode = .areg then
    .emitted (modifyCpu fun g => (g.setA s (g.a t)).setA t (g.a s))
  else if instr.src.mode = .dreg ∧ instr.dst.mode = .areg then
    .emitted (modifyCpu fun g => (g.setD s (g.a t)).setA t (g.d s))
  else .rejected

end Abi

end NeoRecomp
