import NeoRecomp.Emit.Moves

/-!
# Emitted logic, bit, decimal, multiply and divide instructions
-/

namespace NeoRecomp

open Gen

section Abi
variable {β : Type} [GeneratedAbi β]

/-! ## Logic -/

/-- The operators of `ng_logic_operator` and `emit_logical_imm_generic`. -/
def logicOp (mnemonic : NgM68kMnemonic) (x y : BitVec 32) : BitVec 32 :=
  match mnemonic with
  | .and | .andi => x &&& y
  | .eor | .eori => x ^^^ y
  | _ => x ||| y

/-- Logic result, store and flags. -/
def logicStatements (mnemonic : NgM68kMnemonic) (size : BitVec 8)
    (src dst : BitVec (ngSizeBits size)) (store : BitVec (ngSizeBits size) → Gen β Unit) :
    Gen β Unit := do
  let result := castSize size (logicOp mnemonic (promote dst) (promote src))
  store result
  emitSetNzForSize size (CExpr.var result)

/-- `emit_logical_imm_generic`. -/
def emitLogicalImmGeneric (instr : NgM68kInstr) : Emission β :=
  if instr.dst.mode = .none then .rejected
  else
    emitRmw instr.dst instr.size fun dst store =>
      logicStatements instr.mnemonic instr.size
        (castSize instr.size (instr.immediate &&& ngValueMask instr.size)) dst store

/-- `emit_logic_binary_generic`. -/
def emitLogicBinaryGeneric (instr : NgM68kInstr) : Emission β :=
  if instr.src.mode = .none ∨ instr.dst.mode = .none ∨
      (instr.mnemonic ≠ .or ∧ instr.mnemonic ≠ .and ∧ instr.mnemonic ≠ .eor) then .rejected
  else
    match emitEaRead instr.src instr.size with
    | none => .rejected
    | some rd =>
        match (emitRmw (β := β) instr.dst instr.size fun _ _ => pure ()) with
        | .failed _ => .failed (do let _ ← rd)
        | .emitted _ => .emitted do
            -- The source operand is prepared before the destination address.
            let e ← rd
            if instr.dst.mode = .dreg then
              let g ← getCpu
              let src := castSize instr.size (e g)
              let dst := castSize instr.size
                (if instr.size = 4 then g.d (regIndex instr.dst.reg)
                 else g.d (regIndex instr.dst.reg) &&& ngValueMask instr.size)
              logicStatements instr.mnemonic instr.size src dst
                (storeDreg instr.dst.reg instr.size)
            else
              match emitEaAddress instr.dst instr.size with
              | none => pure ()
              | some ad =>
                  let addr ← ad
                  let src := castSize instr.size (e (← getCpu))
                  let dst ← readSize instr.size (addr (← getCpu))
                  logicStatements instr.mnemonic instr.size src dst fun result => do
                    writeSize instr.size (addr (← getCpu)) result

/-- `emit_tst_generic`. -/
def emitTstGeneric (instr : NgM68kInstr) : Emission β :=
  if instr.src.mode = .none then .rejected
  else
    match emitEaRead instr.src instr.size with
    | none => .rejected
    | some rd => .emitted do
        let e ← rd
        emitSetNzForSize instr.size e

/-- `emit_tas_generic`. -/
def emitTasGeneric (instr : NgM68kInstr) : Emission β :=
  if instr.dst.mode = .none ∨ instr.size ≠ 1 then .rejected
  else if instr.dst.mode = .dreg then
    let r := regIndex instr.dst.reg
    .emitted do
      let value := (((← getCpu).d r) &&& 0xFF).setWidth 8
      modifyCpu fun g => g.setSr (ngSetNz value g.sr)
      modifyCpu fun g => g.setD r ((g.d r &&& 0xFFFFFF00) ||| (value ||| 0x80).setWidth 32)
  else
    match emitEaAddress instr.dst 1 with
    | none => .rejected
    | some ad => .emitted do
        let e ← ad
        let addr := e (← getCpu)
        let value ← read8 addr
        modifyCpu fun g => g.setSr (ngSetNz value g.sr)
        write8 addr (value ||| 0x80)

/-! ## Bit operations -/

/-- `if ((ng_value & ng_mask) == 0) sr |= Z; else sr &= ~Z;` -/
def bitZeroFlag {w : Nat} (value mask : BitVec w) (sr : BitVec 16) : BitVec 16 :=
  if value &&& mask == 0 then sr ||| ngCcrZ else sr &&& ~~~ngCcrZ

/-- The changed operand of BCHG, BCLR and BSET; BTST writes nothing. -/
def bitResult {w : Nat} (mnemonic : NgM68kMnemonic) (value mask : BitVec w) : Option (BitVec w) :=
  match mnemonic with
  | .bchg => some (value ^^^ mask)
  | .bclr => some (value &&& ~~~mask)
  | .bset => some (value ||| mask)
  | _ => none

/-- The bit number of `emit_bit_imm_generic`: modulo 32 on a data register, modulo 8 in memory. -/
def bitNumber (instr : NgM68kInstr) (g : NgM68kState) : Nat :=
  let modulus : BitVec 32 := if instr.dst.mode = .dreg then 31 else 7
  if instr.src.mode = .dreg then (g.d (regIndex instr.src.reg) &&& modulus).toNat
  else (instr.immediate &&& modulus).toNat

/-- `emit_bit_imm_generic`. -/
def emitBitImmGeneric (instr : NgM68kInstr) : Emission β :=
  if instr.dst.mode = .none then .rejected
  else if instr.dst.mode = .dreg then
    let r := regIndex instr.dst.reg
    .emitted do
      let g ← getCpu
      let mask := (1 : BitVec 32) <<< bitNumber instr g
      let value := g.d r
      modifyCpu fun g => g.setSr (bitZeroFlag value mask g.sr)
      match bitResult instr.mnemonic value mask with
      | none => pure ()
      | some result => modifyCpu fun g => g.setD r result
  else if instr.mnemonic = .btst then
    match emitEaRead instr.dst 1 with
    | none => .rejected
    | some rd => .emitted do
        let e ← rd
        let g ← getCpu
        let mask := (1 : BitVec 8) <<< bitNumber instr g
        modifyCpu fun g' => g'.setSr (bitZeroFlag ((e g).setWidth 8) mask g'.sr)
  else
    match emitEaAddress instr.dst 1 with
    | none => .rejected
    | some ad => .emitted do
        let addr ← ad
        let g ← getCpu
        let mask := (1 : BitVec 8) <<< bitNumber instr g
        let value ← read8 (addr g)
        modifyCpu fun g => g.setSr (bitZeroFlag value mask g.sr)
        match bitResult instr.mnemonic value mask with
        | none => pure ()
        | some result => write8 (addr (← getCpu)) result

/-! ## Decimal arithmetic -/

/-- `((v >> 4) & 0x0F) * 10 + (v & 0x0F)` cut to a byte. -/
def bcdToByte (v : BitVec 8) : BitVec 8 := (v >>> 4) * 10 + (v &&& 0x0F)

/-- `((v / 10) << 4) | (v % 10)`. -/
def byteToBcd (v : BitVec 8) : BitVec 8 := ((v / 10) <<< 4) ||| (v % 10)

/-- The flags of ABCD, SBCD and NBCD. -/
def bcdFlags (result : BitVec 8) (borrow : Bool) (sr : BitVec 16) : BitVec 16 :=
  let sr := sr &&& 0xFFE4
  let sr := if result != 0 then sr &&& ~~~ngCcrZ else sr
  orIf borrow (ngCcrC ||| ngCcrX) (orIf (result &&& 0x80 != 0) ngCcrN sr)

/-- `g_ng_m68k.d[reg] = (g_ng_m68k.d[reg] & 0xFFFFFF00u) | (uint32_t)ng_result;` -/
def storeByteDreg (reg : BitVec 8) (result : BitVec 8) : Gen β Unit :=
  modifyCpu fun g => g.setD (regIndex reg)
    ((g.d (regIndex reg) &&& 0xFFFFFF00) ||| result.setWidth 32)

/-- `emit_nbcd_core`. -/
def emitNbcdCore (value : BitVec 8) (x : BitVec 8) (store : BitVec 8 → Gen β Unit) :
    Gen β Unit := do
  let decimal := bcdToByte value
  let borrow := decimal.setWidth 32 + x.setWidth 32 != 0
  let resultDecimal := ((100 - decimal.setWidth 32 - x.setWidth 32 : BitVec 32) % 100).setWidth 8
  let result := byteToBcd resultDecimal
  store result
  modifyCpu fun g => g.setSr (bcdFlags result borrow g.sr)

/-- `emit_nbcd_generic`. -/
def emitNbcdGeneric (instr : NgM68kInstr) : Emission β :=
  if instr.mnemonic ≠ .nbcd ∨ instr.dst.mode = .none ∨ instr.size ≠ 1 then .rejected
  else if instr.dst.mode = .dreg then
    .emitted do
      let g ← getCpu
      emitNbcdCore ((g.d (regIndex instr.dst.reg) &&& 0xFF).setWidth 8) (extendBit g.sr)
        (storeByteDreg instr.dst.reg)
  else
    match emitEaAddress instr.dst 1 with
    | none => .rejected
    | some ad => .emitted do
        let addr ← ad
        let value ← read8 (addr (← getCpu))
        let x := extendBit (← getCpu).sr
        emitNbcdCore value x fun result => do write8 (addr (← getCpu)) result

/-- The result and borrow of `emit_abcd_sbcd`. -/
def decimalResult (isSub : Bool) (src dst x : BitVec 8) : BitVec 8 × Bool :=
  let srcDec := (bcdToByte src).setWidth 32
  let dstDec := (bcdToByte dst).setWidth 32
  if isSub then
    let srcFull : BitVec 32 := ((srcDec + x.setWidth 32).setWidth 16).setWidth 32
    (byteToBcd (((100 + dstDec - srcFull) % 100).setWidth 8), srcFull > dstDec)
  else
    let sum : BitVec 32 := ((dstDec + srcDec + x.setWidth 32).setWidth 16).setWidth 32
    (byteToBcd ((sum % 100).setWidth 8), sum > 99)

/-- `emit_abcd_sbcd`. -/
def emitAbcdSbcd (instr : NgM68kInstr) : Emission β :=
  let statements (src dst x : BitVec 8) (store : BitVec 8 → Gen β Unit) : Gen β Unit := do
    let out := decimalResult (instr.mnemonic = .sbcd) src dst x
    store out.1
    modifyCpu fun g => g.setSr (bcdFlags out.1 out.2 g.sr)
  if instr.mnemonic ≠ .abcd ∧ instr.mnemonic ≠ .sbcd then .rejected
  else if instr.src.mode = .dreg ∧ instr.dst.mode = .dreg then
    .emitted do
      let g ← getCpu
      statements ((g.d (regIndex instr.src.reg) &&& 0xFF).setWidth 8)
        ((g.d (regIndex instr.dst.reg) &&& 0xFF).setWidth 8) (extendBit g.sr)
        (storeByteDreg instr.dst.reg)
  else if instr.src.mode = .apre ∧ instr.dst.mode = .apre then
    .emitted do
      stepDown instr.src 1
      let srcAddr := aregAddr instr.src (← getCpu)
      stepDown instr.dst 1
      let dstAddr := aregAddr instr.dst (← getCpu)
      let src ← read8 srcAddr
      let dst ← read8 dstAddr
      let x := extendBit (← getCpu).sr
      statements src dst x (write8 dstAddr)
  else .rejected

/-! ## CHK, multiply and divide -/

/-- The trap of CHK, TRAPV, TRAP and of a division by zero. -/
def trapThrough (instr : NgM68kInstr) (vectorAddr : BitVec 32) : Gen β Unit := do
  ngPushExceptionFrame ((instr.addr + instr.byteLength.setWidth 32) &&& 0x00FFFFFF)
  let pc ← read32 vectorAddr
  traceDispatchReturn pc

/-- `emit_chk`. -/
def emitChk (instr : NgM68kInstr) : Emission β :=
  if instr.mnemonic ≠ .chk ∨ instr.src.mode = .none ∨ instr.dst.mode ≠ .dreg ∨ instr.size ≠ 2 then
    .rejected
  else
    match emitEaRead instr.src 2 with
    | none => .rejected
    | some rd => .emitted do
        let e ← rd
        let g ← getCpu
        let bound := (e g).setWidth 16
        let value := (g.d (regIndex instr.dst.reg) &&& 0xFFFF).setWidth 16
        if value.toInt < 0 ∨ value.toInt > bound.toInt then
          modifyCpu fun g => g.setSr
            (if value.toInt < 0 then g.sr ||| ngCcrN else g.sr &&& ~~~ngCcrN)
          trapThrough instr 0x00000018

/-- `emit_multiply`. -/
def emitMultiply (instr : NgM68kInstr) : Emission β :=
  let r := regIndex instr.dst.reg
  if (instr.mnemonic ≠ .mulu ∧ instr.mnemonic ≠ .muls) ∨ instr.src.mode = .none ∨
      instr.dst.mode ≠ .dreg then .rejected
  else
    match emitEaRead instr.src 2 with
    | none => .rejected
    | some rd => .emitted do
        let e ← rd
        modifyCpu fun g =>
          let dst := (g.d r &&& 0xFFFF).setWidth 16
          let src := (e g).setWidth 16
          g.setD r
            (if instr.mnemonic = .mulu then dst.setWidth 32 * src.setWidth 32
             else dst.signExtend 32 * src.signExtend 32)
        modifyCpu fun g => g.setSr (ngSetNz (g.d r) g.sr)

/-- The DIVU statements after the zero test. -/
def divuStatements (r : Fin 8) (divisor : BitVec 16) : Gen β Unit := do
  let dividend := (← getCpu).d r
  let quotient := dividend / divisor.setWidth 32
  let remainder := (dividend % divisor.setWidth 32).setWidth 16
  modifyCpu fun g => g.setSr (g.sr &&& 0xFFF0)
  if quotient > 0xFFFF then modifyCpu fun g => g.setSr (g.sr ||| ngCcrV)
  else
    modifyCpu fun g => g.setD r (remainder ++ quotient.setWidth 16)
    modifyCpu fun g => g.setSr
      (orIf (quotient &&& 0x8000 != 0) ngCcrN (orIf (quotient.setWidth 16 == 0#16) ngCcrZ g.sr))

/-- The DIVS statements after the zero test, in 64-bit signed arithmetic. -/
def divsStatements (r : Fin 8) (divisor : BitVec 16) : Gen β Unit := do
  let dividend := ((← getCpu).d r).toInt
  let quotient := dividend.tdiv divisor.toInt
  let remainder := dividend.tmod divisor.toInt
  modifyCpu fun g => g.setSr (g.sr &&& 0xFFF0)
  if quotient < -32768 ∨ quotient > 32767 then modifyCpu fun g => g.setSr (g.sr ||| ngCcrV)
  else
    modifyCpu fun g => g.setD r (BitVec.ofInt 16 remainder ++ BitVec.ofInt 16 quotient)
    modifyCpu fun g => g.setSr
      (orIf (decide (quotient < 0)) ngCcrN (orIf (BitVec.ofInt 16 quotient == 0#16) ngCcrZ g.sr))

/-- `emit_divide`. -/
def emitDivide (instr : NgM68kInstr) : Emission β :=
  let r := regIndex instr.dst.reg
  if (instr.mnemonic ≠ .divu ∧ instr.mnemonic ≠ .divs) ∨ instr.src.mode = .none ∨
      instr.dst.mode ≠ .dreg then .rejected
  else
    match emitEaRead instr.src 2 with
    | none => .rejected
    | some rd => .emitted do
        let e ← rd
        let divisor := (e (← getCpu)).setWidth 16
        if divisor = 0 then trapThrough instr 0x00000014
        else if instr.mnemonic = .divu then divuStatements r divisor
        else divsStatements r divisor

end Abi

end NeoRecomp
