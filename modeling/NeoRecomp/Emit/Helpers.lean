import NeoRecomp.Machine

/-!
# Helper functions of the emitted program

The static functions `emit_helper_functions` prints at the top of every generated file, and the
condition expressions of `ng_condition_expr`.
-/

namespace NeoRecomp

/-! ## Status register bits -/

def ngCcrC : BitVec 16 := 0x0001
def ngCcrV : BitVec 16 := 0x0002
def ngCcrZ : BitVec 16 := 0x0004
def ngCcrN : BitVec 16 := 0x0008
def ngCcrX : BitVec 16 := 0x0010
def ngSrS : BitVec 16 := 0x2000
def ngSrT : BitVec 16 := 0x8000

/-- `sr & bits` as a C condition. -/
def srHas (sr bits : BitVec 16) : Bool := sr &&& bits != 0

/-- `if (cond) sr |= bits;` -/
def orIf (cond : Bool) (bits sr : BitVec 16) : BitVec 16 := if cond then sr ||| bits else sr

/-- `ng_set_nz8`, `ng_set_nz16` and `ng_set_nz32` on the status register. -/
def ngSetNz {w : Nat} (value : BitVec w) (sr : BitVec 16) : BitVec 16 :=
  orIf (value.msb) ngCcrN (orIf (value == 0) ngCcrZ (sr &&& 0xFFF0))

/-- `ng_condition_expr`; conditions 0 and 1 have no expression. -/
def ngConditionExpr (condition : BitVec 8) : Option (BitVec 16 → Bool) :=
  match condition.toNat with
  | 2 => some fun sr => sr &&& (ngCcrC ||| ngCcrZ) == 0
  | 3 => some fun sr => sr &&& (ngCcrC ||| ngCcrZ) != 0
  | 4 => some fun sr => sr &&& ngCcrC == 0
  | 5 => some fun sr => sr &&& ngCcrC != 0
  | 6 => some fun sr => sr &&& ngCcrZ == 0
  | 7 => some fun sr => sr &&& ngCcrZ != 0
  | 8 => some fun sr => sr &&& ngCcrV == 0
  | 9 => some fun sr => sr &&& ngCcrV != 0
  | 10 => some fun sr => sr &&& ngCcrN == 0
  | 11 => some fun sr => sr &&& ngCcrN != 0
  | 12 => some fun sr => srHas sr ngCcrN == srHas sr ngCcrV
  | 13 => some fun sr => srHas sr ngCcrN != srHas sr ngCcrV
  | 14 => some fun sr => sr &&& ngCcrZ == 0 && srHas sr ngCcrN == srHas sr ngCcrV
  | 15 => some fun sr => sr &&& ngCcrZ != 0 || srHas sr ngCcrN != srHas sr ngCcrV
  | _ => none

/-! ## Stack pointers and exception frames -/

/-- `ng_set_sr`: a change of the S bit swaps the stack pointer held in `a[7]`. -/
def ngSetSr (value : BitVec 16) (g : NgM68kState) : NgM68kState :=
  let g :=
    if srHas (g.sr ^^^ value) ngSrS then
      let g := if srHas g.sr ngSrS then { g with ssp := g.a 7 } else { g with usp := g.a 7 }
      g.setA 7 (if srHas value ngSrS then g.ssp else g.usp)
    else g
  g.setSr value

open Gen

variable {β : Type} [GeneratedAbi β]

/-- `g_ng_m68k.a[7] -= 4u; ng68k_write32(g_ng_m68k.a[7], value);` -/
def pushLong (value : BitVec 32) : Gen β Unit := do
  modifyCpu fun g => g.setA 7 (g.a 7 - 4)
  write32 ((← getCpu).a 7) value

/-- `g_ng_m68k.a[7] -= 2u; ng68k_write16(g_ng_m68k.a[7], value);` -/
def pushWord (value : BitVec 16) : Gen β Unit := do
  modifyCpu fun g => g.setA 7 (g.a 7 - 2)
  write16 ((← getCpu).a 7) value

/-- `ng_push_exception_frame`. -/
def ngPushExceptionFrame (returnPc : BitVec 32) : Gen β Unit := do
  let savedSr := (← getCpu).sr
  modifyCpu (ngSetSr ((savedSr ||| ngSrS) &&& ~~~ngSrT))
  pushLong (returnPc &&& 0x00FFFFFF)
  pushWord savedSr

/-- `ng_push_interrupt_frame`. -/
def ngPushInterruptFrame (returnPc : BitVec 32) (level : BitVec 8) : Gen β Unit := do
  let savedSr := (← getCpu).sr
  let nextSr := (savedSr ||| ngSrS) &&& 0xF8FF
  let nextSr := nextSr &&& ~~~ngSrT
  let nextSr := nextSr ||| ((level &&& 7).setWidth 16 <<< 8)
  modifyCpu (ngSetSr nextSr)
  pushLong (returnPc &&& 0x00FFFFFF)
  pushWord savedSr

/-- `ng_require_supervisor`. -/
def ngRequireSupervisor (faultPc : BitVec 32) : Gen β Bool := do
  if srHas (← getCpu).sr ngSrS then
    pure true
  else
    ngPushExceptionFrame faultPc
    dispatch (← read32 0x00000020)
    pure false

/-- `ng_service_reset`. -/
def ngServiceReset : Gen β Bool := do
  match ← call GeneratedAbi.takeReset with
  | none => pure false
  | some (resetPc, resetSsp) =>
      let pc := resetPc &&& 0x00FFFFFF
      modifyCpu fun g => (({ g with ssp := resetSsp }.setSr 0x2700).setA 7 resetSsp).setPc pc
      dispatch pc
      pure true

/-- `ng_service_interrupt`. -/
def ngServiceInterrupt (returnPc : BitVec 32) : Gen β Bool := do
  let currentMask := (((← getCpu).sr >>> 8) &&& 7).setWidth 8
  if ← ngServiceReset then
    pure true
  else
    let taken ← call (GeneratedAbi.takeInterrupt currentMask)
    if ← ngServiceReset then
      pure true
    else
      match taken with
      | none => pure false
      | some (level, vector) =>
          ngPushInterruptFrame returnPc level
          dispatch (← read32 (vector.setWidth 32 * 4))
          pure true

/-- `ng_service_trace`. -/
def ngServiceTrace (returnPc : BitVec 32) (traceSr : BitVec 16) : Gen β Bool := do
  if srHas traceSr ngSrT then
    ngPushExceptionFrame returnPc
    dispatch (← read32 0x00000024)
    pure true
  else
    pure false

/-! ## Statements shared by many instructions -/

/-- `if (ng_service_trace(pc, ng_trace_sr)) return;` -/
def traceOrReturn (pc : BitVec 32) : Gen β Unit := do
  if ← ngServiceTrace pc (← getTraceSr) then ret else pure ()

/-- `if (ng_service_trace(pc, ng_trace_sr)) return; NG_GENERATED_DISPATCH(pc); return;` -/
def traceDispatchReturn (pc : BitVec 32) : Gen β Unit := do
  traceOrReturn pc
  dispatch pc
  ret

/-- `emit_require_supervisor`: `if (!ng_require_supervisor(pc)) return;` -/
def emitRequireSupervisor (faultPc : BitVec 32) : Gen β Unit := do
  if ← ngRequireSupervisor (faultPc &&& 0x00FFFFFF) then pure () else ret

/-- `emit_exception_vector_call`. -/
def emitExceptionVectorCall (vector : BitVec 8) (returnPc : BitVec 32) : Gen β Unit := do
  ngPushExceptionFrame (returnPc &&& 0x00FFFFFF)
  dispatch (← read32 (vector.setWidth 32 * 4))
  ret

/-- `ng_log_dispatch_miss(addr); return;` -/
def missReturn (addr : BitVec 32) : Gen β Unit := do
  logDispatchMiss (addr &&& 0x00FFFFFF)
  ret

end NeoRecomp
