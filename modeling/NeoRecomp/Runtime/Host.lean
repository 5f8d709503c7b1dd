import NeoRecomp.Runtime.Operations

/-!
# The runtime as the host of generated code

`tools/generated_smoke_harness.c` links generated code with the runtime and supplies the hooks of
`generated_abi.h`: instruction hits are counted, cycles advance the runtime, and a one-shot
breakpoint can make the generated code yield.
-/

namespace NeoRecomp

/-! ## Watched addresses -/

/-- The addresses of `NG_GENERATED_SMOKE_DISPATCH_WATCHES`, in the order of their indices. -/
def ngGeneratedSmokeDispatchWatch : List (BitVec 32) :=
  [0x000122, 0x0007CC, 0x00080C, 0x000832, 0x000836, 0x000840, 0x000656, 0x001838, 0x001840,
    0x000868, 0x00085E, 0x000862, 0x024E38, 0x00097A, 0x001F84, 0x001FE2, 0x00200A, 0x002012,
    0x001EEC, 0x001EE6, 0x001E84, 0x002018, 0x013C3C, 0x05CC1A, 0x025066, 0x05C9D6, 0x05C9E0,
    0x05CA02, 0x05CA28, 0x05B400, 0x0008F6, 0x000906, 0x000934, 0xC00438, 0xC00444, 0xC0044A,
    0xC004CE, 0xC112D2, 0xC11300, 0xC11142, 0xC116A4, 0xC1183C]

/-- Hits by index of the watch table. -/
abbrev WatchCounts : Type := Nat → BitVec 64

/-- The `switch` of `ng_generated_smoke_note_instruction_watch` and of
`ng_generated_smoke_note_dispatch_watch`. -/
def noteWatch (addr : BitVec 32) (counts : WatchCounts) : WatchCounts :=
  match ngGeneratedSmokeDispatchWatch.idxOf? (addr &&& 0x00FFFFFF) with
  | some i => Function.update counts i (counts i + 1)
  | none => counts

/-! ## The breakpoint -/

/-- `NG_GENERATED_SMOKE_YIELD_ADDR_NONE` and `NG_GENERATED_SMOKE_YIELD_ANY_FRAME`. -/
def ngGeneratedSmokeYieldAddrNone : BitVec 32 := 0xFFFFFFFF
def ngGeneratedSmokeYieldAnyFrame : BitVec 32 := 0xFFFFFFFF

/-- The variables `g_ng_generated_smoke_yield_*`. -/
structure SmokeYield where
  addr : BitVec 32 := ngGeneratedSmokeYieldAddrNone
  frameMustDiffer : BitVec 32 := ngGeneratedSmokeYieldAnyFrame
  stopOnFrameChange : BitVec 32 := ngGeneratedSmokeYieldAnyFrame
  hit : Bool := false
  hitAddr : BitVec 32 := 0
  hitFrame : BitVec 32 := 0
  deriving DecidableEq

/-- `ng_generated_smoke_clear_instruction_yield`. -/
def ngGeneratedSmokeClearInstructionYield : SmokeYield := {}

/-- `ng_generated_smoke_set_instruction_yield`. -/
def SmokeYield.ngGeneratedSmokeSetInstructionYield (y : SmokeYield)
    (addr frameMustDiffer : BitVec 32) : SmokeYield :=
  { y with
    addr :=
      if addr = ngGeneratedSmokeYieldAddrNone then ngGeneratedSmokeYieldAddrNone
      else addr &&& 0x00FFFFFF
    frameMustDiffer
    hit := false
    hitAddr := 0
    hitFrame := 0 }

/-- `ng_generated_smoke_set_instruction_yield_frame_stop`. -/
def SmokeYield.ngGeneratedSmokeSetInstructionYieldFrameStop (y : SmokeYield) (frame : BitVec 32) :
    SmokeYield :=
  { y with stopOnFrameChange := frame }

/-- The statements before both `return 1;`. -/
def SmokeYield.strike (y : SmokeYield) (addr frame : BitVec 32) : SmokeYield :=
  { y with
    addr := ngGeneratedSmokeYieldAddrNone
    stopOnFrameChange := ngGeneratedSmokeYieldAnyFrame
    hit := true
    hitAddr := addr
    hitFrame := frame }

/-- `ng_generated_should_yield`, at a frame count. -/
def SmokeYield.ngGeneratedShouldYield (y : SmokeYield) (frame addr : BitVec 32) :
    Bool × SmokeYield :=
  let addr := addr &&& 0x00FFFFFF
  if y.stopOnFrameChange ≠ ngGeneratedSmokeYieldAnyFrame ∧ frame ≠ y.stopOnFrameChange then
    (true, y.strike addr frame)
  else if y.addr = ngGeneratedSmokeYieldAddrNone ∨ addr ≠ y.addr then (false, y)
  else if y.frameMustDiffer ≠ ngGeneratedSmokeYieldAnyFrame ∧ frame = y.frameMustDiffer then
    (false, y)
  else (true, y.strike addr frame)

/-! ## The host -/

/-- The runtime and the variables of the hooks. -/
structure SmokeHost where
  runtime : NeogeoRuntime
  yield : SmokeYield := {}
  instructionWatchCount : WatchCounts := fun _ => 0

namespace SmokeHost

/-- An access of the runtime in the host. -/
def access {n : Nat} (read : NgNeoRuntime → BitVec 32 → BitVec n × NgNeoRuntime) (addr : BitVec 32)
    (h : SmokeHost) : BitVec n × SmokeHost :=
  let r := h.runtime.busRead read addr
  (r.1, { h with runtime := r.2 })

/-- `ng_m68k_take_reset` with both outputs. -/
def takeReset (h : SmokeHost) : Option (BitVec 32 × BitVec 32) × SmokeHost :=
  let r := h.runtime.ngM68kTakeReset true true
  (r.1.map fun out => (out.1.getD 0, out.2.getD 0), { h with runtime := r.2 })

/-- `ng_m68k_take_interrupt` with both outputs. -/
def takeInterrupt (mask : BitVec 8) (h : SmokeHost) : Option (BitVec 8 × BitVec 8) × SmokeHost :=
  let r := h.runtime.ngM68kTakeInterrupt mask true
  (r.1, { h with runtime := r.2 })

/-- `ng_generated_instruction_hook`.  The program counter that generated code has stored in
`g_ng_m68k` right before the call reaches the runtime here, which only records it. -/
def ngGeneratedInstructionHook (addr : BitVec 32) (h : SmokeHost) : SmokeHost :=
  { h with
    runtime := { h.runtime with m68k := h.runtime.m68k.setPc addr }
    instructionWatchCount := noteWatch addr h.instructionWatchCount }

/-- `ng_generated_cycle_hook` without an observer. -/
def ngGeneratedCycleHook (_addr cycles : BitVec 32) (h : SmokeHost) : SmokeHost :=
  { h with runtime := h.runtime.ngNeogeoAdvanceCpuCycles cycles }

/-- `ng_generated_should_yield`. -/
def ngGeneratedShouldYield (addr : BitVec 32) (h : SmokeHost) : Bool × SmokeHost :=
  let r := h.yield.ngGeneratedShouldYield h.runtime.frameCount addr
  (r.1, { h with yield := r.2 })

end SmokeHost

/-- The ABI that the harness and the runtime implement.  `ng_m68k_reset_devices` does nothing and
`ng_m68k_stop_until_interrupt` prints. -/
instance : GeneratedAbi SmokeHost where
  read8 := SmokeHost.access ng68kRead8
  read16 := SmokeHost.access ng68kRead16
  read32 := SmokeHost.access ng68kRead32
  write8 addr v h := { h with runtime := h.runtime.ng68kWrite8 addr v }
  write16 addr v h := { h with runtime := h.runtime.ng68kWrite16 addr v }
  write32 addr v h := { h with runtime := h.runtime.ng68kWrite32 addr v }
  instructionHook := SmokeHost.ngGeneratedInstructionHook
  cycleHook := SmokeHost.ngGeneratedCycleHook
  shouldYield := SmokeHost.ngGeneratedShouldYield
  resetDevices h := h
  stopUntilInterrupt _ h := h
  takeReset := SmokeHost.takeReset
  takeInterrupt := SmokeHost.takeInterrupt

end NeoRecomp
