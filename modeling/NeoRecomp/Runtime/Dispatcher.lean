import NeoRecomp.Runtime.Host

/-!
# The combined dispatcher of the harness

With `NG_GENERATED_SMOKE_COMBINED_DISPATCH` the harness is the dispatcher of the cartridge and the
BIOS program: one trampoline with a budget, which counts what it dispatches.
-/

namespace NeoRecomp

def ngGeneratedSmokeRecentDispatches : Nat := 256
def ngGeneratedSmokeLoopMaxPeriod : Nat := 64
def ngGeneratedSmokeHotSlots : Nat := 32768
def ngGeneratedSmokeHotTop : Nat := 5

/-- `NG_NEO_SYSTEM_ROM_BYTES`. -/
def ngNeoSystemRomBytes : BitVec 32 := 0x20000

/-- The variables `g_ng_generated_smoke_*` of the dispatcher.  Arrays are functions of the index. -/
structure SmokeDispatcher where
  dispatchActive : Bool := false
  dispatchPending : Bool := false
  dispatchAddr : BitVec 32 := 0
  dispatchBudget : BitVec 64 := 0
  dispatchCount : BitVec 64 := 0
  cartDispatchCount : BitVec 64 := 0
  biosDispatchCount : BitVec 64 := 0
  lastDispatchAddr : BitVec 32 := 0
  lastCartDispatchAddr : BitVec 32 := 0
  lastBiosDispatchAddr : BitVec 32 := 0
  recentDispatches : Nat → BitVec 32 := fun _ => 0
  hotAddr : Nat → BitVec 32 := fun _ => 0
  hotCount : Nat → BitVec 64 := fun _ => 0
  dispatchWatchCount : WatchCounts := fun _ => 0
  uniqueDispatchCount : BitVec 32 := 0
  hotOverflow : Bool := false
  budgetStopAddr : BitVec 32 := 0
  budgetHit : Bool := false

/-- The cartridge and the BIOS program over a machine.  Each answers the addresses of the calls of
`ng_generated_call` it made, in order. -/
structure CombinedPrograms (W : Type) where
  ngCartGeneratedCall : BitVec 32 → W → List (BitVec 32) × W
  ngBiosGeneratedCall : BitVec 32 → W → List (BitVec 32) × W
  /-- `g_ng_m68k.pc = pc;` -/
  setPc : BitVec 32 → W → W

namespace SmokeDispatcher

/-! ## Statistics -/

/-- `ng_generated_smoke_reset_dispatch_stats`, but for the variables of the hooks. -/
def ngGeneratedSmokeResetDispatchStats (d : SmokeDispatcher) : SmokeDispatcher :=
  { d with
    dispatchCount := 0
    cartDispatchCount := 0
    biosDispatchCount := 0
    lastDispatchAddr := 0
    lastCartDispatchAddr := 0
    lastBiosDispatchAddr := 0
    recentDispatches := fun _ => 0
    hotAddr := fun _ => 0
    hotCount := fun _ => 0
    dispatchWatchCount := fun _ => 0
    uniqueDispatchCount := 0
    hotOverflow := false
    budgetStopAddr := 0
    budgetHit := false }

/-- `ng_generated_smoke_set_dispatch_budget`. -/
def ngGeneratedSmokeSetDispatchBudget (d : SmokeDispatcher) (maxDispatches : BitVec 64) :
    SmokeDispatcher :=
  { d with dispatchBudget := maxDispatches, budgetHit := false }

/-- `ng_generated_smoke_hot_slot`. -/
def ngGeneratedSmokeHotSlot (addr : BitVec 32) : BitVec 32 :=
  let addr := addr &&& 0x00FFFFFF
  let addr := addr ^^^ (addr >>> 12)
  let addr := addr * 2654435761
  addr &&& 32767

/-- The loop of `ng_generated_smoke_note_dispatch` with so many probes left. -/
def noteProbe (addr slot : BitVec 32) : Nat → BitVec 32 → SmokeDispatcher → SmokeDispatcher
  | 0, _, d => { d with hotOverflow := true }
  | turns + 1, probe, d =>
    let idx := ((slot + probe) &&& 32767).toNat
    if d.hotCount idx = 0 then
      { d with
        hotAddr := Function.update d.hotAddr idx addr
        hotCount := Function.update d.hotCount idx 1
        uniqueDispatchCount := d.uniqueDispatchCount + 1 }
    else if d.hotAddr idx = addr then
      { d with hotCount := Function.update d.hotCount idx (d.hotCount idx + 1) }
    else noteProbe addr slot turns (probe + 1) d

/-- `ng_generated_smoke_note_dispatch`. -/
def ngGeneratedSmokeNoteDispatch (addr : BitVec 32) (d : SmokeDispatcher) : SmokeDispatcher :=
  let addr := addr &&& 0x00FFFFFF
  let d := { d with dispatchWatchCount := noteWatch addr d.dispatchWatchCount }
  noteProbe addr (ngGeneratedSmokeHotSlot addr) ngGeneratedSmokeHotSlots 0 d

/-- The statements of the trampoline from `++g_ng_generated_smoke_dispatch_count;` up to the call of
`ng_generated_smoke_dispatch_one`. -/
def count (nextAddr : BitVec 32) (d : SmokeDispatcher) : SmokeDispatcher :=
  let dispatchCount := d.dispatchCount + 1
  let lastDispatchAddr := nextAddr &&& 0x00FFFFFF
  let recentDispatches :=
    Function.update d.recentDispatches
      ((dispatchCount - 1).toNat % ngGeneratedSmokeRecentDispatches) lastDispatchAddr
  ngGeneratedSmokeNoteDispatch lastDispatchAddr
    { d with dispatchCount, lastDispatchAddr, recentDispatches }

/-- `ng_generated_smoke_recent_from_end`. -/
def ngGeneratedSmokeRecentFromEnd (d : SmokeDispatcher) (offset : Nat) : BitVec 32 :=
  if ngGeneratedSmokeRecentDispatches ≤ offset ∨ d.dispatchCount.toNat ≤ offset then 0
  else
    d.recentDispatches ((d.dispatchCount.toNat - 1 - offset) % ngGeneratedSmokeRecentDispatches)

/-- The outer loop of `ng_generated_smoke_recent_loop_period`, from a period on. -/
def loopPeriodFrom (d : SmokeDispatcher) (have' : Nat) : Nat → Nat → Nat
  | 0, _ => 0
  | turns + 1, period =>
    if have' < period * 2 then 0
    else if (List.range period).all fun i =>
        d.ngGeneratedSmokeRecentFromEnd i = d.ngGeneratedSmokeRecentFromEnd (i + period) then period
    else loopPeriodFrom d have' turns (period + 1)

/-- `ng_generated_smoke_recent_loop_period`. -/
def ngGeneratedSmokeRecentLoopPeriod (d : SmokeDispatcher) : Nat :=
  loopPeriodFrom d (min d.dispatchCount.toNat ngGeneratedSmokeRecentDispatches)
    ngGeneratedSmokeLoopMaxPeriod 1

/-- The two arrays `top_addr` and `top_count` of `ng_generated_smoke_hot_rank`, zipped. -/
abbrev HotTop : Type := List (BitVec 32 × BitVec 64)

/-- The two inner loops: the entry goes before the first place it beats, and the last place falls
off. -/
def insertTop (entry : BitVec 32 × BitVec 64) : HotTop → HotTop
  | [] => []
  | top :: rest =>
    if top.2 < entry.2 then (entry :: top :: rest).take (rest.length + 1)
    else top :: insertTop entry rest

/-- `ng_generated_smoke_hot_rank`. -/
def ngGeneratedSmokeHotRank (d : SmokeDispatcher) (rank : Nat) : BitVec 32 × BitVec 64 :=
  let tops := (List.range ngGeneratedSmokeHotSlots).foldl
    (fun tops i =>
      if d.hotCount i = 0 then tops else insertTop (d.hotAddr i, d.hotCount i) tops)
    (List.replicate ngGeneratedSmokeHotTop (0, 0))
  tops.getD rank (0, 0)

/-! ## The trampoline -/

variable {W : Type} (P : CombinedPrograms W)

/-- `ng_generated_call` while a dispatch is active. -/
def nestedCall (addr : BitVec 32) (d : SmokeDispatcher) : SmokeDispatcher :=
  { d with dispatchAddr := addr &&& 0x00FFFFFF, dispatchPending := true }

/-- An address of the BIOS area. -/
def isBios (addr : BitVec 32) : Bool := 0x00C00000 ≤ addr && addr ≤ 0x00CFFFFF

/-- `ng_generated_smoke_dispatch_one`. -/
def ngGeneratedSmokeDispatchOne (addr : BitVec 32) (d : SmokeDispatcher) (w : W) :
    SmokeDispatcher × W :=
  let addr := addr &&& 0x00FFFFFF
  if isBios addr then
    let biosAddr := 0x00C00000 + ((addr - 0x00C00000) % ngNeoSystemRomBytes)
    let r := P.ngBiosGeneratedCall biosAddr w
    (r.1.foldl (fun d a => d.nestedCall a)
      { d with
        biosDispatchCount := d.biosDispatchCount + 1
        lastBiosDispatchAddr := biosAddr }, r.2)
  else
    let r := P.ngCartGeneratedCall addr w
    (r.1.foldl (fun d a => d.nestedCall a)
      { d with
        cartDispatchCount := d.cartDispatchCount + 1
        lastCartDispatchAddr := addr }, r.2)

/-- The loop of `ng_generated_call`, with the addresses it dispatches.  `none` is a loop that has
not ended after so many turns. -/
def dispatchLoop : Nat → SmokeDispatcher → W → Option (List (BitVec 32) × SmokeDispatcher × W)
  | 0, _, _ => none
  | turns + 1, d, w =>
    if d.dispatchPending = false then some ([], d, w)
    else
      let nextAddr := d.dispatchAddr
      let d : SmokeDispatcher := { d with dispatchPending := false }
      if d.dispatchBudget ≠ 0 ∧ d.dispatchBudget ≤ d.dispatchCount then
        let stop := nextAddr &&& 0x00FFFFFF
        some ([], { d with budgetHit := true, budgetStopAddr := stop }, P.setPc stop w)
      else
        let r := ngGeneratedSmokeDispatchOne P nextAddr (d.count nextAddr) w
        (dispatchLoop turns r.1 r.2).map fun out => (nextAddr :: out.1, out.2)

/-- `ng_generated_call` from outside. -/
def ngGeneratedCall (turns : Nat) (addr : BitVec 32) (d : SmokeDispatcher) (w : W) :
    Option (List (BitVec 32) × SmokeDispatcher × W) :=
  if d.dispatchActive then some ([], d.nestedCall addr, w)
  else
    (dispatchLoop P turns { d.nestedCall addr with dispatchActive := true } w).map fun out =>
      (out.1, { out.2.1 with dispatchActive := false }, out.2.2)

end SmokeDispatcher

end NeoRecomp
