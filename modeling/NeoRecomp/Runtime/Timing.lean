import NeoRecomp.Runtime.State

/-!
# Interrupt sources, pixel timer, scanlines and watchdog

Functions of `neogeo_runtime.c` that use the variables of a few devices only take and return those
devices' states.
-/

namespace NeoRecomp

/-! ## Interrupt lines -/

def ngNeoIrqackReset : BitVec 16 := 0x0001
def ngNeoIrqackTimer : BitVec 16 := 0x0002
def ngNeoIrqackVblank : BitVec 16 := 0x0004

namespace InterruptState

/-- `ng_m68k_set_interrupt_level`. -/
def ngM68kSetInterruptLevel (i : InterruptState) (level vector : BitVec 8) : InterruptState :=
  let level := level &&& 7
  { i with
    level7Edge :=
      if level = 7 ∧ i.interruptLevel < 7 then 1
      else if level < 7 then 0
      else i.level7Edge
    interruptLevel := level
    interruptVector := vector }

/-- `ng_m68k_clear_interrupt_level`. -/
def ngM68kClearInterruptLevel (i : InterruptState) : InterruptState :=
  { i with interruptLevel := 0, interruptVector := 0, level7Edge := 0 }

/-- `ng_neogeo_refresh_interrupt_level`. -/
def ngNeogeoRefreshInterruptLevel (i : InterruptState) : InterruptState :=
  if i.irqPending &&& ngNeoIrqackReset ≠ 0 then i.ngM68kSetInterruptLevel 3 27
  else if i.irqPending &&& ngNeoIrqackTimer ≠ 0 then i.ngM68kSetInterruptLevel 2 26
  else if i.irqPending &&& ngNeoIrqackVblank ≠ 0 then i.ngM68kSetInterruptLevel 1 25
  else i.ngM68kClearInterruptLevel

/-- Adding a source to `irq_pending`, as the three request functions do. -/
def request (i : InterruptState) (source : BitVec 16) : InterruptState :=
  { i with irqPending := i.irqPending ||| source }.ngNeogeoRefreshInterruptLevel

/-- `ng_neogeo_request_vblank_interrupt`. -/
def ngNeogeoRequestVblankInterrupt (i : InterruptState) : InterruptState :=
  { i with vblankInterrupts := i.vblankInterrupts + 1 }.request ngNeoIrqackVblank

/-- `ng_neogeo_request_timer_interrupt`. -/
def ngNeogeoRequestTimerInterrupt (i : InterruptState) : InterruptState :=
  { i with timerInterrupts := i.timerInterrupts + 1 }.request ngNeoIrqackTimer

/-- `ng_neogeo_request_reset_interrupt`, which counts nothing. -/
def ngNeogeoRequestResetInterrupt (i : InterruptState) : InterruptState :=
  i.request ngNeoIrqackReset

/-- `ng_neogeo_ack_interrupts`. -/
def ngNeogeoAckInterrupts (i : InterruptState) (ackMask : BitVec 16) : InterruptState :=
  { i with
    irqAckWrites := if ackMask &&& 0x0007 ≠ 0 then i.irqAckWrites + 1 else i.irqAckWrites
    irqPending := i.irqPending &&& ~~~(ackMask &&& 0x0007) }.ngNeogeoRefreshInterruptLevel

end InterruptState

/-! ## Pixel timer and scanlines -/

def ngNeoLspcmodeTimerEnable : BitVec 16 := 0x0010
def ngNeoLspcmodeTimerReloadOnWrite : BitVec 16 := 0x0020
def ngNeoLspcmodeTimerReloadOnFrame : BitVec 16 := 0x0040
def ngNeoLspcmodeTimerReloadOnZero : BitVec 16 := 0x0080

def ngNeoNtscPixelsPerScanline : Nat := 384
def ngNeoNtscScanlinesPerFrame : Nat := 264
def ngNeoCpuCyclesPerScanline : Nat := 768

/-- `ng_neogeo_reload_timer_counter`. -/
def LspcState.ngNeogeoReloadTimerCounter (l : LspcState) : LspcState :=
  { l with timerCounterValue := l.timerReloadValue, timerCounterLoaded := 1 }

namespace RasterState

/-- The timer has run out: the rest of the loop body of `ng_neogeo_advance_timer`. -/
def timerExpired (r : RasterState) : RasterState :=
  let r := { r with timerCounterValue := 0 }
  let r :=
    if r.lspcMode &&& ngNeoLspcmodeTimerEnable ≠ 0 then
      { r with toInterruptState := r.toInterruptState.ngNeogeoRequestTimerInterrupt }
    else r
  if r.lspcMode &&& ngNeoLspcmodeTimerReloadOnZero ≠ 0 then
    { r with toLspcState := r.toLspcState.ngNeogeoReloadTimerCounter }
  else { r with timerCounterLoaded := 0 }

/-- The loop of `ng_neogeo_advance_timer`; every turn that does not end it takes a tick. -/
def advanceTimerTurns : Nat → BitVec 32 → RasterState → RasterState
  | 0, _, r => r
  | turns + 1, pixelTicks, r =>
    if pixelTicks = 0 ∨ r.timerCounterLoaded = 0 then r
    else
      let ticksUntilZero : BitVec 64 := r.timerCounterValue.setWidth 64 + 1
      if pixelTicks.setWidth 64 < ticksUntilZero then
        { r with timerCounterValue := r.timerCounterValue - pixelTicks }
      else
        advanceTimerTurns turns ((pixelTicks.setWidth 64 - ticksUntilZero).setWidth 32)
          r.timerExpired

/-- `ng_neogeo_advance_timer`. -/
def ngNeogeoAdvanceTimer (r : RasterState) (pixelTicks : BitVec 32) : RasterState :=
  advanceTimerTurns pixelTicks.toNat pixelTicks r

/-- `ng_neogeo_begin_vblank`. -/
def ngNeogeoBeginVblank (r : RasterState) : RasterState :=
  let r := { r with frameCount := r.frameCount + 1 }
  let r :=
    if r.lspcMode &&& ngNeoLspcmodeTimerReloadOnFrame ≠ 0 then
      { r with toLspcState := r.toLspcState.ngNeogeoReloadTimerCounter }
    else r
  { r with toInterruptState := r.toInterruptState.ngNeogeoRequestVblankInterrupt }

def nextScanline (r : RasterState) : RasterState :=
  { r with
    currentScanline := ((r.currentScanline.setWidth 32 + 1) %
      BitVec.ofNat 32 ngNeoNtscScanlinesPerFrame).setWidth 16 }

/-- `ng_neogeo_advance_scanline`. -/
def ngNeogeoAdvanceScanline (r : RasterState) : RasterState :=
  let r := { r with scanlineCycle := 0 }
  let r := (r.ngNeogeoAdvanceTimer (BitVec.ofNat 32 ngNeoNtscPixelsPerScanline)).nextScanline
  if r.currentScanline = 0 then r.ngNeogeoBeginVblank else r

/-- `ng_neogeo_advance_frame`. -/
def ngNeogeoAdvanceFrame (r : RasterState) : RasterState :=
  r.ngNeogeoBeginVblank.ngNeogeoAdvanceTimer
    (BitVec.ofNat 32 (ngNeoNtscPixelsPerScanline * ngNeoNtscScanlinesPerFrame))

end RasterState

/-! ## Watchdog -/

/-- A pending watchdog reset, at the instruction and the time it was noticed. -/
def WatchdogState.expire (w : WatchdogState) (t : TimingState) (pc : BitVec 32) : WatchdogState :=
  { w with
    watchdogResetPending := 1
    watchdogLastResetPc := pc &&& 0x00FFFFFF
    watchdogLastResetPoll := t.interruptPolls
    watchdogLastResetCycle := t.cpuCycles }

/-- `ng_neogeo_update_watchdog_timeout`. -/
def WatchdogState.ngNeogeoUpdateWatchdogTimeout (w : WatchdogState) (t : TimingState)
    (pc : BitVec 32) : WatchdogState :=
  if w.watchdogResetPending ≠ 0 then w
  else if t.cycleTimingActive ≠ 0 ∧ w.watchdogTimeoutCycles ≠ 0 then
    let cycleGap := t.cpuCycles - w.watchdogLastKickCycle
    if cycleGap < w.watchdogTimeoutCycles.setWidth 64 then w
    else
      { w with
        watchdogMaxGapCycles :=
          if w.watchdogMaxGapCycles < cycleGap then cycleGap else w.watchdogMaxGapCycles }.expire t pc
  else if w.watchdogTimeoutPolls = 0 then w
  else
    let gap := t.interruptPolls - w.watchdogLastKickPoll
    if gap < w.watchdogTimeoutPolls then w
    else
      { w with
        watchdogMaxGapPolls :=
          if w.watchdogMaxGapPolls < gap then gap else w.watchdogMaxGapPolls }.expire t pc

/-- `ng_neogeo_note_watchdog_kick`. -/
def WatchdogState.ngNeogeoNoteWatchdogKick (w : WatchdogState) (t : TimingState) : WatchdogState :=
  let gap := t.interruptPolls - w.watchdogLastKickPoll
  let cycleGap := t.cpuCycles - w.watchdogLastKickCycle
  { w with
    watchdogMaxGapPolls := if w.watchdogMaxGapPolls < gap then gap else w.watchdogMaxGapPolls
    watchdogLastKickPoll := t.interruptPolls
    watchdogMaxGapCycles :=
      if w.watchdogMaxGapCycles < cycleGap then cycleGap else w.watchdogMaxGapCycles
    watchdogLastKickCycle := t.cpuCycles
    watchdogResetPending := 0 }

/-! ## CPU cycles -/

namespace NeogeoRuntime

/-- `ng_neogeo_update_watchdog_timeout`, at the current time. -/
def ngNeogeoUpdateWatchdogTimeout (rt : NeogeoRuntime) : NeogeoRuntime :=
  { rt with
    toWatchdogState :=
      rt.toWatchdogState.ngNeogeoUpdateWatchdogTimeout rt.toTimingState rt.m68k.pc }

/-- Cycles that end inside the current scanline. -/
def advanceWithinScanline (rt : NeogeoRuntime) (cpuCycles : BitVec 32) : NeogeoRuntime :=
  { rt with
    scanlineCycle := rt.scanlineCycle + cpuCycles
    cpuCycles := rt.cpuCycles + cpuCycles.setWidth 64 }.ngNeogeoUpdateWatchdogTimeout

def cyclesUntilScanline (rt : NeogeoRuntime) : BitVec 32 :=
  BitVec.ofNat 32 ngNeoCpuCyclesPerScanline - rt.scanlineCycle

/-- The rest of the current scanline. -/
def finishScanline (rt : NeogeoRuntime) : NeogeoRuntime :=
  let rt := { rt with
    cpuCycles := rt.cpuCycles + rt.cyclesUntilScanline.setWidth 64
    scanlineCycle := 0 }
  { rt with toRasterState := rt.toRasterState.ngNeogeoAdvanceScanline }.ngNeogeoUpdateWatchdogTimeout

/-- The loop of `ng_neogeo_advance_cpu_cycles`. -/
def advanceCpuCyclesTurns : Nat → BitVec 32 → NeogeoRuntime → NeogeoRuntime
  | 0, _, rt => rt
  | turns + 1, cpuCycles, rt =>
    if cpuCycles = 0 then rt
    else if cpuCycles < rt.cyclesUntilScanline then rt.advanceWithinScanline cpuCycles
    else advanceCpuCyclesTurns turns (cpuCycles - rt.cyclesUntilScanline) rt.finishScanline

/-- `ng_neogeo_advance_cpu_cycles`.  A turn takes a cycle from the count, but for the first one of
a state whose `scanline_cycle` is 768. -/
def ngNeogeoAdvanceCpuCycles (rt : NeogeoRuntime) (cpuCycles : BitVec 32) : NeogeoRuntime :=
  if cpuCycles = 0 then rt
  else
    advanceCpuCyclesTurns (cpuCycles.toNat + 1) cpuCycles { rt with cycleTimingActive := 1 }

end NeogeoRuntime
end NeoRecomp
