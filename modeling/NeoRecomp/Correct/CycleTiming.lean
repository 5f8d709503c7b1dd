import NeoRecomp.Runtime.Frame

/-!
# Cycle timing

How CPU cycles are cut into calls of `ng_neogeo_advance_cpu_cycles` makes no difference, but for
the two statistics of the watchdog that record when it looked; and the cycle counter is the time
that frames, scanlines and the cycle inside the scanline spell out.
-/

namespace NeoRecomp

/-! ## What a scanline leaves of the clock -/

namespace RasterState

theorem timerExpired_toTimingState (r : RasterState) :
    r.timerExpired.toTimingState = r.toTimingState := by
  unfold timerExpired
  dsimp only
  split <;> split <;> rfl

theorem advanceTimerTurns_toTimingState (turns : Nat) (ticks : BitVec 32) (r : RasterState) :
    (advanceTimerTurns turns ticks r).toTimingState = r.toTimingState := by
  induction turns generalizing ticks r with
  | zero => rfl
  | succ turns ih =>
    unfold advanceTimerTurns
    split
    · rfl
    · dsimp only
      split
      · rfl
      · rw [ih, timerExpired_toTimingState]

theorem beginVblank_toTimingState (r : RasterState) :
    r.ngNeogeoBeginVblank.toTimingState =
      { r.toTimingState with frameCount := r.frameCount + 1 } := by
  unfold ngNeogeoBeginVblank
  dsimp only
  split <;> rfl

end RasterState

/-- The clock after a scanline. -/
def TimingState.afterScanline (t : TimingState) : TimingState :=
  let scanline := ((t.currentScanline.setWidth 32 + 1) %
    BitVec.ofNat 32 ngNeoNtscScanlinesPerFrame).setWidth 16
  { t with
    scanlineCycle := 0
    currentScanline := scanline
    frameCount := if scanline = 0 then t.frameCount + 1 else t.frameCount }

theorem RasterState.advanceScanline_toTimingState (r : RasterState) :
    r.ngNeogeoAdvanceScanline.toTimingState = r.toTimingState.afterScanline := by
  unfold ngNeogeoAdvanceScanline ngNeogeoAdvanceTimer
  dsimp only
  generalize hr : advanceTimerTurns _ _ _ = r'
  have ht : r'.toTimingState = { r.toTimingState with scanlineCycle := 0 } := by
    rw [← hr, advanceTimerTurns_toTimingState]
  have hn : r'.nextScanline.currentScanline =
      ((r.currentScanline.setWidth 32 + 1) %
        BitVec.ofNat 32 ngNeoNtscScanlinesPerFrame).setWidth 16 := by
    rw [nextScanline, ht]
  unfold TimingState.afterScanline
  rw [hn]
  dsimp only
  by_cases h0 : ((r.currentScanline.setWidth 32 + 1) %
      BitVec.ofNat 32 ngNeoNtscScanlinesPerFrame).setWidth 16 = 0
  · rw [if_pos h0, if_pos h0, beginVblank_toTimingState]
    unfold nextScanline
    rw [ht]
  · rw [if_neg h0, if_neg h0]
    unfold nextScanline
    rw [ht]

/-! ## Watchdog checks -/

namespace WatchdogState

/-- The watchdog without the two statistics that depend on when it was checked. -/
def forget (w : WatchdogState) : WatchdogState :=
  { w with watchdogMaxGapCycles := 0, watchdogLastResetCycle := 0 }

/-- Cycles since the last kick. -/
def gap (w : WatchdogState) (t : TimingState) : BitVec 64 := t.cpuCycles - w.watchdogLastKickCycle

/-- The check at a time finds the watchdog run out: in cycles, once they are counted and limited,
else in polls. -/
def TimedOut (w : WatchdogState) (t : TimingState) : Prop :=
  if t.cycleTimingActive ≠ 0 ∧ w.watchdogTimeoutCycles ≠ 0 then
    w.watchdogTimeoutCycles.setWidth 64 ≤ w.gap t
  else
    w.watchdogTimeoutPolls ≠ 0 ∧ w.watchdogTimeoutPolls ≤ t.interruptPolls - w.watchdogLastKickPoll

/-- The gap that made it run out enters the statistics of its mode. -/
def noteGap (w : WatchdogState) (t : TimingState) : WatchdogState :=
  if t.cycleTimingActive ≠ 0 ∧ w.watchdogTimeoutCycles ≠ 0 then
    { w with
      watchdogMaxGapCycles :=
        if w.watchdogMaxGapCycles < w.gap t then w.gap t else w.watchdogMaxGapCycles }
  else
    let gap := t.interruptPolls - w.watchdogLastKickPoll
    { w with
      watchdogMaxGapPolls :=
        if w.watchdogMaxGapPolls < gap then gap else w.watchdogMaxGapPolls }

variable {w w' : WatchdogState} {t t' : TimingState} {pc : BitVec 32}

theorem update_of_pending (h : w.watchdogResetPending ≠ 0) :
    w.ngNeogeoUpdateWatchdogTimeout t pc = w := if_pos h

theorem update_of_not_timedOut (h : ¬ w.TimedOut t) : w.ngNeogeoUpdateWatchdogTimeout t pc = w := by
  unfold TimedOut at h
  unfold ngNeogeoUpdateWatchdogTimeout
  split
  · rfl
  · split
    · next hc =>
      rw [if_pos hc, BitVec.not_le] at h
      exact if_pos h
    · next hc =>
      rw [if_neg hc, not_and] at h
      split
      · rfl
      · next hp => exact if_pos (BitVec.not_le.mp (h hp))

theorem update_of_timedOut (hp : w.watchdogResetPending = 0) (h : w.TimedOut t) :
    w.ngNeogeoUpdateWatchdogTimeout t pc = (w.noteGap t).expire t pc := by
  unfold TimedOut at h
  unfold ngNeogeoUpdateWatchdogTimeout noteGap
  rw [if_neg (not_not.mpr hp)]
  split
  · next hc =>
    rw [if_pos hc] at h
    exact if_neg (BitVec.not_lt.mpr h)
  · next hc =>
    rw [if_neg hc] at h
    rw [if_neg h.1]
    exact if_neg (BitVec.not_lt.mpr h.2)

theorem expire_pending : (w.expire t pc).watchdogResetPending ≠ 0 := by
  show (1 : BitVec 8) ≠ 0
  decide

/-- What a check that finds it run out leaves, but for the statistics, depends on the time only
through its mode and its polls. -/
theorem expire_forget (h : w.forget = w'.forget) (ha : t'.cycleTimingActive = t.cycleTimingActive)
    (hp : t'.interruptPolls = t.interruptPolls) :
    ((w.noteGap t).expire t pc).forget = ((w'.noteGap t').expire t' pc).forget := by
  have hforget : ∀ (v : WatchdogState) (u : TimingState),
      ((v.noteGap u).expire u pc).forget = ((v.forget.noteGap u).expire u pc).forget := by
    intro v u
    unfold noteGap
    show _ = ((if u.cycleTimingActive ≠ 0 ∧ v.watchdogTimeoutCycles ≠ 0 then _ else _ :
      WatchdogState).expire u pc).forget
    split <;> rfl
  rw [hforget w, hforget w', h]
  unfold noteGap
  rw [ha, hp]
  split
  · unfold expire
    rw [hp]
    rfl
  · unfold expire
    rw [hp]
    rfl

theorem timedOut_forget (h : w.forget = w'.forget) (t : TimingState) : w.TimedOut t ↔ w'.TimedOut t := by
  show w.forget.TimedOut t ↔ w'.forget.TimedOut t
  rw [h]

/-- The forgotten statistics do not enter a check. -/
theorem update_forget_congr (h : w.forget = w'.forget) (t : TimingState) (pc : BitVec 32) :
    (w.ngNeogeoUpdateWatchdogTimeout t pc).forget =
      (w'.ngNeogeoUpdateWatchdogTimeout t pc).forget := by
  have hpend : w.watchdogResetPending = w'.watchdogResetPending := by
    show w.forget.watchdogResetPending = w'.forget.watchdogResetPending
    rw [h]
  by_cases hp : w.watchdogResetPending = 0
  · by_cases ht : w.TimedOut t
    · rw [update_of_timedOut hp ht, update_of_timedOut (hpend ▸ hp) ((timedOut_forget h t).mp ht)]
      exact expire_forget h rfl rfl
    · rw [update_of_not_timedOut ht, update_of_not_timedOut (mt (timedOut_forget h t).mpr ht), h]
  · rw [update_of_pending hp, update_of_pending (hpend ▸ hp), h]

/-- A check that comes before another one at a later time changes nothing of what the later one
leaves. -/
theorem update_update_forget (ha : t'.cycleTimingActive = t.cycleTimingActive)
    (hp : t'.interruptPolls = t.interruptPolls)
    (hgap : w.watchdogResetPending ≠ 0 ∨ w.watchdogTimeoutCycles = 0 ∨ w.gap t ≤ w.gap t') :
    ((w.ngNeogeoUpdateWatchdogTimeout t pc).ngNeogeoUpdateWatchdogTimeout t' pc).forget =
      (w.ngNeogeoUpdateWatchdogTimeout t' pc).forget := by
  by_cases hpend : w.watchdogResetPending = 0
  · by_cases ht : w.TimedOut t
    · -- It has run out at the earlier time, so at the later one too.
      have ht' : w.TimedOut t' := by
        unfold TimedOut at ht ⊢
        rw [ha, hp]
        split
        · next hc =>
          rw [if_pos hc] at ht
          rcases hgap with h | h | h
          · exact absurd hpend h
          · exact absurd h hc.2
          · exact BitVec.le_trans ht h
        · next hc =>
          rw [if_neg hc] at ht
          exact ht
      rw [update_of_timedOut hpend ht, update_of_pending expire_pending,
        update_of_timedOut hpend ht']
      exact expire_forget rfl ha hp
    · rw [update_of_not_timedOut ht]
  · rw [update_of_pending hpend]

/-- A check neither clears a pending reset nor moves the limit or the last kick. -/
theorem update_keeps (w : WatchdogState) (t : TimingState) (pc : BitVec 32) :
    (w.watchdogResetPending ≠ 0 →
        (w.ngNeogeoUpdateWatchdogTimeout t pc).watchdogResetPending ≠ 0) ∧
      (w.ngNeogeoUpdateWatchdogTimeout t pc).watchdogTimeoutCycles = w.watchdogTimeoutCycles ∧
      (w.ngNeogeoUpdateWatchdogTimeout t pc).watchdogLastKickCycle = w.watchdogLastKickCycle := by
  by_cases hp : w.watchdogResetPending = 0
  · refine ⟨fun h => absurd hp h, ?_⟩
    by_cases ht : w.TimedOut t
    · rw [update_of_timedOut hp ht]
      unfold noteGap
      split <;> exact ⟨rfl, rfl⟩
    · rw [update_of_not_timedOut ht]
      exact ⟨rfl, rfl⟩
  · rw [update_of_pending hp]
    exact ⟨id, rfl, rfl⟩

end WatchdogState

/-! ## The cycle loop -/

namespace NeogeoRuntime

/-- The state without the two statistics. -/
def forgetStatistics (rt : NeogeoRuntime) : NeogeoRuntime :=
  { rt with toWatchdogState := rt.toWatchdogState.forget }

/-- The same state with another watchdog. -/
def setWatchdog (rt : NeogeoRuntime) (w : WatchdogState) : NeogeoRuntime :=
  { rt with toWatchdogState := w }

/-- The gap of an armed watchdog does not wrap within the next `n` cycles. -/
def GapFits (rt : NeogeoRuntime) (n : Nat) : Prop :=
  rt.watchdogResetPending ≠ 0 ∨ rt.watchdogTimeoutCycles = 0 ∨
    (rt.cpuCycles - rt.watchdogLastKickCycle).toNat + n < 2 ^ 64

variable {rt : NeogeoRuntime} {w : WatchdogState}

theorem forgetStatistics_setWatchdog (h : w.forget = rt.toWatchdogState.forget) :
    (rt.setWatchdog w).forgetStatistics = rt.forgetStatistics := by
  show { rt with toWatchdogState := w.forget } = _
  rw [h]
  rfl

theorem eq_setWatchdog_of_forget {rt' : NeogeoRuntime}
    (h : rt'.forgetStatistics = rt.forgetStatistics) :
    rt' = rt.setWatchdog rt'.toWatchdogState ∧
      rt'.toWatchdogState.forget = rt.toWatchdogState.forget := by
  refine ⟨?_, congrArg NeogeoRuntime.toWatchdogState h⟩
  show (rt'.forgetStatistics).setWatchdog rt'.toWatchdogState = _
  rw [h]
  rfl

/-- The loop with enough turns for its cycles. -/
def advanceCycles (rt : NeogeoRuntime) (cycles : BitVec 32) : NeogeoRuntime :=
  advanceCpuCyclesTurns (cycles.toNat + 1) cycles rt

theorem toNat_cyclesUntilScanline (h : rt.scanlineCycle.toNat < 768) :
    rt.cyclesUntilScanline.toNat = 768 - rt.scanlineCycle.toNat := by
  unfold cyclesUntilScanline
  exact BitVec.toNat_sub_of_le (Nat.le_of_lt h)

theorem finishScanline_toTimingState (rt : NeogeoRuntime) :
    rt.finishScanline.toTimingState = TimingState.afterScanline { rt.toTimingState with
      cpuCycles := rt.cpuCycles + rt.cyclesUntilScanline.setWidth 64, scanlineCycle := 0 } :=
  RasterState.advanceScanline_toTimingState _

theorem finishScanline_scanlineCycle (rt : NeogeoRuntime) :
    rt.finishScanline.scanlineCycle.toNat < 768 := by
  rw [finishScanline_toTimingState]
  show (0 : BitVec 32).toNat < 768
  decide

/-- More turns than cycles make no difference. -/
theorem advanceCpuCyclesTurns_fuel {turns turns' : Nat} {cycles : BitVec 32}
    (hs : rt.scanlineCycle.toNat < 768) (h : cycles.toNat < turns) (h' : cycles.toNat < turns') :
    advanceCpuCyclesTurns turns cycles rt = advanceCpuCyclesTurns turns' cycles rt := by
  induction turns generalizing turns' cycles rt with
  | zero => omega
  | succ turns ih =>
    obtain ⟨turns', rfl⟩ : ∃ n, turns' = n + 1 := ⟨turns' - 1, by omega⟩
    unfold advanceCpuCyclesTurns
    split
    · rfl
    · split
      · rfl
      · next hlt =>
        have hle : rt.cyclesUntilScanline.toNat ≤ cycles.toNat := Nat.le_of_not_lt hlt
        have hsub : (cycles - rt.cyclesUntilScanline).toNat =
            cycles.toNat - rt.cyclesUntilScanline.toNat := BitVec.toNat_sub_of_le hle
        have huntil := toNat_cyclesUntilScanline hs
        exact ih rt.finishScanline_scanlineCycle (by omega) (by omega)

theorem advanceCycles_zero (rt : NeogeoRuntime) : rt.advanceCycles 0 = rt := rfl

theorem advanceCycles_within {cycles : BitVec 32} (h0 : cycles ≠ 0)
    (h : cycles < rt.cyclesUntilScanline) :
    rt.advanceCycles cycles = rt.advanceWithinScanline cycles := by
  unfold advanceCycles advanceCpuCyclesTurns
  rw [if_neg h0, if_pos h]

theorem advanceCycles_across {cycles : BitVec 32} (hs : rt.scanlineCycle.toNat < 768)
    (h : rt.cyclesUntilScanline ≤ cycles) :
    rt.advanceCycles cycles = rt.finishScanline.advanceCycles (cycles - rt.cyclesUntilScanline) := by
  have huntil := toNat_cyclesUntilScanline hs
  have hsub := BitVec.toNat_sub_of_le h
  have hle : rt.cyclesUntilScanline.toNat ≤ cycles.toNat := h
  have h0 : cycles ≠ 0 := by
    rintro rfl
    have : (0 : BitVec 32).toNat = 0 := rfl
    omega
  unfold advanceCycles
  rw [advanceCpuCyclesTurns, if_neg h0, if_neg (BitVec.not_lt.mpr h)]
  exact advanceCpuCyclesTurns_fuel rt.finishScanline_scanlineCycle (by omega) (by omega)

/-- Neither do the forgotten statistics. -/
theorem advanceCpuCyclesTurns_forget (turns : Nat) (cycles : BitVec 32)
    (h : w.forget = rt.toWatchdogState.forget) :
    (advanceCpuCyclesTurns turns cycles (rt.setWatchdog w)).forgetStatistics =
      (advanceCpuCyclesTurns turns cycles rt).forgetStatistics := by
  induction turns generalizing cycles rt w with
  | zero => exact forgetStatistics_setWatchdog h
  | succ turns ih =>
    unfold advanceCpuCyclesTurns
    show (if cycles = 0 then rt.setWatchdog w
      else if cycles < rt.cyclesUntilScanline then (rt.setWatchdog w).advanceWithinScanline cycles
      else advanceCpuCyclesTurns turns (cycles - rt.cyclesUntilScanline)
        (rt.setWatchdog w).finishScanline).forgetStatistics = _
    split
    · exact forgetStatistics_setWatchdog h
    · split
      · exact @forgetStatistics_setWatchdog (rt.advanceWithinScanline cycles) _
          (WatchdogState.update_forget_congr h _ _)
      · exact @ih rt.finishScanline _ (cycles - rt.cyclesUntilScanline)
          (WatchdogState.update_forget_congr h _ _)

theorem advanceCycles_forget_congr {rt' : NeogeoRuntime}
    (h : rt'.forgetStatistics = rt.forgetStatistics) (cycles : BitVec 32) :
    (rt'.advanceCycles cycles).forgetStatistics = (rt.advanceCycles cycles).forgetStatistics := by
  obtain ⟨heq, hw⟩ := eq_setWatchdog_of_forget h
  rw [heq]
  exact advanceCpuCyclesTurns_forget _ _ hw

/-! ## Batches -/

/-- Time passes for the gap as it does for the cycle counter. -/
theorem toNat_gap_add {c k : BitVec 64} {n : Nat} (h : (c - k).toNat + n < 2 ^ 64) :
    (c + BitVec.ofNat 64 n - k).toNat = (c - k).toNat + n := by
  have hgap := BitVec.toNat_sub c k
  have hc := c.isLt
  have hk := k.isLt
  rw [BitVec.toNat_sub, BitVec.toNat_add, BitVec.toNat_ofNat]
  omega

theorem setWidth_eq_ofNat (cycles : BitVec 32) :
    cycles.setWidth 64 = BitVec.ofNat 64 cycles.toNat := (BitVec.ofNat_toNat 64 cycles).symm

/-- A check `m` cycles from now, before one that comes `n` cycles from now. -/
theorem GapFits.gap_le {m n : BitVec 32} (h : rt.GapFits n.toNat) (hmn : m.toNat ≤ n.toNat)
    {t t' : TimingState} (ht : t.cpuCycles = rt.cpuCycles + m.setWidth 64)
    (ht' : t'.cpuCycles = rt.cpuCycles + n.setWidth 64) :
    rt.watchdogResetPending ≠ 0 ∨ rt.watchdogTimeoutCycles = 0 ∨
      rt.toWatchdogState.gap t ≤ rt.toWatchdogState.gap t' := by
  rcases h with h | h | h
  · exact .inl h
  · exact .inr (.inl h)
  · refine .inr (.inr ?_)
    show (t.cpuCycles - _).toNat ≤ (t'.cpuCycles - _).toNat
    rw [ht, ht', setWidth_eq_ofNat, setWidth_eq_ofNat, toNat_gap_add h, toNat_gap_add (by omega)]
    omega

/-- The state at another time of the same scanline. -/
def atTime (rt : NeogeoRuntime) (scanlineCycle : BitVec 32) (cpuCycles : BitVec 64) :
    NeogeoRuntime :=
  { rt with scanlineCycle := scanlineCycle, cpuCycles := cpuCycles }

/-- The scanline finished at a time, with a watchdog to check. -/
def finishAt (rt : NeogeoRuntime) (cpuCycles : BitVec 64) (w : WatchdogState) : NeogeoRuntime :=
  let rt := (rt.atTime 0 cpuCycles).setWatchdog w
  { rt with toRasterState := rt.toRasterState.ngNeogeoAdvanceScanline }.ngNeogeoUpdateWatchdogTimeout

theorem advanceWithinScanline_twice {a b : BitVec 32} (hab : a.toNat + b.toNat < 2 ^ 32)
    (hgap : rt.GapFits (a.toNat + b.toNat)) :
    ((rt.advanceWithinScanline a).advanceWithinScanline b).forgetStatistics =
      (rt.advanceWithinScanline (a + b)).forgetStatistics := by
  have hsum : (a + b).toNat = a.toNat + b.toNat := BitVec.toNat_add_of_lt hab
  have hcpu : rt.cpuCycles + a.setWidth 64 + b.setWidth 64 =
      rt.cpuCycles + (a + b).setWidth 64 := by
    rw [BitVec.add_assoc, setWidth_eq_ofNat, setWidth_eq_ofNat, setWidth_eq_ofNat, hsum,
      BitVec.ofNat_add]
  have hsc : rt.scanlineCycle + a + b = rt.scanlineCycle + (a + b) := BitVec.add_assoc ..
  have htwice : (rt.advanceWithinScanline a).advanceWithinScanline b =
      ((rt.atTime (rt.scanlineCycle + a + b)
        (rt.cpuCycles + a.setWidth 64 + b.setWidth 64)).setWatchdog
          (rt.advanceWithinScanline a).toWatchdogState).ngNeogeoUpdateWatchdogTimeout := rfl
  rw [htwice, hsc, hcpu]
  apply @forgetStatistics_setWatchdog (rt.advanceWithinScanline (a + b)) _
  rw [← hsum] at hgap
  exact WatchdogState.update_update_forget rfl rfl (hgap.gap_le (by omega) rfl rfl)

/-- Cycles inside a scanline, before it is finished. -/
theorem finishScanline_within {a : BitVec 32} (hs : rt.scanlineCycle.toNat < 768)
    (ha : a < rt.cyclesUntilScanline) (hgap : rt.GapFits rt.cyclesUntilScanline.toNat) :
    (rt.advanceWithinScanline a).finishScanline.forgetStatistics =
      rt.finishScanline.forgetStatistics := by
  have hlt : a.toNat < rt.cyclesUntilScanline.toNat := ha
  have huntil := toNat_cyclesUntilScanline hs
  have hsc : (rt.scanlineCycle + a).toNat = rt.scanlineCycle.toNat + a.toNat :=
    BitVec.toNat_add_of_lt (by omega)
  have hrest : (rt.advanceWithinScanline a).cyclesUntilScanline.toNat =
      768 - (rt.scanlineCycle + a).toNat :=
    @toNat_cyclesUntilScanline (rt.advanceWithinScanline a) (hsc.trans_lt (by omega))
  have hcpu : rt.cpuCycles + a.setWidth 64 +
      (rt.advanceWithinScanline a).cyclesUntilScanline.setWidth 64 =
        rt.cpuCycles + rt.cyclesUntilScanline.setWidth 64 := by
    rw [BitVec.add_assoc, setWidth_eq_ofNat, setWidth_eq_ofNat, setWidth_eq_ofNat, hrest,
      ← BitVec.ofNat_add, show a.toNat + (768 - (rt.scanlineCycle + a).toNat) =
        rt.cyclesUntilScanline.toNat by omega]
  have hfinish : (rt.advanceWithinScanline a).finishScanline =
      finishAt rt (rt.cpuCycles + a.setWidth 64 +
        (rt.advanceWithinScanline a).cyclesUntilScanline.setWidth 64)
          (rt.advanceWithinScanline a).toWatchdogState := rfl
  rw [hfinish, hcpu]
  apply @forgetStatistics_setWatchdog rt.finishScanline _
  have hactive : rt.finishScanline.cycleTimingActive = rt.cycleTimingActive := by
    rw [finishScanline_toTimingState]
    rfl
  have hpolls : rt.finishScanline.interruptPolls = rt.interruptPolls := by
    rw [finishScanline_toTimingState]
    rfl
  have hcycles : rt.finishScanline.toTimingState.cpuCycles =
      rt.cpuCycles + rt.cyclesUntilScanline.setWidth 64 := by
    rw [finishScanline_toTimingState]
    rfl
  exact WatchdogState.update_update_forget hactive hpolls
    (hgap.gap_le (Nat.le_of_lt hlt) rfl hcycles)

theorem GapFits.mono {m n : Nat} (h : rt.GapFits n) (hmn : m ≤ n) : rt.GapFits m := by
  rcases h with h | h | h
  · exact .inl h
  · exact .inr (.inl h)
  · exact .inr (.inr (by omega))

/-- Finishing the scanline takes its cycles off the room of the gap. -/
theorem GapFits.finishScanline {n : Nat} (h : rt.GapFits (rt.cyclesUntilScanline.toNat + n)) :
    rt.finishScanline.GapFits n := by
  obtain ⟨hp, ht, hk⟩ := WatchdogState.update_keeps rt.toWatchdogState
    rt.finishScanline.toTimingState rt.m68k.pc
  rcases h with h | h | h
  · exact .inl (hp h)
  · exact .inr (.inl (ht.trans h))
  · refine .inr (.inr ?_)
    have hkick : rt.finishScanline.watchdogLastKickCycle = rt.watchdogLastKickCycle := hk
    have htime : rt.finishScanline.toTimingState.cpuCycles =
        rt.cpuCycles + rt.cyclesUntilScanline.setWidth 64 := by
      rw [finishScanline_toTimingState]
      rfl
    rw [hkick, htime, setWidth_eq_ofNat, toNat_gap_add (by omega)]
    omega

/-- The first of two batches stays inside the scanline. -/
theorem advanceCycles_add_within {a b : BitVec 32} (hs : rt.scanlineCycle.toNat < 768)
    (hab : a.toNat + b.toNat < 2 ^ 32) (hgap : rt.GapFits (a.toNat + b.toNat)) (ha0 : a ≠ 0)
    (hb0 : b ≠ 0) (ha : a < rt.cyclesUntilScanline) :
    ((rt.advanceCycles a).advanceCycles b).forgetStatistics =
      (rt.advanceCycles (a + b)).forgetStatistics := by
  have hsum : (a + b).toNat = a.toNat + b.toNat := BitVec.toNat_add_of_lt hab
  have hpos : a.toNat ≠ 0 := fun h => ha0 (BitVec.eq_of_toNat_eq h)
  have halt : a.toNat < rt.cyclesUntilScanline.toNat := ha
  have huntil := toNat_cyclesUntilScanline hs
  have hsc : (rt.scanlineCycle + a).toNat = rt.scanlineCycle.toNat + a.toNat :=
    BitVec.toNat_add_of_lt (by omega)
  have hs' : (rt.advanceWithinScanline a).scanlineCycle.toNat < 768 := hsc.trans_lt (by omega)
  have hrest : (rt.advanceWithinScanline a).cyclesUntilScanline.toNat =
      768 - (rt.scanlineCycle + a).toNat := toNat_cyclesUntilScanline hs'
  rw [advanceCycles_within ha0 ha]
  by_cases hb : b < (rt.advanceWithinScanline a).cyclesUntilScanline
  · have hblt : b.toNat < (rt.advanceWithinScanline a).cyclesUntilScanline.toNat := hb
    have hablt : a + b < rt.cyclesUntilScanline := by
      show (a + b).toNat < rt.cyclesUntilScanline.toNat
      omega
    have hne : a + b ≠ 0 := by
      intro h
      rw [h] at hsum
      have : (0 : BitVec 32).toNat = 0 := rfl
      omega
    rw [advanceCycles_within hb0 hb, advanceCycles_within hne hablt]
    exact advanceWithinScanline_twice hab hgap
  · have hle : (rt.advanceWithinScanline a).cyclesUntilScanline ≤ b := BitVec.not_lt.mp hb
    have hble : (rt.advanceWithinScanline a).cyclesUntilScanline.toNat ≤ b.toNat := hle
    have hable : rt.cyclesUntilScanline ≤ a + b := by
      show rt.cyclesUntilScanline.toNat ≤ (a + b).toNat
      omega
    have hleft : b - (rt.advanceWithinScanline a).cyclesUntilScanline =
        a + b - rt.cyclesUntilScanline := by
      apply BitVec.eq_of_toNat_eq
      rw [BitVec.toNat_sub_of_le hle, BitVec.toNat_sub_of_le hable]
      omega
    rw [advanceCycles_across hs' hle, advanceCycles_across hs hable, hleft]
    exact advanceCycles_forget_congr (finishScanline_within hs ha (hgap.mono (by omega))) _

/-- Two batches are one, up to the statistics. -/
theorem advanceCycles_add {a b : BitVec 32} (hs : rt.scanlineCycle.toNat < 768)
    (hab : a.toNat + b.toNat < 2 ^ 32) (hgap : rt.GapFits (a.toNat + b.toNat)) :
    ((rt.advanceCycles a).advanceCycles b).forgetStatistics =
      (rt.advanceCycles (a + b)).forgetStatistics := by
  -- Induction on the cycles of the first batch, a scanline at a time.
  induction hn : a.toNat using Nat.strong_induction_on generalizing rt a with
  | _ n ih =>
  by_cases ha0 : a = 0
  · rw [ha0, advanceCycles_zero]
    exact congrArg (fun x => (rt.advanceCycles x).forgetStatistics) (BitVec.zero_add b).symm
  by_cases hb0 : b = 0
  · rw [hb0, advanceCycles_zero]
    exact congrArg (fun x => (rt.advanceCycles x).forgetStatistics) (BitVec.add_zero a).symm
  by_cases ha : a < rt.cyclesUntilScanline
  · exact advanceCycles_add_within hs hab hgap ha0 hb0 ha
  · have hle : rt.cyclesUntilScanline ≤ a := BitVec.not_lt.mp ha
    have hlen : rt.cyclesUntilScanline.toNat ≤ a.toNat := hle
    have hsub := BitVec.toNat_sub_of_le hle
    have huntil := toNat_cyclesUntilScanline hs
    have hable : rt.cyclesUntilScanline ≤ a + b := by
      show rt.cyclesUntilScanline.toNat ≤ (a + b).toNat
      rw [BitVec.toNat_add_of_lt hab]
      omega
    have hleft : a + b - rt.cyclesUntilScanline = a - rt.cyclesUntilScanline + b := by
      apply BitVec.eq_of_toNat_eq
      rw [BitVec.toNat_sub_of_le hable, BitVec.toNat_add_of_lt hab,
        BitVec.toNat_add_of_lt (by omega), hsub]
      omega
    rw [advanceCycles_across hs hle, advanceCycles_across hs hable, hleft]
    refine ih _ (by omega) rt.finishScanline_scanlineCycle (by omega) ?_ rfl
    exact GapFits.finishScanline (hgap.mono (by omega))

/-! ## Calls -/

theorem advanceCpuCyclesTurns_active (turns : Nat) (cycles : BitVec 32) (rt : NeogeoRuntime) :
    (advanceCpuCyclesTurns turns cycles rt).cycleTimingActive = rt.cycleTimingActive := by
  induction turns generalizing cycles rt with
  | zero => rfl
  | succ turns ih =>
    unfold advanceCpuCyclesTurns
    split
    · rfl
    · split
      · rfl
      · rw [ih, finishScanline_toTimingState]
        rfl

theorem advanceCpuCycles_of_ne {cycles : BitVec 32} (h : cycles ≠ 0) :
    rt.ngNeogeoAdvanceCpuCycles cycles =
      { rt with cycleTimingActive := 1 }.advanceCycles cycles := if_neg h

theorem advanceCpuCycles_zero (rt : NeogeoRuntime) : rt.ngNeogeoAdvanceCpuCycles 0 = rt := rfl

theorem advanceCpuCycles_add {a b : BitVec 32} (hs : rt.scanlineCycle.toNat < 768)
    (hab : a.toNat + b.toNat < 2 ^ 32) (hgap : rt.GapFits (a.toNat + b.toNat)) :
    ((rt.ngNeogeoAdvanceCpuCycles a).ngNeogeoAdvanceCpuCycles b).forgetStatistics =
      (rt.ngNeogeoAdvanceCpuCycles (a + b)).forgetStatistics := by
  by_cases ha0 : a = 0
  · rw [ha0, advanceCpuCycles_zero]
    exact congrArg (fun x => (rt.ngNeogeoAdvanceCpuCycles x).forgetStatistics)
      (BitVec.zero_add b).symm
  by_cases hb0 : b = 0
  · rw [hb0, advanceCpuCycles_zero]
    exact congrArg (fun x => (rt.ngNeogeoAdvanceCpuCycles x).forgetStatistics)
      (BitVec.add_zero a).symm
  have hne : a + b ≠ 0 := by
    intro h
    have hsum := BitVec.toNat_add_of_lt hab
    rw [h] at hsum
    have : a.toNat ≠ 0 := fun h => ha0 (BitVec.eq_of_toNat_eq h)
    have : (0 : BitVec 32).toNat = 0 := rfl
    omega
  have hadd := @advanceCycles_add { rt with cycleTimingActive := 1 } a b hs hab hgap
  have hactive : ∀ rt' : NeogeoRuntime, rt'.cycleTimingActive = 1 →
      { rt' with cycleTimingActive := 1 } = rt' := by
    intro rt' h
    rw [← h]
  rw [advanceCpuCycles_of_ne ha0, advanceCpuCycles_of_ne hb0, advanceCpuCycles_of_ne hne,
    hactive _ (advanceCpuCyclesTurns_active _ _ _)]
  exact hadd

/-! ## The clock -/

/-- The clock `n` cycles after a reset. -/
structure ClockAt (n : Nat) (t : TimingState) : Prop where
  cycles : t.cpuCycles.toNat = n % 2 ^ 64
  scanlineCycle : t.scanlineCycle.toNat = n % 768
  scanline : t.currentScanline.toNat = n / 768 % 264
  frames : t.frameCount.toNat = n / 768 / 264 % 2 ^ 32

theorem ClockAt.within {n : Nat} {cycles : BitVec 32} (h : ClockAt n rt.toTimingState)
    (hlt : cycles.toNat < 768 - n % 768) :
    ClockAt (n + cycles.toNat) (rt.advanceWithinScanline cycles).toTimingState := by
  have hline : (n + cycles.toNat) / 768 = n / 768 := by omega
  refine ⟨?_, ?_, ?_, ?_⟩
  · show (rt.cpuCycles + cycles.setWidth 64).toNat = _
    rw [setWidth_eq_ofNat, BitVec.toNat_add, BitVec.toNat_ofNat, h.cycles]
    omega
  · show (rt.scanlineCycle + cycles).toNat = _
    have := h.scanlineCycle
    rw [BitVec.toNat_add_of_lt (by omega)]
    omega
  · rw [hline]
    exact h.scanline
  · rw [hline]
    exact h.frames

theorem ClockAt.finishScanline {n : Nat} (h : ClockAt n rt.toTimingState) :
    ClockAt (n + (768 - n % 768)) rt.finishScanline.toTimingState := by
  have hs : rt.scanlineCycle.toNat < 768 := h.scanlineCycle.trans_lt (Nat.mod_lt _ (by decide))
  have huntil := toNat_cyclesUntilScanline hs
  have hline : (n + (768 - n % 768)) / 768 = n / 768 + 1 := by omega
  have hnext : (((rt.currentScanline.setWidth 32 + 1) %
      BitVec.ofNat 32 ngNeoNtscScanlinesPerFrame).setWidth 16).toNat = (n / 768 + 1) % 264 := by
    rw [BitVec.toNat_setWidth, BitVec.toNat_umod, BitVec.toNat_add, BitVec.toNat_setWidth,
      h.scanline]
    show ((n / 768 % 264 % 2 ^ 32 + 1) % 2 ^ 32) % 264 % 2 ^ 16 = (n / 768 + 1) % 264
    omega
  rw [finishScanline_toTimingState]
  refine ⟨?_, ?_, ?_, ?_⟩
  · show (rt.cpuCycles + rt.cyclesUntilScanline.setWidth 64).toNat = _
    rw [setWidth_eq_ofNat, BitVec.toNat_add, BitVec.toNat_ofNat, h.cycles, huntil, h.scanlineCycle]
    omega
  · show (0 : BitVec 32).toNat = _
    have : (0 : BitVec 32).toNat = 0 := rfl
    omega
  · rw [hline]
    exact hnext
  · rw [hline]
    show (if ((rt.currentScanline.setWidth 32 + 1) %
        BitVec.ofNat 32 ngNeoNtscScanlinesPerFrame).setWidth 16 = 0
      then rt.frameCount + 1 else rt.frameCount).toNat = _
    have hframes := h.frames
    split
    · next h0 =>
      rw [h0] at hnext
      have : (0 : BitVec 16).toNat = 0 := rfl
      rw [BitVec.toNat_add, hframes]
      show (n / 768 / 264 % 2 ^ 32 + 1) % 2 ^ 32 = _
      omega
    · next h0 =>
      have : (n / 768 + 1) % 264 ≠ 0 := by
        intro hz
        rw [← hnext] at hz
        exact h0 (BitVec.eq_of_toNat_eq hz)
      rw [hframes]
      omega

theorem ClockAt.advanceCycles {n : Nat} {cycles : BitVec 32} (h : ClockAt n rt.toTimingState) :
    ClockAt (n + cycles.toNat) (rt.advanceCycles cycles).toTimingState := by
  -- Induction on the cycles, a scanline at a time.
  induction hc : cycles.toNat using Nat.strong_induction_on generalizing rt n cycles with
  | _ c ih =>
  have hs : rt.scanlineCycle.toNat < 768 := h.scanlineCycle.trans_lt (Nat.mod_lt _ (by decide))
  have huntil := (toNat_cyclesUntilScanline hs).trans (congrArg (768 - ·) h.scanlineCycle)
  by_cases h0 : cycles = 0
  · rw [← hc, h0, advanceCycles_zero]
    exact h
  by_cases hlt : cycles < rt.cyclesUntilScanline
  · rw [advanceCycles_within h0 hlt, ← hc]
    exact h.within (huntil ▸ hlt)
  · have hle : rt.cyclesUntilScanline ≤ cycles := BitVec.not_lt.mp hlt
    have hlen : rt.cyclesUntilScanline.toNat ≤ cycles.toNat := hle
    have hsub := BitVec.toNat_sub_of_le hle
    have hmod := Nat.mod_lt n (show 768 > 0 by decide)
    have hnext := ih (cycles - rt.cyclesUntilScanline).toNat (by omega) h.finishScanline rfl
    rw [advanceCycles_across hs hle]
    rwa [hsub, huntil, show n + (768 - n % 768) + (cycles.toNat - (768 - n % 768)) = n + c by omega]
      at hnext

theorem ClockAt.advanceCpuCycles {n : Nat} {cycles : BitVec 32} (h : ClockAt n rt.toTimingState) :
    ClockAt (n + cycles.toNat) (rt.ngNeogeoAdvanceCpuCycles cycles).toTimingState := by
  by_cases h0 : cycles = 0
  · rw [h0, advanceCpuCycles_zero]
    exact h
  · rw [advanceCpuCycles_of_ne h0]
    exact @ClockAt.advanceCycles { rt with cycleTimingActive := 1 } _ _
      ⟨h.cycles, h.scanlineCycle, h.scanline, h.frames⟩

theorem ClockAt.calls {n : Nat} (h : ClockAt n rt.toTimingState) (calls : List (BitVec 32)) :
    ClockAt (n + (calls.map BitVec.toNat).sum)
      (calls.foldl ngNeogeoAdvanceCpuCycles rt).toTimingState := by
  induction calls generalizing rt n with
  | nil => exact h
  | cons cycles calls ih =>
    have := ih (@ClockAt.advanceCpuCycles rt n cycles h)
    rwa [Nat.add_assoc] at this

theorem reset_clockAt (rt : NeogeoRuntime) : ClockAt 0 rt.ngNeogeoResetRuntime.toTimingState :=
  ⟨rfl, rfl, rfl, rfl⟩

end NeogeoRuntime

open NeogeoRuntime

/-- Batches of cycles add up, where the gap of an armed watchdog does not wrap; and after any calls
from reset the cycle counter is what frame, scanline and scanline cycle say, until the frame
counter wraps. -/
theorem cycle_timing_batches :
    (∀ (rt : NeogeoRuntime) (a b : BitVec 32), rt.scanlineCycle.toNat < 768 →
      a.toNat + b.toNat < 2 ^ 32 → rt.GapFits (a.toNat + b.toNat) →
      ((rt.ngNeogeoAdvanceCpuCycles a).ngNeogeoAdvanceCpuCycles b).forgetStatistics =
        (rt.ngNeogeoAdvanceCpuCycles (a + b)).forgetStatistics) ∧
      ∀ (rt : NeogeoRuntime) (calls : List (BitVec 32)),
        let after := calls.foldl ngNeogeoAdvanceCpuCycles rt.ngNeogeoResetRuntime
        after.scanlineCycle.toNat < 768 ∧ after.currentScanline.toNat < 264 ∧
          ((calls.map BitVec.toNat).sum / (768 * 264) < 2 ^ 32 →
            after.cpuCycles.toNat =
              768 * (264 * after.frameCount.toNat + after.currentScanline.toNat) +
                after.scanlineCycle.toNat) := by
  refine ⟨fun rt a b hs hab hgap => advanceCpuCycles_add hs hab hgap, fun rt calls => ?_⟩
  intro after
  have h := (reset_clockAt rt).calls calls
  rw [Nat.zero_add] at h
  generalize (calls.map BitVec.toNat).sum = n at h ⊢
  refine ⟨?_, ?_, fun hn => ?_⟩
  · rw [h.scanlineCycle]
    exact Nat.mod_lt _ (by decide)
  · rw [h.scanline]
    exact Nat.mod_lt _ (by decide)
  · have hframes : n / 768 / 264 < 2 ^ 32 := by
      rw [Nat.div_div_eq_div_mul]
      exact hn
    have hsmall : n < 2 ^ 64 := by omega
    rw [h.cycles, h.frames, h.scanline, h.scanlineCycle, Nat.mod_eq_of_lt hframes,
      Nat.mod_eq_of_lt hsmall]
    omega

/-- One and a half scanlines from the initial state, in two calls. -/
theorem cycle_timing_batches_initial :
    ((NeogeoRuntime.initial.ngNeogeoAdvanceCpuCycles 700).ngNeogeoAdvanceCpuCycles
        452).forgetStatistics =
      (NeogeoRuntime.initial.ngNeogeoAdvanceCpuCycles 1152).forgetStatistics :=
  cycle_timing_batches.1 NeogeoRuntime.initial 700 452 (by decide) (by decide) (.inr (.inl rfl))

/-- With a last kick ten cycles ahead of the counter and a limit of 100 cycles, a check after five
cycles finds a gap of nearly `2 ^ 64`; without it, ten cycles later, the gap is five. -/
theorem wrapped_gap_depends_on_batches :
    ¬ ∀ (rt : NeogeoRuntime) (a b : BitVec 32), rt.scanlineCycle.toNat < 768 →
      a.toNat + b.toNat < 2 ^ 32 →
      ((rt.ngNeogeoAdvanceCpuCycles a).ngNeogeoAdvanceCpuCycles b).forgetStatistics =
        (rt.ngNeogeoAdvanceCpuCycles (a + b)).forgetStatistics := by
  intro h
  have hsplit := congrArg (fun rt : NeogeoRuntime => rt.watchdogResetPending)
    (h { NeogeoRuntime.initial with watchdogTimeoutCycles := 100, watchdogLastKickCycle := 10 } 5 10
      (by decide) (by decide))
  have hpending : (1 : BitVec 8) = 0 := hsplit
  exact absurd hpending (by decide)

end NeoRecomp
