import NeoRecomp.Correct.CycleTiming
import NeoRecomp.Runtime.Devices

/-!
# The watchdog in cycles

With a limit in cycles and none in polls, a reset is pending just when as many cycles have passed
since the last kick as the limit says.  The kick, the taken reset and the call that sets the limit
all start the count anew.
-/

namespace NeoRecomp
namespace NeogeoRuntime

/-! ## Kicks -/

/-- The byte at an address is the watchdog register. -/
def isWatchdogByte (addr : BitVec 32) : Bool := busDevice (addr &&& 0x00FFFFFF) = .watchdog

/-- What a bus write does to the watchdog and the clock: with `kick` the count starts anew. -/
structure KickStep (kick : Bool) (rt rt' : NeogeoRuntime) : Prop where
  timing : rt'.toTimingState = rt.toTimingState
  keeps : kick = false → rt'.toWatchdogState = rt.toWatchdogState
  kicked : kick = true → rt'.watchdogResetPending = 0 ∧ rt'.watchdogLastKickCycle = rt.cpuCycles ∧
    rt'.watchdogTimeoutCycles = rt.watchdogTimeoutCycles ∧
    rt'.watchdogTimeoutPolls = rt.watchdogTimeoutPolls

variable {rt rt' rt'' : NeogeoRuntime} {k k' : Bool} {addr : BitVec 32}

theorem KickStep.refl (rt : NeogeoRuntime) : KickStep false rt rt where
  timing := rfl
  keeps _ := rfl
  kicked h := by cases h

theorem KickStep.trans (h : KickStep k rt rt') (h' : KickStep k' rt' rt'') :
    KickStep (k || k') rt rt'' where
  timing := h'.timing.trans h.timing
  keeps hk := by
    rw [Bool.or_eq_false_iff] at hk
    exact (h'.keeps hk.2).trans (h.keeps hk.1)
  kicked hk := by
    cases k' with
    | true =>
      obtain ⟨hpending, hlast, hcycles, hpolls⟩ := h'.kicked rfl
      rw [h.timing] at hlast
      refine ⟨hpending, hlast, ?_⟩
      rw [hcycles, hpolls]
      cases k with
      | true => exact (h.kicked rfl).2.2
      | false =>
        rw [h.keeps rfl]
        exact ⟨rfl, rfl⟩
    | false =>
      rw [Bool.or_false] at hk
      rw [h'.keeps rfl]
      exact h.kicked hk

/-- A write that reaches another device leaves the watchdog alone. -/
theorem KickStep.of_eq (ht : rt'.toTimingState = rt.toTimingState)
    (hw : rt'.toWatchdogState = rt.toWatchdogState) : KickStep false rt rt' where
  timing := ht
  keeps _ := hw
  kicked h := by cases h

theorem kickWatchdog_kickStep (value : BitVec 8) : KickStep true rt (rt.kickWatchdog addr value) where
  timing := rfl
  keeps h := by cases h
  kicked _ := ⟨rfl, rfl, rfl, rfl⟩

theorem writeLspcWord_watchdog (word : BitVec 16) :
    (rt.ngNeogeoWriteLspcWord addr word).toWatchdogState = rt.toWatchdogState := by
  unfold ngNeogeoWriteLspcWord
  dsimp only
  split <;> try rfl
  split <;> rfl

theorem writeSystemLatch_watchdog (value : BitVec 8) :
    (rt.writeSystemLatch addr value).toWatchdogState = rt.toWatchdogState := by
  unfold writeSystemLatch
  dsimp only
  split <;> rfl

theorem writeBackupRam_watchdog (value : BitVec 8) :
    (rt.writeBackupRam addr value).toWatchdogState = rt.toWatchdogState := by
  unfold writeBackupRam
  split <;> rfl

theorem ng68kWrite8_kickStep (value : BitVec 8) :
    KickStep (isWatchdogByte addr) rt (rt.ng68kWrite8 addr value) := by
  have htiming := (rt.write8_clock addr value).1
  rw [ng68kWrite8_eq] at htiming ⊢
  unfold isWatchdogByte
  cases hd : busDevice (addr &&& 0x00FFFFFF) with
  | watchdog => exact kickWatchdog_kickStep value
  | backupRam =>
    rw [hd] at htiming
    exact .of_eq htiming (writeBackupRam_watchdog value)
  | systemLatch =>
    rw [hd] at htiming
    exact .of_eq htiming (writeSystemLatch_watchdog value)
  | lspc =>
    rw [hd] at htiming
    exact .of_eq htiming (writeLspcWord_watchdog _)
  | workRam => exact .of_eq rfl rfl
  | palette => exact .of_eq rfl rfl
  | portOutput => exact .of_eq rfl rfl
  | sound => exact .of_eq rfl rfl
  | none => exact .refl rt

/-- The byte behind one of the palette or the graphics chip is not the watchdog register. -/
theorem isWatchdogByte_next {first last : Nat}
    (h : inWindow first last (addr &&& 0x00FFFFFF) = true)
    (hw : (first + 1) / 0x20000 ≠ 0x18 ∧ last + 1 < 0x1000000 ∧
      (0x320000 ≤ first + 1 ∨ last + 1 < 0x300000)) : isWatchdogByte (addr + 1) = false := by
  unfold isWatchdogByte
  rw [decide_eq_false_iff_not, busDevice_watchdog_iff]
  intro hd
  have hp : ((addr + 1) &&& 0x00FFFFFF).toNat / 0x20000 = 0x18 := isRegister_page rfl hd
  rw [inWindow_iff, toNat_and_mask24] at h
  rw [toNat_and_mask24, BitVec.toNat_add, show (1 : BitVec 32).toNat = 1 from rfl] at hp
  omega

theorem ng68kWrite16_kickStep (value : BitVec 16) :
    KickStep (isWatchdogByte addr || isWatchdogByte (addr + 1)) rt (rt.ng68kWrite16 addr value) := by
  rw [ng68kWrite16_eq]
  have hbytes := (@ng68kWrite8_kickStep rt addr ((value >>> 8).setWidth 8)).trans
    (@ng68kWrite8_kickStep _ (addr + 1) (value.setWidth 8))
  have hfirst : isWatchdogByte addr = decide (busDevice (addr &&& 0x00FFFFFF) = .watchdog) := rfl
  cases hd : busDevice (addr &&& 0x00FFFFFF) with
  | palette =>
    have hnext := isWatchdogByte_next (busDevice_palette_iff.mp hd) (by decide)
    rw [hfirst, hd, hnext]
    exact .of_eq rfl rfl
  | lspc =>
    have hnext := isWatchdogByte_next (busDevice_lspc_iff.mp hd) (by decide)
    rw [hfirst, hd, hnext]
    exact .of_eq (rt.writeLspcWord_frame _ _).2.1 (writeLspcWord_watchdog _)
  | _ => exact hbytes

theorem ng68kWrite32_kickStep (value : BitVec 32) :
    KickStep (isWatchdogByte addr || isWatchdogByte (addr + 1) ||
      (isWatchdogByte (addr + 2) || isWatchdogByte (addr + 3))) rt (rt.ng68kWrite32 addr value) := by
  have hlow := @ng68kWrite16_kickStep (rt.ng68kWrite16 addr ((value >>> 16).setWidth 16))
    (addr + 2) (value.setWidth 16)
  rw [show addr + 2 + 1 = addr + 3 by rw [BitVec.add_assoc]; rfl] at hlow
  exact (ng68kWrite16_kickStep _).trans hlow

/-! ## The count -/

section Count
variable {limit cycles : BitVec 32} {idle : Nat}

/-- A limit in cycles only, and the clock `idle` cycles after the count began; `bound` limits the
count while no reset is pending. -/
structure Counted (limit : BitVec 32) (bound idle : Nat) (rt : NeogeoRuntime) : Prop where
  limit_eq : rt.watchdogTimeoutCycles = limit
  polls_eq : rt.watchdogTimeoutPolls = 0
  active : idle ≠ 0 → rt.cycleTimingActive ≠ 0
  running : rt.watchdogResetPending = 0 →
    idle < bound ∧ rt.cpuCycles = rt.watchdogLastKickCycle + BitVec.ofNat 64 idle
  expired : rt.watchdogResetPending ≠ 0 → limit.toNat ≤ idle

/-- What does not touch the watchdog or the cycles keeps the count. -/
theorem Counted.congr {bound : Nat} (h : Counted limit bound idle rt)
    (hw : rt'.toWatchdogState = rt.toWatchdogState)
    (ha : rt'.cycleTimingActive = rt.cycleTimingActive) (ht : rt'.cpuCycles = rt.cpuCycles) :
    Counted limit bound idle rt' := by
  constructor
  · rw [hw]
    exact h.limit_eq
  · rw [hw]
    exact h.polls_eq
  · rw [ha]
    exact h.active
  · rw [hw, ht]
    exact h.running
  · rw [hw]
    exact h.expired

theorem toNat_pos_of_ne (h : limit ≠ 0) : 0 < limit.toNat :=
  Nat.pos_of_ne_zero fun hz => h (BitVec.eq_of_toNat_eq hz)

/-- The count was checked: a reset is pending just when it has reached the limit. -/
abbrev Timed (limit : BitVec 32) (idle : Nat) (rt : NeogeoRuntime) : Prop :=
  Counted limit limit.toNat idle rt

theorem Timed.pending_iff (h : Timed limit idle rt) :
    rt.watchdogResetPending ≠ 0 ↔ limit.toNat ≤ idle := by
  constructor
  · exact h.expired
  · intro hle hzero
    exact Nat.not_lt.mpr hle (h.running hzero).1

/-- A check while cycles are counted. -/
theorem Counted.check (h : Counted limit (2 ^ 64) idle rt) (hlimit : limit ≠ 0)
    (hactive : rt.cycleTimingActive ≠ 0) : Timed limit idle rt.ngNeogeoUpdateWatchdogTimeout := by
  have hkeeps := WatchdogState.update_keeps rt.toWatchdogState rt.toTimingState rt.m68k.pc
  by_cases hpending : rt.watchdogResetPending = 0
  · obtain ⟨hbound, hclock⟩ := h.running hpending
    have hgap : rt.toWatchdogState.gap rt.toTimingState = BitVec.ofNat 64 idle := by
      unfold WatchdogState.gap
      rw [hclock, BitVec.add_comm, BitVec.add_sub_cancel]
    have htimed : rt.toWatchdogState.TimedOut rt.toTimingState ↔ limit.toNat ≤ idle := by
      have hlt := limit.isLt
      unfold WatchdogState.TimedOut
      rw [h.limit_eq, if_pos ⟨hactive, hlimit⟩, hgap, BitVec.le_def, BitVec.toNat_setWidth,
        BitVec.toNat_ofNat, Nat.mod_eq_of_lt hbound]
      omega
    by_cases hle : limit.toNat ≤ idle
    · have hexpire := @WatchdogState.update_of_timedOut _ _ rt.m68k.pc hpending (htimed.mpr hle)
      refine ⟨hkeeps.2.1.trans h.limit_eq, ?_, h.active, fun hzero => ?_, fun _ => hle⟩
      · show (rt.toWatchdogState.ngNeogeoUpdateWatchdogTimeout _ _).watchdogTimeoutPolls = 0
        rw [hexpire]
        unfold WatchdogState.noteGap
        rw [h.limit_eq, if_pos ⟨hactive, hlimit⟩]
        exact h.polls_eq
      · exfalso
        have hset : (rt.toWatchdogState.ngNeogeoUpdateWatchdogTimeout rt.toTimingState
            rt.m68k.pc).watchdogResetPending = 0 := hzero
        rw [hexpire] at hset
        exact WatchdogState.expire_pending hset
    · have hsame := @WatchdogState.update_of_not_timedOut _ _ rt.m68k.pc
        fun ht => hle (htimed.mp ht)
      unfold ngNeogeoUpdateWatchdogTimeout
      rw [hsame]
      exact ⟨h.limit_eq, h.polls_eq, h.active, fun _ => ⟨Nat.lt_of_not_le hle, hclock⟩,
        fun hne => absurd hpending hne⟩
  · have hsame := @WatchdogState.update_of_pending _ rt.toTimingState rt.m68k.pc hpending
    unfold ngNeogeoUpdateWatchdogTimeout
    rw [hsame]
    exact ⟨h.limit_eq, h.polls_eq, h.active, fun hzero => absurd hzero hpending, h.expired⟩

/-- Any check, also before cycles are counted. -/
theorem Timed.check (h : Timed limit idle rt) (hlimit : limit ≠ 0) :
    Timed limit idle rt.ngNeogeoUpdateWatchdogTimeout := by
  by_cases hactive : rt.cycleTimingActive = 0
  · have hsame : rt.toWatchdogState.ngNeogeoUpdateWatchdogTimeout rt.toTimingState rt.m68k.pc =
        rt.toWatchdogState := by
      apply WatchdogState.update_of_not_timedOut
      unfold WatchdogState.TimedOut
      rw [if_neg fun hc => hc.1 hactive, h.polls_eq]
      exact fun hc => hc.1 rfl
    unfold ngNeogeoUpdateWatchdogTimeout
    rw [hsame]
    exact h
  · have hlt := limit.isLt
    refine Counted.check ⟨h.limit_eq, h.polls_eq, h.active, fun hzero => ?_, h.expired⟩ hlimit hactive
    obtain ⟨hidle, hclock⟩ := h.running hzero
    exact ⟨by omega, hclock⟩

/-- Cycles pass while the watchdog stays as it is. -/
theorem Timed.pass (h : Timed limit idle rt) (hactive : rt.cycleTimingActive ≠ 0)
    (hw : rt'.toWatchdogState = rt.toWatchdogState)
    (ha : rt'.cycleTimingActive = rt.cycleTimingActive)
    (ht : rt'.cpuCycles = rt.cpuCycles + cycles.setWidth 64) :
    Counted limit (2 ^ 64) (idle + cycles.toNat) rt' := by
  have hlimit := limit.isLt
  have hcycles := cycles.isLt
  constructor
  · rw [hw]
    exact h.limit_eq
  · rw [hw]
    exact h.polls_eq
  · intro _
    rw [ha]
    exact hactive
  · intro hzero
    rw [hw] at hzero ⊢
    obtain ⟨hidle, hclock⟩ := h.running hzero
    refine ⟨by omega, ?_⟩
    rw [ht, hclock, setWidth_eq_ofNat, BitVec.ofNat_add, BitVec.add_assoc]
  · intro hne
    rw [hw] at hne
    exact Nat.le_add_right_of_le (h.expired hne)

theorem Timed.within (h : Timed limit idle rt) (hlimit : limit ≠ 0)
    (hactive : rt.cycleTimingActive ≠ 0) :
    Timed limit (idle + cycles.toNat) (rt.advanceWithinScanline cycles) := by
  have hpass : Counted limit (2 ^ 64) (idle + cycles.toNat) { rt with
      scanlineCycle := rt.scanlineCycle + cycles
      cpuCycles := rt.cpuCycles + cycles.setWidth 64 } := h.pass hactive rfl rfl rfl
  exact hpass.check hlimit hactive

/-- The scanline that ends, before the watchdog is checked. -/
def scanlineOver (rt : NeogeoRuntime) : NeogeoRuntime :=
  let rt := { rt with
    cpuCycles := rt.cpuCycles + rt.cyclesUntilScanline.setWidth 64
    scanlineCycle := 0 }
  { rt with toRasterState := rt.toRasterState.ngNeogeoAdvanceScanline }

theorem scanlineOver_toTimingState (rt : NeogeoRuntime) :
    rt.scanlineOver.toTimingState = TimingState.afterScanline { rt.toTimingState with
      cpuCycles := rt.cpuCycles + rt.cyclesUntilScanline.setWidth 64, scanlineCycle := 0 } :=
  RasterState.advanceScanline_toTimingState _

theorem finishScanline_active (rt : NeogeoRuntime) :
    rt.finishScanline.cycleTimingActive = rt.cycleTimingActive := by
  have h := congrArg TimingState.cycleTimingActive rt.finishScanline_toTimingState
  exact h

theorem Timed.finish (h : Timed limit idle rt) (hlimit : limit ≠ 0)
    (hactive : rt.cycleTimingActive ≠ 0) :
    Timed limit (idle + rt.cyclesUntilScanline.toNat) rt.finishScanline := by
  have ha := congrArg TimingState.cycleTimingActive rt.scanlineOver_toTimingState
  have ht := congrArg TimingState.cpuCycles rt.scanlineOver_toTimingState
  have hpass := @Timed.pass rt rt.scanlineOver _ _ _ h hactive rfl ha ht
  have hactive' : rt.scanlineOver.cycleTimingActive ≠ 0 := fun hz => hactive (ha.symm.trans hz)
  exact hpass.check hlimit hactive'

/-- The loop counts all of its cycles; a turn takes none only in a scanline that is already full. -/
theorem Timed.turns (hlimit : limit ≠ 0) (turns : Nat) (cycles : BitVec 32) (rt : NeogeoRuntime)
    {idle : Nat} (h : Timed limit idle rt) (hactive : rt.cycleTimingActive ≠ 0)
    (hturns : cycles.toNat + (if rt.cyclesUntilScanline = 0 then 1 else 0) ≤ turns) :
    Timed limit (idle + cycles.toNat) (advanceCpuCyclesTurns turns cycles rt) := by
  induction turns generalizing cycles rt idle with
  | zero =>
    have hzero : cycles.toNat = 0 := by omega
    rw [hzero]
    exact h
  | succ turns ih =>
    rw [advanceCpuCyclesTurns]
    by_cases hzero : cycles = 0
    · rw [if_pos hzero, hzero]
      exact h
    · rw [if_neg hzero]
      by_cases hlt : cycles < rt.cyclesUntilScanline
      · rw [if_pos hlt]
        exact h.within hlimit hactive
      · rw [if_neg hlt]
        have hge : rt.cyclesUntilScanline ≤ cycles := BitVec.not_lt.mp hlt
        have hle : rt.cyclesUntilScanline.toNat ≤ cycles.toNat := hge
        have hsub := BitVec.toNat_sub_of_le hge
        have hactive' : rt.finishScanline.cycleTimingActive ≠ 0 :=
          fun hz => hactive (rt.finishScanline_active.symm.trans hz)
        have hfull : rt.finishScanline.cyclesUntilScanline ≠ 0 := by
          intro hfull
          have huntil := toNat_cyclesUntilScanline rt.finishScanline_scanlineCycle
          have hlow := rt.finishScanline_scanlineCycle
          rw [hfull, show (0 : BitVec 32).toNat = 0 from rfl] at huntil
          omega
        have hnext := ih (cycles - rt.cyclesUntilScanline) rt.finishScanline
          (h.finish hlimit hactive) hactive' (by
            rw [if_neg hfull, hsub]
            by_cases huntil : rt.cyclesUntilScanline = 0
            · rw [if_pos huntil] at hturns
              omega
            · have hpos : rt.cyclesUntilScanline.toNat ≠ 0 :=
                fun hz => huntil (BitVec.eq_of_toNat_eq hz)
              omega)
        rw [hsub] at hnext
        have hsum : idle + rt.cyclesUntilScanline.toNat +
            (cycles.toNat - rt.cyclesUntilScanline.toNat) = idle + cycles.toNat := by
          omega
        rwa [hsum] at hnext

theorem Timed.advance (h : Timed limit idle rt) (hlimit : limit ≠ 0) (cycles : BitVec 32) :
    Timed limit (idle + cycles.toNat) (rt.ngNeogeoAdvanceCpuCycles cycles) := by
  unfold ngNeogeoAdvanceCpuCycles
  by_cases hzero : cycles = 0
  · rw [if_pos hzero, hzero]
    exact h
  · rw [if_neg hzero]
    have hone : (1 : BitVec 8) ≠ 0 := by decide
    have hactive : Timed limit idle { rt with cycleTimingActive := 1 } :=
      ⟨h.limit_eq, h.polls_eq, fun _ => hone, h.running, h.expired⟩
    refine Timed.turns hlimit _ cycles _ hactive hone ?_
    split_ifs <;> omega

theorem Timed.kick (h : Timed limit idle rt) (hlimit : limit ≠ 0) (hk : KickStep k rt rt') :
    Timed limit (if k then 0 else idle) rt' := by
  cases k with
  | true =>
    obtain ⟨hpending, hlast, hcycles, hpolls⟩ := hk.kicked rfl
    rw [if_pos rfl]
    refine ⟨hcycles.trans h.limit_eq, hpolls.trans h.polls_eq, fun hne => absurd rfl hne,
      fun _ => ⟨toNat_pos_of_ne hlimit, ?_⟩, fun hne => absurd hpending hne⟩
    rw [hk.timing, hlast]
    exact (BitVec.add_zero _).symm
  | false =>
    rw [if_neg Bool.false_ne_true]
    exact h.congr (hk.keeps rfl) (congrArg TimingState.cycleTimingActive hk.timing)
      (congrArg TimingState.cpuCycles hk.timing)

/-- The polls of a state do not enter the count. -/
theorem Timed.poll (h : Timed limit idle rt) (hlimit : limit ≠ 0) :
    Timed limit idle rt.pollInterrupts := by
  let polled : NeogeoRuntime := { rt with interruptPolls := rt.interruptPolls + 1 }
  have hscanline : Timed limit idle polled.autoScanline := by
    unfold autoScanline
    split
    · have htiming := polled.toRasterState.advanceScanline_toTimingState
      have ha := congrArg TimingState.cycleTimingActive htiming
      have ht := congrArg TimingState.cpuCycles htiming
      exact h.congr rfl ha ht
    · exact h.congr rfl rfl rfl
  have hvblank : Timed limit idle polled.autoScanline.autoVblank := by
    unfold autoVblank
    split
    · exact hscanline.congr rfl rfl rfl
    · exact hscanline
  exact hvblank.check hlimit

theorem Timed.takeInterrupt (h : Timed limit idle rt) (hlimit : limit ≠ 0) (mask : BitVec 8)
    (out : Bool) : Timed limit idle (rt.ngM68kTakeInterrupt mask out).2 := by
  have hpoll := h.poll hlimit
  unfold ngM68kTakeInterrupt
  dsimp only
  split
  · exact hpoll
  · split
    · exact hpoll.congr rfl rfl rfl
    · split
      · exact hpoll
      · exact hpoll.congr rfl rfl rfl

/-- A reset is taken just when one is pending. -/
theorem takeReset_isSome (pc ssp : Bool) :
    (rt.ngM68kTakeReset pc ssp).1.isSome = true ↔ rt.watchdogResetPending ≠ 0 := by
  unfold ngM68kTakeReset
  split
  · next hzero => exact ⟨fun hs => Bool.noConfusion hs, fun hne => absurd hzero hne⟩
  · next hne => exact ⟨fun _ => hne, fun _ => rfl⟩

/-- A reset that was taken is no longer pending. -/
theorem takeReset_pending (pc ssp : Bool) :
    (rt.ngM68kTakeReset pc ssp).2.watchdogResetPending = 0 := by
  rcases rt.takeReset_cases pc ssp with ⟨hzero, heq⟩ | ⟨_, rt', hreads, heq⟩
  · rw [heq]
    exact hzero
  · rw [heq]
    unfold ReadsOnly at hreads
    rw [hreads]
    rfl

theorem Timed.takeReset (h : Timed limit idle rt) (hlimit : limit ≠ 0) (pc ssp : Bool) :
    Timed limit (if (rt.ngM68kTakeReset pc ssp).1.isSome then 0 else idle)
      (rt.ngM68kTakeReset pc ssp).2 := by
  rcases rt.takeReset_cases pc ssp with ⟨hzero, heq⟩ | ⟨hne, rt', hreads, heq⟩
  · rw [heq]
    exact h
  · rw [if_pos ((takeReset_isSome pc ssp).mpr hne), heq]
    unfold ReadsOnly at hreads
    rw [hreads]
    exact ⟨h.limit_eq, h.polls_eq, fun hidle => absurd rfl hidle,
      fun _ => ⟨toNat_pos_of_ne hlimit, (BitVec.add_zero _).symm⟩, fun hpending => absurd rfl hpending⟩

end Count

/-! ## Runs -/

end NeogeoRuntime

/-- What a run of the watchdog consists of: bus writes, cycles and the two polls of the CPU. -/
def RuntimeOp.isWatchdogOp : RuntimeOp → Bool
  | .write8 _ _ | .write16 _ _ | .write32 _ _ => true
  | .advanceCpuCycles _ | .takeReset _ _ | .takeInterrupt _ _ => true
  | _ => false

/-- One of the bytes written is the watchdog register. -/
def RuntimeOp.kicks : RuntimeOp → Bool
  | .write8 addr _ => NeogeoRuntime.isWatchdogByte addr
  | .write16 addr _ => NeogeoRuntime.isWatchdogByte addr || NeogeoRuntime.isWatchdogByte (addr + 1)
  | .write32 addr _ =>
    NeogeoRuntime.isWatchdogByte addr || NeogeoRuntime.isWatchdogByte (addr + 1) ||
      (NeogeoRuntime.isWatchdogByte (addr + 2) || NeogeoRuntime.isWatchdogByte (addr + 3))
  | _ => false

namespace NeogeoRuntime

/-- The cycles since the last kick or taken reset, where they were `idle` before the operation. -/
def idleAfter (rt : NeogeoRuntime) (idle : Nat) (op : RuntimeOp) : Nat :=
  match op with
  | .advanceCpuCycles cycles => idle + cycles.toNat
  | .takeReset pc ssp => if (rt.ngM68kTakeReset pc ssp).1.isSome then 0 else idle
  | op => if op.kicks then 0 else idle

/-- The same after a run. -/
def idleCycles : NeogeoRuntime → Nat → List RuntimeOp → Nat
  | _, idle, [] => idle
  | rt, idle, op :: ops => idleCycles (op.step rt).2 (rt.idleAfter idle op) ops

section Runs
variable {limit : BitVec 32} {idle : Nat} {rt : NeogeoRuntime}

theorem Timed.step (h : Timed limit idle rt) (hlimit : limit ≠ 0) {op : RuntimeOp}
    (hop : op.isWatchdogOp = true) : Timed limit (rt.idleAfter idle op) (op.step rt).2 := by
  cases op with
  | write8 addr value => exact h.kick hlimit (ng68kWrite8_kickStep value)
  | write16 addr value => exact h.kick hlimit (ng68kWrite16_kickStep value)
  | write32 addr value => exact h.kick hlimit (ng68kWrite32_kickStep value)
  | advanceCpuCycles cycles => exact h.advance hlimit cycles
  | takeReset pc ssp => exact h.takeReset hlimit pc ssp
  | takeInterrupt mask out => exact h.takeInterrupt hlimit mask out
  | _ => cases hop

theorem Timed.run (hlimit : limit ≠ 0) (ops : List RuntimeOp)
    (hops : ∀ op ∈ ops, op.isWatchdogOp = true) {idle : Nat} {rt : NeogeoRuntime}
    (h : Timed limit idle rt) : Timed limit (rt.idleCycles idle ops) (rt.run ops).2 := by
  induction ops generalizing idle rt with
  | nil => exact h
  | cons op ops ih =>
    have hop := h.step hlimit (hops op (List.mem_cons_self ..))
    exact ih (fun other hother => hops other (List.mem_cons_of_mem _ hother)) hop

theorem setWatchdogTimeoutCycles_timed (rt : NeogeoRuntime) (hlimit : limit ≠ 0)
    (hpolls : rt.watchdogTimeoutPolls = 0) :
    Timed limit 0 ((RuntimeOp.setWatchdogTimeoutCycles limit).step rt).2 :=
  ⟨rfl, hpolls, fun hidle => absurd rfl hidle,
    fun _ => ⟨toNat_pos_of_ne hlimit, (BitVec.add_zero _).symm⟩, fun hpending => absurd rfl hpending⟩

/-- Without kicks and takes the count only grows. -/
theorem idleCycles_le (ops : List RuntimeOp)
    (hops : ∀ op ∈ ops, op.kicks = false ∧ ∀ pc ssp, op ≠ .takeReset pc ssp) (rt : NeogeoRuntime)
    (idle : Nat) : idle ≤ rt.idleCycles idle ops := by
  induction ops generalizing rt idle with
  | nil => exact Nat.le_refl idle
  | cons op ops ih =>
    obtain ⟨hkick, htake⟩ := hops op (List.mem_cons_self ..)
    have hrest := ih (fun other hother => hops other (List.mem_cons_of_mem _ hother)) (op.step rt).2
      (rt.idleAfter idle op)
    refine Nat.le_trans ?_ hrest
    unfold idleAfter
    split
    · exact Nat.le_add_right ..
    · next pc ssp => exact absurd rfl (htake pc ssp)
    · rw [if_neg (by rw [hkick]; exact Bool.false_ne_true)]

/-- After a limit in cycles is set where none in polls is, and any run since: a reset is pending
just when the cycles have reached the limit.  While they never do it never is; once they have, the
reset waits for the next call that takes one unless a kick comes first, and the call directly
behind that one finds none. -/
theorem watchdog_cycle_limit (rt : NeogeoRuntime) (limit : BitVec 32) (hlimit : limit ≠ 0)
    (hpolls : rt.watchdogTimeoutPolls = 0) (ops : List RuntimeOp)
    (hops : ∀ op ∈ ops, op.isWatchdogOp = true) :
    let start := ((RuntimeOp.setWatchdogTimeoutCycles limit).step rt).2
    ((start.run ops).2.watchdogResetPending ≠ 0 ↔ limit.toNat ≤ start.idleCycles 0 ops) ∧
    ((∀ earlier, earlier <+: ops → start.idleCycles 0 earlier < limit.toNat) →
      ∀ earlier, earlier <+: ops → (start.run earlier).2.watchdogResetPending = 0) ∧
    (limit.toNat ≤ start.idleCycles 0 ops → ∀ waiting : List RuntimeOp,
      (∀ op ∈ waiting, op.isWatchdogOp = true ∧ op.kicks = false ∧
        ∀ pc ssp, op ≠ .takeReset pc ssp) →
      ∀ pc ssp : Bool,
        let late := ((start.run ops).2.run waiting).2
        (late.ngM68kTakeReset pc ssp).1.isSome = true ∧
          ∀ pc' ssp' : Bool, ((late.ngM68kTakeReset pc ssp).2.ngM68kTakeReset pc' ssp').1 = none) := by
  intro start
  have hstart : Timed limit 0 start := setWatchdogTimeoutCycles_timed rt hlimit hpolls
  have hrun := Timed.run hlimit ops hops hstart
  refine ⟨hrun.pending_iff, fun hbelow earlier hearlier => ?_,
    fun hreached waiting hwaiting pc ssp => ?_⟩
  · have hearly := Timed.run hlimit earlier (fun op hop => hops op (hearlier.subset hop)) hstart
    by_contra hpending
    exact absurd (hearly.pending_iff.mp hpending) (Nat.not_le.mpr (hbelow earlier hearlier))
  · intro late
    have hlate := Timed.run hlimit waiting (fun op hop => (hwaiting op hop).1) hrun
    have hgrows := idleCycles_le waiting (fun op hop => (hwaiting op hop).2) (start.run ops).2
      (start.idleCycles 0 ops)
    have hpending := hlate.pending_iff.mpr (Nat.le_trans hreached hgrows)
    refine ⟨(takeReset_isSome pc ssp).mpr hpending, fun pc' ssp' => ?_⟩
    have hnone : ¬ (((late.ngM68kTakeReset pc ssp).2.ngM68kTakeReset pc' ssp').1.isSome = true) :=
      fun hsome => (takeReset_isSome pc' ssp').mp hsome (takeReset_pending pc ssp)
    rwa [Option.not_isSome_iff_eq_none] at hnone

/-- A kick between two advances, the second one longer than the limit. -/
def kickedRun : List RuntimeOp :=
  [.advanceCpuCycles 1500, .write8 0x300001 0, .takeInterrupt 0 true, .advanceCpuCycles 2500]

/-- The state in which it starts. -/
def kickedStart : NeogeoRuntime :=
  ((RuntimeOp.setWatchdogTimeoutCycles 2000).step NeogeoRuntime.initial).2

theorem watchdog_cycle_limit_kicked :
    (kickedStart.run kickedRun).2.watchdogResetPending ≠ 0 ∧
      (((kickedStart.run kickedRun).2.run [.takeInterrupt 7 true]).2.ngM68kTakeReset
        true true).1.isSome = true := by
  obtain ⟨hpending, -, htake⟩ :=
    watchdog_cycle_limit NeogeoRuntime.initial 2000 (by decide) rfl kickedRun (by decide)
  rw [← kickedStart] at hpending htake
  have hreached : (2000 : BitVec 32).toNat ≤ kickedStart.idleCycles 0 kickedRun := by decide
  have hwaiting : ∀ op ∈ [RuntimeOp.takeInterrupt 7 true], op.isWatchdogOp = true ∧
      op.kicks = false ∧ ∀ pc ssp, op ≠ .takeReset pc ssp := by
    intro op hop
    rw [List.mem_singleton.mp hop]
    exact ⟨rfl, rfl, fun _ _ heq => by cases heq⟩
  exact ⟨hpending.mpr hreached, (htake hreached _ hwaiting true true).1⟩

end Runs

end NeogeoRuntime
end NeoRecomp
