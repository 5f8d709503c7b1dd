import NeoRecomp.Runtime.Timing

/-!
# The pixel timer

The timer counts pixels down one at a time; the loop of `ng_neogeo_advance_timer` takes all pixels
up to the next expiry in one turn.
-/

namespace NeoRecomp
namespace RasterState

/-! ## One pixel -/

/-- A pixel on the timer. -/
def timerTick (r : RasterState) : RasterState :=
  if r.timerCounterLoaded = 0 then r
  else if r.timerCounterValue = 0 then r.timerExpired
  else { r with timerCounterValue := r.timerCounterValue - 1 }

variable {r : RasterState}

/-- The interrupt lines after `n` expiries. -/
def afterExpiries (r : RasterState) (n : Nat) : InterruptState :=
  if r.lspcMode &&& ngNeoLspcmodeTimerEnable ≠ 0 then
    InterruptState.ngNeogeoRequestTimerInterrupt^[n] r.toInterruptState
  else r.toInterruptState

theorem timerExpired_reload (h : r.lspcMode &&& ngNeoLspcmodeTimerReloadOnZero ≠ 0) :
    r.timerExpired =
      { r with
        timerCounterValue := r.timerReloadValue
        timerCounterLoaded := 1
        toInterruptState := r.afterExpiries 1 } := by
  unfold timerExpired afterExpiries
  dsimp only
  by_cases henable : r.lspcMode &&& ngNeoLspcmodeTimerEnable ≠ 0
  · rw [if_pos henable, if_pos h, if_pos henable]
    rfl
  · rw [if_neg henable, if_pos h, if_neg henable]
    rfl

theorem timerExpired_stop (h : ¬ r.lspcMode &&& ngNeoLspcmodeTimerReloadOnZero ≠ 0) :
    r.timerExpired =
      { r with
        timerCounterValue := 0
        timerCounterLoaded := 0
        toInterruptState := r.afterExpiries 1 } := by
  unfold timerExpired afterExpiries
  dsimp only
  by_cases henable : r.lspcMode &&& ngNeoLspcmodeTimerEnable ≠ 0
  · rw [if_pos henable, if_neg h, if_pos henable]
    rfl
  · rw [if_neg henable, if_neg h, if_neg henable]

theorem iterate_timerTick_unloaded (h : r.timerCounterLoaded = 0) (n : Nat) :
    timerTick^[n] r = r := by
  have htick : timerTick r = r := if_pos h
  exact Function.iterate_fixed htick n

/-- Fewer pixels than the counter holds and one. -/
theorem iterate_timerTick_of_le (hloaded : r.timerCounterLoaded ≠ 0) {n : Nat}
    (hn : n ≤ r.timerCounterValue.toNat) :
    timerTick^[n] r =
      { r with timerCounterValue := r.timerCounterValue - BitVec.ofNat 32 n } := by
  have hlt := r.timerCounterValue.isLt
  induction n with
  | zero =>
    rw [Function.iterate_zero_apply, show BitVec.ofNat 32 0 = 0#32 from rfl, BitVec.sub_zero]
  | succ n ih =>
    rw [Function.iterate_succ_apply', ih (by omega)]
    have hpos : r.timerCounterValue - BitVec.ofNat 32 n ≠ 0 := by
      intro hzero
      have hnat := congrArg BitVec.toNat hzero
      rw [BitVec.toNat_sub, BitVec.toNat_ofNat, show (0 : BitVec 32).toNat = 0 from rfl] at hnat
      omega
    unfold timerTick
    rw [if_neg hloaded, if_neg hpos]
    dsimp only
    rw [BitVec.sub_sub, BitVec.ofNat_add]
    rfl

/-- The pixel after that is the expiry. -/
theorem iterate_timerTick_expires (hloaded : r.timerCounterLoaded ≠ 0) :
    timerTick^[r.timerCounterValue.toNat + 1] r = r.timerExpired := by
  rw [Function.iterate_succ_apply', iterate_timerTick_of_le hloaded (Nat.le_refl _),
    BitVec.ofNat_toNat, BitVec.setWidth_eq, BitVec.sub_self]
  unfold timerTick
  rw [if_neg hloaded]
  exact if_pos rfl

/-! ## The loop -/

/-- As many turns as there are pixels end the loop, which then has taken each pixel. -/
theorem advanceTimerTurns_eq (turns : Nat) (pixelTicks : BitVec 32) (r : RasterState)
    (hturns : pixelTicks.toNat ≤ turns) :
    advanceTimerTurns turns pixelTicks r = timerTick^[pixelTicks.toNat] r := by
  induction turns generalizing pixelTicks r with
  | zero =>
    rw [Nat.le_zero.mp hturns]
    rfl
  | succ turns ih =>
    rw [advanceTimerTurns]
    by_cases hend : pixelTicks = 0 ∨ r.timerCounterLoaded = 0
    · rw [if_pos hend]
      rcases hend with rfl | hunloaded
      · rfl
      · exact (iterate_timerTick_unloaded hunloaded _).symm
    · rw [if_neg hend]
      rw [not_or] at hend
      have hpixels := pixelTicks.isLt
      have hcounter := r.timerCounterValue.isLt
      have huntil : (r.timerCounterValue.setWidth 64 + 1 : BitVec 64).toNat =
          r.timerCounterValue.toNat + 1 := by
        rw [BitVec.toNat_add, BitVec.toNat_setWidth, show (1 : BitVec 64).toNat = 1 from rfl]
        omega
      have hwide : (pixelTicks.setWidth 64).toNat = pixelTicks.toNat := by
        rw [BitVec.toNat_setWidth]
        omega
      have hguard : pixelTicks.setWidth 64 < (r.timerCounterValue.setWidth 64 + 1 : BitVec 64) ↔
          pixelTicks.toNat ≤ r.timerCounterValue.toNat := by
        rw [BitVec.lt_def, huntil, hwide]
        omega
      dsimp only
      by_cases hle : pixelTicks.toNat ≤ r.timerCounterValue.toNat
      · rw [if_pos (hguard.mpr hle), iterate_timerTick_of_le hend.2 hle, BitVec.ofNat_toNat,
          BitVec.setWidth_eq]
      · rw [if_neg fun h => hle (hguard.mp h)]
        have hrest : ((pixelTicks.setWidth 64 - (r.timerCounterValue.setWidth 64 + 1)).setWidth 32 :
            BitVec 32).toNat = pixelTicks.toNat - (r.timerCounterValue.toNat + 1) := by
          rw [BitVec.toNat_setWidth, BitVec.toNat_sub, huntil, hwide]
          omega
        have hsplit : pixelTicks.toNat =
            pixelTicks.toNat - (r.timerCounterValue.toNat + 1) + (r.timerCounterValue.toNat + 1) := by
          omega
        rw [ih _ _ (by rw [hrest]; omega), hrest]
        conv_rhs => rw [hsplit, Function.iterate_add_apply, iterate_timerTick_expires hend.2]

theorem ngNeogeoAdvanceTimer_eq (r : RasterState) (pixelTicks : BitVec 32) :
    r.ngNeogeoAdvanceTimer pixelTicks = timerTick^[pixelTicks.toNat] r :=
  advanceTimerTurns_eq _ _ _ (Nat.le_refl _)

/-! ## The closed form -/

/-- How often the timer expires within `n` pixels. -/
def timerExpiries (r : RasterState) (n : Nat) : Nat :=
  if n ≤ r.timerCounterValue.toNat then 0
  else if r.lspcMode &&& ngNeoLspcmodeTimerReloadOnZero ≠ 0 then
    1 + (n - r.timerCounterValue.toNat - 1) / (r.timerReloadValue.toNat + 1)
  else 1

/-- The counter after `n` pixels, and whether it is still loaded. -/
def timerCounterAfter (r : RasterState) (n : Nat) : BitVec 32 × BitVec 8 :=
  if n ≤ r.timerCounterValue.toNat then
    (r.timerCounterValue - BitVec.ofNat 32 n, r.timerCounterLoaded)
  else if r.lspcMode &&& ngNeoLspcmodeTimerReloadOnZero ≠ 0 then
    (r.timerReloadValue - BitVec.ofNat 32
      ((n - r.timerCounterValue.toNat - 1) % (r.timerReloadValue.toNat + 1)), 1)
  else (0, 0)

/-- The state after `n` pixels of a loaded timer: only the counter and the interrupts change. -/
def timerAfter (r : RasterState) (n : Nat) : RasterState :=
  { r with
    timerCounterValue := (r.timerCounterAfter n).1
    timerCounterLoaded := (r.timerCounterAfter n).2
    toInterruptState := r.afterExpiries (r.timerExpiries n) }

theorem afterExpiries_zero : r.afterExpiries 0 = r.toInterruptState := by
  unfold afterExpiries
  split_ifs <;> rfl

theorem timerAfter_of_le {n : Nat} (h : n ≤ r.timerCounterValue.toNat) :
    r.timerAfter n = { r with timerCounterValue := r.timerCounterValue - BitVec.ofNat 32 n } := by
  unfold timerAfter timerCounterAfter timerExpiries
  rw [if_pos h, if_pos h, afterExpiries_zero]

theorem timerAfter_stop {n : Nat} (h : ¬ n ≤ r.timerCounterValue.toNat)
    (hmode : ¬ r.lspcMode &&& ngNeoLspcmodeTimerReloadOnZero ≠ 0) :
    r.timerAfter n = r.timerExpired := by
  rw [timerExpired_stop hmode]
  unfold timerAfter timerCounterAfter timerExpiries
  rw [if_neg h, if_neg hmode, if_neg h, if_neg hmode]

/-- With reload on zero, the pixels behind an expiry find the timer at its reload value. -/
theorem timerAfter_reload {n : Nat} (h : ¬ n ≤ r.timerCounterValue.toNat)
    (hmode : r.lspcMode &&& ngNeoLspcmodeTimerReloadOnZero ≠ 0) :
    r.timerAfter n = r.timerExpired.timerAfter (n - r.timerCounterValue.toNat - 1) := by
  have hcompose : ∀ k, r.timerExpired.afterExpiries k = r.afterExpiries (k + 1) := by
    intro k
    rw [timerExpired_reload hmode]
    unfold afterExpiries
    dsimp only
    split_ifs with henable
    · rw [Function.iterate_succ_apply]
      rfl
    · rfl
  have hexpiries : r.timerExpired.timerExpiries (n - r.timerCounterValue.toNat - 1) + 1 =
      r.timerExpiries n := by
    rw [timerExpired_reload hmode]
    unfold timerExpiries
    dsimp only
    rw [if_neg h, if_pos hmode, if_pos hmode]
    by_cases hle : n - r.timerCounterValue.toNat - 1 ≤ r.timerReloadValue.toNat
    · rw [if_pos hle, Nat.div_eq_of_lt (Nat.lt_succ_of_le hle)]
    · have hperiod : r.timerReloadValue.toNat + 1 ≤ n - r.timerCounterValue.toNat - 1 :=
        Nat.lt_of_not_le hle
      have hdiv :=
        Nat.div_eq_sub_div (Nat.zero_lt_of_lt (Nat.lt_add_one r.timerReloadValue.toNat)) hperiod
      rw [if_neg hle, hdiv, Nat.sub_sub _ r.timerReloadValue.toNat 1]
      omega
  have hcounter : r.timerExpired.timerCounterAfter (n - r.timerCounterValue.toNat - 1) =
      r.timerCounterAfter n := by
    rw [timerExpired_reload hmode]
    unfold timerCounterAfter
    dsimp only
    rw [if_neg h, if_pos hmode, if_pos hmode]
    by_cases hle : n - r.timerCounterValue.toNat - 1 ≤ r.timerReloadValue.toNat
    · rw [if_pos hle, Nat.mod_eq_of_lt (Nat.lt_succ_of_le hle)]
    · have hperiod : r.timerReloadValue.toNat + 1 ≤ n - r.timerCounterValue.toNat - 1 :=
        Nat.lt_of_not_le hle
      rw [if_neg hle, Nat.mod_eq_sub_mod hperiod, Nat.sub_sub _ r.timerReloadValue.toNat 1]
  have hexpired : r.timerExpired.timerAfter (n - r.timerCounterValue.toNat - 1) =
      { r.timerExpired with
        timerCounterValue := (r.timerCounterAfter n).1
        timerCounterLoaded := (r.timerCounterAfter n).2
        toInterruptState := r.afterExpiries (r.timerExpiries n) } := by
    unfold timerAfter
    rw [hcompose, hexpiries, hcounter]
  rw [hexpired, timerExpired_reload hmode]
  rfl

theorem iterate_timerTick_eq (hloaded : r.timerCounterLoaded ≠ 0) (n : Nat) :
    timerTick^[n] r = r.timerAfter n := by
  induction n using Nat.strong_induction_on generalizing r with
  | h n ih =>
    by_cases hle : n ≤ r.timerCounterValue.toNat
    · rw [iterate_timerTick_of_le hloaded hle, timerAfter_of_le hle]
    · have hsplit : n = n - r.timerCounterValue.toNat - 1 + (r.timerCounterValue.toNat + 1) := by
        omega
      have hexpires : timerTick^[n] r =
          timerTick^[n - r.timerCounterValue.toNat - 1] r.timerExpired := by
        conv_lhs => rw [hsplit, Function.iterate_add_apply, iterate_timerTick_expires hloaded]
      rw [hexpires]
      by_cases hmode : r.lspcMode &&& ngNeoLspcmodeTimerReloadOnZero ≠ 0
      · rw [timerAfter_reload hle hmode]
        apply ih _ (by omega)
        rw [timerExpired_reload hmode]
        exact (by decide : (1 : BitVec 8) ≠ 0)
      · rw [timerAfter_stop hle hmode]
        apply iterate_timerTick_unloaded
        rw [timerExpired_stop hmode]

/-- The loop ends, with the counter and the expiries of the closed form; two calls do what one call
with the sum of their pixels does. -/
theorem advanceTimer_closed_form (r : RasterState) (hloaded : r.timerCounterLoaded ≠ 0)
    (pixelTicks : BitVec 32) :
    r.ngNeogeoAdvanceTimer pixelTicks = r.timerAfter pixelTicks.toNat ∧
    (∀ turns, pixelTicks.toNat ≤ turns →
      advanceTimerTurns turns pixelTicks r = r.ngNeogeoAdvanceTimer pixelTicks) ∧
    ∀ more : BitVec 32, pixelTicks.toNat + more.toNat < 2 ^ 32 →
      (r.ngNeogeoAdvanceTimer pixelTicks).ngNeogeoAdvanceTimer more =
        r.ngNeogeoAdvanceTimer (pixelTicks + more) := by
  refine ⟨?_, ?_, ?_⟩
  · rw [ngNeogeoAdvanceTimer_eq]
    exact iterate_timerTick_eq hloaded _
  · intro turns hturns
    rw [advanceTimerTurns_eq _ _ _ hturns, ngNeogeoAdvanceTimer_eq]
  · intro more hsum
    rw [ngNeogeoAdvanceTimer_eq, ngNeogeoAdvanceTimer_eq, ngNeogeoAdvanceTimer_eq,
      BitVec.toNat_add, Nat.mod_eq_of_lt hsum, Nat.add_comm, Function.iterate_add_apply]

/-- A timer at 2 that reloads 3, with its interrupt enabled. -/
def loadedTimer : RasterState :=
  { NeogeoRuntime.initial.toRasterState with
    lspcMode := 0x0090
    timerReloadValue := 3
    timerCounterValue := 2
    timerCounterLoaded := 1 }

theorem advanceTimer_eight_pixels :
    loadedTimer.ngNeogeoAdvanceTimer 8 = loadedTimer.timerAfter 8 ∧
      (loadedTimer.timerAfter 8).timerCounterValue = 2 ∧
      (loadedTimer.timerAfter 8).timerInterrupts = 2 :=
  ⟨(advanceTimer_closed_form loadedTimer (by decide) 8).1, by decide, by decide⟩

end RasterState
end NeoRecomp
