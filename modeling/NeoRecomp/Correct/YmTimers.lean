import NeoRecomp.Runtime.Ym2610

/-!
# The rate of the YM2610 timers

`advance_clocks` takes a whole batch of clocks from a timer, and the chip re-arms it with its full
period: the clocks of the batch behind the deadline are lost.  A timer keeps its rate over batches
that end no later than its deadlines, and loses time over others.
-/

namespace NeoRecomp

/-! ## The timer alone -/

namespace Countdown

/-- A timer of period `period` after a batch, and how often it ran out: at most once. -/
def batch (period left clocks : Nat) : Nat × Nat :=
  if left ≤ clocks then (period, 1) else (left - clocks, 0)

/-- How often it runs out over successive batches. -/
def expirations (period : Nat) : Nat → List Nat → Nat
  | _, [] => 0
  | left, clocks :: batches =>
    (batch period left clocks).2 + expirations period (batch period left clocks).1 batches

variable {period left : Nat}

/-- Batches that end no more than `slack` clocks behind the deadlines. -/
def Within (slack period : Nat) : Nat → List Nat → Prop
  | _, [] => True
  | left, clocks :: batches =>
    clocks ≤ left + slack ∧ Within slack period (batch period left clocks).1 batches

theorem Within.mono {slack slack' : Nat} (hle : slack ≤ slack') {batches : List Nat}
    (h : Within slack period left batches) : Within slack' period left batches := by
  induction batches generalizing left with
  | nil => trivial
  | cons clocks batches ih => exact ⟨Nat.le_trans h.1 (Nat.add_le_add_left hle left), ih h.2⟩

/-- Less than two periods never end a whole period behind a deadline. -/
theorem within_below_two {batches : List Nat} (hleft : left ≤ period)
    (h : batches.sum + (period - left) < 2 * period) : Within period period left batches := by
  induction batches generalizing left with
  | nil => trivial
  | cons clocks batches ih =>
    rw [List.sum_cons] at h
    refine ⟨by omega, ?_⟩
    unfold batch
    split
    · exact ih (Nat.le_refl period) (by omega)
    · exact ih (by omega) (by omega)

theorem expirations_of_lt {batches : List Nat} (h : batches.sum < left) :
    expirations period left batches = 0 := by
  induction batches generalizing left with
  | nil => rfl
  | cons clocks batches ih =>
    rw [List.sum_cons] at h
    have hbatch : batch period left clocks = (left - clocks, 0) := if_neg (by omega)
    rw [expirations, hbatch, ih (by omega)]

/-- Less than two periods: the batch that crosses the deadline is followed by less than one. -/
theorem expirations_below_two {batches : List Nat} (hleft : left ≤ period)
    (hpos : 0 < left) (h : batches.sum + (period - left) < 2 * period) :
    expirations period left batches = (batches.sum + (period - left)) / period := by
  induction batches generalizing left with
  | nil =>
    rw [List.sum_nil, Nat.zero_add, Nat.div_eq_of_lt (by omega)]
    rfl
  | cons clocks batches ih =>
    rw [List.sum_cons] at h ⊢
    by_cases hle : left ≤ clocks
    · have hbatch : batch period left clocks = (period, 1) := if_pos hle
      have hone : (clocks + batches.sum + (period - left)) / period = 1 :=
        Nat.div_eq_of_lt_le (by omega) (by omega)
      rw [expirations, hbatch, expirations_of_lt (by omega), hone]
    · have hbatch : batch period left clocks = (left - clocks, 0) := if_neg hle
      have hsum : batches.sum + (period - (left - clocks)) =
          clocks + batches.sum + (period - left) := by omega
      rw [expirations, hbatch, ih (by omega) (by omega) (by omega), hsum, Nat.zero_add]

/-- Batches in time lose nothing. -/
theorem expirations_inTime {batches : List Nat} (hperiod : 0 < period) (hleft : left ≤ period)
    (hpos : 0 < left) (h : Within 0 period left batches) :
    expirations period left batches = (batches.sum + (period - left)) / period := by
  induction batches generalizing left with
  | nil =>
    rw [List.sum_nil, Nat.zero_add, Nat.div_eq_of_lt (by omega)]
    rfl
  | cons clocks batches ih =>
    obtain ⟨hin, hrest⟩ := h
    rw [List.sum_cons, expirations]
    by_cases hle : left ≤ clocks
    · have hbatch : batch period left clocks = (period, 1) := if_pos hle
      have hsum : clocks + batches.sum + (period - left) = batches.sum + period := by omega
      rw [hbatch] at hrest ⊢
      rw [ih (Nat.le_refl period) hperiod hrest, hsum, Nat.sub_self,
        Nat.add_zero, Nat.add_div_right _ hperiod, Nat.add_comm]
    · have hbatch : batch period left clocks = (left - clocks, 0) := if_neg hle
      have hsum : batches.sum + (period - (left - clocks)) =
          clocks + batches.sum + (period - left) := by omega
      rw [hbatch] at hrest ⊢
      rw [ih (by omega) (by omega) hrest, hsum, Nat.zero_add]

theorem inTime_ones (hperiod : 0 < period) (n : Nat) (hpos : 0 < left) :
    Within 0 period left (List.replicate n 1) := by
  induction n generalizing left with
  | zero => trivial
  | succ n ih =>
    refine ⟨hpos, ih ?_⟩
    unfold batch
    split
    · exact hperiod
    · omega

/-- Two periods and more in one batch, and the rest clock by clock: one expiry is lost. -/
theorem expirations_long_batch (hperiod : 0 < period) (n : Nat) :
    expirations period period (2 * period :: List.replicate n 1) + 1 =
      (2 * period + n) / period := by
  have hbatch : batch period period (2 * period) = (period, 1) := if_pos (by omega)
  have hones := expirations_inTime hperiod (Nat.le_refl period) hperiod
    (inTime_ones hperiod n hperiod)
  have hsum : 2 * period + n = n + period + period := by omega
  rw [List.sum_replicate_nat, Nat.mul_one, Nat.sub_self, Nat.add_zero] at hones
  rw [expirations, hbatch, hones, hsum, Nat.add_div_right _ hperiod, Nat.add_div_right _ hperiod]
  omega

end Countdown

/-! ## The timers of the wrapper -/

namespace YmBackend

variable {χ : Type} (chip : Ym2610Chip χ) (i : Fin 2)

/-- The test of `advance_clocks` that makes it call `timer_callback` for a timer. -/
def runsOut (b : YmBackend χ) (i : Fin 2) (clocks : BitVec 32) : Bool :=
  !(b.timerCycles i).sle 0 && (b.timerCycles i - clocks).sle 0

/-- The expirations of a timer that a call of `advance_clocks` delivers to the chip. -/
def callExpirations (b : YmBackend χ) (clocks : BitVec 32) : Nat :=
  if clocks = 0 then 0 else if (b.beforeTimer chip i clocks).runsOut i clocks then 1 else 0

/-- Those that successive calls deliver. -/
def expirations : YmBackend χ → List (BitVec 32) → Nat
  | _, [] => 0
  | b, clocks :: batches =>
    b.callExpirations chip i clocks +
      expirations (b.ngNeogeoYm2610AdvanceClocks chip clocks) batches

/-- On an expiry the chip re-arms the timer with the same period and leaves the other one alone,
as long as its registers say so (`programmed`), which no expiry changes. -/
structure Rearms (period : BitVec 32) (programmed : χ → Prop) : Prop where
  own : ∀ b : YmBackend χ, programmed b.chip →
    (run (chip.engineTimerExpired b.chip (BitVec.ofNat 32 i)) b).2.timerCycles i = period
  other : ∀ (b : YmBackend χ) (j : Fin 2), j ≠ i →
    (run (chip.engineTimerExpired b.chip (BitVec.ofNat 32 j)) b).2.timerCycles i = b.timerCycles i
  keeps : ∀ (b : YmBackend χ) (j : Fin 2), programmed b.chip →
    programmed (run (chip.engineTimerExpired b.chip (BitVec.ofNat 32 j)) b).2.chip

variable {chip i} {period : BitVec 32} {programmed : χ → Prop} {b : YmBackend χ}

/-- The timer is running and the chip would re-arm it. -/
structure Armed (i : Fin 2) (programmed : χ → Prop) (left : Nat) (b : YmBackend χ) : Prop where
  left_eq : (b.timerCycles i).toNat = left
  chip : programmed b.chip

theorem Armed.advanceBusy {left : Nat} (h : Armed i programmed left b) (clocks : BitVec 32) :
    Armed i programmed left (b.advanceBusy clocks) := by
  unfold YmBackend.advanceBusy
  split
  · exact ⟨h.left_eq, h.chip⟩
  · exact h

/-- The other timer's turn. -/
theorem Armed.other (hr : Rearms chip i period programmed) {left : Nat}
    (h : Armed i programmed left b) {j : Fin 2} (hj : j ≠ i) (clocks : BitVec 32) :
    Armed i programmed left (b.advanceTimerClocks chip j clocks) := by
  unfold advanceTimerClocks
  split
  · exact h
  · dsimp only
    split
    · let stopped : YmBackend χ := { b with timerCycles := Function.update b.timerCycles j 0 }
      have hother := hr.other stopped j hj
      have hstopped : stopped.timerCycles i = b.timerCycles i := Function.update_of_ne hj.symm _ _
      refine ⟨?_, hr.keeps stopped j h.chip⟩
      show ((run (chip.engineTimerExpired stopped.chip _) stopped).2.timerCycles i).toNat = left
      rw [hother, hstopped]
      exact h.left_eq
    · refine ⟨?_, h.chip⟩
      show (Function.update b.timerCycles j _ i).toNat = left
      rw [Function.update_of_ne hj.symm]
      exact h.left_eq

theorem sle_zero_iff (x : BitVec 32) : x.sle 0 = true ↔ x.toNat = 0 ∨ 2 ^ 31 ≤ x.toNat := by
  have hlt := x.isLt
  rw [BitVec.sle_eq_decide, decide_eq_true_eq, BitVec.toInt_eq_toNat_cond,
    show (0 : BitVec 32).toInt = 0 from rfl]
  split <;> omega

/-- Its own turn is the countdown, for batches that the signed subtraction carries. -/
theorem Armed.own (hr : Rearms chip i period programmed)
    {left : Nat} (h : Armed i programmed left b) (hpos : 0 < left) (hlt : left < 2 ^ 31)
    {clocks : BitVec 32} (hclocks : clocks.toNat ≤ left + 2 ^ 31) :
    Armed i programmed (Countdown.batch period.toNat left clocks.toNat).1
        (b.advanceTimerClocks chip i clocks) ∧
      (if b.runsOut i clocks then 1 else 0) =
        (Countdown.batch period.toNat left clocks.toNat).2 := by
  have hleft := h.left_eq
  have hcl := clocks.isLt
  have hrunning : (b.timerCycles i).sle 0 = false := by
    rw [← Bool.not_eq_true, sle_zero_iff]
    omega
  have hdiff : (b.timerCycles i - clocks).toNat = (2 ^ 32 - clocks.toNat + left) % 2 ^ 32 := by
    rw [BitVec.toNat_sub, hleft]
  unfold advanceTimerClocks runsOut
  rw [if_neg (by rw [hrunning]; exact Bool.false_ne_true), hrunning]
  dsimp only
  by_cases hle : left ≤ clocks.toNat
  · have hout : (b.timerCycles i - clocks).sle 0 = true := by
      rw [sle_zero_iff, hdiff]
      omega
    have hbatch : Countdown.batch period.toNat left clocks.toNat = (period.toNat, 1) := if_pos hle
    rw [hout, if_pos rfl, hbatch]
    let stopped : YmBackend χ := { b with timerCycles := Function.update b.timerCycles i 0 }
    exact ⟨⟨congrArg BitVec.toNat (hr.own stopped h.chip), hr.keeps stopped i h.chip⟩, rfl⟩
  · have hin : (b.timerCycles i - clocks).sle 0 = false := by
      rw [← Bool.not_eq_true, sle_zero_iff, hdiff]
      omega
    have hbatch : Countdown.batch period.toNat left clocks.toNat = (left - clocks.toNat, 0) :=
      if_neg hle
    rw [hin, if_neg Bool.false_ne_true, hbatch]
    refine ⟨⟨?_, h.chip⟩, rfl⟩
    show (Function.update b.timerCycles i _ i).toNat = _
    rw [Function.update_self, hdiff]
    omega

/-- A call of `advance_clocks` is a batch of the countdown. -/
theorem Armed.call (hr : Rearms chip i period programmed) {left : Nat}
    (h : Armed i programmed left b) (hpos : 0 < left) (hlt : left < 2 ^ 31)
    {clocks : BitVec 32} (hclocks : clocks.toNat ≤ left + 2 ^ 31) :
    Armed i programmed (Countdown.batch period.toNat left clocks.toNat).1
        (b.ngNeogeoYm2610AdvanceClocks chip clocks) ∧
      b.callExpirations chip i clocks = (Countdown.batch period.toNat left clocks.toNat).2 := by
  unfold ngNeogeoYm2610AdvanceClocks callExpirations
  by_cases hzero : clocks = 0
  · have hbatch : Countdown.batch period.toNat left clocks.toNat = (left, 0) := by
      rw [hzero, show (0 : BitVec 32).toNat = 0 from rfl]
      exact if_neg (Nat.not_le.mpr hpos)
    rw [if_pos hzero, if_pos hzero, hbatch]
    exact ⟨h, rfl⟩
  · rw [if_neg hzero, if_neg hzero]
    have hbusy := h.advanceBusy clocks
    unfold beforeTimer
    by_cases hi : i = 0
    · subst hi
      rw [if_pos rfl]
      obtain ⟨hown, hcount⟩ := hbusy.own hr hpos hlt hclocks
      exact ⟨hown.other hr (by decide) clocks, hcount⟩
    · obtain rfl : i = 1 := by omega
      rw [if_neg hi]
      have hfirst := @Armed.other _ _ _ _ _ _ hr _ hbusy 0 (by decide) clocks
      exact hfirst.own hr hpos hlt hclocks

theorem batch_left {period left clocks : Nat} (hpos : 0 < left) (hle : left ≤ period) :
    0 < (Countdown.batch period left clocks).1 ∧ (Countdown.batch period left clocks).1 ≤ period := by
  unfold Countdown.batch
  split
  · exact ⟨by omega, Nat.le_refl period⟩
  · exact ⟨by omega, by omega⟩

/-- Successive calls. -/
theorem Armed.calls (hr : Rearms chip i period programmed) (hlt : period.toNat < 2 ^ 31)
    (batches : List (BitVec 32)) {left : Nat} {b : YmBackend χ}
    (h : Armed i programmed left b) (hpos : 0 < left) (hle : left ≤ period.toNat)
    (hwithin : Countdown.Within (2 ^ 31) period.toNat left (batches.map (·.toNat))) :
    b.expirations chip i batches =
      Countdown.expirations period.toNat left (batches.map (·.toNat)) := by
  induction batches generalizing left b with
  | nil => rfl
  | cons clocks batches ih =>
    rw [List.map_cons] at hwithin
    obtain ⟨hnext, hcount⟩ := h.call hr hpos (by omega) hwithin.1
    have hleft := @batch_left period.toNat left clocks.toNat hpos hle
    rw [expirations, List.map_cons, Countdown.expirations, hcount,
      ih hnext hleft.1 hleft.2 hwithin.2]

/-- Every batch of a run ends no later than the deadline that the timer shows before it. -/
def InTime (chip : Ym2610Chip χ) (i : Fin 2) : YmBackend χ → List (BitVec 32) → Prop
  | _, [] => True
  | b, clocks :: batches =>
    clocks ≤ b.timerCycles i ∧ InTime chip i (b.ngNeogeoYm2610AdvanceClocks chip clocks) batches

theorem Armed.within (hr : Rearms chip i period programmed) (hlt : period.toNat < 2 ^ 31)
    (batches : List (BitVec 32)) {left : Nat} {b : YmBackend χ}
    (h : Armed i programmed left b) (hpos : 0 < left) (hle : left ≤ period.toNat)
    (hin : InTime chip i b batches) :
    Countdown.Within 0 period.toNat left (batches.map (·.toNat)) := by
  induction batches generalizing left b with
  | nil => trivial
  | cons clocks batches ih =>
    have hclocks : clocks.toNat ≤ left := by
      have hfirst : clocks.toNat ≤ (b.timerCycles i).toNat := hin.1
      rwa [h.left_eq] at hfirst
    obtain ⟨hnext, -⟩ := @Armed.call _ _ _ _ _ _ hr left h hpos (by omega) clocks (by omega)
    have hleft := @batch_left period.toNat left clocks.toNat hpos hle
    exact ⟨hclocks, ih hnext hleft.1 hleft.2 hin.2⟩

theorem InTime.take {batches : List (BitVec 32)} {b : YmBackend χ} (h : InTime chip i b batches)
    (n : Nat) : InTime chip i b (batches.take n) := by
  induction batches generalizing b n with
  | nil =>
    rw [List.take_nil]
    trivial
  | cons clocks batches ih =>
    cases n with
    | zero => trivial
    | succ n => exact ⟨h.1, ih h.2 n⟩

/-- A timer that has just been armed: every way of splitting `n` clocks delivers `n / period`
expirations just when `n` is less than two periods; and over a run whose batches end no later than
the deadlines it has delivered the right number after every batch. -/
theorem ym2610_timer_rate (hr : Rearms chip i period programmed) (hpos : 0 < period.toNat)
    (hlt : period.toNat < 2 ^ 31) (hb : b.timerCycles i = period) (hchip : programmed b.chip) :
    (∀ n, (∀ batches : List (BitVec 32), (batches.map (·.toNat)).sum = n →
      b.expirations chip i batches = n / period.toNat) ↔ n < 2 * period.toNat) ∧
    ∀ batches : List (BitVec 32), InTime chip i b batches → ∀ k,
      b.expirations chip i (batches.take k) =
        ((batches.take k).map (·.toNat)).sum / period.toNat := by
  have harmed : Armed i programmed period.toNat b := ⟨congrArg BitVec.toNat hb, hchip⟩
  refine ⟨fun n => ⟨fun hall => ?_, fun hn batches hsum => ?_⟩, fun batches hin k => ?_⟩
  · by_contra hge
    obtain ⟨rest, rfl⟩ := Nat.exists_eq_add_of_le (Nat.le_of_not_lt hge)
    have htwo : (BitVec.ofNat 32 (2 * period.toNat)).toNat = 2 * period.toNat := by
      rw [BitVec.toNat_ofNat]
      exact Nat.mod_eq_of_lt (by omega)
    let split : List (BitVec 32) :=
      BitVec.ofNat 32 (2 * period.toNat) :: List.replicate rest 1
    have hsplit : split.map (·.toNat) = 2 * period.toNat :: List.replicate rest 1 := by
      rw [List.map_cons, htwo, List.map_replicate]
      rfl
    have hwithin : Countdown.Within (2 ^ 31) period.toNat period.toNat (split.map (·.toNat)) := by
      rw [hsplit]
      refine ⟨by omega, ?_⟩
      have hfired : Countdown.batch period.toNat period.toNat (2 * period.toNat) =
          (period.toNat, 1) := if_pos (by omega)
      rw [hfired]
      exact (Countdown.inTime_ones hpos rest hpos).mono (Nat.zero_le _)
    have hlost := Countdown.expirations_long_batch hpos rest
    have hcount := Armed.calls hr hlt split harmed hpos (Nat.le_refl _) hwithin
    have hsum : (split.map (·.toNat)).sum = 2 * period.toNat + rest := by
      rw [hsplit, List.sum_cons, List.sum_replicate_nat, Nat.mul_one]
    rw [hall split hsum, hsplit] at hcount
    omega
  · have hbelow : (batches.map (·.toNat)).sum + (period.toNat - period.toNat) <
        2 * period.toNat := by omega
    have hwithin := (Countdown.within_below_two (Nat.le_refl _) hbelow).mono (Nat.le_of_lt hlt)
    rw [Armed.calls hr hlt batches harmed hpos (Nat.le_refl _) hwithin,
      Countdown.expirations_below_two (Nat.le_refl _) hpos hbelow, hsum, Nat.sub_self, Nat.add_zero]
  · have hwithin := harmed.within hr hlt (batches.take k) hpos (Nat.le_refl _) (hin.take k)
    rw [Armed.calls hr hlt (batches.take k) harmed hpos (Nat.le_refl _)
      (hwithin.mono (Nat.zero_le _)),
      Countdown.expirations_inTime hpos (Nat.le_refl _) hpos hwithin, Nat.sub_self, Nat.add_zero]

/-! ## Timer A with its shortest period -/

/-- A chip that re-arms its timers with 144 clocks, timer A's period for the register value
1023. -/
def timerChip : Ym2610Chip Unit where
  read _ _ := .done () 0
  write _ _ _ := .done () ()
  engineTimerExpired _ timer := .setTimer timer 144 (.done () ())
  reset _ := .done () ()
  setFidelity _ := ()
  sampleRate _ clock := clock / 144
  saveState _ := []
  restoreState _ _ := ()

theorem timerChip_rearms : Rearms timerChip 0 144 fun _ => True where
  own _ _ := rfl
  other b j hj := by
    obtain rfl : j = 1 := by omega
    rfl
  keeps _ _ _ := trivial

def timerBackend : YmBackend Unit where
  chip := ()
  busyCycles := 0
  timerCycles := fun _ => 144
  irqPending := false
  nativeRate := 0
  nativePhase := 0
  lastOutput := fun _ => 0

theorem ym2610_timer_rate_144 :
    timerBackend.expirations timerChip 0 [100, 187] = 287 / 144 :=
  ((ym2610_timer_rate timerChip_rearms (by decide) (by decide) rfl trivial).1 287).mpr (by decide)
    [100, 187] rfl

/-- Nine Z80 instructions of 17 cycles: 306 clocks make two periods, and one expiry arrives. -/
theorem ym2610_timer_drifts :
    ¬ ∀ batches : List (BitVec 32), timerBackend.expirations timerChip 0 batches =
      (batches.map (·.toNat)).sum / 144 := by
  intro h
  exact absurd (h (List.replicate 9 34)) (by decide)

end YmBackend
end NeoRecomp
