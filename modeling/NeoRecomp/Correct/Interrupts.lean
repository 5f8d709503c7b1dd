import NeoRecomp.Runtime.Frame

/-!
# The interrupt line

The level and the vector offered to the CPU are a cached function of the pending sources.  Every
operation keeps the cache right, and no source goes away by itself.
-/

namespace NeoRecomp

open NeogeoRuntime

/-! ## Sources -/

inductive IrqSource
  | reset
  | timer
  | vblank

def IrqSource.mask : IrqSource → BitVec 16
  | .reset => ngNeoIrqackReset
  | .timer => ngNeoIrqackTimer
  | .vblank => ngNeoIrqackVblank

/-- A source is pending in a value of `irq_pending`, or named in a value written to `IRQACK`. -/
def IrqSource.isIn (source : IrqSource) (bits : BitVec 16) : Prop := bits &&& source.mask ≠ 0

instance (source : IrqSource) (bits : BitVec 16) : Decidable (source.isIn bits) :=
  inferInstanceAs (Decidable (_ ≠ _))

/-- Level and vector that a set of pending sources stands for. -/
def interruptLine (pending : BitVec 16) : BitVec 8 × BitVec 8 :=
  if IrqSource.reset.isIn pending then (3, 27)
  else if IrqSource.timer.isIn pending then (2, 26)
  else if IrqSource.vblank.isIn pending then (1, 25)
  else (0, 0)

def IrqSource.bit : IrqSource → Nat
  | .reset => 0
  | .timer => 1
  | .vblank => 2

variable {i i' i'' : InterruptState} {source : IrqSource} {acked acked' : BitVec 16}

theorem IrqSource.isIn_iff {bits : BitVec 16} :
    source.isIn bits ↔ bits.getLsbD source.bit = true := by
  have hmask : source.mask = BitVec.twoPow 16 source.bit := by cases source <;> rfl
  unfold IrqSource.isIn
  rw [hmask, BitVec.and_twoPow]
  cases bits.getLsbD source.bit
  · simp
  · cases source <;> decide

/-! ## What one step does to the line -/

/-- The cached level and vector are those of the pending sources. -/
def InterruptState.LineOk (i : InterruptState) : Prop :=
  (i.interruptLevel, i.interruptVector) = interruptLine i.irqPending

/-- A step that acknowledges the sources of `acked`: it keeps the cache, and the other sources. -/
structure LineStep (acked : BitVec 16) (i i' : InterruptState) : Prop where
  line : i.LineOk → i'.LineOk
  keeps : ∀ source : IrqSource, source.isIn i.irqPending → ¬ source.isIn acked →
    source.isIn i'.irqPending

theorem LineStep.refl (i : InterruptState) : LineStep acked i i := ⟨id, fun _ h _ => h⟩

theorem LineStep.trans (h : LineStep acked i i') (h' : LineStep acked' i' i'') :
    LineStep (acked ||| acked') i i'' := by
  refine ⟨h'.line ∘ h.line, fun source hs hn => ?_⟩
  rw [IrqSource.isIn_iff, BitVec.getLsbD_or, Bool.or_eq_true, not_or] at hn
  exact h'.keeps source (h.keeps source hs (mt IrqSource.isIn_iff.mp hn.1))
    (mt IrqSource.isIn_iff.mp hn.2)

/-- Several steps of which none acknowledges anything. -/
theorem LineStep.trans_zero (h : LineStep 0 i i') (h' : LineStep 0 i' i'') : LineStep 0 i i'' :=
  h.trans h'

theorem LineStep.of_zero (h : LineStep 0 i i') : LineStep acked i i' := by
  refine ⟨h.line, fun source hs _ => h.keeps source hs ?_⟩
  unfold IrqSource.isIn
  simp

namespace InterruptState

theorem refresh_irqPending (i : InterruptState) :
    i.ngNeogeoRefreshInterruptLevel.irqPending = i.irqPending := by
  unfold ngNeogeoRefreshInterruptLevel
  split
  · rfl
  · split
    · rfl
    · split <;> rfl

theorem refresh_eq (i : InterruptState) : i.ngNeogeoRefreshInterruptLevel =
    if IrqSource.reset.isIn i.irqPending then i.ngM68kSetInterruptLevel 3 27
    else if IrqSource.timer.isIn i.irqPending then i.ngM68kSetInterruptLevel 2 26
    else if IrqSource.vblank.isIn i.irqPending then i.ngM68kSetInterruptLevel 1 25
    else i.ngM68kClearInterruptLevel := rfl

/-- Refreshing makes the cache right, whatever it held. -/
theorem refresh_lineOk (i : InterruptState) : i.ngNeogeoRefreshInterruptLevel.LineOk := by
  unfold LineOk
  rw [refresh_irqPending, refresh_eq, interruptLine]
  by_cases hr : IrqSource.reset.isIn i.irqPending
  · rw [if_pos hr, if_pos hr]
    rfl
  · rw [if_neg hr, if_neg hr]
    by_cases ht : IrqSource.timer.isIn i.irqPending
    · rw [if_pos ht, if_pos ht]
      rfl
    · rw [if_neg ht, if_neg ht]
      by_cases hv : IrqSource.vblank.isIn i.irqPending
      · rw [if_pos hv, if_pos hv]
        rfl
      · rw [if_neg hv, if_neg hv]
        rfl

theorem request_irqPending (i : InterruptState) (bits : BitVec 16) :
    (i.request bits).irqPending = i.irqPending ||| bits := refresh_irqPending _

theorem request_lineStep (i : InterruptState) (bits : BitVec 16) : LineStep 0 i (i.request bits) := by
  refine ⟨fun _ => refresh_lineOk _, fun source hs _ => ?_⟩
  rw [IrqSource.isIn_iff] at hs ⊢
  rw [request_irqPending, BitVec.getLsbD_or, hs]
  rfl

theorem requestVblank_lineStep (i : InterruptState) :
    LineStep 0 i i.ngNeogeoRequestVblankInterrupt :=
  have h := request_lineStep { i with vblankInterrupts := i.vblankInterrupts + 1 } ngNeoIrqackVblank
  ⟨h.line, h.keeps⟩

theorem requestTimer_lineStep (i : InterruptState) :
    LineStep 0 i i.ngNeogeoRequestTimerInterrupt :=
  have h := request_lineStep { i with timerInterrupts := i.timerInterrupts + 1 } ngNeoIrqackTimer
  ⟨h.line, h.keeps⟩

theorem ack_lineStep (i : InterruptState) (ackMask : BitVec 16) :
    LineStep ackMask i (i.ngNeogeoAckInterrupts ackMask) := by
  refine ⟨fun _ => refresh_lineOk _, fun source hs hn => ?_⟩
  rw [IrqSource.isIn_iff] at hs hn ⊢
  unfold ngNeogeoAckInterrupts
  rw [refresh_irqPending]
  have hlt : source.bit < 16 := by cases source <;> decide
  simp only [BitVec.getLsbD_and, BitVec.getLsbD_not, hlt, hs, hn, decide_true, Bool.true_and,
    Bool.false_and, Bool.not_false]

end InterruptState

/-! ## Timer, scanlines and cycles -/

namespace RasterState

variable (r : RasterState)

theorem timerExpired_lineStep : LineStep 0 r.toInterruptState r.timerExpired.toInterruptState := by
  unfold timerExpired
  dsimp only
  split
  · split <;> exact r.toInterruptState.requestTimer_lineStep
  · split <;> exact .refl _

theorem advanceTimerTurns_lineStep (turns : Nat) (ticks : BitVec 32) (r : RasterState) :
    LineStep 0 r.toInterruptState (advanceTimerTurns turns ticks r).toInterruptState := by
  induction turns generalizing ticks r with
  | zero => exact .refl _
  | succ turns ih =>
    unfold advanceTimerTurns
    split
    · exact .refl _
    · dsimp only
      split
      · exact .refl _
      · exact r.timerExpired_lineStep.trans_zero (ih _ _)

theorem advanceTimer_lineStep (ticks : BitVec 32) :
    LineStep 0 r.toInterruptState (r.ngNeogeoAdvanceTimer ticks).toInterruptState :=
  advanceTimerTurns_lineStep _ _ r

theorem beginVblank_lineStep :
    LineStep 0 r.toInterruptState r.ngNeogeoBeginVblank.toInterruptState := by
  unfold ngNeogeoBeginVblank
  dsimp only
  split <;> exact r.toInterruptState.requestVblank_lineStep

theorem advanceScanline_lineStep :
    LineStep 0 r.toInterruptState r.ngNeogeoAdvanceScanline.toInterruptState := by
  unfold ngNeogeoAdvanceScanline
  dsimp only
  have htimer := advanceTimer_lineStep { r with scanlineCycle := 0 }
    (BitVec.ofNat 32 ngNeoNtscPixelsPerScanline)
  split
  · exact htimer.trans_zero (beginVblank_lineStep (nextScanline _))
  · exact htimer

theorem advanceFrame_lineStep :
    LineStep 0 r.toInterruptState r.ngNeogeoAdvanceFrame.toInterruptState :=
  r.beginVblank_lineStep.trans_zero (advanceTimer_lineStep _ _)

end RasterState

namespace NeogeoRuntime

variable (rt : NeogeoRuntime)

theorem finishScanline_lineStep :
    LineStep 0 rt.toInterruptState rt.finishScanline.toInterruptState :=
  RasterState.advanceScanline_lineStep { rt.toRasterState with
    cpuCycles := rt.cpuCycles + rt.cyclesUntilScanline.setWidth 64
    scanlineCycle := 0 }

theorem advanceCpuCyclesTurns_lineStep (turns : Nat) (cycles : BitVec 32) (rt : NeogeoRuntime) :
    LineStep 0 rt.toInterruptState (advanceCpuCyclesTurns turns cycles rt).toInterruptState := by
  induction turns generalizing cycles rt with
  | zero => exact .refl _
  | succ turns ih =>
    unfold advanceCpuCyclesTurns
    split
    · exact .refl _
    · split
      · exact .refl _
      · exact rt.finishScanline_lineStep.trans_zero (ih _ _)

theorem advanceCpuCycles_lineStep (cycles : BitVec 32) :
    LineStep 0 rt.toInterruptState (rt.ngNeogeoAdvanceCpuCycles cycles).toInterruptState := by
  unfold ngNeogeoAdvanceCpuCycles
  split
  · exact .refl _
  · exact advanceCpuCyclesTurns_lineStep _ _ { rt with cycleTimingActive := 1 }

theorem pollInterrupts_lineStep :
    LineStep 0 rt.toInterruptState rt.pollInterrupts.toInterruptState := by
  have hscan : LineStep 0 rt.toInterruptState
      (autoScanline { rt with interruptPolls := rt.interruptPolls + 1 }).toInterruptState := by
    unfold autoScanline
    split
    · exact RasterState.advanceScanline_lineStep { rt.toRasterState with
        interruptPolls := rt.interruptPolls + 1 }
    · exact .refl _
  refine hscan.trans_zero ?_
  show LineStep 0 _ (autoVblank _).toInterruptState
  unfold autoVblank
  split
  · exact InterruptState.requestVblank_lineStep _
  · exact .refl _

/-! ## Bus writes -/

/-- The mask a word at an address acknowledges: its value, at `IRQACK`. -/
def wordAckMask (addr : BitVec 32) (word : BitVec 16) : BitVec 16 :=
  if addr &&& 0x00FFFFFE = 0x003C000C then word else 0

theorem writeLspcWord_interrupts (addr : BitVec 32) (word : BitVec 16) :
    (rt.ngNeogeoWriteLspcWord addr word).toInterruptState =
      if addr = 0x003C000C then
        { rt.toInterruptState with
          lastIrqAckPc := rt.pc24, lastIrqAckValue := word }.ngNeogeoAckInterrupts word
      else rt.toInterruptState := by
  by_cases h : addr = 0x003C000C
  · rw [if_pos h, h]
    rfl
  · rw [if_neg h]
    unfold ngNeogeoWriteLspcWord
    dsimp only
    split
    case h_7 hack => exact absurd (BitVec.eq_of_toNat_eq hack) h
    case h_6 => split <;> rfl
    all_goals rfl

theorem writeLspcWord_lineStep (addr : BitVec 32) (word : BitVec 16) :
    LineStep (wordAckMask addr word) rt.toInterruptState
      (rt.ngNeogeoWriteLspcWord (addr &&& 0x00FFFFFF &&& 0x00FFFFFE) word).toInterruptState := by
  have haddr : addr &&& 0x00FFFFFF &&& 0x00FFFFFE = addr &&& 0x00FFFFFE := BitVec.and_assoc ..
  rw [writeLspcWord_interrupts, haddr, wordAckMask]
  split
  · have h := InterruptState.ack_lineStep
      { rt.toInterruptState with lastIrqAckPc := rt.pc24, lastIrqAckValue := word } word
    exact ⟨h.line, h.keeps⟩
  · exact .refl _

theorem write8_lineStep (addr : BitVec 32) (value : BitVec 8) :
    LineStep (wordAckMask addr (twice value)) rt.toInterruptState
      (rt.ng68kWrite8 addr value).toInterruptState := by
  refine ng68kWrite8_cases
    (P := fun rt' => LineStep (wordAckMask addr (twice value)) rt.toInterruptState rt'.toInterruptState)
    rt addr value (.refl _) (.refl _) (.refl _) ?_ (.refl _) (.refl _) (fun _ => .refl _) ?_
    (fun _ => rt.writeLspcWord_lineStep addr _)
  · rw [(rt.writeBackupRam_frame _ _).2.1]
    exact .refl _
  · rw [(rt.writeSystemLatch_frame _ _).2.1]
    exact .refl _

/-- The addresses that are decoded as `IRQACK`. -/
theorem irqack_addr {addr : BitVec 32} (h : addr &&& 0x00FFFFFE = 0x003C000C) :
    addr.toNat / 2 % 0x800000 = 0x1E0006 := by
  have hshift : addr >>> 1 &&& 0x007FFFFF#32 = 0x001E0006#32 := by
    rw [show (0x007FFFFF#32) = 0x00FFFFFE#32 >>> 1 from rfl, ← BitVec.ushiftRight_and_distrib]
    exact congrArg (fun x : BitVec 32 => x >>> 1) h
  have hn := congrArg BitVec.toNat hshift
  rw [BitVec.toNat_and, BitVec.toNat_ushiftRight, Nat.shiftRight_eq_div_pow] at hn
  exact (Nat.and_two_pow_sub_one_eq_mod _ 23).symm.trans hn

/-- Neither byte of a word that is not for the graphics chip goes to `IRQACK`. -/
theorem wordAckMask_bytes {addr : BitVec 32} (h : ngNeogeoIsLspcAddr (addr &&& 0x00FFFFFF) = false)
    (a b : BitVec 16) : wordAckMask (addr &&& 0x00FFFFFF) a = 0 ∧
      wordAckMask ((addr &&& 0x00FFFFFF) + 1) b = 0 := by
  have hlt := toNat_and_mask24 addr
  generalize addr &&& 0x00FFFFFF = x at *
  simp only [ngNeogeoIsLspcAddr, inWindow, Bool.and_eq_false_iff, decide_eq_false_iff_not] at h
  refine ⟨if_neg fun hx => ?_, if_neg fun hx => ?_⟩
  · have := irqack_addr hx
    omega
  · have := irqack_addr hx
    rw [BitVec.toNat_add] at this
    have : (1 : BitVec 32).toNat = 1 := rfl
    omega

theorem write16_lineStep (addr : BitVec 32) (word : BitVec 16) :
    LineStep (wordAckMask addr word) rt.toInterruptState
      (rt.ng68kWrite16 addr word).toInterruptState := by
  refine ng68kWrite16_cases
    (P := fun rt' => LineStep (wordAckMask addr word) rt.toInterruptState rt'.toInterruptState)
    rt addr word (fun _ => .refl _) (fun _ => rt.writeLspcWord_lineStep addr word) ?_
  intro hl
  have hhi := rt.write8_lineStep (addr &&& 0x00FFFFFF) ((word >>> 8).setWidth 8)
  have hlo := write8_lineStep (rt.ng68kWrite8 (addr &&& 0x00FFFFFF) ((word >>> 8).setWidth 8))
    ((addr &&& 0x00FFFFFF) + 1) (word.setWidth 8)
  rw [(wordAckMask_bytes hl _ 0).1] at hhi
  rw [(wordAckMask_bytes hl 0 _).2] at hlo
  exact (hhi.trans_zero hlo).of_zero

end NeogeoRuntime

/-! ## Operations -/

/-- The sources an operation acknowledges. -/
def RuntimeOp.ackMask : RuntimeOp → BitVec 16
  | .ackInterrupts ackMask => ackMask
  | .write8 addr value => wordAckMask addr (twice value)
  | .write16 addr value => wordAckMask addr value
  | .write32 addr value =>
    wordAckMask addr ((value >>> 16).setWidth 16) ||| wordAckMask (addr + 2) (value.setWidth 16)
  | _ => 0

/-- The operation is a reset: of the runtime, or a pending one of the watchdog that is taken. -/
def RuntimeOp.isReset (rt : NeogeoRuntime) : RuntimeOp → Prop
  | .resetRuntime => True
  | .takeReset _ _ => rt.watchdogResetPending ≠ 0
  | _ => False

/-- Taking an interrupt polls, and then only notes what it hands over. -/
theorem takeInterrupt_cases (rt : NeogeoRuntime) (mask : BitVec 8) (out : Bool) :
    (rt.ngM68kTakeInterrupt mask out).2.irqPending = rt.pollInterrupts.irqPending ∧
      (rt.ngM68kTakeInterrupt mask out).2.interruptLevel = rt.pollInterrupts.interruptLevel ∧
      (rt.ngM68kTakeInterrupt mask out).2.interruptVector = rt.pollInterrupts.interruptVector := by
  unfold ngM68kTakeInterrupt
  dsimp only
  split
  · exact ⟨rfl, rfl, rfl⟩
  · split
    · exact ⟨rfl, rfl, rfl⟩
    · split <;> exact ⟨rfl, rfl, rfl⟩

/-- Every operation but a reset acknowledges what it says and keeps the rest. -/
theorem step_lineStep (rt : NeogeoRuntime) (op : RuntimeOp) (h : ¬ op.isReset rt) :
    LineStep op.ackMask rt.toInterruptState (op.step rt).2.toInterruptState := by
  cases op with
  | write8 addr value => exact rt.write8_lineStep addr value
  | write16 addr value => exact rt.write16_lineStep addr value
  | write32 addr value => exact (rt.write16_lineStep addr _).trans (write16_lineStep _ _ _)
  | requestVblankInterrupt => exact rt.toInterruptState.requestVblank_lineStep
  | requestTimerInterrupt => exact rt.toInterruptState.requestTimer_lineStep
  | requestResetInterrupt => exact rt.toInterruptState.request_lineStep _
  | ackInterrupts ackMask => exact rt.toInterruptState.ack_lineStep ackMask
  | beginVblank => exact rt.toRasterState.beginVblank_lineStep
  | advanceTimer ticks => exact rt.toRasterState.advanceTimer_lineStep ticks
  | advanceScanline => exact rt.toRasterState.advanceScanline_lineStep
  | advanceFrame => exact rt.toRasterState.advanceFrame_lineStep
  | advanceCpuCycles cycles => exact rt.advanceCpuCycles_lineStep cycles
  | takeInterrupt mask out =>
    obtain ⟨hp, hl, hv⟩ := takeInterrupt_cases rt mask out
    have hpoll := rt.pollInterrupts_lineStep
    refine ⟨fun hi => ?_, fun source hs hn => ?_⟩
    · have hline := hpoll.line hi
      unfold InterruptState.LineOk at hline ⊢
      show (_, _) = interruptLine (rt.ngM68kTakeInterrupt mask out).2.irqPending
      rw [hp, ← hline, ← hl, ← hv]
      rfl
    · show source.isIn (rt.ngM68kTakeInterrupt mask out).2.irqPending
      rw [hp]
      exact hpoll.keeps source hs hn
  | takeReset pc ssp =>
    rcases rt.takeReset_cases pc ssp with ⟨_, hsame⟩ | ⟨hp, _⟩
    · show LineStep _ _ (rt.ngM68kTakeReset pc ssp).2.toInterruptState
      rw [hsame]
      exact .refl _
    · exact absurd hp h
  | resetRuntime => exact absurd trivial h
  | _ => exact .refl _

/-! ## Runs -/

theorem lineOk_zero : ((0, 0) : BitVec 8 × BitVec 8) = interruptLine 0 := by decide

theorem reset_lineOk (rt : NeogeoRuntime) : rt.ngNeogeoResetRuntime.LineOk := lineOk_zero

theorem clearForReset_lineOk (rt : NeogeoRuntime) : rt.clearForReset.LineOk := lineOk_zero

theorem step_lineOk (rt : NeogeoRuntime) (op : RuntimeOp) (h : rt.LineOk) :
    (op.step rt).2.LineOk := by
  by_cases hr : op.isReset rt
  · cases op with
    | resetRuntime => exact reset_lineOk rt
    | takeReset pc ssp =>
      rcases rt.takeReset_cases pc ssp with ⟨h0, _⟩ | ⟨_, rt', _, heq⟩
      · exact absurd h0 hr
      · show (rt.ngM68kTakeReset pc ssp).2.LineOk
        rw [heq]
        exact clearForReset_lineOk rt'
    | _ => exact absurd hr id
  · exact (step_lineStep rt op hr).line h

/-- Some operation of a run acknowledges the source or resets. -/
def ClearedIn (source : IrqSource) : NeogeoRuntime → List RuntimeOp → Prop
  | _, [] => False
  | rt, op :: ops => source.isIn op.ackMask ∨ op.isReset rt ∨ ClearedIn source (op.step rt).2 ops

theorem run_keeps_pending (source : IrqSource) (ops : List RuntimeOp) {rt : NeogeoRuntime}
    (h : source.isIn rt.irqPending) (hn : ¬ ClearedIn source rt ops) :
    source.isIn (rt.run ops).2.irqPending := by
  induction ops generalizing rt with
  | nil => exact h
  | cons op ops ih =>
    rw [ClearedIn, not_or, not_or] at hn
    exact ih ((step_lineStep rt op hn.2.1).keeps source h hn.1) hn.2.2

/-- The operation that requests a source. -/
def IrqSource.request : IrqSource → RuntimeOp
  | .reset => .requestResetInterrupt
  | .timer => .requestTimerInterrupt
  | .vblank => .requestVblankInterrupt

theorem request_isIn (source : IrqSource) (rt : NeogeoRuntime) :
    source.isIn (source.request.step rt).2.irqPending := by
  have hor : ∀ bits : BitVec 16, source.isIn (bits ||| source.mask) := by
    intro bits
    rw [IrqSource.isIn_iff, BitVec.getLsbD_or]
    cases source <;> simp [IrqSource.bit, IrqSource.mask] <;> right <;> decide
  cases source with
  | reset => exact (rt.toInterruptState.request_irqPending _).symm ▸ hor _
  | timer => exact (InterruptState.request_irqPending _ _).symm ▸ hor _
  | vblank => exact (InterruptState.request_irqPending _ _).symm ▸ hor _

/-- The levels of the three sources. -/
theorem InterruptState.LineOk.level_le {i : InterruptState} (h : i.LineOk) : i.interruptLevel ≤ 3 := by
  have hlevel : i.interruptLevel = (interruptLine i.irqPending).1 := congrArg Prod.fst h
  rw [hlevel, interruptLine]
  split
  · decide
  · split
    · decide
    · split <;> decide

/-- What taking an interrupt returns while the line follows the sources. -/
theorem takeInterrupt_result {rt : NeogeoRuntime} (h : rt.pollInterrupts.LineOk) (mask : BitVec 8) :
    (rt.ngM68kTakeInterrupt mask true).1 =
      if mask &&& 7 < rt.pollInterrupts.interruptLevel then
        some (rt.pollInterrupts.interruptLevel, rt.pollInterrupts.interruptVector)
      else none := by
  have hle : rt.pollInterrupts.interruptLevel.toNat ≤ 3 := h.level_le
  have h7 : rt.pollInterrupts.interruptLevel &&& 7 = rt.pollInterrupts.interruptLevel := by
    apply BitVec.eq_of_toNat_eq
    rw [BitVec.toNat_and]
    exact (Nat.and_two_pow_sub_one_eq_mod _ 3).trans (Nat.mod_eq_of_lt (by omega))
  unfold ngM68kTakeInterrupt
  dsimp only
  rw [h7]
  by_cases h0 : rt.pollInterrupts.interruptLevel = 0
  · rw [if_pos (.inr h0), if_neg]
    rw [h0]
    exact BitVec.not_lt_zero
  · have hne7 : ¬ (rt.pollInterrupts.interruptLevel = 7 ∧ rt.pollInterrupts.level7Edge ≠ 0) := by
      intro h7
      rw [h7.1] at hle
      exact absurd hle (by decide)
    have hout : ¬ (true = false ∨ rt.pollInterrupts.interruptLevel = 0) :=
      not_or.mpr ⟨Bool.noConfusion, h0⟩
    rw [if_neg hout, if_neg hne7]
    by_cases hm : rt.pollInterrupts.interruptLevel ≤ mask &&& 7
    · rw [if_pos hm, if_neg (BitVec.not_lt.mpr hm)]
    · rw [if_neg hm, if_pos (BitVec.not_le.mp hm)]

/-- In every state reached from reset the line follows the pending sources; a source stays pending
until it is acknowledged or a reset happens; and an interrupt is taken exactly when its level
exceeds the three bits of the mask. -/
theorem interrupt_line_follows_sources (rt : NeogeoRuntime) (ops : List RuntimeOp) :
    let after := (rt.ngNeogeoResetRuntime.run ops).2
    (after.interruptLevel, after.interruptVector) = interruptLine after.irqPending ∧
      (∀ source : IrqSource, source.isIn (source.request.step after).2.irqPending) ∧
      (∀ (source : IrqSource) (later : List RuntimeOp), source.isIn after.irqPending →
        ¬ ClearedIn source after later → source.isIn (after.run later).2.irqPending) ∧
      ∀ mask : BitVec 8,
        (after.ngM68kTakeInterrupt mask true).1 =
            (if mask &&& 7 < after.pollInterrupts.interruptLevel then
              some (after.pollInterrupts.interruptLevel, after.pollInterrupts.interruptVector)
            else none) ∧
          (after.pollInterrupts.interruptLevel, after.pollInterrupts.interruptVector) =
            interruptLine after.pollInterrupts.irqPending ∧
          (after.ngM68kTakeInterrupt mask true).2.irqPending = after.pollInterrupts.irqPending ∧
          ∀ source : IrqSource, source.isIn after.irqPending →
            source.isIn (after.ngM68kTakeInterrupt mask true).2.irqPending := by
  intro after
  have hok : after.LineOk := run_invariant step_lineOk (reset_lineOk rt) ops
  refine ⟨hok, fun source => request_isIn source after,
    fun source later => run_keeps_pending source later, fun mask => ?_⟩
  have hpoll := after.pollInterrupts_lineStep
  have hpending := (takeInterrupt_cases after mask true).1
  refine ⟨takeInterrupt_result (hpoll.line hok) mask, hpoll.line hok, hpending, fun source hs => ?_⟩
  rw [hpending]
  exact hpoll.keeps source hs (by simp [IrqSource.isIn])

/-- The mask as a whole is not what counts: 8 lets the vblank at level 1 through. -/
theorem mask_eight_takes_vblank :
    ¬ ∀ (rt : NeogeoRuntime) (ops : List RuntimeOp) (mask : BitVec 8),
      let after := (rt.ngNeogeoResetRuntime.run ops).2
      (after.ngM68kTakeInterrupt mask true).1 =
        if mask < after.pollInterrupts.interruptLevel then
          some (after.pollInterrupts.interruptLevel, after.pollInterrupts.interruptVector)
        else none := by
  intro h
  have h8 := h NeogeoRuntime.initial [.requestVblankInterrupt] 8
  have htaken : (some (1, 25) : Option (BitVec 8 × BitVec 8)) = none := h8
  cases htaken

end NeoRecomp
