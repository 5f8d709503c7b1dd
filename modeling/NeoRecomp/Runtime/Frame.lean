import NeoRecomp.Runtime.Operations

/-!
# What the operations leave alone

Frame lemmas: the devices an operation does not name keep their state.
-/

namespace NeoRecomp

/-! ## Register windows -/

theorem toNat_and_mask24 (addr : BitVec 32) :
    (addr &&& 0x00FFFFFF).toNat = addr.toNat % 0x1000000 := by
  rw [BitVec.toNat_and]
  exact Nat.and_two_pow_sub_one_eq_mod _ 24

/-- A register that is decoded by the seven address bits from 17 on lies in the 128 KiB page those
bits name. -/
theorem isRegister_page {mask reg addr : BitVec 32} (hm : mask >>> 17 = 0x7F#32)
    (h : isRegister mask reg (addr &&& 0x00FFFFFF) = true) :
    (addr &&& 0x00FFFFFF).toNat / 0x20000 = reg.toNat / 0x20000 := by
  have he : ((addr &&& 0x00FFFFFF) &&& mask) >>> 17 = reg >>> 17 := by
    rw [show (addr &&& 0x00FFFFFF) &&& mask = reg by simpa [isRegister] using h]
  have hlow : (addr &&& 0x00FFFFFF) >>> 17 &&& 0x7F#32 = (addr &&& 0x00FFFFFF) >>> 17 := by
    rw [BitVec.ushiftRight_and_distrib, BitVec.and_assoc]
    rfl
  rw [BitVec.ushiftRight_and_distrib, hm, hlow] at he
  have hn := congrArg BitVec.toNat he
  rwa [BitVec.toNat_ushiftRight, BitVec.toNat_ushiftRight, Nat.shiftRight_eq_div_pow,
    Nat.shiftRight_eq_div_pow] at hn

theorem inWindow_eq_false_of_page {first last page : Nat} {addr : BitVec 32}
    (hp : addr.toNat / 0x20000 = page) (h : last < page * 0x20000 ∨ (page + 1) * 0x20000 ≤ first) :
    inWindow first last addr = false := by
  simp only [inWindow, Bool.and_eq_false_iff, decide_eq_false_iff_not]
  omega

-- A property of both branches, the first one where its test holds.
theorem ite_cases {α : Type} {P : α → Prop} {c : Prop} [Decidable c] {a b : α} (ha : c → P a)
    (hb : P b) : P (if c then a else b) := by
  by_cases h : c
  · rw [if_pos h]
    exact ha h
  · rw [if_neg h]
    exact hb

namespace NeogeoRuntime

variable (rt : NeogeoRuntime) (addr : BitVec 32)

/-! ## Clocked operations -/

/-- Only the raster and the watchdog have moved. -/
def ClockOnly (rt' : NeogeoRuntime) : Prop :=
  rt' = { rt with toRasterState := rt'.toRasterState, toWatchdogState := rt'.toWatchdogState }

variable {rt}

theorem ClockOnly.trans {rt' rt'' : NeogeoRuntime} (h : rt.ClockOnly rt')
    (h' : rt'.ClockOnly rt'') : rt.ClockOnly rt'' := by
  unfold ClockOnly at *
  rw [h'] at *
  rw [h]

theorem ClockOnly.toSoundState {rt' : NeogeoRuntime} (h : rt.ClockOnly rt') :
    rt'.toSoundState = rt.toSoundState := by
  rw [h]

variable (rt)

theorem finishScanline_clockOnly : rt.ClockOnly rt.finishScanline := rfl

theorem advanceCpuCyclesTurns_clockOnly (turns : Nat) (cycles : BitVec 32) (rt : NeogeoRuntime) :
    rt.ClockOnly (advanceCpuCyclesTurns turns cycles rt) := by
  induction turns generalizing cycles rt with
  | zero => rfl
  | succ turns ih =>
    unfold advanceCpuCyclesTurns
    split
    · rfl
    · split
      · rfl
      · exact rt.finishScanline_clockOnly.trans (ih _ _)

theorem advanceCpuCycles_clockOnly (cycles : BitVec 32) :
    rt.ClockOnly (rt.ngNeogeoAdvanceCpuCycles cycles) := by
  unfold ngNeogeoAdvanceCpuCycles
  split
  · rfl
  · exact advanceCpuCyclesTurns_clockOnly _ _ { rt with cycleTimingActive := 1 }

theorem autoScanline_clockOnly : rt.ClockOnly rt.autoScanline := by
  unfold autoScanline
  split <;> rfl

theorem autoVblank_clockOnly : rt.ClockOnly rt.autoVblank := by
  unfold autoVblank
  split <;> rfl

theorem updateWatchdogTimeout_clockOnly : rt.ClockOnly rt.ngNeogeoUpdateWatchdogTimeout := rfl

theorem pollInterrupts_clockOnly : rt.ClockOnly rt.pollInterrupts := by
  have hscan := autoScanline_clockOnly { rt with interruptPolls := rt.interruptPolls + 1 }
  have hvblank := hscan.trans (autoVblank_clockOnly _)
  exact hvblank.trans (updateWatchdogTimeout_clockOnly _)

theorem takeInterrupt_clockOnly (mask : BitVec 8) (out : Bool) :
    rt.ClockOnly (rt.ngM68kTakeInterrupt mask out).2 := by
  unfold ngM68kTakeInterrupt
  dsimp only
  split
  · exact rt.pollInterrupts_clockOnly
  · split
    · exact rt.pollInterrupts_clockOnly.trans rfl
    · split
      · exact rt.pollInterrupts_clockOnly
      · exact rt.pollInterrupts_clockOnly.trans rfl

/-! ## Reads and watchdog resets -/

/-- Only the two counters of the reads have moved. -/
def ReadsOnly (rt rt' : NeogeoRuntime) : Prop :=
  rt' = { rt with statusAReads := rt'.statusAReads, readMissLogCount := rt'.readMissLogCount }

variable {rt} in
theorem ReadsOnly.trans {rt' rt'' : NeogeoRuntime} (h : rt.ReadsOnly rt')
    (h' : rt'.ReadsOnly rt'') : rt.ReadsOnly rt'' := by
  unfold ReadsOnly at *
  rw [h'] at *
  rw [h]

theorem resetVector_readsOnly (wanted : Bool) (configured vector mask : BitVec 32) :
    rt.ReadsOnly (rt.resetVector wanted configured vector mask).2 := by
  unfold resetVector
  split
  · split <;> rfl
  · rfl

/-- What taking a reset does: nothing unless one is pending. -/
theorem takeReset_cases (pc ssp : Bool) :
    (rt.watchdogResetPending = 0 ∧ rt.ngM68kTakeReset pc ssp = (none, rt)) ∨
      (rt.watchdogResetPending ≠ 0 ∧ ∃ rt', rt.acceptReset.ReadsOnly rt' ∧
        (rt.ngM68kTakeReset pc ssp).2 = rt'.clearForReset) := by
  unfold ngM68kTakeReset
  by_cases h : rt.watchdogResetPending = 0
  · rw [if_pos h]
    exact .inl ⟨h, rfl⟩
  · rw [if_neg h]
    refine .inr ⟨h, _, ?_, rfl⟩
    exact (resetVector_readsOnly _ _ _ _ _).trans (resetVector_readsOnly _ _ _ _ _)

/-! ## Bus writes -/

variable (value : BitVec 8) (word : BitVec 16)

/-- What a byte write can do, one hypothesis for each device that decodes it. -/
theorem ng68kWrite8_cases {P : NeogeoRuntime → Prop} (same : P rt)
    (workRam : P { rt with
      workRam := Function.update rt.workRam ((addr &&& 0x00FFFFFF).setWidth 16) value })
    (palette : P { rt with
      toPaletteState := writePalette rt.toPaletteState (addr &&& 0x00FFFFFF) (twice value) })
    (backup : P (rt.writeBackupRam (addr &&& 0x00FFFFFF) value))
    (watchdog : P (rt.kickWatchdog (addr &&& 0x00FFFFFF) value))
    (port : P (rt.writePortOutput (addr &&& 0x00FFFFFF) value))
    (sound : ngNeogeoIsSoundAddr (addr &&& 0x00FFFFFF) = true →
      P (rt.writeSound (addr &&& 0x00FFFFFF) value))
    (latch : P (rt.writeSystemLatch (addr &&& 0x00FFFFFF) value))
    (lspc : ngNeogeoIsLspcAddr (addr &&& 0x00FFFFFF) = true →
      P (rt.ngNeogeoWriteLspcWord (addr &&& 0x00FFFFFF &&& 0x00FFFFFE) (twice value))) :
    P (rt.ng68kWrite8 addr value) := by
  unfold ng68kWrite8
  dsimp only
  -- the windows in the order of the tests; the system ROM and the memory card ignore the byte
  exact ite_cases (fun _ => workRam) <| ite_cases (fun _ => palette) <|
    ite_cases (fun _ => backup) <| ite_cases (fun _ => same) <| ite_cases (fun _ => same) <|
    ite_cases (fun _ => watchdog) <| ite_cases (fun _ => port) <| ite_cases sound <|
    ite_cases (fun _ => latch) <| ite_cases lspc same

/-- What a word write can do. -/
theorem ng68kWrite16_cases {P : NeogeoRuntime → Prop}
    (palette : ngNeogeoIsPaletteAddr (addr &&& 0x00FFFFFF) = true →
      P { rt with toPaletteState := writePalette rt.toPaletteState (addr &&& 0x00FFFFFF) word })
    (lspc : ngNeogeoIsLspcAddr (addr &&& 0x00FFFFFF) = true →
      P (rt.ngNeogeoWriteLspcWord (addr &&& 0x00FFFFFF &&& 0x00FFFFFE) word))
    (bytes : ngNeogeoIsLspcAddr (addr &&& 0x00FFFFFF) = false →
      P ((rt.ng68kWrite8 (addr &&& 0x00FFFFFF) ((word >>> 8).setWidth 8)).ng68kWrite8
        ((addr &&& 0x00FFFFFF) + 1) (word.setWidth 8))) :
    P (rt.ng68kWrite16 addr word) := by
  unfold ng68kWrite16
  dsimp only
  split
  · exact palette ‹_›
  · split
    · exact lspc ‹_›
    · exact bytes (Bool.eq_false_of_not_eq_true ‹_›)

/-- The devices that a latch write does not reach. -/
theorem writeSystemLatch_frame :
    (rt.writeSystemLatch addr value).toSoundState = rt.toSoundState ∧
      (rt.writeSystemLatch addr value).toRasterState = rt.toRasterState ∧
      (rt.writeSystemLatch addr value).m68k = rt.m68k := by
  unfold writeSystemLatch
  dsimp only
  split <;> exact ⟨rfl, rfl, rfl⟩

/-- The devices that a write to the graphics chip does not reach. -/
theorem writeLspcWord_frame :
    (rt.ngNeogeoWriteLspcWord addr word).toSoundState = rt.toSoundState ∧
      (rt.ngNeogeoWriteLspcWord addr word).toTimingState = rt.toTimingState ∧
      (rt.ngNeogeoWriteLspcWord addr word).m68k = rt.m68k := by
  unfold ngNeogeoWriteLspcWord
  dsimp only
  split <;> try exact ⟨rfl, rfl, rfl⟩
  split <;> exact ⟨rfl, rfl, rfl⟩

theorem writeBackupRam_frame :
    (rt.writeBackupRam addr value).toSoundState = rt.toSoundState ∧
      (rt.writeBackupRam addr value).toRasterState = rt.toRasterState ∧
      (rt.writeBackupRam addr value).m68k = rt.m68k := by
  unfold writeBackupRam
  split <;> exact ⟨rfl, rfl, rfl⟩

/-- No byte write changes the clock or the CPU. -/
theorem write8_clock :
    (rt.ng68kWrite8 addr value).toTimingState = rt.toTimingState ∧
      (rt.ng68kWrite8 addr value).m68k = rt.m68k := by
  refine ng68kWrite8_cases
    (P := fun rt' => rt'.toTimingState = rt.toTimingState ∧ rt'.m68k = rt.m68k) rt addr value
    ⟨rfl, rfl⟩ ⟨rfl, rfl⟩ ⟨rfl, rfl⟩ ?_ ⟨rfl, rfl⟩ ⟨rfl, rfl⟩ (fun _ => ⟨rfl, rfl⟩) ?_
    (fun _ => (rt.writeLspcWord_frame _ _).2)
  · obtain ⟨_, hraster, hcpu⟩ := rt.writeBackupRam_frame (addr &&& 0x00FFFFFF) value
    exact ⟨congrArg RasterState.toTimingState hraster, hcpu⟩
  · obtain ⟨_, hraster, hcpu⟩ := rt.writeSystemLatch_frame (addr &&& 0x00FFFFFF) value
    exact ⟨congrArg RasterState.toTimingState hraster, hcpu⟩

end NeogeoRuntime
end NeoRecomp
