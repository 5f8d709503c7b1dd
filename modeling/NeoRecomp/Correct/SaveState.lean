import NeoRecomp.Correct.Interrupts
import NeoRecomp.Correct.SoundQueue
import NeoRecomp.Runtime.SaveState

/-!
# Save states

A blob holds every variable of the runtime but the ROMs.  Loading puts two of them through a mask,
which no state reached from reset notices, and tests only the header and the indices of the sound
queue.
-/

namespace NeoRecomp
namespace NeogeoRuntime

variable {rt rt' rt'' : NeogeoRuntime}

/-! ## What the operations keep -/

/-- The ROMs stay, and the palette bank stays a bank. -/
structure KeepsBank (rt rt' : NeogeoRuntime) : Prop where
  roms : rt'.toRomState = rt.toRomState
  bank : rt.paletteBank ≤ 1 → rt'.paletteBank ≤ 1

theorem KeepsBank.refl (rt : NeogeoRuntime) : KeepsBank rt rt := ⟨rfl, id⟩

theorem KeepsBank.trans (h : KeepsBank rt rt') (h' : KeepsBank rt' rt'') : KeepsBank rt rt'' :=
  ⟨h'.roms.trans h.roms, fun hb => h'.bank (h.bank hb)⟩

theorem KeepsBank.of_eq (hr : rt'.toRomState = rt.toRomState)
    (hb : rt'.paletteBank = rt.paletteBank) : KeepsBank rt rt' :=
  ⟨hr, fun h => by rw [hb]; exact h⟩

theorem ClockOnly.keepsBank (h : rt.ClockOnly rt') : KeepsBank rt rt' := by
  apply KeepsBank.of_eq
  · rw [h]
  · rw [h]

variable (rt) (addr : BitVec 32) (value : BitVec 8) (word : BitVec 16)

theorem palette_keepsBank :
    KeepsBank rt { rt with toPaletteState := writePalette rt.toPaletteState addr word } :=
  .of_eq rfl (writePalette_bank rt.toPaletteState addr word)

theorem KeepsBank.of_bank {bank : BitVec 8} (h : bank ≤ 1) (hr : rt'.toRomState = rt.toRomState)
    (hb : rt'.paletteBank = bank) : KeepsBank rt rt' :=
  ⟨hr, fun _ => by rw [hb]; exact h⟩

theorem bank_zero_le : (0 : BitVec 8) ≤ 1 := by decide

theorem bank_one_le : (1 : BitVec 8) ≤ 1 := by decide

-- The only assignments to the bank are the two of the latch.
theorem writeSystemLatch_keepsBank : KeepsBank rt (rt.writeSystemLatch addr value) := by
  unfold writeSystemLatch
  dsimp only
  split
  all_goals first
    | exact .of_eq rfl rfl
    | exact .of_bank rt bank_one_le rfl rfl
    | exact .of_bank rt bank_zero_le rfl rfl

theorem writeLspcWord_keepsBank : KeepsBank rt (rt.ngNeogeoWriteLspcWord addr word) := by
  unfold ngNeogeoWriteLspcWord
  dsimp only
  split <;> try exact .of_eq rfl rfl
  split <;> exact .of_eq rfl rfl

theorem writeBackupRam_keepsBank : KeepsBank rt (rt.writeBackupRam addr value) := by
  unfold writeBackupRam
  split <;> exact .of_eq rfl rfl

theorem write8_keepsBank : KeepsBank rt (rt.ng68kWrite8 addr value) :=
  ng68kWrite8_cases rt addr value (.refl rt) (.of_eq rfl rfl) (rt.palette_keepsBank _ _)
    (rt.writeBackupRam_keepsBank _ _) (.of_eq rfl rfl) (.of_eq rfl rfl) (fun _ => .of_eq rfl rfl)
    (rt.writeSystemLatch_keepsBank _ _) fun _ => rt.writeLspcWord_keepsBank _ _

theorem write16_keepsBank : KeepsBank rt (rt.ng68kWrite16 addr word) :=
  ng68kWrite16_cases rt addr word (fun _ => rt.palette_keepsBank _ _)
    (fun _ => rt.writeLspcWord_keepsBank _ _)
    fun _ => (rt.write8_keepsBank _ _).trans (write8_keepsBank _ _ _)

theorem takeReset_keepsBank (pc ssp : Bool) : KeepsBank rt (rt.ngM68kTakeReset pc ssp).2 := by
  rcases rt.takeReset_cases pc ssp with ⟨_, h⟩ | ⟨_, rt', hr, h⟩
  · rw [h]
    exact .refl rt
  · rw [h, hr]
    exact .of_eq rfl rfl

theorem step_keepsBank (op : RuntimeOp) : KeepsBank rt (op.step rt).2 := by
  cases op with
  | write8 addr value => exact rt.write8_keepsBank addr value
  | write16 addr word => exact rt.write16_keepsBank addr word
  | write32 addr value => exact (rt.write16_keepsBank addr _).trans (write16_keepsBank _ _ _)
  | advanceCpuCycles cycles => exact (rt.advanceCpuCycles_clockOnly cycles).keepsBank
  | takeInterrupt mask out => exact (rt.takeInterrupt_clockOnly mask out).keepsBank
  | takeReset pc ssp => exact rt.takeReset_keepsBank pc ssp
  | resetRuntime => exact .of_bank rt bank_zero_le rfl rfl
  | _ => exact .of_eq rfl rfl

theorem run_keepsBank (ops : List RuntimeOp) : KeepsBank rt (rt.run ops).2 := by
  induction ops generalizing rt with
  | nil => exact .refl rt
  | cons op ops ih => exact (rt.step_keepsBank op).trans (ih _)

/-! ## Saving -/

/-- What loading takes over unchanged. -/
structure Savable (rt : NeogeoRuntime) : Prop where
  bank : rt.paletteBank ≤ 1
  line : rt.LineOk
  queue : rt.toSoundCommandQueue.WellFormed

theorem reset_savable (ops : List RuntimeOp) : (rt.ngNeogeoResetRuntime.run ops).2.Savable where
  bank := (run_keepsBank _ ops).bank bank_zero_le
  line := run_invariant step_lineOk (reset_lineOk rt) ops
  queue := (run_refines ops (reset_refines rt)).2.wellFormed

variable {rt}

theorem and_one_of_le {bank : BitVec 8} (h : bank ≤ 1) : bank &&& 1 = bank := by
  revert h
  revert bank
  decide

theorem and_seven_of_le {level : BitVec 8} (h : level ≤ 3) : level &&& 7 = level := by
  revert h
  revert level
  decide

theorem Savable.accepted (h : rt.Savable) : rt.stateBlob.accepted = true := by
  have hhead : rt.soundCommandQueueHead < 512 := h.queue.head_lt
  have htail : rt.soundCommandQueueTail < 512 := h.queue.tail_lt
  have hcount : rt.soundCommandQueueCount ≤ 512 := h.queue.count_le
  unfold NgNeoRuntimeStateBlob.accepted
  rw [if_neg, if_neg]
  · rintro (h512 | h512 | h512)
    · exact absurd hhead (BitVec.not_lt.mpr h512)
    · exact absurd htail (BitVec.not_lt.mpr h512)
    · exact absurd hcount (BitVec.not_le.mpr h512)
  · rintro (hne | hne | hne) <;> exact hne rfl

/-- Every variable but the ROMs comes back. -/
theorem Savable.restore (h : rt.Savable) (now : NeogeoRuntime) :
    now.restoreBlob rt.stateBlob = { rt with toRomState := now.toRomState } := by
  have hbank := and_one_of_le h.bank
  have hlevel := and_seven_of_le h.line.level_le
  unfold restoreBlob stateBlob
  dsimp only
  rw [hbank, hlevel]

/-! ## Loading -/

/-- A blob in memory is read back as it was stored, whatever lies behind it. -/
theorem load_store (state : NgNeoRuntimeStateBlob) (rest : List (BitVec 8)) :
    rt.ngNeogeoRuntimeLoadState (some (NgNeoRuntimeStateBlob.layout.store state ++ rest))
        ngNeogeoRuntimeStateSize =
      if state.accepted then (true, rt.restoreBlob state) else (false, rt) := by
  unfold ngNeogeoRuntimeLoadState
  dsimp only
  rw [if_neg (BitVec.lt_irrefl _), NgNeoRuntimeStateBlob.layout.fetch_store]

theorem load_rejected {data : Option (List (BitVec 8))} {size : BitVec 32}
    (h : (rt.ngNeogeoRuntimeLoadState data size).1 = false) :
    (rt.ngNeogeoRuntimeLoadState data size).2 = rt := by
  unfold ngNeogeoRuntimeLoadState at h ⊢
  cases data with
  | none => rfl
  | some bytes =>
    dsimp only at h ⊢
    by_cases hsize : size < ngNeogeoRuntimeStateSize
    · rw [if_pos hsize]
    · rw [if_neg hsize] at h ⊢
      by_cases hstate : (NgNeoRuntimeStateBlob.layout.fetch bytes).accepted = true
      · rw [if_pos hstate] at h
        cases h
      · rw [if_neg hstate]

theorem length_store_stateBlob (rt : NeogeoRuntime) :
    (NgNeoRuntimeStateBlob.layout.store rt.stateBlob).length = ngNeogeoRuntimeStateSize.toNat := by
  rw [NgNeoRuntimeStateBlob.layout.length_store]
  decide +kernel

end NeogeoRuntime

open NeogeoRuntime

/-- A state reached from reset is saved in full: loading its blob gives it back, but for the ROMs,
in whichever state that happens.  A blob that is refused changes nothing. -/
theorem save_state_round_trip (rt : NeogeoRuntime) (ops : List RuntimeOp) :
    let saved := (rt.ngNeogeoResetRuntime.run ops).2
    let blob := NgNeoRuntimeStateBlob.layout.store saved.stateBlob
    (∀ outSize : BitVec 32, saved.ngNeogeoRuntimeSaveState true outSize =
        if outSize < ngNeogeoRuntimeStateSize then none else some blob) ∧
      blob.length = ngNeogeoRuntimeStateSize.toNat ∧
      (∀ now : NeogeoRuntime, now.ngNeogeoRuntimeLoadState (some blob) ngNeogeoRuntimeStateSize =
        (true, { saved with toRomState := now.toRomState })) ∧
      (∀ further later : List RuntimeOp,
        let loaded := ((saved.run further).2.ngNeogeoRuntimeLoadState (some blob)
          ngNeogeoRuntimeStateSize).2
        loaded = saved ∧ loaded.run later = saved.run later) ∧
      ∀ (now : NeogeoRuntime) (data : Option (List (BitVec 8))) (size : BitVec 32),
        (now.ngNeogeoRuntimeLoadState data size).1 = false →
          (now.ngNeogeoRuntimeLoadState data size).2 = now := by
  intro saved blob
  have hsaved : saved.Savable := rt.reset_savable ops
  have hload : ∀ now : NeogeoRuntime,
      now.ngNeogeoRuntimeLoadState (some blob) ngNeogeoRuntimeStateSize =
        (true, { saved with toRomState := now.toRomState }) := by
    intro now
    have h := @load_store now saved.stateBlob []
    rw [List.append_nil, if_pos hsaved.accepted, hsaved.restore now] at h
    exact h
  refine ⟨?_, length_store_stateBlob saved, hload, ?_, fun now data size => load_rejected⟩
  · intro outSize
    unfold ngNeogeoRuntimeSaveState
    simp only [Bool.true_eq_false, false_or]
    rfl
  · intro further later loaded
    have hroms : (saved.run further).2.toRomState = saved.toRomState :=
      (saved.run_keepsBank further).roms
    have hloaded : loaded = saved := by
      show (ngNeogeoRuntimeLoadState _ (some blob) ngNeogeoRuntimeStateSize).2 = saved
      rw [hload, hroms]
    exact ⟨hloaded, by rw [hloaded]⟩

/-! ## Blobs from elsewhere -/

/-- How many bytes of a palette RAM are not zero, and what all of them add up to. -/
def nonzeroBytes (ram : BitVec 14 → BitVec 8) : Nat :=
  (List.range 0x4000).countP fun i => ram (BitVec.ofNat 14 i) ≠ 0

def byteSum (ram : BitVec 14 → BitVec 8) : Nat :=
  ((List.range 0x4000).map fun i => (ram (BitVec.ofNat 14 i)).toNat).sum

/-- What the operations rely on without a test: the ring is consistent, the beam is on the screen,
and the cached palette counters and interrupt line are those of the state they summarise. -/
structure NeogeoRuntime.Coherent (rt : NeogeoRuntime) : Prop where
  head_eq : rt.soundCommandQueueHead.toNat =
    (rt.soundCommandQueueTail.toNat + rt.soundCommandQueueCount.toNat) % 512
  count_le : rt.soundCommandQueueCount.toNat ≤ 512
  scanlineCycle_lt : rt.scanlineCycle < 768
  currentScanline_lt : rt.currentScanline < 264
  nonzeroBytes_eq : rt.paletteNonzeroBytes.toNat = nonzeroBytes rt.paletteRam
  checksum_eq : rt.paletteChecksum = BitVec.ofNat 32 (byteSum rt.paletteRam)
  line : rt.LineOk

/-- The same of the fields of a blob, of whose level only three bits are taken. -/
structure NgNeoRuntimeStateBlob.Coherent (state : NgNeoRuntimeStateBlob) : Prop where
  head_eq : state.soundCommandQueueHead.toNat =
    (state.soundCommandQueueTail.toNat + state.soundCommandQueueCount.toNat) % 512
  scanlineCycle_lt : state.scanlineCycle < 768
  currentScanline_lt : state.currentScanline < 264
  nonzeroBytes_eq : state.paletteNonzeroBytes.toNat = nonzeroBytes state.paletteRam
  checksum_eq : state.paletteChecksum = BitVec.ofNat 32 (byteSum state.paletteRam)
  line : (state.interruptLevel &&& 7, state.interruptVector) = interruptLine state.irqPending

theorem NgNeoRuntimeStateBlob.count_le {state : NgNeoRuntimeStateBlob}
    (h : state.accepted = true) : state.soundCommandQueueCount.toNat ≤ 512 := by
  by_contra hlt
  have hcount : ngNeoSoundCommandQueueCapacity < state.soundCommandQueueCount := by
    show (512 : BitVec 32).toNat < state.soundCommandQueueCount.toNat
    exact Nat.lt_of_not_le hlt
  unfold NgNeoRuntimeStateBlob.accepted at h
  split at h
  · cases h
  · rw [if_pos (.inr (.inr hcount))] at h
    cases h

theorem restoreBlob_coherent_iff (rt : NeogeoRuntime) {state : NgNeoRuntimeStateBlob}
    (h : state.accepted = true) : (rt.restoreBlob state).Coherent ↔ state.Coherent := by
  constructor
  · intro c
    exact ⟨c.head_eq, c.scanlineCycle_lt, c.currentScanline_lt, c.nonzeroBytes_eq, c.checksum_eq,
      c.line⟩
  · intro c
    exact ⟨c.head_eq, NgNeoRuntimeStateBlob.count_le h, c.scanlineCycle_lt, c.currentScanline_lt,
      c.nonzeroBytes_eq, c.checksum_eq, c.line⟩

/-- Loading any bytes is safe exactly when the blob fails a test of the loader or is coherent
itself: beyond the header and the range of the three queue indices nothing is tested. -/
theorem load_coherent_iff (rt : NeogeoRuntime) (data : Option (List (BitVec 8)))
    (size : BitVec 32) :
    ((rt.ngNeogeoRuntimeLoadState data size).1 = true →
        (rt.ngNeogeoRuntimeLoadState data size).2.Coherent) ↔
      ∀ bytes, data = some bytes → ngNeogeoRuntimeStateSize ≤ size →
        (NgNeoRuntimeStateBlob.layout.fetch bytes).accepted = true →
          (NgNeoRuntimeStateBlob.layout.fetch bytes).Coherent := by
  unfold ngNeogeoRuntimeLoadState
  cases data with
  | none => simp
  | some bytes =>
    dsimp only
    by_cases hsize : size < ngNeogeoRuntimeStateSize
    · have hnot : ¬ ngNeogeoRuntimeStateSize ≤ size := BitVec.not_le.mpr hsize
      simp [hsize, hnot]
    · have hle : ngNeogeoRuntimeStateSize ≤ size := BitVec.not_lt.mp hsize
      rw [if_neg hsize]
      by_cases hacc : (NgNeoRuntimeStateBlob.layout.fetch bytes).accepted = true
      · rw [if_pos hacc]
        have hiff := restoreBlob_coherent_iff rt hacc
        constructor
        · rintro h _ ⟨⟩ _ _
          exact hiff.mp (h rfl)
        · intro h _
          exact hiff.mpr (h bytes rfl hle hacc)
      · rw [if_neg hacc]
        constructor
        · rintro _ _ ⟨⟩ _ hacc'
          exact absurd hacc' hacc
        · intro _ h
          cases h

/-- The blob of the initial state with the beam moved past the end of its scanline. -/
def lateBeamBlob : NgNeoRuntimeStateBlob :=
  { NeogeoRuntime.initial.stateBlob with scanlineCycle := 768 }

theorem late_beam_is_loaded :
    ¬ ∀ (rt : NeogeoRuntime) (data : Option (List (BitVec 8))) (size : BitVec 32),
      (rt.ngNeogeoRuntimeLoadState data size).1 = true →
        (rt.ngNeogeoRuntimeLoadState data size).2.Coherent := by
  intro h
  have hacc : lateBeamBlob.accepted = true := by decide +kernel
  have hload := @load_store NeogeoRuntime.initial lateBeamBlob []
  rw [if_pos hacc] at hload
  have hbad := h NeogeoRuntime.initial
    (some (NgNeoRuntimeStateBlob.layout.store lateBeamBlob ++ [])) ngNeogeoRuntimeStateSize
  rw [hload] at hbad
  have hlt : (768 : BitVec 32) < 768 := (hbad rfl).scanlineCycle_lt
  exact absurd hlt (BitVec.lt_irrefl _)

end NeoRecomp
