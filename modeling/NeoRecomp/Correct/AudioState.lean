import NeoRecomp.Runtime.AudioState

/-!
# Save states of the sound CPU

Saving and loading an audio object gives it back.  Loading is not atomic: the prefix is taken over
before the YM2610 part behind it is tested.
-/

namespace NeoRecomp

variable {χ ρ : Type}

/-! ## What the operations keep -/

namespace YmBackend

variable {b : YmBackend χ} (chip : Ym2610Chip χ)

theorem setTimer_roms (b : YmBackend χ) (timer duration : BitVec 32) :
    (b.setTimer timer duration).toSampleRoms = b.toSampleRoms := by
  unfold setTimer
  split <;> rfl

/-- The chip has no access to the ROMs but through reads. -/
theorem run_roms (r : YmRun χ ρ) (b : YmBackend χ) :
    (run r b).2.toSampleRoms = b.toSampleRoms := by
  induction r generalizing b with
  | done chip result => rfl
  | setTimer timer duration next ih => rw [run, ih, setTimer_roms]
  | setBusyEnd clocks next ih => rw [run, ih]
  | isBusy next ih => rw [run, ih]
  | updateIrq asserted next ih => rw [run, ih]
  | externalRead type address next ih => rw [run, ih]

theorem reset_roms (b : YmBackend χ) :
    (b.ngNeogeoYm2610Reset chip).toSampleRoms = b.toSampleRoms := by
  show (run _ _).2.toSampleRoms = _
  rw [run_roms]
  rfl

theorem advanceBusy_roms (b : YmBackend χ) (clocks : BitVec 32) :
    (b.advanceBusy clocks).toSampleRoms = b.toSampleRoms := by
  unfold advanceBusy
  split <;> rfl

theorem advanceTimerClocks_roms (b : YmBackend χ) (i : Fin 2) (clocks : BitVec 32) :
    (b.advanceTimerClocks chip i clocks).toSampleRoms = b.toSampleRoms := by
  unfold advanceTimerClocks
  dsimp only
  split
  · rfl
  · split
    · rw [run_roms]
    · rfl

theorem advanceClocks_roms (b : YmBackend χ) (clocks : BitVec 32) :
    (b.ngNeogeoYm2610AdvanceClocks chip clocks).toSampleRoms = b.toSampleRoms := by
  unfold ngNeogeoYm2610AdvanceClocks
  dsimp only
  split
  · rfl
  · rw [advanceTimerClocks_roms, advanceTimerClocks_roms, advanceBusy_roms]

end YmBackend

namespace NgNeoAudio

variable (chip : Ym2610Chip χ) (z80Step : Z80 → Z80Run)

/-- The sample ROMs of the YM2610, if there is one. -/
def ymRoms (audio : NgNeoAudio χ) : Option SampleRoms := audio.ym.map (·.toSampleRoms)

/-- The ROMs stay where they are, and the head of the write log stays in the log. -/
structure KeepsLog (a a' : NgNeoAudio χ) : Prop where
  roms : a'.toAudioRoms = a.toAudioRoms
  ymRoms : a'.ymRoms = a.ymRoms
  head : a.ymWriteLogHead < 256 → a'.ymWriteLogHead < 256

variable {a a' a'' : NgNeoAudio χ}

theorem KeepsLog.refl (a : NgNeoAudio χ) : KeepsLog a a := ⟨rfl, rfl, id⟩

theorem KeepsLog.trans (h : KeepsLog a a') (h' : KeepsLog a' a'') : KeepsLog a a'' :=
  ⟨h'.roms.trans h.roms, h'.ymRoms.trans h.ymRoms, fun hh => h'.head (h.head hh)⟩

theorem KeepsLog.of_eq (hr : a'.toAudioRoms = a.toAudioRoms) (hy : a'.ym = a.ym)
    (hh : a'.ymWriteLogHead = a.ymWriteLogHead) : KeepsLog a a' :=
  ⟨hr, by rw [NgNeoAudio.ymRoms, hy]; rfl, fun h => by rw [hh]; exact h⟩

theorem KeepsLog.of_ym {f : YmBackend χ → YmBackend χ}
    (hf : ∀ ym, (f ym).toSampleRoms = ym.toSampleRoms) (a : NgNeoAudio χ) :
    KeepsLog a { a with ym := a.ym.map f } := by
  refine ⟨rfl, ?_, id⟩
  show (a.ym.map f).map _ = a.ym.map _
  rw [Option.map_map]
  congr 1
  funext ym
  exact hf ym

theorem debugWrite_keepsLog (addr : BitVec 16) (value : BitVec 8) (a : NgNeoAudio χ) :
    KeepsLog a (a.ngAudioDebugWriteZ80 addr value) := by
  unfold ngAudioDebugWriteZ80
  split
  · exact .of_eq rfl rfl rfl
  · exact .refl a

theorem recordYmWrite_keepsLog (port address data : BitVec 8) (a : NgNeoAudio χ) :
    KeepsLog a (a.ngAudioRecordYmWrite port address data) := by
  refine ⟨rfl, rfl, fun _ => ?_⟩
  show (a.ymWriteLogHead + 1) % 256 < 256
  rw [BitVec.lt_def, BitVec.toNat_umod]
  exact Nat.mod_lt _ (by decide)

theorem refreshAdpcmA_head (core : AudioCore) :
    (ngAudioRefreshLastAdpcmAEvent core).ymWriteLogHead = core.ymWriteLogHead := by
  unfold ngAudioRefreshLastAdpcmAEvent
  split <;> rfl

theorem refreshAdpcmB_head (core : AudioCore) :
    (ngAudioRefreshLastAdpcmBEvent core).ymWriteLogHead = core.ymWriteLogHead := by
  unfold ngAudioRefreshLastAdpcmBEvent
  split <;> rfl

theorem trackYmDataWrite_head (core : AudioCore) (port address data : BitVec 8) :
    (ngAudioTrackYmDataWrite core port address data).ymWriteLogHead = core.ymWriteLogHead := by
  unfold ngAudioTrackYmDataWrite
  split
  · unfold trackAdpcmA
    dsimp only
    rw [refreshAdpcmA_head]
    split <;> rfl
  · split
    · unfold trackAdpcmB
      dsimp only
      rw [refreshAdpcmB_head]
      split <;> rfl
    · rfl

theorem trackYmDataWrite_keepsLog (port address data : BitVec 8) (a : NgNeoAudio χ) :
    KeepsLog a
      { a with toAudioCore := ngAudioTrackYmDataWrite a.toAudioCore port address data } :=
  .of_eq rfl rfl (trackYmDataWrite_head a.toAudioCore port address data)

theorem ymRead_keepsLog (port : BitVec 8) (a : NgNeoAudio χ) :
    KeepsLog a (a.ngAudioYmRead chip port).2 := by
  unfold ngAudioYmRead
  dsimp only
  cases hym : a.ym with
  | none => exact .of_eq rfl hym.symm rfl
  | some ym =>
    refine ⟨rfl, ?_, id⟩
    show some (YmBackend.run _ ym).2.toSampleRoms = a.ym.map _
    rw [YmBackend.run_roms, hym]
    rfl

theorem ymWrite_keepsLog (port data : BitVec 8) (a : NgNeoAudio χ) :
    KeepsLog a (a.ngAudioYmWrite chip port data) := by
  unfold ngAudioYmWrite
  refine KeepsLog.trans ?_ (KeepsLog.of_ym (fun ym => ?_) _)
  · split
    · exact .of_eq rfl rfl rfl
    · exact (recordYmWrite_keepsLog _ _ _ a).trans (trackYmDataWrite_keepsLog _ _ _ _)
  · exact YmBackend.run_roms _ ym

theorem portRead_keepsLog (portAddr : BitVec 16) (a : NgNeoAudio χ) :
    KeepsLog a (a.ngAudioPortRead chip portAddr).2 := by
  unfold ngAudioPortRead
  dsimp only
  split
  all_goals first
    | exact .of_eq rfl rfl rfl
    | exact ymRead_keepsLog chip _ a

theorem portWrite_keepsLog (portAddr : BitVec 16) (value : BitVec 8) (a : NgNeoAudio χ) :
    KeepsLog a (a.ngAudioPortWrite chip portAddr value) := by
  unfold ngAudioPortWrite
  split <;> try exact .of_eq rfl rfl rfl
  split
  all_goals first
    | exact .of_eq rfl rfl rfl
    | exact ymWrite_keepsLog chip _ _ a

theorem setCpu_keepsLog (cpu : Z80) (a : NgNeoAudio χ) : KeepsLog a { a with cpu := cpu } :=
  .of_eq rfl rfl rfl

-- Along the callbacks of one instruction.
theorem runZ80_keepsLog (r : Z80Run) (a : NgNeoAudio χ) : KeepsLog a (a.runZ80 chip r) := by
  induction r generalizing a with
  | done cpu => exact setCpu_keepsLog cpu a
  | readByte cpu addr next ih => exact (setCpu_keepsLog cpu a).trans (ih _ _)
  | writeByte cpu addr value next ih =>
    exact (setCpu_keepsLog cpu a).trans ((debugWrite_keepsLog addr value _).trans (ih _))
  | portIn cpu addr next ih =>
    exact (setCpu_keepsLog cpu a).trans ((portRead_keepsLog chip addr _).trans (ih _ _))
  | portOut cpu addr value next ih =>
    exact (setCpu_keepsLog cpu a).trans ((portWrite_keepsLog chip addr value _).trans (ih _))

theorem raiseNmi_keepsLog (a : NgNeoAudio χ) : KeepsLog a a.raiseNmi := by
  unfold raiseNmi
  split <;> exact .of_eq rfl rfl rfl

theorem followIrq_keepsLog (a : NgNeoAudio χ) : KeepsLog a a.followIrq := by
  unfold followIrq
  split
  · split <;> exact .of_eq rfl rfl rfl
  · exact .of_eq rfl rfl rfl

theorem stepZ80_keepsLog (a : NgNeoAudio χ) : KeepsLog a (a.ngAudioStepZ80 chip z80Step) := by
  unfold ngAudioStepZ80
  dsimp only
  have hrun := ((raiseNmi_keepsLog a).trans (followIrq_keepsLog _)).trans
    (runZ80_keepsLog chip (z80Step a.raiseNmi.followIrq.cpu) _)
  split
  · exact hrun.trans (KeepsLog.of_ym (fun ym => YmBackend.advanceClocks_roms chip ym _) _)
  · exact hrun

theorem advanceTurns_keepsLog (start : BitVec 64) (cycles : BitVec 32) (turns : Nat)
    (a : NgNeoAudio χ) : KeepsLog a (a.advanceTurns chip z80Step start cycles turns) := by
  induction turns generalizing a with
  | zero => exact .refl a
  | succ turns ih =>
    unfold advanceTurns
    split
    · exact (stepZ80_keepsLog chip z80Step a).trans (ih _)
    · exact .refl a

theorem setCredit_keepsLog (credit : BitVec 32) (a : NgNeoAudio χ) :
    KeepsLog a { a with z80CycleCredit := credit } := .of_eq rfl rfl rfl

theorem advanceBeyondCredit_keepsLog (cycles : BitVec 32) (a : NgNeoAudio χ) :
    KeepsLog a (a.advanceBeyondCredit chip z80Step cycles) := by
  unfold advanceBeyondCredit
  dsimp only
  have hrun := advanceTurns_keepsLog chip z80Step a.cpu.cyc cycles (cycles * 2 + 1024).toNat a
  split
  · exact hrun.trans (setCredit_keepsLog _ _)
  · exact hrun

theorem advanceZ80Cycles_keepsLog (cycles : BitVec 32) (a : NgNeoAudio χ) :
    KeepsLog a (a.ngNeogeoAudioAdvanceZ80Cycles chip z80Step cycles) := by
  unfold ngNeogeoAudioAdvanceZ80Cycles
  split
  · exact .refl a
  · split
    · split
      · exact setCredit_keepsLog _ a
      · exact (setCredit_keepsLog 0 a).trans (advanceBeyondCredit_keepsLog _ _ _ _)
    · exact advanceBeyondCredit_keepsLog _ _ _ _

theorem step_keepsLog (op : AudioOp) (a : NgNeoAudio χ) :
    KeepsLog a (op.step chip z80Step a).2 := by
  cases op with
  | writeCommand command => exact .of_eq rfl rfl rfl
  | portRead portAddr => exact portRead_keepsLog chip portAddr a
  | portWrite portAddr value => exact portWrite_keepsLog chip portAddr value a
  | readZ80 addr => exact .refl a
  | writeZ80 addr value => exact debugWrite_keepsLog addr value a
  | advanceZ80Cycles cycles => exact advanceZ80Cycles_keepsLog chip z80Step cycles a

theorem runOps_keepsLog (ops : List AudioOp) (a : NgNeoAudio χ) :
    KeepsLog a (a.runOps chip z80Step ops).2 := by
  induction ops generalizing a with
  | nil => exact .refl a
  | cons op ops ih => exact (step_keepsLog chip z80Step op a).trans (ih _)

theorem reset_roms (a : NgNeoAudio χ) :
    (a.ngNeogeoAudioReset chip).ymRoms = a.ym.map fun _ => a.toSampleRoms := by
  show (a.ym.map _).map _ = _
  rw [Option.map_map]
  congr 1
  funext ym
  exact (ym.ngNeogeoYm2610SetRoms a.toSampleRoms).reset_roms chip

/-- The ROMs that an audio object is given are those that it and its YM2610 read from then on,
whatever sound the program makes. -/
theorem runOps_roms (roms : AudioRoms) (ops : List AudioOp) (audio : NgNeoAudio χ) :
    let played :=
      (((audio.ngNeogeoAudioSetRoms roms).ngNeogeoAudioReset chip).runOps chip z80Step ops).2
    played.toAudioRoms = roms ∧ played.ymRoms = audio.ym.map fun _ => roms.toSampleRoms := by
  intro played
  have hkeeps := runOps_keepsLog chip z80Step ops
    ((audio.ngNeogeoAudioSetRoms roms).ngNeogeoAudioReset chip)
  refine ⟨hkeeps.roms, hkeeps.ymRoms.trans ?_⟩
  rw [reset_roms]
  exact Option.map_map _ _ _

theorem reset_head (a : NgNeoAudio χ) : (a.ngNeogeoAudioReset chip).ymWriteLogHead < 256 := by
  show (0 : BitVec 32) < 256
  decide

end NgNeoAudio

/-! ## The YM2610 part -/

/-- What the save state of the chip has to give: a restored chip is the saved one, and its state
is short. -/
structure Ym2610Chip.RoundTrips (chip : Ym2610Chip χ) : Prop where
  restore_save : ∀ now saved, chip.restoreState now (chip.saveState saved) = saved
  short : ∀ c, (chip.saveState c).length < 0x10000

namespace YmBackend

variable {chip : Ym2610Chip χ}

theorem prefix_size : Ym2610StatePrefix.layout.size = 64 := by decide +kernel

theorem length_stateVector (b : YmBackend χ) :
    (b.saveYm2610StateVector chip).length = 64 + (chip.saveState b.chip).length := by
  unfold saveYm2610StateVector
  rw [List.length_append, Ym2610StatePrefix.layout.length_store, prefix_size]

theorem fetch_stateVector (b : YmBackend χ) :
    Ym2610StatePrefix.layout.fetch (b.saveYm2610StateVector chip) = b.statePrefix chip :=
  Ym2610StatePrefix.layout.fetch_store _ _

/-- The size of a short state as the wrapper announces it. -/
theorem toNat_stateSize (hchip : chip.RoundTrips) (b : YmBackend χ) :
    (BitVec.ofNat 32 (b.saveYm2610StateVector chip).length).toNat =
      64 + (chip.saveState b.chip).length := by
  have hshort := hchip.short b.chip
  rw [length_stateVector, BitVec.toNat_ofNat]
  omega

theorem stateSize_ne_zero (hchip : chip.RoundTrips) (b : YmBackend χ) :
    BitVec.ofNat 32 (b.saveYm2610StateVector chip).length ≠ 0 := by
  intro hzero
  have hnat : _ = 0 := congrArg BitVec.toNat hzero
  rw [toNat_stateSize hchip] at hnat
  omega

theorem stateVector_ne_nil (b : YmBackend χ) : b.saveYm2610StateVector chip ≠ [] := by
  intro hnil
  have hlen := @length_stateVector _ chip b
  rw [hnil, List.length_nil] at hlen
  omega

/-- The wrapper saves into any buffer that is large enough. -/
theorem saveState_eq {b : YmBackend χ} {room : BitVec 32}
    (h : (b.saveYm2610StateVector chip).length ≤ room.toNat) :
    b.ngNeogeoYm2610SaveState chip room = some (b.saveYm2610StateVector chip) := by
  unfold ngNeogeoYm2610SaveState
  apply if_neg
  rintro (hnil | hroom)
  · exact stateVector_ne_nil b hnil
  · exact Nat.not_lt.mpr h hroom

theorem accepts_stateVector (hchip : chip.RoundTrips) (b : YmBackend χ) :
    accepts (b.saveYm2610StateVector chip)
      (BitVec.ofNat 32 (b.saveYm2610StateVector chip).length) = true := by
  have hshort := hchip.short b.chip
  unfold accepts
  dsimp only
  rw [fetch_stateVector, toNat_stateSize hchip, prefix_size]
  simp only [statePrefix, length_stateVector, prefix_size, BitVec.toNat_ofNat, Bool.and_eq_true,
    decide_eq_true_eq, and_true]
  omega

/-- Restoring puts everything back but the ROMs. -/
theorem restore_stateVector (hchip : chip.RoundTrips) (b now : YmBackend χ) :
    now.restore chip (b.saveYm2610StateVector chip) =
      { b with toSampleRoms := now.toSampleRoms } := by
  have hshort := hchip.short b.chip
  have hsize : (b.statePrefix chip).ymfmSize.toNat = (chip.saveState b.chip).length := by
    show (BitVec.ofNat 32 (chip.saveState b.chip).length).toNat = _
    rw [BitVec.toNat_ofNat]
    omega
  have hdata : ((b.saveYm2610StateVector chip).drop Ym2610StatePrefix.layout.size).take
      (b.statePrefix chip).ymfmSize.toNat = chip.saveState b.chip := by
    unfold saveYm2610StateVector
    rw [List.drop_left' (Ym2610StatePrefix.layout.length_store _), hsize, List.take_length]
  unfold restore
  dsimp only
  rw [fetch_stateVector, hdata, hchip.restore_save]
  have hirq : decide ((b.statePrefix chip).irqPending ≠ 0) = b.irqPending := by
    show decide ((if b.irqPending then (1 : BitVec 8) else 0) ≠ 0) = b.irqPending
    cases b.irqPending <;> decide
  rw [hirq]
  rfl

end YmBackend

/-! ## The prefix -/

theorem flagByte_ne_zero (flag : Bool) : decide (flagByte flag ≠ 0) = flag := by
  cases flag <;> decide

theorem restore_capture (cpu : Z80) : ngAudioRestoreZ80State (ngAudioCaptureZ80State cpu) = cpu := by
  unfold ngAudioRestoreZ80State ngAudioCaptureZ80State
  simp only [flagByte_ne_zero]

theorem toCore_ofCore (core : AudioCore) (size ymStateSize : BitVec 32) :
    (NgNeoAudioStatePrefix.ofCore core size ymStateSize).toCore = core := by
  unfold NgNeoAudioStatePrefix.toCore NgNeoAudioStatePrefix.ofCore
  dsimp only
  rw [restore_capture]

namespace NgNeoAudio

variable {chip : Ym2610Chip χ}

theorem audioPrefix_size : NgNeoAudioStatePrefix.layout.size = 6376 := by decide +kernel

theorem sizeof_eq : NgNeoAudioStatePrefix.sizeof = 6376 := by decide +kernel

theorem acceptsPrefix_ofCore {core : AudioCore} (h : core.ymWriteLogHead < 256)
    (ymStateSize : BitVec 32) :
    acceptsPrefix (.ofCore core (NgNeoAudioStatePrefix.sizeof + ymStateSize) ymStateSize)
      (NgNeoAudioStatePrefix.sizeof + ymStateSize) = true := by
  unfold acceptsPrefix
  rw [if_neg, if_neg]
  · exact BitVec.not_le.mpr h
  · rintro (hne | hne | hne | hne)
    · exact hne rfl
    · exact hne rfl
    · exact hne rfl
    · apply hne
      show ymStateSize = _
      rw [BitVec.add_comm, BitVec.add_sub_cancel]

/-! ## Saving -/

/-- The YM2610 part of a blob. -/
def ymBytes (chip : Ym2610Chip χ) (audio : NgNeoAudio χ) : List (BitVec 8) :=
  audio.ym.elim [] fun ym => ym.saveYm2610StateVector chip

/-- A whole blob. -/
def stateBytes (chip : Ym2610Chip χ) (audio : NgNeoAudio χ) : List (BitVec 8) :=
  let ymSize := audio.ymStateSize chip
  NgNeoAudioStatePrefix.layout.store
      (.ofCore audio.toAudioCore (NgNeoAudioStatePrefix.sizeof + ymSize) ymSize) ++
    audio.ymBytes chip

theorem toNat_ymStateSize (hchip : chip.RoundTrips) (audio : NgNeoAudio χ) :
    (audio.ymStateSize chip).toNat = (audio.ymBytes chip).length ∧
      (audio.ymBytes chip).length < 0x20000 := by
  unfold ymStateSize ymBytes
  cases audio.ym with
  | none =>
    refine ⟨rfl, ?_⟩
    show 0 < 0x20000
    decide
  | some ym =>
    have hshort := hchip.short ym.chip
    show (BitVec.ofNat 32 (ym.saveYm2610StateVector chip).length).toNat =
        (ym.saveYm2610StateVector chip).length ∧ (ym.saveYm2610StateVector chip).length < 0x20000
    rw [YmBackend.toNat_stateSize hchip, YmBackend.length_stateVector]
    omega

theorem stateSize_eq (hchip : chip.RoundTrips) (audio : NgNeoAudio χ) :
    audio.ngNeogeoAudioStateSize chip = NgNeoAudioStatePrefix.sizeof + audio.ymStateSize chip ∧
      (NgNeoAudioStatePrefix.sizeof + audio.ymStateSize chip).toNat =
        6376 + (audio.ymBytes chip).length := by
  obtain ⟨hsize, hlt⟩ := toNat_ymStateSize hchip audio
  constructor
  · unfold ngNeogeoAudioStateSize
    dsimp only
    rw [if_neg]
    rw [sizeof_eq, BitVec.lt_def, hsize]
    show ¬ 4294960919 < _
    omega
  · rw [BitVec.toNat_add, hsize, sizeof_eq]
    show (6376 + _) % 4294967296 = _
    omega

theorem saveYm_eq (hchip : chip.RoundTrips) (audio : NgNeoAudio χ) {room : BitVec 32}
    (h : (audio.ymBytes chip).length ≤ room.toNat) :
    audio.saveYm chip (audio.ymStateSize chip) room = some (audio.ymBytes chip) := by
  unfold saveYm
  unfold ymBytes at h ⊢
  cases hym : audio.ym with
  | none =>
    have hzero : audio.ymStateSize chip = 0 := by
      unfold ymStateSize
      rw [hym]
    rw [if_pos hzero]
    rfl
  | some ym =>
    rw [hym] at h
    have hsize : audio.ymStateSize chip =
        BitVec.ofNat 32 (ym.saveYm2610StateVector chip).length := by
      unfold ymStateSize
      rw [hym]
    rw [hsize, if_neg (YmBackend.stateSize_ne_zero hchip ym)]
    dsimp only
    rw [YmBackend.saveState_eq h, Option.bind_some, if_pos rfl]
    rfl

/-- Saving fails only for want of room. -/
theorem save_eq (hchip : chip.RoundTrips) (audio : NgNeoAudio χ) (outSize : BitVec 32) :
    audio.ngNeogeoAudioSaveState chip outSize =
      if outSize < audio.ngNeogeoAudioStateSize chip then none
      else some (audio.stateBytes chip) := by
  obtain ⟨htotal, hnat⟩ := stateSize_eq hchip audio
  unfold ngNeogeoAudioSaveState
  dsimp only
  rw [htotal]
  have hle : NgNeoAudioStatePrefix.sizeof ≤
      NgNeoAudioStatePrefix.sizeof + audio.ymStateSize chip := by
    rw [BitVec.le_def, hnat, sizeof_eq]
    show 6376 ≤ _
    omega
  have hpos : NgNeoAudioStatePrefix.sizeof + audio.ymStateSize chip ≠ 0 := by
    intro hzero
    have hnat0 := congrArg BitVec.toNat hzero
    rw [hnat] at hnat0
    simp at hnat0
  rw [if_pos hle, BitVec.add_comm, BitVec.add_sub_cancel, BitVec.add_comm]
  by_cases hout : outSize < NgNeoAudioStatePrefix.sizeof + audio.ymStateSize chip
  · rw [if_pos (.inr hout), if_pos hout]
  · rw [if_neg (by rintro (h0 | h1); exacts [hpos h0, hout h1]), if_neg hout]
    have hroom : (audio.ymBytes chip).length ≤ (outSize - NgNeoAudioStatePrefix.sizeof).toNat := by
      have hge := BitVec.not_lt.mp hout
      rw [BitVec.toNat_sub_of_le (BitVec.le_trans hle hge), sizeof_eq]
      rw [BitVec.le_def, hnat] at hge
      show _ ≤ outSize.toNat - 6376
      omega
    rw [saveYm_eq hchip audio hroom]
    rfl

/-! ## Loading -/

theorem loadYm_ymBytes (hchip : chip.RoundTrips) {saved now : NgNeoAudio χ}
    (hroms : now.ymRoms = saved.ymRoms) :
    now.loadYm chip (saved.ymBytes chip) (saved.ymStateSize chip) =
      (true, { now with ym := saved.ym }) := by
  unfold loadYm ymBytes ymStateSize
  unfold ymRoms at hroms
  cases hs : saved.ym with
  | none =>
    rw [hs] at hroms
    have hn : now.ym = none := by simpa using hroms
    dsimp only
    rw [if_pos rfl, ← hn]
  | some ym =>
    rw [hs] at hroms
    obtain ⟨ymNow, hn, hrom⟩ : ∃ ymNow, now.ym = some ymNow ∧
        ymNow.toSampleRoms = ym.toSampleRoms := by simpa using hroms
    rw [hn]
    dsimp only [Option.elim]
    rw [if_neg (YmBackend.stateSize_ne_zero hchip ym)]
    unfold YmBackend.ngNeogeoYm2610LoadState
    rw [if_pos (YmBackend.accepts_stateVector hchip ym),
      YmBackend.restore_stateVector hchip ym ymNow, hrom]

/-- A prefix that passes the tests is taken over before the rest is looked at. -/
theorem load_store_state (chip : Ym2610Chip χ) (audio : NgNeoAudio χ)
    {state : NgNeoAudioStatePrefix} {size : BitVec 32}
    (hsize : NgNeoAudioStatePrefix.sizeof ≤ size) (hacc : acceptsPrefix state size = true)
    (rest : List (BitVec 8)) :
    audio.ngNeogeoAudioLoadState chip (some (NgNeoAudioStatePrefix.layout.store state ++ rest))
        size =
      loadYm chip { audio with toAudioCore := state.toCore } rest state.ymStateSize := by
  unfold ngNeogeoAudioLoadState
  dsimp only
  rw [if_neg (BitVec.not_lt.mpr hsize), NgNeoAudioStatePrefix.layout.fetch_store, if_pos hacc,
    List.drop_left' (NgNeoAudioStatePrefix.layout.length_store state)]

/-- A blob gives back the object it was saved from, in any object with the same ROMs. -/
theorem load_stateBytes (hchip : chip.RoundTrips) {saved now : NgNeoAudio χ}
    (hhead : saved.ymWriteLogHead < 256) (hroms : now.toAudioRoms = saved.toAudioRoms)
    (hym : now.ymRoms = saved.ymRoms) :
    now.ngNeogeoAudioLoadState chip (some (saved.stateBytes chip))
      (saved.ngNeogeoAudioStateSize chip) = (true, saved) := by
  obtain ⟨htotal, hnat⟩ := stateSize_eq hchip saved
  have hsize : NgNeoAudioStatePrefix.sizeof ≤
      NgNeoAudioStatePrefix.sizeof + saved.ymStateSize chip := by
    rw [BitVec.le_def, hnat, sizeof_eq]
    show 6376 ≤ _
    omega
  rw [htotal]
  unfold stateBytes
  dsimp only
  rw [load_store_state chip now hsize (acceptsPrefix_ofCore hhead _), toCore_ofCore]
  have hload := @loadYm_ymBytes χ chip hchip saved
    { now with toAudioCore := saved.toAudioCore } hym
  refine hload.trans ?_
  rw [hroms]

end NgNeoAudio

open NgNeoAudio

/-- Where the YM2610's own state survives saving, an audio object reached from reset is saved in
full: whatever is done to it afterwards, loading the blob gives it back. -/
theorem audio_state_round_trip (chip : Ym2610Chip χ) (hchip : chip.RoundTrips)
    (z80Step : Z80 → Z80Run) (audio : NgNeoAudio χ) (ops : List AudioOp) :
    let saved := ((audio.ngNeogeoAudioReset chip).runOps chip z80Step ops).2
    ∃ blob, (∀ outSize, saved.ngNeogeoAudioSaveState chip outSize =
        if outSize < saved.ngNeogeoAudioStateSize chip then none else some blob) ∧
      blob.length = (saved.ngNeogeoAudioStateSize chip).toNat ∧
      ∀ further later : List AudioOp,
        let loaded := (saved.runOps chip z80Step further).2.ngNeogeoAudioLoadState chip (some blob)
          (saved.ngNeogeoAudioStateSize chip)
        loaded = (true, saved) ∧
          loaded.2.runOps chip z80Step later = saved.runOps chip z80Step later := by
  intro saved
  have hhead : saved.ymWriteLogHead < 256 :=
    (runOps_keepsLog chip z80Step ops _).head (reset_head chip audio)
  refine ⟨saved.stateBytes chip, save_eq hchip saved, ?_, ?_⟩
  · obtain ⟨htotal, hnat⟩ := stateSize_eq hchip saved
    rw [htotal, hnat]
    unfold stateBytes
    rw [List.length_append, NgNeoAudioStatePrefix.layout.length_store, audioPrefix_size]
  · intro further later loaded
    have hkeep := runOps_keepsLog chip z80Step further saved
    have hloaded : loaded = (true, saved) :=
      load_stateBytes hchip hhead hkeep.roms hkeep.ymRoms
    exact ⟨hloaded, by rw [hloaded]⟩

/-- A chip that keeps the address it was given and makes no sound. -/
def latchChip : Ym2610Chip (BitVec 8) where
  read address _ := .done address 0
  write address port data := .done (if port &&& 1 = 0 then data else address) ()
  engineTimerExpired address _ := .done address ()
  reset _ := .done 0 ()
  setFidelity address := address
  sampleRate _ clock := clock / 144
  saveState address := [address]
  restoreState _ data := data.headD 0

theorem latchChip_roundTrips : latchChip.RoundTrips where
  restore_save _ _ := rfl
  short _ := by show 1 < 0x10000; decide

def latchYm : YmBackend (BitVec 8) where
  chip := 0
  busyCycles := 0
  timerCycles := fun _ => 0
  irqPending := false
  nativeRate := 0
  nativePhase := 0
  lastOutput := fun _ => 0

/-- An object without ROMs after its reset. -/
def latchAudio : NgNeoAudio (BitVec 8) :=
  ngNeogeoAudioReset latchChip
    { cpu := .z80Init, ram := fun _ => 0, bankA := 0, bankB := 0, bankC := 0, bankD := 0,
      commandLatch := 0, replyLatch := 0, nmiEnabled := 0, nmiPending := 0, z80CycleCredit := 0,
      commandAckCount := 0, commandReadCount := 0, commandClearCount := 0, nmiServiceCount := 0,
      ymAddress := fun _ => 0, ymWriteCount := 0, ymReadCount := 0,
      ymWriteLog := fun _ => ⟨0, 0, 0, 0, 0, 0⟩, ymWriteLogHead := 0, adpcmARegs := fun _ => 0,
      adpcmBRegs := fun _ => 0, lastAdpcmA := ⟨0, 0, 0, 0, 0, 0, 0, 0, 0⟩,
      lastAdpcmB := ⟨0, 0, 0, 0, 0, 0, 0, 0, 0, 0, 0⟩, ym := some latchYm }

theorem audio_state_round_trip_latch :
    latchChip.RoundTrips ∧
      ∃ blob : List (BitVec 8),
        let saved := ((latchAudio.ngNeogeoAudioReset latchChip).runOps latchChip .done
          [.writeCommand 3, .portWrite 0x0004 0x12]).2
        let loaded := (saved.runOps latchChip .done [.portRead 0]).2.ngNeogeoAudioLoadState
          latchChip (some blob) (saved.ngNeogeoAudioStateSize latchChip)
        loaded = (true, saved) ∧
          loaded.2.runOps latchChip .done [.portRead 0] =
            saved.runOps latchChip .done [.portRead 0] := by
  obtain ⟨blob, _, _, h⟩ := audio_state_round_trip latchChip latchChip_roundTrips .done latchAudio
    [.writeCommand 3, .portWrite 0x0004 0x12]
  exact ⟨latchChip_roundTrips, blob, h [.portRead 0] [.portRead 0]⟩

/-! ## Refused blobs -/

/-- The YM2610 part of a blob is there and will be refused. -/
def NgNeoAudio.refusesYm (audio : NgNeoAudio χ) (data : List (BitVec 8)) (size : BitVec 32) :
    Bool :=
  size ≠ 0 && (audio.ym.isNone || !YmBackend.accepts data size)

theorem loadYm_eq (chip : Ym2610Chip χ) (audio : NgNeoAudio χ) (data : List (BitVec 8))
    (size : BitVec 32) :
    (audio.loadYm chip data size).1 = !audio.refusesYm data size ∧
      (audio.refusesYm data size = true → (audio.loadYm chip data size).2 = audio) := by
  unfold loadYm refusesYm
  by_cases hzero : size = 0
  · simp [hzero]
  · rw [if_neg hzero]
    cases hym : audio.ym with
    | none =>
      refine ⟨?_, fun _ => rfl⟩
      simp only [Option.isNone_none, Bool.true_or, Bool.and_true]
      rw [decide_eq_true hzero]
      rfl
    | some ym =>
      dsimp only
      unfold YmBackend.ngNeogeoYm2610LoadState
      by_cases hacc : YmBackend.accepts data size = true
      · simp [hacc]
      · rw [if_neg hacc]
        refine ⟨?_, fun _ => by rw [← hym]⟩
        rw [decide_eq_true hzero, Bool.eq_false_of_not_eq_true hacc]
        rfl

/-- A load that returns 0 leaves the object as it was exactly when it does not get as far as a
YM2610 part that is refused, or the prefix holds what the object held already. -/
theorem audio_load_atomic_iff (chip : Ym2610Chip χ) (audio : NgNeoAudio χ)
    (data : Option (List (BitVec 8))) (size : BitVec 32) :
    ((audio.ngNeogeoAudioLoadState chip data size).1 = false →
        (audio.ngNeogeoAudioLoadState chip data size).2 = audio) ↔
      ∀ bytes, data = some bytes → NgNeoAudioStatePrefix.sizeof ≤ size →
        acceptsPrefix (NgNeoAudioStatePrefix.layout.fetch bytes) size = true →
        audio.refusesYm (bytes.drop NgNeoAudioStatePrefix.layout.size)
          (NgNeoAudioStatePrefix.layout.fetch bytes).ymStateSize = true →
        (NgNeoAudioStatePrefix.layout.fetch bytes).toCore = audio.toAudioCore := by
  unfold ngNeogeoAudioLoadState
  cases data with
  | none => simp
  | some bytes =>
    dsimp only
    by_cases hsize : size < NgNeoAudioStatePrefix.sizeof
    · rw [if_pos hsize]
      constructor
      · rintro _ _ _ hle
        exact absurd hle (BitVec.not_le.mpr hsize)
      · intro _ _
        rfl
    · have hle : NgNeoAudioStatePrefix.sizeof ≤ size := BitVec.not_lt.mp hsize
      rw [if_neg hsize]
      generalize hstate : NgNeoAudioStatePrefix.layout.fetch bytes = state
      by_cases hacc : acceptsPrefix state size = true
      · rw [if_pos hacc]
        obtain ⟨hret, hkeep⟩ := loadYm_eq chip { audio with toAudioCore := state.toCore }
          (bytes.drop NgNeoAudioStatePrefix.layout.size) state.ymStateSize
        -- What is refused does not depend on the prefix.
        have hret : _ = !audio.refusesYm _ state.ymStateSize := hret
        constructor
        · rintro h _ ⟨⟩ _ _ hrefuse
          rw [hstate] at hrefuse ⊢
          have hsame := h (hret.trans (by rw [hrefuse]; rfl))
          rw [hkeep hrefuse] at hsame
          exact congrArg NgNeoAudio.toAudioCore hsame
        · intro h hzero
          have hrefuse : audio.refusesYm (bytes.drop NgNeoAudioStatePrefix.layout.size)
              state.ymStateSize = true := by
            rw [hret] at hzero
            simpa using hzero
          rw [hkeep hrefuse]
          have hcore := h bytes rfl hle (by rw [hstate]; exact hacc) (by rw [hstate]; exact hrefuse)
          rw [hstate] at hcore
          rw [hcore]
      · rw [if_neg hacc]
        constructor
        · rintro _ _ ⟨⟩ _ hacc'
          rw [hstate] at hacc'
          exact absurd hacc' hacc
        · intro _ _
          rfl

/-- The prefix of an object with another bank, which announces one byte for the YM2610. -/
def oneBytePrefix : NgNeoAudioStatePrefix :=
  .ofCore { latchAudio.toAudioCore with bankA := 0 } (NgNeoAudioStatePrefix.sizeof + 1) 1

theorem refused_ym_part_changes_bank :
    ¬ ∀ (audio : NgNeoAudio (BitVec 8)) (data : Option (List (BitVec 8))) (size : BitVec 32),
      (audio.ngNeogeoAudioLoadState latchChip data size).1 = false →
        (audio.ngNeogeoAudioLoadState latchChip data size).2 = audio := by
  intro h
  have hload := load_store_state latchChip latchAudio
    (show NgNeoAudioStatePrefix.sizeof ≤ NgNeoAudioStatePrefix.sizeof + 1 by decide +kernel)
    (show acceptsPrefix oneBytePrefix _ = true by decide +kernel) [0]
  have hrefuse : latchAudio.refusesYm [0] 1 = true := by decide +kernel
  obtain ⟨hret, hkeep⟩ := loadYm_eq latchChip
    { latchAudio with toAudioCore := oneBytePrefix.toCore } [0] 1
  have hsame := h latchAudio (some (NgNeoAudioStatePrefix.layout.store oneBytePrefix ++ [0]))
    (NgNeoAudioStatePrefix.sizeof + 1)
  rw [hload] at hsame
  have hbank := congrArg (fun audio => audio.bankA)
    ((hkeep hrefuse).symm.trans (hsame (hret.trans (congrArg not hrefuse))))
  have htwo : (0 : BitVec 8) = 2 := hbank
  exact absurd htwo (by decide)

end NeoRecomp
