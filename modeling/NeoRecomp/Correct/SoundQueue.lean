import NeoRecomp.Lib.Ring
import NeoRecomp.Runtime.Devices

/-!
# The sound command queue is a bounded log

The queue of 512 events refines the log that keeps every event ever written: whatever the
operations, pops deliver the oldest event that was neither delivered nor dropped.
-/

namespace NeoRecomp

open NeogeoRuntime

/-! ## What the queue is asked -/

inductive SoundAction
  | write (event : NgNeoSoundCommandEvent)
  | pop (out : Bool)
  | reset

/-- The bytes an operation puts on the bus and their addresses, in order. -/
def RuntimeOp.busBytes : RuntimeOp → List (BitVec 32 × BitVec 8)
  | .write8 addr value => [(addr, value)]
  | .write16 addr value => [(addr, (value >>> 8).setWidth 8), (addr + 1, value.setWidth 8)]
  | .write32 addr value =>
    [(addr, (value >>> 24).setWidth 8), (addr + 1, (value >>> 16).setWidth 8),
      (addr + 2, (value >>> 8).setWidth 8), (addr + 3, value.setWidth 8)]
  | _ => []

def isSoundByte (b : BitVec 32 × BitVec 8) : Bool := ngNeogeoIsSoundAddr (b.1 &&& 0x00FFFFFF)

/-- The events of the bytes that go to the sound register, with the time and the place. -/
def soundWrites (rt : NeogeoRuntime) (bytes : List (BitVec 32 × BitVec 8)) : List SoundAction :=
  (bytes.filter isSoundByte).map fun b => .write ⟨rt.cpuCycles, rt.pc24, b.2⟩

/-- What an operation asks of the queue. -/
def RuntimeOp.soundActions (rt : NeogeoRuntime) : RuntimeOp → List SoundAction
  | .popSoundCommandEvent out => [.pop out]
  | .resetRuntime => [.reset]
  | op => soundWrites rt op.busBytes

/-- What a run asks of the queue. -/
def NeogeoRuntime.soundActions (rt : NeogeoRuntime) : List RuntimeOp → List SoundAction
  | [] => []
  | op :: ops => op.soundActions rt ++ (op.step rt).2.soundActions ops

/-- The answers of a log of 512 places, one to each pop. -/
def runLog (l : EventLog NgNeoSoundCommandEvent) :
    List SoundAction → List RuntimeResult × EventLog NgNeoSoundCommandEvent
  | [] => ([], l)
  | .write event :: actions => runLog (l.write 512 event) actions
  | .pop out :: actions =>
    let rest := runLog l.pop.2 actions
    (.event (l.pop.1.map (if out then some else fun _ => none)) :: rest.1, rest.2)
  | .reset :: actions => runLog .empty actions

theorem runLog_append (l : EventLog NgNeoSoundCommandEvent) (as bs : List SoundAction) :
    runLog l (as ++ bs) =
      ((runLog l as).1 ++ (runLog (runLog l as).2 bs).1, (runLog (runLog l as).2 bs).2) := by
  induction as generalizing l with
  | nil => rfl
  | cons a as ih =>
    cases a with
    | write event => exact ih _
    | pop out => simp only [List.cons_append, runLog, ih]
    | reset => exact ih _

def RuntimeResult.isEvent : RuntimeResult → Bool
  | .event _ => true
  | _ => false

/-! ## The ring -/

namespace SoundCommandQueue

/-- The events in the queue, oldest first. -/
def queued (q : SoundCommandQueue) : List NgNeoSoundCommandEvent :=
  ringItems 512 (fun i => q.soundCommandQueue (BitVec.ofNat 9 i)) q.soundCommandQueueTail.toNat
    q.soundCommandQueueCount.toNat

/-- The three counters of the queue agree. -/
structure WellFormed (q : SoundCommandQueue) : Prop where
  tail_lt : q.soundCommandQueueTail.toNat < 512
  count_le : q.soundCommandQueueCount.toNat ≤ 512
  head_eq : q.soundCommandQueueHead.toNat =
    (q.soundCommandQueueTail.toNat + q.soundCommandQueueCount.toNat) % 512

/-- The next index of the ring. -/
theorem toNat_next_index (i : BitVec 32) : ((i + 1) % 512).toNat = (i.toNat + 1) % 512 := by
  rw [BitVec.toNat_umod, BitVec.toNat_add]
  show (i.toNat + 1) % 4294967296 % 512 = (i.toNat + 1) % 512
  omega

variable {q : SoundCommandQueue}

theorem WellFormed.head_lt (h : q.WellFormed) : q.soundCommandQueueHead.toNat < 512 := by
  rw [h.head_eq]
  exact Nat.mod_lt _ (by decide)

theorem queued_length (q : SoundCommandQueue) : q.queued.length = q.soundCommandQueueCount.toNat :=
  ringItems_length ..

/-- Moving the tail takes the oldest event out. -/
theorem WellFormed.advanceTail (h : q.WellFormed) (hc : 0 < q.soundCommandQueueCount.toNat) :
    (advanceTail q).WellFormed ∧
      q.queued = q.soundCommandQueue (q.soundCommandQueueTail.setWidth 9) :: (advanceTail q).queued := by
  have hcount : (q.soundCommandQueueCount - 1).toNat = q.soundCommandQueueCount.toNat - 1 :=
    BitVec.toNat_sub_of_le hc
  have htail := toNat_next_index q.soundCommandQueueTail
  refine ⟨⟨?_, ?_, ?_⟩, ?_⟩
  · show ((q.soundCommandQueueTail + 1) % 512).toNat < 512
    rw [htail]
    exact Nat.mod_lt _ (by decide)
  · show (q.soundCommandQueueCount - 1).toNat ≤ 512
    have := h.count_le
    omega
  · show q.soundCommandQueueHead.toNat =
      (((q.soundCommandQueueTail + 1) % 512).toNat + (q.soundCommandQueueCount - 1).toNat) % 512
    have := h.head_eq
    rw [htail, hcount, this]
    omega
  · unfold queued NeogeoRuntime.advanceTail
    dsimp only
    obtain ⟨n, hn⟩ : ∃ n, q.soundCommandQueueCount.toNat = n + 1 :=
      ⟨_, (Nat.succ_pred_eq_of_pos hc).symm⟩
    rw [htail, hcount, hn, ringItems_succ, Nat.mod_eq_of_lt h.tail_lt, BitVec.ofNat_toNat]
    rfl

/-- An event put at the head of a queue that is not full is its newest one. -/
theorem WellFormed.enqueue (h : q.WellFormed) (hc : q.soundCommandQueueCount.toNat < 512)
    (event : NgNeoSoundCommandEvent) :
    (enqueue q event).WellFormed ∧ (enqueue q event).queued = q.queued ++ [event] := by
  have hcount : (q.soundCommandQueueCount + 1).toNat = q.soundCommandQueueCount.toNat + 1 := by
    rw [BitVec.toNat_add]
    exact Nat.mod_eq_of_lt (by show _ + 1 < 2 ^ 32; omega)
  refine ⟨⟨h.tail_lt, ?_, ?_⟩, ?_⟩
  · show (q.soundCommandQueueCount + 1).toNat ≤ 512
    omega
  · show ((q.soundCommandQueueHead + 1) % 512).toNat =
      (q.soundCommandQueueTail.toNat + (q.soundCommandQueueCount + 1).toNat) % 512
    rw [toNat_next_index, hcount, h.head_eq]
    omega
  · unfold queued NeogeoRuntime.enqueue
    dsimp only
    rw [hcount, ← ringItems_push hc]
    apply ringItems_congr (by decide)
    intro i hi
    rw [← h.head_eq]
    -- The cell that is written is the one with the index of the head.
    by_cases he : i = q.soundCommandQueueHead.toNat
    · subst he
      rw [BitVec.ofNat_toNat, Function.update_self, Function.update_self]
    · rw [Function.update_of_ne he, Function.update_of_ne]
      intro hb
      have := congrArg BitVec.toNat hb
      rw [BitVec.toNat_ofNat, BitVec.toNat_setWidth] at this
      have := h.head_lt
      omega

/-! ## Refinement -/

/-- The queue holds what the log has not delivered or dropped. -/
structure Refines (q : SoundCommandQueue) (l : EventLog NgNeoSoundCommandEvent) : Prop where
  wellFormed : q.WellFormed
  queued_eq : q.queued = l.undelivered
  overflows : q.soundCommandQueueOverflows.toNat = l.dropped % 2 ^ 32

variable {l : EventLog NgNeoSoundCommandEvent}

theorem Refines.count (h : q.Refines l) :
    q.soundCommandQueueCount.toNat = l.undelivered.length := by
  rw [← h.queued_eq, queued_length]

/-- A write to the sound register is a write to the log. -/
theorem Refines.queue (h : q.Refines l) (cycles : BitVec 64) (pc : BitVec 32) (command : BitVec 8) :
    (ngNeogeoQueueSoundCommand q cycles pc command).Refines
      (l.write 512 ⟨cycles, pc &&& 0x00FFFFFF, command⟩) := by
  unfold ngNeogeoQueueSoundCommand dropOldest
  have hcount := h.count
  by_cases hfull : 512 ≤ q.soundCommandQueueCount
  · rw [if_pos hfull]
    have hlen : l.undelivered.length = 512 := by
      have : 512 ≤ q.soundCommandQueueCount.toNat := hfull
      have := h.wellFormed.count_le
      omega
    obtain ⟨hwf, hq⟩ := h.wellFormed.advanceTail (by omega)
    have hroom : (NeogeoRuntime.advanceTail q).soundCommandQueueCount.toNat < 512 := by
      have := congrArg List.length hq
      rw [List.length_cons, queued_length, queued_length] at this
      omega
    have htail : (NeogeoRuntime.advanceTail q).queued = l.undelivered.tail := by
      rw [← h.queued_eq, hq]
      rfl
    have hdrop : WellFormed { NeogeoRuntime.advanceTail q with
        soundCommandQueueOverflows := q.soundCommandQueueOverflows + 1 } :=
      ⟨hwf.tail_lt, hwf.count_le, hwf.head_eq⟩
    obtain ⟨hwf', hq'⟩ := hdrop.enqueue hroom ⟨cycles, pc &&& 0x00FFFFFF, command⟩
    refine ⟨hwf', ?_, ?_⟩
    · rw [hq', EventLog.write_undelivered_of_full (by decide) hlen, ← htail]
      rfl
    · show (q.soundCommandQueueOverflows + 1).toNat = (l.dropped + l.overrun 512) % 2 ^ 32
      rw [BitVec.toNat_add, h.overflows, EventLog.overrun_of_full hlen]
      exact Nat.mod_add_mod _ _ _
  · rw [if_neg hfull]
    have hlt : q.soundCommandQueueCount.toNat < 512 := by
      have : ¬ 512 ≤ q.soundCommandQueueCount.toNat := hfull
      omega
    obtain ⟨hwf, hq⟩ := h.wellFormed.enqueue hlt ⟨cycles, pc &&& 0x00FFFFFF, command⟩
    refine ⟨hwf, ?_, ?_⟩
    · rw [hq, EventLog.write_undelivered_of_lt (by omega), h.queued_eq]
    · show q.soundCommandQueueOverflows.toNat = (l.dropped + l.overrun 512) % 2 ^ 32
      rw [EventLog.overrun_of_lt (by omega)]
      exact h.overflows

/-- A pop delivers what the log delivers. -/
theorem Refines.pop (h : q.Refines l) :
    (ngNeogeoPopSoundCommandEvent q).1 = l.pop.1 ∧
      (ngNeogeoPopSoundCommandEvent q).2.Refines l.pop.2 := by
  obtain ⟨hpop, hrest⟩ := l.pop_eq
  unfold ngNeogeoPopSoundCommandEvent
  by_cases h0 : q.soundCommandQueueCount = 0
  · have hnil : l.undelivered = [] := by
      apply List.eq_nil_of_length_eq_zero
      rw [← h.count, h0]
      rfl
    rw [if_pos h0, hpop, hnil]
    refine ⟨rfl, h.wellFormed, ?_, ?_⟩
    · rw [hrest, h.queued_eq, hnil]
      rfl
    · rw [l.pop_dropped]
      exact h.overflows
  · have hpos : 0 < q.soundCommandQueueCount.toNat :=
      Nat.pos_of_ne_zero fun hz => h0 (BitVec.eq_of_toNat_eq hz)
    obtain ⟨hwf, hq⟩ := h.wellFormed.advanceTail hpos
    rw [if_neg h0, hpop, ← h.queued_eq, hq]
    refine ⟨rfl, hwf, ?_, ?_⟩
    · rw [hrest, ← h.queued_eq, hq]
      rfl
    · rw [l.pop_dropped]
      exact h.overflows

end SoundCommandQueue

/-! ## Bus writes -/

theorem isSoundAddr_page {addr : BitVec 32} (h : ngNeogeoIsSoundAddr (addr &&& 0x00FFFFFF) = true) :
    (addr &&& 0x00FFFFFF).toNat / 0x20000 = 0x19 :=
  isRegister_page rfl h

namespace NeogeoRuntime

variable {rt : NeogeoRuntime} {l : EventLog NgNeoSoundCommandEvent} {addr : BitVec 32}

/-- No other device decodes the sound register. -/
theorem ng68kWrite8_sound (h : ngNeogeoIsSoundAddr (addr &&& 0x00FFFFFF) = true) (value : BitVec 8) :
    rt.ng68kWrite8 addr value = rt.writeSound (addr &&& 0x00FFFFFF) value := by
  have hp := isSoundAddr_page h
  unfold ng68kWrite8
  dsimp only
  rw [inWindow_eq_false_of_page hp (by decide), ngNeogeoIsPaletteAddr,
    inWindow_eq_false_of_page hp (by decide), ngNeogeoIsBackupRamAddr,
    inWindow_eq_false_of_page hp (by decide), ngNeogeoIsSystemRomAddr,
    inWindow_eq_false_of_page hp (by decide), ngNeogeoIsMemcardAddr,
    inWindow_eq_false_of_page hp (by decide), ngNeogeoIsDipswitchAddr,
    isRegister_eq_false_of_page rfl hp (by decide), ngNeogeoIsPortOutputAddr,
    isRegister_eq_false_of_page rfl hp (by decide), h]
  rfl

theorem ng68kWrite8_not_sound (h : ngNeogeoIsSoundAddr (addr &&& 0x00FFFFFF) = false)
    (value : BitVec 8) :
    (rt.ng68kWrite8 addr value).toSoundCommandQueue = rt.toSoundCommandQueue := by
  refine ng68kWrite8_cases (P := fun rt' => rt'.toSoundCommandQueue = rt.toSoundCommandQueue)
    rt addr value rfl rfl rfl ?_ rfl rfl ?_ ?_ ?_
  · exact congrArg SoundState.toSoundCommandQueue (rt.writeBackupRam_frame _ _).1
  · intro ht
    rw [h] at ht
    cases ht
  · exact congrArg SoundState.toSoundCommandQueue (rt.writeSystemLatch_frame _ _).1
  · intro _
    exact congrArg SoundState.toSoundCommandQueue (rt.writeLspcWord_frame _ _).1

end NeogeoRuntime

variable {rt : NeogeoRuntime} {l : EventLog NgNeoSoundCommandEvent}

theorem soundWrites_append (bs cs : List (BitVec 32 × BitVec 8)) :
    soundWrites rt (bs ++ cs) = soundWrites rt bs ++ soundWrites rt cs := by
  unfold soundWrites
  rw [List.filter_append, List.map_append]

/-- Only the time and the place of a write enter its event. -/
theorem soundWrites_congr {rt' : NeogeoRuntime} (ht : rt'.toTimingState = rt.toTimingState)
    (hm : rt'.m68k = rt.m68k) (bytes : List (BitVec 32 × BitVec 8)) :
    soundWrites rt' bytes = soundWrites rt bytes := by
  unfold soundWrites NeogeoRuntime.pc24
  rw [ht, hm]

/-- What a bus access leaves the log to, when it only writes. -/
def WritesTo (rt rt' : NeogeoRuntime) (bytes : List (BitVec 32 × BitVec 8)) : Prop :=
  rt'.toTimingState = rt.toTimingState ∧ rt'.m68k = rt.m68k ∧
    ∀ l, rt.toSoundCommandQueue.Refines l →
      (runLog l (soundWrites rt bytes)).1 = [] ∧
        rt'.toSoundCommandQueue.Refines (runLog l (soundWrites rt bytes)).2

theorem WritesTo.append {rt' rt'' : NeogeoRuntime} {bs cs : List (BitVec 32 × BitVec 8)}
    (h : WritesTo rt rt' bs) (h' : WritesTo rt' rt'' cs) : WritesTo rt rt'' (bs ++ cs) := by
  refine ⟨h'.1.trans h.1, h'.2.1.trans h.2.1, fun l hl => ?_⟩
  obtain ⟨hb, hr⟩ := h.2.2 l hl
  obtain ⟨hc, hr'⟩ := h'.2.2 _ hr
  rw [soundWrites_congr h.1 h.2.1] at hc hr'
  rw [soundWrites_append, runLog_append, hb, hc]
  exact ⟨rfl, hr'⟩

/-- An access without sound bytes that leaves the queue and the clock alone. -/
theorem writesTo_of_frame {rt' : NeogeoRuntime} {bytes : List (BitVec 32 × BitVec 8)}
    (hq : rt'.toSoundCommandQueue = rt.toSoundCommandQueue)
    (ht : rt'.toTimingState = rt.toTimingState) (hm : rt'.m68k = rt.m68k)
    (hb : ∀ b ∈ bytes, isSoundByte b = false) : WritesTo rt rt' bytes := by
  refine ⟨ht, hm, fun l hl => ?_⟩
  have hnil : soundWrites rt bytes = [] := by
    unfold soundWrites
    rw [List.filter_eq_nil_iff.mpr fun b hmem => Bool.not_eq_true _ ▸ hb b hmem]
    rfl
  rw [hnil, hq]
  exact ⟨rfl, hl⟩

theorem write8_writesTo (rt : NeogeoRuntime) (addr : BitVec 32) (value : BitVec 8) :
    WritesTo rt (rt.ng68kWrite8 addr value) [(addr, value)] := by
  obtain ⟨ht, hm⟩ := rt.write8_clock addr value
  by_cases h : ngNeogeoIsSoundAddr (addr &&& 0x00FFFFFF) = true
  · refine ⟨ht, hm, fun l hl => ?_⟩
    have hw : soundWrites rt [(addr, value)] = [.write ⟨rt.cpuCycles, rt.pc24, value⟩] := by
      unfold soundWrites
      rw [List.filter_cons_of_pos (show isSoundByte (addr, value) = true from h)]
      rfl
    rw [hw, NeogeoRuntime.ng68kWrite8_sound h]
    exact ⟨rfl, hl.queue _ _ _⟩
  · have h := Bool.eq_false_of_not_eq_true h
    refine writesTo_of_frame (NeogeoRuntime.ng68kWrite8_not_sound h value) ht hm ?_
    intro b hb
    rw [List.mem_singleton.mp hb]
    exact h

/-- A word at an address of another page holds no sound byte. -/
theorem not_sound_word {addr : BitVec 32} (word : BitVec 16)
    (h : (addr &&& 0x00FFFFFF).toNat / 0x20000 ≠ 0x19 ∧
      (addr &&& 0x00FFFFFF).toNat / 0x20000 ≠ 0x18) :
    ∀ b ∈ RuntimeOp.busBytes (.write16 addr word), isSoundByte b = false := by
  intro b hb
  by_contra ht
  have hp := isSoundAddr_page (Bool.eq_true_of_not_eq_false ht)
  rcases List.mem_pair.mp hb with rfl | rfl
  · exact h.1 hp
  · have hmask := toNat_and_mask24 addr
    rw [toNat_and_mask24, BitVec.toNat_add] at hp
    have : (1 : BitVec 32).toNat = 1 := rfl
    omega

theorem write16_writesTo (rt : NeogeoRuntime) (addr : BitVec 32) (word : BitVec 16) :
    WritesTo rt (rt.ng68kWrite16 addr word) (RuntimeOp.busBytes (.write16 addr word)) := by
  refine ng68kWrite16_cases
    (P := fun rt' => WritesTo rt rt' (RuntimeOp.busBytes (.write16 addr word))) rt addr word ?_ ?_ ?_
  · intro hp
    simp only [ngNeogeoIsPaletteAddr, inWindow, Bool.and_eq_true, decide_eq_true_eq] at hp
    exact writesTo_of_frame rfl rfl rfl (not_sound_word word (by omega))
  · intro hl
    simp only [ngNeogeoIsLspcAddr, inWindow, Bool.and_eq_true, decide_eq_true_eq] at hl
    obtain ⟨hs, ht, hm⟩ := rt.writeLspcWord_frame (addr &&& 0x00FFFFFF &&& 0x00FFFFFE) word
    exact writesTo_of_frame (congrArg SoundState.toSoundCommandQueue hs) ht hm
      (not_sound_word word (by omega))
  · intro _
    have hhi : addr &&& 0x00FFFFFF &&& 0x00FFFFFF = addr &&& 0x00FFFFFF := by
      rw [BitVec.and_assoc, BitVec.and_self]
    have hlo : (addr &&& 0x00FFFFFF) + 1 &&& 0x00FFFFFF = addr + 1 &&& 0x00FFFFFF := by
      apply BitVec.eq_of_toNat_eq
      rw [toNat_and_mask24, toNat_and_mask24, BitVec.toNat_add, BitVec.toNat_add, toNat_and_mask24]
      omega
    rw [NeogeoRuntime.ng68kWrite8_congr hhi, NeogeoRuntime.ng68kWrite8_congr hlo]
    exact (write8_writesTo rt _ _).append (write8_writesTo _ _ _)

theorem write32_writesTo (rt : NeogeoRuntime) (addr value : BitVec 32) :
    WritesTo rt (rt.ng68kWrite32 addr value) (RuntimeOp.busBytes (.write32 addr value)) := by
  have h := (write16_writesTo rt addr ((value >>> 16).setWidth 16)).append
    (write16_writesTo _ (addr + 2) (value.setWidth 16))
  have hbytes : RuntimeOp.busBytes (.write16 addr ((value >>> 16).setWidth 16)) ++
      RuntimeOp.busBytes (.write16 (addr + 2) (value.setWidth 16)) =
        RuntimeOp.busBytes (.write32 addr value) := by
    have hhi : ((value >>> 16).setWidth 16 >>> 8).setWidth 8 = (value >>> 24).setWidth 8 := by
      ext i hi
      simp [show 8 + i < 16 by omega, ← Nat.add_assoc]
    have hmid : ((value >>> 16).setWidth 16).setWidth 8 = (value >>> 16).setWidth 8 :=
      BitVec.setWidth_setWidth_of_le _ (by decide)
    have hlow : (value.setWidth 16 >>> 8).setWidth 8 = (value >>> 8).setWidth 8 := by
      ext i hi
      simp [show 8 + i < 16 by omega]
    have hlast : (value.setWidth 16).setWidth 8 = value.setWidth 8 :=
      BitVec.setWidth_setWidth_of_le _ (by decide)
    have haddr : addr + 2 + 1 = addr + 3 := BitVec.add_assoc ..
    simp only [RuntimeOp.busBytes, List.cons_append, List.nil_append, hhi, hmid, hlow, hlast, haddr]
  rw [← hbytes]
  exact h

/-! ## Runs -/

/-- Operations that leave the queue alone and put nothing on the bus. -/
theorem refines_of_same {op : RuntimeOp}
    (hq : (op.step rt).2.toSoundCommandQueue = rt.toSoundCommandQueue)
    (ha : op.soundActions rt = []) (hr : (op.step rt).1.isEvent = false)
    (h : rt.toSoundCommandQueue.Refines l) :
    [(op.step rt).1].filter RuntimeResult.isEvent = (runLog l (op.soundActions rt)).1 ∧
      (op.step rt).2.toSoundCommandQueue.Refines (runLog l (op.soundActions rt)).2 := by
  rw [ha, hq]
  exact ⟨List.filter_cons_of_neg (by rw [hr]; decide), h⟩

theorem refines_of_writesTo {op : RuntimeOp} (hw : WritesTo rt (op.step rt).2 op.busBytes)
    (ha : op.soundActions rt = soundWrites rt op.busBytes) (hr : (op.step rt).1.isEvent = false)
    (h : rt.toSoundCommandQueue.Refines l) :
    [(op.step rt).1].filter RuntimeResult.isEvent = (runLog l (op.soundActions rt)).1 ∧
      (op.step rt).2.toSoundCommandQueue.Refines (runLog l (op.soundActions rt)).2 := by
  obtain ⟨hnil, hq⟩ := hw.2.2 l h
  rw [ha, hnil]
  exact ⟨List.filter_cons_of_neg (by rw [hr]; decide), hq⟩

theorem takeReset_toSoundCommandQueue (pc ssp : Bool) :
    (rt.ngM68kTakeReset pc ssp).2.toSoundCommandQueue = rt.toSoundCommandQueue := by
  rcases rt.takeReset_cases pc ssp with ⟨_, h⟩ | ⟨_, rt', hr, h⟩
  · rw [h]
  · rw [h, hr]
    rfl

theorem reset_refines (rt : NeogeoRuntime) :
    rt.ngNeogeoResetRuntime.toSoundCommandQueue.Refines .empty := by
  refine ⟨⟨?_, ?_, rfl⟩, rfl, rfl⟩
  · show (0 : BitVec 32).toNat < 512
    decide
  · show (0 : BitVec 32).toNat ≤ 512
    decide

/-- One operation answers and leaves the queue as the log does. -/
theorem step_refines (op : RuntimeOp) (h : rt.toSoundCommandQueue.Refines l) :
    [(op.step rt).1].filter RuntimeResult.isEvent = (runLog l (op.soundActions rt)).1 ∧
      (op.step rt).2.toSoundCommandQueue.Refines (runLog l (op.soundActions rt)).2 := by
  cases op with
  | write8 addr value => exact refines_of_writesTo (write8_writesTo rt addr value) rfl rfl h
  | write16 addr value => exact refines_of_writesTo (write16_writesTo rt addr value) rfl rfl h
  | write32 addr value => exact refines_of_writesTo (write32_writesTo rt addr value) rfl rfl h
  | advanceCpuCycles cycles =>
    exact refines_of_same (congrArg SoundState.toSoundCommandQueue
      (rt.advanceCpuCycles_clockOnly cycles).toSoundState) rfl rfl h
  | takeInterrupt mask out =>
    exact refines_of_same (congrArg SoundState.toSoundCommandQueue
      (rt.takeInterrupt_clockOnly mask out).toSoundState) rfl rfl h
  | takeReset pc ssp => exact refines_of_same (takeReset_toSoundCommandQueue pc ssp) rfl rfl h
  | popSoundCommandEvent out =>
    obtain ⟨hpop, hrest⟩ := h.pop
    refine ⟨?_, hrest⟩
    show [RuntimeResult.event _] = [RuntimeResult.event _]
    rw [hpop]
  | resetRuntime => exact ⟨rfl, reset_refines rt⟩
  | _ => exact refines_of_same rfl rfl rfl h

theorem run_refines (ops : List RuntimeOp) (h : rt.toSoundCommandQueue.Refines l) :
    (rt.run ops).1.filter RuntimeResult.isEvent = (runLog l (rt.soundActions ops)).1 ∧
      (rt.run ops).2.toSoundCommandQueue.Refines (runLog l (rt.soundActions ops)).2 := by
  induction ops generalizing rt l with
  | nil => exact ⟨rfl, h⟩
  | cons op ops ih =>
    obtain ⟨hres, hq⟩ := step_refines op h
    obtain ⟨hrest, hq'⟩ := ih hq
    rw [NeogeoRuntime.soundActions, runLog_append]
    refine ⟨?_, hq'⟩
    show ([(op.step rt).1] ++ ((op.step rt).2.run ops).1).filter _ = _
    rw [List.filter_append, hres, hrest]

/-- After every run from reset the pops have returned what the log of the sound writes delivers:
the queue holds the undelivered events, at most 512, and counts the dropped ones. -/
theorem sound_queue_refines_log (rt : NeogeoRuntime) (ops : List RuntimeOp) :
    let start := rt.ngNeogeoResetRuntime
    let spec := runLog .empty (start.soundActions ops)
    let after := (start.run ops).2
    (start.run ops).1.filter RuntimeResult.isEvent = spec.1 ∧
      after.queued = spec.2.undelivered ∧ spec.2.undelivered.length ≤ 512 ∧
      after.soundCommandQueueOverflows.toNat = spec.2.dropped % 2 ^ 32 ∧
      after.soundCommandQueueHead.toNat =
        (after.soundCommandQueueTail.toNat + after.soundCommandQueueCount.toNat) % 512 := by
  intro start spec after
  obtain ⟨hres, hq⟩ := run_refines ops (reset_refines rt)
  refine ⟨hres, hq.queued_eq, ?_, hq.overflows, hq.wellFormed.head_eq⟩
  rw [← hq.count]
  exact hq.wellFormed.count_le

end NeoRecomp
