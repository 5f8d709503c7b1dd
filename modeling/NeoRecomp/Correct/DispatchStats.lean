import NeoRecomp.Lib.Probing
import NeoRecomp.Runtime.Dispatcher

/-!
# The statistics of the combined dispatcher

Whatever programs the trampoline runs, its counters, its table of hot addresses and its ring of
recent ones describe the list of addresses it has dispatched.
-/

namespace NeoRecomp

open Probing SmokeDispatcher

namespace SmokeDispatcher

theorem toNat_add_one {w : Nat} {v : BitVec w} (h : v.toNat + 1 < 2 ^ w) :
    (v + 1).toNat = v.toNat + 1 := by
  have hw : 1 < 2 ^ w := by omega
  have h1 : (1 : BitVec w).toNat = 1 := (BitVec.toNat_ofNat 1 w).trans (Nat.mod_eq_of_lt hw)
  rw [BitVec.toNat_add, h1, Nat.mod_eq_of_lt h]

/-! ## The table of hot addresses -/

/-- The hash of an address. -/
def hotHash (addr : BitVec 32) : Nat := (ngGeneratedSmokeHotSlot addr).toNat

/-- The arrays of hot addresses as a table. -/
def hotTable (d : SmokeDispatcher) : ProbeTable (BitVec 32) where
  key := d.hotAddr
  count i := (d.hotCount i).toNat
  unique := d.uniqueDispatchCount.toNat
  overflow := d.hotOverflow

theorem probe_index (slot : BitVec 32) (p : Nat) :
    ((slot + BitVec.ofNat 32 p) &&& 32767).toNat = (slot.toNat + p) % 32768 := by
  rw [BitVec.toNat_and, BitVec.toNat_add, BitVec.toNat_ofNat]
  show (slot.toNat + p % 4294967296) % 4294967296 &&& (2 ^ 15 - 1) = _
  rw [Nat.and_two_pow_sub_one_eq_mod]
  omega

/-- The probes from `p` on look for the first slot that is empty or holds the address. -/
theorem noteProbe_hotTable (addr slot : BitVec 32) (turns p : Nat) (d : SmokeDispatcher)
    (hcount : ∀ i < 32768, (d.hotCount i).toNat + 1 < 2 ^ 64)
    (hunique : d.uniqueDispatchCount.toNat + 1 < 2 ^ 32) :
    (noteProbe addr slot turns (BitVec.ofNat 32 p) d).hotTable =
      d.hotTable.settle addr
        (((List.range' p turns).map fun q => (slot.toNat + q) % 32768).find?
          fun i => d.hotTable.count i = 0 ∨ d.hotTable.key i = addr) := by
  induction turns generalizing p with
  | zero => rfl
  | succ turns ih =>
    rw [List.range'_succ, List.map_cons, noteProbe, probe_index]
    have hlt : (slot.toNat + p) % 32768 < 32768 := Nat.mod_lt _ (by decide)
    generalize (slot.toNat + p) % 32768 = i at hlt ⊢
    generalize hstop : (fun j => decide (d.hotTable.count j = 0 ∨ d.hotTable.key j = addr)) = stop
      at ih ⊢
    have hzero : d.hotTable.count i = 0 ↔ d.hotCount i = 0 :=
      ⟨fun h => BitVec.eq_of_toNat_eq h, fun h => congrArg BitVec.toNat h⟩
    by_cases hempty : d.hotCount i = 0
    · have hi : stop i = true := hstop ▸ decide_eq_true (.inl (hzero.mpr hempty))
      rw [List.find?_cons_of_pos hi, ProbeTable.settle,
        if_pos (hzero.mpr hempty)]
      simp only [if_pos hempty]
      unfold hotTable
      congr 1
      · funext j
        by_cases hj : j = i
        · rw [hj]
          simp
        · simp [hj]
      · exact toNat_add_one hunique
    · by_cases hkey : d.hotAddr i = addr
      · have hi : stop i = true := hstop ▸ decide_eq_true (.inr hkey)
        rw [List.find?_cons_of_pos hi, ProbeTable.settle,
          if_neg (mt hzero.mp hempty)]
        simp only [if_neg hempty, if_pos hkey]
        unfold hotTable
        congr 1
        funext j
        by_cases hj : j = i
        · rw [hj]
          simpa using toNat_add_one (hcount i hlt)
        · simp [hj]
      · have hi : ¬ stop i = true := by
          rw [← hstop]
          simpa using ⟨mt hzero.mp hempty, hkey⟩
        rw [List.find?_cons_of_neg hi]
        simp only [if_neg hempty, if_neg hkey]
        rw [← show BitVec.ofNat 32 (p + 1) = BitVec.ofNat 32 p + 1 from BitVec.ofNat_add p 1]
        exact ih (p + 1)

theorem note_hotTable (addr : BitVec 32) (haddr : addr &&& 0x00FFFFFF = addr) (d : SmokeDispatcher)
    (hcount : ∀ i < 32768, (d.hotCount i).toNat + 1 < 2 ^ 64)
    (hunique : d.uniqueDispatchCount.toNat + 1 < 2 ^ 32) :
    (ngGeneratedSmokeNoteDispatch addr d).hotTable = d.hotTable.note 32768 hotHash addr := by
  unfold ngGeneratedSmokeNoteDispatch
  rw [haddr]
  have h := noteProbe_hotTable addr (ngGeneratedSmokeHotSlot addr) 32768 0
    { d with dispatchWatchCount := noteWatch addr d.dispatchWatchCount } hcount hunique
  rw [← List.range_eq_range'] at h
  exact h

/-! ## One dispatch -/

/-- Notes in the table of hot addresses change nothing else. -/
theorem noteProbe_rest (addr slot : BitVec 32) (turns : Nat) (probe : BitVec 32)
    (d : SmokeDispatcher) :
    ∃ hotAddr hotCount uniqueDispatchCount hotOverflow,
      noteProbe addr slot turns probe d =
        { d with hotAddr, hotCount, uniqueDispatchCount, hotOverflow } := by
  induction turns generalizing probe with
  | zero => exact ⟨_, _, _, _, rfl⟩
  | succ turns ih =>
    rw [noteProbe]
    split_ifs
    · exact ⟨_, _, _, _, rfl⟩
    · exact ⟨_, _, _, _, rfl⟩
    · exact ih _

/-- The counters describe the addresses dispatched so far. -/
structure StatsOf (ds : List (BitVec 32)) (d : SmokeDispatcher) : Prop where
  total : d.dispatchCount.toNat = ds.length
  cart : d.cartDispatchCount.toNat = ds.countP fun a => !isBios a
  bios : d.biosDispatchCount.toNat = ds.countP isBios
  watch : ∀ i a, ngGeneratedSmokeDispatchWatch[i]? = some a →
    (d.dispatchWatchCount i).toNat = ds.count a
  hot : ProbeTable.Counts 32768 hotHash d.hotTable ds
  recent : ∀ i (h : i < ds.length), ds.length ≤ i + 256 → d.recentDispatches (i % 256) = ds[i]

theorem watch_nodup : ngGeneratedSmokeDispatchWatch.Nodup := by decide

/-- An address counts at its own index of the watch table only. -/
theorem noteWatch_apply (counts : WatchCounts) {addr : BitVec 32}
    (haddr : addr &&& 0x00FFFFFF = addr) {i : Nat} {a : BitVec 32}
    (hi : ngGeneratedSmokeDispatchWatch[i]? = some a) :
    noteWatch addr counts i = if a = addr then counts i + 1 else counts i := by
  unfold noteWatch
  rw [haddr]
  obtain ⟨hlt, hget⟩ := List.getElem?_eq_some_iff.mp hi
  cases hidx : ngGeneratedSmokeDispatchWatch.idxOf? addr with
  | none =>
    have hne : addr ∉ ngGeneratedSmokeDispatchWatch := List.idxOf?_eq_none_iff.mp hidx
    rw [if_neg]
    rintro rfl
    exact hne (hget ▸ List.getElem_mem hlt)
  | some j =>
    obtain ⟨hj, hjget, -⟩ := List.idxOf?_eq_some_iff.mp hidx
    by_cases hij : i = j
    · subst hij
      rw [if_pos (hget.symm.trans hjget)]
      exact Function.update_self ..
    · have hne : a ≠ addr := by
        rw [← hget, ← hjget]
        exact fun heq => hij ((watch_nodup.getElem_inj_iff).mp heq)
      rw [if_neg hne]
      exact Function.update_of_ne hij ..

variable {W : Type} {P : CombinedPrograms W} {ds : List (BitVec 32)} {d : SmokeDispatcher}

/-- The bounds of the counters of the table. -/
theorem StatsOf.room (h : StatsOf ds d) (hlen : ds.length + 1 < 2 ^ 64) :
    (∀ i < 32768, (d.hotCount i).toNat + 1 < 2 ^ 64) ∧
      d.uniqueDispatchCount.toNat + 1 < 2 ^ 32 := by
  constructor
  · intro i hi
    by_cases h0 : d.hotTable.count i = 0
    · rw [show (d.hotCount i).toNat = 0 from h0]
      decide
    · have hle : d.hotTable.count i ≤ ds.length := h.hot.count_le hi
      have : (d.hotCount i).toNat ≤ ds.length := hle
      omega
  · have hu : d.uniqueDispatchCount.toNat = _ := h.hot.unique
    rw [hu, ProbeTable.kept, List.length_take]
    omega

/-- What the trampoline writes down before a dispatch, but for the table of hot addresses. -/
theorem count_rest {next : BitVec 32} (hnext : next &&& 0x00FFFFFF = next) (d : SmokeDispatcher) :
    ∃ hotAddr hotCount uniqueDispatchCount hotOverflow,
      d.count next = { d with
        dispatchCount := d.dispatchCount + 1
        lastDispatchAddr := next
        recentDispatches := Function.update d.recentDispatches (d.dispatchCount.toNat % 256) next
        dispatchWatchCount := noteWatch next d.dispatchWatchCount
        hotAddr, hotCount, uniqueDispatchCount, hotOverflow } := by
  have hnote (d : SmokeDispatcher) : ngGeneratedSmokeNoteDispatch next d =
      noteProbe next (ngGeneratedSmokeHotSlot next) ngGeneratedSmokeHotSlots 0
        { d with dispatchWatchCount := noteWatch next d.dispatchWatchCount } := by
    unfold ngGeneratedSmokeNoteDispatch
    rw [hnext]
  unfold SmokeDispatcher.count
  rw [hnext, hnote]
  dsimp only
  rw [BitVec.add_sub_cancel]
  exact noteProbe_rest ..

theorem count_hotTable {next : BitVec 32} (hnext : next &&& 0x00FFFFFF = next) (h : StatsOf ds d)
    (hlen : ds.length + 1 < 2 ^ 64) :
    (d.count next).hotTable = d.hotTable.note 32768 hotHash next := by
  unfold SmokeDispatcher.count
  rw [hnext]
  exact note_hotTable next hnext _ (h.room hlen).1 (h.room hlen).2

theorem StatsOf.nested (addrs : List (BitVec 32)) (h : StatsOf ds d) :
    StatsOf ds (addrs.foldl (fun d a => d.nestedCall a) d) := by
  induction addrs generalizing d with
  | nil => exact h
  | cons a addrs ih => exact ih ⟨h.total, h.cart, h.bios, h.watch, h.hot, h.recent⟩

/-- The step counts for the program it calls, and the calls from inside it fill the slot. -/
theorem dispatchOne_state (P : CombinedPrograms W) {next : BitVec 32}
    (hnext : next &&& 0x00FFFFFF = next) (d : SmokeDispatcher) (w : W) :
    ∃ (addrs : List (BitVec 32)) (lastBiosDispatchAddr lastCartDispatchAddr : BitVec 32),
      (ngGeneratedSmokeDispatchOne P next d w).1 = addrs.foldl (fun d a => d.nestedCall a)
        { d with
          biosDispatchCount := d.biosDispatchCount + if isBios next then 1 else 0
          cartDispatchCount := d.cartDispatchCount + if isBios next then 0 else 1
          lastBiosDispatchAddr, lastCartDispatchAddr } := by
  unfold ngGeneratedSmokeDispatchOne
  rw [hnext]
  have hzero (v : BitVec 64) : v + 0 = v := BitVec.add_zero v
  by_cases hb : isBios next = true
  · simp only [hb, if_true, hzero]
    exact ⟨_, _, _, rfl⟩
  · simp only [hb, Bool.false_eq_true, if_false, hzero]
    exact ⟨_, _, _, rfl⟩

/-- The statistics after one dispatch, whichever of the two counters it goes to. -/
theorem StatsOf.dispatched (h : StatsOf ds d) {next : BitVec 32}
    (hnext : next &&& 0x00FFFFFF = next) (hlen : ds.length + 1 < 2 ^ 64) {w : W} :
    StatsOf (ds ++ [next]) (ngGeneratedSmokeDispatchOne P next (d.count next) w).1 := by
  obtain ⟨hotAddr, hotCount, unique, overflow, hcount⟩ := count_rest hnext d
  have hhot := count_hotTable hnext h hlen
  have hone : StatsOf (ds ++ [next])
      { d.count next with
        biosDispatchCount := d.biosDispatchCount + if isBios next then 1 else 0
        cartDispatchCount := d.cartDispatchCount + if isBios next then 0 else 1 } := by
    have htotal := h.total
    have hb := List.countP_le_length (p := isBios) (l := ds)
    have hc := List.countP_le_length (p := fun a => !isBios a) (l := ds)
    constructor
    · rw [hcount, List.length_append, List.length_singleton, ← htotal]
      exact toNat_add_one (by omega)
    · rw [List.countP_append, List.countP_singleton, ← h.cart]
      cases isBios next with
      | true => simp
      | false => exact toNat_add_one (by rw [h.cart]; omega)
    · rw [List.countP_append, List.countP_singleton, ← h.bios]
      cases isBios next with
      | true => exact toNat_add_one (by rw [h.bios]; omega)
      | false => simp
    · intro i a ha
      have hwatch := h.watch i a ha
      have hle : ds.count a ≤ ds.length := List.count_le_length
      rw [List.count_append, List.count_singleton, ← hwatch]
      show ((d.count next).dispatchWatchCount i).toNat = _
      rw [hcount]
      show (noteWatch next d.dispatchWatchCount i).toNat = _
      rw [noteWatch_apply _ hnext ha]
      by_cases he : a = next
      · subst he
        rw [if_pos rfl, beq_self_eq_true, if_pos rfl]
        exact toNat_add_one (by omega)
      · rw [if_neg he, if_neg (by simpa using fun h => he h.symm), Nat.add_zero]
    · exact hhot ▸ h.hot.note next
    · intro i hi hrange
      show (d.count next).recentDispatches (i % 256) = _
      rw [hcount]
      show Function.update _ _ _ _ = _
      rw [List.length_append, List.length_singleton] at hi hrange
      rw [htotal]
      by_cases hlast : i = ds.length
      · subst hlast
        rw [Function.update_self]
        simp
      · have hne : i % 256 ≠ ds.length % 256 := by omega
        rw [Function.update_of_ne hne, h.recent i (by omega) (by omega),
          List.getElem_append_left (by omega)]
  obtain ⟨addrs, biosAddr, cartAddr, hstate⟩ := dispatchOne_state P hnext (d.count next) w
  rw [hstate]
  refine StatsOf.nested _ ⟨hone.total, ?_, ?_, hone.watch, hone.hot, hone.recent⟩
  · rw [← hone.cart, hcount]
  · rw [← hone.bios, hcount]

/-! ## Runs -/

/-- The address of the slot is masked. -/
def SlotMasked (d : SmokeDispatcher) : Prop := d.dispatchAddr &&& 0x00FFFFFF = d.dispatchAddr

theorem slotMasked_nested (addrs : List (BitVec 32)) (hd : SlotMasked d) :
    SlotMasked (addrs.foldl (fun d a => d.nestedCall a) d) := by
  induction addrs generalizing d with
  | nil => exact hd
  | cons a addrs ih => exact ih (by simp [SlotMasked, nestedCall, BitVec.and_assoc])

theorem slotMasked_dispatchOne {next : BitVec 32} (hnext : next &&& 0x00FFFFFF = next) (w : W)
    (hd : SlotMasked d) : SlotMasked (ngGeneratedSmokeDispatchOne P next (d.count next) w).1 := by
  obtain ⟨hotAddr, hotCount, unique, overflow, hcount⟩ := count_rest hnext d
  obtain ⟨addrs, biosAddr, cartAddr, hstate⟩ := dispatchOne_state P hnext (d.count next) w
  rw [hstate, hcount]
  exact slotMasked_nested addrs hd

/-- The budget is used up. -/
def BudgetStop (d : SmokeDispatcher) : Prop :=
  d.dispatchBudget ≠ 0 ∧ d.dispatchBudget ≤ d.dispatchCount

/-- One turn of the loop ends it or dispatches the pending address. -/
theorem dispatchLoop_cases {turns : Nat} {w w' : W} {ds' : List (BitVec 32)} {d' : SmokeDispatcher}
    (hloop : dispatchLoop P (turns + 1) d w = some (ds', d', w')) :
    (d.dispatchPending = false ∧ ds' = [] ∧ d' = d ∧ w' = w) ∨
    (d.dispatchPending = true ∧ BudgetStop d ∧ ds' = [] ∧
      d' = { d with
        dispatchPending := false
        budgetHit := true
        budgetStopAddr := d.dispatchAddr &&& 0x00FFFFFF } ∧
      w' = P.setPc (d.dispatchAddr &&& 0x00FFFFFF) w) ∨
    (d.dispatchPending = true ∧ ¬ BudgetStop d ∧ ∃ rest, ds' = d.dispatchAddr :: rest ∧
      dispatchLoop P turns
        (ngGeneratedSmokeDispatchOne P d.dispatchAddr
          (SmokeDispatcher.count d.dispatchAddr { d with dispatchPending := false }) w).1
        (ngGeneratedSmokeDispatchOne P d.dispatchAddr
          (SmokeDispatcher.count d.dispatchAddr { d with dispatchPending := false }) w).2 =
        some (rest, d', w')) := by
  rw [dispatchLoop] at hloop
  by_cases hpending : d.dispatchPending = false
  · rw [if_pos hpending] at hloop
    cases hloop
    exact .inl ⟨hpending, rfl, rfl, rfl⟩
  · rw [if_neg hpending] at hloop
    rw [Bool.not_eq_false] at hpending
    right
    by_cases hbudget : BudgetStop d
    · simp only [if_pos (show d.dispatchBudget ≠ 0 ∧ _ from hbudget)] at hloop
      cases hloop
      exact .inl ⟨hpending, hbudget, rfl, rfl, rfl⟩
    · simp only [if_neg (show ¬ (d.dispatchBudget ≠ 0 ∧ _) from hbudget)] at hloop
      obtain ⟨⟨rest, d'', w''⟩, hrest, heq⟩ := Option.map_eq_some_iff.mp hloop
      cases heq
      exact .inr ⟨hpending, hbudget, rest, rfl, hrest⟩

theorem StatsOf.loop {turns : Nat} {w w' : W} {ds' : List (BitVec 32)} {d' : SmokeDispatcher}
    (h : StatsOf ds d) (hd : SlotMasked d) (hlen : (ds ++ ds').length < 2 ^ 64)
    (hloop : dispatchLoop P turns d w = some (ds', d', w')) :
    StatsOf (ds ++ ds') d' ∧ SlotMasked d' := by
  induction turns generalizing ds ds' d w with
  | zero => cases hloop
  | succ turns ih =>
    rcases dispatchLoop_cases hloop with ⟨-, rfl, rfl, -⟩ | ⟨-, -, rfl, rfl, -⟩ |
      ⟨-, -, rest, rfl, hrest⟩
    · rw [List.append_nil]
      exact ⟨h, hd⟩
    · rw [List.append_nil]
      exact ⟨⟨h.total, h.cart, h.bios, h.watch, h.hot, h.recent⟩, hd⟩
    · rw [List.length_append, List.length_cons] at hlen
      have hidle : StatsOf ds { d with dispatchPending := false } :=
        ⟨h.total, h.cart, h.bios, h.watch, h.hot, h.recent⟩
      have hstep := hidle.dispatched (P := P) (w := w) hd (by omega)
      rw [show ds ++ d.dispatchAddr :: rest = (ds ++ [d.dispatchAddr]) ++ rest by simp]
      exact ih hstep (slotMasked_dispatchOne hd w hd) (by simp; omega) hrest

/-- What the host does with the dispatcher: it resets the statistics, calls and sets budgets. -/
inductive HarnessRun (P : CombinedPrograms W) :
    List (BitVec 32) → SmokeDispatcher → W → Prop
  | reset (d : SmokeDispatcher) (w : W) :
      HarnessRun P [] d.ngGeneratedSmokeResetDispatchStats w
  | call {ds ds' d d' w w' turns addr} (h : HarnessRun P ds d w)
      (hc : ngGeneratedCall P turns addr d w = some (ds', d', w')) :
      HarnessRun P (ds ++ ds') d' w'
  | budget {ds d w} (h : HarnessRun P ds d w) (maxDispatches : BitVec 64) :
      HarnessRun P ds (d.ngGeneratedSmokeSetDispatchBudget maxDispatches) w

theorem statsOf_reset (d : SmokeDispatcher) : StatsOf [] d.ngGeneratedSmokeResetDispatchStats where
  total := rfl
  cart := rfl
  bios := rfl
  watch _ _ _ := rfl
  hot := ProbeTable.counts_empty hotHash 0
  recent i hi := absurd hi (Nat.not_lt_zero i)

theorem HarnessRun.statsOf {w : W} (h : HarnessRun P ds d w) (hlen : ds.length < 2 ^ 64) :
    StatsOf ds d := by
  induction h with
  | reset d w => exact statsOf_reset d
  | budget _ b ih =>
    have hs := ih hlen
    exact ⟨hs.total, hs.cart, hs.bios, hs.watch, hs.hot, hs.recent⟩
  | @call ds ds' d d' w w' turns addr _ hc ih =>
    have hs := ih (by rw [List.length_append] at hlen; omega)
    unfold ngGeneratedCall at hc
    split_ifs at hc
    · cases hc
      rw [List.append_nil]
      exact ⟨hs.total, hs.cart, hs.bios, hs.watch, hs.hot, hs.recent⟩
    · obtain ⟨⟨ds₁, d₁, w₁⟩, hloop, heq⟩ := Option.map_eq_some_iff.mp hc
      cases heq
      have hstart : StatsOf ds { d.nestedCall addr with dispatchActive := true } :=
        ⟨hs.total, hs.cart, hs.bios, hs.watch, hs.hot, hs.recent⟩
      have hmasked : SlotMasked { d.nestedCall addr with dispatchActive := true } := by
        simp [SlotMasked, nestedCall, BitVec.and_assoc]
      obtain ⟨hend, -⟩ := hstart.loop hmasked hlen hloop
      exact ⟨hend.total, hend.cart, hend.bios, hend.watch, hend.hot, hend.recent⟩

end SmokeDispatcher

/-- After any use of the dispatcher its statistics are those of the list of dispatched addresses:
the total and its two parts, the hits of every watched address, and a table of hot addresses that
holds the first 32768 distinct ones, each in one slot with its exact count, and reports an overflow
when there were more. -/
theorem dispatch_statistics {W : Type} {P : CombinedPrograms W} {ds : List (BitVec 32)}
    {d : SmokeDispatcher} {w : W} (h : HarnessRun P ds d w) (hlen : ds.length < 2 ^ 64) :
    d.dispatchCount.toNat = ds.length ∧
    d.biosDispatchCount.toNat = ds.countP isBios ∧
    d.cartDispatchCount.toNat + d.biosDispatchCount.toNat = ds.length ∧
    (∀ i a, ngGeneratedSmokeDispatchWatch[i]? = some a →
      (d.dispatchWatchCount i).toNat = ds.count a) ∧
    d.uniqueDispatchCount.toNat = min 32768 (firsts ds).length ∧
    (d.hotOverflow = true ↔ 32768 < (firsts ds).length) ∧
    (∀ a ∈ (firsts ds).take 32768, ∃ i < 32768, d.hotAddr i = a ∧
      (d.hotCount i).toNat = ds.count a ∧
      ∀ j < 32768, d.hotCount j ≠ 0 → d.hotAddr j = a → j = i) ∧
    ∀ i < 32768, d.hotCount i ≠ 0 → d.hotAddr i ∈ (firsts ds).take 32768 := by
  have hs := h.statsOf hlen
  have hzero (i : Nat) : d.hotTable.count i ≠ 0 ↔ d.hotCount i ≠ 0 :=
    not_congr ⟨fun h => BitVec.eq_of_toNat_eq h, fun h => congrArg BitVec.toNat h⟩
  refine ⟨hs.total, hs.bios, ?_, hs.watch, ?_, hs.hot.overflow, ?_, ?_⟩
  · rw [hs.cart, hs.bios, List.length_eq_countP_add_countP isBios, Nat.add_comm]
    simp
  · have hunique : d.uniqueDispatchCount.toNat = _ := hs.hot.unique
    rw [hunique, ProbeTable.kept, List.length_take]
  · intro a ha
    obtain ⟨p, hp, hkey, hcount, -⟩ := hs.hot.slot a ha
    have hmem : a ∈ ds := mem_firsts.mp (List.mem_of_mem_take ha)
    have hlt : (hotHash a + p) % 32768 < 32768 := Nat.mod_lt _ (by decide)
    refine ⟨_, hlt, hkey, hcount, fun j hj hne heq => ?_⟩
    refine hs.hot.inj j hj _ hlt ((hzero j).mpr hne) ?_ (heq.trans hkey.symm)
    rw [hcount]
    exact (List.count_pos_iff.mpr hmem).ne'
  · intro i hi hne
    exact hs.hot.used i hi ((hzero i).mpr hne)

/-- Programs that call nothing. -/
def silentPrograms : CombinedPrograms Unit where
  ngCartGeneratedCall _ w := ([], w)
  ngBiosGeneratedCall _ w := ([], w)
  setPc _ w := w

/-- A watched address dispatched twice. -/
theorem silent_run : ∃ d, HarnessRun silentPrograms [0x000122, 0x000122] d () := by
  have hcalls : ∃ d d', ngGeneratedCall silentPrograms 2 0x000122
      (SmokeDispatcher.ngGeneratedSmokeResetDispatchStats {}) () = some ([0x000122], d, ()) ∧
      ngGeneratedCall silentPrograms 2 0x000122 d () = some ([0x000122], d', ()) :=
    ⟨_, _, rfl, rfl⟩
  obtain ⟨d, d', hfirst, hsecond⟩ := hcalls
  exact ⟨d', .call (.call (.reset {} ()) hfirst) hsecond⟩

theorem dispatch_statistics_twice :
    ∃ d, HarnessRun silentPrograms [0x000122, 0x000122] d () ∧
      d.uniqueDispatchCount.toNat = 1 ∧ (d.dispatchWatchCount 0).toNat = 2 := by
  obtain ⟨d, hrun⟩ := silent_run
  obtain ⟨-, -, -, hwatch, hunique, -⟩ := dispatch_statistics hrun (by decide)
  exact ⟨d, hrun, by rw [hunique]; decide, by rw [hwatch 0 0x000122 rfl]; decide⟩

end NeoRecomp
