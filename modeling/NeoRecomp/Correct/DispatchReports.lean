import NeoRecomp.Correct.DispatchStats
import NeoRecomp.Lib.TopN

/-!
# What the dispatcher reports

The loop period and the ranking of hot addresses, read off the list of dispatched addresses.
-/

namespace NeoRecomp

open Probing TopN SmokeDispatcher

variable {W : Type} {P : CombinedPrograms W} {ds : List (BitVec 32)} {d : SmokeDispatcher} {w : W}

/-! ## The loop period -/

/-- The newest `2 * period` items are the same `period` items twice. -/
def EndsInLoop {α : Type} (items : List α) (period : Nat) : Prop :=
  2 * period ≤ items.length ∧
    items.reverse.take period = (items.reverse.drop period).take period

namespace SmokeDispatcher

instance {α : Type} [DecidableEq α] (items : List α) (period : Nat) :
    Decidable (EndsInLoop items period) := inferInstanceAs (Decidable (_ ∧ _))

theorem StatsOf.fromEnd (h : StatsOf ds d) {i : Nat} (hi : i < ds.length) (hr : i < 256) :
    ds.reverse[i]? = some (d.ngGeneratedSmokeRecentFromEnd i) := by
  unfold ngGeneratedSmokeRecentFromEnd
  have hlt : ds.length - 1 - i < ds.length := by omega
  rw [h.total, if_neg (by unfold ngGeneratedSmokeRecentDispatches; omega),
    List.getElem?_reverse hi, List.getElem?_eq_getElem hlt]
  exact congrArg some (h.recent _ hlt (by omega)).symm

/-- The comparison of the inner loop. -/
theorem StatsOf.repeats_iff (h : StatsOf ds d) (period : Nat) (hp : period ≤ 64)
    (hlen : 2 * period ≤ ds.length) :
    ((List.range period).all fun i =>
      decide (d.ngGeneratedSmokeRecentFromEnd i = d.ngGeneratedSmokeRecentFromEnd (i + period))) =
        true ↔ EndsInLoop ds period := by
  rw [List.all_eq_true]
  have hitems : ds.reverse.take period = (ds.reverse.drop period).take period ↔
      ∀ i < period, ds.reverse[i]? = ds.reverse[i + period]? := by
    constructor
    · intro heq i hi
      have := congrArg (fun l => l[i]?) heq
      simpa [List.getElem?_take, hi, Nat.add_comm] using this
    · intro hall
      apply List.ext_getElem?
      intro i
      by_cases hi : i < period
      · simpa [List.getElem?_take, hi, Nat.add_comm] using hall i hi
      · simp [hi]
  have hat {i : Nat} (hi : i < 2 * period) :
      ds.reverse[i]? = some (d.ngGeneratedSmokeRecentFromEnd i) :=
    h.fromEnd (by omega) (by omega)
  rw [EndsInLoop, hitems, and_iff_right hlen]
  refine forall_congr' fun i => ?_
  rw [List.mem_range, decide_eq_true_eq]
  refine imp_congr_right fun hi => ?_
  rw [hat (by omega), hat (by omega), Option.some_inj]

/-- From a period on the search stops at the least one, or at 0 where there is none left. -/
theorem StatsOf.loopPeriodFrom (h : StatsOf ds d) {turns period : Nat}
    (hsum : turns + period = 65) :
    let found := d.loopPeriodFrom (min ds.length 256) turns period
    (found = 0 ∧ ∀ q, period ≤ q → q ≤ 64 → ¬ EndsInLoop ds q) ∨
      (period ≤ found ∧ found ≤ 64 ∧ EndsInLoop ds found ∧
        ∀ q, period ≤ q → q < found → ¬ EndsInLoop ds q) := by
  induction turns generalizing period with
  | zero => exact .inl ⟨rfl, fun q hq hq' => by omega⟩
  | succ turns ih =>
    dsimp only
    rw [SmokeDispatcher.loopPeriodFrom]
    by_cases hshort : min ds.length 256 < period * 2
    · rw [if_pos hshort]
      refine .inl ⟨rfl, fun q hq hq' hloop => ?_⟩
      have := hloop.1
      omega
    · rw [if_neg hshort]
      have hiff := h.repeats_iff period (by omega) (by omega)
      by_cases hloop : EndsInLoop ds period
      · rw [if_pos (hiff.mpr hloop)]
        exact .inr ⟨Nat.le_refl _, by omega, hloop, fun q hq hq' => by omega⟩
      · rw [if_neg (mt hiff.mp hloop)]
        have hrest (q : Nat) (hq : period ≤ q) (hq' : period + 1 ≤ q → ¬ EndsInLoop ds q) :
            ¬ EndsInLoop ds q := by
          rcases Nat.eq_or_lt_of_le hq with rfl | hlt
          · exact hloop
          · exact hq' hlt
        rcases @ih (period + 1) (by omega) with ⟨h0, hnone⟩ | ⟨hle, hmax, hend, hleast⟩
        · exact .inl ⟨h0, fun q hq hq' => hrest q hq fun hlt => hnone q hlt hq'⟩
        · exact .inr ⟨by omega, hmax, hend, fun q hq hq' => hrest q hq fun hlt => hleast q hlt hq'⟩

end SmokeDispatcher

/-- The reported period is the least number up to 64 such that the newest dispatches are that many
addresses twice in a row, and 0 if there is none. -/
theorem recent_loop_period_least (h : HarnessRun P ds d w) (hlen : ds.length < 2 ^ 64) :
    (d.ngGeneratedSmokeRecentLoopPeriod = 0 ∧
        ∀ q, 1 ≤ q → q ≤ 64 → ¬ EndsInLoop ds q) ∨
      (1 ≤ d.ngGeneratedSmokeRecentLoopPeriod ∧ d.ngGeneratedSmokeRecentLoopPeriod ≤ 64 ∧
        EndsInLoop ds d.ngGeneratedSmokeRecentLoopPeriod ∧
        ∀ q, 1 ≤ q → q < d.ngGeneratedSmokeRecentLoopPeriod → ¬ EndsInLoop ds q) := by
  have hs := h.statsOf hlen
  unfold ngGeneratedSmokeRecentLoopPeriod
  rw [hs.total]
  exact hs.loopPeriodFrom rfl

theorem recent_loop_period_silent : ∃ d, HarnessRun silentPrograms [0x000122, 0x000122] d () ∧
    d.ngGeneratedSmokeRecentLoopPeriod = 1 := by
  obtain ⟨d, hrun⟩ := silent_run
  have hloop : EndsInLoop [(0x000122 : BitVec 32), 0x000122] 1 := by decide
  refine ⟨d, hrun, ?_⟩
  rcases recent_loop_period_least hrun (by decide) with ⟨-, hnone⟩ | ⟨hle, -, -, hleast⟩
  · exact absurd hloop (hnone 1 (by decide) (by decide))
  · by_contra hne
    exact hleast 1 (by decide) (by omega) hloop

/-! ## The ranking -/

namespace SmokeDispatcher

/-- The slots in use, in order. -/
def hotSlots (d : SmokeDispatcher) : List Nat :=
  (List.range 32768).filter fun i => !decide (d.hotCount i = 0)

theorem mem_hotSlots {i : Nat} : i ∈ d.hotSlots ↔ i < 32768 ∧ ¬ d.hotCount i = 0 := by
  rw [hotSlots, List.mem_filter, List.mem_range, Bool.not_eq_true', decide_eq_false_iff_not]

def hotEntry (d : SmokeDispatcher) (i : Nat) : BitVec 32 × BitVec 64 := (d.hotAddr i, d.hotCount i)

theorem insertTop_eq (entry : BitVec 32 × BitVec 64) (tops : HotTop) :
    insertTop entry tops = pushTop (fun e : BitVec 32 × BitVec 64 => e.2.toNat) entry tops := by
  induction tops with
  | nil => rfl
  | cons top rest ih =>
    rw [insertTop, pushTop, ih]
    rfl

/-- The places after the loop over the slots. -/
theorem hotTops_eq (d : SmokeDispatcher) :
    (List.range 32768).foldl (fun tops i =>
        if d.hotCount i = 0 then tops else insertTop (d.hotAddr i, d.hotCount i) tops)
      (List.replicate 5 (0, 0)) =
    ((ranked (fun i => (d.hotCount i).toNat) d.hotSlots).map d.hotEntry ++
      List.replicate 5 (0, 0)).take 5 := by
  have hfold : (List.range 32768).foldl (fun tops i =>
        if d.hotCount i = 0 then tops else insertTop (d.hotAddr i, d.hotCount i) tops)
      (List.replicate 5 (0, 0)) =
      (d.hotSlots.map d.hotEntry).foldl
        (fun tops e => pushTop (fun e : BitVec 32 × BitVec 64 => e.2.toNat) e tops)
        (List.replicate 5 (0, 0)) := by
    rw [List.foldl_map, hotSlots, List.foldl_filter]
    congr 1
    funext tops i
    by_cases h0 : d.hotCount i = 0
    · simp [h0]
    · have hkeep : (!decide (d.hotCount i = 0)) = true := by
        rwa [Bool.not_eq_true', decide_eq_false_iff_not]
      rw [if_neg h0, if_pos hkeep, insertTop_eq]
      rfl
  rw [hfold]
  have hpush := @foldl_pushTop _ (fun e : BitVec 32 × BitVec 64 => e.2.toNat)
    (List.replicate 5 (0, 0)) (d.hotSlots.map d.hotEntry) [] (by
      intro e he z hz
      obtain ⟨i, hi, rfl⟩ := List.mem_map.mp he
      rw [List.eq_of_mem_replicate hz]
      exact Nat.pos_of_ne_zero fun h => (mem_hotSlots.mp hi).2 (BitVec.eq_of_toNat_eq h))
  rw [List.nil_append, List.length_replicate, List.take_of_length_le (by simp)] at hpush
  rw [hpush, show (fun i => (d.hotCount i).toNat) =
    (fun e : BitVec 32 × BitVec 64 => e.2.toNat) ∘ d.hotEntry from rfl, ← ranked_map]
  rfl

/-- The addresses in the slots in use are the kept ones. -/
theorem StatsOf.hotSlots_perm (h : StatsOf ds d) :
    (d.hotSlots.map d.hotAddr).Perm ((firsts ds).take 32768) := by
  have hused {i : Nat} (hi : i ∈ d.hotSlots) : i < 32768 ∧ d.hotTable.count i ≠ 0 :=
    ⟨(mem_hotSlots.mp hi).1, fun h0 => (mem_hotSlots.mp hi).2 (BitVec.eq_of_toNat_eq h0)⟩
  have hnodup : (d.hotSlots.map d.hotAddr).Nodup :=
    (List.nodup_range.filter _).map_on fun i hi j hj heq =>
      h.hot.inj i (hused hi).1 j (hused hj).1 (hused hi).2 (hused hj).2 heq
  rw [List.perm_ext_iff_of_nodup hnodup ((nodup_firsts ds).sublist (List.take_sublist _ _))]
  intro a
  rw [List.mem_map]
  constructor
  · rintro ⟨i, hi, rfl⟩
    exact h.hot.used i (hused hi).1 (hused hi).2
  · intro ha
    obtain ⟨p, -, hkey, hcount, -⟩ := h.hot.slot a ha
    have hmem : a ∈ ds := mem_firsts.mp (List.mem_of_mem_take ha)
    refine ⟨_, mem_hotSlots.mpr ⟨Nat.mod_lt _ (by decide), fun h0 => ?_⟩, hkey⟩
    have hpos := List.count_pos_iff.mpr hmem
    rw [← hcount] at hpos
    exact hpos.ne' (congrArg BitVec.toNat h0)

end SmokeDispatcher

/-- The ranking lists the addresses the table has kept by falling number of dispatches: the first
five, then zeros. -/
theorem hot_rank_sorted (h : HarnessRun P ds d w) (hlen : ds.length < 2 ^ 64) :
    ∃ addrs : List (BitVec 32), addrs.Perm ((firsts ds).take 32768) ∧
      addrs.Pairwise (fun a b => ds.count b ≤ ds.count a) ∧
      ∀ rank, d.ngGeneratedSmokeHotRank rank =
        if rank < 5 ∧ rank < addrs.length then
          (addrs.getD rank 0, BitVec.ofNat 64 (ds.count (addrs.getD rank 0)))
        else (0, 0) := by
  have hs := h.statsOf hlen
  have hperm := perm_ranked (w := fun i => (d.hotCount i).toNat) d.hotSlots
  have hcount {i : Nat} (hi : i ∈ ranked (fun i => (d.hotCount i).toNat) d.hotSlots) :
      (d.hotCount i).toNat = ds.count (d.hotAddr i) := by
    obtain ⟨hr, hne⟩ := mem_hotSlots.mp (hperm.mem_iff.mp hi)
    exact hs.hot.count_eq hr fun h0 => hne (BitVec.eq_of_toNat_eq h0)
  refine ⟨(ranked (fun i => (d.hotCount i).toNat) d.hotSlots).map d.hotAddr,
    (hperm.map _).trans hs.hotSlots_perm, ?_, fun rank => ?_⟩
  · rw [List.pairwise_map]
    have hslots : d.hotSlots.Pairwise (· < ·) := List.pairwise_lt_range.filter _
    have hsorted := pairwise_ranked (w := fun i => (d.hotCount i).toNat) hslots
    refine List.Pairwise.imp_of_mem (fun {i j} hi hj hb => ?_) hsorted
    rw [← hcount hi, ← hcount hj]
    rcases hb with hlt | ⟨heq, -⟩
    · exact Nat.le_of_lt hlt
    · exact Nat.le_of_eq heq
  · unfold ngGeneratedSmokeHotRank
    dsimp only
    rw [show ngGeneratedSmokeHotSlots = 32768 from rfl, show ngGeneratedSmokeHotTop = 5 from rfl,
      hotTops_eq, List.getD_eq_getElem?_getD, List.getElem?_take]
    generalize hranked : ranked (fun i => (d.hotCount i).toNat) d.hotSlots = slots at hcount ⊢
    by_cases h5 : rank < 5
    · rw [if_pos h5]
      by_cases hr : rank < slots.length
      · rw [List.getElem?_append_left (by simpa using hr), List.getElem?_map,
          List.getElem?_eq_getElem hr, if_pos ⟨h5, by simpa using hr⟩,
          List.getD_eq_getElem?_getD, List.getElem?_map, List.getElem?_eq_getElem hr]
        show (d.hotAddr _, d.hotCount _) = (d.hotAddr _, BitVec.ofNat 64 (ds.count (d.hotAddr _)))
        rw [← hcount (List.getElem_mem hr), BitVec.ofNat_toNat, BitVec.setWidth_eq]
      · rw [if_neg (by simp [hr]), List.getElem?_append_right (by simpa using hr),
          List.getElem?_replicate]
        split_ifs <;> rfl
    · rw [if_neg h5, if_neg fun hr => h5 hr.1]
      rfl

theorem hot_rank_sorted_silent : ∃ d, HarnessRun silentPrograms [0x000122, 0x000122] d () ∧
    d.ngGeneratedSmokeHotRank 0 = (0x000122, 2) := by
  obtain ⟨d, hrun⟩ := silent_run
  obtain ⟨addrs, hperm, -, hrank⟩ := hot_rank_sorted hrun (by decide)
  have haddrs : addrs = [0x000122] := List.perm_singleton.mp hperm
  subst haddrs
  exact ⟨d, hrun, hrank 0⟩

end NeoRecomp
