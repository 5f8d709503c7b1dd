import NeoRecomp.Correct.RecordRuns

/-!
# What a scan for records adds

The scan adds the callbacks of the clusters of a region, but for one slip: the guard of the loop lets
a record through that ends behind the last address, where the sum of its address and width is 0.
-/

namespace NeoRecomp

open Runs

/-! ## The last record -/

section Last
variable {rom : NgProgramRom} {record : NgGameConfigRecordFormat} {strict : Bool}
variable {start stop : BitVec 32} {elsewhere : BitVec 32 → Prop}

/-- Two ways to end a list of clusters find the same where neither end adds to the other. -/
theorem ends_agree_iff {α : Type*} {found before last : α → Prop} {short long : Prop} :
    (∀ t, found t ∨ long ∧ (before t ∨ last t) ↔ found t ∨ short ∧ before t) ↔
      (long → ∀ t, last t → found t ∨ short ∧ before t) ∧
        (¬ (short ↔ long) → ∀ t, before t → found t) := by
  constructor
  · intro h
    refine ⟨fun hlong t ht => (h t).mp (.inr ⟨hlong, .inr ht⟩), fun hne t ht => ?_⟩
    by_cases hlong : long
    · have hshort : ¬ short := fun hs => hne (iff_of_true hs hlong)
      exact ((h t).mp (.inr ⟨hlong, .inl ht⟩)).resolve_right fun hb => hshort hb.1
    · have hshort : short := by
        by_contra hs
        exact hne (iff_of_false hs hlong)
      exact ((h t).mpr (.inr ⟨hshort, ht⟩)).resolve_right fun hb => hlong hb.1
  · rintro ⟨hlast, hbefore⟩ t
    constructor
    · rintro (hfound | ⟨hlong, ht | ht⟩)
      · exact .inl hfound
      · by_cases hshort : short
        · exact .inr ⟨hshort, ht⟩
        · exact .inl (hbefore (fun h => hshort (h.mpr hlong)) t ht)
      · exact hlast hlong t ht
    · rintro (hfound | ⟨hshort, ht⟩)
      · exact .inl hfound
      · by_cases hlong : long
        · exact .inr ⟨hlong, .inl ht⟩
        · exact .inl (hbefore (fun h => hlong (h.mp hshort)) t ht)

/-- With a last record that holds a callback, the cluster at the end is one record longer. -/
theorem clusterTarget_concat_iff {addrs : List (BitVec 32)} {last t : BitVec 32}
    (hvalid : recordFormatEntryHasValidTarget rom record last strict = true) :
    ClusterTarget rom record strict (addrs ++ [last]) t ↔
      ClusterTarget rom record strict
        (addrs.rdropWhile (recordFormatEntryHasValidTarget rom record · strict)) t ∨
      ClusterLength record
        ((addrs.rtakeWhile (recordFormatEntryHasValidTarget rom record · strict)).length + 1) ∧
        ((∃ a ∈ addrs.rtakeWhile (recordFormatEntryHasValidTarget rom record · strict),
          t ∈ recordFormatEntryTargets rom record a strict) ∨
        t ∈ recordFormatEntryTargets rom record last strict) := by
  rw [clusterTarget_iff_last,
    List.rdropWhile_concat_pos (recordFormatEntryHasValidTarget rom record · strict) addrs last
      hvalid,
    List.rtakeWhile_concat_pos (recordFormatEntryHasValidTarget rom record · strict) addrs last
      hvalid, List.length_append, List.length_singleton]
  simp only [List.mem_append, List.mem_singleton, or_and_right, exists_or, exists_eq_left]

/-- The region adds the callbacks of the clusters of its records just where the last record does
no harm. -/
theorem visited_iff_lastHarmless :
    (∀ t, ClusterTarget rom record strict (visitedRecords record start stop) t ∨ elsewhere t ↔
      ClusterTarget rom record strict (recordAddrs record start stop) t ∨ elsewhere t) ↔
      LastHarmless rom record strict start stop elsewhere := by
  rcases @visitedRecords_cases record stop start with ⟨hvisited, hnone⟩ | ⟨last, hlast, hvisited⟩
  · rw [hvisited]
    exact iff_of_true (fun t => Iff.rfl) fun last hlast => absurd hlast (hnone last)
  · have hunique : ∀ last', EndsAddressSpace record start stop last' → last' = last := by
      intro last' hlast'
      have hends := hlast.ends
      have hends' := hlast'.ends
      exact BitVec.eq_of_toNat_eq (by omega)
    rw [hvisited]
    cases hvalid : recordFormatEntryHasValidTarget rom record last strict with
    | false =>
      simp only [clusterTarget_append_cons hvalid, or_iff_left not_clusterTarget_nil]
      refine iff_of_true (fun t => trivial) ?_
      intro last' hlast' hvalid'
      rw [hunique last' hlast', hvalid] at hvalid'
      cases hvalid'
    | true =>
      simp only [clusterTarget_concat_iff hvalid]
      have hharmless : LastHarmless rom record strict start stop elsewhere ↔ _ :=
        ⟨fun h => h last hlast hvalid, fun h last' hlast' _ => by
          rw [hunique last' hlast']
          exact h⟩
      rw [hharmless]
      refine Iff.trans (forall_congr' fun t => ?_) ends_agree_iff
      rw [@clusterTarget_iff_last _ _ _ (recordAddrs record start stop), or_right_comm,
        or_right_comm (c := elsewhere t)]

theorem visited_eq (hnone : ∀ a, ¬ EndsAddressSpace record start stop a) :
    visitedRecords record start stop = recordAddrs record start stop := by
  rcases @visitedRecords_cases record stop start with ⟨hvisited, -⟩ | ⟨last, hlast, -⟩
  · exact hvisited
  · exact absurd hlast (hnone last)

end Last

/-! ## The phases -/

section Phases
variable {rom : NgProgramRom} {record : NgGameConfigRecordFormat} {start stop : BitVec 32}

theorem phaseStep_cases (stride : BitVec 32) :
    recordFormatAutoPhaseStep record start stride = 1 ∨
      recordFormatAutoPhaseStep record start stride = 2 ∧ stride.toNat % 2 = 0 := by
  unfold recordFormatAutoPhaseStep
  by_cases hodd : stride &&& 1 ≠ 0 ∨ start &&& 1 ≠ 0
  · rw [if_pos hodd]
    exact .inl rfl
  · rw [if_neg hodd]
    rw [not_or, not_not] at hodd
    split_ifs
    · exact .inl rfl
    · exact .inl rfl
    · exact .inr ⟨rfl, even_iff.mp hodd.1⟩

/-- The loop of `add_record_format_auto_region_targets` goes over the phases. -/
theorem autoRegionPhases_eq (clustered : NgGameConfigRecordFormat) {stride step : BitVec 32}
    (hstep : step = 1 ∨ step = 2 ∧ stride.toNat % 2 = 0) (turns : Nat) (phase : BitVec 32)
    (hturns : stop.toNat ≤ start.toNat + phase.toNat + turns) :
    autoRegionPhases rom clustered start stop stride step turns phase =
      (((List.range' (start.toNat + phase.toNat) turns step.toNat).filter
        fun s => s < start.toNat + stride.toNat ∧ s < stop.toNat).map (BitVec.ofNat 32)).flatMap
          fun s => addRecordFormatRegionTargets rom clustered s stop true := by
  induction turns generalizing phase with
  | zero => rfl
  | succ turns ih =>
    have hstop := stop.isLt
    have hstride := stride.isLt
    rw [autoRegionPhases, List.range'_succ]
    have hguard : (¬ phase < stride ∨ wrapsOver start phase = true ∨ start + phase ≥ stop) ↔
        ¬ (start.toNat + phase.toNat < start.toNat + stride.toNat ∧
          start.toNat + phase.toNat < stop.toNat) := by
      rw [BitVec.lt_def, ge_iff_le, BitVec.le_def, BitVec.toNat_add, ← Bool.not_eq_false,
        wrapsOver_eq_false]
      omega
    by_cases hbreak : ¬ phase < stride ∨ wrapsOver start phase = true ∨ start + phase ≥ stop
    · rw [if_pos hbreak]
      have hnil : ((start.toNat + phase.toNat) ::
          List.range' (start.toNat + phase.toNat + step.toNat) turns step.toNat).filter
            (fun s => s < start.toNat + stride.toNat ∧ s < stop.toNat) = [] := by
        rw [← List.range'_succ, List.filter_eq_nil_iff]
        intro s hs
        obtain ⟨i, -, rfl⟩ := List.mem_range'.mp hs
        have hout := hguard.mp hbreak
        rw [decide_eq_true_eq]
        have hpos : 0 ≤ step.toNat * i := Nat.zero_le _
        omega
      rw [hnil]
      rfl
    · rw [if_neg hbreak]
      have hin := not_not.mp fun h => hbreak (hguard.mpr h)
      have hnext : (phase + step).toNat = phase.toNat + step.toNat := by
        rcases hstep with rfl | ⟨rfl, heven⟩
        · rw [BitVec.toNat_add, show (1 : BitVec 32).toNat = 1 from rfl]
          omega
        · rw [BitVec.toNat_add, show (2 : BitVec 32).toNat = 2 from rfl]
          omega
      have hstart : BitVec.ofNat 32 (start.toNat + phase.toNat) = start + phase :=
        BitVec.eq_of_toNat_eq (by rw [BitVec.toNat_ofNat, BitVec.toNat_add])
      have hpos : 1 ≤ step.toNat := by
        rcases hstep with rfl | ⟨rfl, -⟩ <;> decide
      rw [List.filter_cons_of_pos (by exact decide_eq_true hin), List.map_cons, List.flatMap_cons,
        hstart, ih (phase + step) (by rw [hnext]; omega), hnext, Nat.add_assoc]

theorem mem_addRecordFormatAutoRegionTargets (hmin : 2 ≤ record.clusterMinEntries.toNat)
    {call : DiscoveryCall} :
    call ∈ addRecordFormatAutoRegionTargets rom record start stop ↔
      ∃ s ∈ phaseStarts record start stop,
        call ∈ addRecordFormatRegionTargets rom record s stop true := by
  have hclustered : ¬ record.clusterMinEntries ≤ 1 := by
    rw [BitVec.le_def, show (1 : BitVec 32).toNat = 1 from rfl]
    omega
  unfold addRecordFormatAutoRegionTargets
  dsimp only
  by_cases hskip : record.callbackOffsets = [] ∨ stop ≤ start ∨ recordStride record = 0
  · rw [if_pos hskip]
    refine iff_of_false List.not_mem_nil ?_
    rintro ⟨s, hs, hcall⟩
    rcases hskip with hoffsets | hempty | hstride
    · unfold addRecordFormatRegionTargets at hcall
      rw [if_pos (.inl hoffsets)] at hcall
      cases hcall
    · unfold phaseStarts at hs
      rw [Nat.sub_eq_zero_of_le hempty] at hs
      cases hs
    · unfold addRecordFormatRegionTargets at hcall
      rw [if_pos (.inr (.inr hstride))] at hcall
      cases hcall
  · rw [if_neg hskip, if_neg hclustered,
      autoRegionPhases_eq record (phaseStep_cases _) _ _ (by
        rw [show (0 : BitVec 32).toNat = 0 from rfl]
        omega), List.mem_flatMap]
    exact Iff.rfl

/-- The last record lies in the grid of one phase only. -/
theorem phase_unique {s s' a a' : BitVec 32} (hs : s ∈ phaseStarts record start stop)
    (hs' : s' ∈ phaseStarts record start stop) (h : EndsAddressSpace record s stop a)
    (h' : EndsAddressSpace record s' stop a') : s = s' := by
  have hrange : ∀ b ∈ phaseStarts record start stop, start.toNat ≤ b.toNat ∧
      b.toNat < start.toNat + (recordStride record).toNat := by
    intro b hb
    unfold phaseStarts at hb
    obtain ⟨n, hn, rfl⟩ := List.mem_map.mp hb
    obtain ⟨hn, hin⟩ := List.mem_filter.mp hn
    obtain ⟨i, -, rfl⟩ := List.mem_range'.mp hn
    rw [decide_eq_true_eq] at hin
    have hlt := stop.isLt
    rw [BitVec.toNat_ofNat, Nat.mod_eq_of_lt (Nat.lt_trans hin.2 hlt)]
    exact ⟨Nat.le_add_right .., hin.1⟩
  have hends := h.ends
  have hends' := h'.ends
  obtain rfl : a = a' := BitVec.eq_of_toNat_eq (by omega)
  have hb := hrange s hs
  have hb' := hrange s' hs'
  have hfrom := h.from_start
  have hfrom' := h'.from_start
  -- the difference of the two starts is a multiple of the stride below it
  apply BitVec.eq_of_toNat_eq
  rcases Nat.le_total s.toNat s'.toNat with hle | hle
  · have hdvd := Nat.dvd_sub h.on_grid h'.on_grid
    have hzero := Nat.eq_zero_of_dvd_of_lt hdvd (by omega)
    omega
  · have hdvd := Nat.dvd_sub h'.on_grid h.on_grid
    have hzero := Nat.eq_zero_of_dvd_of_lt hdvd (by omega)
    omega

/-- The phases together add the callbacks of their clusters just where the last record does no
harm to the phase it is in. -/
theorem phases_iff_lastHarmless :
    (∀ t, (∃ s ∈ phaseStarts record start stop,
        ClusterTarget rom record true (visitedRecords record s stop) t) ↔
      PhaseTarget rom record start stop t) ↔
      ∀ s ∈ phaseStarts record start stop,
        LastHarmless rom record true s stop (OtherPhaseTarget rom record start stop s) := by
  unfold PhaseTarget
  by_cases hex : ∃ s ∈ phaseStarts record start stop, ∃ a, EndsAddressSpace record s stop a
  · obtain ⟨s, hs, a, ha⟩ := hex
    have hvisited : ∀ s' ∈ phaseStarts record start stop, s' ≠ s →
        visitedRecords record s' stop = recordAddrs record s' stop := fun s' hs' hne =>
      visited_eq fun a' ha' => hne (phase_unique hs' hs ha' ha)
    have hsplit : ∀ (addrs : BitVec 32 → List (BitVec 32)) (t : BitVec 32),
        (∀ s' ∈ phaseStarts record start stop, s' ≠ s → addrs s' = recordAddrs record s' stop) →
        ((∃ s' ∈ phaseStarts record start stop, ClusterTarget rom record true (addrs s') t) ↔
          ClusterTarget rom record true (addrs s) t ∨ OtherPhaseTarget rom record start stop s t) := by
      intro addrs t haddrs
      constructor
      · rintro ⟨s', hs', ht⟩
        by_cases hne : s' = s
        · subst hne
          exact .inl ht
        · rw [haddrs s' hs' hne] at ht
          exact .inr ⟨s', hs', hne, ht⟩
      · rintro (ht | ⟨s', hs', hne, ht⟩)
        · exact ⟨s, hs, ht⟩
        · exact ⟨s', hs', by rwa [haddrs s' hs' hne]⟩
    have hthis := @visited_iff_lastHarmless rom record true s stop
      (OtherPhaseTarget rom record start stop s)
    refine Iff.trans (forall_congr' fun t => ?_) (hthis.trans ?_)
    · rw [hsplit (visitedRecords record · stop) t hvisited,
        hsplit (recordAddrs record · stop) t fun _ _ _ => rfl]
    · constructor
      · intro h s' hs' last hlast
        obtain rfl := phase_unique hs' hs hlast ha
        exact h last hlast
      · intro h
        exact h s hs
  · have hnone : ∀ s ∈ phaseStarts record start stop, ∀ a, ¬ EndsAddressSpace record s stop a :=
      fun s hs a ha => hex ⟨s, hs, a, ha⟩
    refine iff_of_true (fun t => exists_congr fun s => and_congr_right fun hs => ?_) ?_
    · rw [visited_eq (hnone s hs)]
    · intro s hs last hlast
      exact absurd hlast (hnone s hs last)

end Phases

/-! ## What a scan adds -/

section Scan
variable (rom : NgProgramRom) (record : NgGameConfigRecordFormat) (start stop : BitVec 32)

/-- The calls add the callbacks in `targets`, and nothing else. -/
def AddsExactly (calls : List DiscoveryCall) (targets : BitVec 32 → Prop) : Prop :=
  ∀ call, call ∈ calls ↔ ∃ t, targets t ∧ call = .add rom t

variable {rom record start stop} in
theorem addsExactly_iff {calls : List DiscoveryCall} {found targets : BitVec 32 → Prop}
    (h : AddsExactly rom calls found) : AddsExactly rom calls targets ↔ ∀ t, found t ↔ targets t := by
  constructor
  · intro h' t
    have hfound : (∃ t', found t' ∧ DiscoveryCall.add rom t = .add rom t') ↔ found t :=
      ⟨fun ⟨t', ht, heq⟩ => by cases heq; exact ht, fun ht => ⟨t, ht, rfl⟩⟩
    have htargets : (∃ t', targets t' ∧ DiscoveryCall.add rom t = .add rom t') ↔ targets t :=
      ⟨fun ⟨t', ht, heq⟩ => by cases heq; exact ht, fun ht => ⟨t, ht, rfl⟩⟩
    rw [← hfound, ← htargets, ← h, ← h']
  · intro heq call
    rw [h call]
    exact exists_congr fun t => and_congr_left fun _ => heq t

variable {rom record start stop} in
/-- Where the record does not run full, it gains the rows of the callbacks. -/
theorem AddsExactly.mem_keys {calls : List DiscoveryCall} {targets : BitVec 32 → Prop}
    (h : AddsExactly rom calls targets)
    (hprobable : ∀ t, targets t → isProbableFunctionTarget rom t = true)
    {d : NgFunctionDiscovery} (ht : (d.run calls).truncated = false)
    (key : BitVec 32 × BitVec 32) :
    key ∈ (d.run calls).keys ↔
      key ∈ d.keys ∨ ∃ t, targets t ∧ key = (t, discoveryBankForAddr rom t) := by
  rw [mem_keys_run ht]
  refine or_congr_right ?_
  constructor
  · rintro ⟨call, hcall, r, hr, -, rfl⟩
    obtain ⟨t, htarget, rfl⟩ := (h call).mp hcall
    cases hr
    exact ⟨t, htarget, rfl⟩
  · rintro ⟨t, htarget, rfl⟩
    exact ⟨.add rom t, (h _).mpr ⟨t, htarget, rfl⟩, _, rfl, hprobable t htarget, rfl⟩

variable {rom record start stop} in
theorem probable_of_clusterTarget {strict : Bool} {addrs : List (BitVec 32)} {t : BitVec 32}
    (h : ClusterTarget rom record strict addrs t) : isProbableFunctionTarget rom t = true := by
  obtain ⟨run, -, -, a, -, ht⟩ := h
  unfold recordFormatEntryTargets at ht
  split_ifs at ht
  · cases ht
  · obtain ⟨offset, -, htarget⟩ := List.mem_filterMap.mp ht
    dsimp only at htarget
    split_ifs at htarget with h1 h2 h3
    cases htarget
    unfold recordFormatTargetAllowed at h3
    cases strict with
    | true =>
      have hheuristic := (Bool.and_eq_true_iff.mp h3).2
      exact (Bool.and_eq_true_iff.mp hheuristic).1
    | false => exact (Bool.and_eq_true_iff.mp h3).2

variable {rom record start stop} in
theorem region_addsExactly {strict : Bool} (hmin : 2 ≤ record.clusterMinEntries.toNat) :
    AddsExactly rom (addRecordFormatRegionTargets rom record start stop strict)
        (ClusterTarget rom record strict (recordAddrs record start stop)) ↔
      LastHarmless rom record strict start stop fun _ => False := by
  have hcalls : AddsExactly rom (addRecordFormatRegionTargets rom record start stop strict) _ :=
    fun call => mem_addRecordFormatRegionTargets hmin
  have hvisited := @visited_iff_lastHarmless rom record strict start stop fun _ => False
  simp only [or_false] at hvisited
  rw [addsExactly_iff hcalls]
  exact hvisited

variable {rom record start stop} in
theorem autoRegion_addsExactly (hmin : 2 ≤ record.clusterMinEntries.toNat) :
    AddsExactly rom (addRecordFormatAutoRegionTargets rom record start stop)
        (PhaseTarget rom record start stop) ↔
      ∀ s ∈ phaseStarts record start stop,
        LastHarmless rom record true s stop (OtherPhaseTarget rom record start stop s) := by
  have hcalls : AddsExactly rom (addRecordFormatAutoRegionTargets rom record start stop) fun t =>
      ∃ s ∈ phaseStarts record start stop,
        ClusterTarget rom record true (visitedRecords record s stop) t := by
    intro call
    rw [mem_addRecordFormatAutoRegionTargets hmin]
    simp only [mem_addRecordFormatRegionTargets hmin]
    constructor
    · rintro ⟨s, hs, t, ht, rfl⟩
      exact ⟨t, ⟨s, hs, ht⟩, rfl⟩
    · rintro ⟨t, ⟨s, hs, ht⟩, rfl⟩
      exact ⟨s, hs, t, ht, rfl⟩
  rw [addsExactly_iff hcalls]
  exact phases_iff_lastHarmless

/-- A scan adds the callbacks of the clusters of the region, and nothing else, just where the record
that ends behind the last address does no harm; then the rows are these, as long as there is room. -/
theorem record_clusters_exact (hmin : 2 ≤ record.clusterMinEntries.toNat) :
    (∀ strict,
      AddsExactly rom (addRecordFormatRegionTargets rom record start stop strict)
          (ClusterTarget rom record strict (recordAddrs record start stop)) ↔
        LastHarmless rom record strict start stop fun _ => False) ∧
    (AddsExactly rom (addRecordFormatAutoRegionTargets rom record start stop)
        (PhaseTarget rom record start stop) ↔
      ∀ s ∈ phaseStarts record start stop,
        LastHarmless rom record true s stop (OtherPhaseTarget rom record start stop s)) ∧
    (∀ (strict : Bool) (d : NgFunctionDiscovery),
      (LastHarmless rom record strict start stop fun _ => False) →
      (d.run (addRecordFormatRegionTargets rom record start stop strict)).truncated = false →
      ∀ key, key ∈ (d.run (addRecordFormatRegionTargets rom record start stop strict)).keys ↔
        key ∈ d.keys ∨ ∃ t, ClusterTarget rom record strict (recordAddrs record start stop) t ∧
          key = (t, discoveryBankForAddr rom t)) ∧
    (∀ d : NgFunctionDiscovery, (∀ s ∈ phaseStarts record start stop,
        LastHarmless rom record true s stop (OtherPhaseTarget rom record start stop s)) →
      (d.run (addRecordFormatAutoRegionTargets rom record start stop)).truncated = false →
      ∀ key, key ∈ (d.run (addRecordFormatAutoRegionTargets rom record start stop)).keys ↔
        key ∈ d.keys ∨ ∃ t, PhaseTarget rom record start stop t ∧
          key = (t, discoveryBankForAddr rom t)) := by
  refine ⟨fun strict => region_addsExactly hmin, autoRegion_addsExactly hmin, ?_, ?_⟩
  · intro strict d hharmless ht
    exact ((region_addsExactly hmin).mpr hharmless).mem_keys
      (fun t htarget => probable_of_clusterTarget htarget) ht
  · intro d hharmless ht
    refine ((autoRegion_addsExactly hmin).mpr hharmless).mem_keys (fun t htarget => ?_) ht
    obtain ⟨s, -, hcluster⟩ := htarget
    exact probable_of_clusterTarget hcluster

end Scan

/-! ## Records at the end of the address space -/

/-- Sixteen bytes at the end of the address space: two RTS, and three pointers to the first. -/
def highRom : NgProgramRom where
  data := #[0x4E, 0x75, 0x4E, 0x75, 0xFF, 0xFF, 0xFF, 0xF0, 0xFF, 0xFF, 0xFF, 0xF0,
    0xFF, 0xFF, 0xFF, 0xF0]
  size := 16
  size_eq := rfl
  fixedBase := 0xFFFFFFF0
  fixedSize := 0x10
  addressMapEnabled := true

/-- Records that are a pointer each. -/
def pointerRecord (clusterMinEntries : BitVec 32) : NgGameConfigRecordFormat :=
  { width := 4, callbackOffsets := [0], clusterMinEntries }

/-- Below the last word the scan finds the cluster of two. -/
theorem record_clusters_two :
    ∃ t, ClusterTarget highRom (pointerRecord 2) false
      (recordAddrs (pointerRecord 2) 0xFFFFFFF4 0xFFFFFFFC) t ∧
        (0xFFFFFFF0, ngFunctionDiscoveryBankNone) = (t, discoveryBankForAddr highRom t) := by
  have hrows := (record_clusters_exact highRom (pointerRecord 2) 0xFFFFFFF4 0xFFFFFFFC
    (by decide)).2.2.1 false ngFunctionDiscoveryInit (by
      intro last h
      have hends := h.ends
      have hbelow : last.toNat < 0xFFFFFFFC := h.below
      have hwidth : (pointerRecord 2).width.toNat = 4 := rfl
      omega) (by decide +kernel)
  have hkey : (0xFFFFFFF0, ngFunctionDiscoveryBankNone) ∈ (ngFunctionDiscoveryInit.run
      (addRecordFormatRegionTargets highRom (pointerRecord 2) 0xFFFFFFF4 0xFFFFFFFC false)).keys := by
    decide +kernel
  exact ((hrows _).mp hkey).resolve_left List.not_mem_nil

/-- In a region up to `0xFFFFFFFF` the third pointer is counted, although its last byte lies
outside. -/
theorem third_pointer_counted :
    ¬ ∀ (rom : NgProgramRom) (record : NgGameConfigRecordFormat) (start stop : BitVec 32)
      (strict : Bool), 2 ≤ record.clusterMinEntries.toNat →
        AddsExactly rom (addRecordFormatRegionTargets rom record start stop strict)
          (ClusterTarget rom record strict (recordAddrs record start stop)) := by
  intro h
  have hexact := h highRom (pointerRecord 3) 0xFFFFFFF4 0xFFFFFFFF false (by decide)
  have hlength : (addRecordFormatRegionTargets highRom (pointerRecord 3) 0xFFFFFFF4 0xFFFFFFFF
      false).length = 3 := by
    decide +kernel
  have haddrs : recordAddrs (pointerRecord 3) 0xFFFFFFF4 0xFFFFFFFF =
      [0xFFFFFFF4, 0xFFFFFFF8] := by
    decide +kernel
  have hpos : 0 < (addRecordFormatRegionTargets highRom (pointerRecord 3) 0xFFFFFFF4 0xFFFFFFFF
      false).length := by
    rw [hlength]
    exact Nat.succ_pos 2
  obtain ⟨call, hcall⟩ := List.exists_mem_of_length_pos hpos
  obtain ⟨t, ⟨run, hrun, ⟨hthree, -⟩, -⟩, -⟩ := (hexact call).mp hcall
  obtain ⟨before, after, heq, -, -⟩ := hrun.maximal
  have htwo := congrArg List.length (haddrs.symm.trans heq)
  simp only [List.length_append, List.length_cons, List.length_nil] at htwo
  have hmin : (pointerRecord 3).clusterMinEntries.toNat = 3 := rfl
  omega

end NeoRecomp
