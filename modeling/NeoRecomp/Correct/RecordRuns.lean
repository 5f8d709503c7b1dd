import Mathlib.Data.List.Chain
import NeoRecomp.Correct.Discovered
import NeoRecomp.Lib.Runs

/-!
# Runs of records

A record format with a cluster size takes callbacks only from runs of records in a row that all hold
one.  The loop measures a run while it reads it and settles it at the first record that holds none,
or at the end of the region.
-/

namespace NeoRecomp

open Runs

/-! ## What a region holds -/

section Spec
variable (rom : NgProgramRom) (record : NgGameConfigRecordFormat) (strict : Bool)
variable (start stop : BitVec 32)

/-- A record at the address `a` lies below `stop`. -/
def RecordFits (a : Nat) : Prop := a < stop.toNat ∧ a + record.width.toNat ≤ stop.toNat

instance (a : Nat) : Decidable (RecordFits record stop a) := inferInstanceAs (Decidable (_ ∧ _))

/-- The records of the region from `start` to `stop`. -/
def recordAddrs : List (BitVec 32) :=
  if recordStride record = 0 then []
  else
    ((List.range' start.toNat (stop.toNat - start.toNat) (recordStride record).toNat).filter
      (RecordFits record stop ·)).map (BitVec.ofNat 32)

/-- The lengths of a run that make it a cluster. -/
def ClusterLength (n : Nat) : Prop :=
  record.clusterMinEntries.toNat ≤ n ∧
    (record.clusterMaxEntries = 0 ∨ n ≤ record.clusterMaxEntries.toNat)

/-- A callback of a record in a cluster. -/
def ClusterTarget (addrs : List (BitVec 32)) (target : BitVec 32) : Prop :=
  ∃ run, IsMaximalRun (recordFormatEntryHasValidTarget rom record · strict) addrs run ∧
    ClusterLength record run.length ∧
    ∃ a ∈ run, target ∈ recordFormatEntryTargets rom record a strict

/-- Where the phases of an automatic scan start. -/
def phaseStarts : List (BitVec 32) :=
  ((List.range' start.toNat (stop.toNat - start.toNat)
    (recordFormatAutoPhaseStep record start (recordStride record)).toNat).filter
      fun s => s < start.toNat + (recordStride record).toNat ∧ s < stop.toNat).map (BitVec.ofNat 32)

/-- A callback of a cluster of one of the phases. -/
def PhaseTarget (target : BitVec 32) : Prop :=
  ∃ s ∈ phaseStarts record start stop,
    ClusterTarget rom record true (recordAddrs record s stop) target

/-- The loop reaches the address `a` and takes a record there that ends behind the last address,
where the sum of address and width is 0. -/
structure EndsAddressSpace (a : BitVec 32) : Prop where
  stride_ne : recordStride record ≠ 0
  ends : a.toNat + record.width.toNat = 2 ^ 32
  below : a < stop
  from_start : start.toNat ≤ a.toNat
  on_grid : (recordStride record).toNat ∣ a.toNat - start.toNat
  /-- The record before it fits. -/
  reached : a = start ∨ 2 ^ 32 ≤ stop.toNat + (recordStride record).toNat

/-- Taking the record that ends behind the last address with the records `before` it neither adds
nor drops a callback: what it does to their cluster is made up for by the clusters further up, or
`elsewhere`. -/
def LastHarmless (elsewhere : BitVec 32 → Prop) : Prop :=
  ∀ last, EndsAddressSpace record start stop last →
    recordFormatEntryHasValidTarget rom record last strict = true →
    let before := (recordAddrs record start stop).rtakeWhile
      (recordFormatEntryHasValidTarget rom record · strict)
    let front := (recordAddrs record start stop).rdropWhile
      (recordFormatEntryHasValidTarget rom record · strict)
    let found (t : BitVec 32) : Prop := ClusterTarget rom record strict front t ∨ elsewhere t
    (ClusterLength record (before.length + 1) →
      ∀ t ∈ recordFormatEntryTargets rom record last strict, found t ∨
        ClusterLength record before.length ∧
          ∃ a ∈ before, t ∈ recordFormatEntryTargets rom record a strict) ∧
    (¬ (ClusterLength record before.length ↔ ClusterLength record (before.length + 1)) →
      ∀ t, (∃ a ∈ before, t ∈ recordFormatEntryTargets rom record a strict) → found t)

/-- The callbacks of the clusters of the other phases. -/
def OtherPhaseTarget (s target : BitVec 32) : Prop :=
  ∃ s' ∈ phaseStarts record start stop, s' ≠ s ∧
    ClusterTarget rom record true (recordAddrs record s' stop) target

end Spec

/-! ## The records the loop visits -/

section Walk
variable {record : NgGameConfigRecordFormat} {start stop addr : BitVec 32}

/-- The addresses the loop of `add_record_format_region_targets` takes a record at. -/
def recordWalk (record : NgGameConfigRecordFormat) (stop : BitVec 32) :
    Nat → BitVec 32 → List (BitVec 32)
  | 0, _ => []
  | turns + 1, addr =>
      if ¬ addr < stop ∨
          (record.width ≠ 0 ∧ (wrapsOver addr (record.width - 1) ∨ addr + record.width > stop)) then
        []
      else
        addr :: if wrapsOver addr (recordStride record) then []
          else recordWalk record stop turns (addr + recordStride record)

/-- What the guard of the loop lets through: a record that fits, or one that ends at `2 ^ 32`. -/
theorem recordGuard_iff :
    ¬ (¬ addr < stop ∨
      (record.width ≠ 0 ∧ (wrapsOver addr (record.width - 1) ∨ addr + record.width > stop))) ↔
      RecordFits record stop addr.toNat ∨
        addr < stop ∧ addr.toNat + record.width.toNat = 2 ^ 32 := by
  have ha := addr.isLt
  have hw := record.width.isLt
  have he := stop.isLt
  unfold RecordFits
  rw [not_or, not_not, BitVec.lt_def]
  by_cases hzero : record.width = 0
  · rw [hzero, show (0 : BitVec 32).toNat = 0 from rfl]
    simp only [ne_eq, not_true_eq_false, false_and, not_false_eq_true, and_true]
    omega
  · have hpos : 0 < record.width.toNat :=
      Nat.pos_of_ne_zero fun h => hzero (BitVec.eq_of_toNat_eq h)
    have hpred : (record.width - 1).toNat = record.width.toNat - 1 := by
      rw [BitVec.toNat_sub, show (1 : BitVec 32).toNat = 1 from rfl]
      omega
    have hsum : (addr + record.width).toNat = (addr.toNat + record.width.toNat) % 2 ^ 32 :=
      BitVec.toNat_add ..
    rw [and_iff_right hzero, not_or, Bool.not_eq_true, wrapsOver_eq_false, hpred, gt_iff_lt,
      BitVec.lt_def, hsum]
    omega

theorem recordStride_pos (h : recordStride record ≠ 0) : 0 < (recordStride record).toNat :=
  Nat.pos_of_ne_zero fun hz => h (BitVec.eq_of_toNat_eq hz)

theorem RecordFits.mono {a b : Nat} (h : RecordFits record stop b) (hab : a ≤ b) :
    RecordFits record stop a := by
  unfold RecordFits at h ⊢
  omega

/-- The records from an address on are none once one does not fit. -/
theorem filter_fits_eq_nil {a n s : Nat} (h : ¬ RecordFits record stop a) :
    (List.range' a n s).filter (RecordFits record stop ·) = [] := by
  rw [List.filter_eq_nil_iff]
  intro b hb
  obtain ⟨i, -, rfl⟩ := List.mem_range'.mp hb
  rw [decide_eq_true_eq]
  exact fun hfits => h (hfits.mono (Nat.le_add_right ..))

theorem EndsAddressSpace.stride_le {a : BitVec 32} (h : EndsAddressSpace record start stop a)
    (hstart : RecordFits record stop start.toNat) :
    start.toNat + (recordStride record).toNat ≤ a.toNat := by
  have hends := h.ends
  have hfrom := h.from_start
  have hlt := stop.isLt
  unfold RecordFits at hstart
  have hle := Nat.le_of_dvd (by omega) h.on_grid
  omega

/-- Behind a record that fits, the loop reaches the same last record from the next address. -/
theorem endsAddressSpace_next {a : BitVec 32} (hfits : RecordFits record stop addr.toNat)
    (hnext : addr.toNat + (recordStride record).toNat < 2 ^ 32) :
    EndsAddressSpace record (addr + recordStride record) stop a ↔
      EndsAddressSpace record addr stop a := by
  have hsum : (addr + recordStride record).toNat = addr.toNat + (recordStride record).toNat := by
    rw [BitVec.toNat_add, Nat.mod_eq_of_lt hnext]
  constructor
  · intro h
    have hfrom := h.from_start
    have hgrid := h.on_grid
    rw [hsum] at hfrom hgrid
    refine ⟨h.stride_ne, h.ends, h.below, by omega, ?_, .inr ?_⟩
    · have heq : a.toNat - addr.toNat =
          a.toNat - (addr.toNat + (recordStride record).toNat) + (recordStride record).toNat := by
        omega
      rw [heq]
      exact Nat.dvd_add hgrid (Nat.dvd_refl _)
    · rcases h.reached with hreached | hreached
      · have hends := h.ends
        rw [hreached, hsum] at hends
        unfold RecordFits at hfits
        omega
      · exact hreached
  · intro h
    have hle := h.stride_le hfits
    refine ⟨h.stride_ne, h.ends, h.below, by omega, ?_, ?_⟩
    · rw [hsum, ← Nat.sub_sub]
      exact Nat.dvd_sub h.on_grid (Nat.dvd_refl _)
    · rcases h.reached with hreached | hreached
      · have hpos := recordStride_pos h.stride_ne
        rw [hreached] at hle
        omega
      · exact .inr hreached

/-- No last record is reached past one that does not fit and does not end at `2 ^ 32` itself. -/
theorem EndsAddressSpace.eq_of_not_fits {a : BitVec 32} (h : EndsAddressSpace record addr stop a)
    (hfits : ¬ RecordFits record stop addr.toNat) : a = addr := by
  rcases h.reached with hreached | hreached
  · exact hreached
  · by_contra hne
    have hends := h.ends
    have hfrom := h.from_start
    have hbelow : a.toNat < stop.toNat := h.below
    have hlt : addr.toNat ≠ a.toNat := fun heq => hne (BitVec.eq_of_toNat_eq heq.symm)
    have hle := Nat.le_of_dvd (by omega) h.on_grid
    apply hfits
    unfold RecordFits
    omega

/-- The loop visits the records that fit, and maybe one more. -/
theorem recordWalk_cases (hstride : recordStride record ≠ 0) (turns : Nat) (addr : BitVec 32)
    (hturns : stop.toNat ≤ addr.toNat + turns) :
    let fitting := ((List.range' addr.toNat turns (recordStride record).toNat).filter
      (RecordFits record stop ·)).map (BitVec.ofNat 32)
    (recordWalk record stop turns addr = fitting ∧ ∀ a, ¬ EndsAddressSpace record addr stop a) ∨
      ∃ a, EndsAddressSpace record addr stop a ∧
        recordWalk record stop turns addr = fitting ++ [a] := by
  induction turns generalizing addr with
  | zero =>
    refine .inl ⟨rfl, fun a h => ?_⟩
    have hfrom := h.from_start
    have hbelow : a.toNat < stop.toNat := h.below
    omega
  | succ turns ih =>
    have hpos := recordStride_pos hstride
    dsimp only
    rw [recordWalk]
    by_cases hfits : RecordFits record stop addr.toNat
    · rw [if_neg (recordGuard_iff.mpr (.inl hfits)), List.range'_succ,
        List.filter_cons_of_pos (by exact decide_eq_true hfits), List.map_cons, BitVec.ofNat_toNat,
        BitVec.setWidth_eq]
      cases hw : wrapsOver addr (recordStride record) with
      | true =>
        -- the next record would start behind the last address
        have hover : ¬ addr.toNat + (recordStride record).toNat < 2 ^ 32 := by
          rw [← wrapsOver_eq_false, hw]
          exact Bool.noConfusion
        have hnone : ¬ RecordFits record stop (addr.toNat + (recordStride record).toNat) := by
          intro h
          have hlt := stop.isLt
          exact hover (Nat.lt_trans h.1 hlt)
        rw [if_pos rfl, filter_fits_eq_nil hnone]
        refine .inl ⟨rfl, fun a h => hover ?_⟩
        have hlt := a.isLt
        exact Nat.lt_of_le_of_lt (h.stride_le hfits) hlt
      | false =>
        have hnext := wrapsOver_eq_false.mp hw
        have hsum : (addr + recordStride record).toNat =
            addr.toNat + (recordStride record).toNat := by
          rw [BitVec.toNat_add, Nat.mod_eq_of_lt hnext]
        rw [if_neg Bool.false_ne_true]
        have hwalk := ih (addr + recordStride record) (by rw [hsum]; omega)
        dsimp only at hwalk
        rw [hsum] at hwalk
        simp only [endsAddressSpace_next hfits hnext] at hwalk
        rcases hwalk with ⟨heq, hno⟩ | ⟨a, ha, heq⟩
        · exact .inl ⟨by rw [heq], hno⟩
        · exact .inr ⟨a, ha, by rw [heq, List.cons_append]⟩
    · rw [filter_fits_eq_nil hfits]
      simp only [List.map_nil, List.nil_append]
      by_cases hlast : addr < stop ∧ addr.toNat + record.width.toNat = 2 ^ 32
      · right
        refine ⟨addr, ⟨hstride, hlast.2, hlast.1, Nat.le_refl _, ?_, .inl rfl⟩, ?_⟩
        · rw [Nat.sub_self]
          exact Nat.dvd_zero _
        · rw [if_neg (recordGuard_iff.mpr (.inr hlast))]
          cases hw : wrapsOver addr (recordStride record) with
          | true => rfl
          | false =>
            -- the record behind it would wrap around
            have hnext := wrapsOver_eq_false.mp hw
            have hstop : recordWalk record stop turns (addr + recordStride record) = [] := by
              cases turns with
              | zero => rfl
              | succ turns =>
                rw [recordWalk, if_pos]
                by_contra hguard
                rcases recordGuard_iff.mp hguard with h | ⟨-, h⟩
                · rw [BitVec.toNat_add, Nat.mod_eq_of_lt hnext] at h
                  exact hfits (h.mono (Nat.le_add_right ..))
                · rw [BitVec.toNat_add, Nat.mod_eq_of_lt hnext] at h
                  omega
            rw [if_neg Bool.false_ne_true, hstop]
      · left
        refine ⟨if_pos ?_, fun a h => hlast ?_⟩
        · by_contra hguard
          exact (recordGuard_iff.mp hguard).elim hfits hlast
        · obtain rfl := h.eq_of_not_fits hfits
          exact ⟨h.below, h.ends⟩

end Walk

/-! ## The clusters of a list of records -/

section Clusters
variable {rom : NgProgramRom} {record : NgGameConfigRecordFormat} {strict : Bool}
variable {addrs xs ys : List (BitVec 32)} {addr target : BitVec 32}

theorem not_clusterTarget_nil : ¬ ClusterTarget rom record strict [] target := by
  rintro ⟨run, hrun, -⟩
  exact not_isMaximalRun_nil hrun

/-- Records that all hold a callback are one run. -/
theorem clusterTarget_of_forall
    (h : ∀ a ∈ addrs, recordFormatEntryHasValidTarget rom record a strict = true) :
    ClusterTarget rom record strict addrs target ↔ ClusterLength record addrs.length ∧
      ∃ a ∈ addrs, target ∈ recordFormatEntryTargets rom record a strict := by
  constructor
  · rintro ⟨run, hrun, hcluster⟩
    obtain ⟨rfl, -⟩ := (isMaximalRun_of_forall h).mp hrun
    exact hcluster
  · rintro ⟨hlen, a, ha, ht⟩
    have hrun := (isMaximalRun_of_forall h).mpr ⟨rfl, List.ne_nil_of_mem ha⟩
    exact ⟨addrs, hrun, hlen, a, ha, ht⟩

/-- A record without a callback separates the runs. -/
theorem clusterTarget_append_cons
    (h : recordFormatEntryHasValidTarget rom record addr strict = false) :
    ClusterTarget rom record strict (xs ++ addr :: ys) target ↔
      ClusterTarget rom record strict xs target ∨ ClusterTarget rom record strict ys target := by
  unfold ClusterTarget
  rw [← exists_or]
  refine exists_congr fun run => ?_
  rw [isMaximalRun_append_cons (p := (recordFormatEntryHasValidTarget rom record · strict)) h,
    or_and_right]

/-- The cluster at the end, if the records there are one, and the clusters before it. -/
theorem clusterTarget_iff_last :
    ClusterTarget rom record strict addrs target ↔
      ClusterTarget rom record strict
        (addrs.rdropWhile (recordFormatEntryHasValidTarget rom record · strict)) target ∨
      ClusterLength record
        (addrs.rtakeWhile (recordFormatEntryHasValidTarget rom record · strict)).length ∧
        ∃ a ∈ addrs.rtakeWhile (recordFormatEntryHasValidTarget rom record · strict),
          target ∈ recordFormatEntryTargets rom record a strict := by
  constructor
  · rintro ⟨run, hrun, hcluster⟩
    rcases isMaximalRun_iff_rdropWhile.mp hrun with hfront | ⟨rfl, -⟩
    · exact .inl ⟨run, hfront, hcluster⟩
    · exact .inr hcluster
  · rintro (⟨run, hrun, hcluster⟩ | ⟨hlen, a, ha, ht⟩)
    · exact ⟨run, isMaximalRun_iff_rdropWhile.mpr (.inl hrun), hcluster⟩
    · have hrun := isMaximalRun_iff_rdropWhile.mpr (.inr ⟨rfl, List.ne_nil_of_mem ha⟩)
      exact ⟨_, hrun, hlen, a, ha, ht⟩

end Clusters

/-! ## The loop -/

section Loop
variable {rom : NgProgramRom} {record : NgGameConfigRecordFormat} {strict : Bool}
variable {stop addr : BitVec 32} {acc : List (BitVec 32)} {run : RecordRun} {call : DiscoveryCall}

/-- One record is directly behind the other. -/
def NextRecord (record : NgGameConfigRecordFormat) (a b : BitVec 32) : Prop :=
  wrapsOver a (recordStride record) = false ∧ b = a + recordStride record

/-- The two counters of the loop stand for the records of the run so far. -/
structure RunTracks (rom : NgProgramRom) (record : NgGameConfigRecordFormat) (strict : Bool)
    (acc : List (BitVec 32)) (run : RecordRun) : Prop where
  entries : run.entries.toNat = acc.length
  start : ∀ a ∈ acc.head?, run.start = a
  chain : acc.IsChain (NextRecord record)
  valid : ∀ a ∈ acc, recordFormatEntryHasValidTarget rom record a strict = true

theorem RunTracks.nil (h : run.entries = 0) : RunTracks rom record strict [] run where
  entries := by
    rw [h]
    rfl
  start := by simp
  chain := .nil
  valid := by simp

/-- One more record with a callback. -/
theorem RunTracks.concat (h : RunTracks rom record strict acc run)
    (hnext : ∀ a ∈ acc.getLast?, NextRecord record a addr)
    (hvalid : recordFormatEntryHasValidTarget rom record addr strict = true)
    (hlen : acc.length + 1 < 2 ^ 32) :
    RunTracks rom record strict (acc ++ [addr])
      { start := if run.entries = 0 then addr else run.start, entries := run.entries + 1 } where
  entries := by
    have hone : (1 : BitVec 32).toNat = 1 := rfl
    rw [BitVec.toNat_add, h.entries, hone, Nat.mod_eq_of_lt hlen, List.length_append,
      List.length_singleton]
  start a ha := by
    have hentries := h.entries
    cases acc with
    | nil =>
      have hzero : run.entries = 0 := BitVec.eq_of_toNat_eq hentries
      cases ha
      rw [hzero, if_pos rfl]
    | cons b acc =>
      have hpos : run.entries ≠ 0 := by
        intro hzero
        rw [hzero] at hentries
        cases hentries
      rw [if_neg hpos]
      exact h.start a ha
  chain := h.chain.append (List.isChain_singleton _) (by
    intro a ha b hb
    cases hb
    exact hnext a ha)
  valid a ha := by
    rcases List.mem_append.mp ha with hold | hlast
    · exact h.valid a hold
    · rwa [List.mem_singleton.mp hlast]

/-- `add_record_format_run_targets` goes over the records of a run. -/
theorem addRecordFormatRunTargets_eq (hchain : acc.IsChain (NextRecord record)) {start : BitVec 32}
    (hstart : ∀ a ∈ acc.head?, start = a) :
    addRecordFormatRunTargets rom record (recordStride record) strict acc.length start =
      acc.flatMap (addRecordFormatEntryTargets rom record · strict) := by
  induction acc generalizing start with
  | nil => rfl
  | cons a acc ih =>
    obtain rfl := hstart a rfl
    rw [List.length_cons, addRecordFormatRunTargets, List.flatMap_cons]
    congr 1
    cases acc with
    | nil =>
      rw [List.length_nil, addRecordFormatRunTargets, ite_self]
      rfl
    | cons b acc =>
      obtain ⟨⟨hwraps, rfl⟩, hrest⟩ := List.isChain_cons_cons.mp hchain
      rw [if_neg (by simp [hwraps])]
      exact ih hrest fun c hc => Option.some.inj hc

theorem mem_addRecordFormatEntryTargets :
    call ∈ addRecordFormatEntryTargets rom record addr strict ↔
      ∃ t ∈ recordFormatEntryTargets rom record addr strict, .add rom t = call :=
  List.mem_map

/-- A flush takes the callbacks of the run when the run is a cluster. -/
theorem RunTracks.mem_flush (h : RunTracks rom record strict acc run) :
    call ∈ flushRecordFormatCluster rom record run (recordStride record) strict ↔
      ∃ t, ClusterTarget rom record strict acc t ∧ call = .add rom t := by
  have hlength : (run.entries ≥ record.clusterMinEntries ∧
      (record.clusterMaxEntries = 0 ∨ run.entries ≤ record.clusterMaxEntries)) ↔
      ClusterLength record acc.length := by
    unfold ClusterLength
    rw [ge_iff_le, BitVec.le_def, BitVec.le_def, h.entries]
  unfold flushRecordFormatCluster
  simp only [clusterTarget_of_forall h.valid]
  by_cases hcluster : ClusterLength record acc.length
  · rw [if_pos (hlength.mpr hcluster), h.entries, addRecordFormatRunTargets_eq h.chain h.start,
      List.mem_flatMap]
    constructor
    · rintro ⟨a, ha, hcall⟩
      obtain ⟨t, ht, rfl⟩ := mem_addRecordFormatEntryTargets.mp hcall
      exact ⟨t, ⟨hcluster, a, ha, ht⟩, rfl⟩
    · rintro ⟨t, ⟨-, a, ha, ht⟩, rfl⟩
      exact ⟨a, ha, mem_addRecordFormatEntryTargets.mpr ⟨t, ht, rfl⟩⟩
  · rw [if_neg fun hc => hcluster (hlength.mp hc)]
    refine iff_of_false List.not_mem_nil ?_
    rintro ⟨t, ⟨hlen, -⟩, -⟩
    exact hcluster hlen

theorem one_lt_clusterMin (hmin : 2 ≤ record.clusterMinEntries.toNat) :
    1 < record.clusterMinEntries := by
  rw [BitVec.lt_def, show (1 : BitVec 32).toNat = 1 from rfl]
  exact hmin

theorem RunTracks.mem_flushLast (h : RunTracks rom record strict acc run)
    (hmin : 2 ≤ record.clusterMinEntries.toNat) :
    call ∈ flushLastCluster rom record run (recordStride record) strict ↔
      ∃ t, ClusterTarget rom record strict acc t ∧ call = .add rom t := by
  have hone := one_lt_clusterMin hmin
  unfold flushLastCluster
  by_cases hzero : run.entries = 0
  · have hnil : acc = [] := by
      have hentries := h.entries
      rw [hzero] at hentries
      exact List.eq_nil_of_length_eq_zero hentries.symm
    subst hnil
    rw [if_neg fun hc => hc.2 hzero]
    refine iff_of_false List.not_mem_nil ?_
    rintro ⟨t, ht, -⟩
    exact not_clusterTarget_nil ht
  · rw [if_pos ⟨hone, hzero⟩]
    exact h.mem_flush

/-- The loop takes the callbacks of the clusters it has seen since the run began. -/
theorem mem_recordFormatRegion (hmin : 2 ≤ record.clusterMinEntries.toNat) (turns : Nat)
    (addr : BitVec 32) (acc : List (BitVec 32)) (run : RecordRun)
    (h : RunTracks rom record strict acc run)
    (hnext : ∀ a ∈ acc.getLast?, NextRecord record a addr) (hlen : acc.length + turns < 2 ^ 32) :
    call ∈ recordFormatRegion rom record stop (recordStride record) strict turns addr run ↔
      ∃ t, ClusterTarget rom record strict (acc ++ recordWalk record stop turns addr) t ∧
        call = .add rom t := by
  have hone := one_lt_clusterMin hmin
  induction turns generalizing addr acc run with
  | zero =>
    rw [recordFormatRegion, recordWalk, List.append_nil]
    exact h.mem_flushLast hmin
  | succ turns ih =>
    rw [recordFormatRegion, recordWalk]
    by_cases hguard : ¬ addr < stop ∨
        (record.width ≠ 0 ∧ (wrapsOver addr (record.width - 1) ∨ addr + record.width > stop))
    · rw [if_pos hguard, if_pos hguard, List.append_nil]
      exact h.mem_flushLast hmin
    · rw [if_neg hguard, if_neg hguard, if_pos hone]
      -- the loop goes on behind `addr`, with the run it has then
      have hgo : ∀ (acc' : List (BitVec 32)) (run' : RecordRun),
          RunTracks rom record strict acc' run' →
          (wrapsOver addr (recordStride record) = false →
            ∀ a ∈ acc'.getLast?, NextRecord record a (addr + recordStride record)) →
          acc'.length ≤ acc.length + 1 →
          (call ∈ (if wrapsOver addr (recordStride record) then
              flushLastCluster rom record run' (recordStride record) strict
            else recordFormatRegion rom record stop (recordStride record) strict turns
              (addr + recordStride record) run') ↔
            ∃ t, ClusterTarget rom record strict (acc' ++
              if wrapsOver addr (recordStride record) then []
              else recordWalk record stop turns (addr + recordStride record)) t ∧
                call = .add rom t) := by
        intro acc' run' h' hnext' hlen'
        cases hw : wrapsOver addr (recordStride record) with
        | true =>
          rw [if_pos rfl, if_pos rfl, List.append_nil]
          exact h'.mem_flushLast hmin
        | false =>
          rw [if_neg Bool.false_ne_true, if_neg Bool.false_ne_true]
          exact ih (addr + recordStride record) acc' run' h' (hnext' hw) (by omega)
      cases hvalid : recordFormatEntryHasValidTarget rom record addr strict with
      | true =>
        rw [if_pos rfl]
        have hconcat := h.concat hnext hvalid (by omega)
        have hgo' := hgo (acc ++ [addr]) _ hconcat (by
          intro hw a ha
          rw [List.getLast?_append_cons, List.getLast?_singleton] at ha
          cases ha
          exact ⟨hw, rfl⟩) (by rw [List.length_append, List.length_singleton])
        rw [List.append_assoc, List.singleton_append] at hgo'
        exact hgo'
      | false =>
        rw [if_neg Bool.false_ne_true]
        simp only [clusterTarget_append_cons hvalid, or_and_right, exists_or]
        by_cases hzero : run.entries = 0
        · have hnil : acc = [] := by
            have hentries := h.entries
            rw [hzero] at hentries
            exact List.eq_nil_of_length_eq_zero hentries.symm
          subst hnil
          rw [if_neg (not_not.mpr hzero), or_iff_right (by
            rintro ⟨t, ht, -⟩
            exact not_clusterTarget_nil ht)]
          have hgo' := hgo [] run h (by simp) (Nat.zero_le _)
          rw [List.nil_append] at hgo'
          exact hgo'
        · have hgo' := hgo [] { run with entries := 0 } (.nil rfl) (by simp) (Nat.zero_le _)
          rw [List.nil_append] at hgo'
          rw [if_pos hzero, List.mem_append, h.mem_flush]
          exact or_congr_right hgo'

/-- The records `add_record_format_region_targets` takes. -/
def visitedRecords (record : NgGameConfigRecordFormat) (start stop : BitVec 32) :
    List (BitVec 32) :=
  if recordStride record = 0 then []
  else recordWalk record stop (stop.toNat - start.toNat) start

variable {start : BitVec 32}

theorem visitedRecords_cases :
    (visitedRecords record start stop = recordAddrs record start stop ∧
      ∀ a, ¬ EndsAddressSpace record start stop a) ∨
    ∃ a, EndsAddressSpace record start stop a ∧
      visitedRecords record start stop = recordAddrs record start stop ++ [a] := by
  unfold visitedRecords recordAddrs
  by_cases hstride : recordStride record = 0
  · rw [if_pos hstride, if_pos hstride]
    exact .inl ⟨rfl, fun a h => h.stride_ne hstride⟩
  · rw [if_neg hstride, if_neg hstride]
    exact recordWalk_cases hstride _ _ (by omega)

theorem mem_addRecordFormatRegionTargets (hmin : 2 ≤ record.clusterMinEntries.toNat) :
    call ∈ addRecordFormatRegionTargets rom record start stop strict ↔
      ∃ t, ClusterTarget rom record strict (visitedRecords record start stop) t ∧
        call = .add rom t := by
  have hlt := stop.isLt
  unfold addRecordFormatRegionTargets visitedRecords
  by_cases hstride : recordStride record = 0
  · rw [if_pos (.inr (.inr hstride)), if_pos hstride]
    refine iff_of_false List.not_mem_nil ?_
    rintro ⟨t, ht, -⟩
    exact not_clusterTarget_nil ht
  · rw [if_neg hstride]
    by_cases hoffsets : record.callbackOffsets = []
    · rw [if_pos (.inl hoffsets)]
      refine iff_of_false List.not_mem_nil ?_
      rintro ⟨t, ⟨run, -, -, a, -, ht⟩, -⟩
      unfold recordFormatEntryTargets at ht
      rw [hoffsets, List.filterMap_nil, ite_self] at ht
      cases ht
    · by_cases hempty : stop ≤ start
      · have hturns : stop.toNat - start.toNat = 0 := Nat.sub_eq_zero_of_le hempty
        rw [if_pos (.inr (.inl hempty)), hturns, recordWalk]
        refine iff_of_false List.not_mem_nil ?_
        rintro ⟨t, ht, -⟩
        exact not_clusterTarget_nil ht
      · rw [if_neg (by
          rintro (h | h | h)
          · exact hoffsets h
          · exact hempty h
          · exact hstride h)]
        have hloop := @mem_recordFormatRegion rom record strict stop call hmin
          (stop.toNat - start.toNat) start [] {} (.nil rfl) (by simp)
          (by rw [List.length_nil]; omega)
        rw [List.nil_append] at hloop
        exact hloop

end Loop

end NeoRecomp
