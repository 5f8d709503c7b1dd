import NeoRecomp.Correct.Discovered
import NeoRecomp.Lib.QueueSearch

/-!
# The traversal of state tables

A state table is read from its address on, entry by entry, up to the first value that is no entry.
Values that point back into the region are further tables.  The scanner keeps the tables seen in an
array, which is the queue of a graph search.
-/

namespace NeoRecomp

open QueueSearch

/-! ## What a table holds -/

section Tables
variable (rom : NgProgramRom) (table : NgGameConfigStateTable)

/-- The entry at an address lies in the region, and reading the table goes on past it. -/
def EntryRead (addr : BitVec 32) : Prop :=
  stateTableLongwordInTable rom table addr = true ∧
    stateTableEntry rom table (ngProgramRomRead32 rom addr) ≠ .stop

instance (addr : BitVec 32) : Decidable (EntryRead rom table addr) :=
  inferInstanceAs (Decidable (_ ∧ _))

/-- The value `v` stands at entry `i` of the table at `a`, and the table is read up to there. -/
def HoldsAtEntry (a : BitVec 32) (i : Nat) (v : BitVec 32) : Prop :=
  ∃ addr : BitVec 32, addr.toNat = a.toNat + i * table.stride.toNat ∧
    ngProgramRomRead32 rom addr = v ∧
    ∀ j ≤ i, ∀ addr' : BitVec 32, addr'.toNat = a.toNat + j * table.stride.toNat →
      EntryRead rom table addr'

/-- The value `v` is found in the table at `a`. -/
def TableHolds (a v : BitVec 32) : Prop :=
  ∃ i < table.maxEntries.toNat, HoldsAtEntry rom table a i v

/-- A value that points to another table. -/
def IsChain (v : BitVec 32) : Prop :=
  v ≠ table.sentinel ∧ table.followChain = true ∧ stateTableLongwordInTable rom table v = true

/-- A value that is taken for a function. -/
def IsTarget (v : BitVec 32) : Prop :=
  v ≠ table.sentinel ∧
    ¬ (table.followChain = true ∧ stateTableLongwordInTable rom table v = true) ∧
    stateTableTargetAllowed rom table v = true

/-- The table at `a` holds a link to the table at `b`. -/
def ChainLink (a b : BitVec 32) : Prop := TableHolds rom table a b ∧ IsChain rom table b

/-- A function named by a table that can be reached from the root. -/
def StateTableTarget (v : BitVec 32) : Prop :=
  ∃ a, Relation.ReflTransGen (ChainLink rom table) table.root a ∧ TableHolds rom table a v ∧
    IsTarget rom table v

/-! ## Reading one table -/

/-- The values of a table in their order, with the entries left. -/
def tableValues : Nat → BitVec 32 → List (BitVec 32)
  | 0, _ => []
  | turns + 1, addr =>
      if EntryRead rom table addr then
        ngProgramRomRead32 rom addr ::
          if wrapsOver addr table.stride then [] else tableValues turns (addr + table.stride)
      else []

variable {rom table}

theorem mem_tableValues {turns : Nat} {a v : BitVec 32} :
    v ∈ tableValues rom table turns a ↔ ∃ i < turns, HoldsAtEntry rom table a i v := by
  induction turns generalizing a with
  | zero => simp [tableValues]
  | succ turns ih =>
    rw [tableValues]
    constructor
    · intro h
      by_cases hread : EntryRead rom table a
      · rw [if_pos hread, List.mem_cons] at h
        rcases h with rfl | h
        · -- the first entry
          refine ⟨0, Nat.succ_pos _, a, by omega, rfl, fun j hj addr' haddr => ?_⟩
          obtain rfl : addr' = a := BitVec.eq_of_toNat_eq (by rw [haddr, Nat.le_zero.mp hj]; omega)
          exact hread
        · cases hw : wrapsOver a table.stride with
          | true =>
            rw [hw] at h
            exact absurd h List.not_mem_nil
          | false =>
            rw [hw, if_neg Bool.false_ne_true, ih] at h
            have hstep := wrapsOver_eq_false.mp hw
            have hnext : (a + table.stride).toNat = a.toNat + table.stride.toNat := by
              rw [BitVec.toNat_add]
              omega
            obtain ⟨i, hi, addr, haddr, hv, hall⟩ := h
            rw [hnext] at haddr hall
            refine ⟨i + 1, by omega, addr, by rw [haddr, Nat.succ_mul]; omega, hv, ?_⟩
            intro j hj addr' haddr'
            cases j with
            | zero =>
              obtain rfl : addr' = a := BitVec.eq_of_toNat_eq (by rw [haddr']; omega)
              exact hread
            | succ j => exact hall j (by omega) addr' (by rw [haddr', Nat.succ_mul]; omega)
      · rw [if_neg hread] at h
        exact absurd h List.not_mem_nil
    · rintro ⟨i, hi, addr, haddr, hv, hall⟩
      have hread : EntryRead rom table a := hall 0 (Nat.zero_le _) a (by omega)
      rw [if_pos hread, List.mem_cons]
      cases i with
      | zero =>
        left
        obtain rfl : addr = a := BitVec.eq_of_toNat_eq (by rw [haddr]; omega)
        exact hv.symm
      | succ i =>
        right
        rw [Nat.succ_mul] at haddr
        have hlt := addr.isLt
        have hstep : a.toNat + table.stride.toNat < 2 ^ 32 := by omega
        have hnext : (a + table.stride).toNat = a.toNat + table.stride.toNat := by
          rw [BitVec.toNat_add]
          omega
        rw [wrapsOver_eq_false.mpr hstep, if_neg Bool.false_ne_true, ih]
        refine ⟨i, by omega, addr, by rw [hnext, haddr]; omega, hv, ?_⟩
        intro j hj addr' haddr'
        rw [hnext] at haddr'
        exact hall (j + 1) (by omega) addr' (by rw [haddr', Nat.succ_mul]; omega)

theorem stateTableEntry_chain {v a : BitVec 32} :
    stateTableEntry rom table v = .chain a ↔ IsChain rom table v ∧ a = v := by
  unfold stateTableEntry IsChain
  split_ifs with h1 h2 h3 h4
  · simp [h1]
  · simp only [StateTableEntry.chain.injEq, h1, h2, ne_eq, not_false_eq_true, true_and, and_self]
    exact eq_comm
  all_goals simp [h2]

theorem stateTableEntry_code {v a : BitVec 32} :
    stateTableEntry rom table v = .code a ↔ IsTarget rom table v ∧ a = v := by
  unfold stateTableEntry IsTarget
  split_ifs with h1 h2 h3 h4
  · simp [h1]
  · simp [h2]
  · simp only [StateTableEntry.code.injEq, h1, h2, h3, ne_eq, not_false_eq_true, true_and]
    exact eq_comm
  all_goals simp [h3]

variable (rom table) in
/-- What the inner loop does with the table at `addr`: the array grows by chained tables, and unless
it was too small for one of them, by all of them, and the calls add the targets. -/
structure EntriesDone (turns : Nat) (addr : BitVec 32) (tables : List (BitVec 32))
    (out : List (BitVec 32) × List DiscoveryCall) : Prop where
  isPrefix : tables <+: out.1
  nodup : tables.Nodup → out.1.Nodup
  length_le : tables.length ≤ table.maxTables.toNat → out.1.length ≤ table.maxTables.toNat
  new : ∀ b ∈ out.1, b ∈ tables ∨ b ∈ tableValues rom table turns addr ∧ IsChain rom table b
  links : .truncate ∉ out.2 → ∀ v ∈ tableValues rom table turns addr, IsChain rom table v → v ∈ out.1
  calls : .truncate ∉ out.2 → ∀ call, call ∈ out.2 ↔
    ∃ v ∈ tableValues rom table turns addr, IsTarget rom table v ∧ call = .add rom v

/-- The loop ends without another value. -/
theorem EntriesDone.empty {turns : Nat} {addr : BitVec 32} {tables : List (BitVec 32)}
    (h : tableValues rom table turns addr = []) :
    EntriesDone rom table turns addr tables (tables, []) where
  isPrefix := List.prefix_refl _
  nodup hn := hn
  length_le hl := hl
  new b hb := .inl hb
  links _ v hv := by
    rw [h] at hv
    exact absurd hv List.not_mem_nil
  calls _ call := by simp [h]

/-- One entry of the table, and the entries after it. -/
theorem EntriesDone.cons {turns : Nat} {addr : BitVec 32} {tables tables₁ : List (BitVec 32)}
    {calls₁ : List DiscoveryCall} (hread : EntryRead rom table addr) (hpre : tables <+: tables₁)
    (hnodup : tables.Nodup → tables₁.Nodup)
    (hlength : tables.length ≤ table.maxTables.toNat → tables₁.length ≤ table.maxTables.toNat)
    (hnew : ∀ b ∈ tables₁, b ∈ tables ∨
      b = ngProgramRomRead32 rom addr ∧ IsChain rom table (ngProgramRomRead32 rom addr))
    (hlink : IsChain rom table (ngProgramRomRead32 rom addr) →
      ngProgramRomRead32 rom addr ∈ tables₁)
    (hcalls : ∀ call, call ∈ calls₁ ↔ IsTarget rom table (ngProgramRomRead32 rom addr) ∧
      call = .add rom (ngProgramRomRead32 rom addr))
    (hrest : ∀ tables, EntriesDone rom table turns (addr + table.stride) tables
      (stateTableEntries rom table turns (addr + table.stride) tables)) :
    EntriesDone rom table (turns + 1) addr tables
      (if wrapsOver addr table.stride then (tables₁, calls₁)
       else
        ((stateTableEntries rom table turns (addr + table.stride) tables₁).1,
          calls₁ ++ (stateTableEntries rom table turns (addr + table.stride) tables₁).2)) := by
  have hvalues : tableValues rom table (turns + 1) addr = ngProgramRomRead32 rom addr ::
      if wrapsOver addr table.stride then []
      else tableValues rom table turns (addr + table.stride) := by
    rw [tableValues, if_pos hread]
  cases hw : wrapsOver addr table.stride with
  | true =>
    rw [hw, if_pos rfl] at hvalues
    rw [if_pos rfl]
    constructor
    · exact hpre
    · exact hnodup
    · exact hlength
    · intro b hb
      rw [hvalues, List.mem_singleton]
      rcases hnew b hb with hold | ⟨rfl, hchain⟩
      · exact .inl hold
      · exact .inr ⟨rfl, hchain⟩
    · intro _ v hv hchain
      rw [hvalues, List.mem_singleton] at hv
      subst hv
      exact hlink hchain
    · intro _ call
      rw [hcalls, hvalues]
      simp
  | false =>
    have hr := hrest tables₁
    rw [hw, if_neg Bool.false_ne_true] at hvalues
    rw [if_neg Bool.false_ne_true]
    constructor
    · exact hpre.trans hr.isPrefix
    · exact fun hn => hr.nodup (hnodup hn)
    · exact fun hl => hr.length_le (hlength hl)
    · intro b hb
      rw [hvalues, List.mem_cons]
      rcases hr.new b hb with hmid | ⟨hmem, hchain⟩
      · rcases hnew b hmid with hold | ⟨rfl, hchain⟩
        · exact .inl hold
        · exact .inr ⟨.inl rfl, hchain⟩
      · exact .inr ⟨.inr hmem, hchain⟩
    · intro ht v hv hchain
      rw [hvalues, List.mem_cons] at hv
      rw [List.mem_append, not_or] at ht
      rcases hv with rfl | hv
      · exact hr.isPrefix.subset (hlink hchain)
      · exact hr.links ht.2 v hv hchain
    · intro ht call
      rw [List.mem_append, not_or] at ht
      rw [List.mem_append, hcalls, hr.calls ht.2, hvalues]
      simp only [List.mem_cons, exists_eq_or_imp]

variable (rom table) in
/-- The inner loop. -/
theorem stateTableEntries_done (turns : Nat) (addr : BitVec 32) (tables : List (BitVec 32)) :
    EntriesDone rom table turns addr tables (stateTableEntries rom table turns addr tables) := by
  induction turns generalizing addr tables with
  | zero => exact .empty rfl
  | succ turns ih =>
    rw [stateTableEntries]
    by_cases hin : stateTableLongwordInTable rom table addr = true
    · rw [if_neg (by simp [hin])]
      have hchain := fun a => @stateTableEntry_chain rom table (ngProgramRomRead32 rom addr) a
      have hcode := fun a => @stateTableEntry_code rom table (ngProgramRomRead32 rom addr) a
      cases he : stateTableEntry rom table (ngProgramRomRead32 rom addr) with
      | stop =>
        apply EntriesDone.empty
        rw [tableValues, if_neg fun h => h.2 he]
      | skip =>
        refine EntriesDone.cons ⟨hin, by simp [he]⟩ (List.prefix_refl _) id id (fun b hb => .inl hb)
          ?_ ?_ (ih _)
        · intro h
          rw [(hchain _).mpr ⟨h, rfl⟩] at he
          cases he
        · intro call
          refine iff_of_false List.not_mem_nil ?_
          intro h
          rw [(hcode _).mpr ⟨h.1, rfl⟩] at he
          cases he
      | code target =>
        obtain ⟨htarget, rfl⟩ := (hcode _).mp he
        refine EntriesDone.cons ⟨hin, by simp [he]⟩ (List.prefix_refl _) id id (fun b hb => .inl hb)
          ?_ ?_ (ih _)
        · intro h
          rw [(hchain _).mpr ⟨h, rfl⟩] at he
          cases he
        · intro call
          rw [List.mem_singleton]
          exact (and_iff_right htarget).symm
      | chain next =>
        obtain ⟨hlinked, rfl⟩ := (hchain _).mp he
        have hnone : ∀ call, call ∈ ([] : List DiscoveryCall) ↔
            IsTarget rom table (ngProgramRomRead32 rom addr) ∧
              call = .add rom (ngProgramRomRead32 rom addr) := by
          intro call
          exact iff_of_false List.not_mem_nil fun h => h.1.2.1 hlinked.2
        dsimp only
        by_cases hseen : ngProgramRomRead32 rom addr ∈ tables
        · -- a table already in the array
          rw [if_pos hseen]
          exact EntriesDone.cons ⟨hin, by simp [he]⟩ (List.prefix_refl _) id id (fun b hb => .inl hb)
            (fun _ => hseen) hnone (ih _)
        · rw [if_neg hseen]
          by_cases hfull : table.maxTables.toNat ≤ tables.length
          · rw [if_pos hfull]
            exact ⟨List.prefix_refl _, id, id, fun b hb => .inl hb,
              fun ht => absurd (List.mem_singleton.mpr rfl) ht,
              fun ht => absurd (List.mem_singleton.mpr rfl) ht⟩
          · rw [if_neg hfull]
            refine EntriesDone.cons ⟨hin, by simp [he]⟩ (List.prefix_append _ _) ?_ ?_ ?_ ?_ hnone
              (ih _)
            · intro hn
              rw [List.nodup_append_comm]
              exact List.nodup_cons.mpr ⟨hseen, hn⟩
            · intro _
              rw [List.length_append, List.length_singleton]
              omega
            · intro b hb
              rcases List.mem_append.mp hb with hold | hlast
              · exact .inl hold
              · exact .inr ⟨List.mem_singleton.mp hlast, hlinked⟩
            · intro _
              exact List.mem_append_right _ (List.mem_singleton.mpr rfl)
    · rw [if_pos (by simp [hin])]
      apply EntriesDone.empty
      rw [tableValues, if_neg fun h => hin h.1]

/-! ## The walk -/

variable (rom table) in
/-- The addresses the outer loop of `add_state_table_targets` takes out of the array, in order. -/
def stateTableVisits : Nat → Nat → List (BitVec 32) → List (BitVec 32)
  | 0, _, _ => []
  | turns + 1, head, tables =>
      match tables[head]? with
      | none => []
      | some addr =>
          addr :: stateTableVisits turns (head + 1)
            (stateTableEntries rom table table.maxEntries.toNat addr tables).1

/-- The loop has ended by itself when `max_tables` turns are over. -/
theorem stateTableWalk_turns (turns more head : Nat) (tables : List (BitVec 32))
    (hturns : table.maxTables.toNat ≤ turns + head)
    (hlength : tables.length ≤ table.maxTables.toNat) :
    stateTableVisits rom table (turns + more) head tables =
        stateTableVisits rom table turns head tables ∧
      stateTableWalk rom table (turns + more) head tables =
        stateTableWalk rom table turns head tables := by
  induction turns generalizing head tables with
  | zero =>
    have hnone : tables[head]? = none := List.getElem?_eq_none (by omega)
    cases more with
    | zero => exact ⟨rfl, rfl⟩
    | succ more => simp only [stateTableVisits, stateTableWalk, hnone, and_self]
  | succ turns ih =>
    rw [Nat.succ_add, stateTableVisits, stateTableVisits, stateTableWalk, stateTableWalk]
    cases hhead : tables[head]? with
    | none => exact ⟨rfl, rfl⟩
    | some addr =>
      have hdone := stateTableEntries_done rom table table.maxEntries.toNat addr tables
      obtain ⟨hvisits, hwalk⟩ := ih (head + 1)
        (stateTableEntries rom table table.maxEntries.toNat addr tables).1 (by omega)
        (hdone.length_le hlength)
      dsimp only
      rw [hvisits, hwalk]
      exact ⟨rfl, rfl⟩

/-- The outer loop from some turn on: the array becomes `all`, whose rest it visits. -/
theorem stateTableWalk_run (turns head : Nat) (tables : List (BitVec 32)) (hnodup : tables.Nodup)
    (hlength : tables.length ≤ table.maxTables.toNat) (hhead : head ≤ tables.length)
    (hturns : table.maxTables.toNat ≤ turns + head) :
    ∃ all : List (BitVec 32), tables <+: all ∧ all.Nodup ∧
      all.length ≤ table.maxTables.toNat ∧
      stateTableVisits rom table turns head tables = all.drop head ∧
      (.truncate ∉ stateTableWalk rom table turns head tables →
        (Searched (ChainLink rom table) table.root tables head →
          Searched (ChainLink rom table) table.root all all.length) ∧
        ∀ call, call ∈ stateTableWalk rom table turns head tables ↔
          ∃ a ∈ all.drop head, ∃ v, TableHolds rom table a v ∧ IsTarget rom table v ∧
            call = .add rom v) := by
  induction turns generalizing head tables with
  | zero =>
    have hend : head = tables.length := by omega
    refine ⟨tables, List.prefix_refl _, hnodup, hlength, ?_, fun _ => ⟨fun hs => ?_, fun call => ?_⟩⟩
    · rw [hend, List.drop_length]
      rfl
    · rw [← hend]
      exact hs
    · rw [hend, List.drop_length]
      simp [stateTableWalk]
  | succ turns ih =>
    rw [stateTableVisits, stateTableWalk]
    cases hget : tables[head]? with
    | none =>
      have hend : head = tables.length := by
        have := List.getElem?_eq_none_iff.mp hget
        omega
      refine ⟨tables, List.prefix_refl _, hnodup, hlength, ?_, fun _ => ⟨fun hs => ?_, fun call => ?_⟩⟩
      · rw [hend, List.drop_length]
      · rw [← hend]
        exact hs
      · rw [hend, List.drop_length]
        simp
    | some addr =>
      have hdone := stateTableEntries_done rom table table.maxEntries.toNat addr tables
      have hlt : head < tables.length := (List.getElem?_eq_some_iff.mp hget).1
      dsimp only
      generalize stateTableEntries rom table table.maxEntries.toNat addr tables = out at hdone ⊢
      have hgrow := hdone.isPrefix.length_le
      obtain ⟨all, hpre, hn, hl, hvisits, hrun⟩ := ih (head + 1) out.1 (hdone.nodup hnodup)
        (hdone.length_le hlength) (by omega) (by omega)
      have hall := hdone.isPrefix.trans hpre
      have hstart : all.drop head = addr :: all.drop (head + 1) := by
        have hlt' : head < all.length := by
          have := hall.length_le
          omega
        have haddr : all[head]? = some addr := by
          rw [List.prefix_iff_getElem?] at hall
          rw [hall head hlt, ← List.getElem?_eq_getElem hlt, hget]
        rw [List.drop_eq_getElem_cons hlt', (List.getElem?_eq_some_iff.mp haddr).2]
      refine ⟨all, hall, hn, hl, by rw [hvisits, hstart], fun ht => ?_⟩
      rw [List.mem_append, not_or] at ht
      obtain ⟨hsearch, hcalls⟩ := hrun ht.2
      refine ⟨fun hs => hsearch (hs.expand hget hdone.isPrefix ?_ ?_), fun call => ?_⟩
      · intro b hb
        rcases hdone.new b hb with hold | ⟨hmem, hchain⟩
        · exact .inl hold
        · exact .inr ⟨mem_tableValues.mp hmem, hchain⟩
      · rintro b ⟨hholds, hchain⟩
        exact hdone.links ht.1 b (mem_tableValues.mpr hholds) hchain
      · rw [List.mem_append, hdone.calls ht.1, hcalls, hstart]
        simp only [mem_tableValues, List.mem_cons, exists_eq_or_imp]
        rfl

/-! ## The scanner -/

/-- No truncation is noted in a run that ends with the flag clear. -/
theorem truncate_not_mem {d : NgFunctionDiscovery} {calls : List DiscoveryCall}
    (ht : (d.run calls).truncated = false) : .truncate ∉ calls := by
  intro hmem
  induction calls generalizing d with
  | nil => exact absurd hmem List.not_mem_nil
  | cons call calls ih =>
    rw [run_cons] at ht
    rcases List.mem_cons.mp hmem with rfl | hmem
    · have := truncated_of_run ht
      cases this
    · exact ih ht hmem

/-- The calls of the scanner are the targets of the reachable tables. -/
theorem addStateTableTargets_calls {calloc : Nat → Nat → Bool} (hstride : table.stride ≠ 0)
    (hmax : table.maxTables ≠ 0)
    (ht : .truncate ∉ addStateTableTargets calloc rom table) (call : DiscoveryCall) :
    call ∈ addStateTableTargets calloc rom table ↔
      ∃ v, StateTableTarget rom table v ∧ call = .add rom v := by
  unfold addStateTableTargets at ht ⊢
  by_cases hskip : table.stride = 0 ∨ table.maxTables = 0 ∨ table.maxEntries = 0 ∨
      (!stateTableLongwordInTable rom table table.root) = true
  · -- Nothing can be read from the root.
    rw [if_pos hskip]
    refine iff_of_false List.not_mem_nil ?_
    have hroot : ∀ v, ¬ TableHolds rom table table.root v := by
      rintro v ⟨i, hi, addr, -, -, hall⟩
      have hread := hall 0 (Nat.zero_le _) table.root (by omega)
      rcases hskip with h | h | h | h
      · exact hstride h
      · exact hmax h
      · rw [h] at hi
        exact absurd hi (Nat.not_lt_zero i)
      · rw [hread.1] at h
        cases h
    rintro ⟨v, ⟨a, hreach, hholds, -⟩, -⟩
    rcases Relation.ReflTransGen.cases_head hreach with rfl | ⟨b, hlink, -⟩
    · exact hroot v hholds
    · exact hroot b hlink.1
  · rw [if_neg hskip] at ht ⊢
    by_cases halloc : (!calloc table.maxTables.toNat 4) = true
    · rw [if_pos halloc] at ht
      exact absurd (List.mem_singleton.mpr rfl) ht
    · rw [if_neg halloc] at ht ⊢
      have hpos : 1 ≤ table.maxTables.toNat := by
        have : table.maxTables.toNat ≠ 0 := fun h => hmax (BitVec.eq_of_toNat_eq h)
        omega
      obtain ⟨all, -, -, -, -, hrun⟩ := @stateTableWalk_run rom table table.maxTables.toNat 0
        [table.root] (List.nodup_singleton _) hpos (Nat.zero_le _) (Nat.le_refl _)
      obtain ⟨hsearch, hcalls⟩ := hrun ht
      have hseen := fun a => (hsearch (.start _ _)).mem_iff (Nat.le_refl _) (a := a)
      rw [hcalls]
      unfold StateTableTarget
      constructor
      · rintro ⟨a, ha, v, hholds, htarget, hcall⟩
        exact ⟨v, ⟨a, (hseen a).mp ha, hholds, htarget⟩, hcall⟩
      · rintro ⟨v, ⟨a, ha, hholds, htarget⟩, hcall⟩
        exact ⟨a, (hseen a).mpr ha, v, hholds, htarget, hcall⟩

/-- The traversal of a state table: it ends within `max_tables` turns, each of which takes another
table.  A table with stride or `max_tables` zero adds nothing.  With any other, when the flag
`truncated` is clear in the end, the functions added are the accepted targets of the tables that can
be reached from the root. -/
theorem stateTable_traversal (calloc : Nat → Nat → Bool) (rom : NgProgramRom)
    (table : NgGameConfigStateTable) :
    (stateTableVisits rom table table.maxTables.toNat 0 [table.root]).Nodup ∧
    (stateTableVisits rom table table.maxTables.toNat 0 [table.root]).length ≤
      table.maxTables.toNat ∧
    (∀ turns ≥ table.maxTables.toNat, table.maxTables ≠ 0 →
      stateTableVisits rom table turns 0 [table.root] =
          stateTableVisits rom table table.maxTables.toNat 0 [table.root] ∧
        stateTableWalk rom table turns 0 [table.root] =
          stateTableWalk rom table table.maxTables.toNat 0 [table.root]) ∧
    (table.stride = 0 ∨ table.maxTables = 0 → addStateTableTargets calloc rom table = []) ∧
    ∀ d : NgFunctionDiscovery, table.stride ≠ 0 → table.maxTables ≠ 0 →
      (d.run (addStateTableTargets calloc rom table)).truncated = false →
        (∀ call, call ∈ addStateTableTargets calloc rom table ↔
          ∃ v, StateTableTarget rom table v ∧ call = .add rom v) ∧
        ∀ key, key ∈ (d.run (addStateTableTargets calloc rom table)).keys ↔
          key ∈ d.keys ∨
            ∃ v, StateTableTarget rom table v ∧ key = (v, discoveryBankForAddr rom v) := by
  have hone : table.maxTables ≠ 0 → [table.root].length ≤ table.maxTables.toNat := by
    intro hmax
    have : table.maxTables.toNat ≠ 0 := fun h => hmax (BitVec.eq_of_toNat_eq h)
    rw [List.length_singleton]
    omega
  have hvisits : (stateTableVisits rom table table.maxTables.toNat 0 [table.root]).Nodup ∧
      (stateTableVisits rom table table.maxTables.toNat 0 [table.root]).length ≤
        table.maxTables.toNat := by
    by_cases hmax : table.maxTables = 0
    · rw [hmax]
      exact ⟨List.nodup_nil, Nat.le_refl _⟩
    · obtain ⟨all, -, hn, hl, hvisits, -⟩ := @stateTableWalk_run rom table
        table.maxTables.toNat 0 [table.root] (List.nodup_singleton _) (hone hmax) (Nat.zero_le _)
        (Nat.le_refl _)
      rw [hvisits, List.drop_zero]
      exact ⟨hn, hl⟩
  refine ⟨hvisits.1, hvisits.2, ?_, ?_, ?_⟩
  · intro turns hturns hmax
    obtain ⟨more, rfl⟩ := Nat.exists_eq_add_of_le hturns
    exact stateTableWalk_turns _ more 0 _ (Nat.le_refl _) (hone hmax)
  · intro hzero
    unfold addStateTableTargets
    rw [if_pos]
    rcases hzero with h | h
    · exact .inl h
    · exact .inr (.inl h)
  · intro d hstride hmax ht
    have hcalls := addStateTableTargets_calls hstride hmax (truncate_not_mem ht)
    refine ⟨hcalls, fun key => ?_⟩
    rw [mem_keys_run ht]
    constructor
    · rintro (hold | ⟨call, hcall, r, hr, -, rfl⟩)
      · exact .inl hold
      · obtain ⟨v, htarget, rfl⟩ := (hcalls call).mp hcall
        cases hr
        exact .inr ⟨v, htarget, rfl⟩
    · rintro (hold | ⟨v, htarget, rfl⟩)
      · exact .inl hold
      · right
        refine ⟨_, (hcalls _).mpr ⟨v, htarget, rfl⟩, _, rfl, ?_, rfl⟩
        obtain ⟨a, -, -, hv⟩ := htarget
        exact (Bool.and_eq_true_iff.mp hv.2.2).2

end Tables

/-! ## Concrete tables -/

/-- Two tables that point to each other, each with a function of its own behind the link. -/
def mutualTablesRom : NgProgramRom where
  data := #[0x00, 0x00, 0x00, 0x08, 0x00, 0x00, 0x00, 0x10,
    0x00, 0x00, 0x00, 0x00, 0x00, 0x00, 0x00, 0x14, 0x4E, 0x75, 0x4E, 0x75, 0x4E, 0x75, 0x4E, 0x75]
  size := 24
  size_eq := rfl

def mutualTables : NgGameConfigStateTable :=
  { root := 0, tableStart := 0, tableEnd := 16, stride := 4, sentinel := 0xFFFFFFFF,
    maxTables := 64, maxEntries := 2, followChain := true }

/-- From the root the walk reaches the other table, the way back ends it, and both functions are
found. -/
theorem stateTable_traversal_mutual :
    (∀ turns ≥ 64, stateTableVisits mutualTablesRom mutualTables turns 0 [0] = [0, 8]) ∧
      StateTableTarget mutualTablesRom mutualTables 16 ∧
      StateTableTarget mutualTablesRom mutualTables 20 := by
  obtain ⟨-, -, hturns, -, hkeys⟩ :=
    stateTable_traversal (fun _ _ => true) mutualTablesRom mutualTables
  have htargets := (hkeys ngFunctionDiscoveryInit (by decide) (by decide) (by decide +kernel)).2
  have hfound (v : BitVec 32) (hv : (v, ngFunctionDiscoveryBankNone) ∈
      (ngFunctionDiscoveryInit.run
        (addStateTableTargets (fun _ _ => true) mutualTablesRom mutualTables)).keys) :
      StateTableTarget mutualTablesRom mutualTables v := by
    rcases (htargets _).mp hv with hold | ⟨w, htarget, heq⟩
    · exact absurd hold List.not_mem_nil
    · cases heq
      exact htarget
  refine ⟨fun turns h => ?_, hfound 16 (by decide +kernel), hfound 20 (by decide +kernel)⟩
  have hvisits : stateTableVisits mutualTablesRom mutualTables 64 0 [0] = [0, 8] := by
    decide +kernel
  exact (hturns turns h (by decide)).1.trans hvisits

/-- A table of one entry, which points to the RTS behind it. -/
def oneEntryRom : NgProgramRom where
  data := #[0x00, 0x00, 0x00, 0x04, 0x4E, 0x75, 0x4E, 0x75]
  size := 8
  size_eq := rfl

def oneEntryTable (maxTables : BitVec 32) : NgGameConfigStateTable :=
  { root := 0, tableStart := 0, tableEnd := 4, stride := 4, sentinel := 0xFFFFFFFF,
    maxTables := maxTables, maxEntries := 1024 }

/-- A table that allows no table at all is skipped without a sign, with its first entry unread. -/
theorem oneEntry_skipped :
    ¬ ∀ (rom : NgProgramRom) (table : NgGameConfigStateTable) (d : NgFunctionDiscovery),
      (d.run (addStateTableTargets (fun _ _ => true) rom table)).truncated = false →
        ∀ call, call ∈ addStateTableTargets (fun _ _ => true) rom table ↔
          ∃ v, StateTableTarget rom table v ∧ call = .add rom v := by
  intro h
  have hcalls := h oneEntryRom (oneEntryTable 0) ngFunctionDiscoveryInit (by decide +kernel)
  have hread : EntryRead oneEntryRom (oneEntryTable 0) 0 := by decide +kernel
  have hholds : TableHolds oneEntryRom (oneEntryTable 0) 0 4 := by
    refine ⟨0, by decide, 0, rfl, by decide +kernel, fun j hj addr haddr => ?_⟩
    obtain rfl : addr = 0 :=
      BitVec.eq_of_toNat_eq (by rw [haddr, Nat.le_zero.mp hj, Nat.zero_mul]; rfl)
    exact hread
  have htarget : IsTarget oneEntryRom (oneEntryTable 0) 4 :=
    ⟨by decide, by decide, by decide +kernel⟩
  have hmem := (hcalls (.add oneEntryRom 4)).mpr ⟨4, ⟨0, .refl, hholds, htarget⟩, rfl⟩
  exact absurd hmem List.not_mem_nil

end NeoRecomp
