import Mathlib.Logic.Relation
import NeoRecomp.Correct.Representation
import NeoRecomp.Config.Loader

/-!
# What a search is led to

The image, the seeds and the configuration say what a search asks for, without the search: the seeds
and the configured tables, what the scans of roots among them ask for, and so on.  Script streams
name more.  A search that is not truncated has all that the seeds lead to, and it has scanned every
root except, at most, labels that a script stream has turned into roots.
-/

namespace NeoRecomp

open Relation

/-! ## The requests -/

/-- The call asks for something that looks like a function. -/
def DiscoveryCall.Asks (call : DiscoveryCall) (r : AddRequest) : Prop :=
  call.request = some r ∧ r.probable = true

section Inputs
variable (rom : NgProgramRom) (config : NgGameConfig)

/-- The scan of a root asks for a request. -/
def ScanAsks (root r : AddRequest) : Prop :=
  root.isScanRoot = true ∧
    ∃ call ∈ scanFunctionCandidate (bankView rom root.bank) root.addr config, call.Asks r

variable (calloc : Nat → Nat → Bool) (seeds : List (BitVec 32))

/-- The seeds and the configured tables ask for a request. -/
def Seeded (r : AddRequest) : Prop := ∃ call ∈ seedingCalls calloc rom seeds config, call.Asks r

/-- The seeds and the configured tables lead to a request. -/
def Sought (r : AddRequest) : Prop :=
  ∃ seed, Seeded rom config calloc seeds seed ∧ ReflTransGen (ScanAsks rom config) seed r

/-- A script interpreter stands at a root that is sought. -/
def Interprets (info : NgScriptInterpreterInfo) : Prop :=
  ∃ root, Sought rom config calloc seeds root ∧ root.isScanRoot = true ∧
    analyzeScriptInterpreter (bankView rom root.bank) root.addr = some info

/-- A root stores the address of a stream where an interpreter looks for it, and the stream names a
request as a callback. -/
def ScriptAsks (root r : AddRequest) : Prop :=
  root.isScanRoot = true ∧ ∃ info, Interprets rom config calloc seeds info ∧
    ∃ call ∈ addScriptStreamCallbacksFromSlotScan (bankView rom root.bank) [info] root.addr,
      call.Asks r

/-- A callback that script streams name. -/
def Scripted (r : AddRequest) : Prop :=
  ∃ root, Sought rom config calloc seeds root ∧
    TransGen (ScriptAsks rom config calloc seeds) root r

/-- Whatever a search can come to. -/
def Reached (r : AddRequest) : Prop :=
  ∃ first, (Sought rom config calloc seeds first ∨ Scripted rom config calloc seeds first) ∧
    ReflTransGen (ScanAsks rom config) first r

/-- A row that the seeds lead to as a label only, while a script stream names it. -/
def ScriptedLabel (key : BitVec 32 × BitVec 32) : Prop :=
  (∃ label, Sought rom config calloc seeds label ∧ label.key = key) ∧
    (∃ callback, Scripted rom config calloc seeds callback ∧ callback.key = key) ∧
      ∀ r, Sought rom config calloc seeds r → r.key = key → r.isScanRoot = false

end Inputs

/-! ## Closed sets of requests -/

section Closed
variable {rom : NgProgramRom} {config : NgGameConfig} {calloc : Nat → Nat → Bool}
  {seeds : List (BitVec 32)} {P : AddRequest → Prop}

/-- Without an interpreter script streams name nothing. -/
theorem not_scripted (hnone : ∀ info, ¬ Interprets rom config calloc seeds info) (r : AddRequest) :
    ¬ Scripted rom config calloc seeds r := by
  rintro ⟨root, -, hpath⟩
  cases hpath with
  | single hstep =>
    obtain ⟨-, info, hinfo, -⟩ := hstep
    exact hnone info hinfo
  | tail _ hstep =>
    obtain ⟨-, info, hinfo, -⟩ := hstep
    exact hnone info hinfo

theorem Reached.sought (hnone : ∀ info, ¬ Interprets rom config calloc seeds info) {r : AddRequest}
    (h : Reached rom config calloc seeds r) : Sought rom config calloc seeds r := by
  obtain ⟨first, hfirst | hscripted, hpath⟩ := h
  · obtain ⟨seed, hseed, hto⟩ := hfirst
    exact ⟨seed, hseed, hto.trans hpath⟩
  · exact absurd hscripted (not_scripted hnone first)

end Closed

/-! ## Rows and their flags -/

/-- A row with the key of a request, a root if a root was asked for. -/
def NgFunctionDiscovery.Has (d : NgFunctionDiscovery) (r : AddRequest) : Prop :=
  ∃ c ∈ d.candidates, c.key = r.key ∧ (r.isScanRoot = true → c.isScanRoot = true)

/-- The rows come from some requests, and so do the roots among them. -/
def NgFunctionDiscovery.From (d : NgFunctionDiscovery) (requests : AddRequest → Prop) : Prop :=
  ∀ c ∈ d.candidates, (∃ r, requests r ∧ r.key = c.key) ∧
    (c.isScanRoot = true → ∃ r, requests r ∧ r.key = c.key ∧ r.isScanRoot = true)

section Rows
variable {d d' : NgFunctionDiscovery} {r : AddRequest} {requests : AddRequest → Prop}

theorem NgFunctionDiscovery.GrowsTo.has (h : d.GrowsTo d') (hr : d.Has r) : d'.Has r := by
  obtain ⟨c, hc, hkey, hroot⟩ := hr
  obtain ⟨i, hi⟩ := List.mem_iff_getElem?.mp hc
  obtain ⟨c', hc', hraised⟩ := h.rows hi
  exact ⟨c', List.mem_of_getElem? hc', hraised.key_eq.trans hkey,
    fun hr => hraised.isScanRoot (hroot hr)⟩

theorem AddOutcome.has (h : AddOutcome d r d') (hp : r.probable = true)
    (ht : d'.truncated = false) : d'.Has r := by
  cases h with
  | skipped hn =>
    rw [hp] at hn
    cases hn
  | refused => cases ht
  | @raised i c _ hi hk =>
    refine ⟨c.raise r.isEntry r.isScanRoot, ?_, hk, fun hr => ?_⟩
    · apply List.mem_iff_getElem?.mpr
      exact ⟨i, by rw [getElem?_raise, hi, Option.map_some, if_pos rfl]⟩
    · rw [Candidate.raise, hr, Bool.or_true]
  | pushed hp hk hroom =>
    exact ⟨r.row, List.mem_append_right _ (List.mem_singleton_self _), r.key_row, id⟩

/-- A run that is not cut off has every row it asks for. -/
theorem run_has {calls : List DiscoveryCall} (ht : (d.run calls).truncated = false)
    {call : DiscoveryCall} (hc : call ∈ calls) (hr : call.Asks r) : (d.run calls).Has r := by
  induction calls generalizing d with
  | nil => cases hc
  | cons first calls ih =>
    rw [run_cons] at ht ⊢
    rcases List.mem_cons.mp hc with rfl | hc
    · exact (run_growsTo _ calls).has ((call.apply_request d hr.1).has hr.2 (truncated_of_run ht))
    · exact ih ht hc

theorem NgFunctionDiscovery.From.mono {requests' : AddRequest → Prop} (h : d.From requests)
    (hle : ∀ r, requests r → requests' r) : d.From requests' := by
  intro c hc
  obtain ⟨⟨r, hr, hkey⟩, hroot⟩ := h c hc
  refine ⟨⟨r, hle r hr, hkey⟩, fun hc => ?_⟩
  obtain ⟨r, hr, hrest⟩ := hroot hc
  exact ⟨r, hle r hr, hrest⟩

theorem AddOutcome.from (h : AddOutcome d r d') (hd : d.From requests)
    (hr : r.probable = true → requests r) : d'.From requests := by
  cases h with
  | skipped | refused => exact hd
  | @raised i c hp hi hk =>
    intro c' hc'
    obtain ⟨j, hj⟩ := List.mem_iff_getElem?.mp hc'
    rw [getElem?_raise] at hj
    obtain ⟨c₀, hc₀, rfl⟩ := Option.map_eq_some_iff.mp hj
    have hold := hd c₀ (List.mem_of_getElem? hc₀)
    split_ifs with hij
    · subst hij
      cases hi.symm.trans hc₀
      refine ⟨hold.1, fun hroot => ?_⟩
      rcases Bool.or_eq_true_iff.mp hroot with hroot | hroot
      · exact hold.2 hroot
      · exact ⟨r, hr hp, hk.symm, hroot⟩
    · exact hold
  | pushed hp hk hroom =>
    intro c hc
    rcases List.mem_append.mp hc with hc | hc
    · exact hd c hc
    · rw [List.mem_singleton.mp hc]
      exact ⟨⟨r, hr hp, r.key_row.symm⟩, fun hroot => ⟨r, hr hp, r.key_row.symm, hroot⟩⟩

theorem NgFunctionDiscovery.From.run (h : d.From requests) {calls : List DiscoveryCall}
    (hcalls : ∀ call ∈ calls, ∀ r, call.Asks r → requests r) : (d.run calls).From requests := by
  induction calls generalizing d with
  | nil => exact h
  | cons call calls ih =>
    apply ih _ fun call' hcall' => hcalls call' (List.mem_cons_of_mem _ hcall')
    cases hr : call.request with
    | none =>
      rw [call.apply_truncate d hr]
      exact h
    | some r =>
      exact (call.apply_request d hr).from h fun hp => hcalls call List.mem_cons_self r ⟨hr, hp⟩

end Rows

/-! ## Script streams -/

section Scripts
variable {rom : NgProgramRom} {config : NgGameConfig} {calloc : Nat → Nat → Bool}
  {seeds : List (BitVec 32)} {d : NgFunctionDiscovery}

/-- A slot scan asks for nothing together that it does not ask for with one interpreter alone. -/
theorem slotScan_single {infos : List NgScriptInterpreterInfo} {start : BitVec 32} {turns : Nat}
    {pc : BitVec 32} {areg : NgM68kStaticAregState} {indexBound : NgM68kIndexRegBoundState}
    {slots : NgStaticA6SlotPointerState} {call : DiscoveryCall}
    (h : call ∈ slotScan rom infos start turns pc areg indexBound slots) :
    ∃ info ∈ infos, call ∈ slotScan rom [info] start turns pc areg indexBound slots := by
  induction turns generalizing pc areg indexBound slots with
  | zero => cases h
  | succ turns ih =>
    rw [slotScan] at h
    cases hd : decodeCode rom pc with
    | none =>
      rw [hd] at h
      cases h
    | some instr =>
      rw [hd] at h
      rcases List.mem_append.mp h with h | h
      · cases hslot : (eaIsA6SlotLocal instr.dst).filter (· < ngFunctionDiscoveryStaticA6Slots) with
        | none =>
          rw [hslot] at h
          cases h
        | some slot =>
          rw [hslot] at h
          obtain ⟨info, hinfo, hcall⟩ := List.mem_flatMap.mp h
          refine ⟨info, hinfo, ?_⟩
          rw [slotScan, hd]
          dsimp only
          rw [hslot]
          exact List.mem_append_left _
            (List.mem_flatMap.mpr ⟨info, List.mem_singleton_self _, hcall⟩)
      · split_ifs at h with hstop
        · cases h
        · obtain ⟨info, hinfo, hcall⟩ := ih h
          refine ⟨info, hinfo, ?_⟩
          rw [slotScan, hd]
          dsimp only
          rw [if_neg hstop]
          exact List.mem_append_right _ hcall

theorem mem_scannedRows {row : Nat × Candidate} (h : row ∈ scannedRows d) :
    d.candidates[row.1]? = some row.2 := by
  have hzip : row ∈ (List.range d.count).zip d.candidates := by
    unfold scannedRows at h
    dsimp only at h
    split_ifs at h
    · exact (List.mem_filter.mp h).1
    · exact h
  obtain ⟨i, hi⟩ := List.mem_iff_getElem?.mp hzip
  rw [List.getElem?_zip_eq_some] at hi
  obtain ⟨hindex, hrow⟩ := hi
  obtain ⟨hi, hget⟩ := List.getElem?_eq_some_iff.mp hindex
  rw [List.getElem_range] at hget
  rw [← hget]
  exact hrow

theorem root_of_scannedRows (hany : d.candidates.any (·.isScanRoot) = true) {row : Nat × Candidate}
    (h : row ∈ scannedRows d) : row.2.isScanRoot = true := by
  unfold scannedRows at h
  rw [hany] at h
  exact (List.mem_filter.mp h).2

theorem discoveryEntryRomView_of_row {i : Nat} {c : Candidate} (h : d.candidates[i]? = some c) :
    discoveryEntryRomView rom d i = bankView rom c.entryBank := by
  show bankView rom (ngFunctionDiscoveryBankAt d i) = _
  rw [ngFunctionDiscoveryBankAt, h]

/-- The interpreters that are collected stand at roots of the record. -/
theorem interprets_of_collected (hfrom : d.From (Sought rom config calloc seeds))
    (hany : d.candidates.any (·.isScanRoot) = true) :
    ∀ info ∈ collectScriptInterpreters rom d, Interprets rom config calloc seeds info := by
  have hloop (rows : List (Nat × Candidate)) (infos : List NgScriptInterpreterInfo)
      (hrows : ∀ row ∈ rows, row ∈ scannedRows d)
      (hinfos : ∀ info ∈ infos, Interprets rom config calloc seeds info) :
      ∀ info ∈ collectInfos rom d rows infos, Interprets rom config calloc seeds info := by
    induction rows generalizing infos with
    | nil => exact hinfos
    | cons row rows ih =>
      have hrest := fun row h => hrows row (List.mem_cons_of_mem _ h)
      unfold collectInfos
      cases hinfo : analyzeScriptInterpreter (discoveryEntryRomView rom d row.1) row.2.addr with
      | none => exact ih infos hrest hinfos
      | some info =>
        have hrow := hrows row List.mem_cons_self
        have hc := mem_scannedRows hrow
        have hnew : Interprets rom config calloc seeds info := by
          obtain ⟨r, hr, hkey, hroot⟩ :=
            (hfrom row.2 (List.mem_of_getElem? hc)).2 (root_of_scannedRows hany hrow)
          obtain ⟨haddr, hbank⟩ := Prod.mk.inj hkey
          refine ⟨r, hr, hroot, ?_⟩
          rw [haddr, hbank, ← discoveryEntryRomView_of_row hc]
          exact hinfo
        dsimp only
        split_ifs
        · exact ih infos hrest hinfos
        · exact hinfos
        · apply ih _ hrest
          intro info' h
          rcases List.mem_append.mp h with h | h
          · exact hinfos info' h
          · rw [List.mem_singleton.mp h]
            exact hnew
  exact hloop _ [] (fun _ h => h) fun info h => absurd h List.not_mem_nil

/-- A root that is sought or named by a script stream names callbacks only. -/
theorem scripted_of_asks {root r : AddRequest}
    (hroot : Sought rom config calloc seeds root ∨ Scripted rom config calloc seeds root)
    (h : ScriptAsks rom config calloc seeds root r) : Scripted rom config calloc seeds r := by
  rcases hroot with hroot | ⟨first, hfirst, hpath⟩
  · exact ⟨root, hroot, .single h⟩
  · exact ⟨first, hfirst, hpath.tail h⟩

/-- The search of the scripts asks for callbacks of script streams. -/
theorem scripted_of_calls (hfrom : d.From (Sought rom config calloc seeds))
    (hany : d.candidates.any (·.isScanRoot) = true) :
    ∀ call ∈ addScriptStreamCallbacksFromDiscovery rom d, ∀ r, call.Asks r →
      Scripted rom config calloc seeds r := by
  have hinfos := interprets_of_collected hfrom hany
  have hpass (turns index : Nat) (d' : NgFunctionDiscovery)
      (hfrom' : d'.From fun r =>
        Sought rom config calloc seeds r ∨ Scripted rom config calloc seeds r) :
      ∀ call ∈ scriptPass rom (collectScriptInterpreters rom d) true turns index d', ∀ r,
        call.Asks r → Scripted rom config calloc seeds r := by
    induction turns generalizing index d' with
    | zero => exact fun call h => absurd h List.not_mem_nil
    | succ turns ih =>
      have hrow : ∀ call ∈ scriptPassRow rom (collectScriptInterpreters rom d) true d' index, ∀ r,
          call.Asks r → Scripted rom config calloc seeds r := by
        intro call hcall r hr
        unfold scriptPassRow at hcall
        cases hc : d'.candidates[index]? with
        | none =>
          rw [hc] at hcall
          cases hcall
        | some c =>
          rw [hc] at hcall
          dsimp only at hcall
          split_ifs at hcall with hskip
          · cases hcall
          · rw [Bool.true_and, Bool.not_eq_true', Bool.not_eq_false] at hskip
            obtain ⟨root, hroot, hkey, hflag⟩ := (hfrom' c (List.mem_of_getElem? hc)).2 hskip
            obtain ⟨haddr, hbank⟩ := Prod.mk.inj hkey
            obtain ⟨info, hinfo, hsingle⟩ := slotScan_single hcall
            refine scripted_of_asks hroot ⟨hflag, info, hinfos info hinfo, call, ?_, hr⟩
            rw [haddr, hbank, ← discoveryEntryRomView_of_row hc]
            exact hsingle
      intro call hcall
      unfold scriptPass at hcall
      dsimp only at hcall
      split_ifs at hcall
      · cases hcall
      · rcases List.mem_append.mp hcall with hcall | hcall
        · exact hrow call hcall
        · exact ih (index + 1) _ (hfrom'.run fun call h r hr => .inr (hrow call h r hr)) call hcall
  intro call hcall
  unfold addScriptStreamCallbacksFromDiscovery at hcall
  dsimp only at hcall
  split_ifs at hcall
  · cases hcall
  · rw [hany] at hcall
    exact hpass _ 0 d (hfrom.mono fun r => .inl) call hcall

end Scripts

/-! ## The search -/

section Search
variable (rom : NgProgramRom) (config : NgGameConfig)

/-- The record has what a scan of the row asks for. -/
def ScannedRow (d : NgFunctionDiscovery) (c : Candidate) : Prop :=
  ∀ call ∈ scanFunctionCandidate (bankView rom c.entryBank) c.addr config, ∀ r, call.Asks r →
    d.Has r

/-- A state of the search: all rows come from `requests`, the record has everything in `held`, and
the rows marked as scanned have been scanned. -/
structure Worklist.Searching (requests held : AddRequest → Prop) (w : Worklist) : Prop where
  from_requests : w.discovery.truncated = false → w.discovery.From requests
  has : w.discovery.truncated = false → ∀ r, held r → w.discovery.Has r
  scans : w.discovery.truncated = false → ∀ {i c}, w.discovery.candidates[i]? = some c →
    w.scanned i = true → ScannedRow rom config w.discovery c
  fresh : ∀ i, w.discovery.count ≤ i → w.scanned i = false

variable {rom config} {w : Worklist} {requests held : AddRequest → Prop}
  {d d' : NgFunctionDiscovery} {c c' : Candidate}

theorem ScannedRow.mono (h : ScannedRow rom config d c) (hgrows : d.GrowsTo d')
    (hkey : c'.key = c.key) : ScannedRow rom config d' c' := by
  obtain ⟨haddr, hbank⟩ := Prod.mk.inj hkey
  intro call hcall r hr
  rw [haddr, hbank] at hcall
  exact hgrows.has (h call hcall r hr)

/-- Rows stay scanned whatever is added, and a row whose calls are made becomes scanned. -/
theorem Worklist.Searching.step (h : w.Searching rom config requests held)
    {calls : List DiscoveryCall} {scanned : Nat → Bool} {cursor : Nat} {passDone : Bool}
    (hcalls : w.discovery.truncated = false → ∀ call ∈ calls, ∀ r, call.Asks r → requests r)
    (hnew : ∀ {i c}, w.discovery.candidates[i]? = some c → scanned i = true →
      w.scanned i = false →
        calls = scanFunctionCandidate (bankView rom c.entryBank) c.addr config)
    (hfresh : ∀ i, w.discovery.count ≤ i → scanned i = false) :
    Worklist.Searching rom config requests held
      { discovery := w.discovery.run calls, scanned, cursor
        scriptStreamPassDone := passDone } where
  fresh i hi := hfresh i ((run_growsTo _ calls).count_le.trans hi)
  from_requests ht := (h.from_requests (truncated_of_run ht)).run (hcalls (truncated_of_run ht))
  has ht r hr := (run_growsTo _ calls).has (h.has (truncated_of_run ht) r hr)
  scans := by
    intro ht i c hc hscanned
    dsimp only at ht hc hscanned ⊢
    rcases run_rowFrom _ calls hc with ⟨c₀, hc₀, hraised⟩ | ⟨hi, -⟩
    · cases hold : w.scanned i with
      | true =>
        exact (h.scans (truncated_of_run ht) hc₀ hold).mono (run_growsTo _ calls) hraised.key_eq
      | false =>
        intro call hcall r hr
        rw [hraised.addr_eq, hraised.entryBank_eq, ← hnew hc₀ hscanned hold] at hcall
        exact run_has ht hcall hr
    · rw [hfresh i hi] at hscanned
      cases hscanned

theorem Worklist.Searching.scanRow (h : w.Searching rom config requests held)
    (hclosed : ∀ root r, requests root → ScanAsks rom config root r → requests r) {i cursor : Nat}
    (hp : w.pending i = true) (hc : w.discovery.candidates[i]? = some c) :
    (w.scanRow rom config i cursor c).next.Searching rom config requests held := by
  have hview : discoveryEntryRomView rom w.discovery i = bankView rom c.entryBank :=
    discoveryEntryRomView_of_row hc
  unfold Worklist.scanRow
  rw [hview]
  refine h.step ?_ ?_ ?_
  · intro ht call hcall r hr
    obtain ⟨c', hc', hflag, -⟩ := w.pending_row hp
    cases hc.symm.trans hc'
    obtain ⟨root, hroot, hkey, hrootFlag⟩ :=
      (h.from_requests ht c (List.mem_of_getElem? hc)).2 hflag
    obtain ⟨haddr, hbank⟩ := Prod.mk.inj hkey
    refine hclosed root r hroot ⟨hrootFlag, call, ?_, hr⟩
    rw [haddr, hbank]
    exact hcall
  · intro j c' hc' hscanned hold
    have hij : j = i := by
      by_contra hne
      rw [Function.update_of_ne hne, hold] at hscanned
      cases hscanned
    subst hij
    cases hc.symm.trans hc'
    rfl
  · intro j hj
    have hlt := w.lt_count_of_row hc
    rw [Function.update_of_ne (by omega)]
    exact h.fresh j hj

/-- When no root is pending, every root has been scanned. -/
theorem Worklist.Searching.scanned_of_idle (h : w.Searching rom config requests held)
    (hidle : ∀ i, w.pending i = false) (ht : w.discovery.truncated = false)
    (hc : c ∈ w.discovery.candidates) (hroot : c.isScanRoot = true) :
    ScannedRow rom config w.discovery c := by
  obtain ⟨i, hi⟩ := List.mem_iff_getElem?.mp hc
  apply h.scans ht hi
  by_contra hscanned
  have hpending := Worklist.pending_of_row hi hroot (Bool.not_eq_true _ ▸ hscanned)
  rw [hidle i] at hpending
  cases hpending

variable {calloc : Nat → Nat → Bool} {seeds : List (BitVec 32)} {maxCandidates : BitVec 32}

theorem Sought.scan {root r : AddRequest} (hroot : Sought rom config calloc seeds root)
    (h : ScanAsks rom config root r) : Sought rom config calloc seeds r := by
  obtain ⟨seed, hseed, hpath⟩ := hroot
  exact ⟨seed, hseed, hpath.tail h⟩

theorem Reached.scan {root r : AddRequest} (hroot : Reached rom config calloc seeds root)
    (h : ScanAsks rom config root r) : Reached rom config calloc seeds r := by
  obtain ⟨first, hfirst, hpath⟩ := hroot
  exact ⟨first, hfirst, hpath.tail h⟩

/-- By then the record has all that the seeds lead to: by induction along the scans. -/
theorem Worklist.Searching.sought_of_idle
    (h : w.Searching rom config requests (Seeded rom config calloc seeds))
    (hidle : ∀ i, w.pending i = false) (ht : w.discovery.truncated = false) :
    ∀ r, Sought rom config calloc seeds r → w.discovery.Has r := by
  rintro r ⟨seed, hseed, hpath⟩
  induction hpath with
  | refl => exact h.has ht seed hseed
  | @tail root r hpath hscan ih =>
    obtain ⟨hflag, call, hcall, hr⟩ := hscan
    obtain ⟨c, hc, hkey, hroot⟩ := ih
    obtain ⟨haddr, hbank⟩ := Prod.mk.inj hkey
    rw [← haddr, ← hbank] at hcall
    exact h.scanned_of_idle hidle ht hc (hroot hflag) call hcall r hr

variable (rom config calloc seeds) in
/-- The states of the loop, before and after the search of the scripts. -/
structure Worklist.Seeking (w : Worklist) : Prop where
  before : w.scriptStreamPassDone = false →
    w.Searching rom config (Sought rom config calloc seeds) (Seeded rom config calloc seeds)
  after : w.scriptStreamPassDone = true →
    w.Searching rom config (Reached rom config calloc seeds) (Sought rom config calloc seeds)

variable (rom config calloc seeds) in
/-- What a search that is not truncated ends with. -/
structure Searched (d : NgFunctionDiscovery) : Prop where
  sought : ∀ r, Sought rom config calloc seeds r → d.Has r
  reached : ∀ c ∈ d.candidates, c.isScanRoot = true →
    ∃ root, Reached rom config calloc seeds root ∧ root.key = c.key ∧ root.isScanRoot = true
  scanned : ∀ c ∈ d.candidates, c.isScanRoot = true →
    ScannedRow rom config d c ∨ ScriptedLabel rom config calloc seeds c.key

section Turns
-- Something was seeded.
variable (hseed : ∃ r, Seeded rom config calloc seeds r ∧ r.isScanRoot = true)

include hseed in
/-- The state when the scripts are searched for the first time. -/
theorem Worklist.Seeking.idle (h : w.Seeking rom config calloc seeds)
    (hdone : w.scriptStreamPassDone = false) (hidle : ∀ i, w.pending i = false)
    (ht : w.discovery.truncated = false) :
    (∀ r, Sought rom config calloc seeds r → w.discovery.Has r) ∧
      ∀ call ∈ addScriptStreamCallbacksFromDiscovery rom w.discovery, ∀ r, call.Asks r →
        Scripted rom config calloc seeds r := by
  have hsearch := h.before hdone
  have hsought := hsearch.sought_of_idle hidle ht
  refine ⟨hsought, scripted_of_calls (hsearch.from_requests ht) ?_⟩
  obtain ⟨r, hr, hflag⟩ := hseed
  obtain ⟨c, hc, -, hroot⟩ := hsought r ⟨r, hr, .refl⟩
  exact List.any_eq_true.mpr ⟨c, hc, hroot hflag⟩

theorem reached_of_sought {r : AddRequest} (h : Sought rom config calloc seeds r) :
    Reached rom config calloc seeds r := ⟨r, .inl h, .refl⟩

theorem reached_of_scripted {r : AddRequest} (h : Scripted rom config calloc seeds r) :
    Reached rom config calloc seeds r := ⟨r, .inr h, .refl⟩

include hseed in
/-- Behind the search of the scripts the record has what they name as well. -/
theorem Worklist.Seeking.scripts (h : w.Seeking rom config calloc seeds)
    (hdone : w.scriptStreamPassDone = false) (hidle : ∀ i, w.pending i = false) (cursor : Nat) :
    Worklist.Searching rom config (Reached rom config calloc seeds)
      (Sought rom config calloc seeds)
      { discovery := w.discovery.run (addScriptStreamCallbacksFromDiscovery rom w.discovery)
        scanned := w.scanned, cursor, scriptStreamPassDone := true } := by
  have hbefore := h.before hdone
  have hsearch : w.Searching rom config (Reached rom config calloc seeds)
      (Sought rom config calloc seeds) :=
    { from_requests := fun ht => (hbefore.from_requests ht).mono fun r => reached_of_sought
      has := fun ht => (h.idle hseed hdone hidle ht).1
      scans := hbefore.scans
      fresh := hbefore.fresh }
  refine hsearch.step ?_ ?_ hsearch.fresh
  · exact fun ht call hcall r hr =>
      reached_of_scripted ((h.idle hseed hdone hidle ht).2 call hcall r hr)
  · intro i c hc hscanned hold
    rw [hold] at hscanned
    cases hscanned

include hseed in
theorem Worklist.Seeking.turn (h : w.Seeking rom config calloc seeds)
    (hgo : (w.turn rom config).continues = true) :
    (w.turn rom config).next.Seeking rom config calloc seeds := by
  obtain ⟨i, cursor, c, hp, hc, ht⟩ | ⟨hidle, cursor, ht⟩ := w.turn_cases rom config
  · rw [ht]
    exact ⟨fun hdone => (h.before hdone).scanRow (fun _ _ => Sought.scan) hp hc,
      fun hdone => (h.after hdone).scanRow (fun _ _ => Reached.scan) hp hc⟩
  · rw [ht, Worklist.scriptTurn] at hgo ⊢
    cases hdone : w.scriptStreamPassDone with
    | true =>
      rw [hdone, if_pos rfl] at hgo
      cases hgo
    | false =>
      rw [hdone, if_neg Bool.false_ne_true] at hgo
      rw [if_neg Bool.false_ne_true]
      dsimp only at hgo ⊢
      split_ifs at hgo ⊢
      exact ⟨fun h => (by cases h), fun _ => h.scripts hseed hdone hidle 0⟩

include hseed in
/-- The loop ends when no root is pending.  If the scripts have just been searched, nothing was
added, but labels may have become roots. -/
theorem Worklist.Seeking.ends (h : w.Seeking rom config calloc seeds)
    (hstop : (w.turn rom config).continues = false)
    (ht : (w.turn rom config).next.discovery.truncated = false) :
    Searched rom config calloc seeds (w.turn rom config).next.discovery := by
  obtain ⟨i, cursor, c, -, -, he⟩ | ⟨hidle, cursor, he⟩ := w.turn_cases rom config
  · rw [he] at hstop
    cases hstop
  rw [he, Worklist.scriptTurn] at hstop ht ⊢
  cases hdone : w.scriptStreamPassDone with
  | true =>
    rw [hdone, if_pos rfl] at ht
    rw [if_pos rfl]
    have hsearch := h.after hdone
    exact ⟨hsearch.has ht, fun c hc => (hsearch.from_requests ht c hc).2,
      fun c hc hroot => .inl (hsearch.scanned_of_idle hidle ht hc hroot)⟩
  | false =>
    rw [hdone, if_neg Bool.false_ne_true] at hstop ht
    rw [if_neg Bool.false_ne_true]
    dsimp only at hstop ht ⊢
    split_ifs at hstop ht ⊢ with hcount
    have hsearch := h.scripts hseed hdone hidle cursor
    have hbefore := truncated_of_run ht
    obtain ⟨hsought, hcalls⟩ := h.idle hseed hdone hidle hbefore
    have hgrows := run_growsTo w.discovery (addScriptStreamCallbacksFromDiscovery rom w.discovery)
    refine ⟨hsearch.has ht, fun c hc => (hsearch.from_requests ht c hc).2, fun c hc hroot => ?_⟩
    -- the row stood in the record before, and is scanned if the seeds lead to it as a root
    by_cases hknown : ∃ r, Sought rom config calloc seeds r ∧ r.key = c.key ∧ r.isScanRoot = true
    · obtain ⟨r, hr, hkey, hflag⟩ := hknown
      obtain ⟨c₀, hc₀, hkey₀, hroot₀⟩ := hsought r hr
      have hscanned := (h.before hdone).scanned_of_idle hidle hbefore hc₀ (hroot₀ hflag)
      exact .inl (hscanned.mono hgrows (hkey.symm.trans hkey₀.symm))
    · right
      obtain ⟨i, hi⟩ := List.mem_iff_getElem?.mp hc
      obtain ⟨c₀, hc₀, hraised⟩ : ∃ c₀, w.discovery.candidates[i]? = some c₀ ∧ c₀.RaisedTo c := by
        rcases run_rowFrom _ _ hi with hold | ⟨hle, -⟩
        · exact hold
        · have hlt := (List.getElem?_eq_some_iff.mp hi).1
          dsimp only at hlt
          unfold NgFunctionDiscovery.count at hcount hle
          omega
      have hfrom := (h.before hdone).from_requests hbefore
      obtain ⟨label, hlabel, hkey⟩ := (hfrom c₀ (List.mem_of_getElem? hc₀)).1
      refine ⟨⟨label, hlabel, hkey.trans hraised.key_eq.symm⟩, ?_, fun r hr hkey => ?_⟩
      · have hboth := (hfrom.mono fun r => Or.inl).run fun call hcall r hr =>
          Or.inr (hcalls call hcall r hr)
        obtain ⟨r, hr, hkey, hflag⟩ := (hboth c hc).2 hroot
        rcases hr with hr | hr
        · exact absurd ⟨r, hr, hkey, hflag⟩ hknown
        · exact ⟨r, hr, hkey⟩
      · by_contra hflag
        rw [Bool.not_eq_false] at hflag
        exact hknown ⟨r, hr, hkey, hflag⟩

end Turns

/-- A search that succeeds was seeded. -/
theorem seeded_of_discovered
    (hret : ngFunctionDiscoverFromGameConfigLimited calloc rom seeds config maxCandidates =
      some (true, d)) :
    ∃ r, Seeded rom config calloc seeds r ∧ r.isScanRoot = true := by
  unfold ngFunctionDiscoverFromGameConfigLimited at hret
  dsimp only at hret
  split_ifs at hret with hempty
  · cases hret
  · rw [not_or] at hempty
    obtain ⟨c, hc⟩ := List.exists_mem_of_length_pos (Nat.pos_of_ne_zero hempty.1)
    obtain ⟨i, hi⟩ := List.mem_iff_getElem?.mp hc
    rcases run_rowFrom _ _ hi with ⟨c₀, hc₀, -⟩ | ⟨-, call, hcall, r, hr, hp, -⟩
    · cases hc₀
    · exact ⟨r, ⟨call, hcall, hr, hp⟩,
        ((seedingCalls_adds calloc rom seeds config).request hcall hr).2⟩

/-- What a search ends with that is not truncated. -/
theorem searched
    (hret : ngFunctionDiscoverFromGameConfigLimited calloc rom seeds config maxCandidates =
      some (true, d)) (ht : d.truncated = false) : Searched rom config calloc seeds d := by
  have hseed := seeded_of_discovered hret
  have hstart : Worklist.Seeking rom config calloc seeds
      { discovery :=
          (emptyDiscovery maxCandidates).run (seedingCalls calloc rom seeds config) } := by
    refine ⟨fun _ => ⟨fun _ => ?_, ?_, fun _ _ _ _ h => (by cases h), fun _ _ => rfl⟩,
      fun h => by cases h⟩
    · exact NgFunctionDiscovery.From.run (fun c hc => absurd hc List.not_mem_nil)
        fun call hcall r hr => ⟨r, ⟨call, hcall, hr⟩, .refl⟩
    · exact fun ht r ⟨call, hcall, hr⟩ => run_has ht hcall hr
  exact Worklist.loop_induct (P := Worklist.Seeking rom config calloc seeds)
    (Q := fun d => d.truncated = false → Searched rom config calloc seeds d)
    (fun _ hw hgo => hw.turn hseed hgo) (fun _ hw hstop ht => hw.ends hseed hstop ht) hstart
    (discover_eq_loop hret) ht

/-- A function that a loaded configuration lists, and that looks like one, is found as a root. -/
theorem listed_discovered {loaded : LoadedGameConfig}
    (hret : ngFunctionDiscoverFromGameConfigLimited calloc rom seeds loaded.toNgGameConfig
      maxCandidates = some (true, d))
    (ht : d.truncated = false) {addr : BitVec 32} (hlisted : addr ∈ loaded.entry ++ loaded.extra)
    (hprobable : isProbableFunctionTarget rom addr = true) :
    ∃ c ∈ d.candidates, c.addr = addr ∧ c.isScanRoot = true := by
  have hcall : .add rom addr ∈ seedingCalls calloc rom seeds loaded.toNgGameConfig := by
    unfold seedingCalls
    iterate 4 apply List.mem_append_left
    rw [List.append_assoc, ← List.map_append]
    exact List.mem_append_right _ (List.mem_map_of_mem hlisted)
  have hseed : Seeded rom loaded.toNgGameConfig calloc seeds
      { view := rom, addr, isEntry := true, isScanRoot := true } := ⟨_, hcall, rfl, hprobable⟩
  obtain ⟨c, hc, hkey, hroot⟩ := (searched hret ht).sought _ ⟨_, hseed, .refl⟩
  exact ⟨c, hc, congrArg Prod.fst hkey, hroot rfl⟩

end Search

end NeoRecomp
