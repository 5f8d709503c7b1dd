import NeoRecomp.Correct.Views

/-!
# The record under a list of calls

What one call can do to the record, and what a run of calls therefore keeps: rows stay where they
are and only gain flags, new rows are those asked for, and a record that was not truncated has every
row it was asked for.
-/

namespace NeoRecomp

/-! ## Requests -/

/-- The arguments of `ng_function_discovery_add_with_flags`. -/
structure AddRequest where
  view : NgProgramRom
  addr : BitVec 32
  isEntry : Bool
  isScanRoot : Bool

/-- What tells rows apart. -/
def Candidate.key (c : Candidate) : BitVec 32 × BitVec 32 := (c.addr, c.entryBank)

def AddRequest.bank (r : AddRequest) : BitVec 32 := discoveryBankForAddr r.view r.addr

def AddRequest.key (r : AddRequest) : BitVec 32 × BitVec 32 := (r.addr, r.bank)

/-- The row appended for a request. -/
def AddRequest.row (r : AddRequest) : Candidate :=
  { addr := r.addr, bank := r.bank, banked := r.bank ≠ ngFunctionDiscoveryBankNone,
    isEntry := r.isEntry, isScanRoot := r.isScanRoot }

def AddRequest.probable (r : AddRequest) : Bool := isProbableFunctionTarget r.view r.addr

def DiscoveryCall.request : DiscoveryCall → Option AddRequest
  | .add view addr => some { view, addr, isEntry := true, isScanRoot := true }
  | .addLabel view addr => some { view, addr, isEntry := false, isScanRoot := false }
  | .addScanRoot view addr => some { view, addr, isEntry := false, isScanRoot := true }
  | .truncate => none

/-- A row with the key of a request. -/
def NgFunctionDiscovery.Holds (d : NgFunctionDiscovery) (r : AddRequest) : Prop :=
  ∃ c ∈ d.candidates, c.key = r.key

/-- An add turned down for lack of capacity. -/
def NgFunctionDiscovery.Refuses (d : NgFunctionDiscovery) (r : AddRequest) : Prop :=
  r.probable = true ∧ ¬ d.Holds r ∧ d.capacity ≤ d.count

@[simp] theorem AddRequest.key_row (r : AddRequest) : r.row.key = r.key := by
  unfold Candidate.key Candidate.entryBank AddRequest.key AddRequest.row
  by_cases h : r.bank = ngFunctionDiscoveryBankNone <;> simp [h]

/-! ## What scans ask for -/

/-- A call of a scan adds a root, unless it is a label. -/
theorem scanTurns_calls (rom : NgProgramRom) (start : BitVec 32) (config : NgGameConfig)
    (turns : Nat) (pc : BitVec 32) (s : ScanState) {call : DiscoveryCall} {r : AddRequest}
    (hc : call ∈ scanTurns rom start config turns pc s) (hr : call.request = some r) :
    ViewOf rom r.view ∧ (r.isScanRoot = true ∨ call = .addLabel r.view r.addr) := by
  have adds : ∀ {calls : List DiscoveryCall}, AddsFrom rom calls → call ∈ calls →
      ViewOf rom r.view ∧ (r.isScanRoot = true ∨ call = .addLabel r.view r.addr) := by
    intro calls h hc
    obtain rfl | ⟨view, addr, hv, rfl⟩ := h call hc
    · cases hr
    · rw [← Option.some.inj hr]
      exact ⟨hv, .inl rfl⟩
  induction turns generalizing pc s with
  | zero =>
    rw [scanTurns] at hc
    split_ifs at hc
    · rw [List.mem_singleton.mp hc] at hr
      rw [← Option.some.inj hr]
      exact ⟨.refl rom, .inl rfl⟩
    · cases hc
  | succ turns ih =>
    rw [scanTurns] at hc
    cases hd : decodeCode rom pc with
    | none =>
      rw [hd] at hc
      cases hc
    | some instr =>
      simp only [hd, scanCalls, List.mem_append] at hc
      rcases hc with ((hc | hc) | hc) | hc
      · split_ifs at hc
        · obtain rfl := List.mem_singleton.mp hc
          rw [← Option.some.inj hr]
          exact ⟨.refl rom, .inr rfl⟩
        · cases hc
      · exact adds (contextCalls_adds rom start config s instr) hc
      · exact adds (ownCalls_adds rom start pc s instr) hc
      · split_ifs at hc
        · cases hc
        · exact ih _ _ hc

theorem AddsFrom.request {rom : NgProgramRom} {calls : List DiscoveryCall} (h : AddsFrom rom calls)
    {call : DiscoveryCall} (hc : call ∈ calls) {r : AddRequest} (hr : call.request = some r) :
    ViewOf rom r.view ∧ r.isScanRoot = true := by
  obtain rfl | ⟨view, addr, hv, rfl⟩ := h call hc
  · cases hr
  · rw [← Option.some.inj hr]
    exact ⟨hv, rfl⟩

/-! ## One call -/

/-- The four ways an add can go. -/
inductive AddOutcome (d : NgFunctionDiscovery) (r : AddRequest) : NgFunctionDiscovery → Prop
  | skipped (h : r.probable = false) : AddOutcome d r d
  | raised {i : Nat} {c : Candidate} (h : r.probable = true) (hi : d.candidates[i]? = some c)
      (hk : c.key = r.key) : AddOutcome d r (d.raise i r.isEntry r.isScanRoot)
  | refused (h : d.Refuses r) : AddOutcome d r { d with truncated := true }
  | pushed (h : r.probable = true) (hk : ¬ d.Holds r) (hroom : ¬ d.capacity ≤ d.count) :
      AddOutcome d r (d.push r.row hroom)

theorem addWithFlags_outcome (d : NgFunctionDiscovery) (r : AddRequest) :
    AddOutcome d r
      (ngFunctionDiscoveryAddWithFlags d r.view r.addr r.isEntry r.isScanRoot).2 := by
  unfold ngFunctionDiscoveryAddWithFlags
  cases hp : isProbableFunctionTarget r.view r.addr with
  | false => exact .skipped hp
  | true =>
    simp only [Bool.not_true, Bool.false_eq_true, if_false]
    have hkey : ∀ c : Candidate, (c.addr == r.addr &&
        c.entryBank == discoveryBankForAddr r.view r.addr) = true ↔ c.key = r.key := by
      intro c
      simp [Candidate.key, AddRequest.key, AddRequest.bank]
    cases hf : d.candidates.findIdx? fun c =>
        c.addr == r.addr && c.entryBank == discoveryBankForAddr r.view r.addr with
    | some i =>
      obtain ⟨hi, hc, -⟩ := List.findIdx?_eq_some_iff_getElem.mp hf
      exact .raised hp (List.getElem?_eq_getElem hi) ((hkey _).mp hc)
    | none =>
      have hnot : ¬ d.Holds r := by
        rintro ⟨c, hc, hk⟩
        have := List.findIdx?_eq_none_iff.mp hf c hc
        rw [(hkey c).mpr hk] at this
        cases this
      dsimp only
      split_ifs with hroom
      · exact .refused ⟨hp, hnot, hroom⟩
      · exact .pushed hp hnot hroom

theorem DiscoveryCall.apply_request (d : NgFunctionDiscovery) {call : DiscoveryCall}
    {r : AddRequest} (h : call.request = some r) : AddOutcome d r (call.apply d) := by
  cases call with
  | truncate => cases h
  | add view addr | addLabel view addr | addScanRoot view addr =>
    rw [← Option.some.inj h]
    exact addWithFlags_outcome d _

theorem DiscoveryCall.apply_truncate (d : NgFunctionDiscovery) {call : DiscoveryCall}
    (h : call.request = none) : call.apply d = { d with truncated := true } := by
  cases call with
  | truncate => rfl
  | add view addr | addLabel view addr | addScanRoot view addr => cases h

/-! ## Records that grow -/

/-- The row with some flags raised. -/
def Candidate.RaisedTo (c c' : Candidate) : Prop := ∃ e s, c' = c.raise e s

theorem Candidate.RaisedTo.refl (c : Candidate) : c.RaisedTo c :=
  ⟨false, false, by simp [Candidate.raise]⟩

theorem Candidate.RaisedTo.ite (c : Candidate) (p : Prop) [Decidable p] (e s : Bool) :
    c.RaisedTo (if p then c.raise e s else c) := by
  split_ifs
  · exact ⟨e, s, rfl⟩
  · exact .refl c

theorem Candidate.RaisedTo.trans {a b c : Candidate} (h : a.RaisedTo b) (h' : b.RaisedTo c) :
    a.RaisedTo c := by
  obtain ⟨e, s, rfl⟩ := h
  obtain ⟨e', s', rfl⟩ := h'
  exact ⟨e || e', s || s', by simp [Candidate.raise, Bool.or_assoc]⟩

theorem Candidate.RaisedTo.key_eq {c c' : Candidate} (h : c.RaisedTo c') : c'.key = c.key := by
  obtain ⟨e, s, rfl⟩ := h
  rfl

theorem Candidate.RaisedTo.addr_eq {c c' : Candidate} (h : c.RaisedTo c') : c'.addr = c.addr :=
  congrArg Prod.fst h.key_eq

theorem Candidate.RaisedTo.entryBank_eq {c c' : Candidate} (h : c.RaisedTo c') :
    c'.entryBank = c.entryBank :=
  congrArg Prod.snd h.key_eq

theorem Candidate.RaisedTo.isScanRoot {c c' : Candidate} (h : c.RaisedTo c')
    (hc : c.isScanRoot = true) : c'.isScanRoot = true := by
  obtain ⟨e, s, rfl⟩ := h
  simp [Candidate.raise, hc]

/-- `d'` has the rows of `d` in their places, perhaps with more flags, and more rows. -/
structure NgFunctionDiscovery.GrowsTo (d d' : NgFunctionDiscovery) : Prop where
  rows : ∀ {i : Nat} {c : Candidate}, d.candidates[i]? = some c →
    ∃ c', d'.candidates[i]? = some c' ∧ c.RaisedTo c'
  truncated : d.truncated = true → d'.truncated = true
  maxCandidates : d'.maxCandidates = d.maxCandidates

/-- Where the rows of a record come from that grew out of `d`. -/
def NgFunctionDiscovery.RowFrom (d : NgFunctionDiscovery) (calls : List DiscoveryCall) (i : Nat)
    (c' : Candidate) : Prop :=
  (∃ c, d.candidates[i]? = some c ∧ c.RaisedTo c') ∨
    d.count ≤ i ∧ ∃ call ∈ calls, ∃ r, call.request = some r ∧ r.probable = true ∧
      r.row.RaisedTo c'

section Growth
variable {d d' d'' : NgFunctionDiscovery} {r : AddRequest}

theorem NgFunctionDiscovery.GrowsTo.refl (d : NgFunctionDiscovery) : d.GrowsTo d where
  rows h := ⟨_, h, .refl _⟩
  truncated h := h
  maxCandidates := rfl

theorem NgFunctionDiscovery.GrowsTo.trans (h : d.GrowsTo d') (h' : d'.GrowsTo d'') :
    d.GrowsTo d'' where
  rows hc := by
    obtain ⟨c', hc', hr⟩ := h.rows hc
    obtain ⟨c'', hc'', hr'⟩ := h'.rows hc'
    exact ⟨c'', hc'', hr.trans hr'⟩
  truncated ht := h'.truncated (h.truncated ht)
  maxCandidates := h'.maxCandidates.trans h.maxCandidates

theorem NgFunctionDiscovery.GrowsTo.holds (h : d.GrowsTo d') (hr : d.Holds r) : d'.Holds r := by
  obtain ⟨c, hc, hk⟩ := hr
  obtain ⟨i, hi⟩ := List.mem_iff_getElem?.mp hc
  obtain ⟨c', hc', hr⟩ := h.rows hi
  exact ⟨c', List.mem_iff_getElem?.mpr ⟨i, hc'⟩, hr.key_eq.trans hk⟩

theorem NgFunctionDiscovery.GrowsTo.count_le (h : d.GrowsTo d') : d.count ≤ d'.count := by
  by_contra hlt
  have hi : d'.count < d.candidates.length := by
    unfold NgFunctionDiscovery.count at hlt ⊢
    omega
  obtain ⟨c', hc', -⟩ := h.rows (List.getElem?_eq_getElem hi)
  have := (List.getElem?_eq_some_iff.mp hc').1
  unfold NgFunctionDiscovery.count at this
  omega

theorem getElem?_raise (d : NgFunctionDiscovery) (i j : Nat) (e s : Bool) :
    (d.raise i e s).candidates[j]? =
      (d.candidates[j]?).map fun c => if i = j then c.raise e s else c := by
  rw [NgFunctionDiscovery.raise, List.getElem?_modify]
  split_ifs <;> rfl

theorem AddOutcome.growsTo (h : AddOutcome d r d') : d.GrowsTo d' := by
  cases h with
  | skipped => exact .refl d
  | refused => exact ⟨fun h => ⟨_, h, .refl _⟩, fun _ => rfl, rfl⟩
  | @raised i c hp hi hk =>
    refine ⟨fun {j c'} hc => ?_, fun h => h, rfl⟩
    rw [getElem?_raise, hc]
    exact ⟨_, rfl, .ite c' _ _ _⟩
  | pushed hp hk hroom =>
    refine ⟨fun {j c'} hc => ⟨c', ?_, .refl c'⟩, fun h => h, rfl⟩
    have hj := (List.getElem?_eq_some_iff.mp hc).1
    rw [NgFunctionDiscovery.push, List.getElem?_append_left hj]
    exact hc

/-- A request that is probable is held afterwards, unless the record is marked as truncated. -/
theorem AddOutcome.holds (h : AddOutcome d r d') (hp : r.probable = true)
    (ht : d'.truncated = false) : d'.Holds r := by
  cases h with
  | skipped hn => rw [hp] at hn; cases hn
  | refused => cases ht
  | @raised i c _ hi hk =>
    refine ⟨c.raise r.isEntry r.isScanRoot, ?_, hk⟩
    apply List.mem_iff_getElem?.mpr
    exact ⟨i, by rw [getElem?_raise, hi, Option.map_some, if_pos rfl]⟩
  | pushed hp hk hroom =>
    exact ⟨r.row, List.mem_append_right _ (List.mem_singleton.mpr rfl), r.key_row⟩

theorem AddOutcome.rowFrom (h : AddOutcome d r d') {call : DiscoveryCall}
    (hr : call.request = some r) {i : Nat} {c' : Candidate} (hc : d'.candidates[i]? = some c') :
    d.RowFrom [call] i c' := by
  cases h with
  | skipped => exact .inl ⟨c', hc, .refl c'⟩
  | refused => exact .inl ⟨c', hc, .refl c'⟩
  | @raised j c hp hi hk =>
    rw [getElem?_raise] at hc
    obtain ⟨c₀, hc₀, rfl⟩ := Option.map_eq_some_iff.mp hc
    exact .inl ⟨c₀, hc₀, .ite c₀ _ _ _⟩
  | pushed hp hk hroom =>
    by_cases hi : i < d.candidates.length
    · rw [NgFunctionDiscovery.push, List.getElem?_append_left hi] at hc
      exact .inl ⟨c', hc, .refl c'⟩
    · refine .inr ⟨Nat.le_of_not_lt hi, call, List.mem_singleton.mpr rfl, r, hr, hp, ?_⟩
      rw [NgFunctionDiscovery.push, List.getElem?_append_right (Nat.le_of_not_lt hi)] at hc
      rw [List.mem_singleton.mp (List.mem_of_getElem? hc)]
      exact .refl _

end Growth

/-! ## Runs -/

section Run
variable (d : NgFunctionDiscovery)

theorem DiscoveryCall.apply_growsTo (call : DiscoveryCall) : d.GrowsTo (call.apply d) := by
  cases hr : call.request with
  | none =>
    rw [call.apply_truncate d hr]
    exact ⟨fun h => ⟨_, h, .refl _⟩, fun _ => rfl, rfl⟩
  | some r => exact (call.apply_request d hr).growsTo

theorem DiscoveryCall.apply_rowFrom (call : DiscoveryCall) {i : Nat} {c' : Candidate}
    (hc : (call.apply d).candidates[i]? = some c') : d.RowFrom [call] i c' := by
  cases hr : call.request with
  | none =>
    rw [call.apply_truncate d hr] at hc
    exact .inl ⟨c', hc, .refl c'⟩
  | some r => exact (call.apply_request d hr).rowFrom hr hc

theorem run_cons (call : DiscoveryCall) (calls : List DiscoveryCall) :
    d.run (call :: calls) = (call.apply d).run calls := rfl

theorem run_append (calls calls' : List DiscoveryCall) :
    d.run (calls ++ calls') = (d.run calls).run calls' :=
  List.foldl_append

theorem run_growsTo (calls : List DiscoveryCall) : d.GrowsTo (d.run calls) := by
  induction calls generalizing d with
  | nil => exact .refl d
  | cons call calls ih => exact (call.apply_growsTo d).trans (ih _)

theorem run_rowFrom (calls : List DiscoveryCall) {i : Nat} {c' : Candidate}
    (hc : (d.run calls).candidates[i]? = some c') : d.RowFrom calls i c' := by
  induction calls generalizing d with
  | nil => exact .inl ⟨c', hc, .refl c'⟩
  | cons call calls ih =>
    rcases ih (call.apply d) hc with ⟨c, hc, hr⟩ | ⟨hi, call', hmem, r, hr, hp, hraise⟩
    · -- the row was there after the first call
      rcases call.apply_rowFrom d hc with ⟨c₀, hc₀, hr₀⟩ | ⟨hi, call', hmem, r, hreq, hp, hr₀⟩
      · exact .inl ⟨c₀, hc₀, hr₀.trans hr⟩
      · refine .inr ⟨hi, call', ?_, r, hreq, hp, hr₀.trans hr⟩
        rw [List.mem_singleton.mp hmem]
        exact List.mem_cons_self
    · refine .inr ⟨(call.apply_growsTo d).count_le.trans hi, call', ?_, r, hr, hp, hraise⟩
      exact List.mem_cons_of_mem call hmem

variable {d} {calls : List DiscoveryCall} (ht : (d.run calls).truncated = false)
include ht

theorem truncated_of_run : d.truncated = false := by
  by_contra h
  rw [(run_growsTo d calls).truncated (by simpa using h)] at ht
  cases ht

theorem run_holds {call : DiscoveryCall} (hc : call ∈ calls) {r : AddRequest}
    (hr : call.request = some r) (hp : r.probable = true) : (d.run calls).Holds r := by
  induction calls generalizing d with
  | nil => cases hc
  | cons call' calls ih =>
    rw [run_cons] at ht ⊢
    rcases List.mem_cons.mp hc with rfl | hc
    · have := (call.apply_request d hr).holds hp (truncated_of_run ht)
      exact (run_growsTo _ calls).holds this
    · exact ih ht hc

end Run

/-! ## The rows by address and bank -/

/-- The addresses and banks of the rows. -/
def NgFunctionDiscovery.keys (d : NgFunctionDiscovery) : List (BitVec 32 × BitVec 32) :=
  d.candidates.map Candidate.key

theorem NgFunctionDiscovery.length_keys (d : NgFunctionDiscovery) : d.keys.length = d.count :=
  List.length_map _

theorem NgFunctionDiscovery.holds_iff {d : NgFunctionDiscovery} {r : AddRequest} :
    d.Holds r ↔ r.key ∈ d.keys :=
  List.mem_map.symm

/-- A run that is not cut off adds the rows it asks for and no others. -/
theorem mem_keys_run {d : NgFunctionDiscovery} {calls : List DiscoveryCall}
    (ht : (d.run calls).truncated = false) {key : BitVec 32 × BitVec 32} :
    key ∈ (d.run calls).keys ↔ key ∈ d.keys ∨
      ∃ call ∈ calls, ∃ r, call.request = some r ∧ r.probable = true ∧ key = r.key := by
  constructor
  · intro h
    obtain ⟨c', hc', rfl⟩ := List.mem_map.mp h
    obtain ⟨i, hi⟩ := List.mem_iff_getElem?.mp hc'
    rcases run_rowFrom d calls hi with ⟨c, hc, hraise⟩ | ⟨-, call, hcall, r, hr, hp, hraise⟩
    · left
      rw [hraise.key_eq]
      exact List.mem_map_of_mem (List.mem_of_getElem? hc)
    · right
      refine ⟨call, hcall, r, hr, hp, ?_⟩
      rw [hraise.key_eq, r.key_row]
  · rintro (h | ⟨call, hcall, r, hr, hp, rfl⟩)
    · obtain ⟨c, hc, rfl⟩ := List.mem_map.mp h
      obtain ⟨i, hi⟩ := List.mem_iff_getElem?.mp hc
      obtain ⟨c', hc', hraise⟩ := (run_growsTo d calls).rows hi
      rw [← hraise.key_eq]
      exact List.mem_map_of_mem (List.mem_of_getElem? hc')
    · exact NgFunctionDiscovery.holds_iff.mp (run_holds ht hcall hr hp)

end NeoRecomp
