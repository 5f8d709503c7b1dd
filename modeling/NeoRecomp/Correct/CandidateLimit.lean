import NeoRecomp.Correct.WorklistRuns

/-!
# The candidate limit

Two searches with different limits do the same until the smaller record is full and turns a row down.
From then on the smaller record keeps its rows, and the larger one only appends to the same rows, no
matter in which order either of them goes on.
-/

namespace NeoRecomp

/-! ## Two records -/

/-- The two records hold the same, and the smaller one is not over its limit. -/
structure SameSoFar (d d' : NgFunctionDiscovery) : Prop where
  candidates : d.candidates = d'.candidates
  truncated : d.truncated = d'.truncated
  room : d.count ≤ d.capacity

/-- The smaller record is full and has turned a row down; the larger one has its rows and more. -/
structure CutOff (d d' : NgFunctionDiscovery) : Prop where
  truncated : d.truncated = true
  full : d.count = d.capacity
  more : d.count < d'.count
  keys : d.keys = d'.keys.take d.count

/-- The two runs at some point. -/
inductive Limited (d d' : NgFunctionDiscovery) : Prop
  | same (h : SameSoFar d d')
  | cut (h : CutOff d d')

section Calls
variable {d d' : NgFunctionDiscovery}

theorem SameSoFar.count_eq (h : SameSoFar d d') : d.count = d'.count :=
  congrArg List.length h.candidates

theorem NgFunctionDiscovery.GrowsTo.capacity_eq (h : d.GrowsTo d') : d'.capacity = d.capacity := by
  unfold NgFunctionDiscovery.capacity
  rw [h.maxCandidates]

/-- Rows keep their keys. -/
theorem NgFunctionDiscovery.GrowsTo.keys_eq (h : d.GrowsTo d') : d.keys = d'.keys.take d.count := by
  apply List.ext_getElem?
  intro i
  by_cases hi : i < d.count
  · obtain ⟨c', hc', hraise⟩ := h.rows (List.getElem?_eq_getElem hi)
    rw [List.getElem?_take_of_lt hi]
    unfold NgFunctionDiscovery.keys
    rw [List.getElem?_map, List.getElem?_map, List.getElem?_eq_getElem hi, hc']
    exact congrArg some hraise.key_eq.symm
  · have hd : d.keys.length ≤ i := by
      rw [d.length_keys]
      omega
    have htake : (d'.keys.take d.count).length ≤ i := by
      rw [List.length_take]
      omega
    rw [List.getElem?_eq_none hd, List.getElem?_eq_none htake]

/-- A full record takes no row. -/
theorem DiscoveryCall.apply_full (call : DiscoveryCall) (h : d.capacity ≤ d.count) :
    (call.apply d).count = d.count := by
  cases hr : call.request with
  | none =>
    rw [call.apply_truncate d hr]
    rfl
  | some r =>
    have hout := call.apply_request d hr
    generalize call.apply d = d' at hout
    cases hout with
    | skipped => rfl
    | refused => rfl
    | raised => exact List.length_modify _ _ _
    | pushed hp hk hroom => exact absurd h hroom

theorem run_full (calls : List DiscoveryCall) (h : d.capacity ≤ d.count) :
    (d.run calls).count = d.count := by
  induction calls generalizing d with
  | nil => rfl
  | cons call calls ih =>
    have hone := call.apply_full h
    rw [run_cons, ih, hone]
    rw [(call.apply_growsTo d).capacity_eq, hone]
    exact h

/-- After the cut the two runs are independent. -/
theorem CutOff.run (h : CutOff d d') (calls calls' : List DiscoveryCall) :
    CutOff (d.run calls) (d'.run calls') := by
  have hg := run_growsTo d calls
  have hg' := run_growsTo d' calls'
  have hcount : (d.run calls).count = d.count := run_full calls h.full.ge
  constructor
  · exact hg.truncated h.truncated
  · rw [hg.capacity_eq, hcount]
    exact h.full
  · rw [hcount]
    exact h.more.trans_le hg'.count_le
  · have hkeys := hg.keys_eq
    rw [← hcount, ← (d.run calls).length_keys, List.take_length] at hkeys
    rw [← hkeys, h.keys, hg'.keys_eq, List.take_take, hcount, min_eq_left h.more.le]

/-- The same add on both records. -/
theorem SameSoFar.addWithFlags (h : SameSoFar d d') (hcap : d.capacity ≤ d'.capacity)
    (rom : NgProgramRom) (addr : BitVec 32) (isEntry isScanRoot : Bool) :
    Limited (ngFunctionDiscoveryAddWithFlags d rom addr isEntry isScanRoot).2
      (ngFunctionDiscoveryAddWithFlags d' rom addr isEntry isScanRoot).2 := by
  have hfind : d.candidates.findIdx? (fun c =>
        c.addr == addr && c.entryBank == discoveryBankForAddr rom addr) =
      d'.candidates.findIdx? (fun c =>
        c.addr == addr && c.entryBank == discoveryBankForAddr rom addr) := by
    rw [h.candidates]
  unfold ngFunctionDiscoveryAddWithFlags
  by_cases hp : (!isProbableFunctionTarget rom addr) = true
  · rw [if_pos hp, if_pos hp]
    exact .same h
  · rw [if_neg hp, if_neg hp]
    dsimp only
    rw [hfind]
    split
    · -- a row both have
      rename_i i _
      refine .same ⟨?_, h.truncated, ?_⟩
      · show d.candidates.modify i _ = d'.candidates.modify i _
        rw [h.candidates]
      · show (d.candidates.modify i _).length ≤ d.capacity
        rw [List.length_modify]
        exact h.room
    · have hcount := h.count_eq
      by_cases hfull : d.capacity ≤ d.count
      · rw [dif_pos hfull]
        by_cases hfull' : d'.capacity ≤ d'.count
        · rw [dif_pos hfull']
          exact .same ⟨h.candidates, rfl, h.room⟩
        · -- only the larger record has room
          rw [dif_neg hfull']
          refine .cut ⟨rfl, Nat.le_antisymm h.room hfull, ?_, ?_⟩
          · show d.candidates.length < (d'.candidates ++ [_]).length
            rw [h.candidates, List.length_append]
            exact Nat.lt_succ_self _
          · show d.candidates.map _ = ((d'.candidates ++ [_]).map _).take d.candidates.length
            rw [h.candidates, List.map_append, List.take_append_of_le_length (by simp)]
            exact (List.take_of_length_le (by simp)).symm
      · rw [dif_neg hfull, dif_neg (by omega)]
        refine .same ⟨?_, h.truncated, ?_⟩
        · show d.candidates ++ [_] = d'.candidates ++ [_]
          rw [h.candidates]
        · show (d.candidates ++ [_]).length ≤ d.capacity
          rw [List.length_append]
          exact Nat.lt_of_not_le hfull

theorem SameSoFar.apply (h : SameSoFar d d') (hcap : d.capacity ≤ d'.capacity)
    (call : DiscoveryCall) : Limited (call.apply d) (call.apply d') := by
  cases call with
  | truncate => exact .same ⟨h.candidates, rfl, h.room⟩
  | add view addr | addLabel view addr | addScanRoot view addr =>
    exact h.addWithFlags hcap view addr _ _

/-- The same calls on both records. -/
theorem Limited.run (h : Limited d d') (hcap : d.capacity ≤ d'.capacity)
    (calls : List DiscoveryCall) : Limited (d.run calls) (d'.run calls) := by
  induction calls generalizing d d' with
  | nil => exact h
  | cons call calls ih =>
    cases h with
    | cut h => exact .cut (h.run _ _)
    | same h =>
      apply ih (h.apply hcap call)
      rw [(call.apply_growsTo d).capacity_eq, (call.apply_growsTo d').capacity_eq]
      exact hcap

end Calls

/-! ## The script pass -/

section Scripts
variable {d d' : NgFunctionDiscovery}

theorem discoveryEntryRomView_congr (h : d.candidates = d'.candidates) (rom : NgProgramRom)
    (i : Nat) : discoveryEntryRomView rom d i = discoveryEntryRomView rom d' i := by
  unfold discoveryEntryRomView ngFunctionDiscoveryBankAt
  rw [h]

theorem collectInfos_congr (h : d.candidates = d'.candidates) (rom : NgProgramRom)
    (rows : List (Nat × Candidate)) (infos : List NgScriptInterpreterInfo) :
    collectInfos rom d rows infos = collectInfos rom d' rows infos := by
  induction rows generalizing infos with
  | nil => rfl
  | cons row rows ih =>
    simp only [collectInfos, discoveryEntryRomView_congr h, ih]

theorem collectScriptInterpreters_congr (h : d.candidates = d'.candidates) (rom : NgProgramRom) :
    collectScriptInterpreters rom d = collectScriptInterpreters rom d' := by
  have hrows : scannedRows d = scannedRows d' := by
    unfold scannedRows NgFunctionDiscovery.count
    rw [h]
  unfold collectScriptInterpreters
  rw [hrows, collectInfos_congr h]

theorem scriptPassRow_congr (h : d.candidates = d'.candidates) (rom : NgProgramRom)
    (infos : List NgScriptInterpreterInfo) (haveScanRoots : Bool) (i : Nat) :
    scriptPassRow rom infos haveScanRoots d i = scriptPassRow rom infos haveScanRoots d' i := by
  unfold scriptPassRow
  rw [h]
  simp only [discoveryEntryRomView_congr h]

/-- The pass visits rows it adds itself, so the records are compared row by row. -/
theorem SameSoFar.scriptPass (h : SameSoFar d d') (hcap : d.capacity ≤ d'.capacity)
    (rom : NgProgramRom) (infos : List NgScriptInterpreterInfo) (haveScanRoots : Bool)
    (turns index : Nat) :
    Limited (d.run (scriptPass rom infos haveScanRoots turns index d))
      (d'.run (scriptPass rom infos haveScanRoots turns index d')) := by
  induction turns generalizing d d' index with
  | zero => exact .same h
  | succ turns ih =>
    rw [NeoRecomp.scriptPass, NeoRecomp.scriptPass, ← h.count_eq]
    by_cases hi : d.count ≤ index
    · rw [if_pos hi, if_pos hi]
      exact .same h
    · rw [if_neg hi, if_neg hi, ← scriptPassRow_congr h.candidates]
      dsimp only
      rw [run_append, run_append]
      cases (Limited.same h).run hcap (scriptPassRow rom infos haveScanRoots d index) with
      | cut hcut => exact .cut (hcut.run _ _)
      | same hsame =>
        apply ih hsame
        rw [(run_growsTo d _).capacity_eq, (run_growsTo d' _).capacity_eq]
        exact hcap

theorem SameSoFar.scripts (h : SameSoFar d d') (hcap : d.capacity ≤ d'.capacity)
    (rom : NgProgramRom) :
    Limited (d.run (addScriptStreamCallbacksFromDiscovery rom d))
      (d'.run (addScriptStreamCallbacksFromDiscovery rom d')) := by
  unfold addScriptStreamCallbacksFromDiscovery
  dsimp only
  rw [← collectScriptInterpreters_congr h.candidates, ← h.candidates]
  split_ifs
  · exact .same h
  · exact h.scriptPass hcap rom _ _ _ _

end Scripts

/-! ## The loop -/

section Loop
variable {rom : NgProgramRom} {config : NgGameConfig} {w w' : Worklist}

/-- The two searches are at the same point. -/
structure Worklist.InStep (w w' : Worklist) : Prop where
  discovery : SameSoFar w.discovery w'.discovery
  capacity : w.discovery.capacity ≤ w'.discovery.capacity
  scanned : w.scanned = w'.scanned
  cursor : w.cursor = w'.cursor
  scriptStreamPassDone : w.scriptStreamPassDone = w'.scriptStreamPassDone

theorem Worklist.InStep.nextRoot (h : w.InStep w') : w.nextRoot = w'.nextRoot := by
  have hpending : w.pending = w'.pending := by
    funext i
    unfold Worklist.pending
    rw [h.discovery.candidates, h.scanned]
  unfold Worklist.nextRoot
  rw [hpending, h.cursor, h.discovery.count_eq]

/-- What a turn of the one search and a turn of the other leave. -/
inductive TurnPair (t t' : WorklistTurn) : Prop
  | inStep (h : t.next.InStep t'.next) (hc : t.continues = t'.continues)
  | cut (h : CutOff t.next.discovery t'.next.discovery)

theorem Worklist.InStep.scanRow (h : w.InStep w') (i cursor : Nat) (c : Candidate) :
    TurnPair (w.scanRow rom config i cursor c) (w'.scanRow rom config i cursor c) := by
  unfold Worklist.scanRow
  dsimp only
  rw [← discoveryEntryRomView_congr h.discovery.candidates]
  generalize scanFunctionCandidate (discoveryEntryRomView rom w.discovery i) c.addr config = calls
  cases (Limited.same h.discovery).run h.capacity calls with
  | cut hcut => exact .cut hcut
  | same hsame =>
    refine .inStep ⟨hsame, ?_, ?_, rfl, h.scriptStreamPassDone⟩ rfl
    · show (w.discovery.run calls).capacity ≤ (w'.discovery.run calls).capacity
      rw [(run_growsTo _ calls).capacity_eq, (run_growsTo _ calls).capacity_eq]
      exact h.capacity
    · show Function.update w.scanned i true = Function.update w'.scanned i true
      rw [h.scanned]

theorem Worklist.InStep.scriptTurn (h : w.InStep w') (cursor : Nat) :
    TurnPair (w.scriptTurn rom cursor) (w'.scriptTurn rom cursor) := by
  unfold Worklist.scriptTurn
  rw [← h.scriptStreamPassDone]
  by_cases hdone : w.scriptStreamPassDone = true
  · rw [if_pos hdone, if_pos hdone]
    exact .inStep ⟨h.discovery, h.capacity, h.scanned, rfl, rfl⟩ rfl
  · rw [if_neg hdone, if_neg hdone]
    dsimp only
    have hpass := h.discovery.scripts h.capacity rom
    have hcap : (w.discovery.run (addScriptStreamCallbacksFromDiscovery rom w.discovery)).capacity ≤
        (w'.discovery.run (addScriptStreamCallbacksFromDiscovery rom w'.discovery)).capacity := by
      rw [(run_growsTo _ _).capacity_eq, (run_growsTo _ _).capacity_eq]
      exact h.capacity
    generalize w.discovery.run (addScriptStreamCallbacksFromDiscovery rom w.discovery) = d
      at hpass hcap ⊢
    generalize w'.discovery.run (addScriptStreamCallbacksFromDiscovery rom w'.discovery) = d'
      at hpass hcap ⊢
    cases hpass with
    | cut hcut =>
      apply TurnPair.cut
      split_ifs <;> exact hcut
    | same hsame =>
      rw [hsame.count_eq, h.discovery.count_eq]
      split_ifs
      · exact .inStep ⟨hsame, hcap, h.scanned, rfl, rfl⟩ rfl
      · exact .inStep ⟨hsame, hcap, h.scanned, rfl, rfl⟩ rfl

theorem Worklist.InStep.turn (h : w.InStep w') :
    TurnPair (w.turn rom config) (w'.turn rom config) := by
  unfold Worklist.turn
  rw [← h.nextRoot, h.discovery.candidates]
  split
  · split
    · exact h.scanRow _ _ _
    · exact h.scriptTurn _
  · exact h.scriptTurn _

/-- The record a search ends with has grown out of every record on the way. -/
theorem Worklist.loop_calls {turns : Nat} {w : Worklist} {d : NgFunctionDiscovery}
    (h : w.loop rom config turns = some d) : ∃ calls, d = w.discovery.run calls := by
  apply Worklist.loop_induct (P := fun v => ∃ calls, v.discovery = w.discovery.run calls) _ _
    ⟨[], rfl⟩ h
  · rintro v ⟨calls, hv⟩ -
    rw [v.turn_discovery, hv, ← run_append]
    exact ⟨_, rfl⟩
  · rintro v ⟨calls, hv⟩ -
    rw [v.turn_discovery, hv, ← run_append]
    exact ⟨_, rfl⟩

/-- One turn and what may follow it. -/
theorem Worklist.loop_turn {turns : Nat} {w : Worklist} {d : NgFunctionDiscovery}
    (h : w.loop rom config (turns + 1) = some d) :
    ((w.turn rom config).continues = true →
      (w.turn rom config).next.loop rom config turns = some d) ∧
    ((w.turn rom config).continues = false → d = (w.turn rom config).next.discovery) ∧
      ∃ calls, d = (w.turn rom config).next.discovery.run calls := by
  rw [Worklist.loop] at h
  cases hc : (w.turn rom config).continues with
  | true =>
    rw [hc, if_pos rfl] at h
    exact ⟨fun _ => h, fun h => absurd h (by decide), Worklist.loop_calls h⟩
  | false =>
    rw [hc, if_neg (by decide)] at h
    have hd := (Option.some.inj h).symm
    exact ⟨fun h => absurd h (by decide), fun _ => hd, [], hd⟩

theorem Worklist.InStep.loop (h : w.InStep w') {turns turns' : Nat} {d d' : NgFunctionDiscovery}
    (hd : w.loop rom config turns = some d) (hd' : w'.loop rom config turns' = some d') :
    Limited d d' := by
  induction turns generalizing w w' turns' with
  | zero => cases hd
  | succ turns ih =>
    cases turns' with
    | zero => cases hd'
    | succ turns' =>
      obtain ⟨hgo, hstop, calls, hcalls⟩ := Worklist.loop_turn hd
      obtain ⟨hgo', hstop', calls', hcalls'⟩ := Worklist.loop_turn hd'
      cases @Worklist.InStep.turn rom config _ _ h with
      | cut hcut =>
        rw [hcalls, hcalls']
        exact .cut (hcut.run _ _)
      | inStep hnext hc =>
        cases hcont : (w.turn rom config).continues with
        | true => exact ih hnext (hgo hcont) (hgo' (hc ▸ hcont))
        | false =>
          rw [hstop hcont, hstop' (hc ▸ hcont)]
          exact .same hnext.discovery

end Loop

/-! ## The whole search -/

theorem capacity_emptyDiscovery {m : BitVec 32} (hpos : 0 < m)
    (hmax : m.toNat ≤ ngFunctionDiscoveryMaxCandidates) :
    (emptyDiscovery m).capacity = m.toNat := by
  have hne : m ≠ 0 := by
    rintro rfl
    exact absurd hpos (by decide)
  have hkeep : ¬ (m = 0 ∨ ngFunctionDiscoveryMaxCandidates < m.toNat) := by
    rintro (h | h)
    · exact hne h
    · omega
  unfold emptyDiscovery ngFunctionDiscoverySetMaxCandidates NgFunctionDiscovery.capacity
  simp only [if_neg hkeep, if_neg hne]
  exact min_eq_left hmax

/-- The result of a limited search in terms of one with a larger limit. -/
theorem Limited.result {d d' : NgFunctionDiscovery} (h : Limited d d') :
    d.keys = d'.keys.take (min d.capacity d'.count) ∧
      (d.truncated = true ↔ d.capacity < d'.count ∨ d'.truncated = true) := by
  cases h with
  | same h =>
    have hroom := h.room
    rw [h.count_eq] at hroom
    constructor
    · rw [min_eq_right hroom, ← d'.length_keys, List.take_length]
      exact congrArg (List.map Candidate.key) h.candidates
    · rw [h.truncated]
      constructor
      · exact .inr
      · rintro (hlt | ht)
        · omega
        · exact ht
  | cut h =>
    have hmore := h.more
    rw [h.full] at hmore
    constructor
    · rw [min_eq_left hmore.le, ← h.full]
      exact h.keys
    · exact iff_of_true h.truncated (.inl hmore)

/-- The candidate limit only truncates: with limit `m` the search finds the first `m` of the
candidates it finds with limit `M`, and reports that it was cut off exactly when there are more than
`m` of them or the larger search was cut off too.  The only allocation whose size depends on the limit
succeeds in both searches or in none. -/
theorem discover_limit_truncates (calloc : Nat → Nat → Bool) (rom : NgProgramRom)
    (seeds : List (BitVec 32)) (config : NgGameConfig) {m M : BitVec 32} (hpos : 0 < m)
    (hle : m ≤ M) (hmax : M.toNat ≤ ngFunctionDiscoveryMaxCandidates)
    (hcalloc : calloc m.toNat 1 = calloc M.toNat 1) :
    ∃ ok d d',
      ngFunctionDiscoverFromGameConfigLimited calloc rom seeds config m = some (ok, d) ∧
      ngFunctionDiscoverFromGameConfigLimited calloc rom seeds config M = some (ok, d') ∧
      d.keys = d'.keys.take (min m.toNat d'.count) ∧
      (d.truncated = true ↔ m.toNat < d'.count ∨ d'.truncated = true) := by
  have hmM : m.toNat ≤ M.toNat := hle
  have hcap := capacity_emptyDiscovery hpos (hmM.trans hmax)
  have hpos' : 0 < M.toNat := Nat.lt_of_lt_of_le hpos hmM
  have hcap' := capacity_emptyDiscovery hpos' hmax
  have hstart : Limited (emptyDiscovery m) (emptyDiscovery M) := .same ⟨rfl, rfl, Nat.zero_le _⟩
  -- Both searches make the same calls before the loop.
  have hseeded := hstart.run (by rw [hcap, hcap']; exact hmM) (seedingCalls calloc rom seeds config)
  obtain ⟨⟨ok, d⟩, hd⟩ := Option.isSome_iff_exists.mp (discover_isSome calloc rom seeds config m)
  obtain ⟨⟨ok', d'⟩, hd'⟩ := Option.isSome_iff_exists.mp (discover_isSome calloc rom seeds config M)
  have hgrown := (run_growsTo (emptyDiscovery m) (seedingCalls calloc rom seeds config)).capacity_eq
  have hgrown' := (run_growsTo (emptyDiscovery M) (seedingCalls calloc rom seeds config)).capacity_eq
  rw [hcap] at hgrown
  rw [hcap'] at hgrown'
  have key : ok = ok' ∧ Limited d d' ∧ d.capacity = m.toNat := by
    have hd := hd
    have hd' := hd'
    unfold ngFunctionDiscoverFromGameConfigLimited at hd hd'
    dsimp only at hd hd'
    generalize (emptyDiscovery m).run (seedingCalls calloc rom seeds config) = e
      at hseeded hgrown hd
    generalize (emptyDiscovery M).run (seedingCalls calloc rom seeds config) = e'
      at hseeded hgrown' hd'
    have hzero : e.count = 0 ↔ e'.count = 0 := by
      cases hseeded with
      | same h => rw [h.count_eq]
      | cut h =>
        have hfull := h.full
        have hmore := h.more
        have : 0 < m.toNat := hpos
        omega
    rw [hgrown, hcalloc] at hd
    rw [hgrown'] at hd'
    by_cases hstop : e'.count = 0 ∨ (!calloc M.toNat 1) = true
    · rw [if_pos hstop] at hd'
      rw [if_pos (hstop.imp_left hzero.mpr)] at hd
      cases hd
      cases hd'
      exact ⟨rfl, hseeded, hgrown⟩
    · rw [if_neg hstop] at hd'
      rw [if_neg fun h => hstop (h.imp_left hzero.mp)] at hd
      obtain ⟨f, hf, heq⟩ := Option.map_eq_some_iff.mp hd
      obtain ⟨f', hf', heq'⟩ := Option.map_eq_some_iff.mp hd'
      cases heq
      cases heq'
      obtain ⟨calls, hcalls⟩ := Worklist.loop_calls hf
      obtain ⟨calls', hcalls'⟩ := Worklist.loop_calls hf'
      dsimp only at hcalls hcalls'
      refine ⟨rfl, ?_, ?_⟩
      · cases hseeded with
        | cut hcut =>
          rw [hcalls, hcalls']
          exact .cut (hcut.run _ _)
        | same hsame =>
          have hinit : Worklist.InStep { discovery := e } { discovery := e' } :=
            ⟨hsame, by rw [hgrown, hgrown']; exact hmM, rfl, rfl, rfl⟩
          exact hinit.loop hf hf'
      · rw [hcalls, (run_growsTo e calls).capacity_eq, hgrown]
  obtain ⟨rfl, hlimited, hcapd⟩ := key
  have hresult := hlimited.result
  rw [hcapd] at hresult
  exact ⟨ok, d, d', hd, hd', hresult⟩

/-- RTS twice. -/
def rtsRtsRom : NgProgramRom where
  data := #[0x4E, 0x75, 0x4E, 0x75]
  size := 4
  size_eq := rfl

theorem discover_limit_truncates_rts :
    ∃ ok d d',
      ngFunctionDiscoverFromGameConfigLimited (fun _ _ => true) rtsRtsRom [0, 2] {} 1 =
        some (ok, d) ∧
      ngFunctionDiscoverFromGameConfigLimited (fun _ _ => true) rtsRtsRom [0, 2] {} 2 =
        some (ok, d') ∧
      d.keys = d'.keys.take (min 1 d'.count) ∧
      (d.truncated = true ↔ 1 < d'.count ∨ d'.truncated = true) :=
  discover_limit_truncates (fun _ _ => true) rtsRtsRom [0, 2] {} (by decide) (by decide) (by decide)
    rfl

end NeoRecomp
