import NeoRecomp.Correct.Coverage
import NeoRecomp.Correct.RomMap

/-!
# The representation invariant of discovery

Whatever the scanners ask for and in whichever view, the record keeps within its capacity, its rows
stay distinct, and each row is code in the view it is later read in.
-/

namespace NeoRecomp

/-! ## The states of a search -/

section States
variable (calloc : Nat → Nat → Bool) (rom : NgProgramRom) (seeds : List (BitVec 32))
  (config : NgGameConfig) (maxCandidates : BitVec 32)

/-- The calls made up to some turn of the loop, and the loop's state there. -/
inductive WorklistRun : List DiscoveryCall → Worklist → Prop
  | start : WorklistRun (seedingCalls calloc rom seeds config)
      { discovery := (emptyDiscovery maxCandidates).run (seedingCalls calloc rom seeds config) }
  | turn {calls w} (h : WorklistRun calls w) (hc : (w.turn rom config).continues = true) :
      WorklistRun (calls ++ (w.turn rom config).calls) (w.turn rom config).next

/-- The calls made at some point of the search: a part of the seeding, or everything up to a turn
of the loop and a part of the turn. -/
inductive CallsMade : List DiscoveryCall → Prop
  | seeding {calls} (h : calls <+: seedingCalls calloc rom seeds config) : CallsMade calls
  | turn {done w calls} (h : WorklistRun calloc rom seeds config maxCandidates done w)
      (hp : calls <+: (w.turn rom config).calls) : CallsMade (done ++ calls)

end States

/-! ## Views -/

/-- Going up from the fixed region, also around the end of the address space, at least ten addresses
come before the next one in the bank window. -/
def Separated (rom : NgProgramRom) : Prop :=
  ∀ a b, rom.addressMapEnabled = true → InFixedRegion rom a →
    ngProgramRomAddrIsBanked rom b = true → 10 < (b - a).toNat

/-- The view of a row with this bank. -/
def bankView (rom : NgProgramRom) (bank : BitVec 32) : NgProgramRom :=
  if bank ≠ ngFunctionDiscoveryBankNone then ngProgramRomSelectBank rom bank else rom

/-- Even, mapped, decoded and validated. -/
def CodeAt (view : NgProgramRom) (addr : BitVec 32) : Prop :=
  addr &&& 1 = 0 ∧ ngProgramRomAddrIsMapped view addr = true ∧
    ∃ instr, ngM68kDecode view addr = (true, instr) ∧ ngM68kValidate instr = true

section Bank
variable {rom view : NgProgramRom} {addr bank : BitVec 32}

theorem codeAt_of_probable (h : isProbableFunctionTarget view addr = true) : CodeAt view addr := by
  obtain ⟨heven, hm, instr, hd⟩ := isProbableFunctionTarget_iff.mp h
  obtain ⟨hdec, -, hv, -⟩ := decodeCode_eq_some.mp hd
  exact ⟨heven, hm, instr, hdec, hv⟩

theorem select_activeBank (rom : NgProgramRom) :
    ngProgramRomSelectBank rom rom.activeBank = rom := rfl

theorem translateBankWindow_of_not_banked (he : rom.addressMapEnabled = true)
    (h : ngProgramRomAddrIsBanked rom addr = false) : translateBankWindow rom addr = none := by
  unfold ngProgramRomAddrIsBanked at h
  apply if_neg
  rintro ⟨hw, hb, hr⟩
  rw [if_neg (by simp [he]; exact ⟨hw, hb⟩)] at h
  rw [decide_eq_true hr] at h
  cases h

-- Outside the window every bank shows the same.
theorem translate_select_of_not_banked (h : ngProgramRomAddrIsBanked rom addr = false) :
    ngProgramRomTranslateAddr (ngProgramRomSelectBank rom bank) addr =
      ngProgramRomTranslateAddr rom addr := by
  cases he : rom.addressMapEnabled with
  | false => simp [ngProgramRomTranslateAddr, ngProgramRomSelectBank, he]
  | true =>
    have he' : (ngProgramRomSelectBank rom bank).addressMapEnabled = true := he
    by_cases hf : InFixedRegion rom addr
    · rw [translate_of_inFixedRegion he hf, translate_of_inFixedRegion he' hf]
      rfl
    · rw [translate_of_not_inFixedRegion he hf, translate_of_not_inFixedRegion he' hf,
        translateBankWindow_of_not_banked he h, translateBankWindow_of_not_banked he' h]

theorem configured_enabled (h : ngProgramRomBankIsConfigured rom bank = true) :
    rom.addressMapEnabled = true ∧ bank ≠ ngFunctionDiscoveryBankNone := by
  unfold ngProgramRomBankIsConfigured at h
  simp only [Bool.and_eq_true, decide_eq_true_eq] at h
  obtain ⟨⟨⟨⟨he, -⟩, -⟩, h256⟩, -⟩ := h
  refine ⟨he, ?_⟩
  rintro rfl
  revert h256
  decide

theorem AtMostOneBank.count_eq (h : AtMostOneBank rom)
    (hb : ngProgramRomBankIsConfigured rom bank = true) : ngProgramRomBankCount rom = 1 := by
  unfold AtMostOneBank at h
  have hpos : 0 < (ngProgramRomBankCount rom).toNat := by
    unfold ngProgramRomBankIsConfigured at hb
    simp only [Bool.and_eq_true, bne_iff_ne, ne_eq, decide_eq_true_eq] at hb
    obtain ⟨⟨⟨⟨he, hw⟩, hlt⟩, -⟩, -⟩ := hb
    unfold ngProgramRomBankCount
    rw [he, if_neg (by simpa using hw)]
    omega
  apply BitVec.eq_of_toNat_eq
  show _ = 1
  omega

-- A mapped address outside the window is in the fixed region.
theorem inFixed_of_mapped (he : rom.addressMapEnabled = true)
    (hm : ngProgramRomAddrIsMapped rom addr = true)
    (hb : ngProgramRomAddrIsBanked rom addr = false) : InFixedRegion rom addr := by
  by_contra hnot
  rw [ngProgramRomAddrIsMapped, translate_of_not_inFixedRegion he hnot,
    translateBankWindow_of_not_banked he hb] at hm
  cases hm

-- A mapped address in the window, where it is not fixed, shows that the active bank is configured.
theorem configured_of_mapped (he : rom.addressMapEnabled = true)
    (hm : ngProgramRomAddrIsMapped rom addr = true) (hf : ¬ InFixedRegion rom addr) :
    ngProgramRomBankIsConfigured rom rom.activeBank = true := by
  rw [ngProgramRomAddrIsMapped, translate_of_not_inFixedRegion he hf] at hm
  unfold translateBankWindow at hm
  dsimp only at hm
  split_ifs at hm with hw hbank
  · cases hm
  · simp only [not_or, Bool.not_eq_true', Bool.not_eq_false, Nat.not_le] at hbank
    simp [ngProgramRomBankIsConfigured, he, hbank]
    exact hw.1
  · cases hm
  · cases hm

/-- Where none of ten addresses is in the window, all banks show the same bytes. -/
theorem sameBytes_select {bank' : BitVec 32}
    (h : ∀ k < 10, ngProgramRomAddrIsBanked rom (addr + BitVec.ofNat 32 k) = false) :
    SameBytes (ngProgramRomSelectBank rom bank) (ngProgramRomSelectBank rom bank') addr := by
  intro k hk
  have htr : ngProgramRomTranslateAddr (ngProgramRomSelectBank rom bank)
      (addr + BitVec.ofNat 32 k) =
        ngProgramRomTranslateAddr (ngProgramRomSelectBank rom bank') (addr + BitVec.ofNat 32 k) :=
    (translate_select_of_not_banked (h k hk)).trans (translate_select_of_not_banked (h k hk)).symm
  simp only [ngProgramRomAddrIsMapped, ngProgramRomRead8, htr]
  exact ⟨trivial, rfl⟩

/-- No instruction of the fixed region of a separated map reaches into the window. -/
theorem Separated.not_banked (hsep : Separated rom) (he : rom.addressMapEnabled = true)
    (hfix : InFixedRegion rom addr) (k : Nat) (hk : k < 10) :
    ngProgramRomAddrIsBanked rom (addr + BitVec.ofNat 32 k) = false := by
  by_contra hbk
  have := hsep addr _ he hfix (by simpa using hbk)
  rw [add_sub_cancel_left, BitVec.toNat_ofNat] at this
  omega

/-- Code outside the window of a separated map is code whichever bank is selected. -/
theorem Separated.probable_select (hsep : Separated rom) (he : rom.addressMapEnabled = true)
    (hb : ngProgramRomAddrIsBanked rom addr = false)
    (hp : isProbableFunctionTarget (ngProgramRomSelectBank rom bank) addr = true) :
    isProbableFunctionTarget rom addr = true := by
  obtain ⟨heven, hm, instr, hd⟩ := isProbableFunctionTarget_iff.mp hp
  have hfix : InFixedRegion (ngProgramRomSelectBank rom bank) addr := inFixed_of_mapped he hm hb
  have hsame : SameBytes (ngProgramRomSelectBank rom bank) rom addr :=
    sameBytes_select (hsep.not_banked he hfix)
  have hm0 : ngProgramRomAddrIsMapped rom addr = true := by
    have := (hsame 0 (by decide)).1
    simp only [BitVec.add_zero] at this
    rw [← this]
    exact hm
  have hcode : decodeCode rom addr = decodeCode (ngProgramRomSelectBank rom bank) addr := by
    unfold decodeCode
    rw [hsame.decode]
  exact isProbableFunctionTarget_iff.mpr ⟨heven, hm0, instr, hcode.trans hd⟩

end Bank

/-! ## Rows -/

/-- The address of a row is code in the view of its bank.  One kind of row is not: where the map has
one bank and another one is active, an address of the window found with the one bank selected is
recorded without a bank. -/
def RowCode (rom : NgProgramRom) (c : Candidate) : Prop :=
  isProbableFunctionTarget (bankView rom c.entryBank) c.addr = true ∨
    ngProgramRomBankCount rom = 1 ∧ rom.activeBank ≠ 0 ∧
      ngProgramRomAddrIsBanked rom c.addr = true ∧
      isProbableFunctionTarget (ngProgramRomSelectBank rom 0) c.addr = true

/-- What holds of every single row. -/
structure RowInvariant (rom : NgProgramRom) (c : Candidate) : Prop where
  banked_iff : c.banked = true ↔ c.bank ≠ ngFunctionDiscoveryBankNone
  entry_root : c.isEntry = true → c.isScanRoot = true
  viewed : ViewOf rom (bankView rom c.entryBank)
  code : RowCode rom c

section Rows
variable {rom : NgProgramRom} {r : AddRequest} {call : DiscoveryCall}

theorem bankView_none (rom : NgProgramRom) : bankView rom ngFunctionDiscoveryBankNone = rom := rfl

theorem bankView_select {bank : BitVec 32} (h : bank ≠ ngFunctionDiscoveryBankNone) :
    bankView rom bank = ngProgramRomSelectBank rom bank := if_pos h

theorem bankView_activeBank {view : NgProgramRom} (hv : ViewOf rom view) :
    bankView rom view.activeBank = view := by
  obtain rfl | ⟨bank, hconf, rfl⟩ := hv
  · unfold bankView
    split_ifs <;> rfl
  · exact bankView_select (configured_enabled hconf).2

theorem request_entry_root (h : call.request = some r) (he : r.isEntry = true) :
    r.isScanRoot = true := by
  cases call with
  | truncate => cases h
  | add view addr => rw [← Option.some.inj h]
  | addScanRoot view addr => rw [← Option.some.inj h]
  | addLabel view addr =>
    rw [← Option.some.inj h] at he
    cases he

/-- A window address of a map with several banks is recorded with the bank of the view. -/
theorem AddRequest.bank_window (hc : 1 < (ngProgramRomBankCount r.view).toNat)
    (hb : ngProgramRomAddrIsBanked r.view r.addr = true) : r.bank = r.view.activeBank :=
  if_pos ⟨hc, hb⟩

theorem AddRequest.bank_none (h : ¬ (1 < (ngProgramRomBankCount r.view).toNat ∧
    ngProgramRomAddrIsBanked r.view r.addr = true)) : r.bank = ngFunctionDiscoveryBankNone :=
  if_neg h

/-- The view of a row is one of the views of the image. -/
theorem viewOf_bank (hv : ViewOf rom r.view) : ViewOf rom (bankView rom r.bank) := by
  by_cases hb : 1 < (ngProgramRomBankCount r.view).toNat ∧
      ngProgramRomAddrIsBanked r.view r.addr = true
  · rw [AddRequest.bank_window hb.1 hb.2, bankView_activeBank hv]
    exact hv
  · rw [AddRequest.bank_none hb]
    exact .refl rom

theorem Separated.rowCode (hsep : Separated rom) (hv : ViewOf rom r.view)
    (hp : r.probable = true) : RowCode rom r.row := by
  have hbank : r.row.entryBank = r.bank := congrArg Prod.snd r.key_row
  have haddr : r.row.addr = r.addr := rfl
  unfold AddRequest.probable at hp
  unfold RowCode
  rw [hbank, haddr]
  by_cases hb : 1 < (ngProgramRomBankCount r.view).toNat ∧
      ngProgramRomAddrIsBanked r.view r.addr = true
  · rw [AddRequest.bank_window hb.1 hb.2, bankView_activeBank hv]
    exact .inl hp
  · rw [AddRequest.bank_none hb, bankView_none]
    obtain hrom | ⟨bank, hconf, hsel⟩ := hv
    · rw [← hrom]
      exact .inl hp
    · rw [hsel] at hp hb
      by_cases hwin : ngProgramRomAddrIsBanked rom r.addr = true
      · -- the bank selected is the only one
        have hone : AtMostOneBank rom := by
          by_contra hcount
          exact hb ⟨Nat.lt_of_not_le hcount, hwin⟩
        obtain rfl := hone.configured hconf
        by_cases hact : rom.activeBank = 0
        · rw [← hact, select_activeBank] at hp
          exact .inl hp
        · exact .inr ⟨hone.count_eq hconf, hact, hwin, hp⟩
      · exact .inl (hsep.probable_select (configured_enabled hconf).1 (by simpa using hwin) hp)

theorem Separated.rowInvariant (hsep : Separated rom) (hv : ViewOf rom r.view)
    (hr : call.request = some r) (hp : r.probable = true) : RowInvariant rom r.row where
  banked_iff := by simp [AddRequest.row]
  entry_root := request_entry_root hr
  viewed := by
    rw [show r.row.entryBank = r.bank from congrArg Prod.snd r.key_row]
    exact viewOf_bank hv
  code := hsep.rowCode hv hp

theorem RowInvariant.raise {c : Candidate} (h : RowInvariant rom c) (hr : call.request = some r) :
    RowInvariant rom (c.raise r.isEntry r.isScanRoot) where
  banked_iff := h.banked_iff
  entry_root := by
    simp only [Candidate.raise, Bool.or_eq_true]
    rintro (he | he)
    · exact .inl (h.entry_root he)
    · exact .inr (request_entry_root hr he)
  viewed := h.viewed
  code := h.code

end Rows

/-! ## The record -/

/-- The representation invariant of the record, for one image. -/
structure RecordInvariant (rom : NgProgramRom) (d : NgFunctionDiscovery) : Prop where
  max_ne_zero : d.maxCandidates ≠ 0
  max_le : d.maxCandidates.toNat ≤ ngFunctionDiscoveryMaxCandidates
  count_le : d.count ≤ d.maxCandidates.toNat
  distinct : (d.candidates.map Candidate.key).Nodup
  rows : ∀ c ∈ d.candidates, RowInvariant rom c

/-- Every request is made from a view of the image. -/
def OnViews (rom : NgProgramRom) (calls : List DiscoveryCall) : Prop :=
  ∀ call ∈ calls, ∀ r, call.request = some r → ViewOf rom r.view

section Record
variable {rom : NgProgramRom} {d d' : NgFunctionDiscovery}

theorem recordInvariant_empty (rom : NgProgramRom) (maxCandidates : BitVec 32) :
    RecordInvariant rom (emptyDiscovery maxCandidates) where
  max_ne_zero := by
    simp only [emptyDiscovery, ngFunctionDiscoverySetMaxCandidates]
    split_ifs with h
    · decide
    · exact fun h0 => h (.inl h0)
  max_le := by
    simp only [emptyDiscovery, ngFunctionDiscoverySetMaxCandidates]
    split_ifs with h
    · decide
    · exact Nat.le_of_not_lt fun h0 => h (.inr h0)
  count_le := Nat.zero_le _
  distinct := List.nodup_nil
  rows c hc := (List.not_mem_nil hc).elim

theorem RecordInvariant.capacity_eq (h : RecordInvariant rom d) :
    d.capacity = d.maxCandidates.toNat := by
  unfold NgFunctionDiscovery.capacity
  rw [if_neg h.max_ne_zero, Nat.min_eq_left h.max_le]

theorem map_key_raise (d : NgFunctionDiscovery) (i : Nat) (e s : Bool) :
    (d.raise i e s).candidates.map Candidate.key = d.candidates.map Candidate.key := by
  apply List.ext_getElem?
  intro j
  rw [List.getElem?_map, List.getElem?_map, getElem?_raise, Option.map_map]
  congr 1
  funext c
  simp only [Function.comp]
  split_ifs <;> rfl

theorem RecordInvariant.add (hsep : Separated rom) (h : RecordInvariant rom d) {r : AddRequest}
    {call : DiscoveryCall} (hr : call.request = some r) (hv : ViewOf rom r.view)
    (ho : AddOutcome d r d') : RecordInvariant rom d' := by
  cases ho with
  | skipped => exact h
  | refused => exact ⟨h.max_ne_zero, h.max_le, h.count_le, h.distinct, h.rows⟩
  | @raised i c hp hi hk =>
    refine ⟨h.max_ne_zero, h.max_le, ?_, ?_, ?_⟩
    · show (d.candidates.modify i _).length ≤ _
      rw [List.length_modify]
      exact h.count_le
    · rw [map_key_raise]
      exact h.distinct
    · intro c' hc'
      obtain ⟨j, hj⟩ := List.mem_iff_getElem?.mp hc'
      rw [getElem?_raise] at hj
      obtain ⟨c₀, hc₀, rfl⟩ := Option.map_eq_some_iff.mp hj
      have hrow := h.rows c₀ (List.mem_of_getElem? hc₀)
      by_cases hij : i = j
      · rw [if_pos hij]
        exact hrow.raise hr
      · rw [if_neg hij]
        exact hrow
  | pushed hp hk hroom =>
    refine ⟨h.max_ne_zero, h.max_le, ?_, ?_, ?_⟩
    · show (d.candidates ++ [r.row]).length ≤ d.maxCandidates.toNat
      rw [h.capacity_eq, NgFunctionDiscovery.count] at hroom
      rw [List.length_append, List.length_singleton]
      omega
    · show ((d.candidates ++ [r.row]).map Candidate.key).Nodup
      rw [List.map_append, List.map_singleton, r.key_row]
      refine List.Nodup.append h.distinct (List.nodup_singleton _) ?_
      rw [List.disjoint_singleton]
      intro hmem
      obtain ⟨c, hc, hck⟩ := List.mem_map.mp hmem
      exact hk ⟨c, hc, hck⟩
    · intro c hc
      rcases List.mem_append.mp hc with hc | hc
      · exact h.rows c hc
      · rw [List.mem_singleton.mp hc]
        exact hsep.rowInvariant hv hr hp

theorem RecordInvariant.run (hsep : Separated rom) (h : RecordInvariant rom d)
    {calls : List DiscoveryCall} (hv : OnViews rom calls) : RecordInvariant rom (d.run calls) := by
  induction calls generalizing d with
  | nil => exact h
  | cons call calls ih =>
    refine ih ?_ fun c hc => hv c (List.mem_cons_of_mem call hc)
    cases hr : call.request with
    | none =>
      rw [call.apply_truncate d hr]
      exact ⟨h.max_ne_zero, h.max_le, h.count_le, h.distinct, h.rows⟩
    | some r => exact h.add hsep hr (hv call List.mem_cons_self r hr) (call.apply_request d hr)

end Record

/-! ## Whole searches -/

theorem AddsFrom.onViews {rom : NgProgramRom} {calls : List DiscoveryCall}
    (h : AddsFrom rom calls) : OnViews rom calls :=
  fun _ hc _ hr => (h.request hc hr).1

theorem OnViews.mono {rom : NgProgramRom} {calls calls' : List DiscoveryCall}
    (h : OnViews rom calls') (hp : calls <+: calls') : OnViews rom calls :=
  fun call hc => h call (hp.subset hc)

theorem OnViews.append {rom : NgProgramRom} {calls calls' : List DiscoveryCall}
    (h : OnViews rom calls) (h' : OnViews rom calls') : OnViews rom (calls ++ calls') := by
  intro call hc
  rcases List.mem_append.mp hc with hc | hc
  · exact h call hc
  · exact h' call hc

section Search
variable {calloc : Nat → Nat → Bool} {rom : NgProgramRom} {seeds : List (BitVec 32)}
  {config : NgGameConfig} {maxCandidates : BitVec 32}

theorem RecordInvariant.entryView {d : NgFunctionDiscovery} (h : RecordInvariant rom d) (i : Nat) :
    ViewOf rom (discoveryEntryRomView rom d i) := by
  show ViewOf rom (bankView rom (ngFunctionDiscoveryBankAt d i))
  unfold ngFunctionDiscoveryBankAt
  cases hc : d.candidates[i]? with
  | none => exact .refl rom
  | some c => exact (h.rows c (List.mem_of_getElem? hc)).viewed

theorem RecordInvariant.turn_onViews (hsep : Separated rom) {w : Worklist}
    (h : RecordInvariant rom w.discovery) : OnViews rom (w.turn rom config).calls := by
  obtain ⟨i, cursor, c, -, -, ht⟩ | ⟨-, cursor, ht⟩ := w.turn_cases rom config
  · rw [ht]
    intro call hc r hr
    exact (h.entryView i).trans (scanTurns_calls _ _ _ _ _ _ hc hr).1
  · have hscript : OnViews rom (addScriptStreamCallbacksFromDiscovery rom w.discovery) := by
      apply AddsFrom.onViews
      exact addScriptStreamCallbacksFromDiscovery_adds rom (fun d i hd => hd.entryView i)
        (fun d calls hd hcalls => hd.run hsep hcalls.onViews) h
    rw [ht, Worklist.scriptTurn]
    split_ifs
    · exact fun call hc => (List.not_mem_nil hc).elim
    · dsimp only
      split_ifs <;> exact hscript

theorem WorklistRun.onViews (hsep : Separated rom) {calls : List DiscoveryCall} {w : Worklist}
    (h : WorklistRun calloc rom seeds config maxCandidates calls w) :
    OnViews rom calls ∧ w.discovery = (emptyDiscovery maxCandidates).run calls := by
  induction h with
  | start => exact ⟨(seedingCalls_adds calloc rom seeds config).onViews, rfl⟩
  | @turn calls w h hc ih =>
    have hinv := (recordInvariant_empty rom maxCandidates).run hsep ih.1
    rw [← ih.2] at hinv
    refine ⟨ih.1.append (hinv.turn_onViews hsep), ?_⟩
    rw [w.turn_discovery, run_append, ih.2]

theorem CallsMade.onViews (hsep : Separated rom) {calls : List DiscoveryCall}
    (h : CallsMade calloc rom seeds config maxCandidates calls) : OnViews rom calls := by
  cases h with
  | seeding hp => exact (seedingCalls_adds calloc rom seeds config).onViews.mono hp
  | @turn done w calls hrun hp =>
    obtain ⟨hdone, hd⟩ := hrun.onViews hsep
    have hinv := (recordInvariant_empty rom maxCandidates).run hsep hdone
    rw [← hd] at hinv
    exact hdone.append ((hinv.turn_onViews hsep).mono hp)

end Search

/-- An add that is turned down for lack of capacity marks the record. -/
theorem AddOutcome.truncated {d d' : NgFunctionDiscovery} {r : AddRequest} (h : AddOutcome d r d')
    (hr : d.Refuses r) : d'.truncated = true := by
  obtain ⟨hp, hnot, hfull⟩ := hr
  cases h with
  | skipped hn => rw [hp] at hn; cases hn
  | raised _ hi hk => exact absurd ⟨_, List.mem_of_getElem? hi, hk⟩ hnot
  | refused => rfl
  | pushed _ _ hroom => exact absurd hfull hroom

theorem truncated_of_refused {d : NgFunctionDiscovery} {done rest : List DiscoveryCall}
    {call : DiscoveryCall} {r : AddRequest} (hr : call.request = some r)
    (h : (d.run done).Refuses r) : (d.run (done ++ call :: rest)).truncated = true := by
  rw [run_append, run_cons]
  exact (run_growsTo _ rest).truncated ((call.apply_request _ hr).truncated h)

/-- The representation invariant in every state of a search, over every image with a gap between
its fixed region and its window: the capacity is kept, rows are distinct and their flags agree, every
row is code in the view it is read in, and a record that is not marked as truncated was never refused
an add.  A row is code in another view only when the map has one bank that is not the active one; an
address of its window is then code with the bank selected. -/
theorem discovery_representation (calloc : Nat → Nat → Bool) (rom : NgProgramRom)
    (hsep : Separated rom) (seeds : List (BitVec 32)) (config : NgGameConfig)
    (maxCandidates : BitVec 32) (calls : List DiscoveryCall)
    (hc : CallsMade calloc rom seeds config maxCandidates calls) (d : NgFunctionDiscovery)
    (hd : d = (emptyDiscovery maxCandidates).run calls) :
    d.count ≤ d.maxCandidates.toNat ∧ d.maxCandidates.toNat ≤ ngFunctionDiscoveryMaxCandidates ∧
      (d.candidates.map fun c => (c.addr, c.bank)).Nodup ∧
      (∀ c ∈ d.candidates, (c.banked = true ↔ c.bank ≠ ngFunctionDiscoveryBankNone) ∧
        (c.isEntry = true → c.isScanRoot = true)) ∧
      (∀ i c, d.candidates[i]? = some c → CodeAt (discoveryEntryRomView rom d i) c.addr ∨
        ngProgramRomBankCount rom = 1 ∧ rom.activeBank ≠ 0 ∧
          ngProgramRomAddrIsBanked rom c.addr = true ∧
          CodeAt (ngProgramRomSelectBank rom 0) c.addr) ∧
      (d.truncated = false → ∀ done call rest, calls = done ++ call :: rest → ∀ r,
        call.request = some r → ¬ ((emptyDiscovery maxCandidates).run done).Refuses r) := by
  have hinv : RecordInvariant rom d :=
    hd ▸ (recordInvariant_empty rom maxCandidates).run hsep (hc.onViews hsep)
  refine ⟨hinv.count_le, hinv.max_le, ?_, ?_, ?_, ?_⟩
  · -- without a bank the field holds the value that stands for none
    have hkeys : d.candidates.map (fun c => (c.addr, c.bank)) = d.candidates.map Candidate.key := by
      apply List.map_congr_left
      intro c hmem
      have hb := (hinv.rows c hmem).banked_iff
      unfold Candidate.key Candidate.entryBank
      split_ifs with hbanked
      · rfl
      · rw [not_not.mp fun h => hbanked (hb.mpr h)]
    rw [hkeys]
    exact hinv.distinct
  · exact fun c hmem => ⟨(hinv.rows c hmem).banked_iff, (hinv.rows c hmem).entry_root⟩
  · intro i c hi
    have hview : discoveryEntryRomView rom d i = bankView rom c.entryBank := by
      simp [discoveryEntryRomView, ngFunctionDiscoveryBankAt, hi, bankView]
    rw [hview]
    rcases (hinv.rows c (List.mem_of_getElem? hi)).code with hp | ⟨hone, hact, hb, hp⟩
    · exact .inl (codeAt_of_probable hp)
    · exact .inr ⟨hone, hact, hb, codeAt_of_probable hp⟩
  · intro ht done call rest hcalls r hr hrefused
    rw [hd, hcalls, truncated_of_refused hr hrefused] at ht
    cases ht

def oneBankImage : Array (BitVec 8) := #[0x4E, 0x71, 0x4E, 0x75, 0x4E, 0x71, 0x4E, 0x75]

theorem oneBankImage_size : oneBankImage.size = (8 : BitVec 32).toNat := rfl

/-- Four fixed bytes and one bank of four, NOP and RTS in both, with bank 5 selected. -/
def oneBankRom : NgProgramRom :=
  ngProgramRomSelectBank
    (ngProgramRomSetAddressMap
      (ngProgramRomLoaded oneBankImage 8 oneBankImage_size) 0 4 0x20 4) 5

/-- One routine table, searched in every bank. -/
def bankRoutines : NgGameConfig :=
  { routineTables := [{ stride := 4, scans := [{ kind := .bankAll }] }] }

theorem oneBankRom_separated : Separated oneBankRom := by
  intro a b _ ha hb
  have ha4 : a.toNat < 4 := by
    have : (a - 0#32).toNat < 4 := ha.2.1
    rwa [BitVec.sub_zero] at this
  have hb20 : 0x20 ≤ b.toNat := by
    by_contra hlt
    unfold ngProgramRomAddrIsBanked at hb
    rw [if_pos] at hb
    · cases hb
    · have hlt' : b.toNat < oneBankRom.bankWindowBase.toNat := by
        have hw : oneBankRom.bankWindowBase.toNat = 0x20 := by decide
        omega
      simp [hlt']
  have := b.isLt
  rw [BitVec.toNat_sub]
  omega

/-- The rows after seeding from `bankRoutines`. -/
def oneBankRow : Candidate := { addr := 0x20, isEntry := true, isScanRoot := true }

theorem discovery_representation_oneBank :
    Separated oneBankRom ∧
      (CodeAt oneBankRom oneBankRow.addr ∨
        ngProgramRomBankCount oneBankRom = 1 ∧ oneBankRom.activeBank ≠ 0 ∧
          ngProgramRomAddrIsBanked oneBankRom oneBankRow.addr = true ∧
          CodeAt (ngProgramRomSelectBank oneBankRom 0) oneBankRow.addr) := by
  refine ⟨oneBankRom_separated, ?_⟩
  exact (discovery_representation (fun _ _ => true) oneBankRom oneBankRom_separated [] bankRoutines 0
    _ (.seeding (List.prefix_refl _)) _ rfl).2.2.2.2.1 0 oneBankRow (by decide +kernel)

/-- The window address is recorded without a bank and then read in a view where it is not mapped. -/
theorem oneBank_row_unmapped :
    Separated oneBankRom ∧
      CallsMade (fun _ _ => true) oneBankRom [] bankRoutines 0
        (seedingCalls (fun _ _ => true) oneBankRom [] bankRoutines) ∧
      ((emptyDiscovery 0).run (seedingCalls (fun _ _ => true) oneBankRom [] bankRoutines)).candidates =
        [oneBankRow] ∧
      ngProgramRomAddrIsMapped
        (discoveryEntryRomView oneBankRom
          ((emptyDiscovery 0).run (seedingCalls (fun _ _ => true) oneBankRom [] bankRoutines)) 0)
        oneBankRow.addr = false :=
  ⟨oneBankRom_separated, .seeding (List.prefix_refl _), by decide +kernel, by decide +kernel⟩

end NeoRecomp
