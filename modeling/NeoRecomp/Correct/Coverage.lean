import NeoRecomp.Correct.Bodies
import NeoRecomp.Correct.DecodeFrame
import NeoRecomp.Correct.WorklistRuns

/-!
# Closure of discovery

With at most one bank in the map every row stands for one address.  When the search ends without
truncation, what an instruction at a candidate leads to is a candidate as well: a root has been
scanned, and a label was passed by a scan that saw what follows it.
-/

namespace NeoRecomp

/-- A map with at most one bank. -/
def AtMostOneBank (rom : NgProgramRom) : Prop := (ngProgramRomBankCount rom).toNat ≤ 1

/-- The addresses the instruction at `pc` leads to: its direct target, where a call or STOP comes
back to, and the next instruction unless control never goes on. -/
inductive LeadsTo (pc : BitVec 32) (instr : NgM68kInstr) : BitVec 32 → Prop
  | call (h : isDirectFunctionTarget instr = true) : LeadsTo pc instr instr.target
  | branch (h : isBranchTargetCandidate instr = true) : LeadsTo pc instr instr.target
  | back (h : instr.mnemonic = .jsr ∨ instr.mnemonic = .bsr ∨ instr.mnemonic = .stop) :
      LeadsTo pc instr (pc + instr.byteLength.setWidth 32)
  | next (h : instr.mnemonic ≠ .bra ∧ instr.mnemonic ≠ .jmp ∧ instr.mnemonic ≠ .rts ∧
        instr.mnemonic ≠ .rte ∧ instr.mnemonic ≠ .rtr) :
      LeadsTo pc instr (pc + instr.byteLength.setWidth 32)

/-- What the instruction at `addr` leads to is among the candidates. -/
def ClosedAt (rom : NgProgramRom) (d : NgFunctionDiscovery) (addr : BitVec 32) : Prop :=
  ∀ instr, ngM68kDecode rom addr = (true, instr) → ∀ t, LeadsTo addr instr t →
    isProbableFunctionTarget rom t = true → ngFunctionDiscoveryContains d t = true

/-- Where the decoder succeeds, so does the scan. -/
def Scannable (rom : NgProgramRom) (addr : BitVec 32) : Prop :=
  ∀ instr, ngM68kDecode rom addr = (true, instr) → decodeCode rom addr = some instr

/-! ## Decoding in the views of a map with one bank -/

section Views
variable {rom view : NgProgramRom} {addr : BitVec 32} {instr : NgM68kInstr}

theorem decodeCode_eq_some : decodeCode rom addr = some instr ↔
    ngM68kDecode rom addr = (true, instr) ∧ instr.byteLength ≠ 0 ∧ ngM68kValidate instr = true ∧
      instr.mnemonic ≠ .unknown ∧ instr.mnemonic ≠ .invalid := by
  unfold decodeCode
  rcases ngM68kDecode rom addr with ⟨ok, i⟩
  cases ok <;> simp
  constructor
  · rintro ⟨⟨⟨⟨h1, h2⟩, h3⟩, h4⟩, rfl⟩
    exact ⟨rfl, h1, h2, h3, h4⟩
  · rintro ⟨rfl, h1, h2, h3, h4⟩
    exact ⟨⟨⟨⟨h1, h2⟩, h3⟩, h4⟩, rfl⟩

/-- A probable target is an even mapped address with an instruction the scan takes. -/
theorem isProbableFunctionTarget_iff : isProbableFunctionTarget rom addr = true ↔
    addr &&& 1 = 0 ∧ ngProgramRomAddrIsMapped rom addr = true ∧
      ∃ instr, decodeCode rom addr = some instr := by
  unfold isProbableFunctionTarget decodeCode
  rcases ngM68kDecode rom addr with ⟨ok, i⟩
  by_cases hodd : addr &&& 1 = 0 <;> cases hm : ngProgramRomAddrIsMapped rom addr <;> simp

theorem wordLength_ne_zero {len : BitVec 8} (h : WordLength len) : len ≠ 0 := by
  rintro rfl
  revert h
  decide

theorem decodeCode_of_mnemonic (h : ngM68kDecode rom addr = (true, instr))
    (hu : instr.mnemonic ≠ .unknown) (hi : instr.mnemonic ≠ .invalid) :
    decodeCode rom addr = some instr :=
  decodeCode_eq_some.mpr
    ⟨h, wordLength_ne_zero (ngM68kDecode_length h), (ngM68kDecode_accepted h).resolve_left hu, hu, hi⟩

theorem bankCount_view (hv : ViewOf rom view) :
    ngProgramRomBankCount view = ngProgramRomBankCount rom := by
  obtain rfl | ⟨bank, -, rfl⟩ := hv <;> rfl

theorem data_view (hv : ViewOf rom view) : view.data = rom.data := by
  obtain rfl | ⟨bank, -, rfl⟩ := hv <;> rfl

theorem AtMostOneBank.bank_eq (h : AtMostOneBank rom) (hv : ViewOf rom view) :
    discoveryBankForAddr view addr = ngFunctionDiscoveryBankNone := by
  unfold discoveryBankForAddr AtMostOneBank at *
  rw [bankCount_view hv, if_neg (by omega)]

-- A configured bank of such a map is bank 0.
theorem AtMostOneBank.configured {bank : BitVec 32} (h : AtMostOneBank rom)
    (hb : ngProgramRomBankIsConfigured rom bank = true) : bank = 0 := by
  unfold AtMostOneBank ngProgramRomBankCount at h
  unfold ngProgramRomBankIsConfigured at hb
  simp only [Bool.and_eq_true, bne_iff_ne, ne_eq, decide_eq_true_eq] at hb
  obtain ⟨⟨⟨⟨he, hw⟩, hlt⟩, -⟩, -⟩ := hb
  rw [he, if_neg (by simpa using hw)] at h
  apply BitVec.eq_of_toNat_eq
  show bank.toNat = 0
  omega

-- With any other bank selected, the window of such a map is empty.
theorem AtMostOneBank.translate_window (h : AtMostOneBank rom) (hact : rom.activeBank ≠ 0)
    (he : rom.addressMapEnabled = true) : translateBankWindow rom addr = none := by
  have h0 : 0 < rom.activeBank.toNat := by
    apply Nat.pos_of_ne_zero
    intro h
    exact hact (BitVec.eq_of_toNat_eq h)
  unfold AtMostOneBank ngProgramRomBankCount at h
  unfold translateBankWindow
  dsimp only
  by_cases hw : rom.bankWindowSize = 0
  · rw [if_neg (by simp [hw])]
  · rw [he, if_neg (by simpa using hw)] at h
    split_ifs with h1 h2 h3
    · rfl
    · exact absurd (.inl (by omega)) h2
    · exact absurd (.inl (by omega)) h2
    · rfl

theorem AtMostOneBank.translate_eq (h : AtMostOneBank rom) (hv : ViewOf rom view)
    (hm : ngProgramRomAddrIsMapped rom addr = true) :
    ngProgramRomTranslateAddr view addr = ngProgramRomTranslateAddr rom addr := by
  obtain rfl | ⟨bank, hb, rfl⟩ := hv
  · rfl
  · obtain rfl := h.configured hb
    by_cases hact : rom.activeBank = 0
    · have : ngProgramRomSelectBank rom 0 = rom := by
        rw [ngProgramRomSelectBank, ← hact]
      rw [this]
    · unfold ngProgramRomAddrIsMapped at hm
      unfold ngProgramRomTranslateAddr at hm ⊢
      cases he : rom.addressMapEnabled with
      | false => simp [ngProgramRomSelectBank, he]
      | true =>
        rw [h.translate_window hact he] at hm
        simp only [ngProgramRomSelectBank, he, Bool.not_true, Bool.false_eq_true, if_false] at hm ⊢
        split_ifs at hm with hfix
        · rw [if_pos hfix, if_pos hfix]
        · cases hm

/-- What is code in some view of such a map is code in the map, where it decodes at all. -/
theorem AtMostOneBank.scannable (h : AtMostOneBank rom) (hv : ViewOf rom view)
    (hp : isProbableFunctionTarget view addr = true) : Scannable rom addr := by
  intro instr hd
  obtain ⟨-, -, instr', hd'⟩ := isProbableFunctionTarget_iff.mp hp
  obtain ⟨hdv, -, -, hu, hi⟩ := decodeCode_eq_some.mp hd'
  obtain ⟨hm0, hm1⟩ := ngM68kDecode_mapped hd
  have hop : ngProgramRomRead16 view addr = ngProgramRomRead16 rom addr := by
    simp only [ngProgramRomRead16, ngProgramRomRead8, h.translate_eq hv hm0, h.translate_eq hv hm1,
      data_view hv]
  have hmn := ngM68kDecode_mnemonic hdv hd hop
  exact decodeCode_of_mnemonic hd (hmn ▸ hu) (hmn ▸ hi)

end Views

/-! ## One scan -/

/-- The record has every row these calls ask for. -/
def NgFunctionDiscovery.Covers (d : NgFunctionDiscovery) (calls : List DiscoveryCall) : Prop :=
  ∀ call ∈ calls, ∀ r, call.request = some r → r.probable = true →
    ngFunctionDiscoveryContains d r.addr = true

section Contains
variable {d d' : NgFunctionDiscovery} {addr : BitVec 32}

theorem contains_iff : ngFunctionDiscoveryContains d addr = true ↔
    ∃ c ∈ d.candidates, c.addr = addr := by
  simp [ngFunctionDiscoveryContains]

theorem NgFunctionDiscovery.Holds.contains {r : AddRequest} (h : d.Holds r) :
    ngFunctionDiscoveryContains d r.addr = true := by
  obtain ⟨c, hc, hk⟩ := h
  exact contains_iff.mpr ⟨c, hc, congrArg Prod.fst hk⟩

theorem NgFunctionDiscovery.GrowsTo.contains (h : d.GrowsTo d')
    (hc : ngFunctionDiscoveryContains d addr = true) :
    ngFunctionDiscoveryContains d' addr = true := by
  obtain ⟨c, hmem, rfl⟩ := contains_iff.mp hc
  obtain ⟨i, hi⟩ := List.mem_iff_getElem?.mp hmem
  obtain ⟨c', hc', hr⟩ := h.rows hi
  exact contains_iff.mpr
    ⟨c', List.mem_iff_getElem?.mpr ⟨i, hc'⟩, hr.addr_eq⟩

theorem ClosedAt.mono {rom : NgProgramRom} (h : d.GrowsTo d') (hc : ClosedAt rom d addr) :
    ClosedAt rom d' addr :=
  fun instr hd t ht hp => h.contains (hc instr hd t ht hp)

theorem run_covers {calls : List DiscoveryCall} (ht : (d.run calls).truncated = false) :
    (d.run calls).Covers calls :=
  fun _ hc _ hr hp => (run_holds ht hc hr hp).contains

theorem NgFunctionDiscovery.Covers.append {calls calls' : List DiscoveryCall}
    (h : d.Covers (calls ++ calls')) : d.Covers calls ∧ d.Covers calls' :=
  ⟨fun call hc => h call (List.mem_append_left _ hc),
    fun call hc => h call (List.mem_append_right _ hc)⟩

end Contains

section Scan
variable {rom : NgProgramRom} {start : BitVec 32} {config : NgGameConfig} {d : NgFunctionDiscovery}

theorem leadsTo_cases (rom : NgProgramRom) (start : BitVec 32) (s : ScanState) {pc t : BitVec 32}
    {instr : NgM68kInstr} (h : LeadsTo pc instr t) :
    .add rom t ∈ ownCalls rom start pc s instr ∨
      stopsScan instr = false ∧ t = pc + instr.byteLength.setWidth 32 := by
  unfold ownCalls
  cases h with
  | call h => simp [h]
  | branch h => simp [h]
  | back h => simp [h]
  | next h => simp [stopsScan, h]

/-- A label among the calls of a turn is that of the instruction scanned. -/
theorem label_of_scanCalls {pc a : BitVec 32} {s : ScanState} {instr : NgM68kInstr}
    {view : NgProgramRom} (h : .addLabel view a ∈ scanCalls rom start pc config s instr) :
    a = pc := by
  unfold scanCalls at h
  rcases List.mem_append.mp h with h | h
  · rcases List.mem_append.mp h with h | h
    · split_ifs at h
      · cases h with
        | head => rfl
        | tail _ h => cases h
      · cases h
    · obtain h | ⟨_, _, _, h⟩ := contextCalls_adds rom start config s instr _ h <;> cases h
  · obtain h | ⟨_, _, _, h⟩ := ownCalls_adds rom start pc s instr _ h <;> cases h

theorem scanTurns_covered (hs : ngFunctionDiscoveryContains d start = true) (turns : Nat)
    (pc : BitVec 32) (s : ScanState) (hc : d.Covers (scanTurns rom start config turns pc s)) :
    (isProbableFunctionTarget rom pc = true → ngFunctionDiscoveryContains d pc = true) ∧
      (∀ view a, .addLabel view a ∈ scanTurns rom start config turns pc s → ClosedAt rom d a) ∧
      (turns ≠ 0 → Scannable rom pc → ClosedAt rom d pc) := by
  induction turns generalizing pc s with
  | zero =>
    rw [scanTurns] at hc ⊢
    refine ⟨fun hp => ?_, fun view a h => ?_, fun h => absurd rfl h⟩
    · by_cases hpc : pc = start
      · rw [hpc]
        exact hs
      · rw [if_pos hpc] at hc
        exact hc _ List.mem_cons_self _ rfl hp
    · split_ifs at h
      · cases h with
        | tail _ h => cases h
      · cases h
  | succ turns ih =>
    rw [scanTurns] at hc ⊢
    cases hd : decodeCode rom pc with
    | none =>
      refine ⟨fun hp => ?_, (fun view a h => by cases h), fun _ hsc instr h => ?_⟩
      · obtain ⟨-, -, instr, h⟩ := isProbableFunctionTarget_iff.mp hp
        rw [hd] at h
        cases h
      · rw [hsc instr h] at hd
        cases hd
    | some instr =>
      simp only [hd] at hc ⊢
      obtain ⟨hturn, hrest⟩ := hc.append
      have hnext : stopsScan instr = false →
          isProbableFunctionTarget rom (pc + instr.byteLength.setWidth 32) = true →
          ngFunctionDiscoveryContains d (pc + instr.byteLength.setWidth 32) = true := by
        intro hstop
        rw [hstop, if_neg (by decide)] at hrest
        exact (ih _ _ hrest).1
      have hclosed : ClosedAt rom d pc := by
        intro instr' hd' t ht hp
        have he := (decodeCode_eq_some.mp hd).1
        rw [hd', Prod.mk.injEq] at he
        rw [he.2] at ht
        rcases leadsTo_cases rom start s ht with hmem | ⟨hstop, rfl⟩
        · exact hturn _ (List.mem_append_right _ hmem) _ rfl hp
        · exact hnext hstop hp
      refine ⟨fun hp => ?_, fun view a h => ?_, fun _ _ => hclosed⟩
      · by_cases hpc : pc = start
        · rw [hpc]
          exact hs
        · refine hturn (.addLabel rom pc) ?_ _ rfl hp
          simp [scanCalls, hpc]
      · rcases List.mem_append.mp h with h | h
        · rw [label_of_scanCalls h]
          exact hclosed
        · split_ifs at h hrest with hstop
          · cases h
          · exact (ih _ _ hrest).2.1 view a h

end Scan

/-! ## The whole search -/

/-- The rows a map with one bank allows: code in some view, under no bank. -/
def Unbanked (rom : NgProgramRom) (d : NgFunctionDiscovery) : Prop :=
  ∀ c ∈ d.candidates, (∃ view, ViewOf rom view ∧ isProbableFunctionTarget view c.addr = true) ∧
    c.entryBank = ngFunctionDiscoveryBankNone

/-- The invariant of the loop: a row waits to be scanned or is closed. -/
structure Worklist.Covered (rom : NgProgramRom) (w : Worklist) : Prop where
  rows : Unbanked rom w.discovery
  closed : w.discovery.truncated = false → ∀ {i c}, w.discovery.candidates[i]? = some c →
    w.pending i = true ∨ ClosedAt rom w.discovery c.addr
  fresh : ∀ i, w.discovery.count ≤ i → w.scanned i = false

section Loop
variable {rom : NgProgramRom} {config : NgGameConfig} {w : Worklist}

theorem discoveryEntryRomView_unbanked {d : NgFunctionDiscovery} {i : Nat} {c : Candidate}
    (hc : d.candidates[i]? = some c) (hb : c.entryBank = ngFunctionDiscoveryBankNone) :
    discoveryEntryRomView rom d i = rom := by
  simp [discoveryEntryRomView, ngFunctionDiscoveryBankAt, hc, hb]

/-- Rows that calls on views of the map add. -/
theorem run_rows (hone : AtMostOneBank rom) {d : NgFunctionDiscovery} {calls : List DiscoveryCall}
    (hv : ∀ call ∈ calls, ∀ r, call.request = some r → ViewOf rom r.view)
    (hs : Unbanked rom d) : Unbanked rom (d.run calls) := by
  intro c hc
  obtain ⟨i, hi⟩ := List.mem_iff_getElem?.mp hc
  rcases run_rowFrom d calls hi with ⟨c₀, hc₀, hr⟩ | ⟨-, call, hcall, r, hreq, hp, hr⟩
  · rw [hr.addr_eq, hr.entryBank_eq]
    exact hs c₀ (List.mem_of_getElem? hc₀)
  · have hview := hv call hcall r hreq
    have hkey := Prod.mk.inj r.key_row
    rw [hr.addr_eq, hr.entryBank_eq, hkey.2]
    exact ⟨⟨r.view, hview, hp⟩, hone.bank_eq hview⟩

/-- The step lemma both kinds of turn share: rows that are new are roots or closed, and of the old
ones only closed ones stop waiting. -/
theorem Worklist.Covered.step (h : w.Covered rom) (hone : AtMostOneBank rom)
    {calls : List DiscoveryCall} {scanned : Nat → Bool} {cursor : Nat} {passDone : Bool}
    (hv : ∀ call ∈ calls, ∀ r, call.request = some r → ViewOf rom r.view)
    (hnew : (w.discovery.run calls).truncated = false → ∀ call ∈ calls, ∀ r,
      call.request = some r → r.isScanRoot = true ∨ ClosedAt rom (w.discovery.run calls) r.addr)
    (hold : (w.discovery.run calls).truncated = false → ∀ {i c},
      w.discovery.candidates[i]? = some c → w.scanned i = false → scanned i = false ∨
        ClosedAt rom (w.discovery.run calls) c.addr)
    (hfresh : ∀ i, w.discovery.count ≤ i → scanned i = false) :
    Worklist.Covered rom
      { discovery := w.discovery.run calls, scanned, cursor, scriptStreamPassDone := passDone } where
  rows := run_rows hone hv h.rows
  fresh i hi := hfresh i ((run_growsTo _ calls).count_le.trans hi)
  closed := by
    intro ht i c hc
    dsimp only at ht hc ⊢
    rcases run_rowFrom _ calls hc with ⟨c₀, hc₀, hr⟩ | ⟨hi, call, hcall, r, hreq, hp, hr⟩
    · rcases h.closed (truncated_of_run ht) hc₀ with hpend | hcl
      · obtain ⟨c₁, hc₁, hroot, hs⟩ := w.pending_row hpend
        rw [hc₀, Option.some.injEq] at hc₁
        rcases hold ht hc₀ hs with hs' | hcl
        · exact .inl (Worklist.pending_of_row hc (hr.isScanRoot (hc₁ ▸ hroot)) hs')
        · rw [hr.addr_eq]
          exact .inr hcl
      · rw [hr.addr_eq]
        exact .inr (hcl.mono (run_growsTo _ calls))
    · rcases hnew ht call hcall r hreq with hroot | hcl
      · exact .inl (Worklist.pending_of_row hc (hr.isScanRoot hroot) (hfresh i hi))
      · rw [hr.addr_eq]
        exact .inr hcl

theorem Worklist.Covered.scanRow (h : w.Covered rom) (hone : AtMostOneBank rom) {i cursor : Nat}
    {c : Candidate} (hc : w.discovery.candidates[i]? = some c) :
    (w.scanRow rom config i cursor c).next.Covered rom := by
  have hmem := List.mem_of_getElem? hc
  have hview : discoveryEntryRomView rom w.discovery i = rom :=
    discoveryEntryRomView_unbanked hc (h.rows c hmem).2
  unfold Worklist.scanRow
  rw [hview]
  have hcov : ∀ ht : (w.discovery.run (scanFunctionCandidate rom c.addr config)).truncated = false,
      _ := fun ht => @scanTurns_covered rom _ config _
        ((run_growsTo w.discovery _).contains (contains_iff.mpr ⟨c, hmem, rfl⟩)) _ _ _
        (run_covers ht)
  have hcalls : ∀ call ∈ scanFunctionCandidate rom c.addr config, ∀ r, call.request = some r → _ :=
    fun call hcall r hr => scanTurns_calls rom c.addr config _ _ _ hcall hr
  refine h.step hone (fun call hcall r hr => (hcalls call hcall r hr).1) ?_ ?_ ?_
  · intro ht call hcall r hr
    rcases (hcalls call hcall r hr).2 with hroot | rfl
    · exact .inl hroot
    · exact .inr ((hcov ht).2.1 _ _ hcall)
  · -- the row that was scanned is closed
    intro ht j c' hc' hs
    by_cases hij : j = i
    · subst hij
      rw [hc, Option.some.injEq] at hc'
      rw [← hc']
      obtain ⟨⟨view, hview, hp⟩, -⟩ := h.rows c hmem
      exact .inr ((hcov ht).2.2 (by decide) (hone.scannable hview hp))
    · exact .inl (by rw [Function.update_of_ne hij]; exact hs)
  · intro j hj
    have hlt := w.lt_count_of_row hc
    rw [Function.update_of_ne (by omega)]
    exact h.fresh j hj

theorem scriptCalls_adds (hone : AtMostOneBank rom) {d : NgFunctionDiscovery}
    (hd : Unbanked rom d) : AddsFrom rom (addScriptStreamCallbacksFromDiscovery rom d) := by
  refine addScriptStreamCallbacksFromDiscovery_adds rom (P := Unbanked rom) ?_ ?_ hd
  · intro d i hd
    cases hc : d.candidates[i]? with
    | none => simp [discoveryEntryRomView, ngFunctionDiscoveryBankAt, hc, ViewOf]
    | some c =>
      rw [discoveryEntryRomView_unbanked hc (hd c (List.mem_of_getElem? hc)).2]
      exact .refl rom
  · intro d calls hd hcalls
    exact run_rows hone (fun call hc r hr => (hcalls.request hc hr).1) hd

theorem Worklist.Covered.scriptTurn (h : w.Covered rom) (hone : AtMostOneBank rom) {cursor : Nat} :
    (w.scriptTurn rom cursor).next.Covered rom := by
  have hadds := scriptCalls_adds hone h.rows
  have hstep : ∀ {cursor : Nat}, Worklist.Covered rom
      { discovery := w.discovery.run (addScriptStreamCallbacksFromDiscovery rom w.discovery)
        scanned := w.scanned, cursor, scriptStreamPassDone := true } := by
    refine h.step hone (fun call hc r hr => (hadds.request hc hr).1) ?_ ?_ h.fresh
    · exact fun _ call hc r hr => .inl (hadds.request hc hr).2
    · exact fun _ _ _ _ hs => .inl hs
  unfold Worklist.scriptTurn
  split_ifs
  · exact ⟨h.rows, h.closed, h.fresh⟩
  · dsimp only
    split_ifs
    · exact hstep
    · exact hstep

theorem Worklist.Covered.turn (h : w.Covered rom) (hone : AtMostOneBank rom) :
    (w.turn rom config).next.Covered rom := by
  obtain ⟨i, cursor, c, -, hc, ht⟩ | ⟨-, cursor, ht⟩ := w.turn_cases rom config
  · rw [ht]
    exact h.scanRow hone hc
  · rw [ht]
    exact h.scriptTurn hone

/-- When the loop ends, no row waits: the last search of the scripts found none to begin with and
added none. -/
theorem Worklist.Covered.ends (h : w.Covered rom) (hc : (w.turn rom config).continues = false)
    (ht : (w.turn rom config).next.discovery.truncated = false) (c : Candidate)
    (hmem : c ∈ (w.turn rom config).next.discovery.candidates) :
    ClosedAt rom (w.turn rom config).next.discovery c.addr := by
  have hrun := w.turn_discovery rom config
  obtain ⟨i, cursor, c, -, -, he⟩ | ⟨hnone, cursor, he⟩ := w.turn_cases rom config
  · rw [he] at hc
    cases hc
  · have hcount : (w.turn rom config).next.discovery.count = w.discovery.count := by
      rw [he, Worklist.scriptTurn] at hc ⊢
      by_cases hd : w.scriptStreamPassDone = true
      · rw [if_pos hd]
      · rw [if_neg hd] at hc ⊢
        dsimp only at hc ⊢
        split_ifs at hc ⊢ with hne
        exact not_not.mp hne
    rw [hrun] at ht hmem hcount ⊢
    obtain ⟨i, hi⟩ := List.mem_iff_getElem?.mp hmem
    rcases run_rowFrom _ _ hi with ⟨c₀, hc₀, hr⟩ | ⟨hle, -⟩
    · have hcl := h.closed (truncated_of_run ht) hc₀
      rw [hnone i] at hcl
      rw [hr.addr_eq]
      exact (hcl.resolve_left (by decide)).mono (run_growsTo _ _)
    · have hlt := (List.getElem?_eq_some_iff.mp hi).1
      unfold NgFunctionDiscovery.count at hcount hle
      omega

theorem seeded_covered (hone : AtMostOneBank rom) {calloc : Nat → Nat → Bool}
    {seeds : List (BitVec 32)} {maxCandidates : BitVec 32} :
    Worklist.Covered rom
      { discovery := (emptyDiscovery maxCandidates).run (seedingCalls calloc rom seeds config) } := by
  have hadds := seedingCalls_adds calloc rom seeds config
  have hempty : Worklist.Covered rom { discovery := emptyDiscovery maxCandidates } :=
    ⟨fun c hc => (List.not_mem_nil hc).elim, fun _ _ _ hc => (by cases hc), fun _ _ => rfl⟩
  refine hempty.step hone (fun call hc r hr => (hadds.request hc hr).1) ?_ ?_ hempty.fresh
  · exact fun _ call hc r hr => .inl (hadds.request hc hr).2
  · exact fun _ _ _ _ hs => .inl hs

end Loop

section Final
variable {calloc : Nat → Nat → Bool} {rom : NgProgramRom} (hone : AtMostOneBank rom)
  {seeds : List (BitVec 32)} {config : NgGameConfig} {maxCandidates : BitVec 32}
  {d : NgFunctionDiscovery}
  (hret : ngFunctionDiscoverFromGameConfigLimited calloc rom seeds config maxCandidates =
    some (true, d))
include hone hret

theorem discovered_unbanked : Unbanked rom d :=
  Worklist.loop_induct (P := Worklist.Covered rom) (Q := Unbanked rom)
    (fun _ hw _ => hw.turn hone) (fun _ hw _ => (hw.turn hone).rows) (seeded_covered hone)
    (discover_eq_loop hret)

theorem discovered_closedAt (ht : d.truncated = false) : ∀ c ∈ d.candidates,
    ClosedAt rom d c.addr := by
  have hend := Worklist.loop_induct (P := Worklist.Covered rom)
    (Q := fun d => d.truncated = false → ∀ c ∈ d.candidates, ClosedAt rom d c.addr)
    (fun w hw _ => hw.turn hone) (fun w hw hc ht => hw.ends hc ht) (seeded_covered hone)
    (discover_eq_loop hret)
  exact hend ht

end Final

/-- Discovery is closed: in a map with at most one bank, what the instruction at a candidate leads
to is a candidate itself if it looks like code, once the search has ended without truncation. -/
theorem discovery_closed (calloc : Nat → Nat → Bool) (rom : NgProgramRom)
    (hone : AtMostOneBank rom) (seeds : List (BitVec 32)) (config : NgGameConfig)
    (maxCandidates : BitVec 32) (d : NgFunctionDiscovery)
    (hret : ngFunctionDiscoverFromGameConfigLimited calloc rom seeds config maxCandidates =
      some (true, d))
    (ht : d.truncated = false) :
    ∀ c ∈ d.candidates, ∀ instr, ngM68kDecode rom c.addr = (true, instr) → ∀ t,
      LeadsTo c.addr instr t → isProbableFunctionTarget rom t = true →
        ngFunctionDiscoveryContains d t = true :=
  discovered_closedAt hone hret ht

/-- NOP and RTS at the start of a plain image. -/
def nopRtsRom : NgProgramRom where
  data := #[0x4E, 0x71, 0x4E, 0x75]
  size := 4
  size_eq := rfl

/-- What discovery finds in NOP, RTS from address 0: the seed and the label behind it. -/
def nopRtsDiscovery : NgFunctionDiscovery where
  candidates := [{ addr := 0, isEntry := true, isScanRoot := true }, { addr := 2 }]

theorem discovery_closed_nopRts :
    ngFunctionDiscoverFromGameConfigLimited (fun _ _ => true) nopRtsRom [0] {} 0 =
        some (true, nopRtsDiscovery) ∧
      AtMostOneBank nopRtsRom ∧ ngFunctionDiscoveryContains nopRtsDiscovery 2 = true := by
  have hret : ngFunctionDiscoverFromGameConfigLimited (fun _ _ => true) nopRtsRom [0] {} 0 =
      some (true, nopRtsDiscovery) := by decide +kernel
  have hone : AtMostOneBank nopRtsRom := by
    unfold AtMostOneBank
    decide
  have hnop : ngM68kDecode nopRtsRom 0 =
      (true, { addr := 0, opcode := 0x4E71, mnemonic := .nop, byteLength := 2 }) := by
    decide +kernel
  refine ⟨hret, hone, ?_⟩
  exact discovery_closed _ nopRtsRom hone [0] {} 0 nopRtsDiscovery hret rfl _ List.mem_cons_self _
    hnop 2 (.next (by decide)) (by decide +kernel)

end NeoRecomp
