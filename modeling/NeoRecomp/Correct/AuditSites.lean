import Mathlib.Algebra.Group.Action.Defs
import Mathlib.Algebra.Order.BigOperators.Group.List
import NeoRecomp.DispatchAudit
import NeoRecomp.Lib.FirstVisits
import NeoRecomp.Correct.Resume
import NeoRecomp.Correct.Representation

/-!
# The sites of a dispatch audit

The audit visits the instructions on the linear path of every scan root, each address and bank
once.  When nothing is truncated, its counters tell how many sites of each kind there are, and no
gap is left unreported.
-/

namespace NeoRecomp

open FirstVisits

/-! ## The scanned paths -/

/-- An instruction on the path of a scan root, as the scan meets it. -/
structure AuditItem where
  rom : NgProgramRom
  locals : AuditLocals
  pc : BitVec 32
  instr : NgM68kInstr

/-- The address and bank that the scan remembers. -/
def AuditItem.key (item : AuditItem) : BitVec 32 × BitVec 32 :=
  (item.pc, auditBankForAddr item.rom item.pc)

/-- The linear path from an address on. -/
def linearPath (rom : NgProgramRom) : Nat → BitVec 32 → AuditLocals → List AuditItem
  | 0, _, _ => []
  | turns + 1, pc, locals =>
    match decodeCode rom pc with
    | none => []
    | some instr =>
      ⟨rom, locals, pc, instr⟩ ::
        if instrStopsScan instr then []
        else linearPath rom turns (pc + instr.byteLength.setWidth 32) (locals.update instr)

/-- The paths of all scan roots. -/
def auditItems (rom : NgProgramRom) (discovery : NgFunctionDiscovery) : List AuditItem :=
  (scannedRows discovery).flatMap fun row =>
    linearPath (discoveryEntryRomView rom discovery row.1) ngFunctionDiscoveryMaxInstructions
      row.2.addr {}

section Visits
variable {rom : NgProgramRom} {discovery : NgFunctionDiscovery} {config : NgGameConfig}

variable (discovery config) in
/-- The turn for an item. -/
def auditStep (state : AuditState) (item : AuditItem) : AuditState :=
  auditTurn item.rom discovery config item.locals item.pc item.instr state

variable (discovery config) in
/-- What the first visit of an item adds. -/
def auditVisit (audit : NgDispatchAudit) (item : AuditItem) : NgDispatchAudit :=
  auditRecord item.rom discovery config audit item.locals item.instr

theorem auditScanTurns_eq (turns : Nat) (pc : BitVec 32) (locals : AuditLocals)
    (state : AuditState) : auditScanTurns rom discovery config turns pc locals state =
      (linearPath rom turns pc locals).foldl (auditStep discovery config) state := by
  induction turns generalizing pc locals state with
  | zero => rfl
  | succ turns ih =>
    unfold auditScanTurns linearPath
    cases decodeCode rom pc with
    | none => rfl
    | some instr =>
      dsimp only
      rw [List.foldl_cons]
      by_cases hstop : instrStopsScan instr = true
      · rw [if_pos hstop, if_pos hstop]
        rfl
      · rw [if_neg hstop, if_neg hstop, ih]
        rfl

theorem build_eq_items : ngDispatchAuditBuildWithConfig rom discovery config =
    ((auditItems rom discovery).foldl (auditStep discovery config) {}).audit := by
  unfold ngDispatchAuditBuildWithConfig auditItems auditScanFrom
  rw [List.foldl_flatMap]
  simp only [auditScanTurns_eq]

/-! ## Truncation -/

theorem auditCountEntries_truncated (view : NgProgramRom) (entries : List (BitVec 32))
    (counted : NgDispatchAuditSite × NgDispatchAudit) :
    (entries.foldl (auditCountEntry view discovery) counted).2.truncated = counted.2.truncated := by
  induction entries generalizing counted with
  | nil => rfl
  | cons entry rest ih =>
    rw [List.foldl_cons, ih]
    unfold auditCountEntry
    split <;> rfl

theorem auditRecordJumpTable_truncated (view : NgProgramRom) (audit : NgDispatchAudit)
    (instr : NgM68kInstr) (pattern : NgM68kJumpTablePattern) :
    (auditRecordJumpTable view discovery audit instr pattern).truncated =
      (audit.full || audit.truncated) := by
  unfold auditRecordJumpTable
  cases hfull : audit.full with
  | true => rfl
  | false => exact auditCountEntries_truncated view (auditTableEntries view pattern) _

theorem auditRecordDirect_truncated (view : NgProgramRom) (audit : NgDispatchAudit)
    (instr : NgM68kInstr) : (auditRecordDirect view discovery audit instr).truncated =
      (audit.full || audit.truncated) := by
  unfold auditRecordDirect
  cases hfull : audit.full with
  | true => rfl
  | false =>
    rw [if_neg Bool.false_ne_true]
    dsimp only
    split
    · rfl
    · split <;> rfl

theorem auditRecordComputed_truncated (view : NgProgramRom) (audit : NgDispatchAudit)
    (instr : NgM68kInstr) (recent : List NgM68kInstr) :
    (auditRecordComputed view config audit instr recent).truncated =
      (audit.full || audit.truncated) := by
  unfold auditRecordComputed
  cases hfull : audit.full with
  | true => rfl
  | false =>
    rw [if_neg Bool.false_ne_true]
    dsimp only
    split <;> rfl

/-- Nothing takes the flag back. -/
theorem auditRecord_truncated {view : NgProgramRom} {audit : NgDispatchAudit}
    {locals : AuditLocals} {instr : NgM68kInstr}
    (h : (auditRecord view discovery config audit locals instr).truncated = false) :
    audit.truncated = false := by
  unfold auditRecord at h
  split at h
  · rw [auditRecordJumpTable_truncated] at h
    exact (Bool.or_eq_false_iff.mp h).2
  · split at h
    · rw [auditRecordDirect_truncated] at h
      exact (Bool.or_eq_false_iff.mp h).2
    · split at h
      · rw [auditRecordComputed_truncated] at h
        exact (Bool.or_eq_false_iff.mp h).2
      · exact h

/-- A turn that does not truncate records an item with a new key. -/
theorem auditStep_of_new {state : AuditState} {item : AuditItem} (hnew : item.key ∉ state.seen)
    (h : (auditStep discovery config state item).audit.truncated = false) :
    (auditStep discovery config state item).seen = state.seen ++ [item.key] ∧
      (auditStep discovery config state item).audit =
        auditVisit discovery config state.audit item := by
  have hkey : (item.pc, auditBankForAddr item.rom item.pc) ∉ state.seen := hnew
  unfold auditStep auditTurn at h ⊢
  dsimp only at h ⊢
  rw [if_neg hkey] at h ⊢
  by_cases hroom : state.seen.length < ngDispatchAuditMaxSites
  · rw [if_pos hroom]
    exact ⟨rfl, rfl⟩
  · rw [if_neg hroom] at h
    cases auditRecord_truncated h

theorem auditStep_truncated {state : AuditState} {item : AuditItem}
    (h : (auditStep discovery config state item).audit.truncated = false) :
    state.audit.truncated = false := by
  by_cases hseen : item.key ∈ state.seen
  · have hskip : auditStep discovery config state item = state := if_pos hseen
    rw [hskip] at h
    exact h
  · rw [(auditStep_of_new hseen h).2] at h
    exact auditRecord_truncated h

/-- An audit that is not truncated is what the first visits record. -/
theorem build_eq_visits
    (h : (ngDispatchAuditBuildWithConfig rom discovery config).truncated = false) :
    ngDispatchAuditBuildWithConfig rom discovery config =
      (firstVisits AuditItem.key [] (auditItems rom discovery)).foldl
        (auditVisit discovery config) {} := by
  rw [build_eq_items] at h ⊢
  exact (foldl_eq_firstVisits AuditState.seen AuditState.audit
    (fun state => state.audit.truncated = false) (fun _ _ hseen => if_pos hseen)
    (fun _ _ => auditStep_of_new) (fun _ _ => auditStep_truncated) _ h).2

/-! ## Table entries -/

theorem length_abs32TableTargets_le (view : NgProgramRom) (pattern : NgM68kJumpTablePattern)
    (allowed : Nat → BitVec 32 → Bool) (turns i : Nat) :
    (abs32TableTargets view pattern allowed turns i).length ≤ turns := by
  induction turns generalizing i with
  | zero => exact Nat.le_refl 0
  | succ turns ih =>
    have hnext := ih (i + 1)
    unfold abs32TableTargets
    dsimp only
    split_ifs
    · exact Nat.zero_le _
    · rw [List.length_cons]
      omega
    · exact Nat.zero_le _
    · omega

theorem length_codeTableEntries_le (view : NgProgramRom) (pattern : NgM68kJumpTablePattern)
    (turns : Nat) (entryAddr stride : BitVec 32) :
    (codeTableEntries view pattern turns entryAddr stride).length ≤ turns := by
  induction turns generalizing entryAddr stride with
  | zero => exact Nat.le_refl 0
  | succ turns ih =>
    unfold codeTableEntries
    cases codeTableEntry view pattern entryAddr stride with
    | stop => exact Nat.zero_le _
    | terminal =>
      dsimp only
      split_ifs
      · exact Nat.succ_le_succ (Nat.zero_le _)
      · exact Nat.zero_le _
    | entry stride =>
      dsimp only
      rw [List.length_cons]
      split_ifs
      · exact Nat.succ_le_succ (Nat.zero_le _)
      · exact Nat.succ_le_succ (ih _ _)

/-- The fields of a site count up to 255; no table has more than 64 entries. -/
theorem length_auditTableEntries_le (view : NgProgramRom) (pattern : NgM68kJumpTablePattern) :
    (auditTableEntries view pattern).length ≤ 64 := by
  have hcode : ((codeTableEntries view pattern 32 pattern.tableAddr
      (pattern.entrySize.setWidth 32)).map (·.1)).length ≤ 64 := by
    rw [List.length_map]
    exact (length_codeTableEntries_le view pattern 32 _ _).trans (by decide)
  unfold auditTableEntries
  cases pattern.entryKind with
  | abs32 => exact (length_abs32TableTargets_le view pattern _ _ 0).trans (Nat.min_le_right _ _)
  | address => exact hcode
  | inlineCode => exact hcode
  | directDispatch => exact hcode

variable (discovery) in
/-- The entries of a table that are in the discovery, or are missing. -/
def entryCount (view : NgProgramRom) (pattern : NgM68kJumpTablePattern) (inDiscovery : Bool) : Nat :=
  (auditTableEntries view pattern).countP
    (ngFunctionDiscoveryContainsForRom discovery view · = inDiscovery)

theorem entryCount_toNat (view : NgProgramRom) (pattern : NgM68kJumpTablePattern)
    (inDiscovery : Bool) : (BitVec.ofNat 8 (entryCount discovery view pattern inDiscovery)).toNat =
      entryCount discovery view pattern inDiscovery := by
  have hlength := length_auditTableEntries_le view pattern
  have hcount : entryCount discovery view pattern inDiscovery ≤
    (auditTableEntries view pattern).length := List.countP_le_length
  rw [BitVec.toNat_ofNat, Nat.mod_eq_of_lt (by omega)]

/-- A site with more entries counted. -/
def NgDispatchAuditSite.addEntries (site : NgDispatchAuditSite) (resolved missing : Nat) :
    NgDispatchAuditSite :=
  { site with
    resolvedEntries := site.resolvedEntries + BitVec.ofNat 8 resolved
    missingEntries := site.missingEntries + BitVec.ofNat 8 missing }

theorem NgDispatchAuditSite.addEntries_zero (site : NgDispatchAuditSite) :
    site.addEntries 0 0 = site := by
  rw [addEntries, BitVec.add_zero, BitVec.add_zero]

theorem NgDispatchAuditSite.addEntries_add (site : NgDispatchAuditSite) (r m r' m' : Nat) :
    (site.addEntries r m).addEntries r' m' = site.addEntries (r + r') (m + m') := by
  rw [addEntries, addEntries, addEntries, BitVec.ofNat_add, BitVec.ofNat_add, BitVec.add_assoc,
    BitVec.add_assoc]

/-- The totals with more entries counted. -/
def NgDispatchAudit.addEntries (audit : NgDispatchAudit) (resolved missing : Nat) :
    NgDispatchAudit :=
  { audit with
    jumpTableResolvedEntries := audit.jumpTableResolvedEntries + BitVec.ofNat 32 resolved
    jumpTableMissingEntries := audit.jumpTableMissingEntries + BitVec.ofNat 32 missing }

theorem NgDispatchAudit.addEntries_zero (audit : NgDispatchAudit) :
    audit.addEntries 0 0 = audit := by
  rw [addEntries, BitVec.add_zero, BitVec.add_zero]

theorem NgDispatchAudit.addEntries_add (audit : NgDispatchAudit) (r m r' m' : Nat) :
    (audit.addEntries r m).addEntries r' m' = audit.addEntries (r + r') (m + m') := by
  rw [addEntries, addEntries, addEntries, BitVec.ofNat_add, BitVec.ofNat_add, BitVec.add_assoc,
    BitVec.add_assoc]

variable (discovery) in
/-- A table site with its entries counted. -/
def countedSite (view : NgProgramRom) (instr : NgM68kInstr) (pattern : NgM68kJumpTablePattern) :
    NgDispatchAuditSite :=
  (tableSite view instr pattern).addEntries (entryCount discovery view pattern true)
    (entryCount discovery view pattern false)

theorem auditCountEntries_eq (view : NgProgramRom) (entries : List (BitVec 32))
    (site : NgDispatchAuditSite) (audit : NgDispatchAudit) :
    entries.foldl (auditCountEntry view discovery) (site, audit) =
      (site.addEntries
          (entries.countP (ngFunctionDiscoveryContainsForRom discovery view · = true))
          (entries.countP (ngFunctionDiscoveryContainsForRom discovery view · = false)),
       audit.addEntries
          (entries.countP (ngFunctionDiscoveryContainsForRom discovery view · = true))
          (entries.countP (ngFunctionDiscoveryContainsForRom discovery view · = false))) := by
  induction entries generalizing site audit with
  | nil =>
    rw [List.countP_nil, List.countP_nil, site.addEntries_zero, audit.addEntries_zero]
    rfl
  | cons entry rest ih =>
    cases hin : ngFunctionDiscoveryContainsForRom discovery view entry with
    | true =>
      have hstep : auditCountEntry view discovery (site, audit) entry =
          (site.addEntries 1 0, audit.addEntries 1 0) := by
        rw [auditCountEntry, if_pos hin, NgDispatchAuditSite.addEntries,
          NgDispatchAudit.addEntries, BitVec.add_zero, BitVec.add_zero]
        rfl
      rw [List.foldl_cons, hstep, ih, site.addEntries_add, audit.addEntries_add,
        List.countP_cons, List.countP_cons, hin, Nat.zero_add, Nat.add_comm 1]
      rfl
    | false =>
      have hstep : auditCountEntry view discovery (site, audit) entry =
          (site.addEntries 0 1, audit.addEntries 0 1) := by
        rw [auditCountEntry, if_neg (by rw [hin]; exact Bool.false_ne_true),
          NgDispatchAuditSite.addEntries, NgDispatchAudit.addEntries, BitVec.add_zero,
          BitVec.add_zero]
        rfl
      rw [List.foldl_cons, hstep, ih, site.addEntries_add, audit.addEntries_add,
        List.countP_cons, List.countP_cons, hin, Nat.zero_add, Nat.add_comm 1]
      rfl

end Visits

/-! ## Counters -/

/-- A target in the ROM that is not in the discovery. -/
def NgDispatchAuditSite.missesTarget (site : NgDispatchAuditSite) : Bool :=
  site.kind = .direct && !site.targetExternal && !site.targetInDiscovery

/-- A target outside the ROM. -/
def NgDispatchAuditSite.isExternal (site : NgDispatchAuditSite) : Bool :=
  site.kind = .direct && site.targetExternal

/-- A computed dispatch that nothing in the configuration allows. -/
def NgDispatchAuditSite.isUnknown (site : NgDispatchAuditSite) : Bool :=
  site.kind = .computed && !site.runtimeAllowed

/-- A computed dispatch left to the run time. -/
def NgDispatchAuditSite.isRuntime (site : NgDispatchAuditSite) : Bool :=
  site.kind = .computed && site.runtimeAllowed

/-- The counters of an audit tell what its sites are. -/
structure AuditTallied (audit : NgDispatchAudit) : Prop where
  direct : audit.directCount = BitVec.ofNat 32 (audit.sites.countP (·.kind = .direct))
  missingDirect : audit.missingDirectCount = BitVec.ofNat 32 (audit.sites.countP (·.missesTarget))
  externalDirect : audit.externalDirectCount = BitVec.ofNat 32 (audit.sites.countP (·.isExternal))
  computed : audit.computedCount = BitVec.ofNat 32 (audit.sites.countP (·.isUnknown))
  runtimeComputed : audit.runtimeComputedCount = BitVec.ofNat 32 (audit.sites.countP (·.isRuntime))
  jumpTable : audit.jumpTableCount = BitVec.ofNat 32 (audit.sites.countP (·.kind = .jumpTable))
  resolved : audit.jumpTableResolvedEntries =
    BitVec.ofNat 32 (audit.sites.map (·.resolvedEntries.toNat)).sum
  missing : audit.jumpTableMissingEntries =
    BitVec.ofNat 32 (audit.sites.map (·.missingEntries.toNat)).sum

theorem auditTallied_empty : AuditTallied {} := ⟨rfl, rfl, rfl, rfl, rfl, rfl, rfl, rfl⟩

/-- What one site adds to a counter. -/
def tick (counted : Bool) : BitVec 32 := if counted then 1 else 0

theorem ofNat_countP_concat (p : NgDispatchAuditSite → Bool) (sites : List NgDispatchAuditSite)
    (site : NgDispatchAuditSite) : BitVec.ofNat 32 ((sites ++ [site]).countP p) =
      BitVec.ofNat 32 (sites.countP p) + tick (p site) := by
  rw [List.countP_append, List.countP_singleton, BitVec.ofNat_add]
  cases p site <;> rfl

theorem ofNat_sum_concat (f : NgDispatchAuditSite → Nat) (sites : List NgDispatchAuditSite)
    (site : NgDispatchAuditSite) : BitVec.ofNat 32 ((sites ++ [site]).map f).sum =
      BitVec.ofNat 32 (sites.map f).sum + BitVec.ofNat 32 (f site) := by
  rw [List.map_append, List.sum_append, List.map_singleton, List.sum_singleton, BitVec.ofNat_add]

/-- The audit with one more site, and every counter moved by it. -/
def NgDispatchAudit.tally (audit : NgDispatchAudit) (site : NgDispatchAuditSite) :
    NgDispatchAudit where
  sites := audit.sites ++ [site]
  directCount := audit.directCount + tick (site.kind = .direct)
  missingDirectCount := audit.missingDirectCount + tick site.missesTarget
  externalDirectCount := audit.externalDirectCount + tick site.isExternal
  computedCount := audit.computedCount + tick site.isUnknown
  runtimeComputedCount := audit.runtimeComputedCount + tick site.isRuntime
  jumpTableCount := audit.jumpTableCount + tick (site.kind = .jumpTable)
  jumpTableResolvedEntries :=
    audit.jumpTableResolvedEntries + BitVec.ofNat 32 site.resolvedEntries.toNat
  jumpTableMissingEntries :=
    audit.jumpTableMissingEntries + BitVec.ofNat 32 site.missingEntries.toNat
  truncated := audit.truncated

theorem AuditTallied.tally {audit : NgDispatchAudit} (h : AuditTallied audit)
    (site : NgDispatchAuditSite) : AuditTallied (audit.tally site) where
  direct := by
    rw [NgDispatchAudit.tally, ofNat_countP_concat, ← h.direct]
  missingDirect := by
    rw [NgDispatchAudit.tally, ofNat_countP_concat, ← h.missingDirect]
  externalDirect := by
    rw [NgDispatchAudit.tally, ofNat_countP_concat, ← h.externalDirect]
  computed := by
    rw [NgDispatchAudit.tally, ofNat_countP_concat, ← h.computed]
  runtimeComputed := by
    rw [NgDispatchAudit.tally, ofNat_countP_concat, ← h.runtimeComputed]
  jumpTable := by
    rw [NgDispatchAudit.tally, ofNat_countP_concat, ← h.jumpTable]
  resolved := by
    rw [NgDispatchAudit.tally, ofNat_sum_concat, ← h.resolved]
  missing := by
    rw [NgDispatchAudit.tally, ofNat_sum_concat, ← h.missing]

section Records
variable {discovery : NgFunctionDiscovery} {config : NgGameConfig} {audit : NgDispatchAudit}

/-- A record that finds room tallies its site. -/
theorem auditRecordDirect_eq (view : NgProgramRom) (instr : NgM68kInstr)
    (hroom : audit.full = false) : auditRecordDirect view discovery audit instr =
      audit.tally (directSite view discovery instr) := by
  have hkind : (directSite view discovery instr).kind = .direct := rfl
  have hresolved : (directSite view discovery instr).resolvedEntries = 0 := rfl
  have hmissing : (directSite view discovery instr).missingEntries = 0 := rfl
  unfold auditRecordDirect
  generalize directSite view discovery instr = site at hkind hresolved hmissing ⊢
  rw [hroom, if_neg Bool.false_ne_true]
  cases hext : site.targetExternal with
  | true =>
    simp [NgDispatchAudit.tally, NgDispatchAudit.push, NgDispatchAuditSite.missesTarget,
      NgDispatchAuditSite.isExternal, NgDispatchAuditSite.isUnknown, NgDispatchAuditSite.isRuntime,
      tick, hkind, hresolved, hmissing, hext]
  | false =>
    cases hin : site.targetInDiscovery <;>
      simp [NgDispatchAudit.tally, NgDispatchAudit.push, NgDispatchAuditSite.missesTarget,
        NgDispatchAuditSite.isExternal, NgDispatchAuditSite.isUnknown,
        NgDispatchAuditSite.isRuntime, tick, hkind, hresolved, hmissing, hext, hin]

theorem auditRecordComputed_eq (view : NgProgramRom) (instr : NgM68kInstr)
    (recent : List NgM68kInstr) (hroom : audit.full = false) :
    auditRecordComputed view config audit instr recent =
      audit.tally (computedSite view config instr recent) := by
  have hkind : (computedSite view config instr recent).kind = .computed := rfl
  have hresolved : (computedSite view config instr recent).resolvedEntries = 0 := rfl
  have hmissing : (computedSite view config instr recent).missingEntries = 0 := rfl
  unfold auditRecordComputed
  generalize computedSite view config instr recent = site at hkind hresolved hmissing ⊢
  rw [hroom, if_neg Bool.false_ne_true]
  cases hallowed : site.runtimeAllowed <;>
    simp [NgDispatchAudit.tally, NgDispatchAudit.push, NgDispatchAuditSite.missesTarget,
      NgDispatchAuditSite.isExternal, NgDispatchAuditSite.isUnknown, NgDispatchAuditSite.isRuntime,
      tick, hkind, hresolved, hmissing, hallowed]

theorem auditRecordJumpTable_eq (view : NgProgramRom) (instr : NgM68kInstr)
    (pattern : NgM68kJumpTablePattern) (hroom : audit.full = false) :
    auditRecordJumpTable view discovery audit instr pattern =
      audit.tally (countedSite discovery view instr pattern) := by
  have hkind : (countedSite discovery view instr pattern).kind = .jumpTable := rfl
  have hresolved : (countedSite discovery view instr pattern).resolvedEntries.toNat =
      entryCount discovery view pattern true := by
    rw [← entryCount_toNat view pattern true]
    exact congrArg BitVec.toNat (BitVec.zero_add _)
  have hmissing : (countedSite discovery view instr pattern).missingEntries.toNat =
      entryCount discovery view pattern false := by
    rw [← entryCount_toNat view pattern false]
    exact congrArg BitVec.toNat (BitVec.zero_add _)
  unfold auditRecordJumpTable
  rw [hroom, if_neg Bool.false_ne_true, auditCountEntries_eq]
  change NgDispatchAudit.push (NgDispatchAudit.addEntries _ (entryCount discovery view pattern true)
    (entryCount discovery view pattern false)) (countedSite discovery view instr pattern) = _
  rw [← hresolved, ← hmissing]
  generalize countedSite discovery view instr pattern = site at hkind ⊢
  simp [NgDispatchAudit.tally, NgDispatchAudit.push, NgDispatchAudit.addEntries,
    NgDispatchAuditSite.missesTarget, NgDispatchAuditSite.isExternal,
    NgDispatchAuditSite.isUnknown, NgDispatchAuditSite.isRuntime, tick, hkind]

variable (discovery config) in
/-- The site that the first visit of an item leaves. -/
def auditSite (item : AuditItem) : Option NgDispatchAuditSite :=
  match (auditMatchedTable item.rom item.locals item.instr).filter
      (auditJumpTableHasEntries item.rom) with
  | some pattern => some (countedSite discovery item.rom item.instr pattern)
  | none =>
    if instrIsDirectTarget item.instr then some (directSite item.rom discovery item.instr)
    else if instrIsDispatch item.instr then
      some (computedSite item.rom config item.instr item.locals.recent)
    else none

/-- Where there is room a visit leaves no site or tallies one. -/
theorem auditVisit_of_room {item : AuditItem} (hroom : audit.full = false) :
    (auditSite discovery config item = none ∧ auditVisit discovery config audit item = audit) ∨
      ∃ site, auditSite discovery config item = some site ∧
        auditVisit discovery config audit item = audit.tally site := by
  unfold auditVisit auditRecord auditSite
  cases htable : (auditMatchedTable item.rom item.locals item.instr).filter
      (auditJumpTableHasEntries item.rom) with
  | some pattern => exact .inr ⟨_, rfl, auditRecordJumpTable_eq item.rom item.instr pattern hroom⟩
  | none =>
    dsimp only
    by_cases hdirect : instrIsDirectTarget item.instr = true
    · rw [if_pos hdirect, if_pos hdirect]
      exact .inr ⟨_, rfl, auditRecordDirect_eq item.rom item.instr hroom⟩
    · rw [if_neg hdirect, if_neg hdirect]
      by_cases hdispatch : instrIsDispatch item.instr = true
      · rw [if_pos hdispatch, if_pos hdispatch]
        exact .inr ⟨_, rfl, auditRecordComputed_eq item.rom item.instr _ hroom⟩
      · rw [if_neg hdispatch, if_neg hdispatch]
        exact .inl ⟨rfl, rfl⟩

/-- Where there is none it leaves no site or is cut off, with the sites and their entries as they
were. -/
theorem auditVisit_of_full {item : AuditItem} (hfull : audit.full = true) :
    (auditSite discovery config item = none ∧ auditVisit discovery config audit item = audit) ∨
      (auditVisit discovery config audit item).truncated = true ∧
        (auditVisit discovery config audit item).sites = audit.sites ∧
        (auditVisit discovery config audit item).jumpTableMissingEntries =
          audit.jumpTableMissingEntries := by
  unfold auditVisit auditRecord auditSite
  cases htable : (auditMatchedTable item.rom item.locals item.instr).filter
      (auditJumpTableHasEntries item.rom) with
  | some pattern =>
    dsimp only
    unfold auditRecordJumpTable
    rw [if_pos hfull]
    exact .inr ⟨rfl, rfl, rfl⟩
  | none =>
    dsimp only
    by_cases hdirect : instrIsDirectTarget item.instr = true
    · simp only [if_pos hdirect]
      unfold auditRecordDirect
      rw [if_pos hfull]
      exact .inr ⟨rfl, rfl, rfl⟩
    · simp only [if_neg hdirect]
      by_cases hdispatch : instrIsDispatch item.instr = true
      · simp only [if_pos hdispatch]
        unfold auditRecordComputed
        rw [if_pos hfull]
        exact .inr ⟨rfl, rfl, rfl⟩
      · rw [if_neg hdispatch, if_neg hdispatch]
        exact .inl ⟨rfl, rfl⟩

/-- A visit that does not truncate leaves no site, or finds room and tallies one. -/
theorem auditVisit_eq {item : AuditItem}
    (h : (auditVisit discovery config audit item).truncated = false) :
    (auditSite discovery config item = none ∧ auditVisit discovery config audit item = audit) ∨
      ∃ site, auditSite discovery config item = some site ∧ audit.full = false ∧
        auditVisit discovery config audit item = audit.tally site := by
  cases hfull : audit.full with
  | false =>
    refine (auditVisit_of_room hfull).imp_right fun hvisit => ?_
    obtain ⟨site, hsite, heq⟩ := hvisit
    exact ⟨site, hsite, rfl, heq⟩
  | true =>
    rcases auditVisit_of_full hfull with hnone | ⟨htruncated, -⟩
    · exact .inl hnone
    · rw [htruncated] at h
      cases h

/-- What a run of visits leaves. -/
structure AuditRun (discovery : NgFunctionDiscovery) (config : NgGameConfig) (visits : List AuditItem)
    (audit : NgDispatchAudit) : Prop where
  sites : audit.sites = visits.filterMap (auditSite discovery config)
  tallied : AuditTallied audit
  length : audit.sites.length ≤ ngDispatchAuditMaxSites

theorem AuditRun.visit {visits : List AuditItem} (hrun : AuditRun discovery config visits audit)
    {item : AuditItem} (h : (auditVisit discovery config audit item).truncated = false) :
    AuditRun discovery config (visits ++ [item]) (auditVisit discovery config audit item) := by
  have hsites : (visits ++ [item]).filterMap (auditSite discovery config) =
      audit.sites ++ (auditSite discovery config item).toList := by
    rw [List.filterMap_append, ← hrun.sites]
    cases hsite : auditSite discovery config item with
    | none => rw [List.filterMap_cons_none hsite]; rfl
    | some site => rw [List.filterMap_cons_some hsite]; rfl
  obtain ⟨hnone, hvisit⟩ | ⟨site, hsite, hroom, hvisit⟩ := auditVisit_eq h
  · rw [hvisit]
    refine ⟨?_, hrun.tallied, hrun.length⟩
    rw [hsites, hnone, Option.toList_none, List.append_nil]
  · rw [hvisit]
    refine ⟨?_, hrun.tallied.tally site, ?_⟩
    · rw [hsites, hsite]
      rfl
    · unfold NgDispatchAudit.full at hroom
      rw [decide_eq_false_iff_not] at hroom
      rw [NgDispatchAudit.tally, List.length_append, List.length_singleton]
      omega

theorem foldl_auditVisit_truncated {visits : List AuditItem}
    (h : (visits.foldl (auditVisit discovery config) audit).truncated = false) :
    audit.truncated = false := by
  induction visits generalizing audit with
  | nil => exact h
  | cons item rest ih => exact auditRecord_truncated (ih h)

theorem AuditRun.foldl {done visits : List AuditItem} (hrun : AuditRun discovery config done audit)
    (h : (visits.foldl (auditVisit discovery config) audit).truncated = false) :
    AuditRun discovery config (done ++ visits)
      (visits.foldl (auditVisit discovery config) audit) := by
  induction visits generalizing done audit with
  | nil =>
    rw [List.append_nil]
    exact hrun
  | cons item rest ih =>
    have hstep := ih (hrun.visit (foldl_auditVisit_truncated h)) h
    rw [List.append_assoc] at hstep
    exact hstep

/-- The sites of an audit that is not truncated. -/
theorem build_auditRun {rom : NgProgramRom}
    (h : (ngDispatchAuditBuildWithConfig rom discovery config).truncated = false) :
    AuditRun discovery config (firstVisits AuditItem.key [] (auditItems rom discovery))
      (ngDispatchAuditBuildWithConfig rom discovery config) := by
  have hempty : AuditRun discovery config [] {} := ⟨rfl, auditTallied_empty, Nat.zero_le _⟩
  have hvisits := build_eq_visits h
  rw [hvisits] at h ⊢
  exact hempty.foldl h

end Records

/-! ## Paths -/

section Paths
variable {rom : NgProgramRom} {discovery : NgFunctionDiscovery} {config : NgGameConfig}
  {item first : AuditItem}

theorem mem_linearPath {turns : Nat} {pc : BitVec 32} {locals : AuditLocals}
    (h : item ∈ linearPath rom turns pc locals) :
    item.rom = rom ∧ decodeCode rom item.pc = some item.instr := by
  induction turns generalizing pc locals with
  | zero => exact absurd h List.not_mem_nil
  | succ turns ih =>
    unfold linearPath at h
    cases hdecode : decodeCode rom pc with
    | none =>
      rw [hdecode] at h
      exact absurd h List.not_mem_nil
    | some instr =>
      rw [hdecode] at h
      dsimp only at h
      cases List.mem_cons.mp h with
      | inl heq =>
        rw [heq]
        exact ⟨rfl, hdecode⟩
      | inr hrest =>
        by_cases hstop : instrStopsScan instr = true
        · rw [if_pos hstop] at hrest
          exact absurd hrest List.not_mem_nil
        · rw [if_neg hstop] at hrest
          exact ih hrest

/-- Every item is decoded with some bank selected. -/
theorem mem_auditItems (h : item ∈ auditItems rom discovery) :
    (∃ bank, item.rom = ngProgramRomSelectBank rom bank) ∧
      decodeCode item.rom item.pc = some item.instr := by
  unfold auditItems at h
  obtain ⟨row, -, hmem⟩ := List.mem_flatMap.mp h
  obtain ⟨hrom, hdecode⟩ := mem_linearPath hmem
  rw [← hrom] at hdecode
  refine ⟨?_, hdecode⟩
  rw [hrom]
  by_cases hbank : ngFunctionDiscoveryBankAt discovery row.1 ≠ ngFunctionDiscoveryBankNone
  · exact ⟨_, if_pos hbank⟩
  · exact ⟨rom.activeBank, if_neg hbank⟩

/-- In a separated map the key of an item gives its instruction. -/
theorem Separated.instr_eq_of_key (hsep : Separated rom) (hitem : item ∈ auditItems rom discovery)
    (hfirst : first ∈ auditItems rom discovery) (hkey : first.key = item.key) :
    first.instr = item.instr := by
  obtain ⟨⟨bank, hrom⟩, hdecode⟩ := mem_auditItems hitem
  obtain ⟨⟨bank', hrom'⟩, hdecode'⟩ := mem_auditItems hfirst
  have hpc : first.pc = item.pc := congrArg Prod.fst hkey
  have hbank : auditBankForAddr first.rom first.pc = auditBankForAddr item.rom item.pc :=
    congrArg Prod.snd hkey
  rw [hpc, hrom, hrom'] at hbank
  rw [hrom'] at hdecode'
  rw [hpc] at hdecode'
  rw [hrom] at hdecode
  have hmapped := (ngM68kDecode_mapped (decodeCode_eq_some.mp hdecode).1).1
  have hmapped' := (ngM68kDecode_mapped (decodeCode_eq_some.mp hdecode').1).1
  have henabled (h : ngProgramRomAddrIsBanked rom item.pc = true) :
      rom.addressMapEnabled = true := by
    by_contra hoff
    unfold ngProgramRomAddrIsBanked at h
    rw [Bool.not_eq_true] at hoff
    rw [hoff] at h
    exact Bool.false_ne_true h
  cases hbanked : ngProgramRomAddrIsBanked rom item.pc with
  | false =>
    -- The instruction does not reach into the window.
    have hten : ∀ k < 10, ngProgramRomAddrIsBanked rom (item.pc + BitVec.ofNat 32 k) = false := by
      cases he : rom.addressMapEnabled with
      | false =>
        intro k _
        unfold ngProgramRomAddrIsBanked
        rw [he]
        rfl
      | true =>
        have hfix : InFixedRegion (ngProgramRomSelectBank rom bank) item.pc :=
          inFixed_of_mapped he hmapped hbanked
        exact hsep.not_banked he hfix
    unfold decodeCode at hdecode hdecode'
    rw [(@sameBytes_select rom item.pc bank' bank hten).decode] at hdecode'
    exact Option.some_inj.mp (hdecode'.symm.trans hdecode)
  | true =>
    -- In the window the bank is part of the key, or there is only one.
    have he := henabled hbanked
    have hsame : bank' = bank := by
      by_cases hmany : 1 < (ngProgramRomBankCount rom).toNat
      · unfold auditBankForAddr at hbank
        rw [if_pos ⟨hmany, hbanked⟩, if_pos ⟨hmany, hbanked⟩] at hbank
        exact hbank
      · have hone : AtMostOneBank rom := Nat.not_lt.mp hmany
        have hfix : ¬ InFixedRegion rom item.pc := by
          intro hfix
          have hfar := hsep item.pc item.pc he hfix hbanked
          rw [BitVec.sub_self] at hfar
          exact absurd hfar (by decide)
        have hzero : bank = 0 := hone.configured
          (@configured_of_mapped (ngProgramRomSelectBank rom bank) item.pc he hmapped hfix)
        have hzero' : bank' = 0 := hone.configured
          (@configured_of_mapped (ngProgramRomSelectBank rom bank') item.pc he hmapped' hfix)
        rw [hzero, hzero']
    rw [hsame] at hdecode'
    exact Option.some_inj.mp (hdecode'.symm.trans hdecode)

/-! ## The report -/

theorem auditSite_key {site : NgDispatchAuditSite}
    (hdecode : decodeCode item.rom item.pc = some item.instr)
    (h : auditSite discovery config item = some site) :
    site.siteAddr = item.pc &&& 0x00FFFFFF ∧ site.siteBank = auditBankForAddr item.rom item.pc := by
  have haddr := ngM68kDecode_addr (decodeCode_eq_some.mp hdecode).1
  have hstart (kind : NgDispatchAuditKind) :
      (auditAppend item.rom kind item.instr).siteAddr = item.pc &&& 0x00FFFFFF ∧
        (auditAppend item.rom kind item.instr).siteBank = auditBankForAddr item.rom item.pc := by
    rw [auditAppend, haddr]
    exact ⟨rfl, rfl⟩
  unfold auditSite at h
  split at h
  · rw [← Option.some_inj.mp h]
    exact hstart .jumpTable
  · split at h
    · rw [← Option.some_inj.mp h]
      exact hstart .direct
    · split at h
      · rw [← Option.some_inj.mp h]
        exact hstart .computed
      · cases h

variable (discovery config) in
/-- A dispatch leaves a site. -/
theorem auditSite_of_dispatch (h : instrIsDispatch item.instr = true) :
    ∃ site, auditSite discovery config item = some site := by
  unfold auditSite
  split
  · exact ⟨_, rfl⟩
  · by_cases hdirect : instrIsDirectTarget item.instr = true
    · exact ⟨_, if_pos hdirect⟩
    · rw [if_neg hdirect]
      exact ⟨_, if_pos h⟩

/-- The counters are the counts and sums over the sites. -/
structure AuditCounts (audit : NgDispatchAudit) : Prop where
  direct : audit.directCount.toNat = audit.sites.countP (·.kind = .direct)
  missingDirect : audit.missingDirectCount.toNat = audit.sites.countP (·.missesTarget)
  externalDirect : audit.externalDirectCount.toNat = audit.sites.countP (·.isExternal)
  computed : audit.computedCount.toNat = audit.sites.countP (·.isUnknown)
  runtimeComputed : audit.runtimeComputedCount.toNat = audit.sites.countP (·.isRuntime)
  jumpTable : audit.jumpTableCount.toNat = audit.sites.countP (·.kind = .jumpTable)
  resolved : audit.jumpTableResolvedEntries.toNat =
    (audit.sites.map (·.resolvedEntries.toNat)).sum
  missing : audit.jumpTableMissingEntries.toNat = (audit.sites.map (·.missingEntries.toNat)).sum

theorem AuditTallied.counts {audit : NgDispatchAudit} (h : AuditTallied audit)
    (hlength : audit.sites.length ≤ ngDispatchAuditMaxSites) : AuditCounts audit := by
  have hmax : ngDispatchAuditMaxSites = 131072 := rfl
  have hcount (p : NgDispatchAuditSite → Bool) :
      (BitVec.ofNat 32 (audit.sites.countP p)).toNat = audit.sites.countP p := by
    have hle : audit.sites.countP p ≤ audit.sites.length := List.countP_le_length
    rw [BitVec.toNat_ofNat, Nat.mod_eq_of_lt (by omega)]
  have hsum (f : NgDispatchAuditSite → BitVec 8) :
      (BitVec.ofNat 32 (audit.sites.map fun site => (f site).toNat).sum).toNat =
        (audit.sites.map fun site => (f site).toNat).sum := by
    have hle := List.sum_le_card_nsmul (audit.sites.map fun site => (f site).toNat) 255 (by
      intro n hn
      obtain ⟨site, -, hsite⟩ := List.mem_map.mp hn
      have hbyte := (f site).isLt
      omega)
    rw [List.length_map, smul_eq_mul] at hle
    rw [BitVec.toNat_ofNat, Nat.mod_eq_of_lt (by omega)]
  exact ⟨h.direct ▸ hcount _, h.missingDirect ▸ hcount _, h.externalDirect ▸ hcount _,
    h.computed ▸ hcount _, h.runtimeComputed ▸ hcount _, h.jumpTable ▸ hcount _,
    h.resolved ▸ hsum _, h.missing ▸ hsum _⟩

variable (discovery config) in
/-- A site without a gap: an external target or one in the discovery, a dispatch allowed at run
time, or a table with all its scanned entries in the discovery. -/
def SiteCovered (first : AuditItem) (site : NgDispatchAuditSite) : Prop :=
  (site = directSite first.rom discovery first.instr ∧
    (site.targetExternal = true ∨ site.targetInDiscovery = true)) ∨
  (site = computedSite first.rom config first.instr first.locals.recent ∧
    site.runtimeAllowed = true) ∨
  ∃ pattern, auditMatchedTable first.rom first.locals first.instr = some pattern ∧
    site = countedSite discovery first.rom first.instr pattern ∧
    ∀ entry ∈ auditTableEntries first.rom pattern,
      ngFunctionDiscoveryContainsForRom discovery first.rom entry = true

/-- Without a gap in the counters no site has one. -/
theorem AuditCounts.covered {audit : NgDispatchAudit} (h : AuditCounts audit)
    (hgaps : ngDispatchAuditHasGaps audit = false) {site : NgDispatchAuditSite}
    (hmem : site ∈ audit.sites) (hsite : auditSite discovery config first = some site) :
    SiteCovered discovery config first site := by
  unfold ngDispatchAuditHasGaps at hgaps
  simp only [Bool.or_eq_false_iff, decide_eq_false_iff_not, not_not] at hgaps
  obtain ⟨⟨⟨hmissing, hcomputed⟩, hentries⟩, -⟩ := hgaps
  have hzero (word : BitVec 32) (hword : word = 0) : word.toNat = 0 := congrArg BitVec.toNat hword
  unfold auditSite at hsite
  split at hsite
  · next pattern htable =>
    rw [Option.filter_eq_some_iff] at htable
    rw [Option.some_inj] at hsite
    refine .inr (.inr ⟨pattern, htable.1, hsite.symm, ?_⟩)
    have hnone : site.missingEntries.toNat = 0 :=
      List.sum_eq_zero_iff_forall_eq_nat.mp (h.missing.symm.trans (hzero _ hentries)) _
        (List.mem_map_of_mem hmem)
    have hcount : entryCount discovery first.rom pattern false = 0 := by
      rw [← entryCount_toNat first.rom pattern false, ← hnone, ← hsite]
      exact congrArg BitVec.toNat (BitVec.zero_add _).symm
    intro entry hentry
    have hin := List.countP_eq_zero.mp hcount entry hentry
    rw [decide_eq_true_eq, Bool.not_eq_false] at hin
    exact hin
  · by_cases hdirect : instrIsDirectTarget first.instr = true
    · rw [if_pos hdirect, Option.some_inj] at hsite
      refine .inl ⟨hsite.symm, ?_⟩
      have hkind : site.kind = .direct := by
        rw [← hsite]
        rfl
      have hfound := List.countP_eq_zero.mp (h.missingDirect.symm.trans (hzero _ hmissing)) site hmem
      unfold NgDispatchAuditSite.missesTarget at hfound
      rw [hkind] at hfound
      cases hext : site.targetExternal with
      | true => exact .inl rfl
      | false =>
        right
        by_contra hin
        rw [Bool.not_eq_true] at hin
        rw [hext, hin] at hfound
        exact hfound rfl
    · rw [if_neg hdirect] at hsite
      split at hsite
      · rw [Option.some_inj] at hsite
        refine .inr (.inl ⟨hsite.symm, ?_⟩)
        have hkind : site.kind = .computed := by
          rw [← hsite]
          rfl
        have hfound := List.countP_eq_zero.mp (h.computed.symm.trans (hzero _ hcomputed)) site hmem
        unfold NgDispatchAuditSite.isUnknown at hfound
        rw [hkind] at hfound
        by_contra hallowed
        rw [Bool.not_eq_true] at hallowed
        rw [hallowed] at hfound
        exact hfound rfl
      · cases hsite

/-- The keys of the sites are those of the visits that left them. -/
theorem map_siteKey_sublist {visits : List AuditItem}
    (hkey : ∀ visit ∈ visits, ∀ site, auditSite discovery config visit = some site →
      (site.siteAddr, site.siteBank) = visit.key) :
    ((visits.filterMap (auditSite discovery config)).map
      fun site => (site.siteAddr, site.siteBank)).Sublist (visits.map AuditItem.key) := by
  induction visits with
  | nil => exact List.Sublist.slnil
  | cons visit rest ih =>
    have hrest := ih fun other hother => hkey other (List.mem_cons_of_mem visit hother)
    rw [List.map_cons]
    cases hsite : auditSite discovery config visit with
    | none =>
      rw [List.filterMap_cons_none hsite]
      exact hrest.cons _
    | some site =>
      rw [List.filterMap_cons_some hsite, List.map_cons,
        hkey visit List.mem_cons_self site hsite]
      exact hrest.cons_cons _

/-- The audit of a discovery that is not truncated: its counters are the counts and sums over its
sites; below the 24-bit bus every address and bank has at most one site; and with a separated map
and no gap reported, every dispatch on the path of a scan root has a site without a gap. -/
theorem dispatch_audit_accounting (rom : NgProgramRom) (discovery : NgFunctionDiscovery)
    (config : NgGameConfig)
    (h : (ngDispatchAuditBuildWithConfig rom discovery config).truncated = false) :
    AuditCounts (ngDispatchAuditBuildWithConfig rom discovery config) ∧
    (MapBelow24 rom → ((ngDispatchAuditBuildWithConfig rom discovery config).sites.map
      fun site => (site.siteAddr, site.siteBank)).Nodup) ∧
    (Separated rom →
      ngDispatchAuditHasGaps (ngDispatchAuditBuildWithConfig rom discovery config) = false →
      ∀ item ∈ auditItems rom discovery, instrIsDispatch item.instr = true →
        ∃ site ∈ (ngDispatchAuditBuildWithConfig rom discovery config).sites,
          site.siteAddr = item.pc &&& 0x00FFFFFF ∧
          site.siteBank = auditBankForAddr item.rom item.pc ∧
          ∃ first ∈ auditItems rom discovery, first.key = item.key ∧ first.instr = item.instr ∧
            SiteCovered discovery config first site) := by
  have hrun := build_auditRun h
  have hcounts := hrun.tallied.counts hrun.length
  refine ⟨hcounts, fun hbelow => ?_, fun hsep hgaps item hitem hdispatch => ?_⟩
  · have hnodup := nodup_firstVisits AuditItem.key (auditItems rom discovery) List.nodup_nil
    rw [List.nil_append] at hnodup
    rw [hrun.sites]
    refine hnodup.sublist (map_siteKey_sublist fun visit hvisit site hsite => ?_)
    obtain ⟨⟨bank, hrom⟩, hdecode⟩ := mem_auditItems (mem_of_mem_firstVisits hvisit)
    obtain ⟨haddr, hbank⟩ := auditSite_key hdecode hsite
    have hmapped := (ngM68kDecode_mapped (decodeCode_eq_some.mp hdecode).1).1
    rw [hrom] at hmapped
    have hmask : visit.pc &&& 0x00FFFFFF = visit.pc := addr24_of_lt (hbelow bank _ hmapped)
    rw [haddr, hmask, hbank]
    rfl
  · obtain hseen | ⟨first, hfirst, hkey⟩ :=
      exists_firstVisit AuditItem.key [] hitem
    · exact absurd hseen List.not_mem_nil
    · have hmem := mem_of_mem_firstVisits hfirst
      have hinstr := hsep.instr_eq_of_key hitem hmem hkey
      rw [← hinstr] at hdispatch
      obtain ⟨site, hsite⟩ := auditSite_of_dispatch discovery config hdispatch
      have hsites : site ∈ (ngDispatchAuditBuildWithConfig rom discovery config).sites := by
        rw [hrun.sites]
        exact List.mem_filterMap.mpr ⟨first, hfirst, hsite⟩
      obtain ⟨haddr, hbank⟩ := auditSite_key (mem_auditItems hmem).2 hsite
      refine ⟨site, hsites, ?_, ?_, first, hmem, hkey, hinstr,
        hcounts.covered hgaps hsites hsite⟩
      · exact haddr.trans (congrArg (·.1 &&& 0x00FFFFFF) hkey)
      · exact hbank.trans (congrArg Prod.snd hkey)

end Paths

/-- A call to the second routine of two. -/
def callRom : NgProgramRom :=
  ngProgramRomLoaded #[0x4E, 0xB8, 0x00, 0x06, 0x4E, 0x75, 0x4E, 0x75] 8 rfl

def callDiscovery : NgFunctionDiscovery where
  candidates := [{ addr := 0, isScanRoot := true }, { addr := 6, isScanRoot := true }]

/-- The audit has one site for the call, which finds its routine discovered. -/
theorem dispatch_audit_accounting_call :
    AuditCounts (ngDispatchAuditBuildWithConfig callRom callDiscovery {}) ∧
    (ngDispatchAuditBuildWithConfig callRom callDiscovery {}).directCount = 1 ∧
    ((ngDispatchAuditBuildWithConfig callRom callDiscovery {}).sites.map
      fun site => (site.siteAddr, site.siteBank)).Nodup ∧
    ∃ item ∈ auditItems callRom callDiscovery, instrIsDispatch item.instr = true ∧
      ∃ site ∈ (ngDispatchAuditBuildWithConfig callRom callDiscovery {}).sites,
        site.siteAddr = item.pc &&& 0x00FFFFFF ∧
        ∃ first ∈ auditItems callRom callDiscovery, first.instr = item.instr ∧
          SiteCovered callDiscovery {} first site := by
  obtain ⟨hcounts, hnodup, hcovered⟩ :=
    dispatch_audit_accounting callRom callDiscovery {} (by decide)
  obtain ⟨item, hitem, hdispatch⟩ := List.any_eq_true.mp
    (show ((auditItems callRom callDiscovery).any fun item => instrIsDispatch item.instr) = true by
      decide)
  obtain ⟨site, hsite, haddr, -, first, hfirst, -, hinstr, hcover⟩ :=
    hcovered (fun _ _ he => by cases he) (by decide) item hitem hdispatch
  exact ⟨hcounts, by decide, hnodup (mapBelow24_of_plain rfl (by decide)), item, hitem, hdispatch,
    site, hsite, haddr, first, hfirst, hinstr, hcover⟩

/-- The same call in the fixed region and in a window 2^24 bytes above it. -/
def aliasRom : NgProgramRom :=
  ngProgramRomSetAddressMap
    (ngProgramRomLoaded #[0x4E, 0x90, 0x4E, 0x75, 0x4E, 0x90, 0x4E, 0x75] 8 rfl)
    0 4 0x01000000 4

def aliasDiscovery : NgFunctionDiscovery where
  candidates := [{ addr := 0, isScanRoot := true }, { addr := 0x01000000, isScanRoot := true }]

/-- Two banks behind a fixed region of one byte: the word at 0 is a NOP with one and a call with
the other. -/
def straddleRom : NgProgramRom :=
  ngProgramRomSetAddressMap
    (ngProgramRomLoaded #[0x4E, 0x71, 0x4E, 0x75, 0x90, 0x4E, 0x75] 7 rfl) 0 1 1 3

def straddleDiscovery : NgFunctionDiscovery where
  candidates :=
    [{ addr := 0, bank := 0, banked := true, isScanRoot := true },
     { addr := 0, bank := 1, banked := true, isScanRoot := true }]

/-- Above the bus one key is recorded twice, and the call of the second bank is overlooked. -/
theorem dispatch_audit_overlooks :
    ((ngDispatchAuditBuildWithConfig aliasRom aliasDiscovery {}).truncated = false ∧
      ¬ ((ngDispatchAuditBuildWithConfig aliasRom aliasDiscovery {}).sites.map
        fun site => (site.siteAddr, site.siteBank)).Nodup) ∧
    (ngDispatchAuditBuildWithConfig straddleRom straddleDiscovery {}).truncated = false ∧
      ngDispatchAuditHasGaps (ngDispatchAuditBuildWithConfig straddleRom straddleDiscovery {}) =
        false ∧
      (ngDispatchAuditBuildWithConfig straddleRom straddleDiscovery {}).sites = [] ∧
      ((auditItems straddleRom straddleDiscovery).any fun item => instrIsDispatch item.instr) =
        true := by
  refine ⟨⟨by decide, by decide⟩, by decide, by decide, by decide, by decide⟩

end NeoRecomp
