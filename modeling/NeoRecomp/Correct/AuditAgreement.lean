import NeoRecomp.Correct.AuditTables
import NeoRecomp.Correct.Sought

/-!
# Discovery and the audit

After a search that is not truncated the record has what the scans of its roots asked for.  The
audit walks the same paths, and finds something missing there only where discovery has refused an
entry of a table, or on the path of a label that a script stream made a root when the search was
over.
-/

namespace NeoRecomp

/-! ## The path of a root -/

section Paths
variable {rom : NgProgramRom} {config : NgGameConfig} {d : NgFunctionDiscovery} {item : AuditItem}

theorem contains_of_has {r : AddRequest} {view : NgProgramRom} {addr : BitVec 32} (h : d.Has r)
    (hkey : r.key = (addr, discoveryBankForAddr view addr)) :
    ngFunctionDiscoveryContainsForRom d view addr = true := by
  obtain ⟨c, hc, hc', -⟩ := h
  refine List.any_eq_true.mpr ⟨c, hc, ?_⟩
  rw [Bool.and_eq_true, beq_iff_eq, beq_iff_eq]
  exact Prod.mk.inj (hc'.trans hkey)

variable (rom config d) in
/-- The item is on the path of a row that has been scanned. -/
def ScannedItem (item : AuditItem) : Prop :=
  ∃ c, ScannedRow rom config d c ∧
    item ∈ linearPath (bankView rom c.entryBank) ngFunctionDiscoveryMaxInstructions c.addr {}

/-- What discovery asks for at the item is in the record. -/
theorem ScannedItem.adds (h : ScannedItem rom config d item) :
    ∃ start s, item.locals.Tracks s ∧
      ∀ addr, .add item.rom addr ∈ scanCalls item.rom start item.pc config s item.instr →
        isProbableFunctionTarget item.rom addr = true →
          ngFunctionDiscoveryContainsForRom d item.rom addr = true := by
  obtain ⟨c, hscanned, hitem⟩ := h
  obtain ⟨hrom, s, htracks, hcalls⟩ := linearPath_scanned config c.addr tracks_start hitem
  refine ⟨c.addr, s, htracks, fun addr hadd hprobable => ?_⟩
  rw [hrom] at hadd hprobable
  have hhas := hscanned _ (hcalls _ hadd) _ ⟨rfl, hprobable⟩
  rw [hrom]
  exact contains_of_has hhas rfl

/-- A direct target that looks like a function has been discovered. -/
theorem ScannedItem.target (h : ScannedItem rom config d item)
    (hdirect : instrIsDirectTarget item.instr = true)
    (hprobable : isProbableFunctionTarget item.rom item.instr.target = true) :
    ngFunctionDiscoveryContainsForRom d item.rom item.instr.target = true := by
  obtain ⟨start, s, -, hadds⟩ := h.adds
  refine hadds _ (List.mem_append_right _ ?_) hprobable
  have hfunction : isDirectFunctionTarget item.instr = true := hdirect
  unfold ownCalls
  rw [if_pos hfunction]
  exact List.mem_append_left _ (List.mem_append_left _ (List.mem_singleton_self _))

/-- So has every entry of a table that discovery does not refuse. -/
theorem ScannedItem.entry (h : ScannedItem rom config d item) {pattern : NgM68kJumpTablePattern}
    (hpattern : auditMatchedTable item.rom item.locals item.instr = some pattern)
    {entry : BitVec 32} (hentry : entry ∈ auditTableEntries item.rom pattern) :
    ngFunctionDiscoveryContainsForRom d item.rom entry = true ∨
      RefusedEntry item.rom pattern entry := by
  obtain ⟨start, s, htracks, hadds⟩ := h.adds
  refine (mem_calls_or_refused hentry).imp_left fun hadd => ?_
  have hcontext := htracks.table_calls config start hpattern _ hadd.1
  exact hadds _ (List.mem_append_left _ (List.mem_append_right _ hcontext)) hadd.2

end Paths

/-! ## What the audit records -/

section Records
variable (d : NgFunctionDiscovery) (config : NgGameConfig)

/-- The items that are new and find room for a site. -/
def recordedItems : AuditState → List AuditItem → List AuditItem
  | _, [] => []
  | state, item :: rest =>
    let later := recordedItems (auditStep d config state item) rest
    if item.key ∈ state.seen ∨ state.audit.full then later else item :: later

variable {d config} {state : AuditState} {item : AuditItem}

theorem recordedItems_of_kept (h : item.key ∈ state.seen ∨ state.audit.full = true)
    (rest : List AuditItem) : recordedItems d config state (item :: rest) =
      recordedItems d config (auditStep d config state item) rest :=
  if_pos h

theorem recordedItems_of_new (h : ¬ (item.key ∈ state.seen ∨ state.audit.full = true))
    (rest : List AuditItem) : recordedItems d config state (item :: rest) =
      item :: recordedItems d config (auditStep d config state item) rest :=
  if_neg h

theorem mem_of_mem_recordedItems {items : List AuditItem}
    (h : item ∈ recordedItems d config state items) : item ∈ items := by
  induction items generalizing state with
  | nil => exact absurd h List.not_mem_nil
  | cons first rest ih =>
    by_cases hkept : first.key ∈ state.seen ∨ state.audit.full = true
    · rw [recordedItems_of_kept hkept] at h
      exact List.mem_cons_of_mem _ (ih h)
    · rw [recordedItems_of_new hkept] at h
      rcases List.mem_cons.mp h with rfl | h
      · exact List.mem_cons_self
      · exact List.mem_cons_of_mem _ (ih h)

end Records

/-! ## Agreement -/

/-- The table recorded for an item. -/
def AuditItem.table (item : AuditItem) : Option NgM68kJumpTablePattern :=
  (auditMatchedTable item.rom item.locals item.instr).filter (auditJumpTableHasEntries item.rom)

section Condition
variable (calloc : Nat → Nat → Bool) (rom : NgProgramRom) (seeds : List (BitVec 32))
  (config : NgGameConfig)

/-- The linear path of a request. -/
def requestPath (r : AddRequest) : List AuditItem :=
  linearPath (bankView rom r.bank) ngFunctionDiscoveryMaxInstructions r.addr {}

/-- The seeds lead to an address of a view. -/
def SoughtAt (view : NgProgramRom) (addr : BitVec 32) : Prop :=
  ∃ r, Sought rom config calloc seeds r ∧ r.key = (addr, discoveryBankForAddr view addr)

/-- A condition on the image, the seeds and the configuration: what discovery refuses on the path of
a root is sought for another reason, and so is everything on the path of a label that a script stream
names. -/
structure AuditSafe : Prop where
  refused : ∀ root, Reached rom config calloc seeds root → root.isScanRoot = true →
    ∀ item ∈ requestPath rom root, ∀ pattern, item.table = some pattern →
      ∀ entry ∈ auditTableEntries item.rom pattern, RefusedEntry item.rom pattern entry →
        SoughtAt calloc rom seeds config item.rom entry
  labelEntries : ∀ label, ScriptedLabel rom config calloc seeds label.key →
    ∀ item ∈ requestPath rom label, ∀ pattern, item.table = some pattern →
      ∀ entry ∈ auditTableEntries item.rom pattern,
        SoughtAt calloc rom seeds config item.rom entry
  labelTargets : ∀ label, ScriptedLabel rom config calloc seeds label.key →
    ∀ item ∈ requestPath rom label, item.table = none → instrIsDirectTarget item.instr = true →
      isProbableFunctionTarget item.rom item.instr.target = true →
        SoughtAt calloc rom seeds config item.rom item.instr.target

end Condition

section Agreement
variable (rom : NgProgramRom) (config : NgGameConfig) (d : NgFunctionDiscovery)

/-- The items that leave a site in the audit of a discovery. -/
def auditRecorded : List AuditItem := recordedItems d config {} (auditItems rom d)

variable {rom config d} {item : AuditItem}

section Search
variable {calloc : Nat → Nat → Bool} {seeds : List (BitVec 32)}

theorem Searched.contains (h : Searched rom config calloc seeds d) {view : NgProgramRom}
    {addr : BitVec 32} (hsought : SoughtAt calloc rom seeds config view addr) :
    ngFunctionDiscoveryContainsForRom d view addr = true := by
  obtain ⟨r, hr, hkey⟩ := hsought
  exact contains_of_has (h.sought r hr) hkey

/-- A recorded item is on the path of a root, and of one that was scanned unless that is a label
named by a script stream. -/
theorem Searched.path (h : Searched rom config calloc seeds d)
    (hroots : d.candidates.any (·.isScanRoot) = true) (hitem : item ∈ auditRecorded rom config d) :
    ∃ root, Reached rom config calloc seeds root ∧ root.isScanRoot = true ∧
      item ∈ requestPath rom root ∧
        (ScannedItem rom config d item ∨ ScriptedLabel rom config calloc seeds root.key) := by
  obtain ⟨row, hrow, hpath⟩ := List.mem_flatMap.mp (mem_of_mem_recordedItems hitem)
  have hc := mem_scannedRows hrow
  have hmem := List.mem_of_getElem? hc
  have hroot := root_of_scannedRows hroots hrow
  rw [discoveryEntryRomView_of_row hc] at hpath
  obtain ⟨root, hreached, hkey, hflag⟩ := h.reached _ hmem hroot
  obtain ⟨haddr, hbank⟩ := Prod.mk.inj hkey
  refine ⟨root, hreached, hflag, ?_, ?_⟩
  · rw [requestPath, haddr, hbank]
    exact hpath
  · rw [hkey]
    exact (h.scanned _ hmem hroot).imp_left fun hscanned => ⟨row.2, hscanned, hpath⟩

theorem AuditSafe.entry (h : AuditSafe calloc rom seeds config)
    (hsearched : Searched rom config calloc seeds d)
    (hroots : d.candidates.any (·.isScanRoot) = true) (hitem : item ∈ auditRecorded rom config d)
    {pattern : NgM68kJumpTablePattern} (hpattern : item.table = some pattern) {entry : BitVec 32}
    (hentry : entry ∈ auditTableEntries item.rom pattern) :
    ngFunctionDiscoveryContainsForRom d item.rom entry = true := by
  obtain ⟨root, hreached, hflag, hpath, hscanned | hlabel⟩ := hsearched.path hroots hitem
  · have hmatched := (Option.filter_eq_some_iff.mp hpattern).1
    rcases hscanned.entry hmatched hentry with hin | hrefused
    · exact hin
    · exact hsearched.contains
        (h.refused root hreached hflag item hpath pattern hpattern entry hentry hrefused)
  · exact hsearched.contains
      (h.labelEntries root hlabel item hpath pattern hpattern entry hentry)

theorem AuditSafe.target (h : AuditSafe calloc rom seeds config)
    (hsearched : Searched rom config calloc seeds d)
    (hroots : d.candidates.any (·.isScanRoot) = true) (hitem : item ∈ auditRecorded rom config d)
    (htable : item.table = none) (hdirect : instrIsDirectTarget item.instr = true)
    (hprobable : isProbableFunctionTarget item.rom item.instr.target = true) :
    ngFunctionDiscoveryContainsForRom d item.rom item.instr.target = true := by
  obtain ⟨root, -, -, hpath, hscanned | hlabel⟩ := hsearched.path hroots hitem
  · exact hscanned.target hdirect hprobable
  · exact hsearched.contains
      (h.labelTargets root hlabel item hpath htable hdirect hprobable)

end Search

end Agreement

end NeoRecomp
