import NeoRecomp.Discovery.Worklist

/-!
# The dispatch audit

`dispatch_audit.c` up to its text output: every scan root of a discovery is scanned again, and the
jumps and calls on the way are recorded with where they go.  The arrays of seen instructions are
allocated, and a missing configuration is an empty one.
-/

namespace NeoRecomp

/-! ## Addresses -/

/-- `NgAddressRegion`. -/
inductive NgAddressRegion
  | pRomFixed | workRam | pRomBank | bios | unknown
  deriving DecidableEq

/-- `ng_address_region`. -/
def ngAddressRegion (addr : BitVec 32) : NgAddressRegion :=
  let addr := addr &&& 0x00FFFFFF
  if addr ≤ 0x000FFFFF then .pRomFixed
  else if 0x00100000 ≤ addr ∧ addr ≤ 0x0010FFFF then .workRam
  else if 0x00200000 ≤ addr ∧ addr ≤ 0x002FFFFF then .pRomBank
  else if 0x00C00000 ≤ addr ∧ addr ≤ 0x00C1FFFF then .bios
  else .unknown

/-- `audit_bank_for_addr`. -/
def auditBankForAddr (rom : NgProgramRom) (addr : BitVec 32) : BitVec 32 :=
  if 1 < (ngProgramRomBankCount rom).toNat ∧ ngProgramRomAddrIsBanked rom addr then rom.activeBank
  else ngFunctionDiscoveryBankNone

/-! ## Instructions -/

/-- `instr_is_direct_target`. -/
def instrIsDirectTarget (instr : NgM68kInstr) : Bool :=
  if instr.mnemonic = .bsr then true
  else if instr.mnemonic ≠ .jsr ∧ instr.mnemonic ≠ .jmp then false
  else instr.src.mode = .absW || instr.src.mode = .absL || instr.src.mode = .pcDisp

/-- `instr_is_dispatch`. -/
def instrIsDispatch (instr : NgM68kInstr) : Bool :=
  instr.mnemonic = .jsr || instr.mnemonic = .bsr || instr.mnemonic = .jmp

/-- `instr_stops_scan`. -/
def instrStopsScan (instr : NgM68kInstr) : Bool :=
  match instr.mnemonic with
  | .bra | .jmp | .rte | .rtr | .rts => true
  | _ => false

/-- `audit_probable_static_table_target`: the walk of function discovery, on any fallthrough. -/
def auditProbableStaticTableTarget (rom : NgProgramRom) (addr : BitVec 32) : Bool :=
  isProbableHeuristicCodeTargetImpl rom addr true

/-! ## What the configuration allows at run time -/

/-- `runtime_dispatch_allowed`. -/
def runtimeDispatchAllowed (config : NgGameConfig) (addr : BitVec 32) : Bool :=
  config.runtimeDispatch.any fun allowed => allowed &&& 0x00FFFFFF = addr &&& 0x00FFFFFF

/-- `dispatcher_slot_allowed`. -/
def dispatcherSlotAllowed (config : NgGameConfig) (slot : BitVec 32) : Bool :=
  config.dispatchers.any fun dispatcher =>
    dispatcher.hasStateSlot && dispatcher.stateSlot = slot || slot ∈ dispatcher.installSlots

/-- `ea_is_a6_slot`. -/
def eaIsA6Slot (ea : NgM68kEa) : Option (BitVec 32) :=
  if ea.reg ≠ 6 then none
  else if ea.mode = .aind then some 0
  else if ea.mode = .adisp then some (ea.displacement.setWidth 32)
  else none

/-- `instr_writes_areg`. -/
def auditInstrWritesAreg (instr : NgM68kInstr) (areg : BitVec 8) : Bool :=
  instr.dst.mode = .areg && instr.dst.reg = areg

/-- `instr_loads_areg_from_allowed_a6_slot`. -/
def instrLoadsAregFromAllowedA6Slot (config : NgGameConfig) (instr : NgM68kInstr)
    (areg : BitVec 8) : Bool :=
  instr.mnemonic = .movea && auditInstrWritesAreg instr areg &&
    (eaIsA6Slot instr.src).any (dispatcherSlotAllowed config)

/-- `instr_stores_areg_to_allowed_a6_slot`. -/
def instrStoresAregToAllowedA6Slot (config : NgGameConfig) (instr : NgM68kInstr)
    (areg : BitVec 8) : Bool :=
  instr.mnemonic = .move && instr.size = 4 && instr.src.mode = .areg && instr.src.reg = areg &&
    (eaIsA6Slot instr.dst).any (dispatcherSlotAllowed config)

/-- `instr_is_areg_self_deref`. -/
def instrIsAregSelfDeref (instr : NgM68kInstr) (areg : BitVec 8) : Bool :=
  instr.mnemonic = .movea && instr.src.mode = .aind && instr.src.reg = areg &&
    auditInstrWritesAreg instr areg

/-- `recent_has_dispatcher_slot_context`. -/
def recentHasDispatcherSlotContext (config : NgGameConfig) (recent : List NgM68kInstr)
    (areg : BitVec 8) : Bool :=
  recent.any fun instr => instrLoadsAregFromAllowedA6Slot config instr areg ||
    instrStoresAregToAllowedA6Slot config instr areg

/-- The loop of `dispatcher_runtime_dispatch_allowed`, the latest instruction first. -/
def dispatcherWalk (config : NgGameConfig) (areg : BitVec 8) : List NgM68kInstr → Bool
  | [] => false
  | prev :: older =>
    if !auditInstrWritesAreg prev areg then dispatcherWalk config areg older
    else if instrLoadsAregFromAllowedA6Slot config prev areg then true
    else instrIsAregSelfDeref prev areg && recentHasDispatcherSlotContext config older areg

/-- `dispatcher_runtime_dispatch_allowed`. -/
def dispatcherRuntimeDispatchAllowed (config : NgGameConfig) (instr : NgM68kInstr)
    (recent : List NgM68kInstr) : Bool :=
  config.dispatchers ≠ [] && instr.src.mode = .aind &&
    dispatcherWalk config instr.src.reg recent.reverse

/-- `instr_loads_areg_from_work_ram`. -/
def instrLoadsAregFromWorkRam (instr : NgM68kInstr) (areg : BitVec 8) : Bool :=
  instr.mnemonic = .movea && auditInstrWritesAreg instr areg &&
    (instr.src.mode = .absW || instr.src.mode = .absL) &&
    ngAddressRegion instr.src.absoluteAddr = .workRam

/-- `work_ram_runtime_dispatch_allowed`. -/
def workRamRuntimeDispatchAllowed (instr : NgM68kInstr) (recent : List NgM68kInstr) : Bool :=
  let areg := instr.src.reg
  instr.src.mode = .aind &&
    (recent.reverse.find? (auditInstrWritesAreg · areg)).any (instrLoadsAregFromWorkRam · areg)

/-- `table_call_helper_allowed`. -/
def tableCallHelperAllowed (config : NgGameConfig) (helper : BitVec 32) : Bool :=
  config.tableCalls.any fun call => call.helper &&& 0x00FFFFFF = helper &&& 0x00FFFFFF

/-- The loop of `table_call_runtime_dispatch_allowed`, the latest instruction first. -/
def tableCallWalk (config : NgGameConfig) (areg : BitVec 8) : List NgM68kInstr → Bool
  | [] => false
  | prev :: older =>
    if auditInstrWritesAreg prev areg then false
    else if prev.mnemonic = .jsr ∨ prev.mnemonic = .bsr then
      instrIsDirectTarget prev && tableCallHelperAllowed config (prev.target &&& 0x00FFFFFF)
    else tableCallWalk config areg older

/-- `table_call_runtime_dispatch_allowed`. -/
def tableCallRuntimeDispatchAllowed (config : NgGameConfig) (instr : NgM68kInstr)
    (recent : List NgM68kInstr) : Bool :=
  instr.src.mode = .aind && tableCallWalk config instr.src.reg recent.reverse

/-- `config_has_script_callback_sources`. -/
def configHasScriptCallbackSources (config : NgGameConfig) : Bool :=
  (config.jumpTables.any fun table => table.format = .scriptPredicate ||
    table.format = .inlineCallback || table.format = .taggedAbs32) ||
  config.recordFormats.any fun record => record.callbackOffsets ≠ []

/-- The loop of `script_stream_runtime_dispatch_allowed`, the latest instruction first. -/
def scriptStreamWalk (areg : BitVec 8) : List NgM68kInstr → Bool
  | [] => false
  | prev :: older =>
    if prev.mnemonic = .jsr ∨ prev.mnemonic = .bsr then false
    else if !auditInstrWritesAreg prev areg then scriptStreamWalk areg older
    else
      prev.mnemonic = .movea && prev.size = 4 && prev.src.mode = .adisp && prev.src.reg = 0 &&
        0 ≤ prev.src.displacement.toInt && prev.src.displacement.toInt ≤ 0x20

/-- `script_stream_runtime_dispatch_allowed`. -/
def scriptStreamRuntimeDispatchAllowed (config : NgGameConfig) (instr : NgM68kInstr)
    (recent : List NgM68kInstr) : Bool :=
  configHasScriptCallbackSources config && instr.mnemonic = .jsr && instr.src.mode = .aind &&
    instr.src.reg < 8 && scriptStreamWalk instr.src.reg recent.reverse

/-! ## Records -/

/-- `NgDispatchAuditKind`. -/
inductive NgDispatchAuditKind
  | direct | computed | jumpTable
  deriving DecidableEq

/-- `NgDispatchAuditSite`. -/
structure NgDispatchAuditSite where
  kind : NgDispatchAuditKind
  siteAddr : BitVec 32
  siteBank : BitVec 32
  targetAddr : BitVec 32 := 0
  targetBank : BitVec 32 := 0
  tableAddr : BitVec 32 := 0
  tableBank : BitVec 32 := 0
  mnemonic : NgM68kMnemonic
  siteBanked : Bool
  targetBanked : Bool := false
  tableBanked : Bool := false
  targetKnown : Bool := false
  targetInDiscovery : Bool := false
  targetExternal : Bool := false
  runtimeAllowed : Bool := false
  resolvedEntries : BitVec 8 := 0
  missingEntries : BitVec 8 := 0
  deriving DecidableEq

/-- `NG_DISPATCH_AUDIT_MAX_SITES`, which is also `NG_DISPATCH_AUDIT_MAX_SEEN`. -/
def ngDispatchAuditMaxSites : Nat := ngFunctionDiscoveryMaxCandidates

/-- `NgDispatchAudit`; the sites below `count` are a list. -/
structure NgDispatchAudit where
  sites : List NgDispatchAuditSite := []
  directCount : BitVec 32 := 0
  missingDirectCount : BitVec 32 := 0
  externalDirectCount : BitVec 32 := 0
  computedCount : BitVec 32 := 0
  runtimeComputedCount : BitVec 32 := 0
  jumpTableCount : BitVec 32 := 0
  jumpTableResolvedEntries : BitVec 32 := 0
  jumpTableMissingEntries : BitVec 32 := 0
  truncated : Bool := false

/-- The site that `audit_append` starts. -/
def auditAppend (rom : NgProgramRom) (kind : NgDispatchAuditKind) (instr : NgM68kInstr) :
    NgDispatchAuditSite where
  kind := kind
  siteAddr := instr.addr &&& 0x00FFFFFF
  siteBank := auditBankForAddr rom instr.addr
  siteBanked := auditBankForAddr rom instr.addr ≠ ngFunctionDiscoveryBankNone
  mnemonic := instr.mnemonic

/-- No site is left: `audit_append` returns null. -/
def NgDispatchAudit.full (audit : NgDispatchAudit) : Bool :=
  ngDispatchAuditMaxSites ≤ audit.sites.length

/-- The array with the site that the caller has filled in. -/
def NgDispatchAudit.push (audit : NgDispatchAudit) (site : NgDispatchAuditSite) : NgDispatchAudit :=
  { audit with sites := audit.sites ++ [site] }

/-- What `audit_record_direct` fills in. -/
def directSite (rom : NgProgramRom) (discovery : NgFunctionDiscovery) (instr : NgM68kInstr) :
    NgDispatchAuditSite :=
  let region := ngAddressRegion instr.target
  let external : Bool := region ≠ .pRomFixed && region ≠ .pRomBank
  { auditAppend rom .direct instr with
    targetKnown := true
    targetAddr := instr.target &&& 0x00FFFFFF
    targetBank := auditBankForAddr rom instr.target
    targetBanked := auditBankForAddr rom instr.target ≠ ngFunctionDiscoveryBankNone
    targetExternal := external
    -- An external target is not looked up.
    targetInDiscovery := !external && ngProgramRomAddrIsMapped rom instr.target &&
      ngFunctionDiscoveryContainsForRom discovery rom instr.target }

/-- `audit_record_direct`. -/
def auditRecordDirect (rom : NgProgramRom) (discovery : NgFunctionDiscovery)
    (audit : NgDispatchAudit) (instr : NgM68kInstr) : NgDispatchAudit :=
  if audit.full then { audit with truncated := true, directCount := audit.directCount + 1 }
  else
    let site := directSite rom discovery instr
    let audit := { audit.push site with directCount := audit.directCount + 1 }
    if site.targetExternal then
      { audit with externalDirectCount := audit.externalDirectCount + 1 }
    else if !site.targetInDiscovery then
      { audit with missingDirectCount := audit.missingDirectCount + 1 }
    else audit

/-- What `audit_record_computed` fills in. -/
def computedSite (rom : NgProgramRom) (config : NgGameConfig) (instr : NgM68kInstr)
    (recent : List NgM68kInstr) : NgDispatchAuditSite :=
  { auditAppend rom .computed instr with
    runtimeAllowed :=
      runtimeDispatchAllowed config instr.addr ||
        dispatcherRuntimeDispatchAllowed config instr recent ||
        workRamRuntimeDispatchAllowed instr recent ||
        tableCallRuntimeDispatchAllowed config instr recent ||
        scriptStreamRuntimeDispatchAllowed config instr recent }

/-- `audit_record_computed`. -/
def auditRecordComputed (rom : NgProgramRom) (config : NgGameConfig) (audit : NgDispatchAudit)
    (instr : NgM68kInstr) (recent : List NgM68kInstr) : NgDispatchAudit :=
  if audit.full then { audit with truncated := true, computedCount := audit.computedCount + 1 }
  else
    let site := computedSite rom config instr recent
    let audit := audit.push site
    if site.runtimeAllowed then
      { audit with runtimeComputedCount := audit.runtimeComputedCount + 1 }
    else { audit with computedCount := audit.computedCount + 1 }

/-! ## Jump tables -/

/-- The entries that the loops of `audit_record_jump_table` look up: in a table of code the entries
themselves, in a table of addresses the targets. -/
def auditTableEntries (rom : NgProgramRom) (pattern : NgM68kJumpTablePattern) : List (BitVec 32) :=
  match pattern.entryKind with
  | .abs32 =>
    abs32TableTargets rom pattern (fun _ => auditProbableStaticTableTarget rom)
      (tableEntryLimit pattern) 0
  | _ =>
    (codeTableEntries rom pattern 32 pattern.tableAddr (pattern.entrySize.setWidth 32)).map (·.1)

/-- One entry is counted in the site and in the totals. -/
def auditCountEntry (rom : NgProgramRom) (discovery : NgFunctionDiscovery)
    (counted : NgDispatchAuditSite × NgDispatchAudit) (entry : BitVec 32) :
    NgDispatchAuditSite × NgDispatchAudit :=
  if ngFunctionDiscoveryContainsForRom discovery rom entry then
    ({ counted.1 with resolvedEntries := counted.1.resolvedEntries + 1 },
     { counted.2 with jumpTableResolvedEntries := counted.2.jumpTableResolvedEntries + 1 })
  else
    ({ counted.1 with missingEntries := counted.1.missingEntries + 1 },
     { counted.2 with jumpTableMissingEntries := counted.2.jumpTableMissingEntries + 1 })

/-- The site before its entries are counted. -/
def tableSite (rom : NgProgramRom) (instr : NgM68kInstr) (pattern : NgM68kJumpTablePattern) :
    NgDispatchAuditSite :=
  { auditAppend rom .jumpTable instr with
    tableAddr := pattern.tableAddr &&& 0x00FFFFFF
    tableBank := auditBankForAddr rom pattern.tableAddr
    tableBanked := auditBankForAddr rom pattern.tableAddr ≠ ngFunctionDiscoveryBankNone }

/-- `audit_record_jump_table`. -/
def auditRecordJumpTable (rom : NgProgramRom) (discovery : NgFunctionDiscovery)
    (audit : NgDispatchAudit) (instr : NgM68kInstr) (pattern : NgM68kJumpTablePattern) :
    NgDispatchAudit :=
  if audit.full then { audit with truncated := true, jumpTableCount := audit.jumpTableCount + 1 }
  else
    let counted := (auditTableEntries rom pattern).foldl (auditCountEntry rom discovery)
      (tableSite rom instr pattern, { audit with jumpTableCount := audit.jumpTableCount + 1 })
    counted.2.push counted.1

/-- `audit_jump_table_has_entries`. -/
def auditJumpTableHasEntries (rom : NgProgramRom) (pattern : NgM68kJumpTablePattern) : Bool :=
  match pattern.entryKind with
  | .address => (decodeValidated rom pattern.tableAddr).any (·.mnemonic = .bra)
  | .inlineCode =>
    pattern.entrySize ≠ 0 && ngProgramRomAddrIsMapped rom pattern.tableAddr &&
      ngProgramRomAddrIsMapped rom (pattern.tableAddr + 3) &&
      ngProgramRomRead32 rom pattern.tableAddr = pattern.entrySignature
  | .directDispatch =>
    pattern.entrySize ≠ 0 && (decodeValidated rom pattern.tableAddr).any fun entry =>
      entry.mnemonic = .jmp && entry.byteLength = pattern.entrySize && instrIsDirectTarget entry
  | .abs32 =>
    pattern.entrySize ≠ 0 && ngProgramRomAddrIsMapped rom pattern.tableAddr &&
      ngProgramRomAddrIsMapped rom (pattern.tableAddr + pattern.entrySize.setWidth 32 - 1)

/-! ## The scan -/

/-- The local variables of `audit_scan_from`. -/
structure AuditLocals where
  previous : Option NgM68kInstr := none
  recent : List NgM68kInstr := []
  areg : NgM68kStaticAregState := ngM68kStaticAregReset
  previousAreg : NgM68kStaticAregState := ngM68kStaticAregReset
  indexBound : NgM68kIndexRegBoundState := ngM68kIndexRegBoundReset

/-- The table that the matchers of `audit_scan_from` find first. -/
def auditMatchedTable (rom : NgProgramRom) (locals : AuditLocals) (instr : NgM68kInstr) :
    Option NgM68kJumpTablePattern :=
  ((locals.previous.bind fun previous =>
      ngM68kMatchPcIndexJumpTable previous instr <|>
        ngM68kMatchStaticIndexJumpTable previous instr locals.previousAreg <|>
        ngM68kMatchStaticIndexBranchTable instr locals.areg <|>
        ngM68kMatchPcIndexInlineCodeTable rom previous instr) <|>
    ngM68kMatchPcIndexBranchTable rom instr <|>
    ngM68kMatchRepeatedDirectDispatchTable rom instr).map
      (ngM68kJumpTableApplyIndexBound · locals.indexBound)

/-- What an instruction that is seen for the first time adds. -/
def auditRecord (rom : NgProgramRom) (discovery : NgFunctionDiscovery) (config : NgGameConfig)
    (audit : NgDispatchAudit) (locals : AuditLocals) (instr : NgM68kInstr) : NgDispatchAudit :=
  match (auditMatchedTable rom locals instr).filter (auditJumpTableHasEntries rom) with
  | some pattern => auditRecordJumpTable rom discovery audit instr pattern
  | none =>
    if instrIsDirectTarget instr then auditRecordDirect rom discovery audit instr
    else if instrIsDispatch instr then
      auditRecordComputed rom config audit instr locals.recent
    else audit

/-- The locals at the end of a turn; the last eight instructions are kept. -/
def AuditLocals.update (locals : AuditLocals) (instr : NgM68kInstr) : AuditLocals where
  previous := some instr
  recent :=
    if locals.recent.length < 8 then locals.recent ++ [instr] else locals.recent.tail ++ [instr]
  areg := ngM68kStaticAregUpdate locals.areg instr
  previousAreg := locals.areg
  indexBound := ngM68kIndexRegBoundUpdate locals.indexBound instr

/-- The audit with the `seen` arrays. -/
structure AuditState where
  audit : NgDispatchAudit := {}
  seen : List (BitVec 32 × BitVec 32) := []

/-- The part of a turn that is skipped for an instruction that has been seen. -/
def auditTurn (rom : NgProgramRom) (discovery : NgFunctionDiscovery) (config : NgGameConfig)
    (locals : AuditLocals) (pc : BitVec 32) (instr : NgM68kInstr) (state : AuditState) :
    AuditState :=
  let key := (pc, auditBankForAddr rom pc)
  if key ∈ state.seen then state
  else if state.seen.length < ngDispatchAuditMaxSites then
    { audit := auditRecord rom discovery config state.audit locals instr
      seen := state.seen ++ [key] }
  else
    { state with
      audit := auditRecord rom discovery config { state.audit with truncated := true } locals
        instr }

/-- The loop of `audit_scan_from` with its turns left. -/
def auditScanTurns (rom : NgProgramRom) (discovery : NgFunctionDiscovery) (config : NgGameConfig) :
    Nat → BitVec 32 → AuditLocals → AuditState → AuditState
  | 0, _, _, state => state
  | turns + 1, pc, locals, state =>
    match decodeCode rom pc with
    | none => state
    | some instr =>
      let state := auditTurn rom discovery config locals pc instr state
      if instrStopsScan instr then state
      else
        auditScanTurns rom discovery config turns (pc + instr.byteLength.setWidth 32)
          (locals.update instr) state

/-- `audit_scan_from`. -/
def auditScanFrom (rom : NgProgramRom) (discovery : NgFunctionDiscovery) (config : NgGameConfig)
    (startAddr : BitVec 32) (state : AuditState) : AuditState :=
  auditScanTurns rom discovery config ngFunctionDiscoveryMaxInstructions startAddr {} state

/-- `ng_dispatch_audit_build_with_config`. -/
def ngDispatchAuditBuildWithConfig (rom : NgProgramRom) (discovery : NgFunctionDiscovery)
    (config : NgGameConfig) : NgDispatchAudit :=
  ((scannedRows discovery).foldl (fun state row =>
    auditScanFrom (discoveryEntryRomView rom discovery row.1) discovery config row.2.addr state)
    {}).audit

/-- `ng_dispatch_audit_has_gaps`. -/
def ngDispatchAuditHasGaps (audit : NgDispatchAudit) : Bool :=
  audit.missingDirectCount ≠ 0 || audit.computedCount ≠ 0 || audit.jumpTableMissingEntries ≠ 0 ||
    audit.truncated

end NeoRecomp
