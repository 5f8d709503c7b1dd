import NeoRecomp.Discovery.Records
import NeoRecomp.Discovery.Scripts

/-!
# Scanning one candidate

`scan_function_candidate` follows straight-line code from a scan root.  It makes every instruction
on the way a label and adds the targets the instruction, its neighbour and the tracked registers
give away.
-/

namespace NeoRecomp

/-! ## Targets an instruction names -/

-- `is_branch_target_candidate`; DBT never decrements or branches
def isBranchTargetCandidate (instr : NgM68kInstr) : Bool :=
  match instr.mnemonic with
  | .bra | .bcc => true
  | .dbcc => instr.condition ≠ 0
  | _ => false

-- `is_indirect_areg_dispatch`
def isIndirectAregDispatch (instr : NgM68kInstr) : Bool :=
  (instr.mnemonic = .jsr || instr.mnemonic = .jmp) && instr.src.mode = .aind && instr.src.reg < 8

-- `abs_pointer_load_addr`
def absPointerLoadAddr (load : NgM68kInstr) (reg : BitVec 8) : Option (BitVec 32) :=
  if load.mnemonic = .movea ∧ load.size = 4 ∧ load.dst.mode = .areg ∧ load.dst.reg = reg ∧
      (load.src.mode = .absW ∨ load.src.mode = .absL ∨ load.src.mode = .pcDisp) then
    some (load.src.absoluteAddr &&& 0x00FFFFFF)
  else none

-- `add_abs_pointer_target_from_view`
def addAbsPointerTargetFromView (rom : NgProgramRom) (ptrAddr : BitVec 32) : List DiscoveryCall :=
  let target := ngProgramRomRead32 rom ptrAddr
  if ngProgramRomAddrIsMapped rom ptrAddr && ngProgramRomAddrIsMapped rom (ptrAddr + 3) &&
      isProbableFunctionTarget rom target then [.add rom target]
  else []

-- `add_abs_pointer_indirect_targets`
def addAbsPointerIndirectTargets (rom : NgProgramRom) (start : BitVec 32)
    (load dispatch : NgM68kInstr) : List DiscoveryCall :=
  if !isIndirectAregDispatch dispatch then []
  else
    match absPointerLoadAddr load dispatch.src.reg with
    | none => []
    | some ptrAddr =>
        viewsOfPointer rom start ptrAddr fun view => addAbsPointerTargetFromView view ptrAddr

-- `add_static_areg_indirect_target`
def addStaticAregIndirectTarget (rom : NgProgramRom) (start : BitVec 32) (dispatch : NgM68kInstr)
    (areg : NgM68kStaticAregState) : List DiscoveryCall :=
  if isIndirectAregDispatch dispatch ∧ areg.valid (regIndex dispatch.src.reg) then
    let target := areg.target (regIndex dispatch.src.reg) &&& 0x00FFFFFF
    viewsOfPointer rom start target fun view => [.add view target]
  else []

/-! ## Table helpers -/

-- `table_call_target_allowed`
def tableCallTargetAllowed (rom : NgProgramRom) (call : NgGameConfigTableCall)
    (target : BitVec 32) : Bool :=
  !outsideRange call.targetStart call.targetEnd target && isProbableHeuristicCodeTarget rom target

-- `add_sparse_abs32_table_targets`
def addSparseAbs32TableTargets (rom : NgProgramRom) (tableAddr : BitVec 32)
    (call : NgGameConfigTableCall) : List DiscoveryCall :=
  if call.maxEntries = 0 ∨ !ngProgramRomAddrIsMapped rom tableAddr then []
  else
    entryLoop 4
      (fun entryAddr =>
        let target := ngProgramRomRead32 rom entryAddr
        if !ngProgramRomAddrIsMapped rom entryAddr ∨ !ngProgramRomAddrIsMapped rom (entryAddr + 3) then
          none
        else if target = call.sentinel then some []
        else if !tableCallTargetAllowed rom call target then none
        else some [.add rom target])
      call.maxEntries.toNat tableAddr

-- `add_record_abs32_target`
def addRecordAbs32Target (rom : NgProgramRom) (recordAddr : BitVec 32)
    (call : NgGameConfigTableCall) : List DiscoveryCall :=
  let targetAddr := recordAddr + call.targetOffset
  let target := ngProgramRomRead32 rom targetAddr
  if ngProgramRomAddrIsMapped rom targetAddr && ngProgramRomAddrIsMapped rom (targetAddr + 3) &&
      tableCallTargetAllowed rom call target then [.add rom target]
  else []

/-- `add_tagged_abs32_stream_targets`; a tagged record is added as `add_record_abs32_target` adds
one. -/
def addTaggedAbs32StreamTargets (rom : NgProgramRom) (streamAddr : BitVec 32)
    (call : NgGameConfigTableCall) : List DiscoveryCall :=
  if call.maxEntries = 0 ∨ call.stride = 0 ∨ !ngProgramRomAddrIsMapped rom streamAddr then []
  else
    entryLoop call.stride
      (fun addr =>
        if !ngProgramRomAddrIsMapped rom addr ∨ !ngProgramRomAddrIsMapped rom (addr + 1) then none
        else if ngProgramRomRead16 rom addr ≠ call.tag.setWidth 16 then some []
        else some (addRecordAbs32Target rom addr call))
      call.maxEntries.toNat streamAddr

-- `add_config_table_call_targets`
def addConfigTableCallTargets (rom : NgProgramRom) (config : NgGameConfig) (instr : NgM68kInstr)
    (areg : NgM68kStaticAregState) : List DiscoveryCall :=
  if instr.mnemonic ≠ .jsr ∨ !isDirectFunctionTarget instr then []
  else
    config.tableCalls.flatMap fun call =>
      let tableAddr := areg.target (regIndex call.tableReg) &&& 0x00FFFFFF
      if call.helper &&& 0x00FFFFFF ≠ instr.target &&& 0x00FFFFFF ∨ call.tableReg > 7 ∨
          areg.valid (regIndex call.tableReg) = false ∨
          outsideRange call.tableStart call.tableEnd tableAddr then []
      else
        match call.format with
        | .abs32Sparse => addSparseAbs32TableTargets rom tableAddr call
        | .taggedAbs32 => addTaggedAbs32StreamTargets rom tableAddr call
        | .recordAbs32 => addRecordAbs32Target rom tableAddr call

/-! ## Data registers with a known value -/

/-- `dreg_valid` and `dreg_target`. -/
abbrev StaticDregState := Fin 8 → Option (BitVec 32)

-- The mnemonics whose data-register destination `static_dreg_update` forgets.
def forgetsDregDst : NgM68kMnemonic → Bool
  | .moveq | .add | .addq | .addx | .sub | .subq | .subx | .or | .and | .eor | .mulu | .muls
  | .divu | .divs | .clr | .neg | .negx | .nbcd | .not | .ext | .swap | .asl | .asr | .lsl | .lsr
  | .roxl | .roxr | .rol | .ror | .addi | .subi | .ori | .andi | .eori => true
  | _ => false

-- `static_dreg_update`
def staticDregUpdate (dreg : StaticDregState) (instr : NgM68kInstr) : StaticDregState :=
  let r := regIndex instr.dst.reg
  if instr.mnemonic = .jsr ∨ instr.mnemonic = .bsr then fun _ => none
  else if instr.mnemonic = .move ∧ instr.dst.mode = .dreg ∧ instr.dst.reg < 8 then
    if instr.size = 4 ∧ instr.src.mode = .imm then
      Function.update dreg r (some (instr.src.immediate &&& 0x00FFFFFF))
    else Function.update dreg r none
  else if forgetsDregDst instr.mnemonic ∧ instr.dst.mode = .dreg ∧ instr.dst.reg < 8 then
    Function.update dreg r none
  else dreg

-- `static_dreg_to_areg_update`
def staticDregToAregUpdate (areg : NgM68kStaticAregState) (dreg : StaticDregState)
    (instr : NgM68kInstr) : NgM68kStaticAregState :=
  if instr.mnemonic = .movea ∧ instr.size = 4 ∧ instr.src.mode = .dreg ∧ instr.src.reg < 8 ∧
      instr.dst.mode = .areg ∧ instr.dst.reg < 8 then
    match dreg (regIndex instr.src.reg) with
    | some target => areg.load (regIndex instr.dst.reg) (target &&& 0x00FFFFFF)
    | none => areg
  else areg

-- `scan_state_has_static_targets`
def scanStateHasStaticTargets (areg : NgM68kStaticAregState) (dreg : StaticDregState) : Bool :=
  (List.finRange 8).any fun r => areg.valid r || (dreg r).isSome

/-- The loop of `add_branch_target_static_indirects` with its turns left. -/
def branchProbe (rom : NgProgramRom) (start : BitVec 32) :
    Nat → BitVec 32 → NgM68kStaticAregState → StaticDregState → List DiscoveryCall
  | 0, _, _, _ => []
  | turns + 1, pc, areg, dreg =>
      match decodeCode rom pc with
      | none => []
      | some instr =>
          addStaticAregIndirectTarget rom start instr areg ++
            if instrStopsScriptSlotScan instr then []
            else
              branchProbe rom start turns (pc + instr.byteLength.setWidth 32)
                (staticDregToAregUpdate (ngM68kStaticAregUpdate areg instr) dreg instr)
                (staticDregUpdate dreg instr)

-- `add_branch_target_static_indirects`; the limit is
-- `NG_FUNCTION_DISCOVERY_BRANCH_PROBE_MAX_INSTRUCTIONS`
def addBranchTargetStaticIndirects (rom : NgProgramRom) (start branchTarget : BitVec 32)
    (areg : NgM68kStaticAregState) (dreg : StaticDregState) : List DiscoveryCall :=
  if !scanStateHasStaticTargets areg dreg ∨ !isProbableFunctionTarget rom branchTarget then []
  else branchProbe rom start 12 (branchTarget &&& 0x00FFFFFF) areg dreg

/-! ## Address registers with a set of values -/

/-- `NgStaticAregValueSet`; `count` is the length. -/
structure NgStaticAregValueSet where
  values : List (BitVec 32) := []
  valid : Bool := false
  deriving DecidableEq, Repr

/-- `NgStaticAregSetState`. -/
structure NgStaticAregSetState where
  areg : Fin 8 → NgStaticAregValueSet := fun _ => {}
  stack : List NgStaticAregValueSet := []

-- `static_areg_value_set_add`
def staticAregValueSetAdd (set : NgStaticAregValueSet) (value : BitVec 32) : NgStaticAregValueSet :=
  let value := value &&& 0x00FFFFFF
  if value ∈ set.values then { set with valid := true }
  else if ngFunctionDiscoveryScriptTableMaxEntries ≤ set.values.length then set
  else { values := set.values ++ [value], valid := true }

-- `instr_pushes_areg_to_stack`
def instrPushesAregToStack (instr : NgM68kInstr) : Option (BitVec 8) :=
  if instr.mnemonic = .move ∧ instr.size = 4 ∧ instr.src.mode = .areg ∧ instr.src.reg < 8 ∧
      instr.dst.mode = .apre ∧ instr.dst.reg = 7 then some instr.src.reg
  else none

-- `instr_pops_stack_to_areg`
def instrPopsStackToAreg (instr : NgM68kInstr) : Option (BitVec 8) :=
  if instr.mnemonic = .movea ∧ instr.size = 4 ∧ instr.src.mode = .apost ∧ instr.src.reg = 7 ∧
      instr.dst.mode = .areg ∧ instr.dst.reg < 8 then some instr.dst.reg
  else none

-- `instr_is_areg_index_load`
def instrIsAregIndexLoad (instr : NgM68kInstr) : Bool :=
  instr.mnemonic = .movea && instr.size = 4 && instr.src.mode = .aindex && instr.src.reg < 8 &&
    instr.src.indexReg < 8 && instr.dst.mode = .areg && instr.dst.reg < 8

-- `static_areg_index_load_entry_count`
def staticAregIndexLoadEntryCount (instr : NgM68kInstr) (indexBound : NgM68kIndexRegBoundState) :
    BitVec 32 :=
  let r := regIndex instr.src.indexReg
  if !instrIsAregIndexLoad instr then 0
  else if indexBound.valid r ∧ indexBound.scaleBytes r = 4 ∧ indexBound.maxEntries r ≠ 0 then
    indexBound.maxEntries r
  else 16

-- `static_areg_value_set_from_static_areg`
def staticAregValueSetFromStaticAreg (areg : NgM68kStaticAregState) (reg : BitVec 8) :
    NgStaticAregValueSet :=
  if reg ≥ 8 ∨ areg.valid (regIndex reg) = false then {}
  else staticAregValueSetAdd {} (areg.target (regIndex reg))

-- `static_areg_value_is_table_base`
def staticAregValueIsTableBase (rom : NgProgramRom) (value : BitVec 32) : Bool :=
  ngProgramRomAddrIsMapped rom value &&
    (ngProgramRomAddrIsBanked rom value || !isProbableFunctionTarget rom value)

/-- The entries of one table in `static_areg_set_load_indexed_table`, with the turns left. -/
def indexedTableValues (rom : NgProgramRom) (bounded : Bool) :
    Nat → BitVec 32 → NgStaticAregValueSet → NgStaticAregValueSet
  | 0, _, result => result
  | turns + 1, entryAddr, result =>
      if !ngProgramRomAddrIsMapped rom entryAddr || !ngProgramRomAddrIsMapped rom (entryAddr + 3) then
        result
      else
        let value := ngProgramRomRead32 rom entryAddr &&& 0x00FFFFFF
        if ngProgramRomAddrIsMapped rom value then
          indexedTableValues rom bounded turns (entryAddr + 4) (staticAregValueSetAdd result value)
        else if bounded then indexedTableValues rom bounded turns (entryAddr + 4) result
        else result

-- `static_areg_set_load_indexed_table`
def staticAregSetLoadIndexedTable (rom : NgProgramRom) (areg : NgM68kStaticAregState)
    (indexBound : NgM68kIndexRegBoundState) (s : NgStaticAregSetState) (instr : NgM68kInstr) :
    NgStaticAregSetState :=
  let bases :=
    if (s.areg (regIndex instr.src.reg)).valid then s.areg (regIndex instr.src.reg)
    else staticAregValueSetFromStaticAreg areg instr.src.reg
  let turns :=
    min (staticAregIndexLoadEntryCount instr indexBound).toNat
      ngFunctionDiscoveryScriptTableMaxEntries
  let result : NgStaticAregValueSet :=
    if !bases.valid ∨ bases.values = [] then {}
    else
      bases.values.foldl
        (fun result base =>
          let base := base &&& 0x00FFFFFF
          if staticAregValueIsTableBase rom base then
            indexedTableValues rom (indexBound.valid (regIndex instr.src.indexReg)) turns
              (addDisplacement base instr.src.displacement &&& 0x00FFFFFF) result
          else result)
        {}
  { s with areg := Function.update s.areg (regIndex instr.dst.reg) result }

-- `static_areg_set_update`; `instr_writes_areg_local` differs from `instr_writes_areg` only in
-- asking for a register below eight
def staticAregSetUpdate (rom : NgProgramRom) (areg : NgM68kStaticAregState)
    (indexBound : NgM68kIndexRegBoundState) (s : NgStaticAregSetState) (instr : NgM68kInstr) :
    NgStaticAregSetState :=
  let clear (s : NgStaticAregSetState) (r : Fin 8) : NgStaticAregSetState :=
    { s with areg := Function.update s.areg r {} }
  match instrPushesAregToStack instr with
  | some reg =>
      if s.stack.length < 8 then
        { s with
          stack := s.stack ++
            [if (s.areg (regIndex reg)).valid then s.areg (regIndex reg)
             else staticAregValueSetFromStaticAreg areg reg] }
      else s
  | none =>
      match instrPopsStackToAreg instr with
      | some reg =>
          match s.stack.getLast? with
          | some set =>
              { areg := Function.update s.areg (regIndex reg) set, stack := s.stack.dropLast }
          | none => clear s (regIndex reg)
      | none =>
          if instr.mnemonic = .jsr ∨ instr.mnemonic = .bsr then clear (clear (clear s 0) 1) 7
          else if instrIsAregIndexLoad instr then
            staticAregSetLoadIndexedTable rom areg indexBound s instr
          else
            match instrWritesAreg instr with
            | some reg => if reg < 8 then clear s (regIndex reg) else s
            | none => s

/-! ## Task states -/

-- `legacy_task_state_store_slot_allowed`
def legacyTaskStateStoreSlotAllowed (store : NgM68kInstr) : Bool :=
  store.dst.mode = .aind || (store.dst.mode = .adisp && store.dst.displacement = 0x70)

-- `dispatcher_install_slot_matches`
def dispatcherInstallSlotMatches (dispatcher : NgGameConfigDispatcher) (slot : BitVec 32) : Bool :=
  slot ∈ dispatcher.installSlots || (dispatcher.hasStateSlot && dispatcher.stateSlot = slot)

-- `dispatcher_task_state_store_slot_allowed`
def dispatcherTaskStateStoreSlotAllowed (config : NgGameConfig) (store : NgM68kInstr) : Bool :=
  if config.dispatchers = [] then legacyTaskStateStoreSlotAllowed store
  else
    match store.dst.mode with
    | .aind => config.dispatchers.any fun d => dispatcherInstallSlotMatches d 0
    | .adisp =>
        config.dispatchers.any fun d =>
          dispatcherInstallSlotMatches d (store.dst.displacement.setWidth 32)
    | _ => false

-- `config_state_table_contains_addr`
def configStateTableContainsAddr (config : NgGameConfig) (addr : BitVec 32) : Bool :=
  let addr := addr &&& 0x00FFFFFF
  config.stateTables.any fun table =>
    table.tableEnd > table.tableStart && addr ≥ table.tableStart &&& 0x00FFFFFF &&
      addr < table.tableEnd &&& 0x00FFFFFF

-- `add_static_areg_set_state_targets`
def addStaticAregSetStateTargets (rom : NgProgramRom) (config : NgGameConfig) (instr : NgM68kInstr)
    (s : NgStaticAregSetState) : List DiscoveryCall :=
  let set := s.areg (regIndex instr.src.reg)
  if instr.mnemonic = .move ∧ instr.size = 4 ∧ instr.src.mode = .areg ∧ instr.src.reg < 8 ∧
      set.valid ∧ dispatcherTaskStateStoreSlotAllowed config instr then
    set.values.flatMap fun value =>
      let target := value &&& 0x00FFFFFF
      if isProbableStrictHeuristicCodeTarget rom target ||
          configStateTableContainsAddr config target then [.add rom target]
      else []
  else []

-- `dispatcher_task_spawn_helper_allowed`, with `legacy_task_spawn_helper_allowed`
def dispatcherTaskSpawnHelperAllowed (config : NgGameConfig) (helper : BitVec 32) : Bool :=
  if config.dispatchers = [] then helper = 0x0004AE || helper = 0x0006FE
  else config.dispatchers.any fun d => helper ∈ d.spawnHelpers

-- `instr_writes_areg_number`
def instrWritesAregNumber (instr : NgM68kInstr) (reg : BitVec 8) : Bool :=
  instr.dst.mode = .areg && instr.dst.reg = reg

/-- The loop of `dispatcher_task_spawn_wrapper_allowed_depth` and of its result twin, which lacks
the test for a write to A1 (`stopAtA1`).  `calls` decides a JSR to some other helper. -/
def spawnWrapperWalk (rom : NgProgramRom) (config : NgGameConfig) (stopAtA1 : Bool)
    (calls : BitVec 32 → Bool) : Nat → BitVec 32 → Bool
  | 0, _ => false
  | turns + 1, pc =>
      match decodeCode rom pc with
      | none => false
      | some instr =>
          let target := instr.target &&& 0x00FFFFFF
          if instr.mnemonic = .jsr ∧ isDirectFunctionTarget instr ∧
              (dispatcherTaskSpawnHelperAllowed config target ∨ calls target) then true
          else if stopAtA1 ∧ instrWritesAregNumber instr 1 then false
          else if instrStopsScriptProbe instr then false
          else
            spawnWrapperWalk rom config stopAtA1 calls turns (pc + instr.byteLength.setWidth 32)

/-- The two `..._allowed_depth` functions; the recursion goes down with `depth`. -/
def spawnWrapperAllowedDepth (rom : NgProgramRom) (config : NgGameConfig) (stopAtA1 : Bool) :
    Nat → BitVec 32 → Bool
  | 0, helper =>
      ngProgramRomAddrIsMapped rom helper &&
        spawnWrapperWalk rom config stopAtA1 (fun _ => false) 24 helper
  | depth + 1, helper =>
      ngProgramRomAddrIsMapped rom helper &&
        spawnWrapperWalk rom config stopAtA1
          (fun target => target ≠ helper &&& 0x00FFFFFF &&
            spawnWrapperAllowedDepth rom config stopAtA1 depth target) 24 helper

-- `dispatcher_task_spawn_wrapper_allowed`
def dispatcherTaskSpawnWrapperAllowed (rom : NgProgramRom) (config : NgGameConfig)
    (helper : BitVec 32) : Bool :=
  spawnWrapperAllowedDepth rom config true 2 helper

-- `dispatcher_task_spawn_result_call_allowed`
def dispatcherTaskSpawnResultCallAllowed (rom : NgProgramRom) (config : NgGameConfig)
    (helper : BitVec 32) : Bool :=
  dispatcherTaskSpawnHelperAllowed config helper ||
    spawnWrapperAllowedDepth rom config false 2 helper

/-- `is_task_state_store`.  Secondary callbacks in a displaced slot are taken only from below the
bank window. -/
def isTaskStateStore (rom : NgProgramRom) (config : NgGameConfig) (load store : NgM68kInstr) :
    Option (BitVec 32) :=
  if load.mnemonic ≠ .lea ∨ load.dst.mode ≠ .areg ∨ !hasStaticCodeTarget load then none
  else if store.mnemonic ≠ .move ∨ store.size ≠ 4 ∨ store.src.mode ≠ .areg ∨
      store.src.reg ≠ load.dst.reg ∨ store.dst.reg ≠ 6 then none
  else if store.dst.mode = .adisp ∧ load.target &&& 0x00FFFFFF ≥ 0x00100000 then none
  else if !dispatcherTaskStateStoreSlotAllowed config store then none
  else if !isProbableHeuristicCodeTarget rom load.target ∧
      !configStateTableContainsAddr config load.target then none
  else some load.target

/-- `spawn_result_areg_valid`. -/
abbrev SpawnResults := Fin 8 → Bool

-- `is_immediate_task_state_store`
def isImmediateTaskStateStore (rom : NgProgramRom) (config : NgGameConfig) (store : NgM68kInstr)
    (spawnResults : SpawnResults) : Option (BitVec 32) :=
  let candidate := store.src.immediate &&& 0x00FFFFFF
  if store.mnemonic ≠ .move ∨ store.size ≠ 4 ∨ store.src.mode ≠ .imm ∨ store.dst.reg > 7 then none
  else if spawnResults (regIndex store.dst.reg) = false then none
  else if !dispatcherTaskStateStoreSlotAllowed config store then none
  else if !isProbableHeuristicCodeTarget rom candidate ∧
      !configStateTableContainsAddr config candidate then none
  else some candidate

-- The call of a task-spawning helper, directly or through a wrapper.
def isTaskSpawnHelper (rom : NgProgramRom) (config : NgGameConfig) (call : NgM68kInstr) : Bool :=
  let helper := call.target &&& 0x00FFFFFF
  dispatcherTaskSpawnHelperAllowed config helper ||
    dispatcherTaskSpawnWrapperAllowed rom config helper

-- `is_task_spawn_call`
def isTaskSpawnCall (rom : NgProgramRom) (config : NgGameConfig) (load call : NgM68kInstr) :
    Option (BitVec 32) :=
  if load.mnemonic ≠ .lea ∨ load.dst.mode ≠ .areg ∨ load.dst.reg ≠ 1 ∨
      !hasStaticCodeTarget load then none
  else if call.mnemonic ≠ .jsr ∨ call.src.mode ≠ .absL then none
  else if !isTaskSpawnHelper rom config call then none
  else if !isProbableHeuristicCodeTarget rom load.target then none
  else some load.target

-- `is_indexed_task_spawn_call`
def isIndexedTaskSpawnCall (rom : NgProgramRom) (config : NgGameConfig) (load call : NgM68kInstr)
    (areg : NgM68kStaticAregState) : Option NgM68kJumpTablePattern :=
  if load.mnemonic ≠ .movea ∨ load.size ≠ 4 ∨ load.src.mode ≠ .aindex ∨ load.src.reg > 7 ∨
      areg.valid (regIndex load.src.reg) = false ∨ load.dst.mode ≠ .areg ∨ load.dst.reg ≠ 1 then
    none
  else if call.mnemonic ≠ .jsr ∨ !isDirectFunctionTarget call then none
  else if !isTaskSpawnHelper rom config call then none
  else
    some { tableAddr := staticTableAddr areg load.src, indexReg := load.src.indexReg,
           targetReg := load.dst.reg, entrySize := 4, entryKind := .abs32 }

/-! ## One turn -/

/-- The local variables of `scan_function_candidate`. -/
structure ScanState where
  previous : Option NgM68kInstr := none
  areg : NgM68kStaticAregState := ngM68kStaticAregReset
  previousAreg : NgM68kStaticAregState := ngM68kStaticAregReset
  indexBound : NgM68kIndexRegBoundState := ngM68kIndexRegBoundReset
  aregSets : NgStaticAregSetState := {}
  dreg : StaticDregState := fun _ => none
  spawnResults : SpawnResults := fun _ => false

/-- The table an instruction pair or an indexed dispatch goes through, as the scan tries them. -/
def matchedAddressTable (s : ScanState) (previous instr : NgM68kInstr) :
    Option NgM68kJumpTablePattern :=
  (ngM68kMatchPcIndexJumpTable previous instr <|>
    ngM68kMatchStaticIndexJumpTable previous instr s.previousAreg <|>
    ngM68kMatchStaticIndexBranchTable instr s.areg).map
      (ngM68kJumpTableApplyIndexBound · s.indexBound)

-- The chain under `if (have_previous)`.
def pairCalls (rom : NgProgramRom) (start : BitVec 32) (config : NgGameConfig) (s : ScanState)
    (previous instr : NgM68kInstr) : List DiscoveryCall :=
  match matchedAddressTable s previous instr with
  | some pattern => addJumpTableTargets rom pattern
  | none =>
      match isTaskStateStore rom config previous instr with
      | some target => [.add rom target]
      | none =>
          match isTaskSpawnCall rom config previous instr with
          | some target => [.add rom target]
          | none =>
              match isIndexedTaskSpawnCall rom config previous instr s.previousAreg with
              | some pattern =>
                  addJumpTableTargets rom (ngM68kJumpTableApplyIndexBound pattern s.indexBound)
              | none => addAbsPointerIndirectTargets rom start previous instr

/-- The table of code an indexed or a repeated jump goes through. -/
def matchedCodeTable (rom : NgProgramRom) (previous : Option NgM68kInstr) (instr : NgM68kInstr) :
    Option NgM68kJumpTablePattern :=
  previous.bind (ngM68kMatchPcIndexInlineCodeTable rom · instr) <|>
    ngM68kMatchPcIndexBranchTable rom instr <|> ngM68kMatchRepeatedDirectDispatchTable rom instr

/-- The targets that the instruction and what is known about its registers lead to. -/
def contextCalls (rom : NgProgramRom) (start : BitVec 32) (config : NgGameConfig) (s : ScanState)
    (instr : NgM68kInstr) : List DiscoveryCall :=
  (match s.previous with
    | some previous => pairCalls rom start config s previous instr
    | none => []) ++
  (match matchedCodeTable rom s.previous instr with
    | some pattern => addJumpTableTargets rom pattern
    | none => []) ++
  addConfigTableCallTargets rom config instr s.areg ++
  addStaticAregIndirectTarget rom start instr s.areg ++
  addStaticAregSetStateTargets rom config instr s.aregSets ++
  match isImmediateTaskStateStore rom config instr s.spawnResults with
    | some target => [.add rom target]
    | none => []

/-- The targets the instruction itself names, and where it comes back to. -/
def ownCalls (rom : NgProgramRom) (start pc : BitVec 32) (s : ScanState) (instr : NgM68kInstr) :
    List DiscoveryCall :=
  (if isDirectFunctionTarget instr then [.add rom instr.target] else []) ++
  (if isBranchTargetCandidate instr then
    .add rom instr.target ::
      if instr.target &&& 0x00FFFFFF > pc then
        addBranchTargetStaticIndirects rom start instr.target s.areg s.dreg
      else []
   else []) ++
  if instr.mnemonic = .jsr ∨ instr.mnemonic = .bsr ∨ instr.mnemonic = .stop then
    [.add rom (pc + instr.byteLength.setWidth 32)]
  else []

/-- The calls of one turn, in order. -/
def scanCalls (rom : NgProgramRom) (start pc : BitVec 32) (config : NgGameConfig) (s : ScanState)
    (instr : NgM68kInstr) : List DiscoveryCall :=
  (if pc ≠ start then [.addLabel rom pc] else []) ++
    contextCalls rom start config s instr ++ ownCalls rom start pc s instr

-- The registers a spawn helper leaves its result in.
def spawnResultsUpdate (rom : NgProgramRom) (config : NgGameConfig) (spawnResults : SpawnResults)
    (instr : NgM68kInstr) : SpawnResults :=
  if instr.mnemonic = .jsr ∨ instr.mnemonic = .bsr then
    fun r => r = 0 && isDirectFunctionTarget instr &&
      dispatcherTaskSpawnResultCallAllowed rom config (instr.target &&& 0x00FFFFFF)
  else fun r => spawnResults r && !instrWritesAregNumber instr (BitVec.ofNat 8 r)

-- The updates at the end of a turn.
def ScanState.update (rom : NgProgramRom) (config : NgGameConfig) (s : ScanState)
    (instr : NgM68kInstr) : ScanState where
  previous := some instr
  previousAreg := s.areg
  aregSets := staticAregSetUpdate rom s.areg s.indexBound s.aregSets instr
  areg := staticDregToAregUpdate (ngM68kStaticAregUpdate s.areg instr) s.dreg instr
  dreg := staticDregUpdate s.dreg instr
  indexBound := ngM68kIndexRegBoundUpdate s.indexBound instr
  spawnResults := spawnResultsUpdate rom config s.spawnResults instr

/-- The instructions after which the scan returns. -/
def stopsScan (instr : NgM68kInstr) : Bool :=
  instr.mnemonic = .bra || instr.mnemonic = .jmp || instr.mnemonic = .rts ||
    instr.mnemonic = .rte || instr.mnemonic = .rtr

/-- The loop of `scan_function_candidate` with its turns left; the instruction the limit stops at
becomes a scan root of its own. -/
def scanTurns (rom : NgProgramRom) (start : BitVec 32) (config : NgGameConfig) :
    Nat → BitVec 32 → ScanState → List DiscoveryCall
  | 0, pc, _ => if pc ≠ start then [.addScanRoot rom pc] else []
  | turns + 1, pc, s =>
      match decodeCode rom pc with
      | none => []
      | some instr =>
          scanCalls rom start pc config s instr ++
            if stopsScan instr then []
            else
              scanTurns rom start config turns (pc + instr.byteLength.setWidth 32)
                (s.update rom config instr)

-- `scan_function_candidate`
def scanFunctionCandidate (rom : NgProgramRom) (start : BitVec 32) (config : NgGameConfig) :
    List DiscoveryCall :=
  scanTurns rom start config ngFunctionDiscoveryMaxInstructions start {}

end NeoRecomp
