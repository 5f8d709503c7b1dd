import NeoRecomp.Discovery.State
import NeoRecomp.GameConfig

/-!
# Tables of code addresses

Which table entries function discovery takes for code, and the scanners for jump tables found in
the program and for the tables a game configuration describes.
-/

namespace NeoRecomp

-- Lists of addresses are searched by `==` throughout discovery.
instance lawfulBEqAddress : LawfulBEq (BitVec 32) := inferInstance

/-! ## Heuristic targets -/

-- `heuristic_target_has_code_shape`
def heuristicTargetHasCodeShape : NgM68kMnemonic → Bool
  | .rts | .rte | .rtr | .stop | .trap | .trapv | .bra | .bsr | .bcc | .dbcc | .jmp | .jsr => true
  | _ => false

/-- The loop of `is_probable_heuristic_code_target_impl` with its turns left. -/
def heuristicWalk (rom : NgProgramRom) (allowLongFallthrough : Bool) : Nat → BitVec 32 → Bool
  | 0, _ => allowLongFallthrough
  | turns + 1, pc =>
      match decodeCode rom pc with
      | none => false
      | some instr =>
          let len := instr.byteLength.setWidth 32
          if instr.mnemonic = .illegal ∨ instr.mnemonic = .reset then false
          else if heuristicTargetHasCodeShape instr.mnemonic then true
          else if wrapsOver pc len then false
          else heuristicWalk rom allowLongFallthrough turns (pc + len)

-- `is_probable_heuristic_code_target_impl`; the limit is
-- `NG_FUNCTION_DISCOVERY_HEURISTIC_TARGET_MAX_INSTRUCTIONS`
def isProbableHeuristicCodeTargetImpl (rom : NgProgramRom) (addr : BitVec 32)
    (allowLongFallthrough : Bool) : Bool :=
  isProbableFunctionTarget rom addr && heuristicWalk rom allowLongFallthrough 32 addr

-- `is_probable_heuristic_code_target`
def isProbableHeuristicCodeTarget (rom : NgProgramRom) (addr : BitVec 32) : Bool :=
  isProbableHeuristicCodeTargetImpl rom addr true

-- `is_probable_strict_heuristic_code_target`
def isProbableStrictHeuristicCodeTarget (rom : NgProgramRom) (addr : BitVec 32) : Bool :=
  isProbableHeuristicCodeTargetImpl rom addr false

-- `is_direct_function_target`
def isDirectFunctionTarget (instr : NgM68kInstr) : Bool :=
  if instr.mnemonic = .bsr then true
  else if instr.mnemonic ≠ .jsr ∧ instr.mnemonic ≠ .jmp then false
  else instr.src.mode = .absW || instr.src.mode = .absL || instr.src.mode = .pcDisp

/-! ## Jump tables in the program -/

/-- What one turn finds at an entry of a table of code: the entry with the stride from here on, the
instruction behind the last branch, or the end of the table. -/
inductive CodeTableEntry
  | entry (stride : BitVec 32)
  | terminal
  | stop
  deriving DecidableEq, Repr

/-- The tests of `add_jump_table_targets` (and of `audit_record_jump_table`, which repeats them) on
an entry of a table of code. -/
def codeTableEntry (rom : NgProgramRom) (p : NgM68kJumpTablePattern) (entryAddr stride : BitVec 32) :
    CodeTableEntry :=
  match p.entryKind with
  | .address =>
      match decodeValidated rom entryAddr with
      | none => .terminal
      | some entry =>
          let len := entry.byteLength.setWidth 32
          if entry.mnemonic ≠ .bra then .terminal
          else if stride = 0 then .entry len
          else if len ≠ stride then .stop
          else .entry stride
  | .inlineCode =>
      if stride = 0 ∨ !ngProgramRomAddrIsMapped rom entryAddr ∨
          !ngProgramRomAddrIsMapped rom (entryAddr + 3) ∨
          ngProgramRomRead32 rom entryAddr ≠ p.entrySignature then .stop
      else .entry stride
  | .directDispatch | .abs32 =>
      match decodeValidated rom entryAddr with
      | none => .stop
      | some entry =>
          if stride = 0 ∨ entry.mnemonic ≠ .jmp ∨ entry.byteLength.setWidth 32 ≠ stride ∨
              !isDirectFunctionTarget entry then .stop
          else .entry stride

/-- The entries of a table of code, each with whether it is the terminal one. -/
def codeTableEntries (rom : NgProgramRom) (p : NgM68kJumpTablePattern) :
    Nat → BitVec 32 → BitVec 32 → List (BitVec 32 × Bool)
  | 0, _, _ => []
  | turns + 1, entryAddr, stride =>
      match codeTableEntry rom p entryAddr stride with
      | .stop => []
      | .terminal => if p.includeTerminalEntry ≠ 0 then [(entryAddr, true)] else []
      | .entry stride =>
          (entryAddr, false) ::
            if wrapsOver entryAddr stride then []
            else codeTableEntries rom p turns (entryAddr + stride) stride

/-- The loop over a table of addresses: the accepted targets in order.  In a bounded table the
first refused target ends the loop. -/
def abs32TableTargets (rom : NgProgramRom) (p : NgM68kJumpTablePattern)
    (allowed : Nat → BitVec 32 → Bool) : Nat → Nat → List (BitVec 32)
  | 0, _ => []
  | turns + 1, i =>
      let entryAddr := p.tableAddr + BitVec.ofNat 32 i * p.entrySize.setWidth 32
      if !ngProgramRomAddrIsMapped rom entryAddr || !ngProgramRomAddrIsMapped rom (entryAddr + 3) then
        []
      else
        let target := ngProgramRomRead32 rom entryAddr
        if allowed i target then target :: abs32TableTargets rom p allowed turns (i + 1)
        else if p.maxEntries ≠ 0 then []
        else abs32TableTargets rom p allowed turns (i + 1)

-- `NG_FUNCTION_DISCOVERY_TABLE_ENTRIES` and `NG_FUNCTION_DISCOVERY_ABS32_TABLE_MAX_ENTRIES`
def tableEntryLimit (p : NgM68kJumpTablePattern) : Nat :=
  min (if p.maxEntries ≠ 0 then p.maxEntries.toNat else 4) 64

/-- The target filter of `add_jump_table_targets`: entries past the fourth of a bounded table have
to end in a control transfer. -/
def tableTargetAllowed (rom : NgProgramRom) (p : NgM68kJumpTablePattern) (i : Nat)
    (target : BitVec 32) : Bool :=
  if p.maxEntries ≠ 0 ∧ 4 ≤ i then isProbableStrictHeuristicCodeTarget rom target
  else isProbableHeuristicCodeTarget rom target

-- `add_jump_table_targets`; the limit is `NG_FUNCTION_DISCOVERY_BRANCH_TABLE_MAX_ENTRIES`
def addJumpTableTargets (rom : NgProgramRom) (p : NgM68kJumpTablePattern) : List DiscoveryCall :=
  match p.entryKind with
  | .abs32 =>
      (abs32TableTargets rom p (tableTargetAllowed rom p) (tableEntryLimit p) 0).map (.add rom)
  | _ =>
      (codeTableEntries rom p 32 p.tableAddr (p.entrySize.setWidth 32)).flatMap fun e =>
        if e.2 ∧ !isProbableFunctionTarget rom e.1 then [] else [.add rom e.1]

/-! ## Configured jump tables -/

-- `config_jump_table_target_allowed`
def configJumpTableTargetAllowed (rom : NgProgramRom) (table : NgGameConfigJumpTable)
    (target : BitVec 32) : Bool :=
  !outsideRange table.targetStart table.targetEnd target && isProbableFunctionTarget rom target

/-- `have_target` and `target` of `add_config_jump_table_targets`. -/
def configJumpTableTarget (rom : NgProgramRom) (table : NgGameConfigJumpTable) (addr : BitVec 32) :
    Option (BitVec 32) :=
  match table.format with
  | .abs32 =>
      if ngProgramRomAddrIsMapped rom addr && ngProgramRomAddrIsMapped rom (addr + 3) then
        some (ngProgramRomRead32 rom addr)
      else none
  | .pcrel16 =>
      if ngProgramRomAddrIsMapped rom addr && ngProgramRomAddrIsMapped rom (addr + 1) then
        some (addDisplacement (table.start &&& 0x00FFFFFF) (ngProgramRomRead16 rom addr))
      else none
  | .bra16 | .bra8 => some addr
  | .scriptPredicate | .taggedAbs32 | .inlineCallback => none

/-- The loop all scanners of configured jump tables share. -/
def configTableLoop (table : NgGameConfigJumpTable) (body : BitVec 32 → List DiscoveryCall) :
    List DiscoveryCall :=
  if table.stride = 0 ∨ table.stop ≤ table.start then []
  else stridedLoop table.start table.stop table.stride fun addr => some (body addr)

-- `add_config_jump_table_targets`
def addConfigJumpTableTargets (rom : NgProgramRom) (table : NgGameConfigJumpTable) :
    List DiscoveryCall :=
  configTableLoop table fun addr =>
    match configJumpTableTarget rom table addr with
    | none => []
    | some target => if configJumpTableTargetAllowed rom table target then [.add rom target] else []

-- `is_work_ram_absolute`
def isWorkRamAbsolute (addr : BitVec 32) : Bool := addr ≥ 0x00100000 && addr ≤ 0x0010FFFF

/-- `is_script_predicate_candidate`: CMPI on work RAM, Scc D0, LEA d(PC),A1 and RTS. -/
def isScriptPredicateCandidate (rom : NgProgramRom) (addr : BitVec 32) : Bool :=
  match decodeValidated rom addr with
  | none => false
  | some cmpi =>
      let pc := addr + cmpi.byteLength.setWidth 32
      cmpi.mnemonic = .cmpi && cmpi.dst.mode = .absL && isWorkRamAbsolute cmpi.dst.absoluteAddr &&
        match decodeValidated rom pc with
        | none => false
        | some scc =>
            let pc := pc + scc.byteLength.setWidth 32
            scc.mnemonic = .scc && scc.dst.mode = .dreg && scc.dst.reg = 0 &&
              match decodeValidated rom pc with
              | none => false
              | some lea =>
                  let rts := ngM68kDecode rom (pc + lea.byteLength.setWidth 32)
                  lea.mnemonic = .lea && lea.dst.mode = .areg && lea.dst.reg = 1 &&
                    lea.src.mode = .pcDisp && rts.1 && ngM68kValidate rts.2 &&
                    rts.2.mnemonic = .rts

-- `add_script_predicate_targets`
def addScriptPredicateTargets (rom : NgProgramRom) (table : NgGameConfigJumpTable) :
    List DiscoveryCall :=
  configTableLoop table fun addr =>
    if isScriptPredicateCandidate rom addr then [.add rom addr] else []

-- `add_tagged_abs32_targets`
def addTaggedAbs32Targets (rom : NgProgramRom) (table : NgGameConfigJumpTable) :
    List DiscoveryCall :=
  configTableLoop table fun addr =>
    let targetAddr := addr + table.targetOffset
    if ngProgramRomAddrIsMapped rom addr && ngProgramRomAddrIsMapped rom (addr + 1) &&
        ngProgramRomRead16 rom addr = table.tag.setWidth 16 &&
        ngProgramRomAddrIsMapped rom targetAddr && ngProgramRomAddrIsMapped rom (targetAddr + 3) then
      let target := ngProgramRomRead32 rom targetAddr
      if !outsideRange table.targetStart table.targetEnd target &&
          isProbableFunctionTarget rom target then [.add rom target]
      else []
    else []

/-- The loop of `is_inline_script_callback_target` with its turns left. -/
def inlineCallbackWalk (rom : NgProgramRom) : Nat → BitVec 32 → Bool → Bool
  | 0, _, _ => false
  | turns + 1, pc, sawScriptStore =>
      match decodeCode rom pc with
      | none => false
      | some instr =>
          let len := instr.byteLength.setWidth 32
          let sawScriptStore := sawScriptStore ||
            (instr.mnemonic = .move && instr.size = 4 && instr.src.mode = .imm &&
              instr.dst.mode = .aind && instr.dst.reg = 0)
          match instr.mnemonic with
          | .rts => sawScriptStore
          | .rte | .rtr | .stop | .trap | .illegal | .jmp => false
          | _ =>
              if wrapsOver pc len then false
              else inlineCallbackWalk rom turns (pc + len) sawScriptStore

-- `is_inline_script_callback_target`
def isInlineScriptCallbackTarget (rom : NgProgramRom) (table : NgGameConfigJumpTable)
    (target : BitVec 32) : Bool :=
  !outsideRange table.targetStart table.targetEnd target &&
    isProbableFunctionTarget rom target && inlineCallbackWalk rom 32 target false

-- `add_inline_callback_targets`
def addInlineCallbackTargets (rom : NgProgramRom) (table : NgGameConfigJumpTable) :
    List DiscoveryCall :=
  configTableLoop table fun addr =>
    let opcode := ngProgramRomRead16 rom addr
    let target := addr + table.targetOffset
    if ngProgramRomAddrIsMapped rom addr && ngProgramRomAddrIsMapped rom (addr + 1) &&
        ((table.tag = 0 && (opcode = 0x0003 || opcode = 0x0004)) ||
          opcode = table.tag.setWidth 16) &&
        isInlineScriptCallbackTarget rom table target then [.add rom target]
    else []

-- The branches of the loop over `config->jump_tables`.
def addConfiguredJumpTable (rom : NgProgramRom) (table : NgGameConfigJumpTable) :
    List DiscoveryCall :=
  match table.format with
  | .scriptPredicate => addScriptPredicateTargets rom table
  | .taggedAbs32 => addTaggedAbs32Targets rom table
  | .inlineCallback => addInlineCallbackTargets rom table
  | _ => addConfigJumpTableTargets rom table

/-! ## State tables -/

-- `state_table_longword_in_table`
def stateTableLongwordInTable (rom : NgProgramRom) (table : NgGameConfigStateTable)
    (addr : BitVec 32) : Bool :=
  table.tableEnd > table.tableStart && addr ≥ table.tableStart && !wrapsOver addr 3 &&
    addr + 3 < table.tableEnd && ngProgramRomAddrIsMapped rom addr &&
    ngProgramRomAddrIsMapped rom (addr + 3)

-- `state_table_target_allowed`
def stateTableTargetAllowed (rom : NgProgramRom) (table : NgGameConfigStateTable)
    (target : BitVec 32) : Bool :=
  !outsideRange table.targetStart table.targetEnd target && isProbableFunctionTarget rom target

/-- What one entry of a state table asks for; `chain` is another table. -/
inductive StateTableEntry
  | skip
  | chain (addr : BitVec 32)
  | code (addr : BitVec 32)
  | stop
  deriving DecidableEq, Repr

/-- The tests of `add_state_table_targets` on one value.  Odd values and, on request, even ones in
the target range are markers between the callbacks. -/
def stateTableEntry (rom : NgProgramRom) (table : NgGameConfigStateTable) (value : BitVec 32) :
    StateTableEntry :=
  if value = table.sentinel then .skip
  else if table.followChain ∧ stateTableLongwordInTable rom table value then .chain value
  else if stateTableTargetAllowed rom table value then .code value
  else if table.targetEnd > table.targetStart ∧ value ≥ table.targetStart ∧
      value < table.targetEnd ∧ (value &&& 1 ≠ 0 ∨ table.skipInvalidTargets) then .skip
  else .stop

/-- The inner loop of `add_state_table_targets` with its turns left: the array `tables` and the
calls made. -/
def stateTableEntries (rom : NgProgramRom) (table : NgGameConfigStateTable) :
    Nat → BitVec 32 → List (BitVec 32) → List (BitVec 32) × List DiscoveryCall
  | 0, _, tables => (tables, [])
  | turns + 1, entryAddr, tables =>
      let continueWith (tables : List (BitVec 32)) (calls : List DiscoveryCall) :=
        if wrapsOver entryAddr table.stride then (tables, calls)
        else
          let rest := stateTableEntries rom table turns (entryAddr + table.stride) tables
          (rest.1, calls ++ rest.2)
      if !stateTableLongwordInTable rom table entryAddr then (tables, [])
      else
        match stateTableEntry rom table (ngProgramRomRead32 rom entryAddr) with
        | .skip => continueWith tables []
        | .chain addr =>
            if addr ∈ tables then continueWith tables []
            else if table.maxTables.toNat ≤ tables.length then (tables, [.truncate])
            else continueWith (tables ++ [addr]) []
        | .code addr => continueWith tables [.add rom addr]
        | .stop => (tables, [])

/-- The outer loop; each turn takes one table, and there are at most `max_tables`. -/
def stateTableWalk (rom : NgProgramRom) (table : NgGameConfigStateTable) :
    Nat → Nat → List (BitVec 32) → List DiscoveryCall
  | 0, _, _ => []
  | turns + 1, head, tables =>
      match tables[head]? with
      | none => []
      | some entryAddr =>
          let row := stateTableEntries rom table table.maxEntries.toNat entryAddr tables
          row.2 ++ stateTableWalk rom table turns (head + 1) row.1

section Alloc
-- Whether `calloc` succeeds, given the number of elements and their size.
variable (calloc : Nat → Nat → Bool)

-- `add_state_table_targets`
def addStateTableTargets (rom : NgProgramRom) (table : NgGameConfigStateTable) :
    List DiscoveryCall :=
  if table.stride = 0 ∨ table.maxTables = 0 ∨ table.maxEntries = 0 ∨
      !stateTableLongwordInTable rom table table.root then []
  else if !calloc table.maxTables.toNat 4 then [.truncate]
  else stateTableWalk rom table table.maxTables.toNat 0 [table.root]

-- `add_state_table_targets_with_scans`
def addStateTableTargetsWithScans (rom : NgProgramRom) (table : NgGameConfigStateTable) :
    List DiscoveryCall :=
  if table.scans = [] then addStateTableTargets calloc rom table
  else
    table.scans.flatMap fun scan =>
      match scan.kind with
      | .bankAll => forBanks rom fun bankRom => addStateTableTargets calloc bankRom table
      | .bankOne =>
          if ngProgramRomBankIsConfigured rom scan.bankId then
            addStateTableTargets calloc (ngProgramRomSelectBank rom scan.bankId) table
          else []
      | _ => addStateTableTargets calloc rom table

end Alloc

end NeoRecomp
