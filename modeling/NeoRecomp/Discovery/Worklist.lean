import NeoRecomp.Discovery.Scan

/-!
# The discovery worklist

`ng_function_discover_from_game_config_limited`: the seeds and the configured tables give the first
candidates, and every scan root is then scanned once.  When no root is left, the script streams are
searched once, and what they add is scanned too.
-/

namespace NeoRecomp

/-! ## Views and scripts -/

-- `discovery_entry_rom_view`
def discoveryEntryRomView (rom : NgProgramRom) (d : NgFunctionDiscovery) (index : Nat) :
    NgProgramRom :=
  let bank := ngFunctionDiscoveryBankAt d index
  if bank ≠ ngFunctionDiscoveryBankNone then ngProgramRomSelectBank rom bank else rom

/-- The rows a pass over the record visits: the scan roots, or all rows if there are none. -/
def scannedRows (d : NgFunctionDiscovery) : List (Nat × Candidate) :=
  let rows := (List.range d.count).zip d.candidates
  if d.candidates.any (·.isScanRoot) then rows.filter (·.2.isScanRoot) else rows

-- `script_interpreter_info_same`
def scriptInterpreterInfoSame (a b : NgScriptInterpreterInfo) : Bool :=
  a.valid == b.valid && a.slot == b.slot && a.streamReg == b.streamReg &&
    a.commandCount == b.commandCount && a.commandMask == b.commandMask

/-- The loop of `collect_script_interpreters`; `infos` has room for 16. -/
def collectInfos (rom : NgProgramRom) (d : NgFunctionDiscovery) :
    List (Nat × Candidate) → List NgScriptInterpreterInfo → List NgScriptInterpreterInfo
  | [], infos => infos
  | row :: rows, infos =>
      match analyzeScriptInterpreter (discoveryEntryRomView rom d row.1) row.2.addr with
      | none => collectInfos rom d rows infos
      | some info =>
          if infos.any (scriptInterpreterInfoSame · info) then collectInfos rom d rows infos
          else if 16 ≤ infos.length then infos
          else collectInfos rom d rows (infos ++ [info])

-- `collect_script_interpreters`
def collectScriptInterpreters (rom : NgProgramRom) (d : NgFunctionDiscovery) :
    List NgScriptInterpreterInfo :=
  collectInfos rom d (scannedRows d) []

/-- One iteration of `add_script_stream_callbacks_from_discovery`, at a row of the record as it
stands there. -/
def scriptPassRow (rom : NgProgramRom) (infos : List NgScriptInterpreterInfo)
    (haveScanRoots : Bool) (d : NgFunctionDiscovery) (index : Nat) : List DiscoveryCall :=
  match d.candidates[index]? with
  | none => []
  | some c =>
      if haveScanRoots && !c.isScanRoot then []
      else
        addScriptStreamCallbacksFromSlotScan (discoveryEntryRomView rom d index) infos c.addr

/-- The loop of `add_script_stream_callbacks_from_discovery`, where `discovery` and `out` are one
record: rows added on the way are visited too.  The turns left are those up to its capacity. -/
def scriptPass (rom : NgProgramRom) (infos : List NgScriptInterpreterInfo) (haveScanRoots : Bool) :
    Nat → Nat → NgFunctionDiscovery → List DiscoveryCall
  | 0, _, _ => []
  | turns + 1, index, d =>
      if d.count ≤ index then []
      else
        let calls := scriptPassRow rom infos haveScanRoots d index
        calls ++ scriptPass rom infos haveScanRoots turns (index + 1) (d.run calls)

-- `add_script_stream_callbacks_from_discovery`
def addScriptStreamCallbacksFromDiscovery (rom : NgProgramRom) (d : NgFunctionDiscovery) :
    List DiscoveryCall :=
  let infos := collectScriptInterpreters rom d
  if infos = [] then []
  else
    scriptPass rom infos (d.candidates.any (·.isScanRoot)) ngFunctionDiscoveryMaxCandidates 0 d

/-! ## Seeding -/

section Alloc
-- Whether `calloc` succeeds, given the number of elements and their size.
variable (calloc : Nat → Nat → Bool)

/-- The calls before the worklist is entered, in order. -/
def seedingCalls (rom : NgProgramRom) (seeds : List (BitVec 32)) (config : NgGameConfig) :
    List DiscoveryCall :=
  seeds.map (.add rom) ++ config.entry.map (.add rom) ++ config.extra.map (.add rom) ++
    config.stateTables.flatMap (addStateTableTargetsWithScans calloc rom) ++
    config.recordFormats.flatMap (addRecordFormatTargets rom) ++
    config.routineTables.flatMap (addRoutineTableTargets rom) ++
    config.jumpTables.flatMap (addConfiguredJumpTable rom)

/-- The record as `ng_function_discovery_init` and `..._set_max_candidates` leave it. -/
def emptyDiscovery (maxCandidates : BitVec 32) : NgFunctionDiscovery :=
  ngFunctionDiscoverySetMaxCandidates ngFunctionDiscoveryInit maxCandidates

/-! ## The loop -/

/-- The record with the local variables of the loop. -/
structure Worklist where
  discovery : NgFunctionDiscovery
  scanned : Nat → Bool := fun _ => false
  cursor : Nat := 0
  scriptStreamPassDone : Bool := false

/-- `scan_roots[i] && !scanned[i]`. -/
def Worklist.pending (w : Worklist) (i : Nat) : Bool :=
  match w.discovery.candidates[i]? with
  | some c => c.isScanRoot && !w.scanned i
  | none => false

/-- The search for the next root: the index found and the new cursor.  Behind the cursor it looks
again, since labels there may have been promoted to roots. -/
def Worklist.nextRoot (w : Worklist) : Option Nat × Nat :=
  let ahead := List.range' w.cursor (w.discovery.count - w.cursor)
  match ahead.find? w.pending with
  | some i => (some i, i + 1)
  | none =>
      let cursor := max w.cursor w.discovery.count
      ((List.range (min cursor w.discovery.count)).find? w.pending, cursor)

/-- One turn of the loop: the calls it makes, the state after them and whether the loop goes on. -/
structure WorklistTurn where
  calls : List DiscoveryCall
  next : Worklist
  continues : Bool

/-- The turn that scans row `i`. -/
def Worklist.scanRow (rom : NgProgramRom) (config : NgGameConfig) (w : Worklist) (i cursor : Nat)
    (c : Candidate) : WorklistTurn :=
  let calls := scanFunctionCandidate (discoveryEntryRomView rom w.discovery i) c.addr config
  { calls
    next :=
      { w with discovery := w.discovery.run calls, scanned := Function.update w.scanned i true,
               cursor }
    continues := true }

/-- The turn that finds no root left.  The loop goes on only if the script pass added rows. -/
def Worklist.scriptTurn (rom : NgProgramRom) (w : Worklist) (cursor : Nat) : WorklistTurn :=
  if w.scriptStreamPassDone then { calls := [], next := { w with cursor }, continues := false }
  else
    let calls := addScriptStreamCallbacksFromDiscovery rom w.discovery
    let d := w.discovery.run calls
    if d.count ≠ w.discovery.count then
      { calls, next := { w with discovery := d, cursor := 0, scriptStreamPassDone := true }
        continues := true }
    else
      { calls, next := { w with discovery := d, cursor, scriptStreamPassDone := true }
        continues := false }

def Worklist.turn (rom : NgProgramRom) (config : NgGameConfig) (w : Worklist) : WorklistTurn :=
  match w.nextRoot with
  | (some i, cursor) =>
      match w.discovery.candidates[i]? with
      | some c => w.scanRow rom config i cursor c
      | none => w.scriptTurn rom cursor
  | (none, cursor) => w.scriptTurn rom cursor

/-- The loop with the turns left; `none` says that there were not enough of them. -/
def Worklist.loop (rom : NgProgramRom) (config : NgGameConfig) :
    Nat → Worklist → Option NgFunctionDiscovery
  | 0, _ => none
  | turns + 1, w =>
      let t := w.turn rom config
      if t.continues then loop rom config turns t.next else some t.next.discovery

/-- Every turn but two scans a row for the first time. -/
def worklistTurns : Nat := ngFunctionDiscoveryMaxCandidates + 2

/-- `ng_function_discover_from_game_config_limited`: the returned flag and the record left in
`*out`. -/
def ngFunctionDiscoverFromGameConfigLimited (rom : NgProgramRom) (seeds : List (BitVec 32))
    (config : NgGameConfig) (maxCandidates : BitVec 32) : Option (Bool × NgFunctionDiscovery) :=
  let d := (emptyDiscovery maxCandidates).run (seedingCalls calloc rom seeds config)
  if d.count = 0 ∨ !calloc d.capacity 1 then some (false, d)
  else (Worklist.loop rom config worklistTurns { discovery := d }).map (true, ·)

end Alloc

end NeoRecomp
