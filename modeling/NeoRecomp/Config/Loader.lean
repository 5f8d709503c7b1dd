import NeoRecomp.Config.Scalars

/-!
# The configuration loader

`ng_game_config_load_into`: a file is read in pieces of at most 511 characters, each piece is taken
for a line, and the files listed under `discovery_files` are loaded on their own and merged.
-/

namespace NeoRecomp

/-! ## The configuration -/

/-- `NgGameConfig` with all that the loader fills in; an array with its count is a list. -/
structure LoadedGameConfig where
  program : ProgramMap := {}
  programMapConfigured : Bool := false
  entry : List (BitVec 32) := []
  extra : List (BitVec 32) := []
  discoveryFiles : List (List Char) := []
  jumpTables : List NgGameConfigJumpTable := []
  tableCalls : List NgGameConfigTableCall := []
  stateTables : List NgGameConfigStateTable := []
  recordFormats : List NamedRecordFormat := []
  routineTables : List NamedRoutineTable := []
  dispatchers : List NgGameConfigDispatcher := []
  banks : List NgGameConfigBank := []
  runtimeDispatch : List (BitVec 32) := []
  truncated : Bool := false
  deriving DecidableEq

/-- `ng_game_config_init`. -/
def ngGameConfigInit : LoadedGameConfig := {}

/-- The part of it that function discovery reads. -/
def LoadedGameConfig.toNgGameConfig (config : LoadedGameConfig) : NgGameConfig where
  entry := config.entry
  extra := config.extra
  jumpTables := config.jumpTables
  tableCalls := config.tableCalls
  stateTables := config.stateTables
  recordFormats := config.recordFormats.map (·.toNgGameConfigRecordFormat)
  routineTables := config.routineTables.map (·.toNgGameConfigRoutineTable)
  dispatchers := config.dispatchers
  runtimeDispatch := config.runtimeDispatch

-- `NG_GAME_CONFIG_MAX_*`
def ngGameConfigMaxFunctions : Nat := 2048
def ngGameConfigMaxDiscoveryFiles : Nat := 32
def ngGameConfigMaxJumpTables : Nat := 128
def ngGameConfigMaxTableCalls : Nat := 64
def ngGameConfigMaxStateTables : Nat := 64
def ngGameConfigMaxRecordFormats : Nat := 64
def ngGameConfigMaxRoutineTables : Nat := 64
def ngGameConfigMaxRecordCallbackOffsets : Nat := 8
def ngGameConfigMaxRecordScans : Nat := 16
def ngGameConfigMaxDispatchers : Nat := 16
def ngGameConfigMaxDispatcherInstallSlots : Nat := 8
def ngGameConfigMaxDispatcherSpawnHelpers : Nat := 16
def ngGameConfigMaxRuntimeDispatches : Nat := 64
def ngGameConfigMaxBanks : Nat := 256
def ngGameConfigMaxPath : Nat := 256

/-! ## The state between two pieces -/

/-- `NgGameConfigSection`. -/
inductive NgGameConfigSection
  | none | game | program | functions | dispatch | jumpTable | tableCall | stateTable
  | recordFormat | routineTable | dispatcher | bank
  deriving DecidableEq

/-- `NgGameConfigArray`. -/
inductive NgGameConfigArray
  | none | entry | extra | discoveryFiles | runtimeDispatch | recordCallbackOffsets | recordScan
  | stateTableScan | routineTableScan | dispatcherInstallSlots | dispatcherSpawnHelpers
  deriving DecidableEq

/-- The variables of the reading loop.  Only the pointer of the section is ever not null, and then
it is to the last element of its array: `current` says whether it is. -/
structure LoaderState where
  section_ : NgGameConfigSection := .none
  array : NgGameConfigArray := .none
  current : Bool := false
  discoveryFiles : List (List Char) := []
  config : LoadedGameConfig

namespace LoaderState

/-- More of what was cut off. -/
def truncate (st : LoaderState) (cut : Bool) : LoaderState :=
  { st with config := { st.config with truncated := st.config.truncated || cut } }

/-! ## Section headers -/

/-- A record at the end of an array with room for `cap`, and whether there was room. -/
def pushBounded {β : Type} (cap : Nat) (items : List β) (item : β) : List β × Bool :=
  if cap ≤ items.length then (items, false) else (items ++ [item], true)

/-- A section with a header in single brackets, or with one that is not known. -/
def enter (st : LoaderState) (section_ : NgGameConfigSection) : LoaderState :=
  { st with section_ := section_, array := .none, current := false }

/-- A section of records: `config` is what the append of a new record left, `room` whether there
was room for it. -/
def enterRecord (st : LoaderState) (section_ : NgGameConfigSection) (config : LoadedGameConfig)
    (room : Bool) : LoaderState :=
  { st with
    section_ := section_
    array := .none
    current := room
    config := { config with truncated := config.truncated || !room } }

/-- `append_jump_table` at its header. -/
def enterJumpTable (st : LoaderState) : LoaderState :=
  let push := pushBounded ngGameConfigMaxJumpTables st.config.jumpTables
    { start := 0, stop := 0, stride := 4, format := .abs32 }
  st.enterRecord .jumpTable { st.config with jumpTables := push.1 } push.2

/-- `append_table_call` at its header. -/
def enterTableCall (st : LoaderState) : LoaderState :=
  let push := pushBounded ngGameConfigMaxTableCalls st.config.tableCalls
    { helper := 0, maxEntries := 16, sentinel := 0xFFFFFFFF, stride := 4, tableReg := 0,
      format := .abs32Sparse }
  st.enterRecord .tableCall { st.config with tableCalls := push.1 } push.2

/-- `append_state_table` at its header. -/
def enterStateTable (st : LoaderState) : LoaderState :=
  let push := pushBounded ngGameConfigMaxStateTables st.config.stateTables
    { root := 0, tableStart := 0, tableEnd := 0, stride := 4, sentinel := 0xFFFFFFFF,
      maxTables := 64, maxEntries := 1024 }
  st.enterRecord .stateTable { st.config with stateTables := push.1 } push.2

/-- `append_record_format` at its header. -/
def enterRecordFormat (st : LoaderState) : LoaderState :=
  let push := pushBounded ngGameConfigMaxRecordFormats st.config.recordFormats
    { width := 0, callbackOffsets := [], sentinel := 0xFFFFFFFF }
  st.enterRecord .recordFormat { st.config with recordFormats := push.1 } push.2

/-- `append_routine_table` at its header. -/
def enterRoutineTable (st : LoaderState) : LoaderState :=
  let push := pushBounded ngGameConfigMaxRoutineTables st.config.routineTables
    { stride := 0, minInstructions := 1 }
  st.enterRecord .routineTable { st.config with routineTables := push.1 } push.2

/-- `append_dispatcher` at its header. -/
def enterDispatcher (st : LoaderState) : LoaderState :=
  let push := pushBounded ngGameConfigMaxDispatchers st.config.dispatchers {}
  st.enterRecord .dispatcher { st.config with dispatchers := push.1 } push.2

/-- `append_bank` at its header: a bank is numbered by those before it. -/
def enterBank (st : LoaderState) : LoaderState :=
  let push := pushBounded ngGameConfigMaxBanks st.config.banks
    { id := BitVec.ofNat 32 st.config.banks.length }
  st.enterRecord .bank { st.config with banks := push.1 } push.2

/-- A line that starts with a bracket. -/
def readHeader (st : LoaderState) (line : List Char) : LoaderState :=
  let is (header : String) : Bool := header.toList.isPrefixOf line
  if is "[[jump_table]]" then st.enterJumpTable
  else if is "[[table_call]]" then st.enterTableCall
  else if is "[[state_table]]" then st.enterStateTable
  else if is "[[record_format]]" then st.enterRecordFormat
  else if is "[[routine_table]]" then st.enterRoutineTable
  else if is "[[dispatcher]]" then st.enterDispatcher
  else if is "[[bank]]" then st.enterBank
  else if is "[functions]" then st.enter .functions
  else if is "[program]" then st.enter .program
  else if is "[dispatch]" then st.enter .dispatch
  else if is "[game]" then st.enter .game
  else st.enter .none

/-! ## Arrays -/

-- A change of the record that the current pointer is to.
def modifyCurrent {β : Type} (st : LoaderState) (items : List β) (f : β → β) : List β :=
  if st.current then items.modifyLast f else items

/-- The record that the current pointer is to. -/
def currentOf {β : Type} (st : LoaderState) (items : List β) : Option β :=
  if st.current then items.getLast? else none

/-- The discovery files that find room, both among those of this file and in the configuration;
an empty name is passed over. -/
def appendDiscoveryFile (st : LoaderState) (value : List Char) : LoaderState :=
  if value = [] then st
  else if ngGameConfigMaxDiscoveryFiles ≤ st.discoveryFiles.length ∨
      ngGameConfigMaxDiscoveryFiles ≤ st.config.discoveryFiles.length then st.truncate true
  else
    let name := value.take (ngGameConfigMaxPath - 1)
    { st with
      discoveryFiles := st.discoveryFiles ++ [name]
      config := { st.config with discoveryFiles := st.config.discoveryFiles ++ [name] } }

/-- The values of a line of the open array. -/
def readArrayValues (st : LoaderState) (line : List Char) : LoaderState :=
  let config := st.config
  match st.array with
  | .none => st
  | .entry =>
    let items := appendBounded ngGameConfigMaxFunctions config.entry (numbersIn line)
    { st with config := { config with entry := items.1 } }.truncate items.2
  | .extra =>
    let items := appendBounded ngGameConfigMaxFunctions config.extra (numbersIn line)
    { st with config := { config with extra := items.1 } }.truncate items.2
  | .runtimeDispatch =>
    let items :=
      appendBounded ngGameConfigMaxRuntimeDispatches config.runtimeDispatch (numbersIn line)
    { st with config := { config with runtimeDispatch := items.1 } }.truncate items.2
  | .discoveryFiles => (stringsIn line).foldl appendDiscoveryFile st
  | .recordCallbackOffsets =>
    match st.currentOf config.recordFormats with
    | .none => st
    | some record =>
      let items := appendBounded ngGameConfigMaxRecordCallbackOffsets record.callbackOffsets
        (numbersIn (afterEquals line))
      let records := st.modifyCurrent config.recordFormats fun r =>
        { r with callbackOffsets := items.1 }
      { st with config := { config with recordFormats := records } }.truncate items.2
  | .recordScan =>
    match st.currentOf config.recordFormats with
    | .none => st
    | some record =>
      let items := appendScans ngGameConfigMaxRecordScans recordScanToken record.scans
        (stringsIn (afterEquals line))
      let records := st.modifyCurrent config.recordFormats fun r => { r with scans := items.1 }
      { st with config := { config with recordFormats := records } }.truncate items.2
  | .stateTableScan =>
    match st.currentOf config.stateTables with
    | .none => st
    | some table =>
      let items := appendScans ngGameConfigMaxRecordScans tableScanToken table.scans
        (stringsIn (afterEquals line))
      let tables := st.modifyCurrent config.stateTables fun t => { t with scans := items.1 }
      { st with config := { config with stateTables := tables } }.truncate items.2
  | .routineTableScan =>
    match st.currentOf config.routineTables with
    | .none => st
    | some table =>
      let items := appendScans ngGameConfigMaxRecordScans tableScanToken table.scans
        (stringsIn (afterEquals line))
      let tables := st.modifyCurrent config.routineTables fun t => { t with scans := items.1 }
      { st with config := { config with routineTables := tables } }.truncate items.2
  | .dispatcherInstallSlots =>
    match st.currentOf config.dispatchers with
    | .none => st
    | some dispatcher =>
      let items := appendBounded ngGameConfigMaxDispatcherInstallSlots dispatcher.installSlots
        (numbersIn (afterEquals line))
      let dispatchers := st.modifyCurrent config.dispatchers fun d =>
        { d with installSlots := items.1 }
      { st with config := { config with dispatchers := dispatchers } }.truncate items.2
  | .dispatcherSpawnHelpers =>
    match st.currentOf config.dispatchers with
    | .none => st
    | some dispatcher =>
      let items := appendBounded ngGameConfigMaxDispatcherSpawnHelpers dispatcher.spawnHelpers
        (numbersIn (afterEquals line))
      let dispatchers := st.modifyCurrent config.dispatchers fun d =>
        { d with spawnHelpers := items.1 }
      { st with config := { config with dispatchers := dispatchers } }.truncate items.2

/-- A line of the open array; one with a closing bracket ends it. -/
def readArrayLine (st : LoaderState) (line : List Char) : LoaderState :=
  let st := st.readArrayValues line
  if ']' ∈ line then { st with array := .none } else st

/-- The array that a line opens, by the keys of its section. -/
def openArray (keys : List (String × NgGameConfigArray)) (line : List Char) :
    Option NgGameConfigArray :=
  (keys.find? fun key => keyStartsArray line key.1).map Prod.snd

/-! ## Lines -/

/-- A line of a section without scalars: it may open an array, and the open array reads it. -/
def readArraySection (st : LoaderState) (keys : List (String × NgGameConfigArray))
    (line : List Char) : LoaderState :=
  { st with array := (openArray keys line).getD st.array }.readArrayLine line

/-- A line of a section of records with arrays: an open array takes it, else it opens an array or
holds a scalar. -/
def readRecordSection (st : LoaderState) (keys : List (String × NgGameConfigArray))
    (scalar : LoaderState → LoadedGameConfig) (line : List Char) : LoaderState :=
  if st.array ∈ keys.map Prod.snd then st.readArrayLine line
  else
    match openArray keys line with
    | some array => { st with array := array }.readArrayLine line
    | .none => { st with config := scalar st }

/-- A line of a section, by its section. -/
def readSectionLine (st : LoaderState) (line : List Char) : LoaderState :=
  let config := st.config
  match st.section_ with
  | .none => st
  | .functions => st.readArraySection [("entry", .entry), ("extra", .extra)] line
  | .game => st.readArraySection [("discovery_files", .discoveryFiles)] line
  | .dispatch => st.readArraySection [("runtime", .runtimeDispatch)] line
  | .program =>
    { st with
      config :=
        { config with
          program := parseProgramScalar.parse line config.program
          programMapConfigured := config.programMapConfigured || parseProgramScalar.has line } }
  | .jumpTable =>
    { st with
      config :=
        { config with
          jumpTables := st.modifyCurrent config.jumpTables (parseJumpTableScalar.parse line) } }
  | .tableCall =>
    { st with
      config :=
        { config with
          tableCalls := st.modifyCurrent config.tableCalls (parseTableCallScalar.parse line) } }
  | .bank =>
    { st with
      config :=
        { config with
          banks := st.modifyCurrent config.banks (parseBankScalar.parse line) } }
  | .stateTable =>
    st.readRecordSection [("scan", .stateTableScan)] (fun st =>
      { config with
        stateTables :=
          st.modifyCurrent config.stateTables (parseStateTableScalar.parse line) }) line
  | .routineTable =>
    st.readRecordSection [("scan", .routineTableScan)] (fun st =>
      { config with
        routineTables :=
          st.modifyCurrent config.routineTables (parseRoutineTableScalar.parse line) }) line
  | .dispatcher =>
    st.readRecordSection
      [("install_slots", .dispatcherInstallSlots), ("spawn_helpers", .dispatcherSpawnHelpers)]
      (fun st =>
        { config with
          dispatchers :=
            st.modifyCurrent config.dispatchers (parseDispatcherScalar.parse line) }) line
  | .recordFormat =>
    st.readRecordSection
      [("callback_offsets", .recordCallbackOffsets), ("scan", .recordScan)]
      (fun st =>
        { config with
          recordFormats :=
            st.modifyCurrent config.recordFormats (parseRecordFormatScalar.parse line) }) line

/-- One turn of the reading loop. -/
def readPiece (st : LoaderState) (piece : List Char) : LoaderState :=
  match lineText piece with
  | [] => st
  | '[' :: line => st.readHeader ('[' :: line)
  | line => st.readSectionLine line

/-- The reading loop over a file. -/
def readFile (st : LoaderState) (file : List Char) : LoaderState :=
  (readLines file).foldl readPiece st

end LoaderState

/-! ## Merging -/

/-- `append_config_values`: the values of `src` one after the other at the end of those of `dst`,
and its program map, if it has one, in place of the one there. -/
def appendConfigValues (dst src : LoadedGameConfig) : LoadedGameConfig :=
  let entry := appendBounded ngGameConfigMaxFunctions dst.entry src.entry
  let extra := appendBounded ngGameConfigMaxFunctions dst.extra src.extra
  let runtimeDispatch :=
    appendBounded ngGameConfigMaxRuntimeDispatches dst.runtimeDispatch src.runtimeDispatch
  let jumpTables := appendBounded ngGameConfigMaxJumpTables dst.jumpTables src.jumpTables
  let tableCalls := appendBounded ngGameConfigMaxTableCalls dst.tableCalls src.tableCalls
  let stateTables := appendBounded ngGameConfigMaxStateTables dst.stateTables src.stateTables
  let recordFormats :=
    appendBounded ngGameConfigMaxRecordFormats dst.recordFormats src.recordFormats
  let routineTables :=
    appendBounded ngGameConfigMaxRoutineTables dst.routineTables src.routineTables
  let dispatchers := appendBounded ngGameConfigMaxDispatchers dst.dispatchers src.dispatchers
  let banks := appendBounded ngGameConfigMaxBanks dst.banks src.banks
  { program := if src.programMapConfigured then src.program else dst.program
    programMapConfigured := dst.programMapConfigured || src.programMapConfigured
    entry := entry.1
    extra := extra.1
    discoveryFiles := dst.discoveryFiles
    jumpTables := jumpTables.1
    tableCalls := tableCalls.1
    stateTables := stateTables.1
    recordFormats := recordFormats.1
    routineTables := routineTables.1
    dispatchers := dispatchers.1
    banks := banks.1
    runtimeDispatch := runtimeDispatch.1
    truncated :=
      dst.truncated || entry.2 || extra.2 || runtimeDispatch.2 || jumpTables.2 || tableCalls.2 ||
        stateTables.2 || recordFormats.2 || routineTables.2 || dispatchers.2 || banks.2 ||
        src.truncated }

/-! ## Paths -/

-- `is_path_separator`
def isPathSeparator (c : Char) : Bool := c = '/' || c = '\\'

/-- `is_absolute_path`. -/
def isAbsolutePath (path : List Char) : Bool :=
  match path with
  | [] => false
  | c :: rest => isPathSeparator c || isLetter c && rest.head? = some ':'

/-- `dirname_of` into a buffer of `NG_GAME_CONFIG_MAX_PATH`. -/
def dirnameOf (path : List Char) : List Char :=
  let afterLast := (path.reverse.takeWhile (!isPathSeparator ·)).length
  if afterLast = path.length then ['.']
  else
    -- Where the last separator stands.
    let len := path.length - afterLast - 1
    let len :=
      if len = 0 then 1
      else if len = 2 ∧ path[1]? = some ':' then 3
      else len
    path.take (min len (ngGameConfigMaxPath - 1))

/-- `join_path` into a buffer of `NG_GAME_CONFIG_MAX_PATH`. -/
def joinPath (base path : List Char) : List Char :=
  let joined :=
    if path = [] then []
    else if isAbsolutePath path ∨ base = [] ∨ base = ['.'] then path
    else if (base.getLast?.map isPathSeparator).getD false then base ++ path
    else base ++ (if '\\' ∈ base then '\\' else '/') :: path
  joined.take (ngGameConfigMaxPath - 1)

/-! ## Files -/

/-- `ng_game_config_load_into` with the depths still allowed: `files` gives the contents of the
files that can be opened, which are then read without an error. -/
def ngGameConfigLoadInto (files : List Char → Option (List Char)) :
    Nat → List Char → LoadedGameConfig → Option LoadedGameConfig
  | 0, _, _ => none
  | depths + 1, path, config =>
    match files path with
    | none => none
    | some file =>
      let st := LoaderState.readFile { config := config } file
      st.discoveryFiles.foldl (fun loaded name => loaded.bind fun config =>
        (ngGameConfigLoadInto files depths (joinPath (dirnameOf path) name) ngGameConfigInit).map
          (appendConfigValues config)) (some st.config)

/-- `ng_game_config_load`; depths 0 to 8 are allowed. -/
def ngGameConfigLoad (files : List Char → Option (List Char)) (path : List Char) :
    Option LoadedGameConfig :=
  ngGameConfigLoadInto files 9 path ngGameConfigInit

end NeoRecomp
