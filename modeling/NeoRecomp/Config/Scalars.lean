import NeoRecomp.Config.Text

/-!
# The values of a configuration section

What the loader stores for one line of a section: a scalar under the first of the section's keys
that the line starts with, or the values of an array line.
-/

namespace NeoRecomp

/-! ## Records with what only the loader uses -/

/-- `NgGameConfigBank`. -/
structure NgGameConfigBank where
  id : BitVec 32
  offset : BitVec 32 := 0
  size : BitVec 32 := 0
  hasOffset : Bool := false
  hasSize : Bool := false
  deriving DecidableEq

structure NamedRecordFormat extends NgGameConfigRecordFormat where
  name : List Char := []
  deriving DecidableEq

structure NamedRoutineTable extends NgGameConfigRoutineTable where
  name : List Char := []
  deriving DecidableEq

/-- The program map of `NgGameConfig`. -/
structure ProgramMap where
  fixedBase : BitVec 32 := 0
  fixedSize : BitVec 32 := 0
  bankWindowBase : BitVec 32 := 0
  bankWindowSize : BitVec 32 := 0
  deriving DecidableEq

-- `NG_GAME_CONFIG_MAX_RECORD_NAME`
def ngGameConfigMaxRecordName : Nat := 64

/-! ## Scalars -/

/-- The keys of a section in the order they are tried, each with what it does to a record. -/
abbrev ScalarKeys (α : Type) : Type := List (String × (List Char → α → α))

/-- The keys of a scalar parser: the first one the line starts with decides. -/
def ScalarKeys.parse {α : Type} (keys : ScalarKeys α) (line : List Char) (a : α) : α :=
  match keys with
  | [] => a
  | (key, set) :: keys =>
    match keyValueStart line key with
    | some value => set value a
    | none => ScalarKeys.parse keys line a

variable {α : Type}

/-- `(uint32_t)strtoul(value, NULL, 0)` into a field. -/
def number (set : BitVec 32 → α → α) : List Char → α → α := fun value => set (strtoul32 value)

/-- `parse_range_value` into two fields, which keep their values when there is no range. -/
def range (set : BitVec 32 → BitVec 32 → α → α) : List Char → α → α := fun value a =>
  (parseRangeValue value).elim a fun bounds => set bounds.1 bounds.2 a

/-- `parse_jump_table_format`. -/
def parseJumpTableFormat (value : List Char) : NgGameConfigJumpTableFormat :=
  let token := formatToken value
  if token = "pcrel16".toList ∨ token = "pcrel_w".toList then .pcrel16
  else if token = "bra16".toList ∨ token = "bra_w".toList then .bra16
  else if token = "bra8".toList ∨ token = "bra_s".toList then .bra8
  else if token = "script_predicate".toList ∨ token = "script_predicates".toList then
    .scriptPredicate
  else if token = "tagged_abs32".toList ∨ token = "tagged_long".toList then .taggedAbs32
  else if token = "inline_callback".toList ∨ token = "script_callback".toList then .inlineCallback
  else .abs32

/-- `parse_jump_table_scalar`. -/
def parseJumpTableScalar : ScalarKeys NgGameConfigJumpTable :=
  [("start", number fun n t => { t with start := n }),
   ("end", number fun n t => { t with stop := n }),
   ("stride", number fun n t => { t with stride := n }),
   ("match", number fun n t => { t with tag := n }),
   ("target_offset", number fun n t => { t with targetOffset := n }),
   ("target_start", number fun n t => { t with targetStart := n }),
   ("target_end", number fun n t => { t with targetEnd := n }),
   ("format", fun value t => { t with format := parseJumpTableFormat value })]

/-- `parse_table_call_format`: another word changes nothing. -/
def parseTableCallFormat (value : List Char) (call : NgGameConfigTableCall) :
    NgGameConfigTableCall :=
  let token := formatToken value
  if token = "abs32_sparse".toList ∨ token = "abs32".toList then
    { call with format := .abs32Sparse }
  else if token = "tagged_abs32".toList ∨ token = "tagged_long".toList then
    { call with format := .taggedAbs32 }
  else if token = "record_abs32".toList ∨ token = "record_long".toList then
    { call with format := .recordAbs32 }
  else call

/-- `parse_table_call_scalar`. -/
def parseTableCallScalar : ScalarKeys NgGameConfigTableCall :=
  [("helper", number fun n c => { c with helper := n }),
   ("table_start", number fun n c => { c with tableStart := n }),
   ("table_end", number fun n c => { c with tableEnd := n }),
   ("max_entries", number fun n c => { c with maxEntries := n }),
   ("sentinel", number fun n c => { c with sentinel := n }),
   ("stride", number fun n c => { c with stride := n }),
   ("match", number fun n c => { c with tag := n }),
   ("target_offset", number fun n c => { c with targetOffset := n }),
   ("target_start", number fun n c => { c with targetStart := n }),
   ("target_end", number fun n c => { c with targetEnd := n }),
   ("table_reg", fun value c => { c with tableReg := parseAregValue value }),
   ("format", parseTableCallFormat)]

/-- `parse_state_table_scalar`. -/
def parseStateTableScalar : ScalarKeys NgGameConfigStateTable :=
  [("root", number fun n t => { t with root := n }),
   ("table_start", number fun n t => { t with tableStart := n }),
   ("table_end", number fun n t => { t with tableEnd := n }),
   ("stride", number fun n t => { t with stride := n }),
   ("sentinel", number fun n t => { t with sentinel := n }),
   ("follow_chain", fun value t => { t with followChain := parseBoolValue value }),
   ("skip_invalid_targets", fun value t => { t with skipInvalidTargets := parseBoolValue value }),
   ("target", range fun lo hi t => { t with targetStart := lo, targetEnd := hi }),
   ("target_start", number fun n t => { t with targetStart := n }),
   ("target_end", number fun n t => { t with targetEnd := n }),
   ("max_tables", number fun n t => { t with maxTables := n }),
   ("max_entries", number fun n t => { t with maxEntries := n })]

/-- `parse_record_format_scalar`. -/
def parseRecordFormatScalar : ScalarKeys NamedRecordFormat :=
  let clusterMin := number fun n (r : NamedRecordFormat) => { r with clusterMinEntries := n }
  let clusterMax := number fun n (r : NamedRecordFormat) => { r with clusterMaxEntries := n }
  [("name", fun value r => { r with name := parseStringScalar value ngGameConfigMaxRecordName }),
   ("tag_offset", number fun n r => { r with tagOffset := n }),
   ("tag", number fun n r => { r with tag := n, hasTag := true }),
   ("width", number fun n r => { r with width := n }),
   ("stride", number fun n r => { r with stride := n }),
   ("sentinel", number fun n r => { r with sentinel := n, hasSentinel := true }),
   ("cluster_min_entries", clusterMin),
   ("min_cluster_entries", clusterMin),
   ("cluster_max_entries", clusterMax),
   ("max_cluster_entries", clusterMax),
   ("cluster", fun value r =>
      if parseBoolValue value ∧ r.clusterMinEntries = 0 then { r with clusterMinEntries := 2 }
      else r),
   ("target", range fun lo hi r => { r with targetStart := lo, targetEnd := hi }),
   ("target_start", number fun n r => { r with targetStart := n }),
   ("target_end", number fun n r => { r with targetEnd := n })]

/-- `parse_routine_table_scalar`. -/
def parseRoutineTableScalar : ScalarKeys NamedRoutineTable :=
  let fallthrough := number fun n (t : NamedRoutineTable) =>
    { t with fallthroughTarget := n, hasFallthroughTarget := true }
  [("name", fun value t => { t with name := parseStringScalar value ngGameConfigMaxRecordName }),
   ("stride", number fun n t => { t with stride := n }),
   ("width", number fun n t => { t with width := n }),
   ("min_instructions", number fun n t => { t with minInstructions := n }),
   ("fallthrough_target", fallthrough),
   ("shared_tail", fallthrough)]

/-- `parse_dispatcher_scalar`; the only kind there is needs no storing. -/
def parseDispatcherScalar : ScalarKeys NgGameConfigDispatcher :=
  [("kind", fun _ d => d),
   ("state_slot", number fun n d => { d with stateSlot := n, hasStateSlot := true })]

/-- `parse_bank_scalar`. -/
def parseBankScalar : ScalarKeys NgGameConfigBank :=
  let offset := number fun n (b : NgGameConfigBank) => { b with offset := n, hasOffset := true }
  [("id", number fun n b => { b with id := n }),
   ("offset", offset),
   ("physical_offset", offset),
   ("size", number fun n b => { b with size := n, hasSize := true })]

/-- `parse_program_scalar`, on the map. -/
def parseProgramScalar : ScalarKeys ProgramMap :=
  [("fixed_base", number fun n m => { m with fixedBase := n }),
   ("fixed_size", number fun n m => { m with fixedSize := n }),
   ("bank_window_base", number fun n m => { m with bankWindowBase := n }),
   ("bank_window_size", number fun n m => { m with bankWindowSize := n })]

/-- A key of the section stands on the line. -/
def ScalarKeys.has (keys : ScalarKeys α) (line : List Char) : Bool :=
  keys.any fun key => (keyValueStart line key.1).isSome

/-! ## Scans -/

/-- The range behind `bank:*` or `bank:N`: none, which is the full window, or one after a colon. -/
def scanWindow (rest : List Char) (scan : NgGameConfigRecordScan) :
    Option NgGameConfigRecordScan :=
  match rest with
  | [] => some scan
  | ':' :: range =>
    (parseRangeValue range).map fun bounds => { scan with start := bounds.1, stop := bounds.2 }
  | _ => none

/-- Without the end of a string that is longer than it. -/
def dropSuffix (token suffix : List Char) : List Char × Bool :=
  if suffix.length < token.length ∧ suffix.isSuffixOf token then
    (token.take (token.length - suffix.length), true)
  else (token, false)

/-- Without the start of a string that is longer than it. -/
def dropStart (token start : List Char) : List Char × Bool :=
  if start.length < token.length ∧ start.isPrefixOf token then (token.drop start.length, true)
  else (token, false)

/-- The scan that `append_record_scan_token` appends. -/
def recordScanToken (token : List Char) : Option NgGameConfigRecordScan :=
  let (token, autoStart) := dropStart (token.take 127) "auto:".toList
  let (token, autoEnd) := dropSuffix token ":auto".toList
  let kind (plain auto : NgGameConfigRecordScanKind) : NgGameConfigRecordScan :=
    { kind := if autoStart || autoEnd then auto else plain }
  if token = "fixed".toList then some (kind .fixed .fixedAuto)
  else if token = "fixed:auto".toList then some { kind := .fixedAuto }
  else if "bank:*".toList.isPrefixOf token then
    scanWindow (token.drop 6) (kind .bankAll .bankAllAuto)
  else if "bank:".toList.isPrefixOf token ∧ 5 < token.length then
    match strtoul (token.drop 5) with
    | none => none
    | some (bank, rest) =>
      scanWindow rest { kind .bankOne .bankOneAuto with bankId := BitVec.ofNat 32 bank }
  else
    (parseRangeValue token).map fun bounds =>
      { kind .range .rangeAuto with start := bounds.1, stop := bounds.2 }

/-- The scan that `append_state_table_scan_token` and `append_routine_table_scan_token` append. -/
def tableScanToken (token : List Char) : Option NgGameConfigRecordScan :=
  if token = "fixed".toList then some { kind := .fixed }
  else if token = "bank:*".toList then some { kind := .bankAll }
  else if "bank:".toList.isPrefixOf token ∧ 5 < token.length then
    match strtoul (token.drop 5) with
    | some (bank, []) => some { kind := .bankOne, bankId := BitVec.ofNat 32 bank }
    | _ => none
  else
    (parseRangeValue token).map fun bounds =>
      { kind := .range, start := bounds.1, stop := bounds.2 }

/-! ## Bounded arrays -/

/-- Values one after the other at the end of an array for `cap` of them, and whether one found no
room. -/
def appendBounded {β : Type} (cap : Nat) (items : List β) : List β → List β × Bool
  | [] => (items, false)
  | value :: values =>
    if cap ≤ items.length then (items, true)
    else appendBounded cap (items ++ [value]) values

/-- Scan tokens at the end of an array.  Only a token that is not empty is looked at, and the room
is checked before the token is. -/
def appendScans (cap : Nat) (parse : List Char → Option NgGameConfigRecordScan)
    (scans : List NgGameConfigRecordScan) :
    List (List Char) → List NgGameConfigRecordScan × Bool
  | [] => (scans, false)
  | token :: tokens =>
    if token = [] then appendScans cap parse scans tokens
    else if cap ≤ scans.length then (scans, true)
    else appendScans cap parse (scans ++ (parse token).toList) tokens

end NeoRecomp
