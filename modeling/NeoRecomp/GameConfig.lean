import Mathlib.Data.BitVec

/-!
# Game configuration

The part of `NgGameConfig` that function discovery and the dispatch audit read.  An array with its
count is a list.  A `NULL` config and one without rows take the same branches everywhere, so both
are the empty record.
-/

namespace NeoRecomp

/-- `NgGameConfigJumpTableFormat`. -/
inductive NgGameConfigJumpTableFormat
  | abs32 | pcrel16 | bra16 | bra8 | scriptPredicate | taggedAbs32 | inlineCallback
  deriving DecidableEq, Repr

/-- `NgGameConfigJumpTable`. -/
structure NgGameConfigJumpTable where
  start : BitVec 32
  stop : BitVec 32
  stride : BitVec 32
  tag : BitVec 32 := 0
  targetOffset : BitVec 32 := 0
  targetStart : BitVec 32 := 0
  targetEnd : BitVec 32 := 0
  format : NgGameConfigJumpTableFormat
  deriving DecidableEq, Repr

/-- `NgGameConfigTableCallFormat`. -/
inductive NgGameConfigTableCallFormat
  | abs32Sparse | taggedAbs32 | recordAbs32
  deriving DecidableEq, Repr

/-- `NgGameConfigTableCall`. -/
structure NgGameConfigTableCall where
  helper : BitVec 32
  tableStart : BitVec 32 := 0
  tableEnd : BitVec 32 := 0
  maxEntries : BitVec 32 := 0
  sentinel : BitVec 32 := 0
  stride : BitVec 32 := 0
  tag : BitVec 32 := 0
  targetOffset : BitVec 32 := 0
  targetStart : BitVec 32 := 0
  targetEnd : BitVec 32 := 0
  tableReg : BitVec 8
  format : NgGameConfigTableCallFormat
  deriving DecidableEq, Repr

/-- `NgGameConfigRecordScanKind`. -/
inductive NgGameConfigRecordScanKind
  | fixed | bankAll | bankOne | range | fixedAuto | bankAllAuto | bankOneAuto | rangeAuto
  deriving DecidableEq, Repr

/-- `NgGameConfigRecordScan`. -/
structure NgGameConfigRecordScan where
  kind : NgGameConfigRecordScanKind
  bankId : BitVec 32 := 0
  start : BitVec 32 := 0
  stop : BitVec 32 := 0
  deriving DecidableEq, Repr

/-- `NgGameConfigStateTable`. -/
structure NgGameConfigStateTable where
  root : BitVec 32
  tableStart : BitVec 32
  tableEnd : BitVec 32
  stride : BitVec 32
  sentinel : BitVec 32 := 0
  targetStart : BitVec 32 := 0
  targetEnd : BitVec 32 := 0
  maxTables : BitVec 32
  maxEntries : BitVec 32
  followChain : Bool := false
  skipInvalidTargets : Bool := false
  scans : List NgGameConfigRecordScan := []
  deriving DecidableEq, Repr

/-- `NgGameConfigRecordFormat`, without its name. -/
structure NgGameConfigRecordFormat where
  tag : BitVec 32 := 0
  tagOffset : BitVec 32 := 0
  hasTag : Bool := false
  width : BitVec 32
  stride : BitVec 32 := 0
  callbackOffsets : List (BitVec 32)
  sentinel : BitVec 32 := 0
  hasSentinel : Bool := false
  clusterMinEntries : BitVec 32 := 0
  clusterMaxEntries : BitVec 32 := 0
  targetStart : BitVec 32 := 0
  targetEnd : BitVec 32 := 0
  scans : List NgGameConfigRecordScan := []
  deriving DecidableEq, Repr

/-- `NgGameConfigRoutineTable`, without its name. -/
structure NgGameConfigRoutineTable where
  stride : BitVec 32
  width : BitVec 32 := 0
  minInstructions : BitVec 32 := 0
  fallthroughTarget : BitVec 32 := 0
  hasFallthroughTarget : Bool := false
  scans : List NgGameConfigRecordScan := []
  deriving DecidableEq, Repr

/-- `NgGameConfigDispatcher`; `NG_GAME_CONFIG_DISPATCHER_OBJECT_STATE` is the only kind there is,
so the tests for it always pass and it is not stored. -/
structure NgGameConfigDispatcher where
  stateSlot : BitVec 32 := 0
  hasStateSlot : Bool := false
  installSlots : List (BitVec 32) := []
  spawnHelpers : List (BitVec 32) := []
  deriving DecidableEq, Repr

/-- `NgGameConfig`. -/
structure NgGameConfig where
  entry : List (BitVec 32) := []
  extra : List (BitVec 32) := []
  jumpTables : List NgGameConfigJumpTable := []
  tableCalls : List NgGameConfigTableCall := []
  stateTables : List NgGameConfigStateTable := []
  recordFormats : List NgGameConfigRecordFormat := []
  routineTables : List NgGameConfigRoutineTable := []
  dispatchers : List NgGameConfigDispatcher := []
  runtimeDispatch : List (BitVec 32) := []
  deriving DecidableEq, Repr

/-- `target_end > target_start && (target < target_start || target >= target_end)`: a range is
configured and the target lies outside it. -/
def outsideRange (start stop target : BitVec 32) : Bool :=
  stop > start && (target < start || target ≥ stop)

end NeoRecomp
