import NeoRecomp.Discovery.Tables

/-!
# Record formats and routine tables

Scanners for configured regions: records with callback fields, and blocks of short routines.
-/

namespace NeoRecomp

/-! ## Scan regions -/

/-- `record_scan_bounds`: the region a scan covers. -/
def recordScanBounds (rom : NgProgramRom) (scan : NgGameConfigRecordScan) :
    Option (BitVec 32 × BitVec 32) :=
  match scan.kind with
  | .fixed | .fixedAuto =>
      if rom.addressMapEnabled then
        if rom.fixedSize = 0 ∨ wrapsOver rom.fixedBase rom.fixedSize then none
        else some (rom.fixedBase, rom.fixedBase + rom.fixedSize)
      else some (0, rom.size)
  | .bankAll | .bankOne | .bankAllAuto | .bankOneAuto =>
      if !rom.addressMapEnabled ∨ rom.bankWindowSize = 0 ∨
          wrapsOver rom.bankWindowBase rom.bankWindowSize then none
      else if scan.stop > scan.start then some (scan.start, scan.stop)
      else some (rom.bankWindowBase, rom.bankWindowBase + rom.bankWindowSize)
  | .range | .rangeAuto =>
      if scan.stop ≤ scan.start then none else some (scan.start, scan.stop)

-- `record_scan_is_auto`
def recordScanIsAuto (scan : NgGameConfigRecordScan) : Bool :=
  scan.kind = .fixedAuto || scan.kind = .bankAllAuto || scan.kind = .bankOneAuto ||
    scan.kind = .rangeAuto

-- `record_scan_is_bank_all`
def recordScanIsBankAll (scan : NgGameConfigRecordScan) : Bool :=
  scan.kind = .bankAll || scan.kind = .bankAllAuto

-- `record_scan_is_bank_one`
def recordScanIsBankOne (scan : NgGameConfigRecordScan) : Bool :=
  scan.kind = .bankOne || scan.kind = .bankOneAuto

/-- The frame `add_record_format_targets` and `add_routine_table_targets` share: the views a scan
runs on, and its bounds in each of them. -/
def scanViews (rom : NgProgramRom) (scan : NgGameConfigRecordScan) (bankAll bankOne : Bool)
    (body : NgProgramRom → BitVec 32 → BitVec 32 → List DiscoveryCall) : List DiscoveryCall :=
  let inView (view : NgProgramRom) : List DiscoveryCall :=
    match recordScanBounds view scan with
    | none => []
    | some bounds => body view bounds.1 bounds.2
  if bankAll then forBanks rom inView
  else if bankOne then
    if ngProgramRomBankIsConfigured rom scan.bankId then
      inView (ngProgramRomSelectBank rom scan.bankId)
    else []
  else inView rom

/-! ## Record formats -/

-- `record_format_target_allowed`
def recordFormatTargetAllowed (rom : NgProgramRom) (record : NgGameConfigRecordFormat)
    (target : BitVec 32) (strictTargetShape : Bool) : Bool :=
  !outsideRange record.targetStart record.targetEnd target &&
    if strictTargetShape then isProbableHeuristicCodeTarget rom target
    else isProbableFunctionTarget rom target

-- `record_format_entry_matches`
def recordFormatEntryMatches (rom : NgProgramRom) (record : NgGameConfigRecordFormat)
    (addr : BitVec 32) : Bool :=
  let tagAddr := addr + record.tagOffset
  !record.hasTag ||
    (tagAddr ≥ addr && !wrapsOver tagAddr 1 && ngProgramRomAddrIsMapped rom tagAddr &&
      ngProgramRomAddrIsMapped rom (tagAddr + 1) &&
      ngProgramRomRead16 rom tagAddr = record.tag.setWidth 16)

/-- The callbacks of one record that `record_format_target_allowed` accepts, in order. -/
def recordFormatEntryTargets (rom : NgProgramRom) (record : NgGameConfigRecordFormat)
    (addr : BitVec 32) (strictTargetShape : Bool) : List (BitVec 32) :=
  if !recordFormatEntryMatches rom record addr then []
  else
    record.callbackOffsets.filterMap fun offset =>
      let targetAddr := addr + offset
      let target := ngProgramRomRead32 rom targetAddr
      if targetAddr < addr ∨ wrapsOver targetAddr 3 ∨ !ngProgramRomAddrIsMapped rom targetAddr ∨
          !ngProgramRomAddrIsMapped rom (targetAddr + 3) then none
      else if record.hasSentinel ∧ target = record.sentinel then none
      else if recordFormatTargetAllowed rom record target strictTargetShape then some target
      else none

-- `record_format_entry_has_valid_target`
def recordFormatEntryHasValidTarget (rom : NgProgramRom) (record : NgGameConfigRecordFormat)
    (addr : BitVec 32) (strictTargetShape : Bool) : Bool :=
  !(recordFormatEntryTargets rom record addr strictTargetShape).isEmpty

-- `add_record_format_entry_targets`
def addRecordFormatEntryTargets (rom : NgProgramRom) (record : NgGameConfigRecordFormat)
    (addr : BitVec 32) (strictTargetShape : Bool) : List DiscoveryCall :=
  (recordFormatEntryTargets rom record addr strictTargetShape).map (.add rom)

/-- The loop of `add_record_format_run_targets` with its turns left. -/
def addRecordFormatRunTargets (rom : NgProgramRom) (record : NgGameConfigRecordFormat)
    (stride : BitVec 32) (strictTargetShape : Bool) : Nat → BitVec 32 → List DiscoveryCall
  | 0, _ => []
  | turns + 1, addr =>
      addRecordFormatEntryTargets rom record addr strictTargetShape ++
        if wrapsOver addr stride then []
        else addRecordFormatRunTargets rom record stride strictTargetShape turns (addr + stride)

/-- A run of records that all hold code: where it starts and how many there are. -/
structure RecordRun where
  start : BitVec 32 := 0
  entries : BitVec 32 := 0
  deriving DecidableEq, Repr

-- `flush_record_format_cluster`
def flushRecordFormatCluster (rom : NgProgramRom) (record : NgGameConfigRecordFormat)
    (run : RecordRun) (stride : BitVec 32) (strictTargetShape : Bool) : List DiscoveryCall :=
  if run.entries ≥ record.clusterMinEntries ∧
      (record.clusterMaxEntries = 0 ∨ run.entries ≤ record.clusterMaxEntries) then
    addRecordFormatRunTargets rom record stride strictTargetShape run.entries.toNat run.start
  else []

/-- The last flush of `add_record_format_region_targets`. -/
def flushLastCluster (rom : NgProgramRom) (record : NgGameConfigRecordFormat) (run : RecordRun)
    (stride : BitVec 32) (strictTargetShape : Bool) : List DiscoveryCall :=
  if 1 < record.clusterMinEntries ∧ run.entries ≠ 0 then
    flushRecordFormatCluster rom record run stride strictTargetShape
  else []

/-- The loop of `add_record_format_region_targets` with its turns left.  A record format with a
cluster size only counts records in runs of it. -/
def recordFormatRegion (rom : NgProgramRom) (record : NgGameConfigRecordFormat)
    (stop stride : BitVec 32) (strictTargetShape : Bool) :
    Nat → BitVec 32 → RecordRun → List DiscoveryCall
  | 0, _, run => flushLastCluster rom record run stride strictTargetShape
  | turns + 1, addr, run =>
      let continueWith (run : RecordRun) : List DiscoveryCall :=
        if wrapsOver addr stride then flushLastCluster rom record run stride strictTargetShape
        else recordFormatRegion rom record stop stride strictTargetShape turns (addr + stride) run
      if ¬ addr < stop ∨
          (record.width ≠ 0 ∧ (wrapsOver addr (record.width - 1) ∨ addr + record.width > stop)) then
        flushLastCluster rom record run stride strictTargetShape
      else if 1 < record.clusterMinEntries then
        if recordFormatEntryHasValidTarget rom record addr strictTargetShape then
          continueWith
            { start := if run.entries = 0 then addr else run.start, entries := run.entries + 1 }
        else if run.entries ≠ 0 then
          flushRecordFormatCluster rom record run stride strictTargetShape ++
            continueWith { run with entries := 0 }
        else continueWith run
      else addRecordFormatEntryTargets rom record addr strictTargetShape ++ continueWith run

/-- The distance between records. -/
def recordStride (record : NgGameConfigRecordFormat) : BitVec 32 :=
  if record.stride ≠ 0 then record.stride else record.width

-- `add_record_format_region_targets`
def addRecordFormatRegionTargets (rom : NgProgramRom) (record : NgGameConfigRecordFormat)
    (start stop : BitVec 32) (strictTargetShape : Bool) : List DiscoveryCall :=
  if record.callbackOffsets = [] ∨ stop ≤ start ∨ recordStride record = 0 then []
  else
    recordFormatRegion rom record stop (recordStride record) strictTargetShape
      (stop.toNat - start.toNat) start {}

-- `record_format_auto_phase_step`
def recordFormatAutoPhaseStep (record : NgGameConfigRecordFormat) (start stride : BitVec 32) :
    BitVec 32 :=
  if stride &&& 1 ≠ 0 ∨ start &&& 1 ≠ 0 then 1
  else if record.hasTag ∧ record.tagOffset &&& 1 ≠ 0 then 1
  else if record.callbackOffsets.any fun offset => offset &&& 1 ≠ 0 then 1
  else 2

/-- The loop of `add_record_format_auto_region_targets` with its turns left.  The next phase can
wrap around only past a stride no region holds, where `phase_start >= end` has ended the loop. -/
def autoRegionPhases (rom : NgProgramRom) (clustered : NgGameConfigRecordFormat)
    (start stop stride step : BitVec 32) : Nat → BitVec 32 → List DiscoveryCall
  | 0, _ => []
  | turns + 1, phase =>
      if ¬ phase < stride ∨ wrapsOver start phase ∨ start + phase ≥ stop then []
      else
        addRecordFormatRegionTargets rom clustered (start + phase) stop true ++
          autoRegionPhases rom clustered start stop stride step turns (phase + step)

-- `add_record_format_auto_region_targets`
def addRecordFormatAutoRegionTargets (rom : NgProgramRom) (record : NgGameConfigRecordFormat)
    (start stop : BitVec 32) : List DiscoveryCall :=
  let stride := recordStride record
  if record.callbackOffsets = [] ∨ stop ≤ start ∨ stride = 0 then []
  else
    let clustered :=
      if record.clusterMinEntries ≤ 1 then { record with clusterMinEntries := 3 } else record
    autoRegionPhases rom clustered start stop stride (recordFormatAutoPhaseStep record start stride)
      (stop.toNat - start.toNat) 0

-- `add_record_format_targets`
def addRecordFormatTargets (rom : NgProgramRom) (record : NgGameConfigRecordFormat) :
    List DiscoveryCall :=
  record.scans.flatMap fun scan =>
    scanViews rom scan (recordScanIsBankAll scan) (recordScanIsBankOne scan)
      fun view start stop =>
        if recordScanIsAuto scan then addRecordFormatAutoRegionTargets view record start stop
        else addRecordFormatRegionTargets view record start stop false

/-! ## Routine tables -/

-- `routine_table_entry_terminal`
def routineTableEntryTerminal (instr : NgM68kInstr) : Bool :=
  instr.mnemonic = .rts || instr.mnemonic = .rte || instr.mnemonic = .rtr ||
    instr.mnemonic = .bra || instr.mnemonic = .jmp

/-- The loop of `routine_table_entry_valid`; every turn moves `pc` on by two bytes or more. -/
def routineWalk (rom : NgProgramRom) (table : NgGameConfigRoutineTable) (limit : BitVec 32) :
    Nat → BitVec 32 → Nat → Bool
  | 0, _, _ => false
  | turns + 1, pc, decoded =>
      let enough (decoded : Nat) : Bool :=
        (if table.minInstructions = 0 then 1 else table.minInstructions.toNat) ≤ decoded
      if ¬ pc < limit ∨ !ngProgramRomAddrIsMapped rom pc then false
      else
        match decodeCode rom pc with
        | none => false
        | some instr =>
            let len := instr.byteLength.setWidth 32
            if wrapsOver pc (len - 1) ∨ pc + len > limit ∨
                !ngProgramRomAddrIsMapped rom (pc + len - 1) then false
            else if routineTableEntryTerminal instr then enough (decoded + 1)
            else if table.hasFallthroughTarget ∧ pc + len = table.fallthroughTarget then
              enough (decoded + 1) && isProbableFunctionTarget rom (pc + len)
            else routineWalk rom table limit turns (pc + len) (decoded + 1)

-- `routine_table_entry_valid`
def routineTableEntryValid (rom : NgProgramRom) (table : NgGameConfigRoutineTable)
    (addr width : BitVec 32) : Bool :=
  if width = 0 ∨ addr &&& 1 ≠ 0 ∨ wrapsOver addr width ∨ !ngProgramRomAddrIsMapped rom addr then
    false
  else routineWalk rom table (addr + width) width.toNat addr 0

-- `add_routine_table_region_targets`
def addRoutineTableRegionTargets (rom : NgProgramRom) (table : NgGameConfigRoutineTable)
    (start stop : BitVec 32) : List DiscoveryCall :=
  let width := if table.width ≠ 0 then table.width else table.stride
  if table.stride = 0 ∨ stop ≤ start ∨ width = 0 ∨ width > table.stride then []
  else
    stridedLoop start stop table.stride fun addr =>
      if wrapsOver addr width ∨ addr + width > stop then none
      else if routineTableEntryValid rom table addr width then some [.add rom addr]
      else some []

-- `add_routine_table_targets`
def addRoutineTableTargets (rom : NgProgramRom) (table : NgGameConfigRoutineTable) :
    List DiscoveryCall :=
  table.scans.flatMap fun scan =>
    scanViews rom scan (scan.kind = .bankAll) (scan.kind = .bankOne)
      fun view start stop => addRoutineTableRegionTargets view table start stop

end NeoRecomp
