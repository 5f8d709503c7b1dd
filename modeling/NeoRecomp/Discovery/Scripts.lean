import NeoRecomp.Discovery.Tables

/-!
# Script streams

Object scripts hold callbacks that no instruction names.  Discovery looks for the interpreter of a
script, derives from its command handlers how long each command is and where it keeps a callback,
and then walks the streams whose address is stored in the interpreter's slot.
-/

namespace NeoRecomp

-- `NG_FUNCTION_DISCOVERY_STATIC_A6_SLOTS`
def ngFunctionDiscoveryStaticA6Slots : BitVec 32 := 256

-- `NG_FUNCTION_DISCOVERY_SCRIPT_COMMANDS`
def ngFunctionDiscoveryScriptCommands : BitVec 32 := 32

-- `NG_FUNCTION_DISCOVERY_SCRIPT_TABLE_MAX_ENTRIES`
def ngFunctionDiscoveryScriptTableMaxEntries : Nat := 64

-- `NG_FUNCTION_DISCOVERY_SCRIPT_STREAM_QUEUE`
def ngFunctionDiscoveryScriptStreamQueue : Nat := 128

/-! ## Interpreters -/

/-- `NgScriptCommandInfo`; an offset or a length is there when its flag is set. -/
structure NgScriptCommandInfo where
  length : Option (BitVec 8) := none
  jumpOffset : Option (BitVec 8) := none
  callbackOffset : Option (BitVec 8) := none
  deriving DecidableEq, Repr

/-- `NgScriptInterpreterInfo`. -/
structure NgScriptInterpreterInfo where
  slot : BitVec 32 := 0
  commandCount : BitVec 32 := 0
  commandMask : BitVec 32 := 0xFF
  valid : Bool := false
  streamReg : BitVec 8 := 0
  commands : List NgScriptCommandInfo := []
  deriving DecidableEq, Repr

-- `ea_is_a6_slot_local`
def eaIsA6SlotLocal (ea : NgM68kEa) : Option (BitVec 32) :=
  if ea.reg ≠ 6 then none
  else
    match ea.mode with
    | .aind => some 0
    | .adisp => some (ea.displacement.setWidth 32)
    | _ => none

-- `instr_stops_script_probe`
def instrStopsScriptProbe (instr : NgM68kInstr) : Bool :=
  instr.mnemonic = .rts || instr.mnemonic = .rte || instr.mnemonic = .rtr || instr.mnemonic = .jmp

/-- The registers loaded from the stream so far, with the offset each came from. -/
abbrev CallbackLoads := Fin 8 → Option (BitVec 8)

-- A long load from the stream register with a displacement from 0 to 0xFF.
def isStreamLoad (instr : NgM68kInstr) (streamReg : BitVec 8) : Bool :=
  instr.mnemonic = .movea && instr.size = 4 && instr.src.mode = .adisp &&
    instr.src.reg = streamReg && instr.src.displacement ≤ 0xFF && instr.dst.mode = .areg &&
    instr.dst.reg < 8

/-- What one instruction of a command handler tells about the command. -/
def commandHandlerStep (instr : NgM68kInstr) (streamReg : BitVec 8)
    (s : CallbackLoads × NgScriptCommandInfo) : CallbackLoads × NgScriptCommandInfo :=
  let offset := instr.src.displacement.setWidth 8
  let (loads, info) := s
  let info :=
    if isStreamLoad instr streamReg ∧ instr.dst.reg = streamReg then
      { info with jumpOffset := some offset }
    else info
  let loads :=
    if isStreamLoad instr streamReg ∧ instr.dst.reg ≠ streamReg then
      Function.update loads (regIndex instr.dst.reg) (some offset)
    else loads
  let info :=
    if instr.mnemonic = .jsr ∧ instr.src.mode = .aind ∧ instr.src.reg < 8 ∧
        (loads (regIndex instr.src.reg)).isSome then
      { info with callbackOffset := loads (regIndex instr.src.reg) }
    else info
  let info :=
    if (instr.mnemonic = .addq ∨ instr.mnemonic = .addi) ∧ instr.size = 4 ∧
        instr.dst.mode = .areg ∧ instr.dst.reg = streamReg ∧ instr.immediate > 0 ∧
        instr.immediate ≤ 0xFF then
      { info with length := some (instr.immediate.setWidth 8) }
    else info
  (loads, info)

/-- The loop of `analyze_script_command_handler` with its turns left. -/
def commandHandlerWalk (rom : NgProgramRom) (streamReg : BitVec 8) :
    Nat → BitVec 32 → CallbackLoads × NgScriptCommandInfo → NgScriptCommandInfo
  | 0, _, s => s.2
  | turns + 1, pc, s =>
      match decodeCode rom pc with
      | none => s.2
      | some instr =>
          let len := instr.byteLength.setWidth 32
          if instr.mnemonic = .illegal ∨ instr.mnemonic = .reset then s.2
          else
            let s := commandHandlerStep instr streamReg s
            if instrStopsScriptProbe instr ∨ wrapsOver pc len then s.2
            else commandHandlerWalk rom streamReg turns (pc + len) s

-- `analyze_script_command_handler`
def analyzeScriptCommandHandler (rom : NgProgramRom) (handler : BitVec 32) (streamReg : BitVec 8) :
    NgScriptCommandInfo :=
  if !isProbableFunctionTarget rom handler then {}
  else commandHandlerWalk rom streamReg 32 (handler &&& 0x00FFFFFF) (fun _ => none, {})

/-- The loop over the command table of `analyze_script_interpreter`; the commands behind an
unmapped entry stay empty. -/
def analyzeCommands (rom : NgProgramRom) (streamReg : BitVec 8) :
    Nat → BitVec 32 → List NgScriptCommandInfo
  | 0, _ => []
  | turns + 1, entryAddr =>
      if !ngProgramRomAddrIsMapped rom entryAddr || !ngProgramRomAddrIsMapped rom (entryAddr + 3) then
        []
      else
        analyzeScriptCommandHandler rom (ngProgramRomRead32 rom entryAddr &&& 0x00FFFFFF)
            streamReg ::
          analyzeCommands rom streamReg turns (entryAddr + 4)

-- `script_command_info_has_action`
def scriptCommandInfoHasAction (commands : List NgScriptCommandInfo) : Bool :=
  commands.any fun c => c.callbackOffset.isSome || c.jumpOffset.isSome || c.length.isSome

/-- The slot and the mask `analyze_script_interpreter` notes at one instruction. -/
def interpreterNote (instr : NgM68kInstr) (info : NgScriptInterpreterInfo) :
    NgScriptInterpreterInfo :=
  let info :=
    match eaIsA6SlotLocal instr.src with
    | some slot =>
        if instr.mnemonic = .movea ∧ instr.size = 4 ∧ instr.dst.mode = .areg ∧ instr.dst.reg < 8 ∧
            slot < ngFunctionDiscoveryStaticA6Slots then
          { info with slot, streamReg := instr.dst.reg, valid := true }
        else info
    | none => info
  if info.valid ∧ instr.mnemonic = .andi ∧ instr.dst.mode = .dreg ∧ instr.immediate ≤ 0xFF then
    { info with commandMask := instr.immediate }
  else info

/-- The command table a dispatch goes through, if it is one of a script interpreter. -/
def interpreterTable (info : NgScriptInterpreterInfo) (previous : Option NgM68kInstr)
    (instr : NgM68kInstr) (previousAreg : NgM68kStaticAregState)
    (indexBound : NgM68kIndexRegBoundState) : Option NgM68kJumpTablePattern := do
  let load ← previous
  let pattern ← ngM68kMatchStaticIndexJumpTable load instr previousAreg
  let pattern := ngM68kJumpTableApplyIndexBound pattern indexBound
  if info.valid ∧ pattern.entryKind = .abs32 ∧ pattern.entrySize = 4 ∧ pattern.maxEntries ≠ 0 ∧
      pattern.maxEntries ≤ ngFunctionDiscoveryScriptCommands then some pattern
  else none

/-- What the probe of an interpreter carries along. -/
structure InterpreterProbe where
  info : NgScriptInterpreterInfo := {}
  previous : Option NgM68kInstr := none
  areg : NgM68kStaticAregState := ngM68kStaticAregReset
  previousAreg : NgM68kStaticAregState := ngM68kStaticAregReset
  indexBound : NgM68kIndexRegBoundState := ngM68kIndexRegBoundReset

/-- The loop of `analyze_script_interpreter` with its turns left. -/
def interpreterWalk (rom : NgProgramRom) :
    Nat → BitVec 32 → InterpreterProbe → Option NgScriptInterpreterInfo
  | 0, _, _ => none
  | turns + 1, pc, s =>
      match decodeCode rom pc with
      | none => none
      | some instr =>
          let len := instr.byteLength.setWidth 32
          let info := interpreterNote instr s.info
          match interpreterTable info s.previous instr s.previousAreg s.indexBound with
          | some pattern =>
              let commands :=
                analyzeCommands rom info.streamReg pattern.maxEntries.toNat pattern.tableAddr
              if scriptCommandInfoHasAction commands then
                some { info with commandCount := pattern.maxEntries, commands }
              else none
          | none =>
              if instrStopsScriptProbe instr ∨ wrapsOver pc len then none
              else
                interpreterWalk rom turns (pc + len)
                  { info, previous := some instr, previousAreg := s.areg
                    areg := ngM68kStaticAregUpdate s.areg instr
                    indexBound := ngM68kIndexRegBoundUpdate s.indexBound instr }

-- `analyze_script_interpreter`
def analyzeScriptInterpreter (rom : NgProgramRom) (addr : BitVec 32) :
    Option NgScriptInterpreterInfo :=
  if !isProbableFunctionTarget rom addr then none
  else interpreterWalk rom 96 (addr &&& 0x00FFFFFF) {}

/-! ## Streams -/

/-- The loop of `script_stream_target_allowed` with its turns left. -/
def streamTargetWalk (rom : NgProgramRom) : Nat → BitVec 32 → Bool
  | 0, _ => false
  | turns + 1, pc =>
      match decodeCode rom pc with
      | none => false
      | some instr =>
          let len := instr.byteLength.setWidth 32
          match instr.mnemonic with
          | .illegal | .reset | .rte | .rtr | .stop | .trap => false
          | .rts => true
          | .jmp => false
          | _ => if wrapsOver pc len then false else streamTargetWalk rom turns (pc + len)

-- `script_stream_target_allowed`
def scriptStreamTargetAllowed (rom : NgProgramRom) (target : BitVec 32) : Bool :=
  isProbableStrictHeuristicCodeTarget rom target &&
    streamTargetWalk rom 48 (target &&& 0x00FFFFFF)

-- `info->commands[command]`, the rows no handler filled being zero
def NgScriptInterpreterInfo.command (info : NgScriptInterpreterInfo) (rom : NgProgramRom)
    (pc : BitVec 32) : Option NgScriptCommandInfo :=
  let command := (ngProgramRomRead8 rom pc).setWidth 32 &&& info.commandMask
  if command ≥ info.commandCount ∨ command ≥ ngFunctionDiscoveryScriptCommands then none
  else some (info.commands.getD command.toNat {})

/-- The address kept at an offset of a command, when it lies in the ROM. -/
def streamField (rom : NgProgramRom) (pc : BitVec 32) (offset : BitVec 8) : Option (BitVec 32) :=
  let addr := pc + offset.setWidth 32
  if addr ≥ pc ∧ ngProgramRomAddrIsMapped rom addr ∧ ngProgramRomAddrIsMapped rom (addr + 3) then
    some (ngProgramRomRead32 rom addr &&& 0x00FFFFFF)
  else none

-- The callback of a command.
def streamCallback (rom : NgProgramRom) (pc : BitVec 32) (cmd : NgScriptCommandInfo) :
    List DiscoveryCall :=
  match cmd.callbackOffset.bind (streamField rom pc) with
  | some target => if scriptStreamTargetAllowed rom target then [.add rom target] else []
  | none => []

/-- The inner loop of `add_script_stream_callbacks_from_root` with its turns left: the queue and the
calls made. -/
def streamSteps (rom : NgProgramRom) (info : NgScriptInterpreterInfo) :
    Nat → BitVec 32 → List (BitVec 32) → List (BitVec 32) × List DiscoveryCall
  | 0, _, queue => (queue, [])
  | turns + 1, pc, queue =>
      if !ngProgramRomAddrIsMapped rom pc then (queue, [])
      else
        match info.command rom pc with
        | none => (queue, [])
        | some cmd =>
            let calls := streamCallback rom pc cmd
            match cmd.jumpOffset with
            | some offset =>
                match streamField rom pc offset with
                | some next =>
                    if ngProgramRomAddrIsMapped rom next ∧
                        queue.length < ngFunctionDiscoveryScriptStreamQueue ∧ next ∉ queue then
                      (queue ++ [next], calls)
                    else (queue, calls)
                | none => (queue, calls)
            | none =>
                match cmd.length with
                | none => (queue, calls)
                | some length =>
                    if length = 0 ∨ wrapsOver pc (length.setWidth 32) then (queue, calls)
                    else
                      let rest := streamSteps rom info turns (pc + length.setWidth 32) queue
                      (rest.1, calls ++ rest.2)

/-- The outer loop; the queue has no repeated address, so no stream is visited twice. -/
def streamQueue (rom : NgProgramRom) (info : NgScriptInterpreterInfo) :
    Nat → Nat → List (BitVec 32) → List DiscoveryCall
  | 0, _, _ => []
  | turns + 1, head, queue =>
      match queue[head]? with
      | none => []
      | some pc =>
          let steps := streamSteps rom info 512 pc queue
          steps.2 ++ streamQueue rom info turns (head + 1) steps.1

-- `add_script_stream_callbacks_from_root`
def addScriptStreamCallbacksFromRoot (rom : NgProgramRom) (info : NgScriptInterpreterInfo)
    (root : BitVec 32) : List DiscoveryCall :=
  if !info.valid ∨ !ngProgramRomAddrIsMapped rom root then []
  else streamQueue rom info ngFunctionDiscoveryScriptStreamQueue 0 [root &&& 0x00FFFFFF]

-- `script_stream_root_plausible`
def scriptStreamRootPlausible (rom : NgProgramRom) (info : NgScriptInterpreterInfo)
    (root : BitVec 32) : Bool :=
  info.valid && ngProgramRomAddrIsMapped rom root && (info.command rom root).isSome

/-- The loop of `add_script_stream_callbacks_from_table` with its turns left. -/
def streamTable (rom : NgProgramRom) (info : NgScriptInterpreterInfo) :
    Nat → BitVec 32 → Bool → List DiscoveryCall
  | 0, _, _ => []
  | turns + 1, entryAddr, sawRoot =>
      if !ngProgramRomAddrIsMapped rom entryAddr || !ngProgramRomAddrIsMapped rom (entryAddr + 3) then
        []
      else
        let root := ngProgramRomRead32 rom entryAddr &&& 0x00FFFFFF
        if scriptStreamRootPlausible rom info root then
          addScriptStreamCallbacksFromRoot rom info root ++
            streamTable rom info turns (entryAddr + 4) true
        else if sawRoot then []
        else streamTable rom info turns (entryAddr + 4) sawRoot

-- `add_script_stream_callbacks_from_table`
def addScriptStreamCallbacksFromTable (rom : NgProgramRom) (info : NgScriptInterpreterInfo)
    (tableAddr maxEntries : BitVec 32) : List DiscoveryCall :=
  if !ngProgramRomAddrIsMapped rom tableAddr then []
  else
    streamTable rom info
      (min (if maxEntries ≠ 0 then maxEntries.toNat else ngFunctionDiscoveryScriptTableMaxEntries)
        ngFunctionDiscoveryScriptTableMaxEntries) tableAddr false

/-! ## Slots -/

/-- What an A6 slot is known to hold: an address, or an entry of a table of addresses. -/
inductive SlotPointer
  | none
  | direct (target : BitVec 32)
  | table (addr maxEntries : BitVec 32)
  deriving DecidableEq, Repr

/-- `NgStaticA6SlotPointerState`; never both kinds of pointer are valid for one slot. -/
abbrev NgStaticA6SlotPointerState := BitVec 32 → SlotPointer

-- `static_a6_slot_pointer_update`, for the slot `instr.dst` names
def slotPointerOf (areg : NgM68kStaticAregState) (indexBound : NgM68kIndexRegBoundState)
    (instr : NgM68kInstr) : SlotPointer :=
  if instr.mnemonic ≠ .move ∨ instr.size ≠ 4 then .none
  else
    match instr.src.mode with
    | .imm => .direct (instr.src.immediate &&& 0x00FFFFFF)
    | .areg =>
        if instr.src.reg < 8 ∧ areg.valid (regIndex instr.src.reg) then
          .direct (areg.target (regIndex instr.src.reg) &&& 0x00FFFFFF)
        else .none
    | .aindex =>
        if instr.src.reg < 8 ∧ instr.src.indexReg < 8 ∧ areg.valid (regIndex instr.src.reg) then
          .table (staticTableAddr areg instr.src)
            (if indexBound.valid (regIndex instr.src.indexReg) ∧
                indexBound.scaleBytes (regIndex instr.src.indexReg) = 4 then
              indexBound.maxEntries (regIndex instr.src.indexReg)
            else 0)
        else .none
    | _ => .none

/-- The banks a pointer into the window may mean when the code that stores it lies outside. -/
def viewsOfPointer (rom : NgProgramRom) (start pointer : BitVec 32)
    (body : NgProgramRom → List DiscoveryCall) : List DiscoveryCall :=
  if ngProgramRomAddrIsBanked rom pointer ∧ !ngProgramRomAddrIsBanked rom start ∧
      1 < (ngProgramRomBankCount rom).toNat then forBanks rom body
  else body rom

-- `add_script_stream_callbacks_for_interpreter`
def addScriptStreamCallbacksForInterpreter (rom : NgProgramRom) (start : BitVec 32)
    (slots : NgStaticA6SlotPointerState) (info : NgScriptInterpreterInfo) : List DiscoveryCall :=
  if !info.valid ∨ info.slot ≥ ngFunctionDiscoveryStaticA6Slots then []
  else
    match slots info.slot with
    | .none => []
    | .direct target =>
        let root := target &&& 0x00FFFFFF
        viewsOfPointer rom start root fun view => addScriptStreamCallbacksFromRoot view info root
    | .table addr maxEntries =>
        let tableAddr := addr &&& 0x00FFFFFF
        viewsOfPointer rom start tableAddr fun view =>
          addScriptStreamCallbacksFromTable view info tableAddr maxEntries

-- `add_script_stream_callbacks_for_matching_slot`
def addScriptStreamCallbacksForMatchingSlot (rom : NgProgramRom) (start slot : BitVec 32)
    (slots : NgStaticA6SlotPointerState) (infos : List NgScriptInterpreterInfo) :
    List DiscoveryCall :=
  infos.flatMap fun info =>
    if info.valid ∧ info.slot = slot then
      addScriptStreamCallbacksForInterpreter rom start slots info
    else []

-- `instr_stops_script_slot_scan`
def instrStopsScriptSlotScan (instr : NgM68kInstr) : Bool :=
  instr.mnemonic = .bra || instr.mnemonic = .jmp || instr.mnemonic = .rts ||
    instr.mnemonic = .rte || instr.mnemonic = .rtr

-- `NG_FUNCTION_DISCOVERY_MAX_INSTRUCTIONS`
def ngFunctionDiscoveryMaxInstructions : Nat := 128

/-- The loop of `add_script_stream_callbacks_from_slot_scan` with its turns left. -/
def slotScan (rom : NgProgramRom) (infos : List NgScriptInterpreterInfo) (start : BitVec 32) :
    Nat → BitVec 32 → NgM68kStaticAregState → NgM68kIndexRegBoundState →
      NgStaticA6SlotPointerState → List DiscoveryCall
  | 0, _, _, _, _ => []
  | turns + 1, pc, areg, indexBound, slots =>
      match decodeCode rom pc with
      | none => []
      | some instr =>
          let len := instr.byteLength.setWidth 32
          let slot := (eaIsA6SlotLocal instr.dst).filter (· < ngFunctionDiscoveryStaticA6Slots)
          let slots :=
            match slot with
            | some slot => Function.update slots slot (slotPointerOf areg indexBound instr)
            | none => slots
          let calls :=
            match slot with
            | some slot => addScriptStreamCallbacksForMatchingSlot rom start slot slots infos
            | none => []
          calls ++
            if instrStopsScriptSlotScan instr ∨ wrapsOver pc len then []
            else
              slotScan rom infos start turns (pc + len) (ngM68kStaticAregUpdate areg instr)
                (ngM68kIndexRegBoundUpdate indexBound instr) slots

-- `add_script_stream_callbacks_from_slot_scan`
def addScriptStreamCallbacksFromSlotScan (rom : NgProgramRom)
    (infos : List NgScriptInterpreterInfo) (start : BitVec 32) : List DiscoveryCall :=
  slotScan rom infos start ngFunctionDiscoveryMaxInstructions start ngM68kStaticAregReset
    ngM68kIndexRegBoundReset fun _ => .none

end NeoRecomp
