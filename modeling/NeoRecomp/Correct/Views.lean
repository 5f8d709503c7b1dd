import NeoRecomp.Discovery.Worklist

/-!
# The views discovery works on

Every scanner reads the image it is given or that image with a configured bank selected, and adds
what it finds from there.
-/

namespace NeoRecomp

/-- The image itself, or the image with a configured bank in its window. -/
def ViewOf (rom view : NgProgramRom) : Prop :=
  view = rom ∨ ∃ bank, ngProgramRomBankIsConfigured rom bank = true ∧
    view = ngProgramRomSelectBank rom bank

theorem ViewOf.refl (rom : NgProgramRom) : ViewOf rom rom := .inl rfl

theorem ViewOf.select {rom : NgProgramRom} {bank : BitVec 32}
    (h : ngProgramRomBankIsConfigured rom bank = true) :
    ViewOf rom (ngProgramRomSelectBank rom bank) := .inr ⟨bank, h, rfl⟩

-- Which bank is selected does not change which are configured.
theorem ViewOf.trans {rom view view' : NgProgramRom} (h : ViewOf rom view)
    (h' : ViewOf view view') : ViewOf rom view' := by
  obtain rfl | ⟨bank, hb, rfl⟩ := h
  · exact h'
  · obtain rfl | ⟨bank', hb', rfl⟩ := h'
    · exact .select hb
    · exact .inr ⟨bank', hb', rfl⟩

/-- The scanner adds entry candidates found in views of `rom`, and may raise `truncated`. -/
def AddsFrom (rom : NgProgramRom) (calls : List DiscoveryCall) : Prop :=
  ∀ call ∈ calls, call = .truncate ∨ ∃ view addr, ViewOf rom view ∧ call = .add view addr

/-! ## Shapes of scanners -/

section Shapes
variable {rom : NgProgramRom} {calls calls' : List DiscoveryCall}

theorem AddsFrom.nil : AddsFrom rom [] := by
  intro call h
  cases h

theorem AddsFrom.single (addr : BitVec 32) : AddsFrom rom [.add rom addr] := by
  intro call h
  exact .inr ⟨rom, addr, .refl rom, List.mem_singleton.mp h⟩

theorem AddsFrom.truncate : AddsFrom rom [.truncate] := by
  intro call h
  exact .inl (List.mem_singleton.mp h)

theorem AddsFrom.append (h : AddsFrom rom calls) (h' : AddsFrom rom calls') :
    AddsFrom rom (calls ++ calls') := by
  intro call hc
  rcases List.mem_append.mp hc with hc | hc
  · exact h call hc
  · exact h' call hc

theorem AddsFrom.ite {p : Prop} [Decidable p] (h : p → AddsFrom rom calls)
    (h' : ¬ p → AddsFrom rom calls') : AddsFrom rom (if p then calls else calls') := by
  split_ifs with hp
  · exact h hp
  · exact h' hp

theorem AddsFrom.singleIf {p : Prop} [Decidable p] (addr : BitVec 32) :
    AddsFrom rom (if p then [.add rom addr] else []) :=
  .ite (fun _ => .single addr) fun _ => .nil

theorem AddsFrom.map (targets : List (BitVec 32)) : AddsFrom rom (targets.map (.add rom)) := by
  intro call hc
  obtain ⟨addr, -, rfl⟩ := List.mem_map.mp hc
  exact .inr ⟨rom, addr, .refl rom, rfl⟩

theorem AddsFrom.flatMap {ι : Type} {items : List ι} {f : ι → List DiscoveryCall}
    (h : ∀ i ∈ items, AddsFrom rom (f i)) : AddsFrom rom (items.flatMap f) := by
  intro call hc
  obtain ⟨i, hi, hc⟩ := List.mem_flatMap.mp hc
  exact h i hi call hc

/-- What a scanner adds from a view of the image it adds from a view of the image. -/
theorem AddsFrom.ofView {view : NgProgramRom} (hv : ViewOf rom view) (h : AddsFrom view calls) :
    AddsFrom rom calls := by
  intro call hc
  obtain ht | ⟨view', addr, hv', ha⟩ := h call hc
  · exact .inl ht
  · exact .inr ⟨view', addr, hv.trans hv', ha⟩

theorem AddsFrom.entryLoop {stride : BitVec 32} {body : BitVec 32 → Option (List DiscoveryCall)}
    (h : ∀ addr calls, body addr = some calls → AddsFrom rom calls) (turns : Nat)
    (addr : BitVec 32) : AddsFrom rom (entryLoop stride body turns addr) := by
  induction turns generalizing addr with
  | zero => exact .nil
  | succ turns ih =>
    rw [NeoRecomp.entryLoop]
    cases hb : body addr with
    | none => exact .nil
    | some calls => exact (h addr calls hb).append (ih _)

theorem AddsFrom.stridedTurns {stop stride : BitVec 32}
    {body : BitVec 32 → Option (List DiscoveryCall)}
    (h : ∀ addr calls, body addr = some calls → AddsFrom rom calls) (turns : Nat)
    (addr : BitVec 32) : AddsFrom rom (stridedTurns stop stride body turns addr) := by
  induction turns generalizing addr with
  | zero => exact .nil
  | succ turns ih =>
    rw [NeoRecomp.stridedTurns]
    refine .ite (fun _ => ?_) fun _ => .nil
    cases hb : body addr with
    | none => exact .nil
    | some calls => exact (h addr calls hb).append (.ite (fun _ => .nil) fun _ => ih _)

theorem AddsFrom.stridedLoop {start stop stride : BitVec 32}
    {body : BitVec 32 → Option (List DiscoveryCall)}
    (h : ∀ addr calls, body addr = some calls → AddsFrom rom calls) :
    AddsFrom rom (stridedLoop start stop stride body) :=
  .stridedTurns h _ _

theorem AddsFrom.forBanks {body : NgProgramRom → List DiscoveryCall}
    (h : ∀ view, AddsFrom view (body view)) : AddsFrom rom (forBanks rom body) := by
  refine .flatMap fun bank hb => ?_
  exact .ofView (.select (List.mem_filter.mp hb).2) (h _)

theorem AddsFrom.viewsOfPointer {body : NgProgramRom → List DiscoveryCall}
    (h : ∀ view, AddsFrom view (body view)) (start pointer : BitVec 32) :
    AddsFrom rom (viewsOfPointer rom start pointer body) :=
  .ite (fun _ => .forBanks h) fun _ => h rom

end Shapes

/-! ## Configured tables -/

section Configured
variable (rom : NgProgramRom)

theorem addJumpTableTargets_adds (p : NgM68kJumpTablePattern) :
    AddsFrom rom (addJumpTableTargets rom p) := by
  unfold addJumpTableTargets
  split
  · exact .map _
  · exact .flatMap fun e _ => .ite (fun _ => .nil) fun _ => .single _

theorem configTableLoop_adds (table : NgGameConfigJumpTable) {body : BitVec 32 → List DiscoveryCall}
    (h : ∀ addr, AddsFrom rom (body addr)) : AddsFrom rom (configTableLoop table body) := by
  refine .ite (fun _ => .nil) fun _ => .stridedLoop fun addr calls he => ?_
  rw [← Option.some.inj he]
  exact h addr

theorem addConfiguredJumpTable_adds (table : NgGameConfigJumpTable) :
    AddsFrom rom (addConfiguredJumpTable rom table) := by
  unfold addConfiguredJumpTable
  split
  · exact configTableLoop_adds rom table fun addr => .singleIf _
  · refine configTableLoop_adds rom table fun addr => .ite (fun _ => ?_) fun _ => .nil
    exact .singleIf _
  · exact configTableLoop_adds rom table fun addr => .singleIf _
  · refine configTableLoop_adds rom table fun addr => ?_
    split
    · exact .nil
    · exact .singleIf _

theorem stateTableEntries_adds (table : NgGameConfigStateTable) (turns : Nat) (addr : BitVec 32)
    (tables : List (BitVec 32)) :
    AddsFrom rom (stateTableEntries rom table turns addr tables).2 := by
  induction turns generalizing addr tables with
  | zero => exact .nil
  | succ turns ih =>
    have continues : ∀ (tables : List (BitVec 32)) {calls : List DiscoveryCall},
        AddsFrom rom calls → AddsFrom rom
          (if wrapsOver addr table.stride then (tables, calls)
           else
            ((stateTableEntries rom table turns (addr + table.stride) tables).1,
              calls ++ (stateTableEntries rom table turns (addr + table.stride) tables).2)).2 := by
      intro tables calls h
      split_ifs
      · exact h
      · exact h.append (ih _ _)
    rw [stateTableEntries]
    by_cases hin : (!stateTableLongwordInTable rom table addr) = true
    · rw [if_pos hin]
      exact .nil
    · rw [if_neg hin]
      cases stateTableEntry rom table (ngProgramRomRead32 rom addr) with
      | skip => exact continues tables .nil
      | stop => exact .nil
      | code target => exact continues tables (.single target)
      | chain next =>
        by_cases hk : next ∈ tables
        · simp only [if_pos hk]
          exact continues tables .nil
        · simp only [if_neg hk]
          by_cases hf : table.maxTables.toNat ≤ tables.length
          · simp only [if_pos hf]
            exact .truncate
          · simp only [if_neg hf]
            exact continues _ .nil

theorem stateTableWalk_adds (table : NgGameConfigStateTable) (turns head : Nat)
    (tables : List (BitVec 32)) : AddsFrom rom (stateTableWalk rom table turns head tables) := by
  induction turns generalizing head tables with
  | zero => exact .nil
  | succ turns ih =>
    rw [stateTableWalk]
    split
    · exact .nil
    · exact (stateTableEntries_adds rom table _ _ _).append (ih _ _)

theorem addStateTableTargets_adds (calloc : Nat → Nat → Bool) (table : NgGameConfigStateTable) :
    AddsFrom rom (addStateTableTargets calloc rom table) :=
  .ite (fun _ => .nil) fun _ => .ite (fun _ => .truncate) fun _ => stateTableWalk_adds rom table _ _ _

theorem addStateTableTargetsWithScans_adds (calloc : Nat → Nat → Bool)
    (table : NgGameConfigStateTable) :
    AddsFrom rom (addStateTableTargetsWithScans calloc rom table) := by
  refine .ite (fun _ => addStateTableTargets_adds rom calloc table) fun _ => .flatMap fun scan _ => ?_
  split
  · exact .forBanks fun view => addStateTableTargets_adds view calloc table
  · exact .ite (fun hb => .ofView (.select hb) (addStateTableTargets_adds _ calloc table))
      fun _ => .nil
  · exact addStateTableTargets_adds rom calloc table

end Configured

/-! ## Records and routine tables -/

section Records
variable (rom : NgProgramRom)

theorem scanViews_adds (scan : NgGameConfigRecordScan) (bankAll bankOne : Bool)
    {body : NgProgramRom → BitVec 32 → BitVec 32 → List DiscoveryCall}
    (h : ∀ view start stop, AddsFrom view (body view start stop)) :
    AddsFrom rom (scanViews rom scan bankAll bankOne body) := by
  refine .ite (fun _ => .forBanks fun view => ?_) fun _ => .ite (fun _ => ?_) fun _ => ?_
  · split
    · exact .nil
    · exact h _ _ _
  · refine .ite (fun hb => .ofView (.select hb) ?_) fun _ => .nil
    dsimp only
    split
    · exact .nil
    · exact h _ _ _
  · dsimp only
    split
    · exact .nil
    · exact h _ _ _

variable (record : NgGameConfigRecordFormat) (stride : BitVec 32) (strict : Bool)

theorem addRecordFormatRunTargets_adds (turns : Nat) (addr : BitVec 32) :
    AddsFrom rom (addRecordFormatRunTargets rom record stride strict turns addr) := by
  induction turns generalizing addr with
  | zero => exact .nil
  | succ turns ih => exact .append (.map _) (.ite (fun _ => .nil) fun _ => ih _)

theorem flushRecordFormatCluster_adds (run : RecordRun) :
    AddsFrom rom (flushRecordFormatCluster rom record run stride strict) :=
  .ite (fun _ => addRecordFormatRunTargets_adds rom record stride strict _ _) fun _ => .nil

theorem flushLastCluster_adds (run : RecordRun) :
    AddsFrom rom (flushLastCluster rom record run stride strict) :=
  .ite (fun _ => flushRecordFormatCluster_adds rom record stride strict run) fun _ => .nil

theorem recordFormatRegion_adds (stop : BitVec 32) (turns : Nat) (addr : BitVec 32)
    (run : RecordRun) :
    AddsFrom rom (recordFormatRegion rom record stop stride strict turns addr run) := by
  induction turns generalizing addr run with
  | zero => exact flushLastCluster_adds rom record stride strict run
  | succ turns ih =>
    have continues : ∀ run, AddsFrom rom
        (if wrapsOver addr stride then flushLastCluster rom record run stride strict
         else recordFormatRegion rom record stop stride strict turns (addr + stride) run) :=
      fun run => .ite (fun _ => flushLastCluster_adds rom record stride strict run) fun _ => ih _ _
    rw [recordFormatRegion]
    refine .ite (fun _ => flushLastCluster_adds rom record stride strict run) fun _ => ?_
    refine .ite (fun _ => ?_) fun _ => .append (.map _) (continues _)
    refine .ite (fun _ => continues _) fun _ => .ite (fun _ => ?_) fun _ => continues _
    exact (flushRecordFormatCluster_adds rom record stride strict run).append (continues _)

theorem addRecordFormatRegionTargets_adds (start stop : BitVec 32) :
    AddsFrom rom (addRecordFormatRegionTargets rom record start stop strict) :=
  .ite (fun _ => .nil) fun _ => recordFormatRegion_adds rom record _ strict _ _ _ _

theorem autoRegionPhases_adds (start stop step : BitVec 32) (turns : Nat) (phase : BitVec 32) :
    AddsFrom rom (autoRegionPhases rom record start stop stride step turns phase) := by
  induction turns generalizing phase with
  | zero => exact .nil
  | succ turns ih =>
    refine .ite (fun _ => .nil) fun _ => ?_
    exact (addRecordFormatRegionTargets_adds rom record true _ _).append (ih _)

theorem addRecordFormatTargets_adds : AddsFrom rom (addRecordFormatTargets rom record) := by
  refine .flatMap fun scan _ => scanViews_adds rom scan _ _ fun view start stop => ?_
  refine .ite (fun _ => ?_) fun _ => addRecordFormatRegionTargets_adds view record false start stop
  exact .ite (fun _ => .nil) fun _ => autoRegionPhases_adds view _ _ _ _ _ _ _

theorem addRoutineTableTargets_adds (table : NgGameConfigRoutineTable) :
    AddsFrom rom (addRoutineTableTargets rom table) := by
  refine .flatMap fun scan _ => scanViews_adds rom scan _ _ fun view start stop => ?_
  refine .ite (fun _ => .nil) fun _ => .stridedLoop fun addr calls he => ?_
  generalize (if table.width ≠ 0 then table.width else table.stride) = width at he
  split_ifs at he
  · rw [← Option.some.inj he]
    exact .single addr
  · rw [← Option.some.inj he]
    exact .nil

end Records

/-! ## Script streams -/

section Scripts
variable (rom : NgProgramRom) (info : NgScriptInterpreterInfo)

theorem streamCallback_adds (pc : BitVec 32) (cmd : NgScriptCommandInfo) :
    AddsFrom rom (streamCallback rom pc cmd) := by
  unfold streamCallback
  split
  · exact .singleIf _
  · exact .nil

theorem streamSteps_adds (turns : Nat) (pc : BitVec 32) (queue : List (BitVec 32)) :
    AddsFrom rom (streamSteps rom info turns pc queue).2 := by
  induction turns generalizing pc queue with
  | zero => exact .nil
  | succ turns ih =>
    rw [streamSteps]
    split_ifs
    · exact .nil
    cases info.command rom pc with
    | none => exact .nil
    | some cmd =>
      have hcmd := streamCallback_adds rom pc cmd
      dsimp only
      cases cmd.jumpOffset with
      | some offset =>
        dsimp only
        cases streamField rom pc offset with
        | none => exact hcmd
        | some next =>
          dsimp only
          split_ifs <;> exact hcmd
      | none =>
        dsimp only
        cases cmd.length with
        | none => exact hcmd
        | some length =>
          dsimp only
          split_ifs
          · exact hcmd
          · exact hcmd.append (ih _ _)

theorem streamQueue_adds (turns head : Nat) (queue : List (BitVec 32)) :
    AddsFrom rom (streamQueue rom info turns head queue) := by
  induction turns generalizing head queue with
  | zero => exact .nil
  | succ turns ih =>
    rw [streamQueue]
    split
    · exact .nil
    · exact (streamSteps_adds rom info _ _ _).append (ih _ _)

theorem addScriptStreamCallbacksFromRoot_adds (root : BitVec 32) :
    AddsFrom rom (addScriptStreamCallbacksFromRoot rom info root) :=
  .ite (fun _ => .nil) fun _ => streamQueue_adds rom info _ _ _

theorem streamTable_adds (turns : Nat) (addr : BitVec 32) (sawRoot : Bool) :
    AddsFrom rom (streamTable rom info turns addr sawRoot) := by
  induction turns generalizing addr sawRoot with
  | zero => exact .nil
  | succ turns ih =>
    refine .ite (fun _ => .nil) fun _ => .ite (fun _ => ?_) fun _ => ?_
    · exact (addScriptStreamCallbacksFromRoot_adds rom info _).append (ih _ _)
    · exact .ite (fun _ => .nil) fun _ => ih _ _

theorem addScriptStreamCallbacksForInterpreter_adds (start : BitVec 32)
    (slots : NgStaticA6SlotPointerState) :
    AddsFrom rom (addScriptStreamCallbacksForInterpreter rom start slots info) := by
  refine .ite (fun _ => .nil) fun _ => ?_
  cases slots info.slot with
  | none => exact .nil
  | direct target =>
    exact .viewsOfPointer (fun view => addScriptStreamCallbacksFromRoot_adds view info _) _ _
  | table addr maxEntries =>
    refine .viewsOfPointer (fun view => ?_) _ _
    exact .ite (fun _ => .nil) fun _ => streamTable_adds view info _ _ _

theorem slotScan_adds (infos : List NgScriptInterpreterInfo) (start : BitVec 32) (turns : Nat)
    (pc : BitVec 32) (areg : NgM68kStaticAregState) (indexBound : NgM68kIndexRegBoundState)
    (slots : NgStaticA6SlotPointerState) :
    AddsFrom rom (slotScan rom infos start turns pc areg indexBound slots) := by
  induction turns generalizing pc areg indexBound slots with
  | zero => exact .nil
  | succ turns ih =>
    rw [slotScan]
    cases decodeCode rom pc with
    | none => exact .nil
    | some instr =>
      refine .append ?_ (.ite (fun _ => .nil) fun _ => ih _ _ _ _)
      cases (eaIsA6SlotLocal instr.dst).filter (· < ngFunctionDiscoveryStaticA6Slots) with
      | none => exact .nil
      | some slot =>
        refine .flatMap fun info _ => .ite (fun _ => ?_) fun _ => .nil
        exact addScriptStreamCallbacksForInterpreter_adds rom info start _

/-- The search of the scripts, where a property of the record that its calls keep makes every row
be seen in a view of the image. -/
theorem addScriptStreamCallbacksFromDiscovery_adds {P : NgFunctionDiscovery → Prop}
    (hview : ∀ d i, P d → ViewOf rom (discoveryEntryRomView rom d i))
    (hkeep : ∀ d calls, P d → AddsFrom rom calls → P (d.run calls)) {d : NgFunctionDiscovery}
    (hd : P d) : AddsFrom rom (addScriptStreamCallbacksFromDiscovery rom d) := by
  have pass : ∀ (infos : List NgScriptInterpreterInfo) (roots : Bool) (turns index : Nat)
      (d : NgFunctionDiscovery), P d → AddsFrom rom (scriptPass rom infos roots turns index d) := by
    intro infos roots turns
    induction turns with
    | zero => exact fun _ _ _ => .nil
    | succ turns ih =>
      intro index d hd
      have hrow : AddsFrom rom (scriptPassRow rom infos roots d index) := by
        unfold scriptPassRow
        split
        · exact .nil
        · refine .ite (fun _ => .nil) fun _ => .ofView (hview d index hd) ?_
          exact slotScan_adds _ infos _ _ _ _ _ _
      exact .ite (fun _ => .nil) fun _ => hrow.append (ih _ _ (hkeep d _ hd hrow))
  exact .ite (fun _ => .nil) fun _ => pass _ _ _ _ _ hd

end Scripts

/-! ## What a scan turn adds -/

section Turn
variable (rom : NgProgramRom) (start : BitVec 32) (config : NgGameConfig)

theorem addStaticAregIndirectTarget_adds (dispatch : NgM68kInstr) (areg : NgM68kStaticAregState) :
    AddsFrom rom (addStaticAregIndirectTarget rom start dispatch areg) :=
  .ite (fun _ => .viewsOfPointer (fun _ => .single _) _ _) fun _ => .nil

theorem branchProbe_adds (turns : Nat) (pc : BitVec 32) (areg : NgM68kStaticAregState)
    (dreg : StaticDregState) : AddsFrom rom (branchProbe rom start turns pc areg dreg) := by
  induction turns generalizing pc areg dreg with
  | zero => exact .nil
  | succ turns ih =>
    rw [branchProbe]
    cases decodeCode rom pc with
    | none => exact .nil
    | some instr =>
      refine (addStaticAregIndirectTarget_adds rom start instr areg).append ?_
      exact .ite (fun _ => .nil) fun _ => ih _ _ _

theorem addConfigTableCallTargets_adds (instr : NgM68kInstr) (areg : NgM68kStaticAregState) :
    AddsFrom rom (addConfigTableCallTargets rom config instr areg) := by
  refine .ite (fun _ => .nil) fun _ => .flatMap fun call _ => .ite (fun _ => .nil) fun _ => ?_
  cases call.format with
  | abs32Sparse =>
    refine .ite (fun _ => .nil) fun _ => .entryLoop (fun addr calls he => ?_) _ _
    dsimp only at he
    split_ifs at he
    · rw [← Option.some.inj he]
      exact .nil
    · rw [← Option.some.inj he]
      exact .single _
  | taggedAbs32 =>
    refine .ite (fun _ => .nil) fun _ => .entryLoop (fun addr calls he => ?_) _ _
    split_ifs at he
    · rw [← Option.some.inj he]
      exact .nil
    · rw [← Option.some.inj he]
      exact .singleIf _
  | recordAbs32 => exact .singleIf _

theorem pairCalls_adds (s : ScanState) (previous instr : NgM68kInstr) :
    AddsFrom rom (pairCalls rom start config s previous instr) := by
  unfold pairCalls
  cases matchedAddressTable s previous instr with
  | some pattern => exact addJumpTableTargets_adds rom pattern
  | none =>
    cases isTaskStateStore rom config previous instr with
    | some target => exact .single target
    | none =>
      cases isTaskSpawnCall rom config previous instr with
      | some target => exact .single target
      | none =>
        cases isIndexedTaskSpawnCall rom config previous instr s.previousAreg with
        | some pattern => exact addJumpTableTargets_adds rom _
        | none =>
          refine .ite (fun _ => .nil) fun _ => ?_
          cases absPointerLoadAddr previous instr.src.reg with
          | none => exact .nil
          | some ptrAddr => exact .viewsOfPointer (fun _ => .singleIf _) _ _

theorem contextCalls_adds (s : ScanState) (instr : NgM68kInstr) :
    AddsFrom rom (contextCalls rom start config s instr) := by
  unfold contextCalls
  refine .append (.append (.append (.append (.append ?_ ?_) ?_) ?_) ?_) ?_
  · cases s.previous with
    | none => exact .nil
    | some previous => exact pairCalls_adds rom start config s previous instr
  · cases matchedCodeTable rom s.previous instr with
    | none => exact .nil
    | some pattern => exact addJumpTableTargets_adds rom pattern
  · exact addConfigTableCallTargets_adds rom config instr s.areg
  · exact addStaticAregIndirectTarget_adds rom start instr s.areg
  · exact .ite (fun _ => .flatMap fun value _ => .singleIf _) fun _ => .nil
  · cases isImmediateTaskStateStore rom config instr s.spawnResults with
    | none => exact .nil
    | some target => exact .single target

theorem ownCalls_adds (pc : BitVec 32) (s : ScanState) (instr : NgM68kInstr) :
    AddsFrom rom (ownCalls rom start pc s instr) := by
  refine .append (.append (.singleIf _) (.ite (fun _ => ?_) fun _ => .nil)) (.singleIf _)
  refine .append (.single _) (.ite (fun _ => .ite (fun _ => .nil) fun _ => ?_) fun _ => .nil)
  exact branchProbe_adds rom start _ _ _ _

end Turn

theorem seedingCalls_adds (calloc : Nat → Nat → Bool) (rom : NgProgramRom)
    (seeds : List (BitVec 32)) (config : NgGameConfig) :
    AddsFrom rom (seedingCalls calloc rom seeds config) := by
  refine .append (.append (.append (.append (.append (.append ?_ ?_) ?_) ?_) ?_) ?_) ?_
  · exact .map seeds
  · exact .map config.entry
  · exact .map config.extra
  · exact .flatMap fun table _ => addStateTableTargetsWithScans_adds rom calloc table
  · exact .flatMap fun record _ => addRecordFormatTargets_adds rom record
  · exact .flatMap fun table _ => addRoutineTableTargets_adds rom table
  · exact .flatMap fun table _ => addConfiguredJumpTable_adds rom table

end NeoRecomp
