import NeoRecomp.Correct.ConfigMerge

/-!
# Pieces behind a configuration

The loader on the pieces of a section, alone and behind what another text has left: each header
makes the two agree on where they are, each later piece keeps them together.
-/

namespace NeoRecomp

/-! ## One piece behind a configuration -/

/-- The arrays that a section opens as long as it lists no files. -/
def arraysOf : NgGameConfigSection → List NgGameConfigArray
  | .functions => [.none, .entry, .extra]
  | .dispatch => [.none, .runtimeDispatch]
  | .stateTable => [.none, .stateTableScan]
  | .routineTable => [.none, .routineTableScan]
  | .dispatcher => [.none, .dispatcherInstallSlots, .dispatcherSpawnHelpers]
  | .recordFormat => [.none, .recordCallbackOffsets, .recordScan]
  | _ => [.none]

theorem none_mem_arraysOf (section_ : NgGameConfigSection) :
    NgGameConfigArray.none ∈ arraysOf section_ := by
  cases section_ <;> decide

/-- The section that opens an array. -/
def sectionOf : NgGameConfigArray → NgGameConfigSection
  | .none => .none
  | .entry => .functions
  | .extra => .functions
  | .discoveryFiles => .game
  | .runtimeDispatch => .dispatch
  | .recordCallbackOffsets => .recordFormat
  | .recordScan => .recordFormat
  | .stateTableScan => .stateTable
  | .routineTableScan => .routineTable
  | .dispatcherInstallSlots => .dispatcher
  | .dispatcherSpawnHelpers => .dispatcher

theorem sectionOf_of_mem {array : NgGameConfigArray} {section_ : NgGameConfigSection}
    (h : array ∈ arraysOf section_) :
    array ≠ .discoveryFiles ∧ (array = .none ∨ section_ = sectionOf array) := by
  cases section_ <;> cases array <;>
    first
      | exact ⟨by decide, .inl rfl⟩
      | exact ⟨by decide, .inr rfl⟩
      | exact absurd h (by decide)

/-- The loader after some pieces, `c` on them alone and `d` behind `base`: both are at the same
place of the same section. -/
structure Behind (base : LoadedGameConfig) (o : Outline) (c d : LoaderState) : Prop where
  agree : Agree base o c.config d.config
  outline : o.section_ = c.section_
  section_ : d.section_ = c.section_
  array : d.array = c.array
  current : d.current = c.current
  opened : c.array ∈ arraysOf c.section_
  counted : c.current = true → 0 < recordCount c.section_ c.config
  banked : c.section_ = .bank → c.current = true

/-- The files that the loader has noted in a state. -/
def LoaderState.noted (st : LoaderState) : List (List Char) × List (List Char) :=
  (st.discoveryFiles, st.config.discoveryFiles)

theorem LoaderState.truncate_false (st : LoaderState) : st.truncate false = st := by
  simp [LoaderState.truncate]

theorem LoaderState.truncated_truncate {st : LoaderState} {cut : Bool}
    (h : (st.truncate cut).config.truncated = false) : cut = false :=
  (Bool.or_eq_false_iff.mp h).2

namespace ConfigGroup

variable {β γ : Type} (g : ConfigGroup β)

/-- The header of a section of records. -/
def enter (cap : Nat) (item : β) (section_ : NgGameConfigSection) (st : LoaderState) :
    LoaderState :=
  let push := LoaderState.pushBounded cap (g.get st.config) item
  st.enterRecord section_ (g.set push.1 st.config) push.2

/-- Values for the end of the group. -/
def append (cap : Nat) (values : List β) (st : LoaderState) : LoaderState :=
  let items := appendBounded cap (g.get st.config) values
  { st with config := g.set items.1 st.config }.truncate items.2

/-- A change of the last record. -/
def modify (f : β → β) (st : LoaderState) : LoaderState :=
  { st with config := g.set (st.modifyCurrent (g.get st.config) f) st.config }

/-- Values for an array in the last record. -/
def modifyArray (values : β → γ × Bool) (store : γ → β → β) (st : LoaderState) : LoaderState :=
  match st.currentOf (g.get st.config) with
  | none => st
  | some record => (g.modify (store (values record).1) st).truncate (values record).2

end ConfigGroup

section

variable {base : LoadedGameConfig} {o : Outline} {c d : LoaderState} {β γ : Type}

theorem Behind.setGroup (h : Behind base o c d) (g : ConfigGroup β) {items : List β}
    (hlen : (g.get c.config).length ≤ items.length) :
    Behind base o { c with config := g.set items c.config }
      { d with config := g.set (g.get base ++ items) d.config } where
  agree := h.agree.set g items
  outline := h.outline
  section_ := h.section_
  array := h.array
  current := h.current
  opened := h.opened
  counted hcur := Nat.lt_of_lt_of_le (h.counted hcur) (g.count_set _ _ _ hlen)
  banked := h.banked

theorem Behind.withArray (h : Behind base o c d) {array : NgGameConfigArray}
    (ha : array ∈ arraysOf c.section_) :
    Behind base o { c with array := array } { d with array := array } where
  agree := h.agree
  outline := h.outline
  section_ := h.section_
  array := rfl
  current := h.current
  opened := ha
  counted := h.counted
  banked := h.banked

theorem Behind.append (h : Behind base o c d) (g : ConfigGroup β) {cap : Nat} {values : List β}
    (ht : (g.append cap values d).config.truncated = false) :
    Behind base o (g.append cap values c) (g.append cap values d) := by
  have hcut : (appendBounded cap (g.get d.config) values).2 = false :=
    LoaderState.truncated_truncate ht
  rw [h.agree.get g] at hcut
  have hcut' := appendBounded_behind hcut
  unfold ConfigGroup.append
  dsimp only
  rw [h.agree.get g, hcut, hcut', LoaderState.truncate_false, LoaderState.truncate_false,
    appendBounded_fst hcut, appendBounded_fst hcut', List.append_assoc]
  exact h.setGroup g (by rw [List.length_append]; exact Nat.le_add_right _ _)

theorem modifyCurrent_behind (hcur : d.current = c.current) {items : List β}
    (hne : c.current = true → items ≠ []) (before : List β) (f : β → β) :
    d.modifyCurrent (before ++ items) f = before ++ c.modifyCurrent items f := by
  unfold LoaderState.modifyCurrent
  rw [hcur]
  by_cases hc : c.current = true
  · rw [if_pos hc, if_pos hc, modifyLast_behind (hne hc)]
  · rw [if_neg hc, if_neg hc]

theorem length_modifyLast (items : List β) (f : β → β) :
    (items.modifyLast f).length = items.length := by
  rcases List.eq_nil_or_concat items with rfl | ⟨items, item, rfl⟩
  · rfl
  · rw [List.concat_eq_append, List.modifyLast_concat, List.length_append, List.length_append]
    rfl

theorem length_modifyCurrent (st : LoaderState) (items : List β) (f : β → β) :
    (st.modifyCurrent items f).length = items.length := by
  unfold LoaderState.modifyCurrent
  split
  · exact length_modifyLast items f
  · rfl

theorem Behind.modify (h : Behind base o c d) (g : ConfigGroup β)
    (hne : c.current = true → g.get c.config ≠ []) (f : β → β) :
    Behind base o (g.modify f c) (g.modify f d) := by
  unfold ConfigGroup.modify
  rw [h.agree.get g, modifyCurrent_behind h.current hne]
  exact h.setGroup g (by rw [length_modifyCurrent])

theorem currentOf_behind (hcur : d.current = c.current) {items : List β}
    (hne : c.current = true → items ≠ []) (before : List β) :
    d.currentOf (before ++ items) = c.currentOf items := by
  unfold LoaderState.currentOf
  rw [hcur]
  by_cases hc : c.current = true
  · rw [if_pos hc, if_pos hc, List.getLast?_append_of_ne_nil before (hne hc)]
  · rw [if_neg hc, if_neg hc]

theorem Behind.modifyArray (h : Behind base o c d) (g : ConfigGroup β)
    (hne : c.current = true → g.get c.config ≠ []) {values : β → γ × Bool} {store : γ → β → β}
    (ht : (g.modifyArray values store d).config.truncated = false) :
    Behind base o (g.modifyArray values store c) (g.modifyArray values store d) := by
  unfold ConfigGroup.modifyArray at ht ⊢
  rw [h.agree.get g, currentOf_behind h.current hne] at ht ⊢
  cases hrec : c.currentOf (g.get c.config) with
  | none => exact h
  | some record =>
    rw [hrec] at ht
    have hcut := LoaderState.truncated_truncate ht
    show Behind base o ((g.modify (store (values record).1) c).truncate (values record).2)
      ((g.modify (store (values record).1) d).truncate (values record).2)
    rw [hcut, LoaderState.truncate_false, LoaderState.truncate_false]
    exact h.modify g hne _

/-! ## Sections of arrays and of records -/

/-- A section of records holds one while its pointer is not null. -/
theorem Behind.records (h : Behind base o c d) (g : ConfigGroup β)
    {section_ : NgGameConfigSection} (hs : c.section_ = section_)
    (hg : ∀ config, recordCount section_ config = (g.get config).length) :
    c.current = true → g.get c.config ≠ [] := by
  intro hcur hnil
  have hpos := h.counted hcur
  rw [hs, hg, hnil] at hpos
  exact Nat.lt_irrefl _ hpos

/-- The values of a line of an array, by the group that the array belongs to. -/
def readGroupValues (array : NgGameConfigArray) (line : List Char) (st : LoaderState) :
    LoaderState :=
  let tokens := stringsIn (afterEquals line)
  match array with
  | .none => st
  | .entry => ConfigGroup.entry.append ngGameConfigMaxFunctions (numbersIn line) st
  | .extra => ConfigGroup.extra.append ngGameConfigMaxFunctions (numbersIn line) st
  | .runtimeDispatch =>
    ConfigGroup.runtimeDispatch.append ngGameConfigMaxRuntimeDispatches (numbersIn line) st
  | .discoveryFiles => (stringsIn line).foldl LoaderState.appendDiscoveryFile st
  | .recordCallbackOffsets =>
    ConfigGroup.recordFormats.modifyArray
      (fun r => appendBounded ngGameConfigMaxRecordCallbackOffsets r.callbackOffsets
        (numbersIn (afterEquals line)))
      (fun items r => { r with callbackOffsets := items }) st
  | .recordScan =>
    ConfigGroup.recordFormats.modifyArray
      (fun r => appendScans ngGameConfigMaxRecordScans recordScanToken r.scans tokens)
      (fun items r => { r with scans := items }) st
  | .stateTableScan =>
    ConfigGroup.stateTables.modifyArray
      (fun t => appendScans ngGameConfigMaxRecordScans tableScanToken t.scans tokens)
      (fun items t => { t with scans := items }) st
  | .routineTableScan =>
    ConfigGroup.routineTables.modifyArray
      (fun t => appendScans ngGameConfigMaxRecordScans tableScanToken t.scans tokens)
      (fun items t => { t with scans := items }) st
  | .dispatcherInstallSlots =>
    ConfigGroup.dispatchers.modifyArray
      (fun d => appendBounded ngGameConfigMaxDispatcherInstallSlots d.installSlots
        (numbersIn (afterEquals line)))
      (fun items d => { d with installSlots := items }) st
  | .dispatcherSpawnHelpers =>
    ConfigGroup.dispatchers.modifyArray
      (fun d => appendBounded ngGameConfigMaxDispatcherSpawnHelpers d.spawnHelpers
        (numbersIn (afterEquals line)))
      (fun items d => { d with spawnHelpers := items }) st

theorem readArrayValues_eq (st : LoaderState) (line : List Char) :
    st.readArrayValues line = readGroupValues st.array line st := by
  obtain ⟨_, array, _, _, _⟩ := st
  cases array
  case none | entry | extra | runtimeDispatch | discoveryFiles => rfl
  all_goals
    unfold LoaderState.readArrayValues readGroupValues ConfigGroup.modifyArray
    dsimp only [ConfigGroup.recordFormats, ConfigGroup.stateTables, ConfigGroup.routineTables,
      ConfigGroup.dispatchers]
    split
    · next hrec => rw [hrec]
    · next hrec =>
      rw [hrec]
      rfl

theorem Behind.readArrayValues (h : Behind base o c d) (line : List Char)
    (ht : (d.readArrayValues line).config.truncated = false) :
    Behind base o (c.readArrayValues line) (d.readArrayValues line) := by
  rw [readArrayValues_eq, h.array] at ht
  rw [readArrayValues_eq, readArrayValues_eq, h.array]
  have hs := sectionOf_of_mem h.opened
  cases ha : c.array with
  | none => exact h
  | entry =>
    rw [ha] at ht
    exact h.append .entry ht
  | extra =>
    rw [ha] at ht
    exact h.append .extra ht
  | runtimeDispatch =>
    rw [ha] at ht
    exact h.append .runtimeDispatch ht
  | discoveryFiles => exact absurd ha hs.1
  | recordCallbackOffsets =>
    rw [ha] at ht hs
    have hrecords := h.records .recordFormats (hs.2.resolve_left nofun) fun _ => rfl
    exact h.modifyArray .recordFormats hrecords ht
  | recordScan =>
    rw [ha] at ht hs
    have hrecords := h.records .recordFormats (hs.2.resolve_left nofun) fun _ => rfl
    exact h.modifyArray .recordFormats hrecords ht
  | stateTableScan =>
    rw [ha] at ht hs
    have hrecords := h.records .stateTables (hs.2.resolve_left nofun) fun _ => rfl
    exact h.modifyArray .stateTables hrecords ht
  | routineTableScan =>
    rw [ha] at ht hs
    have hrecords := h.records .routineTables (hs.2.resolve_left nofun) fun _ => rfl
    exact h.modifyArray .routineTables hrecords ht
  | dispatcherInstallSlots =>
    rw [ha] at ht hs
    have hrecords := h.records .dispatchers (hs.2.resolve_left nofun) fun _ => rfl
    exact h.modifyArray .dispatchers hrecords ht
  | dispatcherSpawnHelpers =>
    rw [ha] at ht hs
    have hrecords := h.records .dispatchers (hs.2.resolve_left nofun) fun _ => rfl
    exact h.modifyArray .dispatchers hrecords ht

theorem Behind.readArrayLine (h : Behind base o c d) (line : List Char)
    (ht : (d.readArrayLine line).config.truncated = false) :
    Behind base o (c.readArrayLine line) (d.readArrayLine line) := by
  unfold LoaderState.readArrayLine at ht ⊢
  by_cases hclose : ']' ∈ line
  · rw [if_pos hclose] at ht ⊢
    rw [if_pos hclose]
    have hvalues := h.readArrayValues line ht
    exact hvalues.withArray (none_mem_arraysOf _)
  · rw [if_neg hclose] at ht ⊢
    rw [if_neg hclose]
    exact h.readArrayValues line ht

theorem mem_of_openArray {keys : List (String × NgGameConfigArray)} {line : List Char}
    {array : NgGameConfigArray} (h : LoaderState.openArray keys line = some array) :
    array ∈ keys.map Prod.snd := by
  unfold LoaderState.openArray at h
  rw [Option.map_eq_some_iff] at h
  obtain ⟨key, hfind, rfl⟩ := h
  exact List.mem_map_of_mem (List.mem_of_find?_eq_some hfind)

theorem Behind.readArraySection (h : Behind base o c d)
    {keys : List (String × NgGameConfigArray)}
    (hkeys : ∀ array ∈ keys.map Prod.snd, array ∈ arraysOf c.section_) (line : List Char)
    (ht : (d.readArraySection keys line).config.truncated = false) :
    Behind base o (c.readArraySection keys line) (d.readArraySection keys line) := by
  unfold LoaderState.readArraySection at ht ⊢
  rw [h.array] at ht ⊢
  have hopen : (LoaderState.openArray keys line).getD c.array ∈ arraysOf c.section_ := by
    cases harray : LoaderState.openArray keys line with
    | none => exact h.opened
    | some array => exact hkeys array (mem_of_openArray harray)
  exact (h.withArray hopen).readArrayLine line ht

theorem Behind.readRecordSection (h : Behind base o c d)
    {keys : List (String × NgGameConfigArray)}
    (hkeys : ∀ array ∈ keys.map Prod.snd, array ∈ arraysOf c.section_) (g : ConfigGroup β)
    (hne : c.current = true → g.get c.config ≠ []) (f : β → β) (line : List Char)
    (ht : (d.readRecordSection keys (fun st => (g.modify f { st with config := d.config }).config)
      line).config.truncated = false) :
    Behind base o
      (c.readRecordSection keys (fun st => (g.modify f { st with config := c.config }).config) line)
      (d.readRecordSection keys (fun st => (g.modify f { st with config := d.config }).config)
        line) := by
  have hscalar := h.modify g hne f
  obtain ⟨section_, array, current, files, config⟩ := c
  obtain ⟨section', array', current', files', config'⟩ := d
  obtain rfl : array' = array := h.array
  unfold LoaderState.readRecordSection at ht ⊢
  by_cases hmem : array' ∈ keys.map Prod.snd
  · rw [if_pos hmem] at ht ⊢
    rw [if_pos hmem]
    exact h.readArrayLine line ht
  · rw [if_neg hmem] at ht ⊢
    rw [if_neg hmem]
    cases harray : LoaderState.openArray keys line with
    | none => exact hscalar
    | some opened =>
      rw [harray] at ht
      exact (h.withArray (hkeys opened (mem_of_openArray harray))).readArrayLine line ht

/-! ## Lines -/

/-- A line that lists files. -/
def listsFiles (section_ : NgGameConfigSection) (line : List Char) : Bool :=
  section_ = .game && keyStartsArray line "discovery_files"

/-- A line of `[game]` that lists no files opens no array. -/
theorem openArray_game {line : List Char} (h : listsFiles .game line = false) :
    LoaderState.openArray [("discovery_files", .discoveryFiles)] line = none := by
  unfold LoaderState.openArray
  rw [List.find?_cons_of_neg (by simpa [listsFiles] using h)]
  rfl

theorem Behind.readSectionLine (h : Behind base o c d) (line : List Char)
    (hlist : listsFiles c.section_ line = false)
    (ht : (d.readSectionLine line).config.truncated = false) :
    Behind base (o.readSectionLine line) (c.readSectionLine line) (d.readSectionLine line) := by
  obtain ⟨section_, array, current, files, config⟩ := c
  obtain ⟨section', array', current', files', config'⟩ := d
  obtain ⟨outlined, program, bankIds⟩ := o
  obtain rfl : section' = section_ := h.section_
  obtain rfl : outlined = section' := h.outline
  cases outlined with
  | none => exact h
  | functions => exact h.readArraySection (show ∀ a ∈ _, a ∈ arraysOf .functions by decide) line ht
  | dispatch => exact h.readArraySection (show ∀ a ∈ _, a ∈ arraysOf .dispatch by decide) line ht
  | game =>
    change (LoaderState.readArraySection _ _ line).config.truncated = false at ht
    show Behind base _ (LoaderState.readArraySection _ _ line)
      (LoaderState.readArraySection _ _ line)
    unfold LoaderState.readArraySection at ht ⊢
    rw [openArray_game hlist] at ht ⊢
    exact h.readArrayLine line ht
  | program =>
    exact
      { agree := h.agree.readProgram line
        outline := rfl
        section_ := rfl
        array := h.array
        current := h.current
        opened := h.opened
        counted := fun hcur => absurd (h.counted hcur) (Nat.lt_irrefl 0)
        banked := h.banked }
  | jumpTable => exact h.modify .jumpTables (h.records .jumpTables rfl fun _ => rfl) _
  | tableCall => exact h.modify .tableCalls (h.records .tableCalls rfl fun _ => rfl) _
  | bank =>
    obtain rfl : current = true := h.banked rfl
    obtain rfl : current' = true := h.current
    have hpos : 0 < config.banks.length := h.counted rfl
    exact
      { agree := h.agree.readBank (List.length_pos_iff.mp hpos) line
        outline := rfl
        section_ := rfl
        array := h.array
        current := rfl
        opened := h.opened
        counted := fun _ => by
          show 0 < (List.modifyLast _ _).length
          rw [length_modifyLast]
          exact hpos
        banked := fun _ => rfl }
  | stateTable =>
    exact h.readRecordSection (show ∀ a ∈ _, a ∈ arraysOf .stateTable by decide)
      .stateTables (h.records .stateTables rfl fun _ => rfl) (parseStateTableScalar.parse line)
      line ht
  | routineTable =>
    exact h.readRecordSection (show ∀ a ∈ _, a ∈ arraysOf .routineTable by decide)
      .routineTables (h.records .routineTables rfl fun _ => rfl) (parseRoutineTableScalar.parse line)
      line ht
  | dispatcher =>
    exact h.readRecordSection (show ∀ a ∈ _, a ∈ arraysOf .dispatcher by decide)
      .dispatchers (h.records .dispatchers rfl fun _ => rfl) (parseDispatcherScalar.parse line)
      line ht
  | recordFormat =>
    exact h.readRecordSection (show ∀ a ∈ _, a ∈ arraysOf .recordFormat by decide)
      .recordFormats (h.records .recordFormats rfl fun _ => rfl) (parseRecordFormatScalar.parse line)
      line ht

/-! ## Headers -/

theorem pushBounded_eq {cap : Nat} {items : List β} {item : β}
    (h : (LoaderState.pushBounded cap items item).2 = true) :
    LoaderState.pushBounded cap items item = (items ++ [item], true) := by
  unfold LoaderState.pushBounded at h ⊢
  split at h
  · cases h
  · next hcap => exact if_neg hcap

/-- A record that finds room behind others finds room alone. -/
theorem pushBounded_behind {cap : Nat} {before items : List β} {item : β}
    (h : (LoaderState.pushBounded cap (before ++ items) item).2 = true) :
    LoaderState.pushBounded cap items item = (items ++ [item], true) := by
  unfold LoaderState.pushBounded at h ⊢
  split at h
  · cases h
  · next hcap =>
    rw [List.length_append] at hcap
    exact if_neg (by omega)

/-- With room for the record, the header of a section of records. -/
theorem enterRecord_room (st : LoaderState) (section_ : NgGameConfigSection)
    (config : LoadedGameConfig) :
    st.enterRecord section_ config true =
      { st with section_ := section_, array := .none, current := true, config := config } := by
  simp [LoaderState.enterRecord]

theorem room_of_enterRecord {st : LoaderState} {section_ : NgGameConfigSection}
    {config : LoadedGameConfig} {room : Bool}
    (h : (st.enterRecord section_ config room).config.truncated = false) : room = true := by
  have hcut : (!room) = false := (Bool.or_eq_false_iff.mp h).2
  simpa using hcut

theorem Agree.enterGroup (h : Agree base o c.config d.config) (g : ConfigGroup β)
    {section_ : NgGameConfigSection} (hbank : section_ ≠ .bank)
    (hg : ∀ config, recordCount section_ config = (g.get config).length) {cap : Nat} {item : β}
    (ht : (g.enter cap item section_ d).config.truncated = false) :
    Behind base { o with section_ := section_ } (g.enter cap item section_ c)
      (g.enter cap item section_ d) := by
  have hroom : (LoaderState.pushBounded cap (g.get d.config) item).2 = true :=
    room_of_enterRecord ht
  rw [h.get g] at hroom
  unfold ConfigGroup.enter
  dsimp only
  rw [h.get g, pushBounded_eq hroom, pushBounded_behind hroom, enterRecord_room, enterRecord_room,
    List.append_assoc]
  exact
    { agree := (h.set g _).inSection section_
      outline := rfl
      section_ := rfl
      array := rfl
      current := rfl
      opened := none_mem_arraysOf section_
      counted := fun _ => by
        show 0 < recordCount section_ (g.set (g.get c.config ++ [item]) c.config)
        rw [hg, g.get_set, List.length_append]
        exact Nat.succ_pos _
      banked := fun hs => absurd hs hbank }

theorem Agree.enterBank (h : Agree base o c.config d.config)
    (ht : d.enterBank.config.truncated = false) :
    Behind base { o with section_ := .bank, bankIds := o.bankIds ++ [false] } c.enterBank
      d.enterBank := by
  have hroom : (LoaderState.pushBounded ngGameConfigMaxBanks d.config.banks
      { id := BitVec.ofNat 32 d.config.banks.length }).2 = true := room_of_enterRecord ht
  have hroom' : (LoaderState.pushBounded ngGameConfigMaxBanks c.config.banks
      { id := BitVec.ofNat 32 c.config.banks.length }).2 = true := by
    have hlen : d.config.banks.length = base.banks.length + c.config.banks.length := by
      rw [h.joined]
      show (_ ++ renumber _ _ _).length = _
      rw [List.length_append, length_renumber h.bankIds]
    unfold LoaderState.pushBounded at hroom ⊢
    split at hroom
    · cases hroom
    · rw [if_neg (by omega)]
  unfold LoaderState.enterBank
  dsimp only
  rw [pushBounded_eq hroom, pushBounded_eq hroom', enterRecord_room, enterRecord_room]
  exact
    { agree := h.pushBank
      outline := rfl
      section_ := rfl
      array := rfl
      current := rfl
      opened := List.mem_singleton_self _
      counted := fun _ => by
        show 0 < (c.config.banks ++ [_]).length
        rw [List.length_append]
        exact Nat.succ_pos _
      banked := fun _ => rfl }

theorem Agree.enter (h : Agree base o c.config d.config) {section_ : NgGameConfigSection}
    (hbank : section_ ≠ .bank) :
    Behind base { o with section_ := section_ } (c.enter section_) (d.enter section_) where
  agree := h.inSection section_
  outline := rfl
  section_ := rfl
  array := rfl
  current := rfl
  opened := none_mem_arraysOf section_
  counted hcur := absurd hcur Bool.false_ne_true
  banked hs := absurd hs hbank

/-- What a header can do. -/
def headerSteps : List (LoaderState → LoaderState) :=
  [.enterJumpTable, .enterTableCall, .enterStateTable, .enterRecordFormat, .enterRoutineTable,
    .enterDispatcher, .enterBank, (·.enter .functions), (·.enter .program), (·.enter .dispatch),
    (·.enter .game), (·.enter .none)]

theorem ite_mem {σ : Type} {steps : List (σ → σ)} {yes no : σ → σ} (b : Bool) (hyes : yes ∈ steps)
    (hno : no ∈ steps) : (fun st => if b = true then yes st else no st) ∈ steps := by
  cases b with
  | true => exact hyes
  | false => exact hno

/-- A header does the same in every state. -/
theorem readHeader_mem (line : List Char) : (·.readHeader line) ∈ headerSteps := by
  have hmem : ∀ step ∈ headerSteps, step ∈ headerSteps := fun _ h => h
  simp only [headerSteps, List.forall_mem_cons] at hmem
  obtain ⟨h1, h2, h3, h4, h5, h6, h7, h8, h9, h10, h11, h12, -⟩ := hmem
  exact ite_mem _ h1 <| ite_mem _ h2 <| ite_mem _ h3 <| ite_mem _ h4 <| ite_mem _ h5 <|
    ite_mem _ h6 <| ite_mem _ h7 <| ite_mem _ h8 <| ite_mem _ h9 <| ite_mem _ h10 <|
    ite_mem _ h11 h12

theorem Agree.readHeader (h : Agree base o c.config d.config) (line : List Char)
    (ht : (d.readHeader line).config.truncated = false) :
    Behind base (o.readHeader line) (c.readHeader line) (d.readHeader line) := by
  have hsteps : ∀ step ∈ headerSteps, (step d).config.truncated = false →
      Behind base
        { section_ := (step { config := {} }).section_, program := o.program
          bankIds :=
            if (step { config := {} }).section_ = .bank then o.bankIds ++ [false]
            else o.bankIds }
        (step c) (step d) := by
    simp only [headerSteps, List.forall_mem_cons]
    refine ⟨?_, ?_, ?_, ?_, ?_, ?_, h.enterBank, ?_, ?_, ?_, ?_, ?_, List.forall_mem_nil _⟩
    · exact h.enterGroup .jumpTables (by decide) fun _ => rfl
    · exact h.enterGroup .tableCalls (by decide) fun _ => rfl
    · exact h.enterGroup .stateTables (by decide) fun _ => rfl
    · exact h.enterGroup .recordFormats (by decide) fun _ => rfl
    · exact h.enterGroup .routineTables (by decide) fun _ => rfl
    · exact h.enterGroup .dispatchers (by decide) fun _ => rfl
    · exact fun _ => h.enter (by decide)
    · exact fun _ => h.enter (by decide)
    · exact fun _ => h.enter (by decide)
    · exact fun _ => h.enter (by decide)
    · exact fun _ => h.enter (by decide)
  exact hsteps _ (readHeader_mem line) ht

/-! ## Pieces -/

theorem readPiece_blank {piece : List Char} (hl : lineText piece = []) (st : LoaderState)
    (o : Outline) : st.readPiece piece = st ∧ o.readPiece piece = o := by
  unfold LoaderState.readPiece Outline.readPiece
  rw [hl]
  exact ⟨rfl, rfl⟩

theorem readPiece_header {piece : List Char} (hl : (lineText piece).head? = some '[')
    (st : LoaderState) (o : Outline) :
    st.readPiece piece = st.readHeader (lineText piece) ∧
      o.readPiece piece = o.readHeader (lineText piece) := by
  unfold LoaderState.readPiece Outline.readPiece
  cases hline : lineText piece with
  | nil => rw [hline] at hl; cases hl
  | cons ch line =>
    rw [hline] at hl
    obtain rfl : ch = '[' := Option.some.inj hl
    exact ⟨rfl, rfl⟩

theorem readPiece_line {piece : List Char} (hne : lineText piece ≠ [])
    (hl : (lineText piece).head? ≠ some '[') (st : LoaderState) (o : Outline) :
    st.readPiece piece = st.readSectionLine (lineText piece) ∧
      o.readPiece piece = o.readSectionLine (lineText piece) := by
  unfold LoaderState.readPiece Outline.readPiece
  cases hline : lineText piece with
  | nil => exact absurd hline hne
  | cons ch line =>
    rw [hline] at hl
    have hch : ch ≠ '[' := fun h => hl (congrArg some h)
    constructor
    all_goals
      split
      · next h => cases h
      · next h => exact absurd (List.cons.inj h).1 hch
      · rfl

/-- A piece of the body of a section. -/
theorem Behind.readPiece (h : Behind base o c d) (piece : List Char)
    (hl : (lineText piece).head? ≠ some '[')
    (hlist : listsFiles c.section_ (lineText piece) = false)
    (ht : (d.readPiece piece).config.truncated = false) :
    Behind base (o.readPiece piece) (c.readPiece piece) (d.readPiece piece) := by
  by_cases hne : lineText piece = []
  · rw [(readPiece_blank hne c o).1, (readPiece_blank hne d o).1, (readPiece_blank hne d o).2]
    exact h
  · rw [(readPiece_line hne hl d o).1] at ht
    rw [(readPiece_line hne hl c o).1, (readPiece_line hne hl d o).1, (readPiece_line hne hl d o).2]
    exact h.readSectionLine _ hlist ht

end

/-! ## What a piece leaves alone -/

/-- The files of the local list and of the configuration are the same. -/
def LoaderState.Paired (st : LoaderState) : Prop := st.discoveryFiles = st.config.discoveryFiles

/-- What is cut off stays so, files are noted in both lists, and none in a quiet step. -/
structure Keeps (quiet : Prop) (st st' : LoaderState) : Prop where
  truncated : st.config.truncated = true → st'.config.truncated = true
  noted : quiet → st'.noted = st.noted
  paired : st.Paired → st'.Paired

section

variable {β γ : Type} {quiet : Prop}

theorem Keeps.rfl {st : LoaderState} : Keeps quiet st st := ⟨id, fun _ => Eq.refl _, id⟩

theorem Keeps.truncate {st st' : LoaderState} (h : Keeps quiet st st') (cut : Bool) :
    Keeps quiet st (st'.truncate cut) where
  truncated ht := by
    show (st'.config.truncated || cut) = true
    rw [h.truncated ht, Bool.true_or]
  noted := h.noted
  paired := h.paired

theorem Keeps.weaken {quiet' : Prop} {st st' : LoaderState} (h : Keeps quiet st st')
    (hq : quiet' → quiet) : Keeps quiet' st st' :=
  ⟨h.truncated, h.noted ∘ hq, h.paired⟩

theorem keeps_setGroup (g : ConfigGroup β) (items : List β) (st : LoaderState) :
    Keeps quiet st { st with config := g.set items st.config } where
  truncated ht := (g.truncated_set _ _).trans ht
  noted _ := congrArg (Prod.mk st.discoveryFiles) (g.discoveryFiles_set _ _)
  paired h := h.trans (g.discoveryFiles_set _ _).symm

theorem keeps_append (g : ConfigGroup β) (cap : Nat) (values : List β) (st : LoaderState) :
    Keeps quiet st (g.append cap values st) :=
  (keeps_setGroup g _ st).truncate _

theorem keeps_modifyArray (g : ConfigGroup β) (values : β → γ × Bool) (store : γ → β → β)
    (st : LoaderState) : Keeps quiet st (g.modifyArray values store st) := by
  unfold ConfigGroup.modifyArray
  split
  · exact .rfl
  · exact (keeps_setGroup g _ st).truncate _

theorem truncated_appendDiscoveryFile {st : LoaderState} (h : st.config.truncated = true)
    (value : List Char) : (st.appendDiscoveryFile value).config.truncated = true := by
  unfold LoaderState.appendDiscoveryFile
  split
  · exact h
  · split
    · exact Bool.or_true _
    · exact h

theorem truncated_appendDiscoveryFiles {st : LoaderState} (h : st.config.truncated = true)
    (values : List (List Char)) :
    (values.foldl LoaderState.appendDiscoveryFile st).config.truncated = true := by
  induction values generalizing st with
  | nil => exact h
  | cons value values ih => exact ih (truncated_appendDiscoveryFile h value)

theorem paired_appendDiscoveryFiles {st : LoaderState} (h : st.Paired)
    (values : List (List Char)) : (values.foldl LoaderState.appendDiscoveryFile st).Paired := by
  induction values generalizing st with
  | nil => exact h
  | cons value values ih =>
    apply ih
    unfold LoaderState.appendDiscoveryFile
    split
    · exact h
    · split
      · exact h
      · exact congrArg (· ++ _) h

theorem keeps_readArrayValues (st : LoaderState) (line : List Char) :
    Keeps (st.array ≠ .discoveryFiles) st (st.readArrayValues line) := by
  rw [readArrayValues_eq]
  cases harray : st.array with
  | none => exact .rfl
  | entry => exact keeps_append ..
  | extra => exact keeps_append ..
  | runtimeDispatch => exact keeps_append ..
  | discoveryFiles =>
    exact ⟨fun ht => truncated_appendDiscoveryFiles ht _, fun hq => absurd (Eq.refl _) hq,
      fun hp => paired_appendDiscoveryFiles hp _⟩
  | recordCallbackOffsets =>
    unfold readGroupValues
    exact keeps_modifyArray ..
  | recordScan =>
    unfold readGroupValues
    exact keeps_modifyArray ..
  | stateTableScan =>
    unfold readGroupValues
    exact keeps_modifyArray ..
  | routineTableScan =>
    unfold readGroupValues
    exact keeps_modifyArray ..
  | dispatcherInstallSlots =>
    unfold readGroupValues
    exact keeps_modifyArray ..
  | dispatcherSpawnHelpers =>
    unfold readGroupValues
    exact keeps_modifyArray ..

theorem keeps_readArrayLine (st : LoaderState) (line : List Char) :
    Keeps (st.array ≠ .discoveryFiles) st (st.readArrayLine line) := by
  have h := keeps_readArrayValues st line
  unfold LoaderState.readArrayLine
  split
  · exact ⟨h.truncated, h.noted, h.paired⟩
  · exact h

theorem keeps_withArray (st : LoaderState) (array : NgGameConfigArray) (line : List Char) :
    Keeps (array ≠ .discoveryFiles) st ({ st with array := array }.readArrayLine line) := by
  have h := keeps_readArrayLine { st with array := array } line
  exact ⟨h.truncated, h.noted, h.paired⟩

theorem keeps_readArraySection (st : LoaderState) {keys : List (String × NgGameConfigArray)}
    (hkeys : .discoveryFiles ∉ keys.map Prod.snd) (line : List Char) :
    Keeps (st.array ≠ .discoveryFiles) st (st.readArraySection keys line) := by
  apply (keeps_withArray st ((LoaderState.openArray keys line).getD st.array) line).weaken
  intro ha
  cases harray : LoaderState.openArray keys line with
  | none => exact ha
  | some array =>
    rintro rfl
    exact hkeys (mem_of_openArray harray)

theorem keeps_readRecordSection (st : LoaderState) {keys : List (String × NgGameConfigArray)}
    (hkeys : .discoveryFiles ∉ keys.map Prod.snd) (g : ConfigGroup β) (f : β → β)
    (line : List Char) :
    Keeps (st.array ≠ .discoveryFiles) st (st.readRecordSection keys
      (fun st' => (g.modify f { st' with config := st.config }).config) line) := by
  unfold LoaderState.readRecordSection
  split
  · exact keeps_readArrayLine st line
  · split
    · next array harray =>
      apply (keeps_withArray st array line).weaken
      rintro - rfl
      exact hkeys (mem_of_openArray harray)
    · exact keeps_setGroup g _ st

theorem keeps_readSectionLine (st : LoaderState) (line : List Char) :
    Keeps (st.array ≠ .discoveryFiles ∧ listsFiles st.section_ line = false) st
      (st.readSectionLine line) := by
  obtain ⟨section_, array, current, files, config⟩ := st
  cases section_ with
  | none => exact .rfl
  | functions => exact (keeps_readArraySection _ (by decide) line).weaken And.left
  | dispatch => exact (keeps_readArraySection _ (by decide) line).weaken And.left
  | game =>
    apply (keeps_withArray _ _ line).weaken
    rintro ⟨ha, hlist⟩
    rw [openArray_game hlist]
    exact ha
  | program => exact ⟨id, fun _ => rfl, id⟩
  | jumpTable => exact keeps_setGroup .jumpTables _ _
  | tableCall => exact keeps_setGroup .tableCalls _ _
  | bank => exact ⟨id, fun _ => rfl, id⟩
  | stateTable =>
    exact (keeps_readRecordSection _ (by decide) .stateTables (parseStateTableScalar.parse line)
      line).weaken And.left
  | routineTable =>
    exact (keeps_readRecordSection _ (by decide) .routineTables
      (parseRoutineTableScalar.parse line) line).weaken And.left
  | dispatcher =>
    exact (keeps_readRecordSection _ (by decide) .dispatchers (parseDispatcherScalar.parse line)
      line).weaken And.left
  | recordFormat =>
    exact (keeps_readRecordSection _ (by decide) .recordFormats
      (parseRecordFormatScalar.parse line) line).weaken And.left

theorem keeps_readHeader (st : LoaderState) (line : List Char) :
    Keeps True st (st.readHeader line) := by
  have hrecord : ∀ (section_ : NgGameConfigSection) (config : LoadedGameConfig) (room : Bool),
      config.truncated = st.config.truncated → config.discoveryFiles = st.config.discoveryFiles →
      Keeps True st (st.enterRecord section_ config room) := by
    intro section_ config room ht hfiles
    constructor
    · intro htrue
      show (config.truncated || !room) = true
      rw [ht, htrue, Bool.true_or]
    · exact fun _ => congrArg (Prod.mk st.discoveryFiles) hfiles
    · exact fun hp => hp.trans hfiles.symm
  have henter : ∀ section_, Keeps True st (st.enter section_) := fun _ => ⟨id, fun _ => rfl, id⟩
  have hsteps : ∀ step ∈ headerSteps, Keeps True st (step st) := by
    simp only [headerSteps, List.forall_mem_cons]
    exact ⟨hrecord _ _ _ rfl rfl, hrecord _ _ _ rfl rfl, hrecord _ _ _ rfl rfl,
      hrecord _ _ _ rfl rfl, hrecord _ _ _ rfl rfl, hrecord _ _ _ rfl rfl, hrecord _ _ _ rfl rfl,
      henter _, henter _, henter _, henter _, henter _, List.forall_mem_nil _⟩
  exact hsteps _ (readHeader_mem line)

theorem keeps_readPiece (st : LoaderState) (piece : List Char) :
    Keeps (st.array ≠ .discoveryFiles ∧ listsFiles st.section_ (lineText piece) = false) st
      (st.readPiece piece) := by
  by_cases hne : lineText piece = []
  · rw [(readPiece_blank hne st {}).1]
    exact .rfl
  · by_cases hl : (lineText piece).head? = some '['
    · rw [(readPiece_header hl st {}).1]
      exact (keeps_readHeader st _).weaken fun _ => trivial
    · rw [(readPiece_line hne hl st {}).1]
      exact keeps_readSectionLine st _

/-- What is not cut off at the end of some pieces was not cut off before them. -/
theorem truncated_of_readPieces {st : LoaderState} {pieces : List (List Char)}
    (h : (pieces.foldl LoaderState.readPiece st).config.truncated = false) :
    st.config.truncated = false := by
  induction pieces generalizing st with
  | nil => exact h
  | cons piece pieces ih =>
    have hstep : (st.readPiece piece).config.truncated = false := ih h
    by_contra htrue
    rw [(keeps_readPiece st piece).truncated (eq_true_of_ne_false htrue)] at hstep
    cases hstep

theorem paired_readPieces {st : LoaderState} (h : st.Paired) (pieces : List (List Char)) :
    (pieces.foldl LoaderState.readPiece st).Paired := by
  induction pieces generalizing st with
  | nil => exact h
  | cons piece pieces ih => exact ih ((keeps_readPiece st piece).paired h)

end

end NeoRecomp
