import Mathlib.Data.List.ModifyLast
import NeoRecomp.Correct.ConfigText

/-!
# Reading behind what is there

A text that starts with a section header reads the same behind any configuration: the loader adds
to each array what it reads from the text alone.  Only two things also depend on the text before.
The number a bank has without an `id` counts the banks before it, and a field of the program map
that no key sets keeps its value.  The outline of a text keeps what decides on both.
-/

namespace NeoRecomp

/-! ## Appending within bounds -/

theorem appendBounded_snd {β : Type} {cap : Nat} {items values : List β} :
    (appendBounded cap items values).2 = false ↔
      values = [] ∨ items.length + values.length ≤ cap := by
  induction values generalizing items with
  | nil => exact ⟨fun _ => .inl rfl, fun _ => rfl⟩
  | cons v values ih =>
    show (if cap ≤ items.length then (items, true)
      else appendBounded cap (items ++ [v]) values).2 = false ↔ _
    by_cases hcap : cap ≤ items.length
    · rw [if_pos hcap]
      simp only [List.length_cons, reduceCtorEq, false_or, Bool.true_eq_false, false_iff]
      omega
    · rw [if_neg hcap, ih]
      simp only [List.length_append, List.length_cons, List.length_nil, reduceCtorEq, false_or]
      constructor
      · rintro (rfl | h)
        · simp only [List.length_nil]
          omega
        · omega
      · intro h
        right
        omega

theorem appendBounded_fst {β : Type} {cap : Nat} {items values : List β}
    (h : (appendBounded cap items values).2 = false) :
    (appendBounded cap items values).1 = items ++ values := by
  induction values generalizing items with
  | nil => exact (List.append_nil _).symm
  | cons v values ih =>
    have hcap : ¬ cap ≤ items.length := by
      have := appendBounded_snd.mp h
      simp only [List.length_cons, reduceCtorEq, false_or] at this
      omega
    have hstep : appendBounded cap items (v :: values) =
        appendBounded cap (items ++ [v]) values := if_neg hcap
    rw [hstep] at h ⊢
    rw [ih h, List.append_assoc]
    rfl

/-- What finds room behind more items finds room behind fewer. -/
theorem appendBounded_behind {β : Type} {cap : Nat} {before items values : List β}
    (h : (appendBounded cap (before ++ items) values).2 = false) :
    (appendBounded cap items values).2 = false := by
  rw [appendBounded_snd] at h ⊢
  rw [List.length_append] at h
  rcases h with h | h
  · exact .inl h
  · exact .inr (by omega)

/-! ## The program map -/

/-- What the keys of `[program]` sections set. -/
structure ProgramKeys where
  fixedBase : Option (BitVec 32) := none
  fixedSize : Option (BitVec 32) := none
  bankWindowBase : Option (BitVec 32) := none
  bankWindowSize : Option (BitVec 32) := none

namespace ProgramKeys

/-- The map with the fields that are set. -/
def onto (keys : ProgramKeys) (map : ProgramMap) : ProgramMap where
  fixedBase := keys.fixedBase.getD map.fixedBase
  fixedSize := keys.fixedSize.getD map.fixedSize
  bankWindowBase := keys.bankWindowBase.getD map.bankWindowBase
  bankWindowSize := keys.bankWindowSize.getD map.bankWindowSize

/-- A field is set. -/
def any (keys : ProgramKeys) : Bool :=
  keys.fixedBase.isSome || keys.fixedSize.isSome || keys.bankWindowBase.isSome ||
    keys.bankWindowSize.isSome

/-- The keys of `parse_program_scalar`. -/
def scalars : ScalarKeys ProgramKeys :=
  [("fixed_base", number fun n k => { k with fixedBase := some n }),
   ("fixed_size", number fun n k => { k with fixedSize := some n }),
   ("bank_window_base", number fun n k => { k with bankWindowBase := some n }),
   ("bank_window_size", number fun n k => { k with bankWindowSize := some n })]

/-- Each field that is not zero in the map is set. -/
def Covers (keys : ProgramKeys) (map : ProgramMap) : Prop :=
  (keys.fixedBase = none → map.fixedBase = 0) ∧ (keys.fixedSize = none → map.fixedSize = 0) ∧
    (keys.bankWindowBase = none → map.bankWindowBase = 0) ∧
    (keys.bankWindowSize = none → map.bankWindowSize = 0)

theorem onto_parse (keys : ProgramKeys) (map : ProgramMap) (line : List Char) :
    (scalars.parse line keys).onto map = parseProgramScalar.parse line (keys.onto map) := by
  unfold scalars parseProgramScalar
  simp only [ScalarKeys.parse]
  cases keyValueStart line "fixed_base" with
  | some value => rfl
  | none =>
    cases keyValueStart line "fixed_size" with
    | some value => rfl
    | none =>
      cases keyValueStart line "bank_window_base" with
      | some value => rfl
      | none =>
        cases keyValueStart line "bank_window_size" with
        | some value => rfl
        | none => rfl

theorem any_parse (keys : ProgramKeys) (line : List Char) :
    (scalars.parse line keys).any = (keys.any || parseProgramScalar.has line) := by
  unfold scalars parseProgramScalar ScalarKeys.has
  simp only [ScalarKeys.parse, List.any_cons, List.any_nil]
  cases h1 : keyValueStart line "fixed_base" with
  | some value => simp [number, any]
  | none =>
    cases h2 : keyValueStart line "fixed_size" with
    | some value => simp [number, any]
    | none =>
      cases h3 : keyValueStart line "bank_window_base" with
      | some value => simp [number, any]
      | none =>
        cases h4 : keyValueStart line "bank_window_size" with
        | some value => simp [number, any]
        | none => simp [any]

theorem onto_of_any_false {keys : ProgramKeys} (h : keys.any = false) (map : ProgramMap) :
    keys.onto map = map := by
  obtain ⟨base, size, window, room⟩ := keys
  simp only [any, Bool.or_eq_false_iff, Option.isSome_eq_false_iff, Option.isNone_iff_eq_none]
    at h
  obtain ⟨⟨⟨rfl, rfl⟩, rfl⟩, rfl⟩ := h
  rfl

private theorem getD_eq_getD_iff {key : Option (BitVec 32)} {value : BitVec 32} :
    key.getD 0 = key.getD value ↔ (key = none → value = 0) := by
  cases key with
  | none => exact ⟨fun h _ => h.symm, fun h => (h rfl).symm⟩
  | some n => exact ⟨fun _ h => (Option.some_ne_none n h).elim, fun _ => rfl⟩

/-- Over the empty map the keys make what they make over one they cover. -/
theorem onto_eq_iff {keys : ProgramKeys} {map : ProgramMap} :
    keys.onto {} = keys.onto map ↔ keys.Covers map := by
  unfold onto Covers
  rw [ProgramMap.mk.injEq, getD_eq_getD_iff, getD_eq_getD_iff, getD_eq_getD_iff,
    getD_eq_getD_iff]

end ProgramKeys

/-! ## The outline of a text -/

/-- The section that a header starts. -/
def headerSection (line : List Char) : NgGameConfigSection :=
  (LoaderState.readHeader { config := {} } line).section_

/-- What the keys of a text set of the program map, and for each of its banks whether a line gives
its number. -/
structure Outline where
  section_ : NgGameConfigSection := .none
  program : ProgramKeys := {}
  bankIds : List Bool := []

namespace Outline

def readHeader (o : Outline) (line : List Char) : Outline where
  section_ := headerSection line
  program := o.program
  bankIds := if headerSection line = .bank then o.bankIds ++ [false] else o.bankIds

def readSectionLine (o : Outline) (line : List Char) : Outline :=
  match o.section_ with
  | .program => { o with program := ProgramKeys.scalars.parse line o.program }
  | .bank =>
    { o with
      bankIds :=
        if (keyValueStart line "id").isSome then o.bankIds.modifyLast fun _ => true
        else o.bankIds }
  | _ => o

def readPiece (o : Outline) (piece : List Char) : Outline :=
  match lineText piece with
  | [] => o
  | '[' :: line => o.readHeader ('[' :: line)
  | line => o.readSectionLine line

end Outline

/-! ## Configurations behind one another -/

/-- Banks behind others: a bank without a number of its own counts from there on. -/
def renumber (before : Nat) (bankIds : List Bool) (banks : List NgGameConfigBank) :
    List NgGameConfigBank :=
  List.zipWith (fun given bank =>
    if given then bank else { bank with id := BitVec.ofNat 32 before + bank.id }) bankIds banks

/-- What is read of a text behind `base`, where `o` is the outline of the text and `c` what is read
of it alone. -/
def joinConfig (base : LoadedGameConfig) (o : Outline) (c : LoadedGameConfig) :
    LoadedGameConfig where
  program := o.program.onto base.program
  programMapConfigured := base.programMapConfigured || o.program.any
  entry := base.entry ++ c.entry
  extra := base.extra ++ c.extra
  discoveryFiles := base.discoveryFiles
  jumpTables := base.jumpTables ++ c.jumpTables
  tableCalls := base.tableCalls ++ c.tableCalls
  stateTables := base.stateTables ++ c.stateTables
  recordFormats := base.recordFormats ++ c.recordFormats
  routineTables := base.routineTables ++ c.routineTables
  dispatchers := base.dispatchers ++ c.dispatchers
  banks := base.banks ++ renumber base.banks.length o.bankIds c.banks
  runtimeDispatch := base.runtimeDispatch ++ c.runtimeDispatch
  truncated := base.truncated || c.truncated

/-- The configurations `c` of a text alone and `d` of the text behind `base`. -/
structure Agree (base : LoadedGameConfig) (o : Outline) (c d : LoadedGameConfig) : Prop where
  joined : d = joinConfig base o c
  bankIds : o.bankIds.length = c.banks.length
  program : c.program = o.program.onto {}
  configured : c.programMapConfigured = o.program.any

/-- How many records a section of records is filling. -/
def recordCount (section_ : NgGameConfigSection) (config : LoadedGameConfig) : Nat :=
  match section_ with
  | .jumpTable => config.jumpTables.length
  | .tableCall => config.tableCalls.length
  | .stateTable => config.stateTables.length
  | .recordFormat => config.recordFormats.length
  | .routineTable => config.routineTables.length
  | .dispatcher => config.dispatchers.length
  | .bank => config.banks.length
  | _ => 0

/-! ## Groups of a configuration -/

/-- An array of the configuration that is merged value by value. -/
structure ConfigGroup (β : Type) where
  get : LoadedGameConfig → List β
  set : List β → LoadedGameConfig → LoadedGameConfig
  get_set : ∀ items c, get (set items c) = items := by intros; rfl
  get_join : ∀ base o c, get (joinConfig base o c) = get base ++ get c := by intros; rfl
  set_join : ∀ base o c items,
    set (get base ++ items) (joinConfig base o c) = joinConfig base o (set items c) := by
      intros; rfl
  truncated_set : ∀ items c, (set items c).truncated = c.truncated := by intros; rfl
  discoveryFiles_set : ∀ items c, (set items c).discoveryFiles = c.discoveryFiles := by
    intros; rfl
  banks_set : ∀ items c, (set items c).banks = c.banks := by intros; rfl
  program_set : ∀ items c, (set items c).program = c.program := by intros; rfl
  configured_set : ∀ items c, (set items c).programMapConfigured = c.programMapConfigured := by
    intros; rfl
  count_set : ∀ (section_ : NgGameConfigSection) items c, (get c).length ≤ items.length →
      recordCount section_ c ≤ recordCount section_ (set items c) := by
    intro section_ items c h
    cases section_ <;> first | exact h | exact Nat.le_refl _

namespace ConfigGroup

def entry : ConfigGroup (BitVec 32) where
  get := LoadedGameConfig.entry
  set items config := { config with entry := items }

def extra : ConfigGroup (BitVec 32) where
  get := LoadedGameConfig.extra
  set items config := { config with extra := items }

def runtimeDispatch : ConfigGroup (BitVec 32) where
  get := LoadedGameConfig.runtimeDispatch
  set items config := { config with runtimeDispatch := items }

def jumpTables : ConfigGroup NgGameConfigJumpTable where
  get := LoadedGameConfig.jumpTables
  set items config := { config with jumpTables := items }

def tableCalls : ConfigGroup NgGameConfigTableCall where
  get := LoadedGameConfig.tableCalls
  set items config := { config with tableCalls := items }

def stateTables : ConfigGroup NgGameConfigStateTable where
  get := LoadedGameConfig.stateTables
  set items config := { config with stateTables := items }

def recordFormats : ConfigGroup NamedRecordFormat where
  get := LoadedGameConfig.recordFormats
  set items config := { config with recordFormats := items }

def routineTables : ConfigGroup NamedRoutineTable where
  get := LoadedGameConfig.routineTables
  set items config := { config with routineTables := items }

def dispatchers : ConfigGroup NgGameConfigDispatcher where
  get := LoadedGameConfig.dispatchers
  set items config := { config with dispatchers := items }

end ConfigGroup

/-! ## Agreement of configurations -/

section

variable {base c d : LoadedGameConfig} {o : Outline} {β : Type}

/-- Nothing is read yet. -/
theorem Agree.start (base : LoadedGameConfig) : Agree base {} {} base where
  joined := by
    obtain ⟨⟨_, _, _, _⟩, _, _, _, _, _, _, _, _, _, _, _, _, _⟩ := base
    simp [joinConfig, ProgramKeys.onto, ProgramKeys.any, renumber]
  bankIds := rfl
  program := rfl
  configured := rfl

theorem Agree.get (h : Agree base o c d) (g : ConfigGroup β) : g.get d = g.get base ++ g.get c := by
  rw [h.joined, g.get_join]

theorem Agree.set (h : Agree base o c d) (g : ConfigGroup β) (items : List β) :
    Agree base o (g.set items c) (g.set (g.get base ++ items) d) where
  joined := by rw [h.joined, g.set_join]
  bankIds := by rw [g.banks_set]; exact h.bankIds
  program := by rw [g.program_set]; exact h.program
  configured := by rw [g.configured_set]; exact h.configured

/-- The section of the outline does not matter. -/
theorem Agree.inSection (h : Agree base o c d) (section_ : NgGameConfigSection) :
    Agree base { o with section_ := section_ } c d :=
  ⟨h.joined, h.bankIds, h.program, h.configured⟩

theorem length_renumber {before : Nat} {bankIds : List Bool} {banks : List NgGameConfigBank}
    (h : bankIds.length = banks.length) : (renumber before bankIds banks).length = banks.length := by
  unfold renumber
  rw [List.length_zipWith, h, Nat.min_self]

theorem renumber_concat {before : Nat} {bankIds : List Bool} {banks : List NgGameConfigBank}
    (h : bankIds.length = banks.length) (given : Bool) (bank : NgGameConfigBank) :
    renumber before (bankIds ++ [given]) (banks ++ [bank]) =
      renumber before bankIds banks ++ renumber before [given] [bank] :=
  List.zipWith_append h

/-- A bank takes the next number, alone and behind others. -/
theorem Agree.pushBank (h : Agree base o c d) :
    Agree base { o with section_ := .bank, bankIds := o.bankIds ++ [false] }
      { c with banks := c.banks ++ [{ id := BitVec.ofNat 32 c.banks.length }] }
      { d with banks := d.banks ++ [{ id := BitVec.ofNat 32 d.banks.length }] } where
  joined := by
    have hlen : d.banks.length = base.banks.length + c.banks.length := by
      rw [h.joined]
      show (_ ++ renumber _ _ _).length = _
      rw [List.length_append, length_renumber h.bankIds]
    rw [hlen, BitVec.ofNat_add, h.joined]
    unfold joinConfig
    dsimp only
    rw [renumber_concat h.bankIds, ← List.append_assoc]
    rfl
  bankIds := by
    rw [List.length_append, List.length_append, h.bankIds]
    rfl
  program := h.program
  configured := h.configured

/-- The keys of a bank with a number of its own or without. -/
theorem renumber_parseBankScalar (before : Nat) (given : Bool) (bank : NgGameConfigBank)
    (line : List Char) :
    (renumber before [given] [bank]).map (parseBankScalar.parse line) =
      renumber before [if (keyValueStart line "id").isSome then true else given]
        [parseBankScalar.parse line bank] := by
  unfold renumber parseBankScalar
  simp only [ScalarKeys.parse, List.zipWith_cons_cons, List.zipWith_nil_right, List.map_cons,
    List.map_nil]
  cases keyValueStart line "id" with
  | some value => cases given <;> rfl
  | none =>
    cases keyValueStart line "offset" with
    | some value => cases given <;> rfl
    | none =>
      cases keyValueStart line "physical_offset" with
      | some value => cases given <;> rfl
      | none => cases keyValueStart line "size" <;> cases given <;> rfl

theorem modifyLast_behind {items : List β} (hne : items ≠ []) (before : List β) (f : β → β) :
    (before ++ items).modifyLast f = before ++ items.modifyLast f :=
  List.modifyLast_append_of_right_ne_nil f before items hne

/-- A line of the bank that is last. -/
theorem Agree.readBank (h : Agree base o c d) (hne : c.banks ≠ []) (line : List Char) :
    Agree base
      { o with
        bankIds :=
          if (keyValueStart line "id").isSome then o.bankIds.modifyLast fun _ => true
          else o.bankIds }
      { c with banks := c.banks.modifyLast (parseBankScalar.parse line) }
      { d with banks := d.banks.modifyLast (parseBankScalar.parse line) } := by
  have hids : o.bankIds ≠ [] := by
    intro hnil
    have hlen := h.bankIds
    rw [hnil] at hlen
    exact hne (List.length_eq_zero_iff.mp hlen.symm)
  obtain ⟨banks, bank, hbanks⟩ := List.eq_nil_or_concat c.banks |>.resolve_left hne
  obtain ⟨ids, given, hgiven⟩ := List.eq_nil_or_concat o.bankIds |>.resolve_left hids
  rw [List.concat_eq_append] at hbanks hgiven
  have hlen : ids.length = banks.length := by
    have := h.bankIds
    rw [hbanks, hgiven, List.length_append, List.length_append] at this
    exact Nat.add_right_cancel this
  have hpart : (if (keyValueStart line "id").isSome then o.bankIds.modifyLast fun _ => true
      else o.bankIds) = ids ++ [if (keyValueStart line "id").isSome then true else given] := by
    rw [hgiven, List.modifyLast_concat]
    split <;> rfl
  rw [hpart, hbanks, List.modifyLast_concat]
  refine ⟨?_, ?_, h.program, h.configured⟩
  · have hd : d.banks = base.banks ++ (renumber base.banks.length ids banks ++
        renumber base.banks.length [given] [bank]) := by
      rw [← renumber_concat hlen, ← hgiven, ← hbanks, h.joined]
      rfl
    have hlast : d.banks.modifyLast (parseBankScalar.parse line) =
        base.banks ++ renumber base.banks.length
          (ids ++ [if (keyValueStart line "id").isSome then true else given])
          (banks ++ [parseBankScalar.parse line bank]) := by
      rw [hd, renumber_concat hlen, ← renumber_parseBankScalar, ← List.append_assoc,
        ← List.append_assoc]
      exact List.modifyLast_concat ..
    rw [hlast, h.joined]
    rfl
  · rw [List.length_append, List.length_append, hlen]
    rfl

/-- A line of a `[program]` section. -/
theorem Agree.readProgram (h : Agree base o c d) (line : List Char) :
    Agree base { o with program := ProgramKeys.scalars.parse line o.program }
      { c with
        program := parseProgramScalar.parse line c.program
        programMapConfigured := c.programMapConfigured || parseProgramScalar.has line }
      { d with
        program := parseProgramScalar.parse line d.program
        programMapConfigured := d.programMapConfigured || parseProgramScalar.has line } where
  joined := by
    have hmap : parseProgramScalar.parse line d.program =
        (ProgramKeys.scalars.parse line o.program).onto base.program := by
      rw [h.joined, ProgramKeys.onto_parse]
      rfl
    have hset : (d.programMapConfigured || parseProgramScalar.has line) =
        (base.programMapConfigured || (ProgramKeys.scalars.parse line o.program).any) := by
      rw [h.joined, ProgramKeys.any_parse, ← Bool.or_assoc]
      rfl
    rw [hmap, hset, h.joined]
    rfl
  bankIds := h.bankIds
  program := by
    show parseProgramScalar.parse line c.program = _
    rw [h.program, ← ProgramKeys.onto_parse]
  configured := by
    show (c.programMapConfigured || _) = _
    rw [h.configured, ← ProgramKeys.any_parse]

end

end NeoRecomp
