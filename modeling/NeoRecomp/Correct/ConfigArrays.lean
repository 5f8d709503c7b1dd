import Mathlib.Data.List.TakeWhile
import NeoRecomp.Correct.ConfigNumbers
import NeoRecomp.Correct.ConfigSplit

/-!
# Address arrays

An array of addresses in a file, over as many lines as its writer likes.  The loader reads it in
pieces; where no piece cuts what a reader takes for one thing, it finds the literals in order.
-/

namespace NeoRecomp

/-! ## Pieces of a file -/

theorem newline_fgets (room : Nat) (file : List Char) : '\n' ∉ (fgets room file).1.dropLast := by
  induction room generalizing file with
  | zero => exact List.not_mem_nil
  | succ room ih =>
    cases file with
    | nil => exact List.not_mem_nil
    | cons c file =>
      unfold fgets
      split
      · exact List.not_mem_nil
      · next hc =>
        show '\n' ∉ (c :: (fgets room file).1).dropLast
        cases hrest : (fgets room file).1 with
        | nil => exact List.not_mem_nil
        | cons d ds =>
          rw [List.dropLast_cons_of_ne_nil (List.cons_ne_nil d ds), ← hrest]
          intro hmem
          rcases List.mem_cons.mp hmem with h | h
          · exact hc h.symm
          · exact ih file h

/-- A newline can only be the last character of a piece. -/
theorem newline_readLines {file piece : List Char} (h : piece ∈ readLines file) :
    '\n' ∉ piece.dropLast := by
  induction hn : file.length using Nat.strong_induction_on generalizing file with
  | h n ih =>
    cases file with
    | nil => cases h
    | cons c file =>
      rw [readLines_cons] at h
      rcases List.mem_cons.mp h with rfl | h
      · exact newline_fgets _ _
      · exact ih _ (hn ▸ length_rest_lt c file) h rfl

/-- The pieces of a file make it up. -/
theorem flatten_readLines (file : List Char) : (readLines file).flatten = file := by
  induction hn : file.length using Nat.strong_induction_on generalizing file with
  | h n ih =>
    cases file with
    | nil => rfl
    | cons c file =>
      rw [readLines_cons, List.flatten_cons, ih _ (hn ▸ length_rest_lt c file) _ rfl]
      exact fgets_joins _ _

/-! ## The arrays -/

/-- The arrays of addresses outside of records. -/
inductive AddressArray
  | entry | extra | runtime
  deriving DecidableEq

namespace AddressArray

def key : AddressArray → String
  | entry => "entry"
  | extra => "extra"
  | runtime => "runtime"

def section_ : AddressArray → NgGameConfigSection
  | entry => .functions
  | extra => .functions
  | runtime => .dispatch

def array : AddressArray → NgGameConfigArray
  | entry => .entry
  | extra => .extra
  | runtime => .runtimeDispatch

/-- The arrays that the section opens. -/
def keys : AddressArray → List (String × NgGameConfigArray)
  | entry => [("entry", .entry), ("extra", .extra)]
  | extra => [("entry", .entry), ("extra", .extra)]
  | runtime => [("runtime", .runtimeDispatch)]

def cap : AddressArray → Nat
  | entry => ngGameConfigMaxFunctions
  | extra => ngGameConfigMaxFunctions
  | runtime => ngGameConfigMaxRuntimeDispatches

def group : AddressArray → ConfigGroup (BitVec 32)
  | entry => .entry
  | extra => .extra
  | runtime => .runtimeDispatch

def values (a : AddressArray) (config : LoadedGameConfig) : List (BitVec 32) := a.group.get config

theorem none_ne_array (a : AddressArray) : NgGameConfigArray.none ≠ a.array := by
  cases a <;> decide

end AddressArray

section

variable {a : AddressArray} {st : LoaderState}

theorem readSectionLine_of_section (hs : st.section_ = a.section_) (line : List Char) :
    st.readSectionLine line = st.readArraySection a.keys line := by
  obtain ⟨section_, _, _, _, _⟩ := st
  obtain rfl : section_ = a.section_ := hs
  cases a <;> rfl

theorem readArrayValues_of_array (ha : st.array = a.array) (line : List Char) :
    st.readArrayValues line = a.group.append a.cap (numbersIn line) st := by
  obtain ⟨_, array, _, _, _⟩ := st
  obtain rfl : array = a.array := ha
  cases a <;> rfl

/-- Two keys with different letters do not start the same line. -/
theorem keyStartsArray_head {line : List Char} {key : String}
    (h : keyStartsArray line key = true) : key.toList <+: line := by
  unfold keyStartsArray keyValueStart at h
  split at h
  · next hpre => exact List.isPrefixOf_iff_prefix.mp hpre
  · cases h

theorem openArray_of_key {line : List Char} (h : keyStartsArray line a.key = true) :
    LoaderState.openArray a.keys line = some a.array := by
  cases a with
  | entry =>
    have hkey : keyStartsArray line "entry" = true := h
    simp [LoaderState.openArray, AddressArray.keys, AddressArray.array, hkey]
  | runtime =>
    have hkey : keyStartsArray line "runtime" = true := h
    simp [LoaderState.openArray, AddressArray.keys, AddressArray.array, hkey]
  | extra =>
    have hkey : keyStartsArray line "extra" = true := h
    have hentry : keyStartsArray line "entry" = false := by
      by_contra hentry
      obtain ⟨more, hmore⟩ := keyStartsArray_head hkey
      obtain ⟨more', hmore'⟩ := keyStartsArray_head (eq_true_of_ne_false hentry)
      rw [← hmore'] at hmore
      cases hmore
    simp [LoaderState.openArray, AddressArray.keys, AddressArray.array, hkey, hentry]

theorem openArray_ne_of_not_key {line : List Char} (h : keyStartsArray line a.key = false) :
    LoaderState.openArray a.keys line ≠ some a.array := by
  intro hopen
  unfold LoaderState.openArray at hopen
  rw [Option.map_eq_some_iff] at hopen
  obtain ⟨key, hfind, harray⟩ := hopen
  have hmem := List.mem_of_find?_eq_some hfind
  have hstarts := List.find?_some hfind
  have hkey : key.1 = a.key := by
    cases a with
    | entry =>
      rcases List.mem_cons.mp hmem with rfl | hmem
      · rfl
      · obtain rfl := List.mem_singleton.mp hmem
        cases harray
    | extra =>
      rcases List.mem_cons.mp hmem with rfl | hmem
      · cases harray
      · obtain rfl := List.mem_singleton.mp hmem
        rfl
    | runtime =>
      obtain rfl := List.mem_singleton.mp hmem
      rfl
  rw [hkey, h] at hstarts
  cases hstarts

/-! ## Lines of the array -/

/-- A line that the open array takes. -/
theorem readArrayLine_values (ha : st.array = a.array) {line : List Char}
    (ht : (st.readArrayLine line).config.truncated = false) :
    a.values (st.readArrayLine line).config = a.values st.config ++ numbersIn line ∧
      (st.readArrayLine line).section_ = st.section_ ∧
      (st.readArrayLine line).array = if ']' ∈ line then .none else a.array := by
  have hvalues : (st.readArrayValues line).config.truncated = false := by
    unfold LoaderState.readArrayLine at ht
    split at ht <;> exact ht
  unfold LoaderState.readArrayLine
  rw [readArrayValues_of_array ha] at hvalues ⊢
  have hcut := LoaderState.truncated_truncate hvalues
  have hget : a.values (a.group.append a.cap (numbersIn line) st).config =
      a.values st.config ++ numbersIn line := by
    unfold ConfigGroup.append
    dsimp only
    rw [hcut, LoaderState.truncate_false, appendBounded_fst hcut]
    exact a.group.get_set _ _
  split
  · exact ⟨hget, rfl, rfl⟩
  · exact ⟨hget, rfl, ha⟩

/-- A piece that the array takes, because it is open or because the piece opens it. -/
theorem readPiece_values (hs : st.section_ = a.section_) {piece : List Char}
    (hhead : (lineText piece).head? ≠ some '[')
    (hopen : (LoaderState.openArray a.keys (lineText piece)).getD st.array = a.array)
    (ht : (st.readPiece piece).config.truncated = false) :
    a.values (st.readPiece piece).config = a.values st.config ++ numbersIn (lineText piece) ∧
      (st.readPiece piece).section_ = a.section_ ∧
      (st.readPiece piece).array = if ']' ∈ lineText piece then .none else a.array := by
  by_cases hne : lineText piece = []
  · rw [(readPiece_blank hne st {}).1, hne]
    rw [hne] at hopen
    have hnone : LoaderState.openArray a.keys [] = none := by cases a <;> rfl
    rw [hnone] at hopen
    exact ⟨(List.append_nil _).symm, hs, hopen⟩
  · rw [(readPiece_line hne hhead st {}).1, readSectionLine_of_section hs] at ht ⊢
    obtain ⟨hget, hsection, harray⟩ := @readArrayLine_values a { st with array := _ } hopen _ ht
    exact ⟨hget, hsection.trans hs, harray⟩

/-! ## Pieces beside the array -/

/-- The section after some pieces. -/
def sectionAfter (section_ : NgGameConfigSection) (pieces : List (List Char)) :
    NgGameConfigSection :=
  pieces.foldl (fun section_ piece =>
    if (lineText piece).head? = some '[' then headerSection (lineText piece) else section_) section_

/-- One of the pieces opens the array. -/
def opensArray (a : AddressArray) : NgGameConfigSection → List (List Char) → Bool
  | _, [] => false
  | section_, piece :: pieces =>
    section_ = a.section_ && keyStartsArray (lineText piece) a.key ||
      opensArray a (sectionAfter section_ [piece]) pieces

/-- The array is not open and stays as it is. -/
structure Aside (a : AddressArray) (st st' : LoaderState) : Prop where
  values : a.values st'.config = a.values st.config
  array : st'.array ≠ a.array

theorem values_truncated (config : LoadedGameConfig) (cut : Bool) :
    a.values { config with truncated := cut } = a.values config := by
  cases a <;> rfl

section

variable {β γ : Type} {g : ConfigGroup β}

theorem aside_append (hg : ∀ items c, a.values (g.set items c) = a.values c)
    (ha : st.array ≠ a.array) (cap : Nat) (values : List β) :
    Aside a st (g.append cap values st) where
  values := (values_truncated _ _).trans (hg _ _)
  array := ha

theorem aside_modifyArray (hg : ∀ items c, a.values (g.set items c) = a.values c)
    (ha : st.array ≠ a.array) (read : β → γ × Bool) (store : γ → β → β) :
    Aside a st (g.modifyArray read store st) := by
  unfold ConfigGroup.modifyArray
  split
  · exact ⟨rfl, ha⟩
  · exact ⟨(values_truncated _ _).trans (hg _ _), ha⟩

end

theorem Aside.trans {st' st'' : LoaderState} (h : Aside a st st') (h' : Aside a st' st'') :
    Aside a st st'' :=
  ⟨h'.values.trans h.values, h'.array⟩

theorem aside_appendDiscoveryFile (ha : st.array ≠ a.array) (value : List Char) :
    Aside a st (st.appendDiscoveryFile value) := by
  unfold LoaderState.appendDiscoveryFile
  split
  · exact ⟨rfl, ha⟩
  · split
    · exact ⟨values_truncated _ _, ha⟩
    · exact ⟨by cases a <;> rfl, ha⟩

theorem aside_appendDiscoveryFiles (ha : st.array ≠ a.array) (values : List (List Char)) :
    Aside a st (values.foldl LoaderState.appendDiscoveryFile st) := by
  induction values generalizing st with
  | nil => exact ⟨rfl, ha⟩
  | cons value values ih =>
    have hstep := aside_appendDiscoveryFile ha value
    exact hstep.trans (ih hstep.array)

theorem aside_readArrayValues (ha : st.array ≠ a.array) (line : List Char) :
    Aside a st (st.readArrayValues line) := by
  rw [readArrayValues_eq]
  have hopen := ha
  cases harray : st.array with
  | none => exact ⟨rfl, ha⟩
  | entry =>
    rw [harray] at hopen
    cases a with
    | entry => exact absurd rfl hopen
    | _ => exact aside_append (fun _ _ => rfl) ha _ _
  | extra =>
    rw [harray] at hopen
    cases a with
    | extra => exact absurd rfl hopen
    | _ => exact aside_append (fun _ _ => rfl) ha _ _
  | runtimeDispatch =>
    rw [harray] at hopen
    cases a with
    | runtime => exact absurd rfl hopen
    | _ => exact aside_append (fun _ _ => rfl) ha _ _
  | discoveryFiles => exact aside_appendDiscoveryFiles ha _
  | recordCallbackOffsets | recordScan | stateTableScan | routineTableScan
  | dispatcherInstallSlots | dispatcherSpawnHelpers =>
    unfold readGroupValues
    exact aside_modifyArray (fun _ _ => by cases a <;> rfl) ha _ _

theorem aside_readArrayLine (ha : st.array ≠ a.array) (line : List Char) :
    Aside a st (st.readArrayLine line) := by
  have h := aside_readArrayValues ha line
  unfold LoaderState.readArrayLine
  split
  · exact ⟨h.values, a.none_ne_array⟩
  · exact h

theorem aside_withArray {array : NgGameConfigArray} (ha : array ≠ a.array) (line : List Char) :
    Aside a st ({ st with array := array }.readArrayLine line) :=
  have h := @aside_readArrayLine a { st with array := array } ha line
  ⟨h.values, h.array⟩

theorem aside_readArraySection (ha : st.array ≠ a.array)
    {keys : List (String × NgGameConfigArray)} {line : List Char}
    (hkeys : LoaderState.openArray keys line ≠ some a.array) :
    Aside a st (st.readArraySection keys line) := by
  apply aside_withArray
  cases hopen : LoaderState.openArray keys line with
  | none => exact ha
  | some array => exact fun h => hkeys (hopen.trans (congrArg some h))

theorem aside_readRecordSection (ha : st.array ≠ a.array)
    {keys : List (String × NgGameConfigArray)} {line : List Char}
    (hkeys : LoaderState.openArray keys line ≠ some a.array)
    {scalar : LoaderState → LoadedGameConfig}
    (hscalar : a.values (scalar st) = a.values st.config) :
    Aside a st (st.readRecordSection keys scalar line) := by
  unfold LoaderState.readRecordSection
  split
  · exact aside_readArrayLine ha line
  · split
    · next array hopen =>
      exact aside_withArray (fun h => hkeys (hopen.trans (congrArg some h))) line
    · exact ⟨hscalar, ha⟩

/-- A section opens only arrays of its own. -/
theorem openArray_ne {keys : List (String × NgGameConfigArray)} (line : List Char)
    (hkeys : a.array ∉ keys.map Prod.snd) : LoaderState.openArray keys line ≠ some a.array :=
  fun h => hkeys (mem_of_openArray h)

theorem aside_readSectionLine (ha : st.array ≠ a.array) {line : List Char}
    (hkey : (st.section_ = a.section_ && keyStartsArray line a.key) = false) :
    Aside a st (st.readSectionLine line) := by
  by_cases hs : st.section_ = a.section_
  · rw [readSectionLine_of_section hs]
    apply aside_readArraySection ha
    apply openArray_ne_of_not_key
    simpa [hs] using hkey
  · obtain ⟨section_, array, current, files, config⟩ := st
    cases section_ with
    | none => exact ⟨rfl, ha⟩
    | functions =>
      apply aside_readArraySection ha (openArray_ne line _)
      cases a with
      | runtime => decide
      | _ => exact absurd rfl hs
    | dispatch =>
      apply aside_readArraySection ha (openArray_ne line _)
      cases a with
      | runtime => exact absurd rfl hs
      | _ => decide
    | game => exact aside_readArraySection ha (openArray_ne line (by cases a <;> decide))
    | program => exact ⟨by cases a <;> rfl, ha⟩
    | jumpTable => exact ⟨by cases a <;> rfl, ha⟩
    | tableCall => exact ⟨by cases a <;> rfl, ha⟩
    | bank => exact ⟨by cases a <;> rfl, ha⟩
    | stateTable | routineTable | dispatcher | recordFormat =>
      unfold LoaderState.readSectionLine
      apply aside_readRecordSection ha
      · exact openArray_ne line (by cases a <;> decide)
      · cases a <;> rfl

theorem aside_readHeader (line : List Char) : Aside a st (st.readHeader line) := by
  have hsteps : ∀ step ∈ headerSteps, Aside a st (step st) := by
    simp only [headerSteps, List.forall_mem_cons]
    have hnone := a.none_ne_array
    exact ⟨⟨by cases a <;> rfl, hnone⟩, ⟨by cases a <;> rfl, hnone⟩, ⟨by cases a <;> rfl, hnone⟩,
      ⟨by cases a <;> rfl, hnone⟩, ⟨by cases a <;> rfl, hnone⟩, ⟨by cases a <;> rfl, hnone⟩,
      ⟨by cases a <;> rfl, hnone⟩, ⟨rfl, hnone⟩, ⟨rfl, hnone⟩, ⟨rfl, hnone⟩, ⟨rfl, hnone⟩,
      ⟨rfl, hnone⟩, List.forall_mem_nil _⟩
  exact hsteps _ (readHeader_mem line)

/-! ## Sections along pieces -/

theorem section_readArrayValues (st : LoaderState) (line : List Char) :
    (st.readArrayValues line).section_ = st.section_ := by
  have hfiles : ∀ (values : List (List Char)) (st : LoaderState),
      (values.foldl LoaderState.appendDiscoveryFile st).section_ = st.section_ := by
    intro values
    induction values with
    | nil => exact fun _ => rfl
    | cons value values ih =>
      intro st
      rw [List.foldl_cons, ih]
      unfold LoaderState.appendDiscoveryFile
      split
      · rfl
      · split <;> rfl
  rw [readArrayValues_eq]
  cases st.array with
  | discoveryFiles => exact hfiles _ st
  | none | entry | extra | runtimeDispatch => rfl
  | recordCallbackOffsets | recordScan | stateTableScan | routineTableScan
  | dispatcherInstallSlots | dispatcherSpawnHelpers =>
    unfold readGroupValues ConfigGroup.modifyArray
    dsimp only
    split <;> rfl

theorem section_readArrayLine (st : LoaderState) (line : List Char) :
    (st.readArrayLine line).section_ = st.section_ := by
  unfold LoaderState.readArrayLine
  split <;> exact section_readArrayValues st line

theorem section_readSectionLine (st : LoaderState) (line : List Char) :
    (st.readSectionLine line).section_ = st.section_ := by
  have hrecord : ∀ (st : LoaderState) (keys : List (String × NgGameConfigArray))
      (scalar : LoaderState → LoadedGameConfig),
      (st.readRecordSection keys scalar line).section_ = st.section_ := by
    intro st keys scalar
    unfold LoaderState.readRecordSection
    split
    · exact section_readArrayLine st line
    · split
      · exact section_readArrayLine _ line
      · rfl
  obtain ⟨section_, array, current, files, config⟩ := st
  cases section_ with
  | functions | dispatch | game => exact section_readArrayLine _ line
  | stateTable | routineTable | dispatcher | recordFormat => exact hrecord _ _ _
  | _ => rfl

theorem section_readPiece (st : LoaderState) (piece : List Char) :
    (st.readPiece piece).section_ = sectionAfter st.section_ [piece] := by
  show _ = if (lineText piece).head? = some '[' then _ else _
  by_cases hl : (lineText piece).head? = some '['
  · have hsteps : ∀ step ∈ headerSteps,
        (step st).section_ = (step { config := {} }).section_ := by
      simp only [headerSteps, List.forall_mem_cons]
      exact ⟨rfl, rfl, rfl, rfl, rfl, rfl, rfl, rfl, rfl, rfl, rfl, rfl,
        List.forall_mem_nil _⟩
    rw [if_pos hl, (readPiece_header hl st {}).1]
    exact hsteps _ (readHeader_mem _)
  · rw [if_neg hl]
    by_cases hne : lineText piece = []
    · rw [(readPiece_blank hne st {}).1]
    · rw [(readPiece_line hne hl st {}).1, section_readSectionLine]

theorem aside_readPiece (ha : st.array ≠ a.array) {piece : List Char}
    (hkey : (st.section_ = a.section_ && keyStartsArray (lineText piece) a.key) = false) :
    Aside a st (st.readPiece piece) := by
  by_cases hl : (lineText piece).head? = some '['
  · rw [(readPiece_header hl st {}).1]
    exact aside_readHeader _
  · by_cases hne : lineText piece = []
    · rw [(readPiece_blank hne st {}).1]
      exact ⟨rfl, ha⟩
    · rw [(readPiece_line hne hl st {}).1]
      exact aside_readSectionLine ha hkey

/-- Pieces that do not open the array. -/
theorem aside_readPieces (ha : st.array ≠ a.array) {pieces : List (List Char)}
    (hopens : opensArray a st.section_ pieces = false) :
    Aside a st (pieces.foldl LoaderState.readPiece st) ∧
      (pieces.foldl LoaderState.readPiece st).section_ = sectionAfter st.section_ pieces := by
  induction pieces generalizing st with
  | nil => exact ⟨⟨rfl, ha⟩, rfl⟩
  | cons piece pieces ih =>
    obtain ⟨hkey, hrest⟩ := Bool.or_eq_false_iff.mp hopens
    have hstep := aside_readPiece ha hkey
    have hsection := section_readPiece st piece
    rw [← hsection] at hrest
    obtain ⟨haside, hafter⟩ := ih hstep.array hrest
    rw [hsection] at hafter
    exact ⟨hstep.trans haside, hafter⟩

end

/-! ## The text of an array -/

/-- An array as it is written: key, equals sign and bracket, and what stands up to the closing
bracket. -/
structure ArrayText (a : AddressArray) where
  gap : List Char
  gap' : List Char
  items : List ArrayItem
  blanks : ∀ c ∈ gap ++ gap', isSpace c = true
  chain : List.IsChain ArrayItem.Follows (.comma :: (items ++ [.comma]))

def ArrayText.opening {a : AddressArray} (t : ArrayText a) : List Char :=
  a.key.toList ++ (t.gap ++ '=' :: (t.gap' ++ ['[']))

def ArrayText.text {a : AddressArray} (t : ArrayText a) : List Char :=
  t.opening ++ itemsText t.items ++ [']']

/-- Groups of items as pieces; the last goes on with the closing bracket. -/
def closeGroups (tail : List Char) : List (List ArrayItem) → List (List Char)
  | [] => []
  | [group] => [itemsText group ++ ']' :: tail]
  | group :: groups => itemsText group :: closeGroups tail groups

/-- A file in which the array is written, and whose pieces end between items.  The key is the first
on its piece and has the opening bracket there. -/
structure ArrayPieces {a : AddressArray} (t : ArrayText a) (file : List Char) where
  earlier : List (List Char)
  lead : List Char
  groups : List (List ArrayItem)
  tail : List Char
  later : List (List Char)
  lead_blank : ∀ c ∈ lead, isSpace c = true
  groups_ne : groups ≠ []
  groups_items : groups.flatten = t.items
  pieces : readLines file =
    earlier ++ (closeGroups tail groups).modifyHead (lead ++ t.opening ++ ·) ++ later

theorem closeGroups_flatten {groups : List (List ArrayItem)} (hne : groups ≠ [])
    (front tail : List Char) :
    ((closeGroups tail groups).modifyHead (front ++ ·)).flatten =
      front ++ itemsText groups.flatten ++ ']' :: tail := by
  have hrest : ∀ groups : List (List ArrayItem), groups ≠ [] →
      (closeGroups tail groups).flatten = itemsText groups.flatten ++ ']' :: tail := by
    intro groups
    induction groups with
    | nil => exact fun h => absurd rfl h
    | cons group groups ih =>
      intro _
      cases groups with
      | nil => simp [closeGroups]
      | cons next groups =>
        show itemsText group ++ (closeGroups tail (next :: groups)).flatten = _
        rw [ih (List.cons_ne_nil _ _), List.flatten_cons (L := next :: groups), itemsText_append,
          List.append_assoc]
  have hflatten := hrest groups hne
  cases hclose : closeGroups tail groups with
  | nil =>
    rw [hclose] at hflatten
    exact absurd hflatten.symm (by simp)
  | cons piece pieces =>
    rw [hclose] at hflatten
    show (front ++ piece) ++ pieces.flatten = _
    rw [List.append_assoc, List.append_assoc, ← hflatten]
    rfl

/-- The array stands in such a file. -/
theorem ArrayPieces.file_eq {a : AddressArray} {t : ArrayText a} {file : List Char}
    (w : ArrayPieces t file) :
    file = w.earlier.flatten ++ w.lead ++ t.text ++ w.tail ++ w.later.flatten := by
  have hfile := flatten_readLines file
  rw [w.pieces, List.flatten_append, List.flatten_append, closeGroups_flatten w.groups_ne,
    w.groups_items] at hfile
  apply hfile.symm.trans
  simp [ArrayText.text]

/-- A piece inside a comment holds nothing that the loader takes for a part of the array. -/
structure Harmless (a : AddressArray) (piece : List Char) : Prop where
  quiet : ∀ c ∈ lineText piece, isDecDigit c = false ∧ c ≠ ']'
  header : (lineText piece).head? ≠ some '['
  opens : (LoaderState.openArray a.keys (lineText piece)).getD a.array = a.array

/-! ## What is seen of the pieces -/

theorem mem_trimLeft {c : Char} (hc : isSpace c = false) {line : List Char} :
    c ∈ trimLeft line ↔ c ∈ line := by
  induction line with
  | nil => exact Iff.rfl
  | cons d line ih =>
    by_cases hd : isSpace d = true
    · rw [trimLeft, List.dropWhile_cons_of_pos hd]
      have hne : c ≠ d := by
        rintro rfl
        rw [hc] at hd
        cases hd
      rw [List.mem_cons, or_iff_right hne]
      exact ih
    · rw [trimLeft, List.dropWhile_cons_of_neg hd]

/-- What the loader sees of a piece of the array. -/
structure Seen (piece : List Char) (numbers : List (BitVec 32)) (closes : Prop) : Prop where
  reads : Reads (visible piece) numbers
  bracket : ']' ∈ visible piece ↔ closes
  head : ∀ c ∈ (trimLeft (visible piece)).head?, c = ',' ∨ c = ']' ∨ isDecDigit c = true

theorem head_itemsText {items : List ArrayItem} (hplain : ∀ i ∈ items, i.plain = true)
    {back : List Char}
    (hback : ∀ c ∈ (trimLeft back).head?, c = ',' ∨ c = ']' ∨ isDecDigit c = true) :
    ∀ c ∈ (trimLeft (itemsText items ++ back)).head?,
      c = ',' ∨ c = ']' ∨ isDecDigit c = true := by
  induction items with
  | nil => exact hback
  | cons item items ih =>
    have hitem := hplain item List.mem_cons_self
    have htext : itemsText (item :: items) ++ back = item.text ++ (itemsText items ++ back) :=
      List.append_assoc ..
    rw [htext]
    cases item with
    | blank d hd =>
      show ∀ c ∈ (List.dropWhile isSpace (d :: _)).head?, _
      rw [List.dropWhile_cons_of_pos hd]
      exact ih fun i hi => hplain i (List.mem_cons_of_mem _ hi)
    | comma =>
      intro c hc
      obtain rfl : ',' = c := Option.some.inj hc
      exact .inl rfl
    | literal l =>
      obtain ⟨d, rest, hl, hdigit⟩ := l.text_head
      intro c hc
      have hspace : ¬ isSpace d = true := by rw [isSpace_of_isDecDigit hdigit]; decide
      have htrim : trimLeft (l.text ++ (itemsText items ++ back)) =
          d :: (rest ++ (itemsText items ++ back)) := by
        rw [hl]
        exact List.dropWhile_cons_of_neg hspace
      rw [show (ArrayItem.literal l).text = l.text from rfl, htrim] at hc
      obtain rfl : d = c := Option.some.inj hc
      exact .inr (.inr hdigit)
    | hash => cases hitem
    | inComment d hd => cases hitem

theorem bracket_not_mem {items : List ArrayItem} (hplain : ∀ i ∈ items, i.plain = true) :
    ']' ∉ itemsText items := fun h =>
  absurd (plainChar_of_mem_itemsText hplain h) (by decide)

/-- A piece between the brackets that does not start in a comment. -/
theorem seen_group {items : List ArrayItem} (hchain : List.IsChain ArrayItem.Follows items)
    (hhead : ∀ i ∈ items.head?, i.isInComment = false)
    (hline : '\n' ∉ (itemsText items).dropLast) :
    Seen (itemsText items) (itemsNumbers items) False := by
  obtain ⟨plain, hvisible, hplain, hchain', hnumbers⟩ := visible_piece hchain hhead hline
  have hends : EndsHere [] := nofun
  have hreads := reads_itemsText hplain hchain' .nil hends
  have hfirst := @head_itemsText plain hplain [] nofun
  rw [List.append_nil] at hreads hfirst
  rw [List.append_nil, hnumbers] at hreads
  exact ⟨hvisible ▸ hreads, iff_false_intro (hvisible ▸ bracket_not_mem hplain), hvisible ▸ hfirst⟩

/-- The piece with the closing bracket. -/
theorem seen_closing {items : List ArrayItem}
    (hchain : List.IsChain ArrayItem.Follows (items ++ [.comma]))
    (hline : '\n' ∉ itemsText items) {tail : List Char}
    (htail : ∀ c ∈ visible tail, isDecDigit c = false) :
    Seen (itemsText items ++ ']' :: tail) (itemsNumbers items) True := by
  have hplain := plain_of_closed hchain hline
  have hbracket : visible (']' :: tail) = ']' :: visible tail :=
    @visible_append [']'] (List.forall_mem_singleton.mpr (by decide)) tail
  have hvisible : visible (itemsText items ++ ']' :: tail) =
      itemsText items ++ ']' :: visible tail := by
    rw [visible_itemsText hplain, hbracket]
  have hpassed : ∀ c ∈ ']' :: visible tail, passed c = true := by
    intro c hc
    rcases List.mem_cons.mp hc with rfl | hc
    · decide
    · have hhash : c ≠ '#' := by
        have := List.mem_takeWhile_imp hc
        simpa using this
      simp [passed, htail c hc, hhash]
  have hends : EndsHere (']' :: visible tail) := by
    intro c hc
    obtain rfl : ']' = c := Option.some.inj hc
    decide
  have hback : Reads (']' :: visible tail) [] := by
    have := Reads.nil.passAll hpassed
    rwa [List.append_nil] at this
  have hreads := reads_itemsText hplain hchain.left_of_append hback hends
  rw [List.append_nil] at hreads
  refine ⟨hvisible ▸ hreads, ?_, ?_⟩
  · rw [hvisible]
    exact iff_true_intro (List.mem_append_right _ List.mem_cons_self)
  · rw [hvisible]
    apply head_itemsText hplain
    intro c hc
    obtain rfl : ']' = c := Option.some.inj hc
    exact .inr (.inl rfl)

section

variable {a : AddressArray}

/-- Only the key of the array starts with its first letter. -/
theorem openArray_none {line : List Char}
    (hhead : ∀ c ∈ line.head?, c = ',' ∨ c = ']' ∨ isDecDigit c = true) :
    LoaderState.openArray a.keys line = none := by
  have hkey : ∀ key : String,
      key.toList.head?.all (fun c => c ≠ ',' && c ≠ ']' && !isDecDigit c) = true →
      key.toList ≠ [] → keyStartsArray line key = false := by
    intro key hfirst hne
    by_contra hstarts
    obtain ⟨more, hmore⟩ := keyStartsArray_head (eq_true_of_ne_false hstarts)
    cases hlist : key.toList with
    | nil => exact hne hlist
    | cons c rest =>
      rw [hlist] at hmore hfirst
      simp only [List.head?_cons, Option.all_some, Bool.and_eq_true, decide_eq_true_eq,
        Bool.not_eq_true'] at hfirst
      rw [← hmore] at hhead
      rcases hhead c rfl with h | h | h
      · exact hfirst.1.1 h
      · exact hfirst.1.2 h
      · rw [hfirst.2] at h
        cases h
  have hentry := hkey "entry" (by decide) (by decide)
  have hextra := hkey "extra" (by decide) (by decide)
  have hruntime := hkey "runtime" (by decide) (by decide)
  cases a <;> simp [LoaderState.openArray, AddressArray.keys, hentry, hextra, hruntime]

theorem Seen.notHeader {piece : List Char} {numbers : List (BitVec 32)} {closes : Prop}
    (h : Seen piece numbers closes) : (lineText piece).head? ≠ some '[' := by
  intro hhead
  rcases h.head '[' hhead with h | h | h <;> exact absurd h (by decide)

/-- The characters up to the opening bracket. -/
theorem opening_chars (t : ArrayText a) {p : Char → Bool} (hkey : a.key.toList.all p = true)
    (hspace : ∀ c, isSpace c = true → p c = true) (hequals : p '=' = true)
    (hbracket : p '[' = true) : ∀ c ∈ t.opening, p c = true := by
  intro c hc
  rcases List.mem_append.mp hc with hc | hc
  · exact List.all_eq_true.mp hkey c hc
  · rcases List.mem_append.mp hc with hc | hc
    · exact hspace c (t.blanks c (List.mem_append_left _ hc))
    · rcases List.mem_cons.mp hc with rfl | hc
      · exact hequals
      · rcases List.mem_append.mp hc with hc | hc
        · exact hspace c (t.blanks c (List.mem_append_right _ hc))
        · obtain rfl := List.mem_singleton.mp hc
          exact hbracket

/-- The line that opens the array. -/
theorem lineText_opening (t : ArrayText a) {lead : List Char}
    (hlead : ∀ c ∈ lead, isSpace c = true) (back : List Char) :
    lineText (lead ++ t.opening ++ back) = t.opening ++ visible back := by
  have hclean : ∀ c ∈ t.opening, c ≠ '\x00' ∧ c ≠ '#' := by
    have hchars : ∀ c ∈ t.opening, (c ≠ '\x00' && c ≠ '#') = true :=
      opening_chars t (by cases a <;> decide)
        (fun c h => by simpa using clean_of_plainChar (plainChar_of_isSpace h)) (by decide)
        (by decide)
    intro c hc
    simpa using hchars c hc
  have hleadClean : ∀ c ∈ lead, c ≠ '\x00' ∧ c ≠ '#' := fun c hc =>
    clean_of_plainChar (plainChar_of_isSpace (hlead c hc))
  rw [lineText_eq, List.append_assoc, visible_append hleadClean, visible_append hclean]
  unfold trimLeft
  rw [List.dropWhile_append_of_pos hlead]
  cases a <;> rfl

theorem keyStartsArray_opening (t : ArrayText a) (back : List Char) :
    keyStartsArray (t.opening ++ back) a.key = true := by
  have hsplit : t.opening ++ back =
      a.key.toList ++ (t.gap ++ '=' :: (t.gap' ++ ['['] ++ back)) := by
    unfold ArrayText.opening
    simp only [List.append_assoc, List.cons_append]
  have htrim : trimLeft (t.gap ++ '=' :: (t.gap' ++ ['['] ++ back)) =
      '=' :: (t.gap' ++ ['['] ++ back) := by
    unfold trimLeft
    rw [List.dropWhile_append_of_pos fun c hc => t.blanks c (List.mem_append_left _ hc),
      List.dropWhile_cons_of_neg (by decide)]
  unfold keyStartsArray keyValueStart
  rw [hsplit, if_pos (List.isPrefixOf_iff_prefix.mpr (List.prefix_append _ _)), List.drop_left,
    htrim]
  rfl

/-- The first piece, by what is seen of it behind the opening bracket. -/
theorem opening_piece (t : ArrayText a) {lead : List Char}
    (hlead : ∀ c ∈ lead, isSpace c = true) {back : List Char} {numbers : List (BitVec 32)}
    {closes : Prop} (h : Seen back numbers closes) :
    (lineText (lead ++ t.opening ++ back)).head? ≠ some '[' ∧
      LoaderState.openArray a.keys (lineText (lead ++ t.opening ++ back)) = some a.array ∧
      numbersIn (lineText (lead ++ t.opening ++ back)) = numbers ∧
      (']' ∈ lineText (lead ++ t.opening ++ back) ↔ closes) := by
  rw [lineText_opening t hlead]
  have hpassed : ∀ c ∈ t.opening, passed c = true :=
    opening_chars t (by cases a <;> decide) (fun _ => passed_of_isSpace) (by decide) (by decide)
  have hbracket : ']' ∉ t.opening := by
    have hchars : ∀ c ∈ t.opening, decide (c ≠ ']') = true :=
      opening_chars t (by cases a <;> decide)
        (fun c hc => decide_eq_true (by rintro rfl; exact absurd hc (by decide))) (by decide)
        (by decide)
    exact fun hmem => of_decide_eq_true (hchars _ hmem) rfl
  refine ⟨?_, openArray_of_key (keyStartsArray_opening t _), ?_, ?_⟩
  · cases a <;> exact fun h => absurd (Option.some.inj h) (by decide)
  · exact (h.reads.passAll hpassed).numbersIn_eq
  · rw [List.mem_append, or_iff_right hbracket]
    exact h.bracket

/-! ## Reading the array -/

theorem numbersIn_quiet {line : List Char} (h : ∀ c ∈ line, isDecDigit c = false) :
    numbersIn line = [] := by
  have hturns : ∀ (turns : Nat) (line : List Char), (∀ c ∈ line, isDecDigit c = false) →
      lineNumbers turns line = [] := by
    intro turns
    induction turns with
    | zero => exact fun _ _ => rfl
    | succ turns ih =>
      intro line hline
      cases line with
      | nil => rfl
      | cons c line =>
        show (if c = '#' then [] else if isDecDigit c then _ else lineNumbers turns line) = []
        split
        · rfl
        · rw [if_neg (by simp [hline c List.mem_cons_self])]
          exact ih line fun d hd => hline d (List.mem_cons_of_mem _ hd)
  exact hturns _ _ h

theorem newline_of_append {front back : List Char} (h : '\n' ∉ (front ++ back).dropLast) :
    '\n' ∉ back.dropLast := by
  intro hmem
  cases back with
  | nil => cases hmem
  | cons c back =>
    apply h
    rw [List.dropLast_append_of_ne_nil (List.cons_ne_nil c back)]
    exact List.mem_append_right _ hmem

theorem newline_of_append_cons {front back : List Char} {c : Char}
    (h : '\n' ∉ (front ++ c :: back).dropLast) : '\n' ∉ front := by
  intro hmem
  apply h
  rw [List.dropLast_append_of_ne_nil (List.cons_ne_nil c back)]
  exact List.mem_append_left _ hmem

/-- The pieces behind the first. -/
theorem read_groups {st : LoaderState} (hs : st.section_ = a.section_) (ha : st.array = a.array)
    {groups : List (List ArrayItem)} (hne : groups ≠ [])
    (hchain : List.IsChain ArrayItem.Follows (groups.flatten ++ [.comma])) {tail : List Char}
    (hline : ∀ piece ∈ closeGroups tail groups, '\n' ∉ piece.dropLast)
    (hcomments : ∀ group ∈ groups, (∃ i ∈ group.head?, i.isInComment = true) →
      Harmless a (itemsText group))
    (htail : ∀ c ∈ visible tail, isDecDigit c = false)
    (ht : ((closeGroups tail groups).foldl LoaderState.readPiece st).config.truncated = false) :
    a.values ((closeGroups tail groups).foldl LoaderState.readPiece st).config =
        a.values st.config ++ itemsNumbers groups.flatten ∧
      ((closeGroups tail groups).foldl LoaderState.readPiece st).section_ = a.section_ ∧
      ((closeGroups tail groups).foldl LoaderState.readPiece st).array = .none := by
  induction groups generalizing st with
  | nil => exact absurd rfl hne
  | cons group groups ih =>
    cases groups with
    | nil =>
      rw [List.flatten_singleton] at hchain ⊢
      have hseen := seen_closing hchain
        (newline_of_append_cons (hline _ List.mem_cons_self)) htail
      have hopen := @openArray_none a _ hseen.head
      obtain ⟨hvalues, hsection, harray⟩ :=
        readPiece_values hs hseen.notHeader (by rw [← lineText_eq] at hopen; rw [hopen]; exact ha) ht
      have hbracket : ']' ∈ lineText (itemsText group ++ ']' :: tail) :=
        (mem_trimLeft (by decide)).mpr (hseen.bracket.mpr trivial)
      rw [if_pos hbracket] at harray
      refine ⟨hvalues.trans ?_, hsection, harray⟩
      rw [lineText_eq, hseen.reads.trim.numbersIn_eq]
    | cons next groups =>
      have hrest : List.IsChain ArrayItem.Follows ((next :: groups).flatten ++ [.comma]) := by
        rw [List.flatten_cons, List.append_assoc] at hchain
        exact hchain.right_of_append
      have hgroup : List.IsChain ArrayItem.Follows group := by
        rw [List.flatten_cons, List.append_assoc] at hchain
        exact hchain.left_of_append
      have hpiece := hline _ List.mem_cons_self
      have hstep : (st.readPiece (itemsText group)).config.truncated = false :=
        truncated_of_readPieces ht
      -- A piece either starts in a comment or is seen as its items.
      have hread : a.values (st.readPiece (itemsText group)).config =
            a.values st.config ++ itemsNumbers group ∧
          (st.readPiece (itemsText group)).section_ = a.section_ ∧
          (st.readPiece (itemsText group)).array = a.array := by
        by_cases hin : ∃ i ∈ group.head?, i.isInComment = true
        · have hquiet := hcomments group List.mem_cons_self hin
          obtain ⟨hvalues, hsection, harray⟩ :=
            readPiece_values hs hquiet.header (by rw [ha]; exact hquiet.opens) hstep
          rw [if_neg fun h => (hquiet.quiet _ h).2 rfl] at harray
          rw [numbersIn_quiet fun c hc => (hquiet.quiet c hc).1] at hvalues
          have hnone : itemsNumbers group = [] := by
            obtain ⟨i, hi, hcomment⟩ := hin
            cases group with
            | nil => cases hi
            | cons item group =>
              obtain rfl : item = i := Option.some.inj hi
              cases item with
              | inComment c hc =>
                show itemsNumbers group = []
                exact itemsNumbers_comment rfl hgroup (@newline_of_append [c] _ hpiece)
              | _ => cases hcomment
          rw [hnone]
          exact ⟨hvalues, hsection, harray⟩
        · have hhead : ∀ i ∈ group.head?, i.isInComment = false := fun i hi =>
            Bool.eq_false_iff.mpr fun h => hin ⟨i, hi, h⟩
          have hseen := seen_group hgroup hhead hpiece
          have hopen := @openArray_none a _ hseen.head
          rw [← lineText_eq] at hopen
          obtain ⟨hvalues, hsection, harray⟩ :=
            readPiece_values hs hseen.notHeader (by rw [hopen]; exact ha) hstep
          have hbracket : ']' ∉ lineText (itemsText group) := fun h =>
            hseen.bracket.mp ((mem_trimLeft (by decide)).mp h)
          rw [if_neg hbracket] at harray
          rw [lineText_eq, hseen.reads.trim.numbersIn_eq] at hvalues
          exact ⟨hvalues, hsection, harray⟩
      obtain ⟨hvalues, hsection, harray⟩ := hread
      obtain ⟨hvalues', hsection', harray'⟩ := ih hsection harray (List.cons_ne_nil _ _) hrest
        (fun piece hp => hline piece (List.mem_cons_of_mem _ hp))
        (fun g hg => hcomments g (List.mem_cons_of_mem _ hg)) ht
      refine ⟨hvalues'.trans ?_, hsection', harray'⟩
      rw [hvalues, List.append_assoc, ← itemsNumbers_append, ← List.flatten_cons]

/-- The whole array, from its key to its closing bracket. -/
theorem read_array {t : ArrayText a} {file : List Char} (w : ArrayPieces t file)
    {st : LoaderState} (hs : st.section_ = a.section_)
    (hcomments : ∀ group ∈ w.groups, (∃ i ∈ group.head?, i.isInComment = true) →
      Harmless a (itemsText group))
    (htail : ∀ c ∈ visible w.tail, isDecDigit c = false) {pieces : List (List Char)}
    (hpieces : (closeGroups w.tail w.groups).modifyHead (w.lead ++ t.opening ++ ·) = pieces)
    (ht : (pieces.foldl LoaderState.readPiece st).config.truncated = false) :
    a.values (pieces.foldl LoaderState.readPiece st).config =
        a.values st.config ++ itemsNumbers t.items ∧
      (pieces.foldl LoaderState.readPiece st).section_ = a.section_ ∧
      (pieces.foldl LoaderState.readPiece st).array = .none := by
  have hline : ∀ piece ∈ pieces, '\n' ∉ piece.dropLast := by
    intro piece hp
    apply @newline_readLines file
    rw [w.pieces, hpieces]
    exact List.mem_append_left _ (List.mem_append_right _ hp)
  have hchain := t.chain
  rw [← w.groups_items] at hchain
  cases hgroups : w.groups with
  | nil => exact absurd hgroups w.groups_ne
  | cons group groups =>
    rw [← w.groups_items, hgroups]
    rw [hgroups] at hpieces hchain hcomments
    -- The bracket in front keeps the first group out of comments.
    have hhead : ∀ i ∈ group.head?, i.isInComment = false := by
      intro i hi
      cases group with
      | nil => cases hi
      | cons item group =>
        obtain rfl : item = i := Option.some.inj hi
        have hfollows := (List.isChain_cons_cons.mp hchain).1
        cases item with
        | inComment c hc => exact hfollows.elim
        | _ => rfl
    have hall := hchain.tail
    cases groups with
    | nil =>
      obtain rfl := hpieces
      rw [List.flatten_singleton] at hall ⊢
      have hseen := seen_closing hall (newline_of_append_cons
        (newline_of_append (hline _ List.mem_cons_self))) htail
      obtain ⟨hheader, hopen, hnumbers, hbracket⟩ := opening_piece t w.lead_blank hseen
      obtain ⟨hvalues, hsection, harray⟩ :=
        readPiece_values hs hheader (by rw [hopen]; rfl) ht
      rw [if_pos (hbracket.mpr trivial)] at harray
      rw [hnumbers] at hvalues
      exact ⟨hvalues, hsection, harray⟩
    | cons next groups =>
      obtain rfl := hpieces
      have hgroup : List.IsChain ArrayItem.Follows group := by
        rw [List.flatten_cons, List.append_assoc] at hall
        exact hall.left_of_append
      have hrest : List.IsChain ArrayItem.Follows ((next :: groups).flatten ++ [.comma]) := by
        rw [List.flatten_cons, List.append_assoc] at hall
        exact hall.right_of_append
      have hseen := seen_group hgroup hhead (newline_of_append (hline _ List.mem_cons_self))
      obtain ⟨hheader, hopen, hnumbers, hbracket⟩ := opening_piece t w.lead_blank hseen
      obtain ⟨hvalues, hsection, harray⟩ :=
        readPiece_values hs hheader (by rw [hopen]; rfl) (truncated_of_readPieces ht)
      rw [if_neg hbracket.mp] at harray
      rw [hnumbers] at hvalues
      obtain ⟨hvalues', hsection', harray'⟩ := read_groups hsection harray
        (List.cons_ne_nil next groups) hrest
        (fun piece hp => hline piece (List.mem_cons_of_mem _ hp))
        (fun g hg => hcomments g (List.mem_cons_of_mem _ hg)) htail ht
      refine ⟨hvalues'.trans ?_, hsection', harray'⟩
      rw [hvalues, List.append_assoc, ← itemsNumbers_append, ← List.flatten_cons]

/-- Files listed elsewhere that hold no such array leave it alone. -/
theorem values_loadListed {files : List Char → Option (List Char)} {depths : Nat}
    {base : List Char} {names : List (List Char)} {config loaded : LoadedGameConfig}
    (h : names.foldl (loadListed files depths base) (some config) = some loaded)
    (ht : loaded.truncated = false)
    (hnone : ∀ name ∈ names, ∀ child,
      ngGameConfigLoadInto files depths (joinPath base name) ngGameConfigInit = some child →
        a.values child = []) : a.values loaded = a.values config := by
  induction names generalizing config with
  | nil =>
    obtain rfl : config = loaded := Option.some.inj h
    rfl
  | cons name names ih =>
    rw [List.foldl_cons] at h
    cases hload : ngGameConfigLoadInto files depths (joinPath base name) ngGameConfigInit with
    | none =>
      have hstep : loadListed files depths base (some config) name = none := by
        unfold loadListed
        rw [Option.bind_some, hload]
        rfl
      rw [hstep, loadListed_none] at h
      cases h
    | some child =>
      have hstep : loadListed files depths base (some config) name =
          some (appendConfigValues config child) := by
        unfold loadListed
        rw [Option.bind_some, hload]
        rfl
      rw [hstep] at h
      have hcut := (loadListed_keeps h).2 ht
      have hchild := hnone name List.mem_cons_self child hload
      have happend : a.values (appendConfigValues config child) =
          a.values config ++ a.values child := by
        rw [appendConfigValues_eq hcut]
        cases a <;> rfl
      rw [ih h fun n hn => hnone n (List.mem_cons_of_mem _ hn), happend, hchild, List.append_nil]

/-- An array that is written once in a file is read as its literals, as long as the pieces of the
file end between its items, what goes on of a comment in a piece of its own holds nothing of the
array, and no digit stands behind the closing bracket on its piece. -/
theorem array_read {t : ArrayText a} {file : List Char} (w : ArrayPieces t file)
    {files : List Char → Option (List Char)} {path : List Char} {config : LoadedGameConfig}
    (hfile : files path = some file) (hload : ngGameConfigLoad files path = some config)
    (hroom : config.truncated = false)
    (hsection : sectionAfter .none w.earlier = a.section_)
    (honce : opensArray a .none w.earlier = false ∧ opensArray a a.section_ w.later = false)
    (hlisted : ∀ name ∈ config.discoveryFiles, ∀ child,
      ngGameConfigLoadInto files 8 (joinPath (dirnameOf path) name) ngGameConfigInit = some child →
        a.values child = [])
    (hcomments : ∀ group ∈ w.groups, (∃ i ∈ group.head?, i.isInComment = true) →
      Harmless a (itemsText group))
    (htail : ∀ c ∈ visible w.tail, isDecDigit c = false) :
    a.values config = itemsNumbers t.items := by
  have hloadMain := (ngGameConfigLoadInto_succ hfile 8 ngGameConfigInit).symm.trans hload
  obtain ⟨hnames, hcut⟩ := loadListed_keeps hloadMain
  rw [hnames, ← paired_readText] at hlisted
  rw [values_loadListed hloadMain hroom hlisted]
  have hread := hcut hroom
  unfold LoaderState.readText at hread ⊢
  rw [w.pieces, List.foldl_append, List.foldl_append] at hread ⊢
  -- Before the array, in it and behind it.
  have hclosed := a.none_ne_array
  obtain ⟨hbefore, hstart⟩ :=
    @aside_readPieces a { config := ngGameConfigInit } hclosed w.earlier honce.1
  obtain ⟨hvalues, hin, harray⟩ := read_array w (hstart.trans hsection) hcomments htail rfl
    (truncated_of_readPieces hread)
  have hlater : opensArray a (LoaderState.section_ _) w.later = false := hin.symm ▸ honce.2
  obtain ⟨hafter, -⟩ := aside_readPieces (by rw [harray]; exact hclosed) hlater
  rw [hafter.values, hvalues, hbefore.values]
  cases a <;> rfl

end

/-! ## An array on two lines, and one with a long line -/

def sampleOne : AddressLiteral where
  hex := false
  first := '1'
  more := []
  digits := List.all_eq_true.mp (by decide)
  plain := fun _ _ => rfl
  small := by decide

def sampleTwelve : AddressLiteral where
  hex := false
  first := '1'
  more := ['2']
  digits := List.all_eq_true.mp (by decide)
  plain := by decide
  small := by decide

/-- `entry = [1, # 2`, newline, `12]`. -/
def sampleArray : ArrayText .entry where
  gap := [' ']
  gap' := [' ']
  items := [.literal sampleOne, .comma, .blank ' ' rfl, .hash, .inComment ' ' (by decide),
    .inComment '2' (by decide), .blank '\n' rfl, .literal sampleTwelve]
  blanks := List.all_eq_true.mp (by decide)
  chain := by simp [ArrayItem.Follows]

def sampleArrayFile : List Char := "[functions]\nentry = [1, # 2\n12]\n".toList

def samplePieces : ArrayPieces sampleArray sampleArrayFile where
  earlier := ["[functions]\n".toList]
  lead := []
  groups := [sampleArray.items.take 7, [.literal sampleTwelve]]
  tail := ['\n']
  later := []
  lead_blank := nofun
  groups_ne := List.cons_ne_nil _ _
  groups_items := rfl
  pieces := by decide +kernel

def loadOnly (file : List Char) : LoadedGameConfig :=
  (ngGameConfigLoad (fun _ => some file) []).getD ngGameConfigInit

theorem array_read_two_lines :
    AddressArray.values .entry (loadOnly sampleArrayFile) = [1, 12] := by
  apply @array_read .entry sampleArray sampleArrayFile samplePieces (fun _ => some sampleArrayFile)
    [] (loadOnly sampleArrayFile) rfl (by decide +kernel) (by decide +kernel) (by decide +kernel)
    (by decide +kernel)
  · have hnone : (loadOnly sampleArrayFile).discoveryFiles = [] := by decide +kernel
    intro name hname
    rw [hnone] at hname
    cases hname
  · intro group hgroup hin
    obtain ⟨i, hi, hcomment⟩ := hin
    rcases List.mem_cons.mp hgroup with rfl | hgroup
    · obtain rfl := Option.some.inj hi
      cases hcomment
    · obtain rfl := List.mem_singleton.mp hgroup
      obtain rfl := Option.some.inj hi
      cases hcomment
  · have hquiet : (visible samplePieces.tail).all (fun c => !isDecDigit c) = true := by
      decide +kernel
    intro c hc
    simpa using List.all_eq_true.mp hquiet c hc

/-- `entry = [`, 501 blanks and `12]`: the first piece ends inside the literal. -/
def longArray : ArrayText .entry where
  gap := [' ']
  gap' := [' ']
  items := List.replicate 501 (.blank ' ' rfl) ++ [.literal sampleTwelve]
  blanks := List.all_eq_true.mp (by decide)
  chain := by
    have hblanks : ∀ (n : Nat) (first : ArrayItem), first = .comma ∨ first = .blank ' ' rfl →
        List.IsChain ArrayItem.Follows
          (first :: (List.replicate n (.blank ' ' rfl) ++ [.literal sampleTwelve] ++ [.comma])) := by
      intro n
      induction n with
      | zero =>
        rintro first (rfl | rfl) <;> simp [ArrayItem.Follows]
      | succ n ih =>
        intro first hfirst
        apply List.IsChain.cons_cons _ (ih _ (.inr rfl))
        rcases hfirst with rfl | rfl <;> trivial
    exact hblanks 501 .comma (.inl rfl)

theorem long_line_splits_literal :
    ¬ ∀ (a : AddressArray) (t : ArrayText a) (before after : List Char)
      (files : List Char → Option (List Char)) (path : List Char) (config : LoadedGameConfig),
      files path = some (before ++ t.text ++ after) → EndsLine before →
      sectionAfter .none (readLines before) = a.section_ →
      opensArray a .none (readLines before) = false →
      opensArray a a.section_ (readLines after) = false →
      ngGameConfigLoad files path = some config → config.truncated = false →
      config.discoveryFiles = [] → a.values config = itemsNumbers t.items := by
  intro hclaim
  have hvalues := hclaim .entry longArray "[functions]\n".toList ['\n']
    (fun _ => some ("[functions]\n".toList ++ longArray.text ++ ['\n'])) []
    (loadOnly ("[functions]\n".toList ++ longArray.text ++ ['\n'])) rfl (.inr rfl)
    (by decide +kernel) (by decide +kernel) (by decide +kernel) (by decide +kernel)
    (by decide +kernel) (by decide +kernel)
  exact absurd hvalues (by decide +kernel)

end NeoRecomp
