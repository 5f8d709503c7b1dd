import NeoRecomp.Correct.ConfigBehind

/-!
# Splitting a configuration

A configuration is a list of sections.  It can stand in one file, or be spread over a main file and
the files that a `[game]` section of it lists.
-/

namespace NeoRecomp

/-! ## Sections -/

/-- A section of a configuration file: complete lines, of which the first that is not blank starts
with a bracket and no other does. -/
structure ConfigSection where
  text : List Char
  lead : List (List Char)
  header : List Char
  body : List (List Char)
  ends : EndsLine text
  pieces : readLines text = lead ++ header :: body
  lead_blank : ∀ piece ∈ lead, lineText piece = []
  header_line : (lineText header).head? = some '['
  body_lines : ∀ piece ∈ body, (lineText piece).head? ≠ some '['

namespace ConfigSection

def kind (s : ConfigSection) : NgGameConfigSection := headerSection (lineText s.header)

/-- The section lists files. -/
def lists (s : ConfigSection) : Bool := s.body.any fun piece => listsFiles s.kind (lineText piece)

/-- The lines of sections one after the other. -/
def join (sections : List ConfigSection) : List Char := (sections.map text).flatten

end ConfigSection

/-- The pieces of a text, from some state on. -/
def LoaderState.readText (st : LoaderState) (text : List Char) : LoaderState :=
  (readLines text).foldl LoaderState.readPiece st

def Outline.readText (o : Outline) (text : List Char) : Outline :=
  (readLines text).foldl Outline.readPiece o

theorem paired_readText (text : List Char) :
    (LoaderState.readText { config := ngGameConfigInit } text).Paired := by
  apply paired_readPieces
  rfl

theorem readLines_join (sections : List ConfigSection) :
    readLines (ConfigSection.join sections) = sections.flatMap fun s => readLines s.text := by
  unfold ConfigSection.join
  rw [readLines_flatten, List.flatMap_map]
  intro text htext
  obtain ⟨s, -, rfl⟩ := List.mem_map.mp htext
  exact s.ends

theorem LoaderState.readText_cons (st : LoaderState) (s : ConfigSection)
    (sections : List ConfigSection) :
    st.readText (ConfigSection.join (s :: sections)) =
      (st.readText s.text).readText (ConfigSection.join sections) := by
  unfold LoaderState.readText
  rw [readLines_join, readLines_join, List.flatMap_cons, List.foldl_append]

theorem Outline.readText_cons (o : Outline) (s : ConfigSection) (sections : List ConfigSection) :
    o.readText (ConfigSection.join (s :: sections)) =
      (o.readText s.text).readText (ConfigSection.join sections) := by
  unfold Outline.readText
  rw [readLines_join, readLines_join, List.flatMap_cons, List.foldl_append]

theorem LoaderState.readText_append (st : LoaderState) (as bs : List ConfigSection) :
    st.readText (ConfigSection.join (as ++ bs)) =
      (st.readText (ConfigSection.join as)).readText (ConfigSection.join bs) := by
  unfold LoaderState.readText
  rw [readLines_join, readLines_join, readLines_join, List.flatMap_append, List.foldl_append]

/-- Up to its header, a section leaves the state as it is. -/
theorem readText_section (s : ConfigSection) (st : LoaderState) (o : Outline) :
    st.readText s.text =
        s.body.foldl LoaderState.readPiece (st.readHeader (lineText s.header)) ∧
      o.readText s.text = s.body.foldl Outline.readPiece (o.readHeader (lineText s.header)) := by
  have hlead : ∀ pieces : List (List Char), (∀ piece ∈ pieces, lineText piece = []) →
      pieces.foldl LoaderState.readPiece st = st ∧ pieces.foldl Outline.readPiece o = o := by
    intro pieces hblank
    induction pieces with
    | nil => exact ⟨rfl, rfl⟩
    | cons piece pieces ih =>
      obtain ⟨hst, ho⟩ := readPiece_blank (hblank piece List.mem_cons_self) st o
      rw [List.foldl_cons, List.foldl_cons, hst, ho]
      exact ih fun p hp => hblank p (List.mem_cons_of_mem _ hp)
  unfold LoaderState.readText Outline.readText
  rw [s.pieces, List.foldl_append, List.foldl_append, (hlead s.lead s.lead_blank).1,
    (hlead s.lead s.lead_blank).2, List.foldl_cons, List.foldl_cons,
    (readPiece_header s.header_line st o).1, (readPiece_header s.header_line st o).2]
  exact ⟨rfl, rfl⟩

section

variable {base : LoadedGameConfig} {o : Outline} {c d : LoaderState}

theorem Outline.readPiece_section (o : Outline) {piece : List Char}
    (hl : (lineText piece).head? ≠ some '[') : (o.readPiece piece).section_ = o.section_ := by
  by_cases hne : lineText piece = []
  · rw [(readPiece_blank hne { config := {} } o).2]
  · rw [(readPiece_line hne hl { config := {} } o).2]
    obtain ⟨section_, program, bankIds⟩ := o
    cases section_ <;> rfl

/-- The body of a section that lists no files. -/
theorem Behind.readBody (h : Behind base o c d) {body : List (List Char)}
    (hl : ∀ piece ∈ body, (lineText piece).head? ≠ some '[')
    (hlist : ∀ piece ∈ body, listsFiles o.section_ (lineText piece) = false)
    (ht : (body.foldl LoaderState.readPiece d).config.truncated = false) :
    Behind base (body.foldl Outline.readPiece o) (body.foldl LoaderState.readPiece c)
        (body.foldl LoaderState.readPiece d) ∧
      (body.foldl LoaderState.readPiece c).noted = c.noted ∧
      (body.foldl LoaderState.readPiece d).noted = d.noted := by
  induction body generalizing o c d with
  | nil => exact ⟨h, rfl, rfl⟩
  | cons piece body ih =>
    have hpiece := hl piece List.mem_cons_self
    have hquiet := hlist piece List.mem_cons_self
    have hc : listsFiles c.section_ (lineText piece) = false := h.outline ▸ hquiet
    have hd : listsFiles d.section_ (lineText piece) = false := h.section_ ▸ hc
    have hopen := (sectionOf_of_mem h.opened).1
    have hstep := h.readPiece piece hpiece hc (truncated_of_readPieces ht)
    obtain ⟨hbehind, hnoted, hnoted'⟩ := ih hstep
      (fun p hp => hl p (List.mem_cons_of_mem _ hp))
      (fun p hp => by
        rw [o.readPiece_section hpiece]
        exact hlist p (List.mem_cons_of_mem _ hp)) ht
    exact ⟨hbehind, hnoted.trans ((keeps_readPiece c piece).noted ⟨hopen, hc⟩),
      hnoted'.trans ((keeps_readPiece d piece).noted ⟨h.array ▸ hopen, hd⟩)⟩

/-- A section that lists no files. -/
theorem Agree.readSection (h : Agree base o c.config d.config) {s : ConfigSection}
    (hs : s.lists = false) (ht : (d.readText s.text).config.truncated = false) :
    Agree base (o.readText s.text) (c.readText s.text).config (d.readText s.text).config ∧
      (c.readText s.text).noted = c.noted ∧ (d.readText s.text).noted = d.noted := by
  rw [(readText_section s d o).1] at ht
  rw [(readText_section s c o).1, (readText_section s d o).1, (readText_section s d o).2]
  have hheader := h.readHeader (lineText s.header) (truncated_of_readPieces ht)
  obtain ⟨hbody, hc, hd⟩ := hheader.readBody s.body_lines
    (fun piece hp => by
      show listsFiles s.kind (lineText piece) = false
      simpa using List.any_eq_false.mp hs piece hp) ht
  exact ⟨hbody.agree, hc.trans ((keeps_readHeader c _).noted trivial),
    hd.trans ((keeps_readHeader d _).noted trivial)⟩

/-- Sections that list no files. -/
theorem Agree.readSections (h : Agree base o c.config d.config) {sections : List ConfigSection}
    (hs : ∀ s ∈ sections, s.lists = false)
    (ht : (d.readText (ConfigSection.join sections)).config.truncated = false) :
    Agree base (o.readText (ConfigSection.join sections))
        (c.readText (ConfigSection.join sections)).config
        (d.readText (ConfigSection.join sections)).config ∧
      (c.readText (ConfigSection.join sections)).noted = c.noted ∧
      (d.readText (ConfigSection.join sections)).noted = d.noted := by
  induction sections generalizing o c d with
  | nil => exact ⟨h, rfl, rfl⟩
  | cons s sections ih =>
    rw [d.readText_cons] at ht
    rw [c.readText_cons, d.readText_cons, o.readText_cons]
    obtain ⟨hagree, hc, hd⟩ := h.readSection (hs s List.mem_cons_self)
      (truncated_of_readPieces ht)
    obtain ⟨hagree', hc', hd'⟩ := ih hagree (fun s hmem => hs s (List.mem_cons_of_mem _ hmem)) ht
    exact ⟨hagree', hc'.trans hc, hd'.trans hd⟩

/-! ## Sections that list files -/

/-- All of a configuration but the files it lists. -/
def LoadedGameConfig.contents (config : LoadedGameConfig) : LoadedGameConfig :=
  { config with discoveryFiles := [] }

theorem Agree.ofContents {config config' behind : LoadedGameConfig}
    (h : Agree base o config behind) (hc : config'.contents = config.contents) :
    Agree base o config' behind where
  joined := by
    have hjoin : joinConfig base o config'.contents = joinConfig base o config.contents := by
      rw [hc]
    exact h.joined.trans hjoin.symm
  bankIds := by
    have hbanks : config'.contents.banks = config.contents.banks := by rw [hc]
    exact h.bankIds.trans (congrArg List.length hbanks.symm)
  program := by
    have hprogram : config'.contents.program = config.contents.program := by rw [hc]
    exact hprogram.trans h.program
  configured := by
    have hset : config'.contents.programMapConfigured = config.contents.programMapConfigured := by
      rw [hc]
    exact hset.trans h.configured

/-- A later state of a `[game]` section that lists files. -/
structure Listing (st st' : LoaderState) : Prop where
  section_ : st'.section_ = .game
  array : st'.array = .none ∨ st'.array = .discoveryFiles
  contents : st'.config.truncated = false → st'.config.contents = st.config.contents

theorem Listing.trans {st st' st'' : LoaderState} (h : Listing st st') (h' : Listing st' st'')
    (ht : st''.config.truncated = false → st'.config.truncated = false) : Listing st st'' :=
  ⟨h'.section_, h'.array, fun hf => (h'.contents hf).trans (h.contents (ht hf))⟩

theorem listing_appendDiscoveryFile {st : LoaderState} (hs : st.section_ = .game)
    (ha : st.array = .none ∨ st.array = .discoveryFiles) (value : List Char) :
    Listing st (st.appendDiscoveryFile value) := by
  unfold LoaderState.appendDiscoveryFile
  split
  · exact ⟨hs, ha, fun _ => rfl⟩
  · split
    · exact ⟨hs, ha, fun hf => absurd hf (by simp [LoaderState.truncate])⟩
    · exact ⟨hs, ha, fun _ => rfl⟩

theorem listing_appendDiscoveryFiles {st : LoaderState} (hs : st.section_ = .game)
    (ha : st.array = .none ∨ st.array = .discoveryFiles) (values : List (List Char)) :
    Listing st (values.foldl LoaderState.appendDiscoveryFile st) := by
  induction values generalizing st with
  | nil => exact ⟨hs, ha, fun _ => rfl⟩
  | cons value values ih =>
    have hstep := listing_appendDiscoveryFile hs ha value
    apply hstep.trans (ih hstep.section_ hstep.array)
    intro hf
    by_contra htrue
    have := truncated_appendDiscoveryFiles (eq_true_of_ne_false htrue) values
    rw [hf] at this
    cases this

theorem listing_readSectionLine {st : LoaderState} (hs : st.section_ = .game)
    (ha : st.array = .none ∨ st.array = .discoveryFiles) (line : List Char) :
    Listing st (st.readSectionLine line) := by
  obtain ⟨section_, array, current, files, config⟩ := st
  obtain rfl : section_ = .game := hs
  show Listing _ (LoaderState.readArraySection _ _ line)
  unfold LoaderState.readArraySection
  have hopen : (LoaderState.openArray [("discovery_files", .discoveryFiles)] line).getD array =
        .none ∨
      (LoaderState.openArray [("discovery_files", .discoveryFiles)] line).getD array =
        .discoveryFiles := by
    cases harray : LoaderState.openArray [("discovery_files", .discoveryFiles)] line with
    | none => exact ha
    | some opened => exact .inr (List.mem_singleton.mp (mem_of_openArray harray))
  generalize (LoaderState.openArray [("discovery_files", .discoveryFiles)] line).getD array =
    opened at hopen
  have hvalues : Listing
      { section_ := .game, array := opened, current := current, discoveryFiles := files,
        config := config }
      (LoaderState.readArrayValues
        { section_ := .game, array := opened, current := current, discoveryFiles := files,
          config := config } line) := by
    rcases hopen with rfl | rfl
    · exact ⟨rfl, .inl rfl, fun _ => rfl⟩
    · exact listing_appendDiscoveryFiles rfl (.inr rfl) _
  unfold LoaderState.readArrayLine
  dsimp only
  split
  · exact ⟨hvalues.section_, .inl rfl, hvalues.contents⟩
  · exact ⟨hvalues.section_, hvalues.array, hvalues.contents⟩

theorem listing_readBody {st : LoaderState} (hs : st.section_ = .game)
    (ha : st.array = .none ∨ st.array = .discoveryFiles) {body : List (List Char)}
    (hl : ∀ piece ∈ body, (lineText piece).head? ≠ some '[') :
    Listing st (body.foldl LoaderState.readPiece st) := by
  induction body generalizing st with
  | nil => exact ⟨hs, ha, fun _ => rfl⟩
  | cons piece body ih =>
    have hstep : Listing st (st.readPiece piece) := by
      by_cases hne : lineText piece = []
      · rw [(readPiece_blank hne st {}).1]
        exact ⟨hs, ha, fun _ => rfl⟩
      · rw [(readPiece_line hne (hl piece List.mem_cons_self) st {}).1]
        exact listing_readSectionLine hs ha _
    exact hstep.trans (ih hstep.section_ hstep.array fun p hp => hl p (List.mem_cons_of_mem _ hp))
      (@truncated_of_readPieces _ body)

theorem readHeader_game {line : List Char} (h : headerSection line = .game) (st : LoaderState) :
    st.readHeader line = st.enter .game := by
  have hsteps : ∀ step ∈ headerSteps, (step { config := {} }).section_ = .game →
      step st = st.enter .game := by
    intro step hstep hgame
    simp only [headerSteps, List.mem_cons, List.not_mem_nil, or_false] at hstep
    rcases hstep with rfl | rfl | rfl | rfl | rfl | rfl | rfl | rfl | rfl | rfl | rfl | rfl <;>
      first | rfl | cases hgame
  exact hsteps _ (readHeader_mem line) h

theorem Outline.readBody_game {body : List (List Char)}
    (hl : ∀ piece ∈ body, (lineText piece).head? ≠ some '[') {o : Outline}
    (hs : o.section_ = .game) : body.foldl Outline.readPiece o = o := by
  induction body with
  | nil => rfl
  | cons piece body ih =>
    have hstep : o.readPiece piece = o := by
      by_cases hne : lineText piece = []
      · exact (readPiece_blank hne { config := {} } o).2
      · rw [(readPiece_line hne (hl piece List.mem_cons_self) { config := {} } o).2]
        unfold Outline.readSectionLine
        rw [hs]
    rw [List.foldl_cons, hstep]
    exact ih fun p hp => hl p (List.mem_cons_of_mem _ hp)

theorem ConfigSection.kind_of_lists {s : ConfigSection} (h : s.lists = true) : s.kind = .game := by
  obtain ⟨piece, -, hpiece⟩ := List.any_eq_true.mp h
  unfold listsFiles at hpiece
  simp only [Bool.and_eq_true, decide_eq_true_eq] at hpiece
  exact hpiece.1

/-- Only the text alone holds a section that lists files. -/
theorem Agree.readListing (h : Agree base o c.config d.config) {s : ConfigSection}
    (hs : s.lists = true) (ht : (c.readText s.text).config.truncated = false) :
    Agree base (o.readText s.text) (c.readText s.text).config d.config := by
  have hkind : headerSection (lineText s.header) = .game := s.kind_of_lists hs
  have houtline : o.readText s.text = { o with section_ := .game } := by
    rw [(readText_section s c o).2]
    have hheader : o.readHeader (lineText s.header) = { o with section_ := .game } := by
      unfold Outline.readHeader
      rw [hkind]
      rfl
    rw [hheader]
    exact Outline.readBody_game s.body_lines rfl
  have hread := (readText_section s c o).1
  rw [readHeader_game hkind] at hread
  have hlisting : Listing (c.enter .game) (c.readText s.text) := by
    rw [hread]
    exact listing_readBody rfl (.inl rfl) s.body_lines
  rw [houtline]
  exact (h.inSection .game).ofContents (hlisting.contents ht)

/-- A main file, and behind `base` its sections that list no files. -/
theorem Agree.readMain (h : Agree base o c.config d.config)
    {sections : List ConfigSection}
    (ht : (c.readText (ConfigSection.join sections)).config.truncated = false)
    (ht' : (d.readText (ConfigSection.join (sections.filter (!·.lists)))).config.truncated =
      false) :
    Agree base (o.readText (ConfigSection.join sections))
        (c.readText (ConfigSection.join sections)).config
        (d.readText (ConfigSection.join (sections.filter (!·.lists)))).config ∧
      (d.readText (ConfigSection.join (sections.filter (!·.lists)))).noted = d.noted := by
  induction sections generalizing o c d with
  | nil => exact ⟨h, rfl⟩
  | cons s sections ih =>
    rw [c.readText_cons] at ht
    rw [c.readText_cons, o.readText_cons]
    cases hs : s.lists with
    | true =>
      rw [List.filter_cons_of_neg (by simp [hs])] at ht' ⊢
      exact ih (h.readListing hs (truncated_of_readPieces ht)) ht ht'
    | false =>
      rw [List.filter_cons_of_pos (by simp [hs]), d.readText_cons] at ht' ⊢
      obtain ⟨hagree, -, hd⟩ := h.readSection hs (truncated_of_readPieces ht')
      obtain ⟨hagree', hd'⟩ := ih hagree ht ht'
      exact ⟨hagree', hd'.trans hd⟩

end

/-! ## Files behind one another -/

/-- What is loaded of sections that stand alone. -/
def loadAlone (sections : List ConfigSection) : LoadedGameConfig :=
  (LoaderState.readText { config := ngGameConfigInit } (ConfigSection.join sections)).config

/-- What they set of the program map, and which of their banks have a number. -/
def outlineOf (sections : List ConfigSection) : Outline :=
  Outline.readText {} (ConfigSection.join sections)

/-- A file that lists no files, and what is loaded of it. -/
structure ReadAlone (file : List ConfigSection) : Prop where
  files : (LoaderState.readText { config := ngGameConfigInit }
    (ConfigSection.join file)).discoveryFiles = []
  bankIds : (outlineOf file).bankIds.length = (loadAlone file).banks.length
  program : (loadAlone file).program = (outlineOf file).program.onto {}
  configured : (loadAlone file).programMapConfigured = (outlineOf file).program.any

/-- Files one after the other read as each alone, joined. -/
theorem readText_files {files : List (List ConfigSection)}
    (hs : ∀ file ∈ files, ∀ s ∈ file, s.lists = false) (d : LoaderState)
    (ht : (d.readText (ConfigSection.join files.flatten)).config.truncated = false) :
    (d.readText (ConfigSection.join files.flatten)).config =
        files.foldl (fun base file => joinConfig base (outlineOf file) (loadAlone file)) d.config ∧
      (d.readText (ConfigSection.join files.flatten)).noted = d.noted ∧
      ∀ file ∈ files, ReadAlone file := by
  induction files generalizing d with
  | nil => exact ⟨rfl, rfl, nofun⟩
  | cons file files ih =>
    rw [List.flatten_cons, d.readText_append] at ht ⊢
    have hstart : Agree d.config {} (LoaderState.config { config := ngGameConfigInit }) d.config :=
      .start d.config
    obtain ⟨hagree, hc, hd⟩ := hstart.readSections (hs file List.mem_cons_self)
      (truncated_of_readPieces ht)
    obtain ⟨hrest, hnoted, halone⟩ := ih (fun f hf => hs f (List.mem_cons_of_mem _ hf)) _ ht
    refine ⟨?_, hnoted.trans hd, ?_⟩
    · rw [hrest, List.foldl_cons, hagree.joined]
      rfl
    · intro f hf
      rcases List.mem_cons.mp hf with rfl | hf
      · exact ⟨congrArg Prod.fst hc, hagree.bankIds, hagree.program, hagree.configured⟩
      · exact halone f hf

/-! ## Merging without a cut -/

theorem truncated_appendConfigValues {dst src : LoadedGameConfig}
    (h : (appendConfigValues dst src).truncated = false) : dst.truncated = false := by
  simp only [appendConfigValues, Bool.or_eq_false_iff] at h
  exact h.1.1.1.1.1.1.1.1.1.1.1

theorem truncated_of_appendAll {ι : Type} {files : List ι} {load : ι → LoadedGameConfig}
    {dst : LoadedGameConfig}
    (h : (files.foldl (fun dst file => appendConfigValues dst (load file)) dst).truncated = false) :
    dst.truncated = false := by
  induction files generalizing dst with
  | nil => exact h
  | cons file files ih => exact truncated_appendConfigValues (ih h)

/-- With room for everything, a merge appends each array. -/
theorem appendConfigValues_eq {dst src : LoadedGameConfig}
    (h : (appendConfigValues dst src).truncated = false) :
    appendConfigValues dst src =
      { program := if src.programMapConfigured then src.program else dst.program
        programMapConfigured := dst.programMapConfigured || src.programMapConfigured
        entry := dst.entry ++ src.entry
        extra := dst.extra ++ src.extra
        discoveryFiles := dst.discoveryFiles
        jumpTables := dst.jumpTables ++ src.jumpTables
        tableCalls := dst.tableCalls ++ src.tableCalls
        stateTables := dst.stateTables ++ src.stateTables
        recordFormats := dst.recordFormats ++ src.recordFormats
        routineTables := dst.routineTables ++ src.routineTables
        dispatchers := dst.dispatchers ++ src.dispatchers
        banks := dst.banks ++ src.banks
        runtimeDispatch := dst.runtimeDispatch ++ src.runtimeDispatch
        truncated := dst.truncated || src.truncated } := by
  have hcut := h
  simp only [appendConfigValues, Bool.or_eq_false_iff] at hcut
  obtain ⟨⟨⟨⟨⟨⟨⟨⟨⟨⟨⟨hdst, h1⟩, h2⟩, h3⟩, h4⟩, h5⟩, h6⟩, h7⟩, h8⟩, h9⟩, h10⟩, hsrc⟩ := hcut
  unfold appendConfigValues
  dsimp only
  rw [h1, h2, h3, h4, h5, h6, h7, h8, h9, h10, appendBounded_fst h1, appendBounded_fst h2,
    appendBounded_fst h3, appendBounded_fst h4, appendBounded_fst h5, appendBounded_fst h6,
    appendBounded_fst h7, appendBounded_fst h8, appendBounded_fst h9, appendBounded_fst h10]
  simp only [Bool.or_false]

/-! ## What a split changes -/

/-- Each bank of a later file has a number of its own, unless no bank is before the file. -/
def BanksSpelled : Nat → List Outline → Prop
  | _, [] => True
  | before, file :: files =>
    (before = 0 ∨ false ∉ file.bankIds) ∧ BanksSpelled (before + file.bankIds.length) files

/-- The last of the later files that sets part of the program map sets each field that is not zero
before it. -/
def MapSpelled : ProgramMap → List Outline → Prop
  | _, [] => True
  | before, file :: files =>
    (file.program.any = true → (∀ later ∈ files, later.program.any = false) →
      file.program.Covers before) ∧ MapSpelled (file.program.onto before) files

theorem renumber_eq_iff {before : Nat} {bankIds : List Bool} {banks : List NgGameConfigBank}
    (hlen : bankIds.length = banks.length) (hbefore : banks = [] ∨ before < 2 ^ 32) :
    banks = renumber before bankIds banks ↔ before = 0 ∨ false ∉ bankIds := by
  induction bankIds generalizing banks with
  | nil =>
    obtain rfl := List.length_eq_zero_iff.mp hlen.symm
    exact ⟨fun _ => .inr nofun, fun _ => rfl⟩
  | cons given bankIds ih =>
    cases banks with
    | nil => cases hlen
    | cons bank banks =>
      have hlt : before < 2 ^ 32 := hbefore.resolve_left nofun
      show bank :: banks = _ :: renumber before bankIds banks ↔ _
      rw [List.cons_eq_cons, ih (Nat.succ.inj hlen) (.inr hlt)]
      cases given with
      | true => simp
      | false =>
        have hid : bank = { bank with id := BitVec.ofNat 32 before + bank.id } ↔ before = 0 := by
          constructor
          · intro h
            have hsum : BitVec.ofNat 32 before + bank.id = bank.id :=
              (congrArg NgGameConfigBank.id h).symm
            have hzero : BitVec.ofNat 32 before = 0#32 := by
              simpa using hsum
            have hnat := congrArg BitVec.toNat hzero
            rw [BitVec.toNat_ofNat, Nat.mod_eq_of_lt hlt] at hnat
            exact hnat
          · rintro rfl
            rw [show BitVec.ofNat 32 0 = 0#32 from rfl, BitVec.zero_add]
        show (bank = { bank with id := BitVec.ofNat 32 before + bank.id } ∧ _) ↔ _
        rw [hid]
        simp only [List.mem_cons, true_or, not_true_eq_false, or_false]
        exact ⟨And.left, fun h => ⟨h, .inl h⟩⟩

/-- The same contents up to the program map and the banks, of which there are as many. -/
structure SameRest (a b : LoadedGameConfig) : Prop where
  rest : { a with program := {}, banks := [], discoveryFiles := [] } =
    { b with program := {}, banks := [], discoveryFiles := [] }
  banks : a.banks.length = b.banks.length

theorem SameRest.contents_iff {a b : LoadedGameConfig} (h : SameRest a b) :
    a.contents = b.contents ↔ a.banks = b.banks ∧ a.program = b.program := by
  have hrest := h.rest
  obtain ⟨⟩ := a
  obtain ⟨⟩ := b
  simp only [LoadedGameConfig.mk.injEq, true_and] at hrest
  simp only [LoadedGameConfig.contents, LoadedGameConfig.mk.injEq, hrest, true_and, and_true]
  exact and_comm

/-- One more file, merged on the one side and behind the rest on the other. -/
theorem SameRest.step {a b : LoadedGameConfig} (h : SameRest a b) {file : List ConfigSection}
    (hf : ReadAlone file) (ht : (appendConfigValues a (loadAlone file)).truncated = false) :
    SameRest (appendConfigValues a (loadAlone file))
      (joinConfig b (outlineOf file) (loadAlone file)) := by
  have hrest := h.rest
  have hbanks := h.banks
  rw [appendConfigValues_eq ht]
  obtain ⟨⟩ := a
  obtain ⟨⟩ := b
  simp only [LoadedGameConfig.mk.injEq, true_and] at hrest
  constructor
  · simp only [joinConfig, hrest, hf.configured]
  · show List.length (_ ++ _) = List.length (_ ++ _)
    rw [List.length_append, List.length_append, length_renumber hf.bankIds]
    exact congrArg (· + _) hbanks

/-- One more file replaces the map on the one side and is laid over it on the other. -/
theorem mapSpelled_cons {split whole : ProgramMap} {file : Outline} {files : List Outline} :
    (MapSpelled (file.program.onto whole) files ∧
        ((∀ later ∈ files, later.program.any = false) →
          (if file.program.any then file.program.onto {} else split) =
            file.program.onto whole)) ↔
      MapSpelled whole (file :: files) ∧
        ((∀ later ∈ file :: files, later.program.any = false) → split = whole) := by
  rw [List.forall_mem_cons]
  show _ ↔ ((_ → _ → _) ∧ MapSpelled _ files) ∧ _
  cases hany : file.program.any with
  | true =>
    rw [if_pos rfl, ProgramKeys.onto_eq_iff]
    constructor
    · rintro ⟨hrest, hlast⟩
      exact ⟨⟨fun _ => hlast, hrest⟩, nofun⟩
    · rintro ⟨⟨hlast, hrest⟩, -⟩
      exact ⟨hrest, hlast rfl⟩
  | false =>
    rw [if_neg Bool.false_ne_true, ProgramKeys.onto_of_any_false hany]
    constructor
    · rintro ⟨hrest, hsame⟩
      exact ⟨⟨nofun, hrest⟩, fun hnone => hsame hnone.2⟩
    · rintro ⟨⟨-, hrest⟩, hsame⟩
      exact ⟨hrest, fun hnone => hsame ⟨rfl, hnone⟩⟩

/-- Merging files gives what they give behind one another exactly where banks and the program map
are spelled out. -/
theorem merged_iff {files : List (List ConfigSection)} (halone : ∀ file ∈ files, ReadAlone file)
    {a b : LoadedGameConfig} (h : SameRest a b)
    (ht : (files.foldl (fun dst file => appendConfigValues dst (loadAlone file)) a).truncated =
      false) :
    (files.foldl (fun dst file => appendConfigValues dst (loadAlone file)) a).contents =
        (files.foldl (fun base file => joinConfig base (outlineOf file) (loadAlone file))
          b).contents ↔
      (a.banks = b.banks ∧ BanksSpelled b.banks.length (files.map outlineOf)) ∧
        MapSpelled b.program (files.map outlineOf) ∧
        ((∀ file ∈ files.map outlineOf, file.program.any = false) → a.program = b.program) := by
  induction files generalizing a b with
  | nil =>
    rw [List.foldl_nil, List.foldl_nil, h.contents_iff]
    simp [BanksSpelled, MapSpelled]
  | cons file files ih =>
    have hf := halone file List.mem_cons_self
    have hstep : (appendConfigValues a (loadAlone file)).truncated = false :=
      truncated_of_appendAll ht
    have heq := appendConfigValues_eq hstep
    have hbanks : (appendConfigValues a (loadAlone file)).banks = a.banks ++ (loadAlone file).banks := by
      rw [heq]
    have hprogram : (appendConfigValues a (loadAlone file)).program =
        if (outlineOf file).program.any then (outlineOf file).program.onto {} else a.program := by
      rw [heq, hf.configured, hf.program]
    rw [List.foldl_cons, List.foldl_cons,
      ih (fun f hmem => halone f (List.mem_cons_of_mem _ hmem)) (h.step hf hstep) ht, hbanks,
      hprogram, List.map_cons]
    have hcap : (loadAlone file).banks = [] ∨ b.banks.length < 2 ^ 32 := by
      have hcut := hstep
      simp only [appendConfigValues, Bool.or_eq_false_iff] at hcut
      have hroom := appendBounded_snd.mp hcut.1.2
      rw [h.banks] at hroom
      exact hroom.imp_right fun hle => by unfold ngGameConfigMaxBanks at hle; omega
    apply and_congr
    · show (a.banks ++ _ = b.banks ++ renumber _ _ _ ∧
        BanksSpelled (List.length (b.banks ++ renumber _ _ _)) _) ↔ _
      rw [List.length_append, length_renumber hf.bankIds, ← hf.bankIds]
      show _ ↔ a.banks = b.banks ∧ (_ ∨ _) ∧ _
      rw [← renumber_eq_iff hf.bankIds hcap, ← and_assoc]
      apply and_congr_left'
      constructor
      · intro happend
        exact List.append_inj happend h.banks
      · rintro ⟨hsame, hown⟩
        rw [hsame, ← hown]
    · exact mapSpelled_cons

/-! ## Loading -/

section

variable {files : List Char → Option (List Char)}

/-- The loads of listed files and their merges. -/
def loadListed (files : List Char → Option (List Char)) (depths : Nat) (base : List Char)
    (loaded : Option LoadedGameConfig) (name : List Char) : Option LoadedGameConfig :=
  loaded.bind fun config =>
    (ngGameConfigLoadInto files depths (joinPath base name) ngGameConfigInit).map
      (appendConfigValues config)

theorem ngGameConfigLoadInto_succ {path file : List Char} (hfile : files path = some file)
    (depths : Nat) (config : LoadedGameConfig) :
    ngGameConfigLoadInto files (depths + 1) path config =
      (LoaderState.readText { config := config } file).discoveryFiles.foldl
        (loadListed files depths (dirnameOf path))
        (some (LoaderState.readText { config := config } file).config) := by
  unfold ngGameConfigLoadInto
  rw [hfile]
  rfl

theorem loadListed_none (depths : Nat) (base : List Char) (names : List (List Char)) :
    names.foldl (loadListed files depths base) none = none := by
  induction names with
  | nil => rfl
  | cons name names ih => exact ih

/-- A merge does not change which files are listed, nor undo a cut. -/
theorem loadListed_keeps {depths : Nat} {base : List Char} {names : List (List Char)}
    {config loaded : LoadedGameConfig}
    (h : names.foldl (loadListed files depths base) (some config) = some loaded) :
    loaded.discoveryFiles = config.discoveryFiles ∧
      (loaded.truncated = false → config.truncated = false) := by
  induction names generalizing config with
  | nil =>
    obtain rfl : config = loaded := Option.some.inj h
    exact ⟨rfl, id⟩
  | cons name names ih =>
    rw [List.foldl_cons] at h
    cases hload : ngGameConfigLoadInto files depths (joinPath base name) ngGameConfigInit with
    | none =>
      have hstep : loadListed files depths base (some config) name = none := by
        unfold loadListed
        rw [Option.bind_some, hload]
        rfl
      rw [hstep, loadListed_none] at h
      cases h
    | some child =>
      have hstep : loadListed files depths base (some config) name =
          some (appendConfigValues config child) := by
        unfold loadListed
        rw [Option.bind_some, hload]
        rfl
      rw [hstep] at h
      obtain ⟨hfiles, hcut⟩ := ih h
      exact ⟨hfiles, fun ht => truncated_appendConfigValues (hcut ht)⟩

/-- Listed files that list none themselves. -/
theorem loadListed_alone {depths : Nat} {base : List Char} {names : List (List Char)}
    {listed : List (List ConfigSection)} (halone : ∀ file ∈ listed, ReadAlone file)
    (hnames : names.map (fun name => files (joinPath base name)) =
      listed.map fun file => some (ConfigSection.join file)) (config : LoadedGameConfig) :
    names.foldl (loadListed files (depths + 1) base) (some config) =
      some (listed.foldl (fun dst file => appendConfigValues dst (loadAlone file)) config) := by
  induction names generalizing listed config with
  | nil =>
    obtain rfl := List.map_eq_nil_iff.mp hnames.symm
    rfl
  | cons name names ih =>
    cases listed with
    | nil => cases hnames
    | cons file listed =>
      rw [List.map_cons, List.map_cons, List.cons_eq_cons] at hnames
      have hload : ngGameConfigLoadInto files (depths + 1) (joinPath base name) ngGameConfigInit =
          some (loadAlone file) := by
        rw [ngGameConfigLoadInto_succ hnames.1, (halone file List.mem_cons_self).files]
        rfl
      have hstep : loadListed files (depths + 1) base (some config) name =
          some (appendConfigValues config (loadAlone file)) := by
        unfold loadListed
        rw [Option.bind_some, hload]
        rfl
      rw [List.foldl_cons, hstep]
      exact ih (fun f hf => halone f (List.mem_cons_of_mem _ hf)) hnames.2 _

/-- Behind nothing, a text reads as alone. -/
theorem Agree.behindNothing {o : Outline} {c d : LoadedGameConfig}
    (h : Agree ngGameConfigInit o c d) :
    SameRest c d ∧ c.banks = d.banks ∧ c.program = d.program := by
  have hbanks : c.banks = d.banks := by
    rw [h.joined]
    exact (renumber_eq_iff h.bankIds (.inr (by decide))).mpr (.inl rfl)
  refine ⟨⟨?_, congrArg List.length hbanks⟩, hbanks, ?_⟩
  · rw [h.joined]
    simp [joinConfig, ngGameConfigInit, h.configured]
  · rw [h.joined]
    exact h.program

/-- A configuration that is spread over a main file and the files listed there loads as the one
file with all its sections exactly if each bank of a listed file has a number of its own, unless
no bank is before the file, and the last listed file that sets part of the program map sets each
field that is not zero before it. -/
theorem split_contents_iff {path whole : List Char} {main : List ConfigSection}
    {listed : List (List ConfigSection)} {split one : LoadedGameConfig}
    (hmain : files path = some (ConfigSection.join main))
    (hwhole : files whole =
      some (ConfigSection.join (main.filter (!·.lists) ++ listed.flatten)))
    (hlisted : split.discoveryFiles.map (fun name => files (joinPath (dirnameOf path) name)) =
      listed.map fun file => some (ConfigSection.join file))
    (hflat : ∀ file ∈ listed, ∀ s ∈ file, s.lists = false)
    (hsplit : ngGameConfigLoad files path = some split)
    (hone : ngGameConfigLoad files whole = some one) (hroom : split.truncated = false)
    (hroom' : one.truncated = false) :
    split.contents = one.contents ↔
      BanksSpelled (outlineOf main).bankIds.length (listed.map outlineOf) ∧
        MapSpelled ((outlineOf main).program.onto {}) (listed.map outlineOf) := by
  have hloadMain := (ngGameConfigLoadInto_succ hmain 8 ngGameConfigInit).symm.trans hsplit
  have hloadOne := (ngGameConfigLoadInto_succ hwhole 8 ngGameConfigInit).symm.trans hone
  -- Both loads start with a run that cuts nothing off.
  obtain ⟨hnames, hcut⟩ := loadListed_keeps hloadMain
  obtain ⟨-, hcut'⟩ := loadListed_keeps hloadOne
  have hread := hcut' hroom'
  rw [LoaderState.readText_append] at hread
  obtain ⟨hagree, hnoted⟩ :=
    @Agree.readMain ngGameConfigInit {} { config := ngGameConfigInit }
      { config := ngGameConfigInit } (.start ngGameConfigInit) main (hcut hroom)
      (truncated_of_readPieces hread)
  obtain ⟨hconfig, hnoted', halone⟩ := readText_files hflat _ hread
  -- The one file lists no files.
  have hnone : (LoaderState.readText { config := ngGameConfigInit }
      (ConfigSection.join (main.filter (!·.lists) ++ listed.flatten))).discoveryFiles = [] := by
    rw [LoaderState.readText_append]
    exact congrArg Prod.fst (hnoted'.trans hnoted)
  rw [hnone, List.foldl_nil, LoaderState.readText_append, hconfig] at hloadOne
  obtain rfl := Option.some.inj hloadOne
  -- The main file lists those that are merged into it.
  rw [hnames, ← paired_readText] at hlisted
  rw [loadListed_alone halone hlisted] at hloadMain
  obtain rfl := Option.some.inj hloadMain
  obtain ⟨hsame, hbanks, hprogram⟩ := hagree.behindNothing
  rw [merged_iff halone hsame hroom, ← hbanks, ← hprogram, ← hagree.bankIds, hagree.program]
  constructor
  · rintro ⟨⟨-, hspelled⟩, hmap, -⟩
    exact ⟨hspelled, hmap⟩
  · rintro ⟨hspelled, hmap⟩
    exact ⟨⟨rfl, hspelled⟩, hmap, fun _ => rfl⟩

end

/-! ## A bank in each of two files -/

/-- A section of two lines. -/
def sampleSection (header line : List Char)
    (ends : EndsLine (header ++ line))
    (pieces : readLines (header ++ line) = [header, line])
    (header_line : (lineText header).head? = some '[')
    (body_line : (lineText line).head? ≠ some '[') : ConfigSection where
  text := header ++ line
  lead := []
  header := header
  body := [line]
  ends := ends
  pieces := pieces
  lead_blank := nofun
  header_line := header_line
  body_lines := List.forall_mem_singleton.mpr body_line

def sampleGame : ConfigSection :=
  sampleSection "[game]\n".toList "discovery_files = [\"b\"]\n".toList (.inr rfl) rfl rfl (by decide)

def sampleBank : ConfigSection :=
  sampleSection "[[bank]]\n".toList "size = 16\n".toList (.inr rfl) rfl rfl (by decide)

def sampleNumberedBank : ConfigSection :=
  sampleSection "[[bank]]\n".toList "id = 7\n".toList (.inr rfl) rfl rfl (by decide)

/-- The main file `a` lists `b`, which holds one bank; `w` holds the banks of both. -/
def sampleFiles (bank : ConfigSection) (path : List Char) : Option (List Char) :=
  if path = ['a'] then some (ConfigSection.join [sampleGame, sampleBank])
  else if path = ['b'] then some (ConfigSection.join [bank])
  else if path = ['w'] then some (ConfigSection.join [sampleBank, bank])
  else none

def sampleLoad (bank : ConfigSection) (path : List Char) : LoadedGameConfig :=
  (ngGameConfigLoad (sampleFiles bank) path).getD ngGameConfigInit

theorem split_contents_iff_numbered :
    (sampleLoad sampleNumberedBank ['a']).contents =
      (sampleLoad sampleNumberedBank ['w']).contents :=
  (@split_contents_iff (sampleFiles sampleNumberedBank) ['a'] ['w'] [sampleGame, sampleBank]
    [[sampleNumberedBank]] (sampleLoad sampleNumberedBank ['a'])
    (sampleLoad sampleNumberedBank ['w']) rfl (by decide +kernel) (by decide +kernel)
    (by decide +kernel) (by decide +kernel) (by decide +kernel) (by decide +kernel)
    (by decide +kernel)).mpr
    ⟨⟨.inr (by decide +kernel), trivial⟩,
      ⟨fun h => absurd h (by decide +kernel), trivial⟩⟩

/-- Without a number of its own, the bank of the listed file is number 0 there. -/
theorem split_changes_contents :
    ¬ ∀ (files : List Char → Option (List Char)) (path whole : List Char)
      (main : List ConfigSection) (listed : List (List ConfigSection))
      (split one : LoadedGameConfig),
      files path = some (ConfigSection.join main) →
      files whole = some (ConfigSection.join (main.filter (!·.lists) ++ listed.flatten)) →
      split.discoveryFiles.map (fun name => files (joinPath (dirnameOf path) name)) =
        listed.map (fun file => some (ConfigSection.join file)) →
      (∀ file ∈ listed, ∀ s ∈ file, s.lists = false) →
      ngGameConfigLoad files path = some split → ngGameConfigLoad files whole = some one →
      split.truncated = false → one.truncated = false → split.contents = one.contents := by
  intro hclaim
  have hsame := hclaim (sampleFiles sampleBank) ['a'] ['w'] [sampleGame, sampleBank]
    [[sampleBank]] (sampleLoad sampleBank ['a']) (sampleLoad sampleBank ['w'])
    rfl (by decide +kernel) (by decide +kernel) (by decide +kernel) (by decide +kernel)
    (by decide +kernel) (by decide +kernel) (by decide +kernel)
  exact absurd hsame (by decide +kernel)

end NeoRecomp
