import CodeGloss.Proofs.Format.Limits
import CodeGloss.Stores.TermStore

/-!
# What stores report

A store of this library that cannot be read mostly says so itself, with the name of
what it reads. A fault passes it by in these cases: the name of the file has a null
character, a number in JSON is too long or JSON is nested more deeply than the machine
can follow, it cannot be known whether the database is there, or the cell for aliases
of a row holds a number or bytes in no encoding. Each of these faults passes, and no
other fault of these readers does.
-/

namespace CodeGloss.Stores

open Files Format Glossary Text

/-! ## Answers -/

/-- The answer is a collection, or a fault that the store reports as its own. -/
def AnswersOrReports {α : Type} (answer : Except StoreError α) : Prop :=
  (∃ terms, answer = .ok terms) ∨ ∃ error, answer = .error error ∧ error.isReported = true

@[simp]
theorem answersOrReports_ok {α : Type} (terms : α) : AnswersOrReports (.ok terms) :=
  .inl ⟨terms, rfl⟩

@[simp]
theorem answersOrReports_error_iff {α : Type} {error : StoreError} :
    AnswersOrReports (.error error : Except StoreError α) ↔ error.isReported = true := by
  simp [AnswersOrReports]

/-- One answer after another is an answer or a report if each of them is. -/
theorem answersOrReports_bind_iff {α β : Type} {answer : Except StoreError α}
    {next : α → Except StoreError β} :
    AnswersOrReports (answer >>= next) ↔
      AnswersOrReports answer ∧ ∀ a, answer = .ok a → AnswersOrReports (next a) := by
  cases answer with
  | ok a => simp [bind, Except.bind]
  | error error => simp [bind, Except.bind]

@[simp]
theorem answersOrReports_map_iff {α β : Type} {answer : Except StoreError α} {f : α → β} :
    AnswersOrReports (answer.map f) ↔ AnswersOrReports answer := by
  cases answer with
  | ok a => simp [Except.map]
  | error error => simp [Except.map]

/-- A list is read if all of its items are, or it fails as one of them does. -/
theorem mapM_cases {α β ε : Type} (f : α → Except ε β) (items : List α) :
    ((∃ bs, items.mapM f = .ok bs) ∧ ∀ item ∈ items, ∃ b, f item = .ok b)
    ∨ ∃ error, items.mapM f = .error error ∧ ∃ item ∈ items, f item = .error error := by
  induction items with
  | nil => exact .inl ⟨⟨[], rfl⟩, nofun⟩
  | cons item items ih =>
      rw [List.mapM_cons]
      cases reads : f item with
      | error error => exact .inr ⟨error, rfl, item, List.mem_cons_self, reads⟩
      | ok b =>
          rcases ih with ⟨⟨bs, readsRest⟩, each⟩ | ⟨error, failsRest, later, member, fails⟩
          · rw [readsRest]
            exact .inl ⟨⟨b :: bs, rfl⟩, List.forall_mem_cons.mpr ⟨⟨b, reads⟩, each⟩⟩
          · rw [failsRest]
            exact .inr ⟨error, rfl, later, List.mem_cons_of_mem _ member, fails⟩

theorem answersOrReports_mapM {α β : Type} {f : α → Except StoreError β} {items : List α}
    (each : ∀ item ∈ items, AnswersOrReports (f item)) : AnswersOrReports (items.mapM f) := by
  rcases mapM_cases f items with ⟨⟨bs, reads⟩, _⟩ | ⟨error, failsFirst, item, member, fails⟩
  · rw [reads]
    exact answersOrReports_ok bs
  · have reported := each item member
    rw [fails] at reported
    rw [failsFirst]
    exact answersOrReports_error_iff.mpr (answersOrReports_error_iff.mp reported)

/-- If no fault of an item is reported, the list is read only if all of its items are. -/
theorem answersOrReports_mapM_iff {α β : Type} {f : α → Except StoreError β}
    (unreported : ∀ item error, f item = .error error → error.isReported = false)
    {items : List α} :
    AnswersOrReports (items.mapM f) ↔ ∀ item ∈ items, AnswersOrReports (f item) := by
  constructor
  · rcases mapM_cases f items with ⟨_, each⟩ | ⟨error, failsFirst, item, _, fails⟩
    · intro _ item member
      exact .inl (each item member)
    · rw [failsFirst, answersOrReports_error_iff, unreported item error fails]
      exact nofun
  · exact answersOrReports_mapM

/-- The text is read within so many levels, or breaks a rule of the grammar. -/
def KeepsLimits (levels : Option Nat) (text : List Char) : Prop :=
  ∀ error, Json.decodeWithin levels text = .error error → error.isMalformed = true

theorem keepsLimits_of_not_isBeyond {levels : Option Nat} {text : List Char}
    (within : ¬ Json.IsBeyond levels text) : KeepsLimits levels text := by
  intro error fails
  by_contra wellFormed
  exact within (Json.isBeyond_of_decodeWithin fails (by simpa using wellFormed))

/-! ## Files -/

section Files

variable {tree : Tree} {path : Path}

theorem walk_ne_nullName (tree : Tree) (here : Path) (names : List Name) :
    tree.walk here names ≠ .error .nullName := by
  intro walks
  induction names generalizing here with
  | nil => contradiction
  | cons name rest ih =>
      rw [Tree.walk] at walks
      split at walks
      · split at walks
        · cases walks
        · exact ih _ walks
      · cases walks
      · cases walks
      · cases walks

theorem locate_ne_nullName (tree : Tree) (named : Tree.hasNull path = false) :
    tree.locate path ≠ .error .nullName := by
  rw [Tree.locate, named, if_neg Bool.false_ne_true]
  split
  · intro tooLong
    cases tooLong
  · exact walk_ne_nullName tree _ _

theorem find_ne_nullName (tree : Tree) (named : Tree.hasNull path = false) :
    tree.find path ≠ .error .nullName := by
  intro finds
  rw [Tree.find] at finds
  cases located : tree.locate path with
  | error fault =>
      rw [located] at finds
      cases finds
      exact locate_ne_nullName tree named located
  | ok place =>
      rw [located] at finds
      simp only [bind, Except.bind] at finds
      split at finds
      · cases finds
      · cases finds

/-- The bytes of a file are at hand, or it is reported that they are not. Only a name with a null
character is not reported. -/
theorem fileBytes_cases (tree : Tree) (path : Path) :
    (Tree.hasNull path = true ∧ fileBytes tree path = .error (.raw (.nullName path)))
    ∨ Tree.hasNull path = false ∧ ((∃ content, fileBytes tree path = .ok content)
      ∨ ∃ error, fileBytes tree path = .error error ∧ error.isReported = true) := by
  cases named : Tree.hasNull path with
  | true =>
      left
      refine ⟨rfl, ?_⟩
      have found : tree.find path = .error .nullName := by
        rw [Tree.find, Tree.locate, named]
        rfl
      rw [fileBytes, Tree.open?, found]
  | false =>
      right
      refine ⟨rfl, ?_⟩
      have notNull := find_ne_nullName tree named
      rw [fileBytes, Tree.open?]
      cases found : tree.find path with
      | error fault =>
          right
          cases fault with
          | nullName => contradiction
          | missing => exact ⟨_, rfl, rfl⟩
          | notFolder => exact ⟨_, rfl, rfl⟩
          | isFolder => exact ⟨_, rfl, rfl⟩
          | nameTooLong => exact ⟨_, rfl, rfl⟩
          | forbidden => exact ⟨_, rfl, rfl⟩
      | ok node =>
          cases node with
          | folder => exact .inr ⟨_, rfl, rfl⟩
          | locked => exact .inr ⟨_, rfl, rfl⟩
          | file content =>
              left
              cases content with
              | bytes content => exact ⟨_, rfl⟩
              | database _ => exact ⟨_, rfl⟩

end Files

theorem answersOrReports_fileBytes_iff {tree : Tree} {path : Path} :
    AnswersOrReports (fileBytes tree path) ↔ Tree.hasNull path = false := by
  rcases fileBytes_cases tree path with
    ⟨null, fails⟩ | ⟨named, ⟨content, holds⟩ | ⟨error, fails, reported⟩⟩
  · simp [fails, null, StoreError.isReported]
  · simp [holds, named]
  · simp [fails, named, reported]

theorem answersOrReports_decodePayload_iff {levels : Option Nat} {path : Path}
    {text : List Char} :
    AnswersOrReports (decodePayload levels path text) ↔ KeepsLimits levels text := by
  rw [decodePayload, KeepsLimits]
  cases Json.decodeWithin levels text with
  | ok payload => simp
  | error error => cases error <;> simp [StoreError.isReported, Json.DecodeError.isMalformed]

theorem answersOrReports_termsOfPayload (path : Path) (payload : Value) :
    AnswersOrReports (termsOfPayload path payload) := by
  rw [termsOfPayload]
  split
  · exact answersOrReports_ok _
  · exact answersOrReports_error_iff.mpr rfl

/-- A JSON term file is read, or it is reported that it is not, unless its name has a null
character or its text passes a limit. -/
theorem answersOrReports_readJson_iff {levels : Option Nat} {tree : Tree} {path : Path} :
    AnswersOrReports (readJson levels tree path) ↔ Tree.hasNull path = false
      ∧ ∀ content text, fileBytes tree path = .ok content → Utf8.decode content = .ok text →
        KeepsLimits levels (unifyBreaks text) := by
  rw [readJson, answersOrReports_bind_iff, answersOrReports_fileBytes_iff]
  apply and_congr_right
  intro named
  apply forall_congr'
  intro content
  rw [forall_comm]
  apply imp_congr_right
  intro holds
  cases decodes : Utf8.decode content with
  | error error => simp [StoreError.isReported]
  | ok text =>
      simp [answersOrReports_bind_iff, answersOrReports_decodePayload_iff,
        answersOrReports_termsOfPayload]

/-! ## Rows of cells -/

theorem answersOrReports_termOfRow {separator : List Char} (occurs : separator ≠ [])
    (row : Csv.Row) : AnswersOrReports (termOfRow separator row) := by
  match row with
  | [] => exact answersOrReports_ok none
  | [_] => exact answersOrReports_ok none
  | term :: translation :: rest =>
      rw [termOfRow, answersOrReports_map_iff, aliasesOfCell, if_neg occurs]
      split
      · exact answersOrReports_ok _
      · exact answersOrReports_ok _

/-- A CSV term file is read, or it is reported that it is not, unless its name has a null
character. -/
theorem answersOrReports_readCsv_iff {tree : Tree} {path : Path} {separator : List Char}
    (occurs : separator ≠ []) (hasHeader : Bool) :
    AnswersOrReports (readCsv tree path separator hasHeader) ↔ Tree.hasNull path = false := by
  rw [readCsv, answersOrReports_bind_iff, answersOrReports_fileBytes_iff]
  apply and_iff_left
  intro content _
  rcases rowsOfBytes content with ⟨rows, fault⟩
  apply answersOrReports_bind_iff.mpr
  constructor
  · rw [termsOfRows, answersOrReports_map_iff]
    exact answersOrReports_mapM fun row _ => answersOrReports_termOfRow occurs row
  · intro terms _
    cases fault with
    | none => exact answersOrReports_ok terms
    | some fault => exact answersOrReports_error_iff.mpr rfl

/-! ## Rows of a table -/

section Tables

variable {levels : Option Nat}

/-- What a cell for aliases should be: empty, or a text that keeps the limits, as text or as
bytes. -/
inductive IsReadableCell (levels : Option Nat) : Value → Prop
  | empty {cell : Value} (isEmpty : cell.isEmpty = true) : IsReadableCell levels cell
  | text {text : List Char} (keepsLimits : KeepsLimits levels text) :
      IsReadableCell levels (.text text)
  | bytes {content : List UInt8} {text : List Char} (decodes : decodeAny? content = some text)
      (keepsLimits : KeepsLimits levels text) : IsReadableCell levels (.bytes content)

/-- The cell for aliases in a row of cells. -/
def aliasCell (cells : List Value) : Value :=
  cells[2]?.getD .null

theorem answersOrReports_aliasesOfText_iff {text : List Char} :
    AnswersOrReports (aliasesOfText levels text) ↔ KeepsLimits levels text := by
  rw [aliasesOfText, KeepsLimits]
  cases Json.decodeWithin levels text with
  | ok value => simp
  | error error => cases error <;> simp [StoreError.isReported, Json.DecodeError.isMalformed]

theorem answersOrReports_aliasesOfValue_iff {cell : Value} :
    AnswersOrReports (aliasesOfValue levels cell) ↔ IsReadableCell levels cell := by
  unfold aliasesOfValue
  by_cases isEmpty : cell.isEmpty = true
  · rw [if_pos isEmpty]
    exact iff_of_true (answersOrReports_ok _) (.empty isEmpty)
  · rw [if_neg isEmpty]
    constructor
    · intro answers
      split at answers
      · exact .text (answersOrReports_aliasesOfText_iff.mp answers)
      · split at answers
        · next decodes => exact .bytes decodes (answersOrReports_aliasesOfText_iff.mp answers)
        · exact absurd (answersOrReports_error_iff.mp answers) Bool.false_ne_true
      · exact absurd (answersOrReports_error_iff.mp answers) Bool.false_ne_true
    · rintro (isEmpty | keepsLimits | ⟨decodes, keepsLimits⟩)
      · contradiction
      · exact answersOrReports_aliasesOfText_iff.mpr keepsLimits
      · dsimp only
        rw [decodes]
        exact answersOrReports_aliasesOfText_iff.mpr keepsLimits

theorem isReported_of_aliasesOfText {text : List Char} {error : StoreError}
    (fails : aliasesOfText levels text = .error error) : error.isReported = false := by
  rw [aliasesOfText] at fails
  cases decodes : Json.decodeWithin levels text with
  | ok value =>
      rw [decodes] at fails
      cases fails
  | error reason =>
      rw [decodes] at fails
      cases reason with
      | malformed => cases fails
      | longNumber count =>
          cases fails
          rfl
      | tooDeep =>
          cases fails
          rfl

/-- No fault of a cell is reported. -/
theorem isReported_of_aliasesOfValue {cell : Value} {error : StoreError}
    (fails : aliasesOfValue levels cell = .error error) : error.isReported = false := by
  unfold aliasesOfValue at fails
  split at fails
  · cases fails
  · split at fails
    · exact isReported_of_aliasesOfText fails
    · split at fails
      · exact isReported_of_aliasesOfText fails
      · cases fails
        rfl
    · cases fails
      rfl

theorem answersOrReports_termOfCells_iff {cells : List Value} :
    AnswersOrReports (termOfCells levels cells) ↔ IsReadableCell levels (aliasCell cells) := by
  rw [termOfCells, answersOrReports_map_iff, answersOrReports_aliasesOfValue_iff, aliasCell]

theorem isReported_of_termOfCells {cells : List Value} {error : StoreError}
    (fails : termOfCells levels cells = .error error) : error.isReported = false := by
  rw [termOfCells] at fails
  cases reads : aliasesOfValue levels (cells[2]?.getD .null) with
  | ok aliases =>
      rw [reads] at fails
      cases fails
  | error reason =>
      rw [reads] at fails
      cases fails
      exact isReported_of_aliasesOfValue reads

theorem answersOrReports_rows_iff {rows : List (List Value)} :
    AnswersOrReports (rows.mapM (termOfCells levels))
      ↔ ∀ cells ∈ rows, IsReadableCell levels (aliasCell cells) := by
  rw [answersOrReports_mapM_iff fun _ _ => isReported_of_termOfCells]
  simp only [answersOrReports_termOfCells_iff]

/-- A database is opened, or it is reported that it is not, if it can be known whether it is
there. -/
theorem answersOrReports_databaseAt_iff {tree : Tree} {path : Path} {name : TableName} :
    AnswersOrReports (databaseAt tree path name) ↔ ∃ isThere, tree.exists? path = .ok isThere := by
  rw [databaseAt]
  cases tree.exists? path with
  | error error => simp [StoreError.isReported]
  | ok isThere =>
      refine iff_of_true ?_ ⟨isThere, rfl⟩
      cases isThere with
      | false => exact answersOrReports_error_iff.mpr rfl
      | true =>
          dsimp only
          split
          · exact answersOrReports_ok _
          · split
            · exact answersOrReports_ok _
            · exact answersOrReports_error_iff.mpr rfl

/-- A term table is read, or it is reported that it is not, if it can be known whether it is there,
unless a row of it has an unreadable cell for aliases. -/
theorem answersOrReports_readTable_iff {tree : Tree} {path : Path} {name : TableName} :
    AnswersOrReports (readTable levels tree path name) ↔
      (∃ isThere, tree.exists? path = .ok isThere)
      ∧ ∀ content rows, databaseAt tree path name = .ok content →
        selectTerms content name = .ok rows →
        ∀ cells ∈ rows, IsReadableCell levels (aliasCell cells) := by
  rw [readTable, answersOrReports_bind_iff, answersOrReports_databaseAt_iff]
  apply and_congr_right
  intro _
  apply forall_congr'
  intro content
  rw [forall_comm]
  apply imp_congr_right
  intro _
  rw [answersOrReports_bind_iff]
  cases selects : selectTerms content name with
  | error fault => simp [Except.mapError, StoreError.isReported]
  | ok rows => simp [Except.mapError, answersOrReports_rows_iff]

end Tables

/-! ## Stores -/

/-- When the stores of a library that stand for a file answer or report, whatever there is at the
path, on a machine that follows JSON values to so many levels. -/
structure ReportsFaults (levels : Option Nat) (tree : Tree) (path : Path) (request : Nat) :
    Prop where
  json : AnswersOrReports ((TermStore.json path).readWithin levels tree request) ↔
    Tree.hasNull path = false
    ∧ ∀ content text, fileBytes tree path = .ok content → Utf8.decode content = .ok text →
      KeepsLimits levels (unifyBreaks text)
  csv : ∀ hasHeader,
    AnswersOrReports
        ((TermStore.csv path TermStore.aliasSeparator hasHeader).readWithin levels tree request) ↔
      Tree.hasNull path = false
  table : ∀ name,
    AnswersOrReports ((TermStore.table path name).readWithin levels tree request) ↔
      (∃ isThere, tree.exists? path = .ok isThere)
      ∧ ∀ content rows, databaseAt tree path name = .ok content →
        selectTerms content name = .ok rows →
        ∀ cells ∈ rows, IsReadableCell levels (aliasCell cells)

/-- Whatever a path leads to, a store for it answers or reports, but for names that no file can
have, for databases of which it cannot be known whether they are there, for cells that hold no text,
and for JSON beyond the limits of its reader: there a number is too long, digit by digit, or more
brackets open than the machine has levels. -/
theorem stores_reportFaults (levels : Option Nat) (tree : Tree) (path : Path) (request : Nat) :
    ReportsFaults levels tree path request
    ∧ ∀ text, ¬ Json.IsBeyond levels text →
      KeepsLimits levels text ∧ KeepsLimits levels (unifyBreaks text) := by
  constructor
  · exact ⟨answersOrReports_readJson_iff,
      fun hasHeader => answersOrReports_readCsv_iff (List.cons_ne_nil _ _) hasHeader,
      fun _ => answersOrReports_readTable_iff⟩
  · intro text within
    exact ⟨keepsLimits_of_not_isBeyond within,
      keepsLimits_of_not_isBeyond fun beyond => within beyond.of_unifyBreaks⟩

/-- A number and bytes in no encoding are no aliases, and the store does not report them. Nor does
it report a name that is too long to be looked for. -/
theorem not_answersOrReports_readTable :
    let path : Path := ⟨[], ["t.db".toList]⟩
    let row (aliases : Value) : List Value := [.text "user".toList, .text "usuario".toList, aliases]
    let table (aliases : Value) : Table := ⟨"terms".toList, termColumns, [(1, row aliases)]⟩
    let tree (aliases : Value) : Tree := ⟨[(path, .file (.database [table aliases]))]⟩
    let longPath : Path := ⟨[], [List.replicate 256 't']⟩
    (∀ aliases ∈ [Value.int 5, Value.bytes [0xFF]],
      ¬ AnswersOrReports ((TermStore.table path .terms).read (tree aliases) 0))
    ∧ ¬ AnswersOrReports ((TermStore.table longPath .terms).read ⟨[]⟩ 0) := by
  intro path row table tree longPath
  constructor
  · intro aliases member answers
    have selects : selectTerms (.database [table aliases]) .terms = .ok [row aliases] :=
      selectTerms_terms (List.pairwise_singleton _ _) (List.forall_mem_singleton.mpr rfl)
    change AnswersOrReports (readTable none (tree aliases) path .terms) at answers
    have opens : databaseAt (tree aliases) path .terms = .ok (.database [table aliases]) := rfl
    have readable : IsReadableCell none aliases :=
      (answersOrReports_readTable_iff.mp answers).2 _ _ opens selects _ List.mem_cons_self
    have undecodable : decodeAny? [0xFF] = none := by
      decide +kernel
    simp only [List.mem_cons, List.not_mem_nil, or_false] at member
    rcases member with rfl | rfl
    · cases readable with
      | empty isEmpty => contradiction
    · cases readable with
      | empty isEmpty => contradiction
      | bytes decodes =>
          rw [undecodable] at decodes
          contradiction
  · intro answers
    change AnswersOrReports (readTable none ⟨[]⟩ longPath .terms) at answers
    obtain ⟨isThere, known⟩ := (answersOrReports_readTable_iff.mp answers).1
    have hidden : Tree.exists? ⟨[]⟩ longPath = .error ⟨.nameTooLong, longPath⟩ := by
      decide +kernel
    rw [hidden] at known
    contradiction

end CodeGloss.Stores
