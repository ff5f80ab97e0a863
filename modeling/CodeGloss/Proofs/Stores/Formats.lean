import CodeGloss.Proofs.Glossary.Dictionary
import CodeGloss.Proofs.Text.Utf8
import CodeGloss.Stores.TermStore
import Mathlib.Data.List.Forall2

/-!
# One collection in several formats

A collection of texts may be held in memory, in a JSON file, in a table or in a CSV
file. A CSV file says less of it: blanks around its cells and around aliases are
dropped, and so are aliases without letters. A dictionary does not tell the
difference, because it strips its keys and passes over the empty ones.
-/

namespace CodeGloss.Stores

open Files Format Glossary Text

/-- A term whose parts are all text. -/
structure Wording where
  term : List Char
  translation : List Char
  aliases : List (List Char)
  deriving DecidableEq, Repr

namespace Wording

/-- The term as it is held in memory. -/
def toTerm (wording : Wording) : Term :=
  .ofText wording.term wording.translation wording.aliases

/-- The term as a CSV file gives it. -/
def toStripped (wording : Wording) : Term :=
  .ofText (strip wording.term) (strip wording.translation)
    ((wording.aliases.map strip).filter (· != []))

/-- The row of a CSV file. -/
def toRow (wording : Wording) : Csv.Row :=
  [wording.term, wording.translation, joinWith TermStore.aliasSeparator wording.aliases]

/-- The value is a record of the term, with its fields in any order. -/
def IsRecord (value : Value) (wording : Wording) : Prop :=
  ∃ fields : Fields, value = .record fields
    ∧ fields.get? "term" = some (.text wording.term)
    ∧ fields.get? "translation" = some (.text wording.translation)
    ∧ fields.get? "aliases" = some (.list (wording.aliases.map .text))

/-- The cells are those of the term, with the aliases as the JSON text of a list. -/
def IsCells (cells : List Value) (wording : Wording) : Prop :=
  ∃ aliases, cells = [.text wording.term, .text wording.translation, .text aliases]
    ∧ Json.decode aliases = .ok (.list (wording.aliases.map .text))

end Wording

/-! ## What dictionaries tell apart -/

/-- Aliases may be stripped, and the empty ones left out. -/
theorem filterMap_entry?_strip (aliases : List (List Char)) (translation : List Char) :
    (((aliases.map strip).filter (· != [])).map fun name =>
        ((.text name, .text translation) : Candidate)).filterMap Candidate.entry? =
      (aliases.map fun name => ((.text name, .text translation) : Candidate)).filterMap
        Candidate.entry? := by
  rw [List.filterMap_map, List.filterMap_map, List.filterMap_filter, List.filterMap_map]
  apply List.filterMap_congr
  intro name _
  by_cases blank : strip name = []
  · simp [blank, entry?_of_strip_eq_nil blank]
  · simp [blank, entry?_strip]

/-- Collections with the same candidates, but for those without an entry, have one dictionary. -/
theorem dictionaryOf_map_congr {α : Type} {items : List α} {f g : α → Term}
    (same : ∀ item ∈ items, (f item).candidates.filterMap Candidate.entry? =
      (g item).candidates.filterMap Candidate.entry?) (vocabulary : Vocabulary) :
    dictionaryOf (items.map f) vocabulary = dictionaryOf (items.map g) vocabulary := by
  have proposed : ((items.map f).flatMap Term.candidates).filterMap Candidate.entry? =
      ((items.map g).flatMap Term.candidates).filterMap Candidate.entry? := by
    simp only [List.filterMap_flatMap, List.flatMap_map]
    exact List.flatMap_congr same
  rw [dictionaryOf, dictionaryOf, candidates, candidates, List.filterMap_append, proposed,
    List.filterMap_append]

namespace Wording

theorem dictionaryOf_toStripped {wordings : List Wording}
    (stripped : ∀ wording ∈ wordings, strip wording.translation = wording.translation)
    (vocabulary : Vocabulary) :
    dictionaryOf (wordings.map toStripped) vocabulary =
      dictionaryOf (wordings.map toTerm) vocabulary := by
  apply dictionaryOf_map_congr
  intro wording member
  rw [toStripped, stripped wording member]
  simp only [toTerm, Term.candidates, Term.ofText, List.map_map, Function.comp_def,
    List.filterMap_cons, entry?_strip]
  rw [filterMap_entry?_strip]

end Wording

/-! ## What stores read -/

theorem fieldOrEmpty_of_text {fields : Fields} {name : String} {content : List Char}
    (holds : fields.get? name = some (.text content)) :
    Term.fieldOrEmpty fields name = .text content := by
  rw [Term.fieldOrEmpty, holds]
  cases content with
  | nil => rfl
  | cons c rest => rfl

theorem ofFields_eq {fields : Fields} {wording : Wording}
    (term : fields.get? "term" = some (.text wording.term))
    (translation : fields.get? "translation" = some (.text wording.translation))
    (aliases : fields.get? "aliases" = some (.list (wording.aliases.map .text))) :
    Term.ofFields fields = wording.toTerm := by
  rw [Term.ofFields, fieldOrEmpty_of_text term, fieldOrEmpty_of_text translation, aliases,
    Option.map_some, Value.texts_list_map_text]
  rfl

theorem filterMap_ofValue? {items : List Value} {wordings : List Wording}
    (records : List.Forall₂ Wording.IsRecord items wordings) :
    items.filterMap Term.ofValue? = wordings.map Wording.toTerm := by
  induction records with
  | nil => rfl
  | cons isRecord _ ih =>
      obtain ⟨fields, rfl, term, translation, aliases⟩ := isRecord
      rw [List.filterMap_cons, Term.ofValue?, ofFields_eq term translation aliases, ih]
      rfl

/-- The store can be read, and what it gives makes the dictionary. -/
def GivesDictionary (store : TermStore) (tree : Tree) (request : Nat) (vocabulary : Vocabulary)
    (entries : List Entry) : Prop :=
  ∃ terms, store.read tree request = .ok terms ∧ dictionaryOf terms vocabulary = entries

/-- The JSON file holds records of the terms, one after the other. -/
def JsonHolds (tree : Tree) (path : Path) (wordings : List Wording) : Prop :=
  ∃ content text items, fileBytes tree path = .ok content ∧ Utf8.decode content = .ok text
    ∧ Json.decode (unifyBreaks text) = .ok (.list items)
    ∧ List.Forall₂ Wording.IsRecord items wordings

/-- The rows of the table hold the terms, in the order of their numbers. -/
def TableHolds (tree : Tree) (path : Path) (name : TableName) (wordings : List Wording) : Prop :=
  ∃ content rows, databaseAt tree path name = .ok content ∧ selectTerms content name = .ok rows
    ∧ List.Forall₂ Wording.IsCells rows wordings

/-- The CSV file holds a row for each term, under a row of titles. -/
def CsvHolds (tree : Tree) (path : Path) (wordings : List Wording) : Prop :=
  ∃ content titles, fileBytes tree path = .ok content
    ∧ rowsOfBytes content = (titles :: wordings.map Wording.toRow, none)

section Reads

variable {tree : Tree} {path : Path} {wordings : List Wording}

theorem readJson_of_jsonHolds (holds : JsonHolds tree path wordings) :
    readJson none tree path = .ok (wordings.map Wording.toTerm) := by
  obtain ⟨content, text, items, isContent, decodes, isList, records⟩ := holds
  rw [Json.decode] at isList
  rw [readJson, isContent]
  simp only [bind, Except.bind]
  rw [decodes]
  simp only [decodePayload, isList]
  rw [termsOfPayload, listOf?]
  exact congrArg Except.ok (filterMap_ofValue? records)

theorem termOfCells_of_isCells {cells : List Value} {wording : Wording}
    (isCells : Wording.IsCells cells wording) : termOfCells none cells = .ok wording.toTerm := by
  obtain ⟨aliases, rfl, decodes⟩ := isCells
  rw [Json.decode] at decodes
  have isText : aliases.isEmpty = false := by
    cases aliases with
    | nil => contradiction
    | cons c rest => rfl
  have reads : aliasesOfValue none (.text aliases) = .ok (.list (wording.aliases.map .text)) := by
    rw [aliasesOfValue, Value.isEmpty, isText, if_neg Bool.false_ne_true]
    simp only [aliasesOfText, decodes]
  change (aliasesOfValue none (.text aliases)).map _ = _
  rw [reads]
  exact congrArg Except.ok (ofFields_eq rfl rfl rfl)

theorem mapM_termOfCells {rows : List (List Value)}
    (cells : List.Forall₂ Wording.IsCells rows wordings) :
    rows.mapM (termOfCells none) = .ok (wordings.map Wording.toTerm) := by
  induction cells with
  | nil => rfl
  | cons isCells _ ih =>
      rw [List.mapM_cons, termOfCells_of_isCells isCells, ih]
      rfl

theorem readTable_of_tableHolds {name : TableName} (holds : TableHolds tree path name wordings) :
    readTable none tree path name = .ok (wordings.map Wording.toTerm) := by
  obtain ⟨content, rows, opens, selects, cells⟩ := holds
  rw [readTable, opens]
  simp only [bind, Except.bind, selects, Except.mapError]
  exact mapM_termOfCells cells

theorem filter_map_strip_of_isBlankText {m : List Char} {aliases : List (List Char)}
    (blank : isBlankText (joinWith m aliases) = true) :
    (aliases.map strip).filter (· != []) = [] := by
  apply List.filter_eq_nil_iff.mpr
  intro stripped member
  obtain ⟨name, isAlias, rfl⟩ := List.mem_map.mp member
  have isBlankAlias : isBlankText name = true := by
    apply List.all_eq_true.mpr
    intro c inName
    exact List.all_eq_true.mp blank c (mem_joinWith_of_mem m isAlias inName)
  simp [(strip_eq_nil_iff name).mpr isBlankAlias]

/-- The aliases of a cell are those that were joined in it, stripped. -/
theorem aliasesOfCell_joinWith {m : Char} {aliases : List (List Char)}
    (apart : ∀ name ∈ aliases, m ∉ name) :
    aliasesOfCell [m] (joinWith [m] aliases) = .ok ((aliases.map strip).filter (· != [])) := by
  rw [aliasesOfCell]
  by_cases blank : isBlankText (joinWith [m] aliases) = true
  · rw [if_pos blank, filter_map_strip_of_isBlankText blank]
  · rw [if_neg blank, if_neg (List.cons_ne_nil _ _)]
    have nonempty : aliases ≠ [] := by
      rintro rfl
      exact blank rfl
    rw [splitOn_joinWith nonempty apart]

theorem termOfRow_toRow {wording : Wording} (apart : ∀ name ∈ wording.aliases, '|' ∉ name) :
    termOfRow TermStore.aliasSeparator wording.toRow = .ok (some wording.toStripped) := by
  rw [Wording.toRow, termOfRow, List.head?_cons, Option.getD_some, TermStore.aliasSeparator,
    aliasesOfCell_joinWith apart]
  rfl

theorem mapM_termOfRow {wordings : List Wording}
    (apart : ∀ wording ∈ wordings, ∀ name ∈ wording.aliases, '|' ∉ name) :
    (wordings.map Wording.toRow).mapM (termOfRow TermStore.aliasSeparator) =
      .ok ((wordings.map Wording.toStripped).map some) := by
  induction wordings with
  | nil => rfl
  | cons wording wordings ih =>
      obtain ⟨apartHere, apartLater⟩ := List.forall_mem_cons.mp apart
      rw [List.map_cons, List.mapM_cons, termOfRow_toRow apartHere, ih apartLater]
      rfl

theorem readCsv_of_csvHolds
    (apart : ∀ wording ∈ wordings, ∀ name ∈ wording.aliases, '|' ∉ name)
    (holds : CsvHolds tree path wordings) :
    readCsv tree path TermStore.aliasSeparator true = .ok (wordings.map Wording.toStripped) := by
  obtain ⟨content, titles, isContent, rows⟩ := holds
  rw [readCsv, isContent]
  simp only [bind, Except.bind, rows, if_true, List.drop_one, List.tail_cons, termsOfRows,
    mapM_termOfRow apart, Except.map]
  rw [List.filterMap_map]
  simp

end Reads

/-- In memory, in a JSON file, in a table and in a CSV file the same terms make the same
dictionary, with its entries in the same order. -/
theorem stores_giveDictionary {wordings : List Wording}
    (apart : ∀ wording ∈ wordings, ∀ name ∈ wording.aliases, '|' ∉ name)
    (stripped : ∀ wording ∈ wordings, strip wording.translation = wording.translation)
    {tree : Tree} {jsonPath tablePath csvPath : Path} {name : TableName}
    (json : JsonHolds tree jsonPath wordings) (table : TableHolds tree tablePath name wordings)
    (csv : CsvHolds tree csvPath wordings) (vocabulary : Vocabulary) (request : Nat) :
    ∀ store ∈ [.static (wordings.map Wording.toTerm), .json jsonPath, .table tablePath name,
        .csv csvPath TermStore.aliasSeparator true],
      GivesDictionary store tree request vocabulary
        (dictionaryOf (wordings.map Wording.toTerm) vocabulary) := by
  simp only [List.forall_mem_cons, List.not_mem_nil, false_imp_iff, implies_true, and_true]
  refine ⟨⟨_, rfl, rfl⟩, ⟨_, readJson_of_jsonHolds json, rfl⟩,
    ⟨_, readTable_of_tableHolds table, rfl⟩, ⟨_, readCsv_of_csvHolds apart csv, ?_⟩⟩
  exact Wording.dictionaryOf_toStripped stripped vocabulary

/-- Two terms with blanks around names, one alias that both have, and a vocabulary with a key of
theirs, in all formats. The first term keeps the alias, and keys of one length keep their order. -/
theorem stores_giveDictionary_shared :
    let wordings : List Wording :=
      [⟨" fetch".toList, "obtener".toList, [" get".toList, []]⟩,
       ⟨"users".toList, "usuarios".toList, ["get".toList]⟩]
    let vocabulary : Vocabulary :=
      [("users".toList, .text "gente".toList), ("state".toList, .text "estado".toList)]
    let json :=
      "[\x7b\"aliases\":[\" get\",\"\"],\"term\":\" fetch\",".toList
        ++ "\"translation\":\"obtener\"\x7d,".toList
        ++ "\x7b\"term\":\"users\",\"aliases\":[\"get\"],\"translation\":\"usuarios\"\x7d]".toList
    let rows : List (Int × List Value) :=
      [(1, [.text " fetch".toList, .text "obtener".toList, .text "[\" get\", \"\"]".toList]),
       (2, [.text "users".toList, .text "usuarios".toList, .text "[\"get\"]".toList])]
    let csv := "term,translation,aliases\n fetch,obtener, get|\nusers,usuarios,get\n".toList
    let tree : Tree :=
      ⟨[(⟨[], ["t.json".toList]⟩, .file (.bytes (Utf8.encode json))),
        (⟨[], ["t.db".toList]⟩, .file (.database [⟨"terms".toList, termColumns, rows⟩])),
        (⟨[], ["t.csv".toList]⟩, .file (.bytes (Utf8.encode csv)))]⟩
    ∀ store ∈ [.static (wordings.map Wording.toTerm), .json ⟨[], ["t.json".toList]⟩,
        .table ⟨[], ["t.db".toList]⟩ .terms,
        .csv ⟨[], ["t.csv".toList]⟩ TermStore.aliasSeparator true],
      GivesDictionary store tree 0 vocabulary
        [⟨"fetch".toList, "obtener".toList⟩, ⟨"users".toList, "usuarios".toList⟩,
         ⟨"state".toList, "estado".toList⟩, ⟨"get".toList, "obtener".toList⟩] := by
  have first : Json.decode "[\" get\", \"\"]".toList =
      .ok (.list ([" get".toList, []].map .text)) := by
    cbv
  have second : Json.decode "[\"get\"]".toList = .ok (.list (["get".toList].map .text)) := by
    cbv
  intro wordings vocabulary json rows csv tree
  have items : Json.decode (unifyBreaks json) = .ok (.list
      [.record [("aliases".toList, .list ([" get".toList, []].map .text)),
         ("term".toList, .text " fetch".toList), ("translation".toList, .text "obtener".toList)],
       .record [("term".toList, .text "users".toList),
         ("aliases".toList, .list (["get".toList].map .text)),
         ("translation".toList, .text "usuarios".toList)]]) := by
    subst json
    cbv
  have jsonHolds : JsonHolds tree ⟨[], ["t.json".toList]⟩ wordings :=
    ⟨_, json, _, rfl, Utf8.decode_encode json, items,
      .cons ⟨_, rfl, rfl, rfl, rfl⟩ (.cons ⟨_, rfl, rfl, rfl, rfl⟩ .nil)⟩
  have selects : selectTerms (.database [⟨"terms".toList, termColumns, rows⟩]) .terms =
      .ok (rows.map Prod.snd) :=
    selectTerms_terms (by decide) (by decide)
  have tableHolds : TableHolds tree ⟨[], ["t.db".toList]⟩ .terms wordings :=
    ⟨_, _, rfl, selects, .cons ⟨_, rfl, first⟩ (.cons ⟨_, rfl, second⟩ .nil)⟩
  have lines : rowsOfBytes (Utf8.encode csv) =
      (["term".toList, "translation".toList, "aliases".toList] :: wordings.map Wording.toRow,
        none) := by
    decide +kernel
  have csvHolds : CsvHolds tree ⟨[], ["t.csv".toList]⟩ wordings := ⟨_, _, rfl, lines⟩
  have taken : firstOfEach []
      ((candidates (wordings.map Wording.toTerm) vocabulary).filterMap Candidate.entry?) =
        [⟨"fetch".toList, "obtener".toList⟩, ⟨"get".toList, "obtener".toList⟩,
         ⟨"users".toList, "usuarios".toList⟩, ⟨"state".toList, "estado".toList⟩] := by
    decide +kernel
  have sorted : dictionaryOf (wordings.map Wording.toTerm) vocabulary =
      [⟨"fetch".toList, "obtener".toList⟩, ⟨"users".toList, "usuarios".toList⟩,
       ⟨"state".toList, "estado".toList⟩, ⟨"get".toList, "obtener".toList⟩] := by
    rw [dictionaryOf, taken, longestFirst]
    simp [List.mergeSort]
  rw [← sorted]
  exact stores_giveDictionary (by decide) (by decide) jsonHolds tableHolds csvHolds vocabulary 0

end CodeGloss.Stores
