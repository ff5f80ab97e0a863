import CodeGloss.Command.CommandLine
import CodeGloss.Proofs.Gloss.Unmatched
import CodeGloss.Proofs.Text.Utf8
import CodeGloss.Proofs.Translator.Routing

/-!
# Saving a file in which nothing matches

The command line reads a file, translates it and saves what comes out. If no entry
has a match, what comes out is the text of the file with every line break as a line
feed, and these are the bytes that were read unless there are carriage returns. The
matches are those in the text with its line breaks so changed. Where the bytes have
none, only a key with a line feed inside may have one there. How arguments are read and
how a console takes messages is not looked into. The file is saved before the console
is told so, and the command ends well if the console takes the message.
-/

namespace CodeGloss.Command

open Files hiding Node
open Format Glossary Gloss Report Settings Stores Syntax Text Translator

/-! ## Translating -/

/-- If no entry has a match, a snippet that is not parsed comes out as it is. -/
theorem exists_translateAs_of_noMatch {parser : Parser} {options : Options} {entries : List Entry}
    {source : List Char} {language : Language} (notParsed : ¬ IsParsed language)
    (keys : ∀ entry ∈ entries, entry.key ≠ []) (noMatch : anyOccurs entries source = false) :
    ∃ result, (translateAs parser options entries source language).1 = .ok result
      ∧ result.code = source := by
  rcases language_cases language with isParsed | rfl | rfl
  · contradiction
  · have glossed : glossScanned {} source entries (Language.tag .python).toList =
        .ok (.unchanged (Language.tag .python).toList source) :=
      glossScanned_of_unchanged _ fun span member content isContent =>
        translateEscaped_content keys noMatch (spanEscape span) member isContent
    rw [translateAs, strategyOf_python]
    exact ⟨_, congrArg (Except.mapError TranslateError.edit) glossed, rfl⟩
  · refine ⟨_, rfl, ?_⟩
    rw [glossWhole_of_unchanged _ (translateEscaped_of_not_anyOccurs id noMatch)]

/-- The dictionary that can be read for a request. -/
def HasDictionary (host : Host) (request : TranslateRequest) (entries : List Entry) : Prop :=
  ∃ store terms, storeOf host.environment request = .ok store ∧ store.read host.tree 0 = .ok terms
    ∧ dictionaryOf terms ({ useDefaults := request.useDefaults } : Options).vocabulary = entries

theorem exists_translate_of_noMatch (parser : Parser) {tree : Tree} {options : Options}
    {store : TermStore} {terms : List Term} {source : List Char} {hint : Option (List Char)}
    (notParsed : ¬ IsParsed (Language.resolve source hint))
    (reads : store.read tree 0 = .ok terms)
    (noMatch : anyOccurs (dictionaryOf terms options.vocabulary) source = false) :
    ∃ result,
      ((Translator.ofStore options store).translate parser tree source hint).1 = .ok result
        ∧ result.code = source := by
  cases blank : isBlankText source with
  | true =>
      rw [translate_of_blank parser tree _ hint blank]
      obtain ⟨tag, isResult⟩ := exists_blankResult_eq source hint
      exact ⟨_, rfl, by rw [isResult]; rfl⟩
  | false =>
      have hasDictionary : ((Translator.ofStore options store).cache.fetch tree).1 =
          .ok (dictionaryOf terms options.vocabulary) := by
        simp only [Translator.ofStore, Cache.ofStore, Cache.fetch, Cache.fill, reads]
      rw [fst_translate blank hasDictionary]
      exact exists_translateAs_of_noMatch notParsed
        (fun entry member => (ne_nil_of_mem_dictionaryOf member).1) noMatch

/-! ## Commands -/

section Commands

variable {console : Console} {parser : Parser} {host : Host} {request : TranslateRequest}
  {entries : List Entry} {input output : Path} {content : List UInt8} {text : List Char}

theorem inputCode_of_open? (fromFile : request.input.file = some input)
    (holds : host.tree.open? input = .ok (.bytes content))
    (isText : Utf8.decode content = .ok text) :
    inputCode host.tree request.input = .ok (.ok (unifyBreaks text)) := by
  rw [inputCode, fromFile]
  simp only [Tree.exists?_of_open? holds, readText, holds, isText]
  rfl

/-- With code and a store, a request comes down to one translation. -/
theorem runTranslate_eq {code : List Char} {store : TermStore}
    (isCode : inputCode host.tree request.input = .ok (.ok code))
    (isStore : storeOf host.environment request = .ok store) :
    runTranslate console parser host request = showTranslation console host.tree request
      ((Translator.ofStore { useDefaults := request.useDefaults } store).translate parser
        host.tree code request.language) := by
  simp only [runTranslate, isCode, isStore]

theorem exitCode_ofResult_map {α : Type} (threshold : Nat) (x : Except Failure α)
    (shown : α → List (List Char)) (events : List Event) :
    (Ending.ofResult threshold (x.map fun a => .ofLines (shown a) events)).exitCode = 0 ↔
      x.isOk = true := by
  cases x with
  | error failure => exact ⟨nofun, nofun⟩
  | ok a => exact ⟨fun _ => rfl, fun _ => rfl⟩

/-- The command saves the code in the file, and ends well exactly if the console takes the message
that names the file. -/
structure Saves (console : Console) (output : Path) (code : List Char) (outcome : Outcome) :
    Prop where
  written : outcome.written = some (output, Utf8.encode code)
  endsWell (threshold : Nat) : (Ending.ofResult threshold outcome.result).exitCode = 0 ↔
    (console.message (savedMessage output)).isOk = true

theorem saves_showResult (toFile : request.output = some output)
    (writable : host.tree.IsWritable output) (result : GlossedCode) (events : List Event) :
    Saves console output result.code (showResult console host.tree request result events) := by
  obtain ⟨lines, isShown⟩ : ∃ lines, resultLines console request result = .ok lines := by
    rw [resultLines, toFile]
    split
    · exact ⟨_, rfl⟩
    · exact ⟨_, rfl⟩
  obtain ⟨next, writes, _⟩ := Tree.exists_write writable (Utf8.encode result.code)
  simp only [showResult, isShown, toFile, saveCode, writes]
  refine ⟨rfl, fun threshold => ?_⟩
  rw [exitCode_ofResult_map, say]
  cases console.message (savedMessage output) <;> rfl

/-- A request for a file in which nothing matches saves the text of the file. -/
theorem saves_runTranslate_of_noMatch (console : Console) (parser : Parser)
    (fromFile : request.input.file = some input) (toFile : request.output = some output)
    (holds : host.tree.open? input = .ok (.bytes content)) (isText : Utf8.decode content = .ok text)
    (notParsed : ¬ IsParsed (Language.resolve (unifyBreaks text) request.language))
    (dictionary : HasDictionary host request entries)
    (noMatch : anyOccurs entries (unifyBreaks text) = false)
    (writable : host.tree.IsWritable output) :
    Saves console output (unifyBreaks text) (runTranslate console parser host request) := by
  obtain ⟨store, terms, isStore, reads, rfl⟩ := dictionary
  rw [runTranslate_eq (inputCode_of_open? fromFile holds isText) isStore]
  obtain ⟨result, translated, isSource⟩ :=
    exists_translate_of_noMatch parser notParsed reads noMatch
  generalize (Translator.ofStore { useDefaults := request.useDefaults } store).translate parser
    host.tree (unifyBreaks text) request.language = outcome at translated
  rcases outcome with ⟨_, translator, events⟩
  cases translated
  rw [← isSource]
  exact saves_showResult toFile writable result events

/-- A command line that asks for something gets it, if the log level is known. -/
theorem exists_run_eq (parser : Parser) {frontend : Frontend} {arguments : List Argument}
    {verbose : Bool} {request : Request}
    (asks : frontend.read arguments = .ok (.command verbose (.ok request)))
    (level : (threshold? (logLevel host.environment verbose)).isSome = true) :
    ∃ threshold, run frontend parser host arguments =
      ⟨.ofResult threshold (runRequest frontend parser host request).result,
        (runRequest frontend parser host request).written⟩ := by
  obtain ⟨threshold, isLevel⟩ := Option.isSome_iff_exists.mp level
  exact ⟨threshold, by simp only [run, asks, isLevel]⟩

end Commands

/-- The arguments for a translation from file to file, with a language and a term file. -/
def saveArguments (input output language dictionary : List Char) : List Argument :=
  ["translate".toList, "--input".toList, input, "--output".toList, output, "--language".toList,
    language, "--dictionary".toList, dictionary]

theorem readOpening_saveArguments (input output language dictionary : List Char) :
    readOpening (saveArguments input output language dictionary) =
      .ok (.command false (.ok (.translate
        { input := ⟨none, some (.ofText input)⟩
          output := some (.ofText output)
          language := some language
          dictionary := some (.ofText dictionary)
          useDefaults := true
          useDictionary := true
          json := false
          segments := false }))) := by
  rfl

theorem ofText_of_name {name : List Char} (noSlash : '/' ∉ name) (isName : name ≠ [])
    (noDot : name ≠ ['.']) : Path.ofText name = ⟨[], [name]⟩ := by
  have noRoot : Path.rootOf name = [] := by
    cases name with
    | nil => rfl
    | cons c rest =>
        have notSlash : c ≠ '/' := fun same => noSlash (by simp [same])
        unfold Path.rootOf
        split <;> simp_all
  rw [Path.ofText, noRoot, splitOn_of_not_mem noSlash]
  simp [isName, noDot]

theorem anyOccurs_dictionaryOf {terms : List Term} {vocabulary : Vocabulary} {text : List Char}
    (noMatch : ((candidates terms vocabulary).filterMap Candidate.entry?).all
      (fun entry => !entry.matcher.occursIn text) = true) :
    anyOccurs (dictionaryOf terms vocabulary) text = false := by
  rw [anyOccurs, List.any_eq_false]
  intro entry member
  simpa using List.all_eq_true.mp noMatch entry (mem_proposed_of_mem_dictionaryOf member)

/-! ## Messages on the terminal -/

theorem exists_of_isOk {α ε : Type} {x : Except ε α} (isOk : x.isOk = true) : ∃ a, x = .ok a := by
  cases x with
  | error e => contradiction
  | ok a => exact ⟨a, rfl⟩

section Messages

open Markup

/-- The terminal takes the message if the name has no brackets. -/
theorem isOk_message_saved {path : Path} (noBracket : '[' ∉ path.text) :
    (Console.terminal.message (savedMessage path)).isOk = true := by
  have opens : tag? ("green]Saved to:[/] ".toList ++ path.text) =
      some ("green".toList, "Saved to:".toList ++ '[' :: ("/] ".toList ++ path.text)) := rfl
  have closes : tag? ("/] ".toList ++ path.text) = some (['/'], [' '] ++ path.text) := rfl
  have parts : pieces 0 (savedMessage path) = .tag "green".toList ::
      ("Saved to:".toList.map .char ++ .tag ['/'] ::
        ([' '].map .char ++ pieces 0 path.text)) := by
    rw [← pieces_append (by decide) (by decide), ← pieces_tag closes,
      ← pieces_append (by decide) (by decide)]
    exact pieces_tag opens
  have plain := exists_char_of_mem_pieces 0 noBracket
  have shown : (textOf [] (pieces 0 (savedMessage path))).isOk = true := by
    rw [parts]
    apply isOk_textOf_append ["green".toList] (by simp)
    change (textOf [] ([' '].map Piece.char ++ pieces 0 path.text)).isOk = true
    apply isOk_textOf_append [] (by simp)
    rw [← List.append_nil (pieces 0 path.text)]
    exact isOk_textOf_append [] plain rfl
  have hasTags : (savedMessage path).contains '[' = true :=
    List.contains_iff_mem.mpr (List.mem_append_left _ (by decide))
  have isText : plainText (savedMessage path) = textOf [] (pieces 0 (savedMessage path)) := by
    rw [plainText, if_pos hasTags]
  obtain ⟨text, isShown⟩ := exists_of_isOk shown
  change ((plainText (savedMessage path)).map messageLines).isOk = true
  rw [isText, isShown]
  rfl

end Messages

/-! ## A sample -/

/-- A host with a source file and a table of one term. -/
def sampleHost (source : List Char) : Host :=
  ⟨⟨[(⟨[], ["f.py".toList]⟩, .file (.bytes (Utf8.encode source))),
      (⟨[], ["t.db".toList]⟩, .file (.database [⟨"terms".toList, termColumns,
        [(1, [.text "fetch".toList, .text "obtener".toList, .null])]⟩]))]⟩, ⟨[]⟩⟩

/-- What is asked of the sample: to translate the source into another file. -/
def sampleArguments : List Argument :=
  saveArguments "f.py".toList "g.py".toList "python".toList "t.db".toList

def sampleRequest : TranslateRequest :=
  { input := ⟨none, some ⟨[], ["f.py".toList]⟩⟩
    output := some ⟨[], ["g.py".toList]⟩
    language := some "python".toList
    dictionary := some ⟨[], ["t.db".toList]⟩
    useDefaults := true
    useDictionary := true
    json := false
    segments := false }

theorem read_sampleArguments : Frontend.terminal.read sampleArguments =
    .ok (.command false (.ok (.translate sampleRequest))) := by
  change readOpening sampleArguments = _
  rw [sampleArguments, readOpening_saveArguments,
    ofText_of_name (by decide) (by decide) (by decide),
    ofText_of_name (by decide) (by decide) (by decide),
    ofText_of_name (by decide) (by decide) (by decide)]
  rfl

theorem level_sample (source : List Char) :
    (threshold? (logLevel (sampleHost source).environment false)).isSome = true :=
  rfl

/-- The entries of the sample. -/
def sampleEntries : List Entry :=
  dictionaryOf [.ofText "fetch".toList "obtener".toList []] builtInVocabulary

theorem hasDictionary_sample (source : List Char) :
    HasDictionary (sampleHost source) sampleRequest sampleEntries := by
  refine ⟨.table ⟨[], ["t.db".toList]⟩ .terms, _, rfl, ?_, rfl⟩
  have selects : selectTerms (.database [⟨"terms".toList, termColumns,
      [(1, [.text "fetch".toList, .text "obtener".toList, .null])]⟩]) .terms =
        .ok [[.text "fetch".toList, .text "obtener".toList, .null]] :=
    selectTerms_terms (List.pairwise_singleton _ _) (List.forall_mem_singleton.mpr rfl)
  have opens : databaseAt (sampleHost source).tree ⟨[], ["t.db".toList]⟩ .terms = .ok (.database
      [⟨"terms".toList, termColumns,
        [(1, [.text "fetch".toList, .text "obtener".toList, .null])]⟩]) := rfl
  change readTable none _ _ _ = _
  rw [readTable, opens]
  simp only [bind, Except.bind, selects]
  rfl

theorem noBreak_sampleEntries : ∀ entry ∈ sampleEntries, entry.key ≠ [] ∧ '\n' ∉ entry.key := by
  have proposed : ((candidates [.ofText "fetch".toList "obtener".toList []]
      builtInVocabulary).filterMap Candidate.entry?).all (fun entry =>
        !entry.key.contains '\n') = true := by
    decide +kernel
  intro entry member
  refine ⟨(ne_nil_of_mem_dictionaryOf member).1, ?_⟩
  simpa using List.all_eq_true.mp proposed entry (mem_proposed_of_mem_dictionaryOf member)

theorem open?_sample (source : List Char) :
    (sampleHost source).tree.open? ⟨[], ["f.py".toList]⟩ = .ok (.bytes (Utf8.encode source)) :=
  rfl

theorem isWritable_sample (source : List Char) :
    (sampleHost source).tree.IsWritable ⟨[], ["g.py".toList]⟩ :=
  ⟨_, rfl, nofun⟩

/-! ## Saving -/

/-- Whatever asks for a translation from file to file gets it, if nothing matches in the text of a
file that is not parsed: in the output stand the bytes of the input with every line break as a line
feed. They are the same bytes only without carriage returns. The command ends well exactly if the
console takes the message that names the output. -/
theorem run_savesSource (frontend : Frontend) (parser : Parser) {host : Host}
    {arguments : List Argument} {verbose : Bool} {request : TranslateRequest}
    {entries : List Entry} {input output : Path} {content : List UInt8} {text : List Char}
    (asks : frontend.read arguments = .ok (.command verbose (.ok (.translate request))))
    (level : (threshold? (logLevel host.environment verbose)).isSome = true)
    (fromFile : request.input.file = some input) (toFile : request.output = some output)
    (holds : host.tree.open? input = .ok (.bytes content)) (isText : Utf8.decode content = .ok text)
    (notParsed : ¬ IsParsed (Language.resolve (unifyBreaks text) request.language))
    (dictionary : HasDictionary host request entries)
    (noMatch : anyOccurs entries (unifyBreaks text) = false)
    (writable : host.tree.IsWritable output) :
    ∃ saved next, (run frontend parser host arguments).written = some (output, saved)
      ∧ host.tree.write output saved = .ok next ∧ next.open? output = .ok (.bytes saved)
      ∧ saved = Utf8.encode (unifyBreaks text) ∧ (saved = content ↔ '\r' ∉ text)
      ∧ ((run frontend parser host arguments).ending.exitCode = 0 ↔
          (frontend.console.message (savedMessage output)).isOk = true) := by
  obtain ⟨written, endsWell⟩ := saves_runTranslate_of_noMatch frontend.console parser
    fromFile toFile holds isText notParsed dictionary noMatch writable
  obtain ⟨threshold, runs⟩ := exists_run_eq parser asks level
  obtain ⟨next, writes, reopens⟩ := Tree.exists_write writable (Utf8.encode (unifyBreaks text))
  rw [runs]
  refine ⟨_, next, written, writes, reopens, rfl, ?_, endsWell threshold⟩
  rw [Utf8.decode_eq_ok_iff.mp isText, Utf8.encode_inj]
  constructor
  · intro same
    rw [← same]
    exact not_mem_unifyBreaks text
  · exact unifyBreaks_of_not_mem

/-- The line ends with a line feed, so that it is saved as it is. -/
theorem run_savesSource_line :
    let source := "x = 'señal'\n".toList
    let execution := run .terminal (fun _ _ => .nothing) (sampleHost source) sampleArguments
    ∃ next, execution.written = some (⟨[], ["g.py".toList]⟩, Utf8.encode source)
      ∧ (sampleHost source).tree.write ⟨[], ["g.py".toList]⟩ (Utf8.encode source) = .ok next
      ∧ next.open? ⟨[], ["g.py".toList]⟩ = .ok (.bytes (Utf8.encode source))
      ∧ execution.ending.exitCode = 0 := by
  intro source execution
  have notParsed : ¬ IsParsed (Language.resolve (unifyBreaks source) sampleRequest.language) := by
    decide
  have noMatch : anyOccurs sampleEntries source = false :=
    anyOccurs_dictionaryOf (by decide +kernel)
  obtain ⟨saved, next, written, writes, reopens, _, same, endsWell⟩ :=
    run_savesSource .terminal (fun _ _ => .nothing) read_sampleArguments
      (level_sample source) rfl rfl (open?_sample source) (Utf8.decode_encode source) notParsed
      (hasDictionary_sample source) (anyOccurs_unifyBreaks noBreak_sampleEntries noMatch)
      (isWritable_sample source)
  obtain rfl := same.mpr (by decide)
  exact ⟨next, written, writes, reopens, endsWell.mpr (isOk_message_saved (by decide))⟩

/-- The line ends with a carriage return and a line feed, and is saved without the carriage
return. -/
theorem not_savesSource :
    let source := "x = 1\r\n".toList
    let execution := run .terminal (fun _ _ => .nothing) (sampleHost source) sampleArguments
    Language.resolve source (some "python".toList) = .python
      ∧ HasDictionary (sampleHost source) sampleRequest sampleEntries
      ∧ anyOccurs sampleEntries source = false
      ∧ (sampleHost source).tree.open? ⟨[], ["f.py".toList]⟩ = .ok (.bytes (Utf8.encode source))
      ∧ execution.written = some (⟨[], ["g.py".toList]⟩, Utf8.encode "x = 1\n".toList)
      ∧ Utf8.encode "x = 1\n".toList ≠ Utf8.encode source := by
  intro source execution
  have notParsed : ¬ IsParsed (Language.resolve (unifyBreaks source) sampleRequest.language) := by
    decide
  have dictionary := hasDictionary_sample source
  have noMatch : anyOccurs sampleEntries source = false :=
    anyOccurs_dictionaryOf (by decide +kernel)
  have saves := saves_runTranslate_of_noMatch .terminal (fun _ _ => .nothing) rfl rfl
    (open?_sample source) (Utf8.decode_encode source) notParsed dictionary
    (anyOccurs_unifyBreaks noBreak_sampleEntries noMatch) (isWritable_sample source)
  obtain ⟨threshold, runs⟩ :=
    exists_run_eq (fun _ _ => .nothing) read_sampleArguments (level_sample source)
  have written := (congrArg Execution.written runs).trans saves.written
  exact ⟨rfl, dictionary, noMatch, rfl, written, by decide⟩

end CodeGloss.Command
