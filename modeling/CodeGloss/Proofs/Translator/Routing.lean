import CodeGloss.Proofs.Gloss.Shapes
import CodeGloss.Proofs.Translator.Snapshot

/-!
# The way of a snippet

Three things can end the way of a snippet. A blank snippet is returned before
anything is read, a store that cannot be read ends it before a parser is asked, and
a grammar that cannot be loaded ends it where the language is parsed. That no
syntax tree comes out does not end it: the snippet is then taken as plain text,
under the tag of its language.

The result tells the ways apart. Plain text makes one segment at most and counts
nothing; on the other ways every segment is that of a string or a comment, and is
counted.
-/

namespace CodeGloss

open Files hiding Node
open Format Glossary Gloss Scan Stores Syntax Text

/-! ## Replies of a parser -/

/-- The grammar was loaded, but no syntax tree came out. -/
inductive Syntax.Reply.Treeless : Reply → Prop
  | failed (reason : List Char) : Treeless (.failed reason)
  | nothing : Treeless .nothing
  | unrecoverable {root : Node} (isError : root.kind = .error) : Treeless (.tree root)

theorem Syntax.exists_parse_of_treeless {parser : Parser} {grammar source : List Char}
    (treeless : (parser grammar source).Treeless) (skipModules : Bool) :
    ∃ error, error.isSourceFault = true
      ∧ parse parser grammar skipModules source = .error error := by
  rw [parse]
  generalize parser grammar source = reply at treeless
  cases treeless with
  | failed reason => exact ⟨_, rfl, rfl⟩
  | nothing => exact ⟨_, rfl, rfl⟩
  | unrecoverable isError => exact ⟨_, rfl, if_pos isError⟩

/-- All that a parse can come to. -/
theorem Syntax.parse_cases (parser : Parser) (grammar : List Char) (skipModules : Bool)
    (source : List Char) :
    (∃ reason, parser grammar source = .noGrammar reason
      ∧ parse parser grammar skipModules source = .error (.grammarUnavailable grammar reason))
    ∨ ((parser grammar source).Treeless ∧ ∃ error, error.isSourceFault = true
      ∧ parse parser grammar skipModules source = .error error)
    ∨ ∃ root, parser grammar source = .tree root ∧ root.kind ≠ .error
      ∧ parse parser grammar skipModules source =
        .ok (.ofTree skipModules (Utf8.encode source) root) := by
  by_cases treeless : (parser grammar source).Treeless
  · exact .inr (.inl ⟨treeless, exists_parse_of_treeless treeless skipModules⟩)
  · rw [parse]
    cases replies : parser grammar source with
    | noGrammar reason => exact .inl ⟨reason, rfl, rfl⟩
    | failed reason => exact absurd (replies ▸ .failed reason) treeless
    | nothing => exact absurd (replies ▸ .nothing) treeless
    | tree root =>
        have noError : root.kind ≠ .error :=
          fun isError => treeless (replies ▸ .unrecoverable isError)
        exact .inr (.inr ⟨root, rfl, noError, if_neg noError⟩)

namespace Translator

/-! ## Languages -/

/-- The snippets of the language are parsed. -/
def IsParsed (language : Language) : Prop :=
  language = .js ∨ language = .ts ∨ language = .jsx

instance (language : Language) : Decidable (IsParsed language) :=
  inferInstanceAs (Decidable (_ ∨ _ ∨ _))

theorem strategyOf_of_isParsed {language : Language} (isParsed : IsParsed language) :
    strategyOf language = .parsed := by
  rcases isParsed with rfl | rfl | rfl
  · rfl
  · rfl
  · rfl

theorem strategyOf_python : strategyOf .python = .scanned {} := by
  rfl

theorem language_cases (language : Language) :
    IsParsed language ∨ language = .python ∨ language = .plain := by
  cases language <;> simp [IsParsed]

/-- A snippet is taken as plain text if it is in no other language, or if its parse fails. -/
def TakenAsPlain (parser : Parser) (grammar source : List Char) (language : Language) : Prop :=
  language = .plain ∨ IsParsed language ∧ (parser grammar source).Treeless

/-! ## Ways -/

/-- The ways of a snippet that has a dictionary, and what it comes to on each. -/
inductive Way (parser : Parser) (options : Options) (entries : List Entry) (source : List Char)
    (language : Language) : Except TranslateError GlossedCode → Prop
  | unavailable {reason : List Char} (isParsed : IsParsed language)
      (replies : parser options.grammar source = .noGrammar reason) :
      Way parser options entries source language
        (.error (.parse (.grammarUnavailable options.grammar reason)))
  | whole (asPlain : TakenAsPlain parser options.grammar source language) :
      Way parser options entries source language
        (.ok (glossWhole source entries language.tag.toList))
  | parsed {root : Node} (isParsed : IsParsed language)
      (replies : parser options.grammar source = .tree root) (noError : root.kind ≠ .error) :
      Way parser options entries source language
        ((glossPassages source (passagesOf options.skipModuleSpecifiers (Utf8.encode source) root)
          entries language.tag.toList).mapError .passage)
  | scanned (isPython : language = .python) :
      Way parser options entries source language
        ((glossScanned {} source entries language.tag.toList).mapError .edit)

section Snippets

variable {parser : Parser} {tree : Tree} {translator : Translator} {options : Options}
  {entries : List Entry} {source : List Char} {hint : Option (List Char)} {language : Language}
  {outcome : Except TranslateError GlossedCode}

theorem translateAs_of_isParsed (isParsed : IsParsed language) :
    translateAs parser options entries source language =
      translateParsed parser options entries source language.tag.toList := by
  rw [translateAs, strategyOf_of_isParsed isParsed]

theorem way_translateParsed (isParsed : IsParsed language) :
    Way parser options entries source language
      (translateParsed parser options entries source language.tag.toList).1 := by
  rw [translateParsed]
  rcases parse_cases parser options.grammar options.skipModuleSpecifiers source with
    ⟨reason, replies, parsed⟩ | ⟨treeless, error, isFault, parsed⟩ |
      ⟨root, replies, noError, parsed⟩
  · rw [parsed]
    exact .unavailable isParsed replies
  · rw [parsed]
    simp only [isFault, if_true]
    exact .whole (.inr ⟨isParsed, treeless⟩)
  · rw [parsed]
    exact .parsed isParsed replies noError

/-- Every snippet that has a dictionary goes one of the ways. -/
theorem way_translateAs (parser : Parser) (options : Options) (entries : List Entry)
    (source : List Char) (language : Language) :
    Way parser options entries source language
      (translateAs parser options entries source language).1 := by
  rcases language_cases language with isParsed | rfl | rfl
  · rw [translateAs_of_isParsed isParsed]
    exact way_translateParsed isParsed
  · rw [translateAs, strategyOf_python]
    exact .scanned rfl
  · exact .whole (.inl rfl)

theorem translateAs_of_noGrammar {reason : List Char} (isParsed : IsParsed language)
    (replies : parser options.grammar source = .noGrammar reason) :
    (translateAs parser options entries source language).1 =
      .error (.parse (.grammarUnavailable options.grammar reason)) := by
  rw [translateAs_of_isParsed isParsed, translateParsed, parse, replies]
  rfl

theorem translateAs_of_treeless (isParsed : IsParsed language)
    (treeless : (parser options.grammar source).Treeless) :
    (translateAs parser options entries source language).1 =
      .ok (glossWhole source entries language.tag.toList) := by
  obtain ⟨error, isFault, parsed⟩ :=
    exists_parse_of_treeless treeless options.skipModuleSpecifiers
  rw [translateAs_of_isParsed isParsed, translateParsed, parsed]
  simp only [isFault, if_true]

/-- Without a parse, the parser makes no difference. -/
theorem translateAs_congr (notParsed : ¬IsParsed language) (parser other : Parser) :
    translateAs other options entries source language =
      translateAs parser options entries source language := by
  rcases language_cases language with isParsed | rfl | rfl
  · contradiction
  · rw [translateAs, translateAs, strategyOf_python]
  · rfl

/-- What a snippet comes to is what it comes to on its way. -/
theorem fst_translate (content : isBlankText source = false)
    (hasDictionary : (translator.cache.fetch tree).1 = .ok entries) :
    (translator.translate parser tree source hint).1 =
      (translateAs parser translator.options entries source (Language.resolve source hint)).1 := by
  rw [translate, content, if_neg Bool.false_ne_true]
  rcases fetched : translator.cache.fetch tree with ⟨found, cache, events⟩
  rw [fetched] at hasDictionary
  cases hasDictionary
  rfl

theorem translate_congr (notParsed : ¬IsParsed (Language.resolve source hint)) (other : Parser) :
    translator.translate other tree source hint = translator.translate parser tree source hint := by
  simp only [translate, translateWith, translateAs_congr notParsed parser other]

/-! ## Results -/

/-- What a result for a snippet of the language looks like. -/
structure TellsWay (parser : Parser) (grammar source : List Char) (language : Language)
    (result : GlossedCode) : Prop where
  tag : result.language = language.tag.toList
  usedFallback : result.usedFallback = true ↔ TakenAsPlain parser grammar source language
  whole : result.usedFallback = true → result.IsWhole source
  structural : result.usedFallback = false → result.IsStructural

theorem tellsWay_of_isWhole {grammar : List Char} {result : GlossedCode}
    (asPlain : TakenAsPlain parser grammar source language)
    (tag : result.language = language.tag.toList) (isWhole : result.IsWhole source) :
    TellsWay parser grammar source language result where
  tag := tag
  usedFallback := ⟨fun _ => asPlain, fun _ => isWhole.usedFallback⟩
  whole _ := isWhole
  structural noFallback := by
    rw [isWhole.usedFallback] at noFallback
    contradiction

theorem tellsWay_of_isStructural {grammar : List Char} {result : GlossedCode}
    (notPlain : ¬TakenAsPlain parser grammar source language)
    (shape : result.language = language.tag.toList ∧ result.IsStructural) :
    TellsWay parser grammar source language result where
  tag := shape.1
  usedFallback := by
    rw [shape.2.usedFallback]
    exact ⟨nofun, fun asPlain => absurd asPlain notPlain⟩
  whole fallback := by
    rw [shape.2.usedFallback] at fallback
    contradiction
  structural _ := shape.2

theorem eq_ok_of_mapError {α ε δ : Type} {x : Except ε α} {f : ε → δ} {a : α}
    (mapped : x.mapError f = .ok a) : x = .ok a := by
  cases x with
  | error e => contradiction
  | ok b => exact congrArg Except.ok (Except.ok.inj mapped)

/-- A result tells the way that it came. -/
theorem Way.tellsWay (way : Way parser options entries source language outcome)
    {result : GlossedCode} (returned : outcome = .ok result) :
    TellsWay parser options.grammar source language result := by
  cases way with
  | unavailable _ _ => contradiction
  | whole asPlain =>
      cases returned
      exact tellsWay_of_isWhole asPlain rfl (isWhole_glossWhole source entries language.tag.toList)
  | parsed isParsed replies noError =>
      apply tellsWay_of_isStructural _ (isStructural_of_glossPassages (eq_ok_of_mapError returned))
      rintro (rfl | ⟨_, treeless⟩)
      · exact absurd isParsed (by decide)
      · rw [replies] at treeless
        cases treeless with
        | unrecoverable isError => contradiction
  | scanned isPython =>
      subst isPython
      apply tellsWay_of_isStructural _ (isStructural_of_glossScanned (eq_ok_of_mapError returned))
      rintro (other | ⟨isParsed, _⟩)
      · contradiction
      · exact absurd isParsed (by decide)

/-- The only fault of a parser that ends the way of a snippet is that the grammar is missing. -/
theorem Way.eq_grammarUnavailable (way : Way parser options entries source language outcome)
    {error : ParseError} (failed : outcome = .error (.parse error)) :
    IsParsed language ∧ ∃ reason, parser options.grammar source = .noGrammar reason
      ∧ error = .grammarUnavailable options.grammar reason := by
  cases way with
  | unavailable isParsed replies =>
      cases failed
      exact ⟨isParsed, _, replies, rfl⟩
  | whole _ => contradiction
  | parsed _ _ _ =>
      revert failed
      cases glossPassages source _ entries _ <;> exact nofun
  | scanned _ =>
      revert failed
      cases glossScanned {} source entries _ <;> exact nofun

/-- A parser that answers for a source with a tree answers with one whose ranges are nested and lie
in the source. -/
def AnswersNested (parser : Parser) (grammar source : List Char) : Prop :=
  ∀ root, parser grammar source = .tree root → root.kind ≠ .error →
    root.Nested ∧ root.stop ≤ (Utf8.encode source).length

/-- With a nested tree there is always a result, unless the grammar is missing. -/
theorem Way.exists_result (way : Way parser options entries source language outcome)
    (keys : ∀ entry ∈ entries, entry.key ≠ [])
    (nested : IsParsed language → AnswersNested parser options.grammar source)
    (available : ∀ reason, IsParsed language → parser options.grammar source ≠ .noGrammar reason) :
    ∃ result, outcome = .ok result := by
  cases way with
  | @unavailable reason isParsed replies => exact absurd replies (available reason isParsed)
  | whole _ => exact ⟨_, rfl⟩
  | @parsed root isParsed replies noError =>
      obtain ⟨isNested, inData⟩ := nested isParsed root replies noError
      obtain ⟨result, glossed, _⟩ := exists_glossPassages keys
        (fun p member => liesIn_of_mem_passagesOf isNested inData member)
        (pairwise_passagesOf options.skipModuleSpecifiers (Utf8.encode source) isNested)
        language.tag.toList
      exact ⟨result, by rw [glossed]; rfl⟩
  | scanned _ =>
      obtain ⟨result, glossed, _⟩ :=
        exists_glossScanned separate_default source entries language.tag.toList
      exact ⟨result, by rw [glossed]; rfl⟩

end Snippets

/-- What a translator does with a snippet, by the points that it passes. -/
structure RoutesSnippet (parser : Parser) (tree : Tree) (translator : Translator)
    (source : List Char) (hint : Option (List Char)) : Prop where
  /-- A blank snippet is returned as it came, whatever files there are and whatever the parser. -/
  blank : isBlankText source = true → ∃ tag, ∀ other elsewhere,
    translator.translate other elsewhere source hint =
      (.ok (.unchanged tag source), translator, [])
  /-- If the store has to be read and cannot be, its error is the answer, whatever the parser. -/
  unreadable : isBlankText source = false → translator.cache.entries = none → ∀ error,
    translator.cache.store.read tree translator.cache.requests = .error error → ∀ other,
      translator.translate other tree source hint =
        (.error (.store error), failing translator, [])
  /-- A grammar that cannot be loaded is an error of the languages that are parsed. -/
  noGrammar : isBlankText source = false → IsParsed (Language.resolve source hint) →
    ∀ entries reason, (translator.cache.fetch tree).1 = .ok entries →
      parser translator.options.grammar source = .noGrammar reason →
        (translator.translate parser tree source hint).1 =
          .error (.parse (.grammarUnavailable translator.options.grammar reason))
  /-- The other languages do not depend on the parser. -/
  unparsed : ¬IsParsed (Language.resolve source hint) → ∀ other,
    translator.translate other tree source hint = translator.translate parser tree source hint
  /-- Without a syntax tree the snippet is taken as plain text, under its own tag. -/
  treeless : isBlankText source = false → IsParsed (Language.resolve source hint) →
    ∀ entries, (translator.cache.fetch tree).1 = .ok entries →
      (parser translator.options.grammar source).Treeless →
        (translator.translate parser tree source hint).1 =
          .ok (glossWhole source entries (Language.resolve source hint).tag.toList)
  /-- No other fault of a parser is an error. -/
  noFault : ∀ error, (translator.translate parser tree source hint).1 = .error (.parse error) →
    IsParsed (Language.resolve source hint) ∧ ∃ reason,
      parser translator.options.grammar source = .noGrammar reason
        ∧ error = .grammarUnavailable translator.options.grammar reason
  /-- With a nested tree, with none, and without a parse there is a result. -/
  returns : isBlankText source = false → ∀ entries,
    (translator.cache.fetch tree).1 = .ok entries → (∀ entry ∈ entries, entry.key ≠ []) →
      (IsParsed (Language.resolve source hint) →
        AnswersNested parser translator.options.grammar source
          ∧ ∀ reason, parser translator.options.grammar source ≠ .noGrammar reason) →
        ∃ result, (translator.translate parser tree source hint).1 = .ok result
  /-- A result tells the way that it came. -/
  tellsWay : isBlankText source = false → ∀ result,
    (translator.translate parser tree source hint).1 = .ok result →
      TellsWay parser translator.options.grammar source (Language.resolve source hint) result

section Points

variable {translator : Translator} {source : List Char} {hint : Option (List Char)}

theorem exists_blankResult_eq (source : List Char) (hint : Option (List Char)) :
    ∃ tag, blankResult source hint = .unchanged tag source := by
  unfold blankResult
  split
  · exact ⟨_, rfl⟩
  · exact ⟨_, rfl⟩

/-- A snippet that is not blank has no dictionary, or it goes one of the ways with it. -/
theorem fst_translate_cases (parser : Parser) (tree : Tree)
    (content : isBlankText source = false) :
    (∃ error, (translator.translate parser tree source hint).1 = .error (.store error))
    ∨ ∃ entries, (translator.cache.fetch tree).1 = .ok entries
      ∧ Way parser translator.options entries source (Language.resolve source hint)
        (translator.translate parser tree source hint).1 := by
  cases found : (translator.cache.fetch tree).1 with
  | error error =>
      left
      refine ⟨error, ?_⟩
      rw [translate, content, if_neg Bool.false_ne_true]
      rcases fetched : translator.cache.fetch tree with ⟨outcome, cache, events⟩
      rw [fetched] at found
      cases found
      rfl
  | ok entries =>
      right
      refine ⟨entries, rfl, ?_⟩
      rw [fst_translate content found]
      exact way_translateAs parser translator.options entries source _

end Points

/-- Whatever the snippet, the hint, the options, the store and the parser: a blank snippet ends its
way first, then an unreadable store, then a grammar that is missing where it is needed. All else
has a result, which tells how it came about. -/
theorem translate_routesSnippet (parser : Parser) (tree : Tree) (translator : Translator)
    (source : List Char) (hint : Option (List Char)) :
    RoutesSnippet parser tree translator source hint where
  blank blank := by
    obtain ⟨tag, isResult⟩ := exists_blankResult_eq source hint
    refine ⟨tag, fun other elsewhere => ?_⟩
    rw [translate_of_blank other elsewhere translator hint blank, isResult]
  unreadable content unfilled error fails other := translate_of_failed content unfilled fails
  noGrammar content isParsed entries reason hasDictionary replies := by
    rw [fst_translate content hasDictionary]
    exact translateAs_of_noGrammar isParsed replies
  unparsed notParsed other := translate_congr notParsed other
  treeless content isParsed entries hasDictionary treeless := by
    rw [fst_translate content hasDictionary]
    exact translateAs_of_treeless isParsed treeless
  noFault error failed := by
    cases content : isBlankText source with
    | true =>
        rw [translate_of_blank parser tree translator hint content] at failed
        contradiction
    | false =>
        rcases fst_translate_cases parser tree content with
          ⟨other, stored⟩ | ⟨entries, _, way⟩
        · rw [stored] at failed
          cases failed
        · exact way.eq_grammarUnavailable failed
  returns content entries hasDictionary keys answers := by
    rw [fst_translate content hasDictionary]
    exact (way_translateAs parser translator.options entries source _).exists_result keys
      (fun isParsed => (answers isParsed).1) (fun reason isParsed => (answers isParsed).2 reason)
  tellsWay content result returned := by
    rcases fst_translate_cases parser tree content with
      ⟨other, stored⟩ | ⟨entries, _, way⟩
    · rw [stored] at returned
      contradiction
    · exact way.tellsWay returned

/-- A table with a number in the cell for aliases cannot be read, and the store does not report
that as a fault of its own. The snippet ends with the fault as it is. -/
theorem not_isReported_translate :
    let path : Path := ⟨[], ["t.db".toList]⟩
    let row : List Value := [.text "user".toList, .text "usuario".toList, .int 5]
    let table : Table := ⟨"terms".toList, termColumns, [(1, row)]⟩
    let tree : Tree := ⟨[(path, .file (.database [table]))]⟩
    let translator : Translator := ⟨{}, .ofStore (.table path .terms) []⟩
    ∃ error, error.isReported = false
      ∧ translator.cache.store.read tree translator.cache.requests = .error error
      ∧ (translator.translate (fun _ _ => .nothing) tree "x = 'user'".toList
        (some "python".toList)).1 = .error (.store error) := by
  intro path row table tree translator
  have selects : selectTerms (.database [table]) .terms = .ok [row] :=
    selectTerms_terms (List.pairwise_singleton _ _) (List.forall_mem_singleton.mpr rfl)
  have opens : databaseAt tree path .terms = .ok (.database [table]) := rfl
  have fails : translator.cache.store.read tree 0 = .error (.raw .numericAliases) := by
    change readTable none tree path .terms = _
    rw [readTable, opens]
    simp only [bind, Except.bind, selects]
    rfl
  have content : isBlankText "x = 'user'".toList = false := by decide
  refine ⟨_, rfl, fails, ?_⟩
  rw [translate_of_failed content rfl fails]

end Translator

end CodeGloss
