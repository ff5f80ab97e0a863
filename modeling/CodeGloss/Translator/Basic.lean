import CodeGloss.Gloss.Passages
import CodeGloss.Gloss.Scanned
import CodeGloss.Gloss.Whole
import CodeGloss.Language.Detection
import CodeGloss.Translator.Cache
import CodeGloss.Translator.Options

/-!
# Translating a snippet

A blank snippet is returned as it is, before anything is read. Any other is
resolved to a language, then the dictionary is fetched, and then the snippet is
glossed in the way of its language: by a parse, by a scan, or as plain text.
A source that cannot be parsed is treated as plain text. A store of terms that
cannot be read and a grammar that cannot be loaded are the caller's to deal with.
-/

namespace CodeGloss

open Files Glossary Gloss Stores Syntax Text

namespace Translator

/-- Why a snippet has no translation. -/
inductive TranslateError where
  | store (error : StoreError)
  | parse (error : ParseError)
  | passage (error : PassageError)
  | edit (error : BadEdit)
  deriving DecidableEq, Repr

/-- How a language is glossed. -/
inductive Strategy where
  | parsed
  | scanned (profile : Scan.Profile)
  | plain

def strategyOf : Language → Strategy
  | .js | .ts | .jsx => .parsed
  | .python =>
      match Scan.defaultProfiles.lookup (Language.tag .python).toList with
      | some profile => .scanned profile
      | none => .plain
  | .plain => .plain

/-- Gloss a source by its parse. -/
def translateParsed (parser : Parser) (options : Options) (entries : List Entry)
    (source language : List Char) : Except TranslateError GlossedCode × List Event :=
  match parse parser options.grammar options.skipModuleSpecifiers source with
  | .error error =>
      if error.isSourceFault then
        (.ok (glossWhole source entries language), [.fellBack language error.message])
      else (.error (.parse error), [])
  | .ok parsed =>
      ((glossPassages source parsed.passages entries language).mapError .passage,
        if parsed.faults.isEmpty then [] else [.recovered parsed.faults.length language])

/-- Gloss a source in the way of its language. -/
def translateAs (parser : Parser) (options : Options) (entries : List Entry)
    (source : List Char) (language : Language) :
    Except TranslateError GlossedCode × List Event :=
  let tag := language.tag.toList
  match strategyOf language with
  | .parsed => translateParsed parser options entries source tag
  | .scanned profile => ((glossScanned profile source entries tag).mapError .edit, [])
  | .plain => (.ok (glossWhole source entries tag), [])

/-- What is logged of a translation that came out. -/
def resultEvents (language : Language) :
    Except TranslateError GlossedCode → List Event
  | .ok result =>
      [.translated language.tag.toList result.stringReplacements result.commentReplacements
        result.usedFallback]
  | .error _ => []

/-- Translate a source that is not blank with a dictionary. -/
def translateWith (parser : Parser) (options : Options) (entries : List Entry)
    (source : List Char) (hint : Option (List Char)) :
    Except TranslateError GlossedCode × List Event :=
  let language := Language.resolve source hint
  let (result, events) := translateAs parser options entries source language
  (result, events ++ resultEvents language result)

/-- The result for a blank source. Its language is the hint, word for word. -/
def blankResult (source : List Char) (hint : Option (List Char)) : GlossedCode :=
  match hint with
  | some (c :: rest) => .unchanged (c :: rest) source
  | _ => .unchanged (Language.tag .plain).toList source

end Translator

/-- Options and the cache of a dictionary. -/
structure Translator where
  options : Translator.Options
  cache : Translator.Cache

namespace Translator

def ofStore (options : Options) (store : TermStore) : Translator :=
  ⟨options, .ofStore store options.vocabulary⟩

/-- Forget the dictionary. -/
def reset (translator : Translator) : Translator :=
  { translator with cache := translator.cache.clear }

/-- Translate a snippet: the result, the translator afterwards, and what
was logged. -/
def translate (parser : Parser) (tree : Tree) (translator : Translator) (source : List Char)
    (hint : Option (List Char)) :
    Except TranslateError GlossedCode × Translator × List Event :=
  if isBlankText source then (.ok (blankResult source hint), translator, [])
  else
    match translator.cache.fetch tree with
    | (.error error, cache, events) => (.error (.store error), { translator with cache }, events)
    | (.ok entries, cache, events) =>
        let (result, more) := translateWith parser translator.options entries source hint
        (result, { translator with cache }, events ++ more)

/-- A blank source is returned as it is and reads nothing. -/
theorem translate_of_blank (parser : Parser) (tree : Tree) (translator : Translator)
    {source : List Char} (hint : Option (List Char)) (blank : isBlankText source = true) :
    translator.translate parser tree source hint = (.ok (blankResult source hint), translator, []) := by
  simp [translate, blank]

end Translator

end CodeGloss
