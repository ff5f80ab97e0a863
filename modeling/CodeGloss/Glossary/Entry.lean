import CodeGloss.Glossary.Casing
import CodeGloss.Glossary.Matcher
import CodeGloss.Glossary.Term
import CodeGloss.Text.Blank

/-!
# Dictionary entries

A dictionary is a list of entries, longest key first, so that a phrase wins over
the words it contains. Keys are stripped and in lower case. Of several
candidates for one key the first wins: the terms of the collection in order,
each before its aliases, and then the fallback vocabulary.
-/

namespace CodeGloss.Glossary

open Format Text

structure Entry where
  key : List Char
  translation : List Char
  deriving DecidableEq, Repr

namespace Entry

def matcher (entry : Entry) : Matcher :=
  .ofKey entry.key

end Entry

/-- The form in which keys are stored and looked up. -/
def normalizeKey (term : List Char) : List Char :=
  lower (strip term)

/-- Vocabulary that fills the keys a collection leaves free. -/
abbrev Vocabulary := List (List Char × Value)

/-- A term or alias, and the translation it is given. -/
abbrev Candidate := Value × Value

/-- The entry that a candidate proposes: both parts are text with content, and
something is left of the key when it is stripped. -/
def Candidate.entry? : Candidate → Option Entry
  | (.text term, .text translation) =>
      if term.isEmpty || translation.isEmpty || (normalizeKey term).isEmpty then none
      else some ⟨normalizeKey term, translation⟩
  | _ => none

/-- What a term proposes: itself, then its aliases. -/
def Term.candidates (term : Term) : List Candidate :=
  (term.term, term.translation)
    :: term.aliases.map fun name => (name, term.translation)

def candidates (terms : List Term) (vocabulary : Vocabulary) : List Candidate :=
  terms.flatMap Term.candidates ++ vocabulary.map fun (name, value) => (.text name, value)

@[simp]
theorem candidates_nil (vocabulary : Vocabulary) :
    candidates [] vocabulary = vocabulary.map fun (name, value) => (.text name, value) :=
  rfl

/-- A term comes before its aliases, these before the later terms, and all of them before the
vocabulary. -/
theorem candidates_cons (term : Term) (terms : List Term) (vocabulary : Vocabulary) :
    candidates (term :: terms) vocabulary = (term.term, term.translation)
      :: (term.aliases.map (fun name => (name, term.translation)) ++ candidates terms vocabulary) := by
  simp [candidates, Term.candidates]

/-- The entries whose key no earlier entry has. `taken` are the keys before. -/
def firstOfEach (taken : List (List Char)) : List Entry → List Entry
  | [] => []
  | entry :: rest =>
      if entry.key ∈ taken then firstOfEach taken rest
      else entry :: firstOfEach (entry.key :: taken) rest

/-- Longer keys come first; keys of one length keep their order. -/
def longestFirst (entries : List Entry) : List Entry :=
  entries.mergeSort fun a b => b.key.length ≤ a.key.length

/-- The dictionary of a collection and a fallback vocabulary. -/
def dictionaryOf (terms : List Term) (vocabulary : Vocabulary) : List Entry :=
  longestFirst (firstOfEach [] ((candidates terms vocabulary).filterMap Candidate.entry?))

/-- The entry of a term, however it is spelled. -/
def entryOf? (entries : List Entry) (term : List Char) : Option Entry :=
  entries.find? fun entry => entry.key == normalizeKey term

end CodeGloss.Glossary
