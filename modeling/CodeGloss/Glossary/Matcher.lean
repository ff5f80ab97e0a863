import CodeGloss.Text.Alphanumeric
import CodeGloss.Text.Case

/-!
# Matching a key in a text

A key matches where its letters stand, whatever their case, without cutting a
word. What counts as cutting depends on the key. A key of word characters alone
must start and end at a word edge, where exactly one of two neighbours is a word
character. Any other key must have no word character beside it.

Matches are found from the left and do not overlap.
-/

namespace CodeGloss.Glossary

open Text

/-- Whether the neighbour is there and is a word character. -/
def isWordAt (neighbour : Option Char) : Bool :=
  neighbour.any isWord

/-- Whether a word starts or ends between two neighbours. -/
def wordEdge (left right : Option Char) : Bool :=
  isWordAt left != isWordAt right

/-- What a key asks of its surroundings. -/
inductive Surroundings where
  /-- A word edge on either side. -/
  | wordEdges
  /-- No word character on either side. -/
  | noWordBeside
  deriving DecidableEq, Repr

structure Matcher where
  key : List Char
  surroundings : Surroundings
  deriving DecidableEq, Repr

/-- A key of word characters; one line break may follow them. -/
def isWordKey (key : List Char) : Bool :=
  let word := if key.getLast? = some '\n' then key.dropLast else key
  !word.isEmpty && word.all isWord

/-- Whether the key's letters start the text. -/
def startsWithLetters : List Char → List Char → Bool
  | [], _ => true
  | _ :: _, [] => false
  | k :: key, c :: text => sameLetter k c && startsWithLetters key text

namespace Matcher

def ofKey (key : List Char) : Matcher :=
  ⟨key, if isWordKey key then .wordEdges else .noWordBeside⟩

/-- The character before a place that lies `length` characters further on. -/
def beforeEnd (before : Option Char) (text : List Char) (length : Nat) : Option Char :=
  match (text.take length).getLast? with
  | some c => some c
  | none => before

/-- Whether a match may stand at the start of `text`, between `before` and what
follows the next `length` characters. -/
def surroundedAt (surroundings : Surroundings) (before : Option Char) (text : List Char)
    (length : Nat) : Bool :=
  let after := (text.drop length).head?
  match surroundings with
  | .wordEdges => wordEdge before text.head? && wordEdge (beforeEnd before text length) after
  | .noWordBeside => !isWordAt before && !isWordAt after

/-- Whether the key matches at the start of `text`, behind `before`. -/
def matchesAt (m : Matcher) (before : Option Char) (text : List Char) : Bool :=
  startsWithLetters m.key text && surroundedAt m.surroundings before text m.key.length

/-- The places of all matches from place `at` on, where `covered` is the number
of characters that the last match still covers. -/
def occurrencesFrom (m : Matcher) (place : Nat) (before : Option Char) :
    Nat → List Char → List (Nat × Nat)
  | _, [] => if m.matchesAt before [] then [(place, place)] else []
  | covered + 1, c :: rest => m.occurrencesFrom (place + 1) (some c) covered rest
  | 0, c :: rest =>
      if m.matchesAt before (c :: rest) then
        (place, place + m.key.length)
          :: m.occurrencesFrom (place + 1) (some c) (m.key.length - 1) rest
      else m.occurrencesFrom (place + 1) (some c) 0 rest

/-- The ranges of all matches, from the left and without overlap. -/
def occurrences (m : Matcher) (text : List Char) : List (Nat × Nat) :=
  m.occurrencesFrom 0 none 0 text

/-- Whether the key matches anywhere. -/
def occursIn (m : Matcher) (text : List Char) : Bool :=
  !(m.occurrences text).isEmpty

/-- The text with `replace` applied to every match. -/
def substituteFrom (m : Matcher) (replace : List Char → List Char) (before : Option Char) :
    Nat → List Char → List Char
  | _, [] => if m.matchesAt before [] then replace [] else []
  | covered + 1, c :: rest => m.substituteFrom replace (some c) covered rest
  | 0, c :: rest =>
      if m.matchesAt before (c :: rest) then
        replace ((c :: rest).take m.key.length)
          ++ (if m.key.isEmpty then [c] else [])
          ++ m.substituteFrom replace (some c) (m.key.length - 1) rest
      else c :: m.substituteFrom replace (some c) 0 rest

def substitute (m : Matcher) (replace : List Char → List Char) (text : List Char) : List Char :=
  m.substituteFrom replace none 0 text

end Matcher

end CodeGloss.Glossary
