import CodeGloss.Format.Value

/-!
# Terms

A term collection is a list of terms. A term has a translation, and aliases
that share it. Collections are data from outside, so a term, a translation or an
alias may turn out not to be text; it is kept as it is and contributes nothing to
a dictionary.
-/

namespace CodeGloss.Glossary

open Format

structure Term where
  term : Value
  translation : Value
  aliases : List Value

namespace Term

/-- A term of a text and its translation. -/
def ofText (term translation : List Char) (aliases : List (List Char)) : Term :=
  ⟨.text term, .text translation, aliases.map .text⟩

/-- The value of a field; the empty text if the field is missing or empty. -/
def fieldOrEmpty (fields : Fields) (name : String) : Value :=
  match fields.get? name with
  | some value => if value.isEmpty then .text [] else value
  | none => .text []

/-- Read a term from a record. Only a list has aliases, and only its texts are
aliases. -/
def ofFields (fields : Fields) : Term :=
  { term := fieldOrEmpty fields "term"
    translation := fieldOrEmpty fields "translation"
    aliases := (((fields.get? "aliases").map Value.texts).getD []).map .text }

/-- A term, if the value is a record. -/
def ofValue? : Value → Option Term
  | .record fields => some (ofFields fields)
  | _ => none

end Term

end CodeGloss.Glossary
