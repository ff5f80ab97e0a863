import CodeGloss.Text.Case

/-!
# Matching the case of a sample

A translation takes the case of the text it replaces: upper case for a sample
without lower-case letters, lower case for a sample without upper-case letters,
and otherwise a first letter in upper case.
-/

namespace CodeGloss.Glossary

open Text

def matchCase (translation sample : List Char) : List Char :=
  if sample.isEmpty then translation
  else if sample = upper sample then upper translation
  else if sample = lower sample then lower translation
  else capitalize translation

@[simp]
theorem matchCase_nil (translation : List Char) : matchCase translation [] = translation :=
  rfl

/-- A translation in the case of a sample is one of four forms of the translation. -/
theorem matchCase_cases (translation sample : List Char) :
    matchCase translation sample = translation
      ∨ matchCase translation sample = upper translation
      ∨ matchCase translation sample = lower translation
      ∨ matchCase translation sample = capitalize translation := by
  unfold matchCase
  split
  · exact .inl rfl
  · split
    · exact .inr (.inl rfl)
    · split
      · exact .inr (.inr (.inl rfl))
      · exact .inr (.inr (.inr rfl))

end CodeGloss.Glossary
