import CodeGloss.Glossary.Entry

/-!
# Translating text

The entries act one after the other, each on what the ones before it left. What
an entry inserts takes the case of the text it replaces and is then escaped
for its surroundings; text that was there before is never escaped.
-/

namespace CodeGloss.Glossary

/-- The text that an entry inserts for a sample. -/
def Entry.insertion (entry : Entry) (escape : List Char → List Char) (sample : List Char) :
    List Char :=
  escape (matchCase entry.translation sample)

/-- Replace every match of one entry. -/
def Entry.apply (entry : Entry) (escape : List Char → List Char) (text : List Char) : List Char :=
  entry.matcher.substitute (entry.insertion escape) text

/-- Translate a text whose insertions need an escape. -/
def translateEscaped (entries : List Entry) (escape : List Char → List Char)
    (text : List Char) : List Char :=
  entries.foldl (fun text entry => entry.apply escape text) text

/-- Translate a text that stands for itself. -/
def translate (entries : List Entry) (text : List Char) : List Char :=
  translateEscaped entries id text

/-- Whether some entry has a match in the text. -/
def anyOccurs (entries : List Entry) (text : List Char) : Bool :=
  entries.any fun entry => entry.matcher.occursIn text

@[simp]
theorem translateEscaped_nil (escape : List Char → List Char) (text : List Char) :
    translateEscaped [] escape text = text :=
  rfl

@[simp]
theorem translateEscaped_cons (entry : Entry) (entries : List Entry)
    (escape : List Char → List Char) (text : List Char) :
    translateEscaped (entry :: entries) escape text =
      translateEscaped entries escape (entry.apply escape text) :=
  rfl

end CodeGloss.Glossary
