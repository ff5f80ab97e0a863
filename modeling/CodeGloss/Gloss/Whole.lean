import CodeGloss.Gloss.GlossedCode
import CodeGloss.Glossary.Translate

/-!
# Glossing plain text

A text of no known structure is translated as a whole. If that changes it, the
result has one segment that spans it, and no literal or comment is counted.
-/

namespace CodeGloss.Gloss

open Glossary

def glossWhole (source : List Char) (entries : List Entry) (language : List Char) :
    GlossedCode :=
  let translated := translate entries source
  { language
    code := translated
    usedFallback := true
    segments := if translated = source then [] else [⟨.text, source, translated, 0, source.length⟩]
    stringReplacements := 0
    commentReplacements := 0 }

end CodeGloss.Gloss
