import CodeGloss.Text.Blank
import CodeGloss.Text.Case

/-!
# Languages

The languages that a snippet may resolve to, their tags, and the names under
which a caller may ask for them.
-/

namespace CodeGloss

open Text

inductive Language where
  | js
  | ts
  | jsx
  | python
  | plain
  deriving DecidableEq, Repr

namespace Language

def all : List Language :=
  [js, ts, jsx, python, plain]

def tag : Language → String
  | js => "js"
  | ts => "ts"
  | jsx => "jsx"
  | python => "python"
  | plain => "plain"

/-- The names of each language. -/
def names : List (String × Language) :=
  [("js", js), ("javascript", js), ("node", js), ("mjs", js), ("cjs", js),
   ("ts", ts), ("typescript", ts),
   ("jsx", jsx), ("tsx", jsx), ("react", jsx),
   ("python", python), ("py", python), ("python3", python),
   ("plain", plain), ("text", plain), ("txt", plain)]

/-- The language that a hint names. What names no language means plain text. -/
def ofHint (hint : List Char) : Language :=
  (names.lookup (String.ofList (lower (strip hint)))).getD plain

end Language

end CodeGloss
