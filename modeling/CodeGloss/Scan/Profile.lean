/-!
# Lexical profiles

What a scanner has to know of a language: how its line comments start, which
characters open a string, which letters may stand before the opening quote, and
which of these letters take its meaning from the backslash.
-/

namespace CodeGloss.Scan

structure Profile where
  commentMarker : List Char := ['#']
  quoteChars : List Char := ['\'', '"']
  leadChars : List Char := ['r', 'R', 'b', 'B', 'u', 'U', 'f', 'F']
  rawChars : List Char := ['r', 'R']
  deriving DecidableEq, Repr

/-- Profiles by language, in order. -/
abbrev Profiles := List (List Char × Profile)

/-- The languages that are scanned unless a caller brings profiles. -/
def defaultProfiles : Profiles :=
  [("python".toList, {})]

end CodeGloss.Scan
