import CodeGloss.Text.CaseTable

/-!
# Letter case

Full case mapping of a text, where a letter may become several, and the case
key of a letter. The lower case of a capital sigma depends on its place: it is
the final sigma at the end of a word and the medial sigma elsewhere. The case
key forgets case one letter at a time, so it never changes a length.
-/

namespace CodeGloss.Text

/-- The one-character lower case. -/
def lowerLetter (c : Char) : Char :=
  Char.ofNat (mapCase lowerRuns c.toNat)

/-- The upper case of a letter, one character or several. -/
def upperLetter (c : Char) : List Char :=
  match upperExpansions.lookup c.toNat with
  | some codes => codes.map Char.ofNat
  | none => [Char.ofNat (mapCase upperRuns c.toNat)]

def upper (text : List Char) : List Char :=
  text.flatMap upperLetter

@[simp]
theorem upper_nil : upper [] = [] :=
  rfl

@[simp]
theorem upper_cons (c : Char) (text : List Char) :
    upper (c :: text) = upperLetter c ++ upper text :=
  rfl

/-- The first letter in upper case, the rest as it stands. -/
def capitalize : List Char → List Char
  | [] => []
  | c :: rest => upperLetter c ++ rest

def isCased (c : Char) : Bool :=
  casedRanges.contains c.toNat

def isCaseIgnorable (c : Char) : Bool :=
  caseIgnorableRanges.contains c.toNat

/-- Whether a cased letter comes next, past what case context looks through. -/
def meetsCased (text : List Char) : Bool :=
  match text.dropWhile isCaseIgnorable with
  | [] => false
  | c :: _ => isCased c

/-- The lower case of `c` between the text before it, nearest character first,
and the text after it. -/
def lowerAt (before : List Char) (c : Char) (after : List Char) : List Char :=
  if c = 'Σ' then
    [if meetsCased before && !meetsCased after then 'ς' else 'σ']
  else if c = 'İ' then ['i', '\u0307']
  else [lowerLetter c]

def lowerFrom (before : List Char) : List Char → List Char
  | [] => []
  | c :: rest => lowerAt before c rest ++ lowerFrom (c :: before) rest

def lower (text : List Char) : List Char :=
  lowerFrom [] text

@[simp]
theorem lowerFrom_nil (before : List Char) : lowerFrom before [] = [] :=
  rfl

@[simp]
theorem lowerFrom_cons (before : List Char) (c : Char) (rest : List Char) :
    lowerFrom before (c :: rest) = lowerAt before c rest ++ lowerFrom (c :: before) rest :=
  rfl

@[simp]
theorem lower_nil : lower [] = [] :=
  rfl

/-- A letter without its case: its lower case, or the smallest of the lower
cases that count as the same letter. -/
def caseKey (c : Char) : Char :=
  let small := lowerLetter c
  match sameLetterAs.lookup small.toNat with
  | some code => Char.ofNat code
  | none => small

/-- Two characters are the same letter when they differ in case at most. -/
def sameLetter (a b : Char) : Bool :=
  caseKey a == caseKey b

@[simp]
theorem sameLetter_self (c : Char) : sameLetter c c = true := by
  simp [sameLetter]

theorem sameLetter_comm (a b : Char) : sameLetter a b = sameLetter b a := by
  rw [Bool.eq_iff_iff, sameLetter, sameLetter, beq_iff_eq, beq_iff_eq]
  exact eq_comm

end CodeGloss.Text
