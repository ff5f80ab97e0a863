import CodeGloss.Language
import CodeGloss.Text.Alphanumeric

/-!
# Detecting a language

A snippet without a hint is told by what it looks like. Markup decides first: an
opening tag and the start of a closing one. Then come definitions, bare imports
and indented blocks, then interfaces, type aliases and string annotations. All
else is script.

Each look-out is a test on a suffix of the stripped snippet. `somewhere` tries it
at every suffix, and `onSomeLine` at every suffix that starts a line.
-/

namespace CodeGloss.Language

open Text

/-- Whether the test holds of some suffix of the text. -/
def somewhere (test : List Char → Bool) : List Char → Bool
  | [] => test []
  | c :: rest => test (c :: rest) || somewhere test rest

/-- Whether the test holds of a suffix behind a line break. -/
def afterBreak (test : List Char → Bool) : List Char → Bool
  | [] => false
  | c :: rest => (c == '\n' && test rest) || afterBreak test rest

/-- Whether the test holds of a suffix that starts a line. -/
def onSomeLine (test : List Char → Bool) (text : List Char) : Bool :=
  test text || afterBreak test text

/-- The text behind a word that starts it. -/
def behind? (word : String) (text : List Char) : Option (List Char) :=
  if word.toList.isPrefixOf text then some (text.drop word.toList.length) else none

def startsWith (word : String) (text : List Char) : Bool :=
  (behind? word text).isSome

def startsWithWordChar (text : List Char) : Bool :=
  text.head?.any isWord

/-- The text behind at least one blank. -/
def behindBlanks? (text : List Char) : Option (List Char) :=
  if text.head?.any isBlank then some (stripLeft text) else none

/-- The text behind at least one word character. -/
def behindWord? (text : List Char) : Option (List Char) :=
  if startsWithWordChar text then some (text.dropWhile isWord) else none

/-- An opening tag: a word character behind the bracket, and its other bracket
somewhere behind that. -/
def isOpeningTag (text : List Char) : Bool :=
  match text with
  | '<' :: c :: rest => isWord c && rest.contains '>'
  | _ => false

def isClosingTag (text : List Char) : Bool :=
  (behind? "</" text).any startsWithWordChar

def isMarkup (text : List Char) : Bool :=
  somewhere isOpeningTag text && somewhere isClosingTag text

/-- A definition that only blanks precede. -/
def isDefinition (line : List Char) : Bool :=
  startsWith "def " (stripLeft line) || startsWith "class " (stripLeft line)

/-- Whether nothing but blanks is left on the line. -/
def endsLine (text : List Char) : Bool :=
  (stripLeft text).isEmpty || (text.takeWhile isBlank).contains '\n'

/-- An import of one name, alone on its line. -/
def isBareImport (line : List Char) : Bool :=
  (behind? "import" (stripLeft line)).any fun afterImport =>
    (behindBlanks? afterImport).any fun name =>
      (behindWord? name).any endsLine

/-- A blank that may indent a line. -/
def isIndent (c : Char) : Bool :=
  c == ' ' || c == '\t'

/-- A colon, a line break, and an indented `pass` with only blanks between. -/
def isColonPass (text : List Char) : Bool :=
  match text with
  | ':' :: rest =>
      let gap := rest.takeWhile isBlank
      let indent := gap.reverse.takeWhile (· != '\n')
      gap.contains '\n' && !indent.isEmpty && indent.all isIndent
        && (behind? "pass" (stripLeft rest)).any fun after => !startsWithWordChar after
  | _ => false

/-- The words that open an indented block. -/
def blockWords : List String :=
  ["if", "elif", "else", "for", "while", "with", "try", "except", "finally"]

/-- The rest of a line that ends in a colon, and an indented line below it. No
brace and no semicolon stand on the line. -/
def opensBlock (text : List Char) : Bool :=
  let header := text.takeWhile fun c => !(c == '\n' || c == '\x7b' || c == ';')
  match text.drop header.length with
  | '\n' :: below =>
      (header.reverse.dropWhile isIndent).head? == some ':'
        && below.head?.any isIndent
        && (below.dropWhile isIndent).head?.any fun c => !isBlank c
  | _ => false

/-- A block word that only blanks precede, at the head of an indented block. -/
def isBlockHeader (line : List Char) : Bool :=
  blockWords.any fun word =>
    (behind? word (stripLeft line)).any fun after =>
      !startsWithWordChar after && opensBlock after

def isInterface (text : List Char) : Bool :=
  (behind? "interface" text).any fun after =>
    (behindBlanks? after).any startsWithWordChar

def isTypeAlias (text : List Char) : Bool :=
  (behind? "type" text).any fun after =>
    (behindBlanks? after).any fun name =>
      (behindWord? name).any fun rest => (stripLeft rest).head? == some '='

def looksIndented (text : List Char) : Bool :=
  onSomeLine isDefinition text || onSomeLine isBareImport text
    || somewhere isColonPass text || onSomeLine isBlockHeader text

def looksTyped (text : List Char) : Bool :=
  somewhere isInterface text || somewhere isTypeAlias text
    || somewhere (startsWith ": string") text

/-- The language that a snippet looks like. -/
def detect (source : List Char) : Language :=
  let snippet := strip source
  if snippet.isEmpty then plain
  else if isMarkup snippet then jsx
  else if looksIndented snippet then python
  else if looksTyped snippet then ts
  else js

/-- The language of a hint with content, else the one that the source looks like. -/
def resolve (source : List Char) (hint : Option (List Char)) : Language :=
  match hint with
  | some (c :: rest) => ofHint (c :: rest)
  | _ => detect source

end CodeGloss.Language
