import CodeGloss.Scan.Profile
import CodeGloss.Text.Alphanumeric

/-!
# Scanning for comments and strings

One pass over a source finds its comments and string literals. A comment runs
from its marker to the end of the line. A literal runs from the letters before
its opening quote to its closing delimiter, which is one quote, or three if
three open it. A backslash protects the character behind it, unless a raw
letter stands before the quote. A literal without a closing delimiter takes the
rest of the source and has no content.

The scanner keeps what it has passed, nearest character first, since the letters
before a quote are found by looking back.
-/

namespace CodeGloss.Scan

open Text

/-- A string literal. Its range includes the letters before the quote; its
content excludes the delimiters. -/
structure Literal where
  start : Nat
  stop : Nat
  contentStart : Nat
  contentStop : Nat
  lead : List Char
  quote : Char
  triple : Bool
  terminated : Bool
  deriving DecidableEq, Repr

def Literal.delimiter (literal : Literal) : List Char :=
  if literal.triple then [literal.quote, literal.quote, literal.quote] else [literal.quote]

inductive Span where
  | comment (start stop : Nat)
  | string (literal : Literal)
  deriving DecidableEq, Repr

def continuesName (c : Char) : Bool :=
  c == '_' || isAlphanumeric c

/-- The letters before a quote, read back from it. Letters that continue a name
belong to the name. -/
def leadBefore (profile : Profile) (passed : List Char) : List Char :=
  let lead := passed.takeWhile profile.leadChars.contains
  if (passed.drop lead.length).head?.any continuesName then [] else lead.reverse

/-- Where the closing delimiter stands: the number of characters before it. -/
def contentLength? (delimiter : List Char) (raw : Bool) : List Char → Option Nat
  | [] => none
  | c :: rest =>
      if c = '\\' ∧ raw = false then
        match rest with
        | [] => none
        | _ :: rest => (contentLength? delimiter raw rest).map (· + 2)
      else if delimiter.isPrefixOf (c :: rest) then some 0
      else (contentLength? delimiter raw rest).map (· + 1)

/-- The literal whose opening quote is `quote` at `place`, between the characters
passed and those that follow. -/
def readLiteral (profile : Profile) (passed : List Char) (place : Nat) (quote : Char)
    (rest : List Char) : Literal :=
  let lead := leadBefore profile passed
  let triple := [quote, quote].isPrefixOf rest
  let delimiterLength := if triple then 3 else 1
  let delimiter := List.replicate delimiterLength quote
  let raw := lead.any profile.rawChars.contains
  let contentStart := place + delimiterLength
  let start := place - lead.length
  match contentLength? delimiter raw (rest.drop (delimiterLength - 1)) with
  | some length =>
      ⟨start, contentStart + length + delimiterLength, contentStart, contentStart + length,
        lead, quote, triple, true⟩
  | none => ⟨start, place + 1 + rest.length, contentStart, contentStart, lead, quote, triple, false⟩

/-- The literal whose opening quote is the character at `place`. -/
def readLiteralAt? (profile : Profile) (source : List Char) (place : Nat) : Option Literal :=
  match source.drop place with
  | [] => none
  | quote :: rest => some (readLiteral profile (source.take place).reverse place quote rest)

/-- The spans from `place` on. A comment that takes no character ends the scan,
since it could not go on. -/
def scanFrom (profile : Profile) (passed : List Char) (place : Nat) (text : List Char) :
    List Span :=
  match text with
  | [] => []
  | c :: rest =>
      if profile.commentMarker.isPrefixOf (c :: rest) then
        let body := (c :: rest).takeWhile (· != '\n')
        if body.isEmpty then [.comment place place]
        else
          .comment place (place + body.length)
            :: scanFrom profile (body.reverse ++ passed) (place + body.length)
              (rest.drop (body.length - 1))
      else if profile.quoteChars.contains c then
        let literal := readLiteral profile passed place c rest
        let used := literal.stop - place - 1
        .string literal
          :: scanFrom profile ((c :: rest.take used).reverse ++ passed) (place + 1 + used)
            (rest.drop used)
      else scanFrom profile (c :: passed) (place + 1) rest
termination_by text.length
decreasing_by
  · simp only [List.length_drop, List.length_cons]; omega
  · simp only [List.length_drop, List.length_cons]; omega
  · simp

/-- The comments and strings of a source, in order. -/
def scan (profile : Profile) (source : List Char) : List Span :=
  scanFrom profile [] 0 source

end CodeGloss.Scan
