import CodeGloss.Text.Blank
import CodeGloss.Text.Case

/-!
# Markup in messages

Messages carry styles as tags in square brackets. A tag begins with a small
letter, a number sign, a slash or an at sign, and ends at the next closing
bracket; a slash closes what was opened, by name or whatever is open. Brackets
around anything else are text, and so is a tag behind a backslash. On a terminal
without colours only the text is left.
-/

namespace CodeGloss.Report

open Text

/-- A closing tag that closes nothing. -/
inductive MarkupError where
  | nothingToClose
  | notOpen (name : List Char)
  deriving DecidableEq, Repr

namespace Markup

def startsTag (c : Char) : Bool :=
  ('a' ≤ c && c ≤ 'z') || c == '\x23' || c == '/' || c == '@'

/-- The inside of the tag that a text continues after its opening bracket, and
what follows the tag. -/
def tag? : List Char → Option (List Char × List Char)
  | [] => none
  | c :: rest =>
      if startsTag c then
        let inside := rest.takeWhile fun d => d != '[' && d != ']'
        match rest.drop inside.length with
        | ']' :: after => some (c :: inside, after)
        | _ => none
      else none

theorem length_tag? {text inside after : List Char} (found : tag? text = some (inside, after)) :
    after.length < text.length := by
  cases text with
  | nil => simp [tag?] at found
  | cons c rest =>
      simp only [tag?] at found
      split at found
      · split at found
        · rename_i rest_eq
          simp only [Option.some.injEq, Prod.mk.injEq] at found
          have shorter := congrArg List.length rest_eq
          simp only [List.length_drop, List.length_cons] at shorter
          rw [← found.2]
          simp only [List.length_cons]
          omega
        · contradiction
      · contradiction

/-- A piece of a message. -/
inductive Piece where
  | char (c : Char)
  | tag (inside : List Char)
  deriving DecidableEq, Repr

/-- The pieces of a message. `slashes` is the number of backslashes just before. -/
def pieces (slashes : Nat) (text : List Char) : List Piece :=
  match text with
  | [] => List.replicate slashes (.char '\\')
  | '\\' :: rest => pieces (slashes + 1) rest
  | '[' :: rest =>
      match found : tag? rest with
      | some (inside, after) =>
          List.replicate (slashes / 2) (.char '\\')
            ++ (if slashes % 2 = 0 then [.tag inside]
                else ('[' :: inside ++ [']']).map .char)
            ++ pieces 0 after
      | none => List.replicate (slashes - 1) (.char '\\') ++ .char '[' :: pieces 0 rest
  | c :: rest => List.replicate slashes (.char '\\') ++ .char c :: pieces 0 rest
termination_by text.length
decreasing_by
  all_goals simp only [List.length_cons]
  · omega
  · have := length_tag? found; omega
  · omega
  · omega

theorem pieces_tag {rest inside after : List Char} (found : tag? rest = some (inside, after)) :
    pieces 0 ('[' :: rest) = .tag inside :: pieces 0 after := by
  rw [pieces]
  split
  · next isTag =>
    rw [found] at isTag
    cases isTag
    rfl
  · next noTag =>
    rw [found] at noTag
    contradiction

theorem pieces_append {front : List Char} (noBackslash : '\\' ∉ front) (noBracket : '[' ∉ front)
    (rest : List Char) : pieces 0 (front ++ rest) = front.map .char ++ pieces 0 rest := by
  induction front with
  | nil => rfl
  | cons c front ih =>
      rw [List.mem_cons, not_or] at noBackslash noBracket
      rw [List.cons_append, pieces, ih noBackslash.2 noBracket.2]
      · rfl
      · exact fun same => noBackslash.1 same.symm
      · exact fun same => noBracket.1 same.symm

/-- Without brackets there are characters only. -/
theorem exists_char_of_mem_pieces (slashes : Nat) {text : List Char} (noBracket : '[' ∉ text) :
    ∀ piece ∈ pieces slashes text, ∃ c, piece = .char c := by
  intro piece member
  fun_induction pieces slashes text with
  | case1 slashes => exact ⟨_, List.eq_of_mem_replicate member⟩
  | case2 slashes rest ih => exact ih (fun later => noBracket (List.mem_cons_of_mem _ later)) member
  | case3 | case4 => exact absurd List.mem_cons_self noBracket
  | case5 slashes c rest _ _ ih =>
      rcases List.mem_append.mp member with slash | own
      · exact ⟨_, List.eq_of_mem_replicate slash⟩
      · rcases List.mem_cons.mp own with rfl | later
        · exact ⟨c, rfl⟩
        · exact ih (fun later => noBracket (List.mem_cons_of_mem _ later)) later

/-- The name of a style. -/
def styleName (inside : List Char) : List Char :=
  lower (strip (inside.takeWhile (· != '=')))

/-- The text of the pieces, with the styles that are open before them. -/
def textOf (opened : List (List Char)) : List Piece → Except MarkupError (List Char)
  | [] => .ok []
  | .char c :: rest => (textOf opened rest).map (c :: ·)
  | .tag ('/' :: inside) :: rest =>
      let name := styleName inside
      if name = [] then
        match opened with
        | [] => .error .nothingToClose
        | _ :: others => textOf others rest
      else if name ∈ opened then textOf (opened.erase name) rest
      else .error (.notOpen name)
  | .tag inside :: rest => textOf (styleName inside :: opened) rest

/-- Characters in front of pieces that can be shown can be shown. -/
theorem isOk_textOf_append (opened : List (List Char)) {front : List Piece}
    (plain : ∀ piece ∈ front, ∃ c, piece = .char c) {rest : List Piece}
    (shown : (textOf opened rest).isOk = true) : (textOf opened (front ++ rest)).isOk = true := by
  induction front with
  | nil => exact shown
  | cons piece front ih =>
      obtain ⟨⟨c, rfl⟩, plainRest⟩ := List.forall_mem_cons.mp plain
      have shownRest := ih plainRest
      rw [List.cons_append, textOf]
      cases read : textOf opened (front ++ rest) with
      | error e =>
          rw [read] at shownRest
          contradiction
      | ok shown => rfl

end Markup

/-- The text of a message without its markup. -/
def plainText (message : List Char) : Except MarkupError (List Char) :=
  if message.contains '[' then Markup.textOf [] (Markup.pieces 0 message) else .ok message

end CodeGloss.Report
