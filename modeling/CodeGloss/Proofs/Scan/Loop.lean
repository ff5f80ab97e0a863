import CodeGloss.Proofs.Scan.CutScan

/-!
# The loop of the scanner

A scan can be told as one loop, which stands at a place of the source and is between
spans, at a comment or at a string. To find that a span starts here takes a turn of its
own, in which the loop does not move on. It halts nevertheless: a turn that does not
move on is followed by one that does. What it has found then is the scan.
-/

namespace CodeGloss.Scan

open Text

/-! ## The loop -/

/-- What stands at the place of the loop, as far as it has been looked at. -/
inductive Mode where
  | between
  | comment
  | string
  deriving DecidableEq, Repr

structure Loop where
  mode : Mode := .between
  place : Nat := 0
  found : List Span := []
  deriving DecidableEq, Repr

namespace Loop

/-- One turn, unless the source ends at the place. -/
def turn? (profile : Profile) (source : List Char) (loop : Loop) : Option Loop :=
  match source.drop loop.place with
  | [] => none
  | c :: rest =>
      match loop.mode with
      | .between =>
          if profile.commentMarker.isPrefixOf (c :: rest) then some { loop with mode := .comment }
          else if profile.quoteChars.contains c then some { loop with mode := .string }
          else some { loop with place := loop.place + 1 }
      | .comment =>
          let stop := loop.place + ((c :: rest).takeWhile (· != '\n')).length
          some ⟨.between, stop, loop.found ++ [.comment loop.place stop]⟩
      | .string =>
          let literal := readLiteral profile (source.take loop.place).reverse loop.place c rest
          some ⟨.between, max literal.stop (loop.place + 1), loop.found ++ [.string literal]⟩

/-- The loop after `n` turns, or where it halts before. -/
def run (profile : Profile) (source : List Char) : Nat → Loop → Loop
  | 0, loop => loop
  | n + 1, loop => (loop.turn? profile source).elim loop (run profile source n)

end Loop

/-! ## Profiles by which the loop goes on -/

/-- A comment takes at least one character, and what ends a span is no lead letter. -/
structure Profile.GoesOn (profile : Profile) : Prop where
  marker_ne_nil : profile.commentMarker ≠ []
  marker_noLine : profile.commentMarker.head? ≠ some '\n'
  quote_noLead : ∀ quote ∈ profile.quoteChars, quote ∉ profile.leadChars
  line_noLead : '\n' ∉ profile.leadChars

theorem Profile.Separate.goesOn {profile : Profile} (separate : profile.Separate) :
    profile.GoesOn where
  marker_ne_nil := separate.marker_ne_nil
  marker_noLine first := separate.marker_oneLine (List.mem_of_mem_head? first)
  quote_noLead := separate.quote_noLead
  line_noLead := separate.line_noLead

/-! ## What a literal takes -/

/-- A literal whose quote stands behind `before` takes `inside` and leaves `rest`. -/
structure Literal.Takes (profile : Profile) (before inside rest : List Char)
    (literal : Literal) : Prop where
  start_eq : literal.start = before.length - (leadBefore profile before.reverse).length
  stop_eq : literal.stop = before.length + inside.length
  nonempty : inside ≠ []
  closed : literal.terminated = true →
    ∃ inner, inside = inner ++ delimiterOf literal.quote literal.triple
  unclosed : literal.terminated = false → rest = []

section Turns

variable {profile : Profile} {source : List Char}

theorem quote_readLiteral (profile : Profile) (passed : List Char) (place : Nat) (quote : Char)
    (rest : List Char) : (readLiteral profile passed place quote rest).quote = quote := by
  unfold readLiteral
  simp only
  split <;> rfl

theorem exists_takes (profile : Profile) (before : List Char) (quote : Char) (rest : List Char) :
    ∃ inside after, quote :: rest = inside ++ after
      ∧ (readLiteral profile before.reverse before.length quote rest).Takes profile before inside
        after := by
  rcases readLiteral_cases profile before.reverse before.length quote rest with
    ⟨triple, inner, isText, _, ⟨_, isLiteral⟩ | ⟨length, closes, isLiteral⟩⟩
  · rw [isText, isLiteral]
    exact ⟨_, [], (List.append_nil _).symm, rfl, rfl,
      List.append_ne_nil_of_left_ne_nil (delimiterOf_ne_nil quote triple) inner, nofun,
      fun _ => rfl⟩
  · rcases exists_content_of_contentLength? closes with ⟨content, after, rfl, rfl, _⟩
    rw [isText, isLiteral]
    refine ⟨delimiterOf quote triple ++ (content ++ delimiterOf quote triple), after, ?_, rfl, ?_,
      List.append_ne_nil_of_left_ne_nil (delimiterOf_ne_nil quote triple) _,
      fun _ => ⟨delimiterOf quote triple ++ content, ?_⟩, nofun⟩
    · simp only [List.append_assoc]
    · simp only [List.length_append, Nat.add_assoc]
    · rw [List.append_assoc]

/-! ## Turns -/

/-- Where the loop stands, and what it knows of the place. -/
inductive Standing (profile : Profile) (source : List Char) : Loop → Prop
  | between {before text : List Char} (found : List Span) (isSource : source = before ++ text) :
      Standing profile source ⟨.between, before.length, found⟩
  | comment {before text : List Char} (found : List Span) (isSource : source = before ++ text)
      (marker : profile.commentMarker <+: text) :
      Standing profile source ⟨.comment, before.length, found⟩
  | string {before rest : List Char} {c : Char} (found : List Span)
      (isSource : source = before ++ c :: rest) (noMarker : ¬ profile.commentMarker <+: c :: rest)
      (isQuote : c ∈ profile.quoteChars) :
      Standing profile source ⟨.string, before.length, found⟩

theorem standing_start (profile : Profile) (source : List Char) : Standing profile source {} :=
  @Standing.between profile source [] source [] rfl

/-- What a turn can do. -/
inductive Turn (profile : Profile) (source : List Char) : Loop → Loop → Prop
  | enterComment {before rest : List Char} {c : Char} {found : List Span}
      (isSource : source = before ++ c :: rest) (marker : profile.commentMarker <+: c :: rest) :
      Turn profile source ⟨.between, before.length, found⟩ ⟨.comment, before.length, found⟩
  | enterString {before rest : List Char} {c : Char} {found : List Span}
      (isSource : source = before ++ c :: rest) (noMarker : ¬ profile.commentMarker <+: c :: rest)
      (isQuote : c ∈ profile.quoteChars) :
      Turn profile source ⟨.between, before.length, found⟩ ⟨.string, before.length, found⟩
  | pass {before rest : List Char} {c : Char} {found : List Span}
      (isSource : source = before ++ c :: rest) (noMarker : ¬ profile.commentMarker <+: c :: rest)
      (noQuote : c ∉ profile.quoteChars) :
      Turn profile source ⟨.between, before.length, found⟩ ⟨.between, before.length + 1, found⟩
  | leaveComment {before body rest : List Char} {found : List Span}
      (isSource : source = before ++ (body ++ rest))
      (marker : profile.commentMarker <+: body ++ rest) (nonempty : body ≠ [])
      (oneLine : '\n' ∉ body) (lineEnd : ∀ c ∈ rest.head?, c = '\n') :
      Turn profile source ⟨.comment, before.length, found⟩
        ⟨.between, before.length + body.length,
          found ++ [.comment before.length (before.length + body.length)]⟩
  | leaveString {before inside rest after : List Char} {c : Char} {found : List Span}
      {literal : Literal} (isSource : source = before ++ (inside ++ rest))
      (parts : c :: after = inside ++ rest) (noMarker : ¬ profile.commentMarker <+: inside ++ rest)
      (isQuote : c ∈ profile.quoteChars)
      (isLiteral : literal = readLiteral profile before.reverse before.length c after)
      (takes : literal.Takes profile before inside rest) :
      Turn profile source ⟨.string, before.length, found⟩
        ⟨.between, before.length + inside.length, found ++ [.string literal]⟩

/-- A line starts with a comment that takes a character, if a marker starts it. -/
theorem Profile.GoesOn.exists_line (goesOn : profile.GoesOn) {text : List Char}
    (marker : profile.commentMarker <+: text) :
    ∃ body rest, text = body ++ rest ∧ body = text.takeWhile (· != '\n') ∧ body ≠ []
      ∧ '\n' ∉ body ∧ ∀ c ∈ rest.head?, c = '\n' := by
  refine ⟨text.takeWhile (· != '\n'), text.dropWhile (· != '\n'),
    List.takeWhile_append_dropWhile.symm, rfl, ?_, line_not_mem_takeWhile text,
    dropWhile_head_eq_line text⟩
  cases isMarker : profile.commentMarker with
  | nil => exact absurd isMarker goesOn.marker_ne_nil
  | cons c more =>
      rw [isMarker] at marker
      rcases marker with ⟨behind, rfl⟩
      have noLine : c ≠ '\n' := by
        rintro rfl
        exact goesOn.marker_noLine (by rw [isMarker]; rfl)
      simp [noLine]

/-- The loop halts at the end of the source, and takes a turn everywhere else. -/
theorem Standing.halts_or_turns (goesOn : profile.GoesOn) {loop : Loop}
    (standing : Standing profile source loop) :
    loop.turn? profile source = none ∧ loop.place = source.length
      ∨ ∃ next, loop.turn? profile source = some next ∧ Turn profile source loop next := by
  cases standing with
  | @between before text found isSource =>
      have isText : source.drop before.length = text := by rw [isSource, List.drop_left]
      cases text with
      | nil =>
          left
          rw [Loop.turn?, isText]
          exact ⟨rfl, by rw [isSource, List.append_nil]⟩
      | cons c rest =>
          right
          rw [Loop.turn?, isText]
          simp only [List.isPrefixOf_iff_prefix, List.contains_iff_mem]
          by_cases marker : profile.commentMarker <+: c :: rest
          · rw [if_pos marker]
            exact ⟨_, rfl, .enterComment isSource marker⟩
          · rw [if_neg marker]
            by_cases isQuote : c ∈ profile.quoteChars
            · rw [if_pos isQuote]
              exact ⟨_, rfl, .enterString isSource marker isQuote⟩
            · rw [if_neg isQuote]
              exact ⟨_, rfl, .pass isSource marker isQuote⟩
  | @comment before text found isSource marker =>
      right
      have isText : source.drop before.length = text := by rw [isSource, List.drop_left]
      rcases goesOn.exists_line marker with ⟨body, rest, rfl, isBody, nonempty, oneLine, lineEnd⟩
      cases parts : body ++ rest with
      | nil => simp [nonempty] at parts
      | cons c more =>
          rw [Loop.turn?, isText]
          simp only [parts]
          rw [← parts, ← isBody]
          exact ⟨_, rfl, .leaveComment isSource marker nonempty oneLine lineEnd⟩
  | @string before after c found isSource noMarker isQuote =>
      right
      have isText : source.drop before.length = c :: after := by rw [isSource, List.drop_left]
      have passed : source.take before.length = before := by rw [isSource, List.take_left]
      rcases exists_takes profile before c after with ⟨inside, rest, parts, takes⟩
      have stop : max (readLiteral profile before.reverse before.length c after).stop
          (before.length + 1) = before.length + inside.length := by
        have positive := List.length_pos_iff.mpr takes.nonempty
        rw [takes.stop_eq]
        omega
      rw [parts] at isSource noMarker
      rw [Loop.turn?, isText]
      simp only [passed, stop]
      exact ⟨_, rfl, .leaveString isSource parts noMarker isQuote rfl takes⟩

theorem Turn.standing {loop next : Loop} (turn : Turn profile source loop next) :
    Standing profile source next := by
  cases turn with
  | enterComment isSource marker => exact .comment _ isSource marker
  | enterString isSource noMarker isQuote => exact .string _ isSource noMarker isQuote
  | @pass before rest c found isSource =>
      have behind : Standing profile source ⟨.between, (before ++ [c]).length, found⟩ :=
        .between found (isSource.trans (List.append_cons before c rest))
      rwa [List.length_append] at behind
  | @leaveComment before body rest found isSource =>
      rw [← List.append_assoc] at isSource
      rw [← List.length_append]
      exact .between _ isSource
  | leaveString isSource =>
      rw [← List.append_assoc] at isSource
      rw [← List.length_append]
      exact .between _ isSource

/-! ## Runs -/

/-- What holds where the loop starts and is kept by each turn holds wherever it comes. -/
theorem Standing.run (goesOn : profile.GoesOn) (invariant : Loop → Prop)
    (keeps : ∀ {loop next}, Turn profile source loop next → invariant loop → invariant next)
    (n : Nat) {loop : Loop} (standing : Standing profile source loop) (holds : invariant loop) :
    Standing profile source (loop.run profile source n)
      ∧ invariant (loop.run profile source n) := by
  induction n generalizing loop with
  | zero => exact ⟨standing, holds⟩
  | succ n ih =>
      rw [Loop.run]
      rcases standing.halts_or_turns goesOn with ⟨halts, _⟩ | ⟨next, turns, turn⟩
      · rw [halts]
        exact ⟨standing, holds⟩
      · rw [turns]
        exact ih turn.standing (keeps turn holds)

/-- Twice what is left of the source, less one if the next turn is sure to move on. -/
def Loop.left (source : List Char) (loop : Loop) : Nat :=
  2 * (source.length - loop.place) - if loop.mode = .between then 0 else 1

theorem Turn.left_lt {loop next : Loop} (turn : Turn profile source loop next) :
    next.left source < loop.left source := by
  cases turn with
  | enterComment isSource =>
      simp only [Loop.left, isSource, List.length_append, List.length_cons, reduceCtorEq, if_true,
        if_false]
      omega
  | enterString isSource =>
      simp only [Loop.left, isSource, List.length_append, List.length_cons, reduceCtorEq, if_true,
        if_false]
      omega
  | pass isSource =>
      simp only [Loop.left, isSource, List.length_append, List.length_cons, if_true]
      omega
  | leaveComment isSource _ nonempty =>
      have positive := List.length_pos_iff.mpr nonempty
      simp only [Loop.left, isSource, List.length_append, reduceCtorEq, if_true, if_false]
      omega
  | leaveString isSource _ _ _ _ takes =>
      have positive := List.length_pos_iff.mpr takes.nonempty
      simp only [Loop.left, isSource, List.length_append, reduceCtorEq, if_true, if_false]
      omega

theorem Standing.halts_run (goesOn : profile.GoesOn) {n : Nat} {loop : Loop}
    (standing : Standing profile source loop) (enough : loop.left source ≤ n) :
    (loop.run profile source n).turn? profile source = none := by
  induction n generalizing loop with
  | zero =>
      rcases standing.halts_or_turns goesOn with ⟨halts, _⟩ | ⟨next, _, turn⟩
      · exact halts
      · exact absurd (Nat.lt_of_lt_of_le turn.left_lt enough) (Nat.not_lt_zero _)
  | succ n ih =>
      rw [Loop.run]
      rcases standing.halts_or_turns goesOn with ⟨halts, _⟩ | ⟨next, turns, turn⟩
      · rw [halts]
        exact halts
      · rw [turns]
        exact ih turn.standing (Nat.le_of_lt_succ (Nat.lt_of_lt_of_le turn.left_lt enough))

/-! ## What is found -/

/-- What the loop has found and what the scan finds from its place on are the whole scan. -/
def Loop.Tracks (profile : Profile) (source : List Char) (loop : Loop) : Prop :=
  loop.found ++ scanFrom profile (source.take loop.place).reverse loop.place
    (source.drop loop.place) = scan profile source

theorem Turn.tracks {loop next : Loop} (turn : Turn profile source loop next)
    (tracks : loop.Tracks profile source) : next.Tracks profile source := by
  cases turn with
  | enterComment => exact tracks
  | enterString => exact tracks
  | @pass before rest c found isSource noMarker noQuote =>
      rw [Loop.Tracks, isSource] at tracks ⊢
      rw [List.take_left, List.drop_left, scanFrom_pass _ _ noMarker noQuote] at tracks
      simpa [List.take_length_add_append, List.drop_length_add_append] using tracks
  | @leaveComment before body rest found isSource marker nonempty oneLine lineEnd =>
      rw [Loop.Tracks, isSource] at tracks ⊢
      rw [List.take_left, List.drop_left, scanFrom_comment _ _ marker nonempty oneLine lineEnd]
        at tracks
      simpa [List.take_length_add_append, List.drop_length_add_append] using tracks
  | @leaveString before inside rest after c found literal isSource parts noMarker isQuote isLiteral
      takes =>
      subst isLiteral
      rw [Loop.Tracks, isSource] at tracks ⊢
      cases inside with
      | nil => exact absurd rfl takes.nonempty
      | cons quote inside =>
          rw [List.cons_append, List.cons.injEq] at parts
          rcases parts with ⟨rfl, rfl⟩
          rw [List.take_left, List.drop_left, List.cons_append,
            scanFrom_literal _ noMarker isQuote takes.stop_eq] at tracks
          simpa [List.take_length_add_append, List.drop_length_add_append] using tracks

/-- The loop halts within two turns for each character, and then it has found the scan. -/
theorem halts_run_start (goesOn : profile.GoesOn) (source : List Char) :
    (Loop.run profile source (2 * source.length) {}).turn? profile source = none
      ∧ (Loop.run profile source (2 * source.length) {}).found = scan profile source := by
  have atStart := standing_start profile source
  have halts := atStart.halts_run goesOn (Nat.le_refl (2 * source.length))
  refine ⟨halts, ?_⟩
  rcases atStart.run goesOn (Loop.Tracks profile source) Turn.tracks (2 * source.length) rfl with
    ⟨standing, tracks⟩
  rcases standing.halts_or_turns goesOn with ⟨_, atEnd⟩ | ⟨next, turns, _⟩
  · rwa [Loop.Tracks, atEnd, List.drop_length, scanFrom, List.append_nil] at tracks
  · rw [halts] at turns
    contradiction

end Turns

end CodeGloss.Scan
