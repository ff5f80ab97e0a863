import CodeGloss.Format.Json.Decode
import CodeGloss.Text.LineBreak
import Mathlib.Data.List.TakeDrop

/-!
# What a reader of JSON cannot follow

A reader of JSON either leaves a part of the text at its end, or fails. It fails
with a number that is too long only at a run of that many digits in the text, and
for want of levels only if more brackets open in the text than it has levels. Each
reader keeps this, so that another text is read or refused for its grammar alone.
-/

namespace CodeGloss.Format.Json

/-- So many digits stand in the text one after the other, and they are too many for a number. -/
def HasLongNumeral (text : List Char) (count : Nat) : Prop :=
  ∃ digits, digits <:+: text ∧ digits.all Char.isDigit ∧ digits.length = count
    ∧ digitLimit < count

theorem HasLongNumeral.of_infix {part text : List Char} {count : Nat}
    (long : HasLongNumeral part count) (within : part <:+: text) : HasLongNumeral text count := by
  obtain ⟨digits, inPart, areDigits, counted⟩ := long
  exact ⟨digits, inPart.trans within, areDigits, counted⟩

/-- Whether a list or a record may begin with the character. -/
def isOpening (c : Char) : Bool :=
  c == '[' || c == '\x7b'

/-- The number of levels is limited, and more brackets open in the text. -/
def OpensBeyond (levels : Option Nat) (text : List Char) : Prop :=
  ∃ most, levels = some most ∧ most < text.countP isOpening

theorem OpensBeyond.of_suffix {levels : Option Nat} {part text : List Char}
    (beyond : OpensBeyond levels part) (isEnd : part <:+ text) : OpensBeyond levels text := by
  obtain ⟨most, isMost, opens⟩ := beyond
  exact ⟨most, isMost, Nat.lt_of_lt_of_le opens (isEnd.sublist.countP_le)⟩

/-- Within a bracket there is one level less. -/
theorem OpensBeyond.of_enter {levels inner : Option Nat} {c : Char} {text : List Char}
    (entered : enter? levels = some inner) (opens : isOpening c = true)
    (beyond : OpensBeyond inner text) : OpensBeyond levels (c :: text) := by
  obtain ⟨most, rfl, isMore⟩ := beyond
  match levels with
  | some (levels + 1) =>
      cases entered
      refine ⟨_, rfl, ?_⟩
      rw [List.countP_cons_of_pos opens]
      omega

/-- With one level too many a first bracket opens too many. -/
theorem opensBeyond_of_enter?_eq_none {levels : Option Nat} {c : Char} (text : List Char)
    (refused : enter? levels = none) (opens : isOpening c = true) :
    OpensBeyond levels (c :: text) := by
  match levels with
  | some 0 => exact ⟨0, rfl, List.countP_pos_iff.mpr ⟨c, List.mem_cons_self, opens⟩⟩

/-- A reading of the text leaves an end of it, and finds a number too long or a level too many
only in it. -/
def ReadsWithin {α : Type} (levels : Option Nat) (text : List Char) : Reading α → Prop
  | .ok (_, rest) => rest <:+ text
  | .error (.longNumber count) => HasLongNumeral text count
  | .error .tooDeep => OpensBeyond levels text
  | .error (.fault _ _) => True

namespace ReadsWithin

variable {α β : Type} {levels : Option Nat} {text part : List Char} {reading : Reading α}

theorem of_suffix (within : ReadsWithin levels part reading) (isEnd : part <:+ text) :
    ReadsWithin levels text reading := by
  match reading with
  | .ok (_, rest) => exact List.IsSuffix.trans within isEnd
  | .error (.longNumber count) => exact HasLongNumeral.of_infix within isEnd.isInfix
  | .error .tooDeep => exact OpensBeyond.of_suffix within isEnd
  | .error (.fault _ _) => trivial

theorem map (within : ReadsWithin levels text reading) (f : α → β) :
    ReadsWithin levels text (reading.map fun (a, rest) => (f a, rest)) := by
  match reading with
  | .ok (_, rest) => exact within
  | .error (.longNumber count) => exact within
  | .error .tooDeep => exact within
  | .error (.fault _ _) => trivial

/-- A second reader goes on where the first one stopped. -/
theorem bind (within : ReadsWithin levels text reading) {next : α × List Char → Reading β}
    (goesOn : ∀ a rest, rest <:+ text → ReadsWithin levels text (next (a, rest))) :
    ReadsWithin levels text (Except.bind reading next) := by
  match reading with
  | .ok (a, rest) => exact goesOn a rest within
  | .error (.longNumber count) => exact within
  | .error .tooDeep => exact within
  | .error (.fault _ _) => trivial

/-- Blanks in front may be passed over. -/
theorem of_skipSpace (within : ReadsWithin levels (skipSpace part) reading)
    (isEnd : part <:+ text) : ReadsWithin levels text reading :=
  within.of_suffix ((List.dropWhile_suffix isSpace).trans isEnd)

/-- What is read behind a bracket is read with one level less. -/
theorem of_enter {inner : Option Nat} {c : Char} (within : ReadsWithin inner part reading)
    (entered : enter? levels = some inner) (opens : isOpening c = true) :
    ReadsWithin levels (c :: part) reading := by
  match reading with
  | .ok (_, rest) => exact List.IsSuffix.trans within (List.suffix_cons c part)
  | .error (.longNumber count) =>
      exact HasLongNumeral.of_infix within (List.suffix_cons c part).isInfix
  | .error .tooDeep => exact OpensBeyond.of_enter entered opens within
  | .error (.fault _ _) => trivial

end ReadsWithin

/-! ## Numbers -/

theorem span_isDigit (text : List Char) :
    (text.span Char.isDigit).1 ++ (text.span Char.isDigit).2 = text
      ∧ (text.span Char.isDigit).1.all Char.isDigit := by
  rw [List.span_eq_takeWhile_dropWhile]
  exact ⟨List.takeWhile_append_dropWhile, List.all_takeWhile⟩

theorem readWhole_spec (text : List Char) :
    (readWhole text).1 ++ (readWhole text).2 = text ∧ (readWhole text).1.all Char.isDigit := by
  unfold readWhole
  split
  · exact ⟨rfl, rfl⟩
  · exact span_isDigit text

/-- What stands behind the digits at the start of a text. -/
theorem suffix_of_span {text digits rest : List Char}
    (spans : text.span Char.isDigit = (digits, rest)) : rest <:+ text := by
  have parts := (span_isDigit text).1
  rw [spans] at parts
  exact ⟨digits, parts⟩

theorem readFraction_suffix (text : List Char) : (readFraction text).2 <:+ text := by
  unfold readFraction
  split
  · split
    · exact List.suffix_rfl
    · next _ spans => exact (suffix_of_span spans).trans (List.suffix_cons _ _)
  · exact List.suffix_rfl

theorem readExponent_suffix (text : List Char) : (readExponent text).2 <:+ text := by
  unfold readExponent
  split
  · next letter rest =>
    split
    · split
      next negative unsigned signed =>
        have behindSign : unsigned <:+ rest := by
          revert signed
          split <;> (rintro ⟨⟩; simp)
        split
        · exact List.suffix_rfl
        · next spans =>
          exact ((suffix_of_span spans).trans behindSign).trans (List.suffix_cons _ _)
    · exact List.suffix_rfl
  · exact List.suffix_rfl

/-- A number that is too long is the whole part that was read. -/
theorem readsWithin_readNumber (levels : Option Nat) (text : List Char) :
    ReadsWithin levels text (readNumber text) := by
  unfold readNumber
  split
  next negative unsigned signed =>
    have behindSign : unsigned <:+ text := by
      revert signed
      split <;> (rintro ⟨⟩; simp)
    apply ReadsWithin.of_suffix _ behindSign
    have whole := readWhole_spec unsigned
    dsimp only
    split
    · trivial
    · next digits afterWhole _ reads =>
      rw [reads] at whole
      obtain ⟨parts, areDigits⟩ := whole
      have behindWhole : (readExponent (readFraction afterWhole).2).2 <:+ unsigned :=
        ((readExponent_suffix _).trans (readFraction_suffix _)).trans ⟨digits, parts⟩
      split
      · split
        next tooLong =>
          exact ⟨digits, ⟨[], afterWhole, parts⟩, areDigits, rfl, tooLong⟩
        · exact behindWhole
      · exact behindWhole

/-! ## Strings and words -/

theorem readsWithin_prepend {levels : Option Nat} {text front : List Char}
    {reading : Reading (List Char)} (within : ReadsWithin levels text reading) :
    ReadsWithin levels text (prepend front reading) :=
  within.map (front ++ ·)

theorem readsWithin_readString (levels : Option Nat) (start : Nat) (state : StringState)
    (text : List Char) : ReadsWithin levels text (readString start state text) := by
  induction text generalizing state with
  | nil =>
      cases state with
      | plain high => trivial
      | escape high => trivial
      | number high place left code => trivial
  | cons c rest ih =>
      have behind (state : StringState) :
          ReadsWithin levels (c :: rest) (readString start state rest) :=
        (ih state).of_suffix (List.suffix_cons c rest)
      cases state with
      | plain high =>
          unfold readString
          split
          · exact List.suffix_cons c rest
          · split
            · exact behind _
            · split
              · trivial
              · exact readsWithin_prepend (behind _)
      | escape high =>
          unfold readString
          split
          · exact behind _
          · split
            · exact readsWithin_prepend (behind _)
            · trivial
      | number high place left code =>
          unfold readString
          split
          · trivial
          · split
            · exact behind _
            · split
              · trivial
              · exact readsWithin_prepend (behind _)

theorem readWord?_suffix {text rest : List Char} {value : Value}
    (reads : readWord? text = some (value, rest)) : rest <:+ text := by
  obtain ⟨⟨word, meant⟩, _, found⟩ := List.exists_of_findSome?_eq_some reads
  simp only [Option.ite_none_right_eq_some, Option.some.injEq, Prod.mk.injEq] at found
  obtain ⟨_, _, rfl⟩ := found
  exact List.drop_suffix word.length text

/-! ## Values -/

section Fuel

variable {fuel : Nat}
  (readsValue : ∀ levels text, ReadsWithin levels text (readValue fuel levels text))
  (readsItems : ∀ levels text, ReadsWithin levels text (readItems fuel levels text))
  (readsFields : ∀ levels text, ReadsWithin levels text (readFields fuel levels text))

include readsItems readsFields in
theorem readsWithin_readValue_succ (levels : Option Nat) (text : List Char) :
    ReadsWithin levels text (readValue (fuel + 1) levels text) := by
  unfold readValue
  split
  · next rest =>
    exact ((readsWithin_readString levels _ _ rest).map Value.text).of_suffix
      (List.suffix_cons _ _)
  · next rest =>
    split
    · next refused => exact opensBeyond_of_enter?_eq_none rest refused rfl
    · next inner entered =>
      apply ReadsWithin.of_enter _ entered rfl
      apply ReadsWithin.of_skipSpace _ List.suffix_rfl
      split
      · next closes =>
        rw [closes]
        exact List.suffix_cons _ _
      · exact (readsItems inner _).map Value.list
  · next rest =>
    split
    · next refused => exact opensBeyond_of_enter?_eq_none rest refused rfl
    · next inner entered =>
      apply ReadsWithin.of_enter _ entered rfl
      apply ReadsWithin.of_skipSpace _ List.suffix_rfl
      split
      · next closes =>
        rw [closes]
        exact List.suffix_cons _ _
      · exact (readsFields inner _).map fun fields => Value.record (lastOfEach fields)
  · split
    · next reads => exact readWord?_suffix reads
    · exact readsWithin_readNumber levels text

include readsValue readsItems in
theorem readsWithin_readItems_succ (levels : Option Nat) (text : List Char) :
    ReadsWithin levels text (readItems (fuel + 1) levels text) := by
  unfold readItems
  apply (readsValue levels text).bind
  intro item rest isEnd
  apply ReadsWithin.of_skipSpace _ isEnd
  dsimp only
  split
  · next closes =>
    rw [closes]
    exact List.suffix_cons _ _
  · next behind continues =>
    rw [continues]
    apply ReadsWithin.of_skipSpace _ (List.suffix_cons _ behind)
    apply (readsItems levels _).bind
    exact fun items rest isEnd => isEnd
  · trivial

include readsValue readsFields in
theorem readsWithin_readFields_succ (levels : Option Nat) (text : List Char) :
    ReadsWithin levels text (readFields (fuel + 1) levels text) := by
  unfold readFields
  split
  · next behindQuote =>
    apply ReadsWithin.of_suffix _ (List.suffix_cons _ _)
    apply (readsWithin_readString levels _ _ behindQuote).bind
    intro name rest isEnd
    apply ReadsWithin.of_skipSpace _ isEnd
    dsimp only
    split
    · next behindColon colon =>
      rw [colon]
      apply ReadsWithin.of_skipSpace _ (List.suffix_cons _ behindColon)
      apply (readsValue levels _).bind
      intro value rest isEnd
      apply ReadsWithin.of_skipSpace _ isEnd
      dsimp only
      split
      · next closes =>
        rw [closes]
        exact List.suffix_cons _ _
      · next behind continues =>
        rw [continues]
        apply ReadsWithin.of_skipSpace _ (List.suffix_cons _ behind)
        apply (readsFields levels _).bind
        exact fun fields rest isEnd => isEnd
      · trivial
    · trivial
  · trivial

end Fuel

/-- All readers of values read within their text, with any fuel. -/
theorem readsWithin_readValue (fuel : Nat) :
    (∀ levels text, ReadsWithin levels text (readValue fuel levels text))
      ∧ (∀ levels text, ReadsWithin levels text (readItems fuel levels text))
      ∧ ∀ levels text, ReadsWithin levels text (readFields fuel levels text) := by
  induction fuel with
  | zero => exact ⟨fun _ _ => trivial, fun _ _ => trivial, fun _ _ => trivial⟩
  | succ fuel ih =>
      obtain ⟨readsValue, readsItems, readsFields⟩ := ih
      exact ⟨readsWithin_readValue_succ readsItems readsFields,
        readsWithin_readItems_succ readsValue readsItems,
        readsWithin_readFields_succ readsValue readsFields⟩

/-! ## Documents -/

/-- Why a text is refused that breaks no rule of the grammar: a number or the levels. -/
def IsBeyond (levels : Option Nat) (text : List Char) : Prop :=
  (∃ count, HasLongNumeral text count) ∨ OpensBeyond levels text

variable {levels : Option Nat} {text : List Char}

theorem readsWithin_readDocument (levels : Option Nat) (text : List Char) :
    ReadsWithin levels text ((readDocument levels text).map fun value => (value, [])) := by
  have reads := (readsWithin_readValue (2 * text.length + 2)).1 levels (skipSpace text)
  rw [readDocument]
  cases reading : readValue (2 * text.length + 2) levels (skipSpace text) with
  | error failure =>
      rw [reading] at reads
      exact ReadsWithin.of_skipSpace reads List.suffix_rfl
  | ok read =>
      simp only [bind, Except.bind]
      split
      · exact List.nil_suffix
      · trivial

/-- A text that breaks no rule of the grammar is read, unless a number in it is too long or more
brackets open in it than there are levels. -/
theorem isBeyond_of_decodeWithin {error : DecodeError}
    (fails : decodeWithin levels text = .error error) (wellFormed : error.isMalformed = false) :
    IsBeyond levels text := by
  have reads := readsWithin_readDocument levels text
  rw [decodeWithin] at fails
  split at fails
  · cases fails
    contradiction
  · split at fails
    · contradiction
    · cases fails
      contradiction
    · next count long =>
      rw [long] at reads
      exact .inl ⟨count, reads⟩
    · next tooDeep =>
      rw [tooDeep] at reads
      exact .inr reads

/-! ## Line breaks -/

theorem eq_nil_of_prefix_cons {c : Char} {front : List Char} (absent : c ∉ front)
    (starts : front <+: c :: text) : front = [] := by
  rcases List.prefix_cons_iff.mp starts with none | ⟨rest, rfl, _⟩
  · exact none
  · exact absurd List.mem_cons_self absent

variable {part : List Char}

/-- Without a line feed, what a text starts with does not depend on its line breaks. -/
theorem prefix_of_prefix_unifyBreaks (noBreak : '\n' ∉ part)
    (starts : part <+: Text.unifyBreaks text) : part <+: text := by
  obtain ⟨after, parts⟩ := starts
  obtain ⟨behind, rfl, _⟩ := Text.exists_of_unifyBreaks_eq_append noBreak parts.symm
  exact List.prefix_append part behind

theorem infix_of_infix_unifyBreaks (noBreak : '\n' ∉ part)
    (within : part <:+: Text.unifyBreaks text) : part <:+: text := by
  fun_induction Text.unifyBreaks text with
  | case1 => exact within
  | case2 rest ih =>
      rcases List.infix_cons_iff.mp within with starts | inside
      · rw [eq_nil_of_prefix_cons noBreak starts]
        exact List.nil_infix
      · exact (ih inside).trans ⟨['\r', '\n'], [], by simp⟩
  | case3 rest _ ih =>
      rcases List.infix_cons_iff.mp within with starts | inside
      · rw [eq_nil_of_prefix_cons noBreak starts]
        exact List.nil_infix
      · exact (ih inside).trans (List.suffix_cons _ _).isInfix
  | case4 c rest _ other ih =>
      rcases List.infix_cons_iff.mp within with starts | inside
      · apply List.IsPrefix.isInfix
        apply prefix_of_prefix_unifyBreaks noBreak
        rwa [Text.unifyBreaks_cons (fun same => other same)]
      · exact (ih inside).trans (List.suffix_cons _ _).isInfix

/-- No number is made longer by its line breaks. -/
theorem HasLongNumeral.of_unifyBreaks (long : HasLongNumeral (Text.unifyBreaks text) count) :
    HasLongNumeral text count := by
  obtain ⟨digits, within, areDigits, counted⟩ := long
  refine ⟨digits, infix_of_infix_unifyBreaks ?_ within, areDigits, counted⟩
  intro isBreak
  exact absurd (List.all_eq_true.mp areDigits _ isBreak) (by decide)

/-- Brackets are no line breaks. -/
theorem countP_isOpening_unifyBreaks (text : List Char) :
    (Text.unifyBreaks text).countP isOpening = text.countP isOpening := by
  fun_induction Text.unifyBreaks text with
  | case1 => rfl
  | case2 rest ih | case3 rest _ ih | case4 c rest _ _ ih => simp [List.countP_cons, ih, isOpening]

/-- Line breaks make no difference to what a reader cannot follow. -/
theorem IsBeyond.of_unifyBreaks (beyond : IsBeyond levels (Text.unifyBreaks text)) :
    IsBeyond levels text := by
  rcases beyond with ⟨count, long⟩ | ⟨most, isMost, opens⟩
  · exact .inl ⟨count, long.of_unifyBreaks⟩
  · rw [countP_isOpening_unifyBreaks] at opens
    exact .inr ⟨most, isMost, opens⟩

end CodeGloss.Format.Json
