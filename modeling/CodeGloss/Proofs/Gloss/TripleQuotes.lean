import CodeGloss.Proofs.Gloss.Escaping
import CodeGloss.Proofs.Glossary.Reading
import CodeGloss.Proofs.Scan.Content
import CodeGloss.Proofs.Text.Replace

/-!
# Insertions between tripled quotes

A reader between tripled quotes remembers how many quotes may still follow before the
literal closes, or that the next character is escaped. The escape breaks up the
delimiters within an insertion, but it does not look beyond its ends: quotes at an end
can join with quotes outside, and behind a backslash an insertion of nothing but
backslashes leaves one over. An insertion without quotes at its ends and with some
other character leads the reader home, whatever stands around it.
-/

namespace CodeGloss.Gloss.Escape

open Glossary Scan Text

/-- A reader between tripled quotes. -/
inductive TripleReader where
  /-- So many quotes may follow and leave the literal open. -/
  | room (quotes : Nat) (few : quotes ≤ 2)
  /-- The next character is escaped. -/
  | escaped

namespace TripleReader

/-- No quote has been read since the last other character. -/
def home : TripleReader :=
  room 2 (Nat.le_refl 2)

def step (quote : Char) : TripleReader → Char → Option TripleReader
  | escaped, _ => some home
  | room quotes few, c =>
      if c = '\\' then some escaped
      else if c = quote then
        match quotes, few with
        | 0, _ => none
        | quotes + 1, few => some (room quotes (Nat.le_of_succ_le few))
      else some home

section Steps

variable {quote c : Char} {quotes : Nat}

theorem step_escaped (quote c : Char) : step quote escaped c = some home :=
  rfl

theorem step_backslash (quote : Char) (few : quotes ≤ 2) :
    step quote (room quotes few) '\\' = some escaped := by
  simp [step]

theorem step_quote_zero (noBackslash : quote ≠ '\\') (few : 0 ≤ 2) :
    step quote (room 0 few) quote = none := by
  simp [step, noBackslash]

theorem step_quote_succ (noBackslash : quote ≠ '\\') (few : quotes + 1 ≤ 2) :
    step quote (room (quotes + 1) few) quote = some (room quotes (Nat.le_of_succ_le few)) := by
  simp [step, noBackslash]

theorem step_of_ne (noBackslash : c ≠ '\\') (noQuote : c ≠ quote) (reader : TripleReader) :
    step quote reader c = some home := by
  cases reader <;> simp [step, noBackslash, noQuote]

end Steps

/-! ## The reader and the content -/

/-- What the reader has still to read, so that it has read the content of a literal. -/
def Awaits (quote : Char) : TripleReader → List Char → Prop
  | escaped, text => ∃ c content, text = c :: content
      ∧ Content (delimiterOf quote true) false content
  | room quotes _, text => Content (delimiterOf quote true) false text
      ∧ (quotes = 2 ∨ ¬ List.replicate (quotes + 1) quote <+: text ++ delimiterOf quote true)

variable {quote : Char}

theorem awaits_home_iff {text : List Char} :
    home.Awaits quote text ↔ Content (delimiterOf quote true) false text :=
  ⟨And.left, fun isContent => ⟨isContent, .inl rfl⟩⟩

theorem awaits_nil_iff (reader : TripleReader) : reader.Awaits quote [] ↔ reader = home := by
  cases reader with
  | escaped => simp [Awaits, home]
  | room quotes few =>
      have closes : List.replicate (quotes + 1) quote <+: delimiterOf quote true := by
        rw [delimiterOf, List.prefix_replicate_iff, List.length_replicate]
        exact ⟨Nat.succ_le_succ few, rfl⟩
      simp [Awaits, home, closes, Content.nil]

theorem awaits_escaped_iff {c : Char} {text : List Char} :
    escaped.Awaits quote (c :: text) ↔ Content (delimiterOf quote true) false text := by
  constructor
  · rintro ⟨_, _, same, isContent⟩
    cases same
    exact isContent
  · intro isContent
    exact ⟨c, text, rfl, isContent⟩

theorem awaits_room_iff {quotes : Nat} (few : quotes ≤ 2) {text : List Char} :
    (room quotes few).Awaits quote text ↔ Content (delimiterOf quote true) false text
      ∧ (quotes = 2 ∨ ¬ List.replicate (quotes + 1) quote <+: text ++ delimiterOf quote true) :=
  Iff.rfl

/-- A quote is awaited as long as there is room for it. -/
theorem awaits_quote_iff (noBackslash : quote ≠ '\\') {quotes : Nat} (few : quotes + 1 ≤ 2)
    {text : List Char} :
    (room (quotes + 1) few).Awaits quote (quote :: text) ↔
      (room quotes (Nat.le_of_succ_le few)).Awaits quote text := by
  have bare : quote = '\\' → false = true := fun isBackslash => absurd isBackslash noBackslash
  have starts : ∀ count, List.replicate (count + 1) quote <+: quote :: text ++ delimiterOf quote true
      ↔ List.replicate count quote <+: text ++ delimiterOf quote true := by
    intro count
    rw [List.replicate_succ, List.cons_append, List.cons_prefix_cons]
    simp
  have fewer : List.replicate (quotes + 1) quote <+: List.replicate 2 quote := by
    rw [List.prefix_replicate_iff, List.length_replicate]
    exact ⟨few, rfl⟩
  rw [awaits_room_iff, awaits_room_iff, content_cons_iff bare, starts]
  -- With room for two, the rest may not go on to a delimiter because of the content alone.
  constructor
  · rintro ⟨⟨notThree, isContent⟩, one | none⟩
    · refine ⟨isContent, .inr ?_⟩
      rw [Nat.succ.inj one]
      exact fun two => notThree ((starts 2).mpr two)
    · exact ⟨isContent, .inr none⟩
  · rintro ⟨isContent, two | none⟩
    · omega
    · exact ⟨⟨fun three => none (fewer.trans ((starts 2).mp three)), isContent⟩, .inr none⟩

/-- One step of the reader takes one character off what it awaits. -/
theorem awaits_cons_iff (noBackslash : quote ≠ '\\') (reader : TripleReader) (c : Char)
    (text : List Char) :
    reader.Awaits quote (c :: text) ↔ ∃ next ∈ reader.step quote c, next.Awaits quote text := by
  cases reader with
  | escaped =>
      rw [step_escaped, awaits_escaped_iff]
      simp only [Option.mem_some_iff, exists_eq_left', awaits_home_iff]
  | room quotes few =>
      by_cases backslash : c = '\\'
      · subst backslash
        simp [Awaits, step_backslash, content_backslash_iff, List.replicate_succ, noBackslash]
      by_cases isQuote : c = quote
      · subst isQuote
        cases quotes with
        | zero => simp [Awaits, step_quote_zero noBackslash]
        | succ quotes => simp [awaits_quote_iff noBackslash, step_quote_succ noBackslash]
      · have bare : c = '\\' → false = true := fun isBackslash => absurd isBackslash backslash
        have still : ∀ count, ¬ List.replicate (count + 1) quote <+:
            c :: (text ++ delimiterOf quote true) := by
          intro count
          rw [List.replicate_succ, List.cons_prefix_cons]
          exact fun both => isQuote both.1.symm
        rw [step_of_ne backslash isQuote, awaits_room_iff, content_cons_iff bare]
        simp only [Option.mem_some_iff, exists_eq_left', awaits_home_iff]
        exact ⟨fun both => both.1.2, fun isContent => ⟨⟨still 2, isContent⟩, .inr (still quotes)⟩⟩

/-! ## Reading an insertion -/

/-- Where the reader may stand before an insertion that does not end with a quote: quotes
that close the literal do not follow, nor nothing but backslashes behind a backslash. -/
def Admits (quote : Char) (reader : TripleReader) (text : List Char) : Prop :=
  text.getLast? ≠ some quote
    ∧ match reader with
      | escaped => ∃ c ∈ text, c ≠ '\\'
      | room quotes _ => quotes = 2 ∨ (text ≠ [] ∧ ¬ List.replicate (quotes + 1) quote <+: text)

theorem admits_home {text : List Char} (lastFree : text.getLast? ≠ some quote) :
    home.Admits quote text :=
  ⟨lastFree, .inl rfl⟩

theorem eq_home_of_admits_nil {reader : TripleReader} (admits : reader.Admits quote []) :
    reader = home := by
  cases reader with
  | escaped => simp [Admits] at admits
  | room quotes few =>
      rcases admits.2 with rfl | ⟨nonempty, _⟩
      · rfl
      · contradiction

theorem admits_backslash {reader : TripleReader} {text : List Char}
    (admits : reader.Admits quote ('\\' :: text)) :
    ∃ next ∈ ['\\', '\\'].foldlM (step quote) reader, next.Admits quote text := by
  have lastFree := getLast?_ne_of_suffix (List.suffix_cons '\\' text) admits.1
  cases reader with
  | escaped => exact ⟨escaped, rfl, lastFree, by simpa using admits.2⟩
  | room quotes few =>
      refine ⟨home, ?_, admits_home lastFree⟩
      simp [step_backslash, step_escaped]

theorem admits_delimiter (differs : quote ≠ '\\') {reader : TripleReader} {text : List Char}
    (admits : reader.Admits quote ([quote, quote, quote] ++ text)) :
    ∃ next ∈ [quote, quote, '\\', quote].foldlM (step quote) reader, next.Admits quote text := by
  have lastFree := getLast?_ne_of_suffix (List.suffix_append _ text) admits.1
  refine ⟨home, ?_, admits_home lastFree⟩
  cases reader with
  | escaped => simp [step_escaped, home, step_quote_succ differs, step_backslash]
  | room quotes few =>
      -- With less room the first quotes would close the literal before the backslash.
      rcases admits.2 with rfl | ⟨_, noDelimiter⟩
      · simp [step_escaped, step_quote_succ differs, step_backslash]
      · have starts : List.replicate (quotes + 1) quote <+: List.replicate 3 quote := by
          rw [List.prefix_replicate_iff, List.length_replicate]
          exact ⟨Nat.succ_le_succ few, rfl⟩
        exact absurd (starts.trans (List.prefix_append _ text)) noDelimiter

theorem admits_keep (differs : quote ≠ '\\') {reader : TripleReader} {c : Char}
    {text : List Char} (noBackslash : c ≠ '\\') (noTriple : ¬ [quote, quote, quote] <+: c :: text)
    (admits : reader.Admits quote (c :: text)) :
    ∃ next ∈ reader.step quote c, next.Admits quote text := by
  have lastFree := getLast?_ne_of_suffix (List.suffix_cons c text) admits.1
  cases reader with
  | escaped => exact ⟨home, rfl, admits_home lastFree⟩
  | room quotes few =>
      by_cases isQuote : c = quote
      · subst isQuote
        have nonempty : text ≠ [] := by
          rintro rfl
          exact admits.1 rfl
        have noDelimiter : ¬ List.replicate (quotes + 1) c <+: c :: text := by
          rcases admits.2 with rfl | ⟨_, noDelimiter⟩
          · exact noTriple
          · exact noDelimiter
        rw [List.replicate_succ, List.cons_prefix_cons] at noDelimiter
        cases quotes with
        | zero => exact absurd ⟨rfl, List.nil_prefix⟩ noDelimiter
        | succ quotes =>
            exact ⟨_, step_quote_succ differs few, lastFree,
              .inr ⟨nonempty, fun starts => noDelimiter ⟨rfl, starts⟩⟩⟩
      · exact ⟨home, step_of_ne noBackslash isQuote _, admits_home lastFree⟩

/-- From where it may stand, the reader comes home through an escaped text. -/
theorem foldlM_inTripleQuotes (differs : quote ≠ '\\') {reader : TripleReader}
    {text : List Char} (admits : reader.Admits quote text) :
    (inTripleQuotes [quote] text).foldlM (step quote) reader = some home := by
  have escapes : Replaces '\\' ['\\', '\\'] [quote, quote, quote] [quote, quote, '\\', quote] text
      (inTripleQuotes [quote] text) :=
    replaces_replaceAll (by simp) (by simp) (by simp [Ne.symm differs])
      (by simp [Ne.symm differs]) text
  rcases escapes.exists_foldlM admits_backslash (admits_delimiter differs) (admits_keep differs)
    admits with ⟨last, isLast, atEnd⟩
  rw [Option.mem_def.mp isLast, eq_home_of_admits_nil atEnd]

end TripleReader

/-! ## Safe translations -/

/-- The translation has no quote at either end and is not made of backslashes alone. -/
structure SafeInTripleQuotes (quote : Char) (translation : List Char) : Prop where
  firstFree : translation.head? ≠ some quote
  lastFree : translation.getLast? ≠ some quote
  notBackslashes : ∃ c ∈ translation, c ≠ '\\'

namespace SafeInTripleQuotes

variable {quote : Char} {text : List Char}

theorem of_sameFrame {other : List Char} (safe : SafeInTripleQuotes quote text)
    (mark : isMark quote = true) (same : SameFrame isMark text other) :
    SafeInTripleQuotes quote other where
  firstFree first := safe.firstFree (same.symm.head?_of_fixed mark first)
  lastFree last := safe.lastFree (same.symm.getLast?_of_fixed mark last)
  notBackslashes := by
    apply Classical.byContradiction
    intro none
    have all : ∀ c ∈ other, c = '\\' := by simpa using none
    have isFixed : ∀ c ∈ other, isMark c = true := by
      intro c member
      rw [all c member]
      decide
    rcases safe.notBackslashes with ⟨c, member, differs⟩
    rw [← same.symm.eq_of_fixed isFixed] at member
    exact differs (all c member)

/-- Whatever stands around it, a safe insertion leads the reader home. -/
theorem leadsHome (safe : SafeInTripleQuotes quote text) (differs : quote ≠ '\\') :
    LeadsHome (TripleReader.step quote) .home (inTripleQuotes [quote] text) := by
  intro reader
  apply TripleReader.foldlM_inTripleQuotes differs
  refine ⟨safe.lastFree, ?_⟩
  cases reader with
  | escaped => exact safe.notBackslashes
  | room quotes few =>
      right
      constructor
      · rintro rfl
        simpa using safe.notBackslashes
      · rintro ⟨behind, rfl⟩
        exact safe.firstFree rfl

end SafeInTripleQuotes

/-- The characters by which a reader between tripled quotes is steered. -/
def steersTriple (quote c : Char) : Bool :=
  c == '\\' || c == quote

theorem steersTriple_eq_false_iff {quote c : Char} :
    steersTriple quote c = false ↔ c ≠ '\\' ∧ c ≠ quote := by
  simp [steersTriple]

/-- A dictionary of safe translations keeps contents, and makes none of other texts. -/
theorem content_translateEscaped_iff {quote : Char} {entries : List Entry}
    (differs : quote ≠ '\\') (mark : isMark quote = true)
    (keys : ∀ entry ∈ entries, entry.key ≠ [] ∧ quote ∉ entry.key ∧ '\\' ∉ entry.key)
    (safe : ∀ entry ∈ entries, SafeInTripleQuotes quote entry.translation) (text : List Char) :
    Content (delimiterOf quote true) false
        (translateEscaped entries (inTripleQuotes [quote]) text) ↔
      Content (delimiterOf quote true) false text := by
  have marks : ∀ c, steersTriple quote c = true → isMark c = true := by
    intro c steers
    simp only [steersTriple, Bool.or_eq_true, beq_iff_eq] at steers
    rcases steers with rfl | rfl
    · decide
    · exact mark
  have ordinary : ∀ c, steersTriple quote c = false → ∀ reader,
      TripleReader.step quote reader c = some .home := by
    intro c isOrdinary
    rcases steersTriple_eq_false_iff.mp isOrdinary with ⟨noBackslash, noQuote⟩
    exact TripleReader.step_of_ne noBackslash noQuote
  have keysFree : ∀ entry ∈ entries, entry.key ≠ []
      ∧ ∀ c ∈ entry.key, steersTriple quote c = false := by
    intro entry member
    rcases keys entry member with ⟨nonempty, noQuote, noBackslash⟩
    refine ⟨nonempty, fun c inKey => steersTriple_eq_false_iff.mpr ⟨?_, ?_⟩⟩
    · rintro rfl
      exact noBackslash inKey
    · rintro rfl
      exact noQuote inKey
  have inserted : ∀ entry ∈ entries, ∀ sample, LeadsHome (TripleReader.step quote) .home
      (inTripleQuotes [quote] (matchCase entry.translation sample)) := by
    intro entry member sample
    have same := sameFrame_matchCase entry.translation sample
    exact ((safe entry member).of_sameFrame mark same).leadsHome differs
  rw [← TripleReader.awaits_home_iff, ← TripleReader.awaits_home_iff]
  exact awaits_translateEscaped_iff TripleReader.awaits_nil_iff
    (TripleReader.awaits_cons_iff differs) marks ordinary keysFree inserted .home text

end CodeGloss.Gloss.Escape
