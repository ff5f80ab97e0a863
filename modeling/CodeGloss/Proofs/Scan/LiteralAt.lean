import CodeGloss.Proofs.Scan.CutScan

/-!
# The literal at a quote

What a literal at a quote is can be said without reading it. Its letters are the run of
letters before the quote, and it closes where its delimiter stands for the first time at
a place that is not escaped. Exactly this literal is read, if the quote is no backslash.
-/

namespace CodeGloss.Scan

open Text

/-! ## Places that are not escaped -/

/-- The place is reached from the start of the text by steps of two characters over a
backslash and of one over any other character. -/
inductive Reached : List Char → Nat → Prop
  | start (text : List Char) : Reached text 0
  | escape {c : Char} {text : List Char} {place : Nat} (next : Reached text place) :
      Reached ('\\' :: c :: text) (place + 2)
  | plain {c : Char} {text : List Char} {place : Nat} (bare : c ≠ '\\')
      (next : Reached text place) : Reached (c :: text) (place + 1)

/-- In a raw literal no place is escaped. -/
def IsActive (raw : Bool) (text : List Char) (place : Nat) : Prop :=
  raw = true ∨ Reached text place

section Active

variable {delimiter text : List Char} {raw : Bool} {c : Char} {place : Nat}

theorem isActive_zero (raw : Bool) (text : List Char) : IsActive raw text 0 :=
  .inr (.start text)

theorem isActive_cons_iff (bare : c = '\\' → raw = true) :
    IsActive raw (c :: text) (place + 1) ↔ IsActive raw text place := by
  constructor
  · rintro (isRaw | reached)
    · exact .inl isRaw
    · cases reached with
      | escape next => exact .inl (bare rfl)
      | plain _ next => exact .inr next
  · rintro (isRaw | reached)
    · exact .inl isRaw
    · by_cases backslash : c = '\\'
      · exact .inl (bare backslash)
      · exact .inr (.plain backslash reached)

theorem isActive_escape_iff :
    IsActive false ('\\' :: text) (place + 1) ↔
      ∃ c rest before, text = c :: rest ∧ place = before + 1 ∧ IsActive false rest before := by
  constructor
  · rintro (isRaw | reached)
    · contradiction
    · cases reached with
      | escape next => exact ⟨_, _, _, rfl, rfl, .inr next⟩
      | plain bare _ => contradiction
  · rintro ⟨c, rest, before, rfl, rfl, isRaw | reached⟩
    · contradiction
    · exact .inr (.escape reached)

/-- The first active place at which the delimiter stands, if there is one. -/
def ClosesFirst (delimiter : List Char) (raw : Bool) (text : List Char) : Option Nat → Prop
  | some place =>
      IsActive raw text place ∧ delimiter <+: text.drop place
        ∧ ∀ before < place, IsActive raw text before → ¬ delimiter <+: text.drop before
  | none => ∀ place, IsActive raw text place → ¬ delimiter <+: text.drop place

theorem ClosesFirst.plain {first : Option Nat} (bare : c = '\\' → raw = true)
    (notHere : ¬ delimiter <+: c :: text) (later : ClosesFirst delimiter raw text first) :
    ClosesFirst delimiter raw (c :: text) (first.map (· + 1)) := by
  cases first with
  | none =>
      intro place active starts
      cases place with
      | zero => exact notHere starts
      | succ place => exact later place ((isActive_cons_iff bare).mp active) starts
  | some first =>
      rcases later with ⟨active, starts, isFirst⟩
      refine ⟨(isActive_cons_iff bare).mpr active, starts, ?_⟩
      intro before earlier activeBefore startsBefore
      cases before with
      | zero => exact notHere startsBefore
      | succ before =>
          exact isFirst before (Nat.lt_of_succ_lt_succ earlier)
            ((isActive_cons_iff bare).mp activeBefore) startsBefore

theorem ClosesFirst.escape {first : Option Nat} (notHere : ¬ delimiter <+: '\\' :: c :: text)
    (later : ClosesFirst delimiter false text first) :
    ClosesFirst delimiter false ('\\' :: c :: text) (first.map (· + 2)) := by
  cases first with
  | none =>
      intro place active starts
      cases place with
      | zero => exact notHere starts
      | succ place =>
          rcases isActive_escape_iff.mp active with ⟨_, _, before, isText, rfl, activeBefore⟩
          cases isText
          exact later before activeBefore starts
  | some first =>
      rcases later with ⟨active, starts, isFirst⟩
      refine ⟨isActive_escape_iff.mpr ⟨_, _, first, rfl, rfl, active⟩, starts, ?_⟩
      intro place earlier activeHere startsHere
      cases place with
      | zero => exact notHere startsHere
      | succ place =>
          rcases isActive_escape_iff.mp activeHere with ⟨_, _, before, isText, rfl, activeBefore⟩
          cases isText
          exact isFirst before (Nat.lt_of_add_lt_add_right earlier) activeBefore startsHere

theorem head?_delimiterOf_ne {quote : Char} (triple : Bool) (differs : quote ≠ c) :
    (delimiterOf quote triple).head? ≠ some c := by
  cases triple <;> simpa [delimiterOf] using differs

/-- The reading of a content stops at the first active place of the delimiter. -/
theorem closesFirst_contentLength? (noBackslash : delimiter.head? ≠ some '\\')
    (nonempty : delimiter ≠ []) (raw : Bool) (text : List Char) :
    ClosesFirst delimiter raw text (contentLength? delimiter raw text) := by
  have notAtBackslash (rest : List Char) : ¬ delimiter <+: '\\' :: rest := by
    rintro ⟨behind, starts⟩
    cases delimiter with
    | nil => contradiction
    | cons d delimiter =>
        rw [List.cons_append, List.cons.injEq] at starts
        exact noBackslash (congrArg some starts.1)
  have notAtEnd (place : Nat) : ¬ delimiter <+: ([] : List Char).drop place := by
    rw [List.drop_nil, List.prefix_nil]
    exact nonempty
  induction size : text.length using Nat.strongRecOn generalizing text with
  | ind size ih =>
      subst size
      cases text with
      | nil => exact fun place _ => notAtEnd place
      | cons c rest =>
          rw [contentLength?_cons]
          split
          · next isEscape =>
            rcases isEscape with ⟨rfl, rfl⟩
            cases rest with
            | nil =>
                intro place active
                cases place with
                | zero => exact notAtBackslash []
                | succ place => exact notAtEnd place
            | cons skipped rest =>
                apply ClosesFirst.escape (notAtBackslash _)
                exact ih rest.length (by simp only [List.length_cons]; omega) rest rfl
          · next noEscape =>
            split
            · next closes =>
              rw [List.isPrefixOf_iff_prefix] at closes
              exact ⟨isActive_zero raw _, closes, nofun⟩
            · next notHere =>
              rw [List.isPrefixOf_iff_prefix] at notHere
              apply ClosesFirst.plain _ notHere (ih rest.length (Nat.lt_succ_self _) rest rfl)
              intro backslash
              simpa [backslash] using noEscape

end Active

/-! ## The run of letters before a quote -/

/-- The text ends in a run of letters, and no longer run. -/
structure EndsInRun (profile : Profile) (text front run : List Char) : Prop where
  parts : text = front ++ run
  letters : ∀ c ∈ run, c ∈ profile.leadChars
  longest : ∀ c ∈ front.getLast?, c ∉ profile.leadChars

section Runs

variable {profile : Profile} {text front run : List Char}

theorem exists_endsInRun (profile : Profile) (text : List Char) :
    ∃ front run, EndsInRun profile text front run := by
  have parts := List.takeWhile_append_dropWhile (p := profile.leadChars.contains)
    (l := text.reverse)
  refine ⟨(text.reverse.dropWhile profile.leadChars.contains).reverse,
    (text.reverse.takeWhile profile.leadChars.contains).reverse, ?_, ?_, ?_⟩
  · rw [← List.reverse_append, parts, List.reverse_reverse]
  · intro c member
    have all := List.all_takeWhile (p := profile.leadChars.contains) (l := text.reverse)
    simpa using List.all_eq_true.mp all c (List.mem_reverse.mp member)
  · intro c isLast
    have stopped := List.head?_dropWhile_not profile.leadChars.contains text.reverse
    rw [List.getLast?_reverse] at isLast
    rw [isLast] at stopped
    simpa using stopped

/-- The letters that are found before a quote are the run, unless a name goes on in it. -/
theorem EndsInRun.leadBefore_eq (ends : EndsInRun profile text front run) :
    leadBefore profile text.reverse = if front.getLast?.any continuesName then [] else run := by
  have accepted : ∀ c ∈ run.reverse, profile.leadChars.contains c = true := by
    intro c member
    rw [List.contains_iff_mem]
    exact ends.letters c (List.mem_reverse.mp member)
  have stops : front.reverse.takeWhile profile.leadChars.contains = [] := by
    cases isFront : front.reverse with
    | nil => rfl
    | cons c rest =>
        have isLast : front.getLast? = some c := by
          rw [← List.head?_reverse, isFront]
          rfl
        simp [ends.longest c isLast]
  have isRun : text.reverse.takeWhile profile.leadChars.contains = run.reverse := by
    rw [ends.parts, List.reverse_append, List.takeWhile_append_of_pos accepted, stops,
      List.append_nil]
  have behind : text.reverse.drop run.reverse.length = front.reverse := by
    rw [ends.parts, List.reverse_append, List.drop_left]
  simp only [leadBefore, isRun, behind, List.head?_reverse, List.reverse_reverse]

theorem EndsInRun.unique (ends : EndsInRun profile text front run) {front' run' : List Char}
    (ends' : EndsInRun profile text front' run') : front = front' ∧ run = run' := by
  have noLonger {front run front' between : List Char} (ends : EndsInRun profile text front run)
      (ends' : EndsInRun profile text front' (between ++ run))
      (isFront : front = front' ++ between) : between = [] := by
    rcases List.eq_nil_or_concat between with rfl | ⟨inner, c, rfl⟩
    · rfl
    · have isLast : front.getLast? = some c := by
        rw [isFront]
        simp
      exact absurd (ends'.letters c (by simp)) (ends.longest c isLast)
  have same := ends.parts.symm.trans ends'.parts
  rcases List.append_eq_append_iff.mp same with
    ⟨between, rfl, rfl⟩ | ⟨between, rfl, rfl⟩
  · have none := noLonger ends' ends rfl
    simp [none]
  · have none := noLonger ends ends' rfl
    simp [none]

end Runs

/-! ## What a literal has to be -/

namespace Literal

/-- The place lies behind the opening delimiter and is not escaped. -/
def ActiveIn (profile : Profile) (source : List Char) (literal : Literal) (place : Nat) : Prop :=
  literal.contentStart ≤ place
    ∧ IsActive (literal.lead.any profile.rawChars.contains) (source.drop literal.contentStart)
      (place - literal.contentStart)

/-- A closing delimiter of the literal stands at the place. -/
def ClosesAt (profile : Profile) (source : List Char) (literal : Literal) (place : Nat) : Prop :=
  literal.ActiveIn profile source place ∧ literal.delimiter <+: source.drop place

/-- The literal whose opening quote stands at `place`, told by the source alone. -/
structure IsAt (profile : Profile) (source : List Char) (place : Nat) (quote : Char)
    (literal : Literal) : Prop where
  quote_eq : literal.quote = quote
  /-- Its letters are the longest run before the quote, or none if a name goes on in it. -/
  lead_eq : ∃ front run, EndsInRun profile (source.take place) front run
    ∧ literal.lead = if front.getLast?.any continuesName then [] else run
  start_eq : literal.start + literal.lead.length = place
  triple_iff : literal.triple = true ↔ [quote, quote, quote] <+: source.drop place
  contentStart_eq : literal.contentStart = place + literal.delimiter.length
  terminated_iff : literal.terminated = true ↔
    ∃ close, literal.ClosesAt profile source close
  /-- It closes at the first closing delimiter. -/
  closed : literal.terminated = true →
    literal.ClosesAt profile source literal.contentStop
      ∧ (∀ close < literal.contentStop, ¬ literal.ClosesAt profile source close)
      ∧ literal.stop = literal.contentStop + literal.delimiter.length
  /-- An open literal has no content and takes the rest of the source. -/
  unclosed : literal.terminated = false →
    literal.contentStop = literal.contentStart ∧ literal.stop = source.length

section Unique

variable {profile : Profile} {source : List Char} {place : Nat} {quote : Char}
  {literal other : Literal}

theorem IsAt.delimiter_eq (isAt : literal.IsAt profile source place quote)
    (isAt' : other.IsAt profile source place quote) : literal.delimiter = other.delimiter := by
  have triple : literal.triple = other.triple :=
    Bool.eq_iff_iff.mpr (isAt.triple_iff.trans isAt'.triple_iff.symm)
  rw [Literal.delimiter, Literal.delimiter, isAt.quote_eq, isAt'.quote_eq, triple]

theorem IsAt.lead_unique (isAt : literal.IsAt profile source place quote)
    (isAt' : other.IsAt profile source place quote) : literal.lead = other.lead := by
  rcases isAt.lead_eq with ⟨front, run, ends, isLead⟩
  rcases isAt'.lead_eq with ⟨front', run', ends', isLead'⟩
  rcases ends.unique ends' with ⟨rfl, rfl⟩
  rw [isLead, isLead']

theorem IsAt.closesAt_iff (isAt : literal.IsAt profile source place quote)
    (isAt' : other.IsAt profile source place quote) (close : Nat) :
    literal.ClosesAt profile source close ↔ other.ClosesAt profile source close := by
  have contentStart : literal.contentStart = other.contentStart := by
    rw [isAt.contentStart_eq, isAt'.contentStart_eq, isAt.delimiter_eq isAt']
  rw [ClosesAt, ClosesAt, ActiveIn, ActiveIn, contentStart, isAt.delimiter_eq isAt',
    isAt.lead_unique isAt']

theorem IsAt.unique (isAt : literal.IsAt profile source place quote)
    (isAt' : other.IsAt profile source place quote) : literal = other := by
  have quotes := isAt.quote_eq.trans isAt'.quote_eq.symm
  have lead := isAt.lead_unique isAt'
  have delimiter := isAt.delimiter_eq isAt'
  have triple : literal.triple = other.triple :=
    Bool.eq_iff_iff.mpr (isAt.triple_iff.trans isAt'.triple_iff.symm)
  have terminated : literal.terminated = other.terminated := by
    rw [Bool.eq_iff_iff, isAt.terminated_iff, isAt'.terminated_iff]
    exact exists_congr fun close => isAt.closesAt_iff isAt' close
  have contentStart : literal.contentStart = other.contentStart := by
    rw [isAt.contentStart_eq, isAt'.contentStart_eq, delimiter]
  have start : literal.start = other.start := by
    have first := isAt.start_eq
    have second := isAt'.start_eq
    rw [lead] at first
    omega
  have stops : literal.contentStop = other.contentStop ∧ literal.stop = other.stop := by
    cases closed : literal.terminated with
    | false =>
        have first := isAt.unclosed closed
        have second := isAt'.unclosed (terminated.symm.trans closed)
        omega
    | true =>
        rcases isAt.closed closed with ⟨closes, isFirst, stop⟩
        rcases isAt'.closed (terminated.symm.trans closed) with ⟨closes', isFirst', stop'⟩
        have noLater : literal.contentStop ≤ other.contentStop :=
          Nat.le_of_not_lt fun later =>
            isFirst _ later ((isAt.closesAt_iff isAt' _).mpr closes')
        have noEarlier : other.contentStop ≤ literal.contentStop :=
          Nat.le_of_not_lt fun later =>
            isFirst' _ later ((isAt.closesAt_iff isAt' _).mp closes)
        rw [delimiter] at stop
        omega
  cases literal
  cases other
  simp_all

end Unique

/-! ## What is read -/

section Closing

variable {profile : Profile} {source inner delimiter : List Char} {literal : Literal}
  (isInner : source.drop literal.contentStart = inner) (isDelimiter : literal.delimiter = delimiter)

include isInner isDelimiter

/-- Closing delimiters are counted from the opening one. -/
theorem closesAt_iff_exists {close : Nat} :
    literal.ClosesAt profile source close ↔
      ∃ length, close = literal.contentStart + length
        ∧ IsActive (literal.lead.any profile.rawChars.contains) inner length
        ∧ delimiter <+: inner.drop length := by
  constructor
  · rintro ⟨⟨behind, active⟩, starts⟩
    obtain ⟨length, rfl⟩ := Nat.exists_eq_add_of_le behind
    rw [isInner, Nat.add_sub_cancel_left] at active
    rw [← List.drop_drop, isInner, isDelimiter] at starts
    exact ⟨length, rfl, active, starts⟩
  · rintro ⟨length, rfl, active, starts⟩
    refine ⟨⟨Nat.le_add_right _ _, ?_⟩, ?_⟩
    · rwa [isInner, Nat.add_sub_cancel_left]
    · rwa [← List.drop_drop, isInner, isDelimiter]

theorem not_closesAt_of_first
    (first : ClosesFirst delimiter (literal.lead.any profile.rawChars.contains) inner none)
    (close : Nat) : ¬ literal.ClosesAt profile source close := by
  rw [closesAt_iff_exists isInner isDelimiter]
  rintro ⟨length, _, active, starts⟩
  exact first length active starts

theorem closesAt_of_first {length : Nat}
    (first : ClosesFirst delimiter (literal.lead.any profile.rawChars.contains) inner
      (some length)) :
    literal.ClosesAt profile source (literal.contentStart + length) :=
  (closesAt_iff_exists isInner isDelimiter).mpr ⟨length, rfl, first.1, first.2.1⟩

theorem not_closesAt_of_lt_first {length : Nat}
    (first : ClosesFirst delimiter (literal.lead.any profile.rawChars.contains) inner
      (some length)) {close : Nat} (earlier : close < literal.contentStart + length) :
    ¬ literal.ClosesAt profile source close := by
  rw [closesAt_iff_exists isInner isDelimiter]
  rintro ⟨before, rfl, activeBefore, startsBefore⟩
  exact first.2.2 before (Nat.lt_of_add_lt_add_left earlier) activeBefore startsBefore

end Closing

section Read

variable {profile : Profile} {source rest : List Char} {place : Nat} {quote : Char}

theorem length_leadBefore_le (profile : Profile) (source : List Char) (place : Nat) :
    (leadBefore profile (source.take place).reverse).length ≤ place := by
  have within := (starts_reverse_leadBefore profile (source.take place).reverse).length_le
  rw [List.length_reverse, List.length_reverse, List.length_take] at within
  omega

/-- What is read at a quote, if it is no backslash, is the literal that stands there. -/
theorem isAt_readLiteral (profile : Profile) (isText : source.drop place = quote :: rest)
    (noBackslash : quote ≠ '\\') :
    (readLiteral profile (source.take place).reverse place quote rest).IsAt profile source place
      quote := by
  rcases exists_endsInRun profile (source.take place) with ⟨front, run, ends⟩
  rcases readLiteral_cases profile (source.take place).reverse place quote rest with
    ⟨triple, inner, isOpening, opens, isLiteral⟩
  have triples : triple = true ↔ [quote, quote, quote] <+: source.drop place := by
    rw [← opens, isText, List.isPrefixOf_iff_prefix, List.prefix_cons_inj]
  have isInner : source.drop (place + (delimiterOf quote triple).length) = inner := by
    rw [← List.drop_drop, isText, isOpening, List.drop_left]
  have within := length_leadBefore_le profile source place
  have first := closesFirst_contentLength? (head?_delimiterOf_ne triple noBackslash)
    (delimiterOf_ne_nil quote triple)
    ((leadBefore profile (source.take place).reverse).any profile.rawChars.contains) inner
  rcases isLiteral with ⟨staysOpen, isLiteral⟩ | ⟨length, closes, isLiteral⟩
  · have stop : place + (delimiterOf quote triple ++ inner).length = source.length := by
      have lengths := congrArg List.length isText
      rw [List.length_drop, isOpening] at lengths
      have positive := List.length_pos_iff.mpr (delimiterOf_ne_nil quote triple)
      rw [List.length_append] at lengths ⊢
      omega
    rw [staysOpen] at first
    rw [isLiteral]
    exact
      { quote_eq := rfl
        lead_eq := ⟨front, run, ends, ends.leadBefore_eq⟩
        start_eq := Nat.sub_add_cancel within
        triple_iff := triples
        contentStart_eq := by rw [delimiter_eq]
        terminated_iff := ⟨nofun, fun ⟨close, closesAt⟩ =>
          absurd closesAt (not_closesAt_of_first isInner (delimiter_eq _) first close)⟩
        closed := nofun
        unclosed := fun _ => ⟨rfl, stop⟩ }
  · rw [closes] at first
    rw [isLiteral]
    exact
      { quote_eq := rfl
        lead_eq := ⟨front, run, ends, ends.leadBefore_eq⟩
        start_eq := Nat.sub_add_cancel within
        triple_iff := triples
        contentStart_eq := by rw [delimiter_eq]
        terminated_iff := ⟨fun _ =>
          ⟨_, closesAt_of_first isInner (delimiter_eq _) first⟩, fun _ => rfl⟩
        closed := fun _ =>
          ⟨closesAt_of_first isInner (delimiter_eq _) first,
            fun _ earlier => not_closesAt_of_lt_first isInner (delimiter_eq _) first earlier,
            by rw [delimiter_eq]⟩
        unclosed := nofun }

end Read

end Literal

/-- At any character but a backslash exactly the literal is read that stands there. -/
theorem readLiteralAt?_eq_some_iff (profile : Profile) {source : List Char} {place : Nat}
    {quote : Char} (here : source[place]? = some quote) (noBackslash : quote ≠ '\\')
    (literal : Literal) :
    readLiteralAt? profile source place = some literal ↔
      literal.IsAt profile source place quote := by
  rcases List.getElem?_eq_some_iff.mp here with ⟨inText, isQuote⟩
  have isText : source.drop place = quote :: source.drop (place + 1) := by
    rw [List.drop_eq_getElem_cons inText, isQuote]
  have isAt := Literal.isAt_readLiteral profile isText noBackslash
  rw [readLiteralAt?, isText]
  constructor
  · intro reads
    rw [← Option.some.inj reads]
    exact isAt
  · intro isAt'
    exact congrArg some (isAt.unique isAt')

/-- In `b'a\'\\' + c` the second quote is escaped and the third is not, since the backslash
before it is escaped itself. -/
theorem readLiteralAt?_eq_some_iff_escaped :
    "b'a\\'\\\\' + c".toList[1]? = some '\'' ∧ '\'' ≠ '\\'
      ∧ Literal.IsAt {} "b'a\\'\\\\' + c".toList 1 '\'' ⟨0, 8, 2, 7, ['b'], '\'', false, true⟩ :=
  ⟨by decide, by decide,
    (readLiteralAt?_eq_some_iff {} (by decide) (by decide) _).mp (by decide +kernel)⟩

end CodeGloss.Scan
