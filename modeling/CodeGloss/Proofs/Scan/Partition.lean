import CodeGloss.Proofs.Scan.Loop
import CodeGloss.Proofs.Scan.Spans

/-!
# Scans as partitions

The spans of a scan cover each quote and each comment marker of the source. They stand
one behind the other, unless a line break is a quote: then a literal can be opened right
behind a comment, and its letters belong to both. Each turn of the loop keeps this for
the part of the source that it has passed.
-/

namespace CodeGloss.Scan

open Text

/-- The spans partition the source up to a place. -/
structure Partition (profile : Profile) (source : List Char) (place : Nat)
    (spans : List Span) : Prop where
  bounds : ∀ span ∈ spans, span.start < span.stop ∧ span.stop ≤ place
  ordered : '\n' ∉ profile.quoteChars → spans.Pairwise fun a b => a.stop ≤ b.start
  /-- Outside the spans no comment starts and no quote stands. -/
  outside : ∀ between < place, (∀ span ∈ spans, ¬ (span.start ≤ between ∧ between < span.stop)) →
    ¬ profile.commentMarker <+: source.drop between
      ∧ ∀ c ∈ source[between]?, c ∉ profile.quoteChars
  unclosed : ∀ {front behind : List Span} {literal : Literal},
    spans = front ++ .string literal :: behind → literal.terminated = false →
      behind = [] ∧ literal.stop = source.length ∧ place = source.length

section Partitions

variable {profile : Profile} {source : List Char} {place : Nat} {found : List Span}

/-- A character is passed that neither is a quote nor starts a comment. -/
theorem Partition.pass (partition : Partition profile source place found)
    (inText : place < source.length) (noMarker : ¬ profile.commentMarker <+: source.drop place)
    (noQuote : ∀ c ∈ source[place]?, c ∉ profile.quoteChars) :
    Partition profile source (place + 1) found where
  bounds := by
    intro span member
    have within := partition.bounds span member
    omega
  ordered := partition.ordered
  outside := by
    intro between earlier isOutside
    rcases Nat.lt_succ_iff_lt_or_eq.mp earlier with before | rfl
    · exact partition.outside between before isOutside
    · exact ⟨noMarker, noQuote⟩
  unclosed := by
    intro front behind literal parts isOpen
    have atEnd := (partition.unclosed parts isOpen).2.2
    omega

/-- A span is found at a place or before, and takes the source up to a place behind. -/
theorem Partition.extend (partition : Partition profile source place found) (span : Span)
    (inText : place < source.length) (starts : span.start ≤ place) (moves : place < span.stop)
    (inOrder : '\n' ∉ profile.quoteChars → ∀ other ∈ found, other.stop ≤ span.start)
    (unclosed : ∀ literal, span = .string literal → literal.terminated = false →
      literal.stop = source.length) :
    Partition profile source span.stop (found ++ [span]) where
  bounds := by
    intro other member
    rcases List.mem_append.mp member with earlier | isSpan
    · have within := partition.bounds other earlier
      omega
    · rw [List.mem_singleton.mp isSpan]
      omega
  ordered := by
    intro noLineQuote
    rw [List.pairwise_append]
    refine ⟨partition.ordered noLineQuote, List.pairwise_singleton _ _, ?_⟩
    intro other member last isSpan
    rw [List.mem_singleton.mp isSpan]
    exact inOrder noLineQuote other member
  outside := by
    intro between earlier isOutside
    have notInSpan := isOutside span List.mem_concat_self
    have before : between < place := by omega
    exact partition.outside between before fun other member =>
      isOutside other (List.mem_append_left _ member)
  unclosed := by
    intro front behind literal parts isOpen
    rcases List.eq_nil_or_concat behind with rfl | ⟨inner, last, rfl⟩
    · have isSpan := List.head_eq_of_cons_eq (List.append_inj' parts rfl).2
      have atEnd := unclosed literal isSpan isOpen
      subst isSpan
      exact ⟨rfl, atEnd, atEnd⟩
    · rw [List.concat_eq_append, ← List.cons_append, ← List.append_assoc] at parts
      have atEnd := (partition.unclosed (List.append_inj' parts rfl).1 isOpen).2.2
      omega

/-! ## Letters before a quote -/

/-- The letters of a literal at the place or behind it do not reach back into a span. Behind
a comment this holds since the line ends there, and elsewhere however the source goes on. -/
def Loop.Clear (profile : Profile) (source : List Char) (loop : Loop) : Prop :=
  ∃ before gap, (source.take loop.place).reverse = gap ++ before
    ∧ (∀ span ∈ loop.found, span.stop ≤ before.length)
    ∧ (LeadFits profile before gap
      ∨ gap = [] ∧ ∀ c ∈ (source.drop loop.place).head?, c = '\n')

theorem Loop.clear_start (profile : Profile) (source : List Char) :
    Loop.Clear profile source {} :=
  ⟨[], [], rfl, by simp, .inl (leadFits_nil profile)⟩

/-- Behind all spans nothing but the place itself has to be looked at. -/
theorem Loop.clear_of_bounds {mode : Mode} {before text : List Char} {found : List Span}
    (isSource : source = before ++ text) (bounds : ∀ span ∈ found, span.stop ≤ before.length)
    (fits : LeadFits profile before.reverse [] ∨ ∀ c ∈ text.head?, c = '\n') :
    Loop.Clear profile source ⟨mode, before.length, found⟩ := by
  refine ⟨before.reverse, [], ?_, ?_, ?_⟩
  · rw [isSource, List.take_left, List.nil_append]
  · rwa [List.length_reverse]
  · rw [isSource, List.drop_left]
    exact fits.imp_right fun lineEnd => ⟨rfl, lineEnd⟩

theorem Turn.clear (goesOn : profile.GoesOn) {loop next : Loop}
    (turn : Turn profile source loop next)
    (partition : Partition profile source next.place next.found)
    (clear : loop.Clear profile source) : next.Clear profile source := by
  cases turn with
  | enterComment => exact clear
  | enterString => exact clear
  | @pass before rest c found isSource =>
      rcases clear with ⟨earlier, gap, parts, bounds, fits⟩
      refine ⟨earlier, c :: gap, ?_, bounds, .inl ?_⟩
      · rw [isSource, List.take_left] at parts
        simp [isSource, List.take_length_add_append, parts]
      · rcases fits with fits | ⟨rfl, lineEnd⟩
        · exact leadFits_cons c fits
        · rw [isSource, List.drop_left] at lineEnd
          rw [lineEnd c rfl]
          intro front
          have within := length_leadBefore_append_cons_le goesOn.line_noLead front earlier
          rw [List.length_append]
          exact Nat.le_trans within (Nat.le_add_right _ _)
  | @leaveComment before body rest found isSource _ _ _ lineEnd =>
      have bounds := fun span member => (partition.bounds span member).2
      rw [← List.append_assoc] at isSource
      rw [← List.length_append] at bounds ⊢
      exact Loop.clear_of_bounds isSource bounds (.inr lineEnd)
  | @leaveString before inside rest after c found literal isSource _ _ isQuote isLiteral takes =>
      have bounds := fun span member => (partition.bounds span member).2
      rw [← List.append_assoc] at isSource
      rw [← List.length_append] at bounds ⊢
      apply Loop.clear_of_bounds isSource bounds
      cases isClosed : literal.terminated with
      | false =>
          rw [takes.unclosed isClosed]
          exact .inr nofun
      | true =>
          left
          rcases takes.closed isClosed with ⟨inner, rfl⟩
          have noLead := goesOn.quote_noLead c isQuote
          rw [isLiteral, quote_readLiteral, List.reverse_append]
          rcases exists_reverse_append_delimiterOf inner c _ with ⟨more, mirrored⟩
          rw [mirrored]
          exact leadFits_of_noLead noLead _ []

/-- A literal that is read at the place starts behind all spans. -/
theorem Loop.Clear.le_start {mode : Mode} {before text inside rest : List Char} {c : Char}
    {literal : Literal} (clear : Loop.Clear profile source ⟨mode, before.length, found⟩)
    (isSource : source = before ++ c :: text) (noLine : c ≠ '\n')
    (takes : literal.Takes profile before inside rest) :
    ∀ span ∈ found, span.stop ≤ literal.start := by
  rcases clear with ⟨earlier, gap, parts, bounds, fits | ⟨_, lineEnd⟩⟩
  · intro span member
    have reach := fits []
    have within := bounds span member
    have lengths := congrArg List.length parts
    rw [isSource, List.take_left] at parts lengths
    rw [List.length_reverse, List.length_append] at lengths
    rw [List.nil_append, List.nil_append, ← parts] at reach
    rw [takes.start_eq]
    omega
  · rw [isSource, List.drop_left] at lineEnd
    exact absurd (lineEnd c rfl) noLine

/-! ## Turns and runs -/

theorem Turn.partition {loop next : Loop} (turn : Turn profile source loop next)
    (clear : loop.Clear profile source)
    (partition : Partition profile source loop.place loop.found) :
    Partition profile source next.place next.found := by
  cases turn with
  | enterComment => exact partition
  | enterString => exact partition
  | @pass before rest c found isSource noMarker noQuote =>
      apply partition.pass
      · simp [isSource]
      · rwa [isSource, List.drop_left]
      · simpa [isSource] using noQuote
  | @leaveComment before body rest found isSource _ nonempty =>
      have positive := List.length_pos_iff.mpr nonempty
      apply partition.extend (.comment before.length (before.length + body.length))
      · simp [isSource]
        omega
      · exact Nat.le_refl _
      · exact Nat.lt_add_of_pos_right positive
      · intro _ other member
        exact (partition.bounds other member).2
      · nofun
  | @leaveString before inside rest after c found literal isSource parts _ isQuote _ takes =>
      have positive := List.length_pos_iff.mpr takes.nonempty
      have stop : (Span.string literal).stop = before.length + inside.length := takes.stop_eq
      rw [← stop]
      apply partition.extend (.string literal)
      · simp [isSource]
        omega
      · exact Nat.le_trans (Nat.le_of_eq takes.start_eq) (Nat.sub_le _ _)
      · rw [stop]
        exact Nat.lt_add_of_pos_right positive
      · intro noLineQuote
        have noLine : c ≠ '\n' := by
          rintro rfl
          exact noLineQuote isQuote
        rw [← parts] at isSource
        exact clear.le_start isSource noLine takes
      · intro other same isOpen
        cases same
        rw [takes.stop_eq, isSource, takes.unclosed isOpen]
        simp

theorem partition_start (profile : Profile) (source : List Char) :
    Partition profile source 0 [] where
  bounds := by simp
  ordered := fun _ => .nil
  outside := nofun
  unclosed := by simp

end Partitions

/-- The loop halts within two turns for each character. What it has found then is the scan,
and partitions the source. -/
theorem scan_partitions {profile : Profile} (goesOn : profile.GoesOn) (source : List Char) :
    (Loop.run profile source (2 * source.length) {}).turn? profile source = none
      ∧ (Loop.run profile source (2 * source.length) {}).found = scan profile source
      ∧ Partition profile source source.length (scan profile source) := by
  rcases halts_run_start goesOn source with ⟨halts, isScan⟩
  have atStart := standing_start profile source
  rcases atStart.run goesOn
    (fun loop =>
      Partition profile source loop.place loop.found ∧ loop.Clear profile source)
    (fun turn ⟨partition, clear⟩ =>
      have kept := turn.partition clear partition
      ⟨kept, turn.clear goesOn kept clear⟩)
    (2 * source.length) ⟨partition_start profile source, Loop.clear_start profile source⟩ with
    ⟨standing, partition, _⟩
  rcases standing.halts_or_turns goesOn with ⟨_, atEnd⟩ | ⟨next, turns, _⟩
  · rw [isScan, atEnd] at partition
    exact ⟨halts, isScan, partition⟩
  · rw [halts] at turns
    contradiction

/-- Behind a comment a literal starts with its letters, and the last one is not closed. -/
theorem scan_partitions_openLiteral :
    ({} : Profile).GoesOn
      ∧ Partition {} "# r\nb'#'+\"x".toList 11
        [.comment 0 3, .string ⟨4, 8, 6, 7, ['b'], '\'', false, true⟩,
          .string ⟨9, 11, 10, 10, [], '"', false, false⟩] := by
  have partition := (scan_partitions separate_default.goesOn "# r\nb'#'+\"x".toList).2.2
  have isScan : scan {} "# r\nb'#'+\"x".toList =
      [.comment 0 3, .string ⟨4, 8, 6, 7, ['b'], '\'', false, true⟩,
        .string ⟨9, 11, 10, 10, [], '"', false, false⟩] := by decide +kernel
  rw [isScan] at partition
  exact ⟨separate_default.goesOn, partition⟩

/-- If a line break is a quote, the letters of a literal can lie in the comment before it. -/
theorem not_pairwise_scan_lineQuote :
    ({ quoteChars := ['\n'] } : Profile).GoesOn
      ∧ ¬ (scan { quoteChars := ['\n'] } "#r\n".toList).Pairwise fun a b => a.stop ≤ b.start := by
  refine ⟨⟨by decide, by decide, List.forall_mem_singleton.mpr (by decide), by decide⟩, ?_⟩
  have isScan : scan { quoteChars := ['\n'] } "#r\n".toList =
      [.comment 0 2, .string ⟨1, 3, 3, 3, ['r'], '\n', false, false⟩] := by decide +kernel
  rw [isScan]
  decide

end CodeGloss.Scan
