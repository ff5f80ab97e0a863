import CodeGloss.Proofs.Gloss.Standing
import CodeGloss.Proofs.Gloss.Unchanged

/-!
# Attribute values

An attribute value knows no escape. The quote that encloses it is inserted as a character reference,
which has none itself. Later entries may match within a reference or across its ends, but they too
bring in no quote, so the literal is closed where it was closed before.
-/

namespace CodeGloss.Gloss

open Glossary Syntax Text

namespace Escape

/-- A character is gone where something without it stands in its place. -/
theorem not_mem_replaceAll_singleton {c : Char} {new : List Char} (absent : c ∉ new)
    (text : List Char) : c ∉ replaceAll [c] new text := by
  rw [replaceAll_singleton, List.mem_flatMap]
  rintro ⟨x, _, inImage⟩
  split at inImage
  · exact absent inImage
  · rename_i differs
    exact differs (List.mem_singleton.mp inImage).symm

/-- A quote that may enclose an attribute has a reference, and is not in it. -/
theorem exists_reference {quote : Char} (isQuote : quote = '\'' ∨ quote = '"') :
    ∃ reference, reference? [quote] = some reference ∧ quote ∉ reference := by
  rcases isQuote with rfl | rfl
  · exact ⟨_, rfl, by decide⟩
  · exact ⟨_, rfl, by decide⟩

theorem quote_not_mem_inAttribute {quote : Char} (isQuote : quote = '\'' ∨ quote = '"')
    (text : List Char) : quote ∉ inAttribute [quote] text := by
  rcases exists_reference isQuote with ⟨reference, isReference, noQuote⟩
  rw [inAttribute, isReference]
  exact not_mem_replaceAll_singleton noQuote text

end Escape

/-- A value between quotes. -/
def enclose (quote : Char) (value : List Char) : List Char :=
  quote :: (value ++ [quote])

section Enclosed

variable {quote : Char} {value : List Char}

@[simp]
theorem inside_enclose (quote : Char) (value : List Char) : inside (enclose quote value) = value :=
  List.dropLast_concat

@[simp]
theorem take_one_enclose (quote : Char) (value : List Char) :
    (enclose quote value).take 1 = [quote] :=
  rfl

/-- A value without its quote has it only around itself. -/
theorem getElem?_enclose_eq_some_iff (noQuote : quote ∉ value) (i : Nat) :
    (enclose quote value)[i]? = some quote ↔ i = 0 ∨ i + 1 = (enclose quote value).length := by
  have length : (enclose quote value).length = value.length + 2 := by
    rw [enclose, List.length_cons, List.length_append, List.length_singleton]
  rw [length]
  cases i with
  | zero => exact iff_of_true rfl (.inl rfl)
  | succ i =>
      rw [enclose, List.getElem?_cons_succ]
      rcases Nat.lt_or_ge i value.length with inValue | behind
      · rw [List.getElem?_append_left inValue]
        refine iff_of_false (fun isQuote => noQuote (List.mem_of_getElem? isQuote)) ?_
        omega
      · rw [List.getElem?_append_right behind, List.getElem?_singleton,
          Option.ite_none_right_eq_some]
        simp only [and_true]
        omega

end Enclosed

/-! ## Attributes -/

section Attributes

variable {entries : List Entry} {source value : List Char} {quote : Char}

/-- The value of an attribute is translated between its quotes. -/
theorem glossRange_attribute (entries : List Entry) {draft : Draft} {start stop : Nat}
    (shows : slice draft.source start stop = enclose quote value) :
    glossRange entries .attribute start stop draft =
      draft.record .string start stop
        (enclose quote (translateEscaped entries (Escape.inAttribute [quote]) value)) := by
  rw [glossRange, glossQuoted, shows, inside_enclose, take_one_enclose]
  split
  · rename_i same
    rw [same, Draft.record_of_same .string shows]
  · rfl

/-- A segment of an attribute has the translated value between the quotes. Without a segment the
value is its own translation. -/
theorem translated_of_attribute {p : Passage} {first last : Nat} (isAttribute : p.kind = .attribute)
    (isFirst : placeOf? source p.start = some first) (isLast : placeOf? source p.stop = some last)
    (shows : slice source first last = enclose quote value) :
    ((passageSegment? entries source p).map Segment.translated).getD (slice source first last) =
      enclose quote (translateEscaped entries (Escape.inAttribute [quote]) value) := by
  rw [passageSegment?, passageOffer?, isFirst, isLast, isAttribute]
  dsimp only
  rw [rangeOffer?, quotedOffer?, shows, inside_enclose, take_one_enclose]
  split
  · rename_i same
    rw [same]
    rfl
  · rw [Option.bind_some, Offer.segment?, shows]
    split
    · rename_i same
      exact same
    · rfl

/-- In glossed code the translated value stands between the quotes of the attribute. -/
theorem standingFor_attribute (keys : ∀ entry ∈ entries, entry.key ≠ []) {root : Node}
    (nested : root.Nested) (inData : root.stop ≤ (Utf8.encode source).length) (skipModules : Bool)
    (language : List Char) :
    ∃ result, glossPassages source (passagesOf skipModules (Utf8.encode source) root) entries
        language = .ok result
      ∧ ∀ p ∈ passagesOf skipModules (Utf8.encode source) root, p.kind = .attribute →
        ∀ first last quote value, placeOf? source p.start = some first →
          placeOf? source p.stop = some last → slice source first last = enclose quote value →
          result.standingFor first last =
            enclose quote (translateEscaped entries (Escape.inAttribute [quote]) value) := by
  have lie : ∀ p ∈ passagesOf skipModules (Utf8.encode source) root, LiesIn source p :=
    fun p member => liesIn_of_mem_passagesOf nested inData member
  have apart := pairwise_passagesOf skipModules (Utf8.encode source) nested
  rcases exists_glossPassages keys lie apart language with ⟨result, glossed, _, _⟩
  refine ⟨result, glossed, ?_⟩
  intro p member isAttribute first last quote value isFirst isLast shows
  rw [standingFor_passage keys lie apart glossed member isFirst isLast]
  exact translated_of_attribute isAttribute isFirst isLast shows

end Attributes

/-- A value without its quote is translated to one without it, whatever the keys and translations.
So a glossed attribute has its quote as the first and the last character and nowhere between, both
in the draft and in the code of a nested tree. -/
theorem attribute_staysClosed {quote : Char} {value : List Char}
    (isQuote : quote = '\'' ∨ quote = '"') (noQuote : quote ∉ value) (entries : List Entry) :
    let translated := translateEscaped entries (Escape.inAttribute [quote]) value
    quote ∉ translated
    ∧ (∀ i, (enclose quote translated)[i]? = some quote ↔
        i = 0 ∨ i + 1 = (enclose quote translated).length)
    ∧ (∀ draft start stop, slice draft.source start stop = enclose quote value →
        glossRange entries .attribute start stop draft =
          draft.record .string start stop (enclose quote translated))
    ∧ ((∀ entry ∈ entries, entry.key ≠ []) →
        ∀ source root skipModules language, root.Nested →
          root.stop ≤ (Utf8.encode source).length →
          ∃ result, glossPassages source (passagesOf skipModules (Utf8.encode source) root) entries
              language = .ok result
            ∧ ∀ p ∈ passagesOf skipModules (Utf8.encode source) root, p.kind = .attribute →
              ∀ first last, placeOf? source p.start = some first →
                placeOf? source p.stop = some last →
                slice source first last = enclose quote value →
                result.standingFor first last = enclose quote translated) := by
  intro translated
  have absent : quote ∉ translated :=
    not_mem_translateEscaped noQuote fun _ _ _ => Escape.quote_not_mem_inAttribute isQuote _
  refine ⟨absent, getElem?_enclose_eq_some_iff absent, ?_, ?_⟩
  · exact fun draft start stop shows => glossRange_attribute entries shows
  · intro keys source root skipModules language nested inData
    rcases standingFor_attribute keys nested inData skipModules language with
      ⟨result, glossed, standing⟩
    refine ⟨result, glossed, ?_⟩
    intro p member isAttribute first last isFirst isLast shows
    exact standing p member isAttribute first last quote value isFirst isLast shows

/-- The second entry matches in the reference that the first has brought in, and behind it. -/
theorem attribute_staysClosed_inReference :
    let source := "<a title='user'/>".toList
    let entries : List Entry :=
      [⟨"user".toList, "l'apos".toList⟩, ⟨"apos".toList, "O'x".toList⟩]
    let title : Node := ⟨.attribute, 3, 15, false, none, none, [.leaf .string 9 15]⟩
    let root : Node := ⟨.other, 0, 17, false, none, none, [title]⟩
    let glossed := "l&o&apos;x;o&apos;x".toList
    '\'' ∉ "user".toList ∧ (∀ entry ∈ entries, entry.key ≠ []) ∧ root.Nested
      ∧ root.stop ≤ (Utf8.encode source).length
      ∧ translateEscaped entries (Escape.inAttribute ['\'']) "user".toList = glossed
      ∧ '\'' ∉ glossed
      ∧ ∃ result, glossPassages source (passagesOf true (Utf8.encode source) root) entries
          "jsx".toList = .ok result
        ∧ result.standingFor 9 15 = enclose '\'' glossed := by
  intro source entries title root glossed
  have noQuote : '\'' ∉ "user".toList := by decide
  have keys : ∀ entry ∈ entries, entry.key ≠ [] := by decide
  have nested : root.Nested := by decide +kernel
  have inData : root.stop ≤ (Utf8.encode source).length := by decide
  have isGlossed :
      translateEscaped entries (Escape.inAttribute ['\'']) "user".toList = glossed := by
    decide +kernel
  have collected : ⟨.attribute, 9, 15⟩ ∈ passagesOf true (Utf8.encode source) root := by
    decide +kernel
  obtain ⟨absent, _, _, inTree⟩ := attribute_staysClosed (.inl rfl) noQuote entries
  obtain ⟨result, isResult, standing⟩ := inTree keys source root true "jsx".toList nested inData
  rw [isGlossed] at absent standing
  exact ⟨noQuote, keys, nested, inData, isGlossed, absent, result, isResult,
    standing _ collected rfl 9 15 (by decide) (by decide) (by decide)⟩

end CodeGloss.Gloss
