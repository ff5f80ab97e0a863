import CodeGloss.Proofs.Gloss.Escaping
import CodeGloss.Proofs.Glossary.Dictionary
import CodeGloss.Proofs.Glossary.Reading
import CodeGloss.Proofs.Text.Replace

/-!
# Insertions into a template

The fixed text of a template goes up to a backtick or to the opener of a substitution.
The escape protects both within an insertion, but it leaves the backslashes as they
are, and it does not look beyond the ends of the insertion. An insertion without a
backslash leads a reader home if nothing at its ends can join with its surroundings: a
dollar sign with a brace, or a backslash with the one that the escape puts first.
-/

namespace CodeGloss.Gloss.Escape

open Glossary Text

/-- Whether a text can stand in a template: read with a backslash taking the next
character along, no backtick and no opener of a substitution occurs, and no backslash is
left at the end. -/
def isChunk : List Char → Bool
  | [] => true
  | c :: rest =>
      if c = '\\' then
        match rest with
        | [] => false
        | _ :: rest => isChunk rest
      else if c = '\x60' ∨ (c = '$' ∧ rest.head? = some '\x7b') then false
      else isChunk rest

theorem isChunk_backslash (c : Char) (rest : List Char) :
    isChunk ('\\' :: c :: rest) = isChunk rest := by
  simp [isChunk]

theorem isChunk_cons_iff {c : Char} (noBackslash : c ≠ '\\') (rest : List Char) :
    isChunk (c :: rest) = true ↔
      c ≠ '\x60' ∧ (c = '$' → rest.head? ≠ some '\x7b') ∧ isChunk rest = true := by
  by_cases isDollar : c = '$'
  · cases rest <;> simp [isChunk, isDollar]
  · cases rest <;> simp [isChunk, isDollar, noBackslash]

/-- A reader in a template. -/
inductive ChunkReader where
  | plain
  /-- A dollar sign has just been read. -/
  | dollar
  /-- The next character is escaped. -/
  | escaped
  deriving DecidableEq

namespace ChunkReader

def step : ChunkReader → Char → Option ChunkReader
  | escaped, _ => some plain
  | reader, c =>
      if c = '\\' then some escaped
      else if c = '\x60' ∨ (c = '\x7b' ∧ reader = dollar) then none
      else some (if c = '$' then dollar else plain)

theorem step_backslash {reader : ChunkReader} (bare : reader ≠ escaped) :
    reader.step '\\' = some escaped := by
  cases reader <;> simp [step] at bare ⊢

theorem mem_step_iff {reader next : ChunkReader} {c : Char} (bare : reader ≠ escaped)
    (noBackslash : c ≠ '\\') :
    next ∈ reader.step c ↔ c ≠ '\x60' ∧ ¬ (c = '\x7b' ∧ reader = dollar)
      ∧ next = if c = '$' then dollar else plain := by
  cases reader <;> simp [step, noBackslash, and_assoc, eq_comm] at bare ⊢

/-- What the reader has still to read, so that it has read a chunk. -/
def Awaits : ChunkReader → List Char → Prop
  | plain, text => isChunk text = true
  | dollar, text => isChunk text = true ∧ text.head? ≠ some '\x7b'
  | escaped, text => ∃ c rest, text = c :: rest ∧ isChunk rest = true

theorem awaits_nil_iff (reader : ChunkReader) : reader.Awaits [] ↔ reader ≠ escaped := by
  cases reader <;> simp [Awaits, isChunk]

theorem awaits_escaped_iff {c : Char} {text : List Char} :
    escaped.Awaits (c :: text) ↔ isChunk text = true := by
  constructor
  · rintro ⟨_, _, same, chunk⟩
    cases same
    exact chunk
  · intro chunk
    exact ⟨c, text, rfl, chunk⟩

theorem isChunk_backslash_iff {text : List Char} :
    isChunk ('\\' :: text) = true ↔ escaped.Awaits text := by
  cases text with
  | nil => simp [isChunk, Awaits]
  | cons c text => rw [isChunk_backslash, awaits_escaped_iff]

theorem awaits_bare_iff {reader : ChunkReader} (bare : reader ≠ escaped) (c : Char)
    (text : List Char) :
    reader.Awaits (c :: text) ↔
      isChunk (c :: text) = true ∧ ¬ (c = '\x7b' ∧ reader = dollar) := by
  cases reader <;> simp [Awaits] at bare ⊢

/-- Behind a bare character the opener of a substitution is not awaited. -/
theorem awaits_behind_iff (c : Char) (text : List Char) :
    (if c = '$' then dollar else plain).Awaits text ↔
      (c = '$' → text.head? ≠ some '\x7b') ∧ isChunk text = true := by
  by_cases isDollar : c = '$'
  · simp [isDollar, Awaits, and_comm]
  · simp [isDollar, Awaits]

/-- One step of the reader takes one character off what it awaits. -/
theorem awaits_cons_iff (reader : ChunkReader) (c : Char) (text : List Char) :
    reader.Awaits (c :: text) ↔ ∃ next ∈ reader.step c, next.Awaits text := by
  by_cases isEscaped : reader = escaped
  · subst isEscaped
    rw [awaits_escaped_iff]
    simp [step, Awaits]
  by_cases backslash : c = '\\'
  · subst backslash
    rw [step_backslash isEscaped]
    cases reader <;> simp [Awaits, isChunk_backslash_iff] at isEscaped ⊢
  · simp only [awaits_bare_iff isEscaped, isChunk_cons_iff backslash,
      mem_step_iff isEscaped backslash, and_assoc, exists_and_left, exists_eq_left,
      awaits_behind_iff]
    constructor
    · rintro ⟨noTick, notBehind, chunk, notHere⟩
      exact ⟨noTick, notHere, notBehind, chunk⟩
    · rintro ⟨noTick, notHere, notBehind, chunk⟩
      exact ⟨noTick, notBehind, chunk, notHere⟩

/-! ## Reading an insertion -/

/-- Where the reader may stand before an insertion without backslashes that does not end
with a dollar sign. -/
def Admits (reader : ChunkReader) (text : List Char) : Prop :=
  '\\' ∉ text ∧ text.getLast? ≠ some '$'
    ∧ match reader with
      | plain => True
      | dollar => text ≠ [] ∧ text.head? ≠ some '\x7b'
      | escaped => text ≠ [] ∧ text.head? ≠ some '\x60' ∧ ¬ ['$', '\x7b'] <+: text

theorem eq_plain_of_admits_nil {reader : ChunkReader} (admits : reader.Admits []) :
    reader = plain := by
  cases reader <;> simp [Admits] at admits ⊢

/-- In plain text a reader may stand before any ending of an insertion. -/
theorem Admits.ending {reader : ChunkReader} {ending text : List Char}
    (admits : reader.Admits text) (suffix : ending <:+ text) : plain.Admits ending :=
  ⟨fun member => admits.1 (suffix.subset member), getLast?_ne_of_suffix suffix admits.2.1, trivial⟩

theorem admits_tick {reader : ChunkReader} {text : List Char}
    (admits : reader.Admits ('\x60' :: text)) :
    ∃ next ∈ ['\\', '\x60'].foldlM step reader, next.Admits text := by
  refine ⟨plain, ?_, admits.ending (List.suffix_cons _ text)⟩
  cases reader with
  | plain => rfl
  | dollar => rfl
  | escaped => exact absurd rfl admits.2.2.2.1

theorem admits_opener {reader : ChunkReader} {text : List Char}
    (admits : reader.Admits (['$', '\x7b'] ++ text)) :
    ∃ next ∈ ['\\', '$', '\x7b'].foldlM step reader, next.Admits text := by
  refine ⟨plain, ?_, admits.ending (List.suffix_append _ text)⟩
  cases reader with
  | plain => rfl
  | dollar => rfl
  | escaped => exact absurd (List.prefix_append _ text) admits.2.2.2.2

theorem admits_keep {reader : ChunkReader} {c : Char} {text : List Char} (noTick : c ≠ '\x60')
    (noOpener : ¬ ['$', '\x7b'] <+: c :: text) (admits : reader.Admits (c :: text)) :
    ∃ next ∈ reader.step c, next.Admits text := by
  have behind := admits.ending (List.suffix_cons c text)
  by_cases isEscaped : reader = escaped
  · exact ⟨plain, by rw [isEscaped]; rfl, behind⟩
  have bare : c ≠ '\\' := by
    rintro rfl
    exact admits.1 List.mem_cons_self
  have notHere : ¬ (c = '\x7b' ∧ reader = dollar) := by
    rintro ⟨rfl, rfl⟩
    exact admits.2.2.2 rfl
  refine ⟨_, (mem_step_iff isEscaped bare).mpr ⟨noTick, notHere, rfl⟩, ?_⟩
  by_cases isDollar : c = '$'
  · subst isDollar
    have nonempty : text ≠ [] := by
      rintro rfl
      exact admits.2.1 rfl
    have notBehind : text.head? ≠ some '\x7b' := by
      intro first
      rcases List.head?_eq_some_iff.mp first with ⟨rest, rfl⟩
      exact noOpener (List.prefix_append ['$', '\x7b'] rest)
    rw [if_pos rfl]
    exact ⟨behind.1, behind.2.1, nonempty, notBehind⟩
  · rw [if_neg isDollar]
    exact behind

/-- From where it may stand, the reader comes home through an escaped text. -/
theorem foldlM_inTemplate {reader : ChunkReader} {text : List Char} (admits : reader.Admits text) :
    (inTemplate text).foldlM step reader = some plain := by
  have escapes : Replaces '\x60' ['\\', '\x60'] ['$', '\x7b'] ['\\', '$', '\x7b'] text
      (inTemplate text) :=
    replaces_replaceAll (by simp) (by simp) (by simp) (by simp) text
  rcases escapes.exists_foldlM admits_tick admits_opener admits_keep admits with
    ⟨last, isLast, atEnd⟩
  rw [Option.mem_def.mp isLast, eq_plain_of_admits_nil atEnd]

end ChunkReader

/-! ## Safe translations -/

/-- The translation has no backslash, and nothing at its ends that could join with its
surroundings. -/
structure SafeInTemplate (translation : List Char) : Prop where
  noBackslash : '\\' ∉ translation
  noTickFirst : translation.head? ≠ some '\x60'
  noBraceFirst : translation.head? ≠ some '\x7b'
  noOpenerFirst : ¬ ['$', '\x7b'] <+: translation
  noDollarLast : translation.getLast? ≠ some '$'

namespace SafeInTemplate

theorem of_sameFrame {text other : List Char} (safe : SafeInTemplate text)
    (same : SameFrame isMark text other) : SafeInTemplate other where
  noBackslash member := safe.noBackslash (same.symm.mem (by decide) member)
  noTickFirst first := safe.noTickFirst (same.symm.head?_of_fixed (by decide) first)
  noBraceFirst first := safe.noBraceFirst (same.symm.head?_of_fixed (by decide) first)
  noOpenerFirst starts := by
    have isFixed : ∀ c ∈ ['$', '\x7b'], isMark c = true :=
      List.forall_mem_cons.mpr ⟨by decide, List.forall_mem_singleton.mpr (by decide)⟩
    exact safe.noOpenerFirst (same.symm.starts_of_fixed isFixed starts)
  noDollarLast last := safe.noDollarLast (same.symm.getLast?_of_fixed (by decide) last)

/-- Whatever stands around it, a safe insertion leads the reader home. -/
theorem leadsHome {text : List Char} (safe : SafeInTemplate text) (nonempty : text ≠ []) :
    LeadsHome ChunkReader.step .plain (inTemplate text) := by
  intro reader
  apply ChunkReader.foldlM_inTemplate
  refine ⟨safe.noBackslash, safe.noDollarLast, ?_⟩
  cases reader with
  | plain => exact trivial
  | dollar => exact ⟨nonempty, safe.noBraceFirst⟩
  | escaped => exact ⟨nonempty, safe.noTickFirst, safe.noOpenerFirst⟩

end SafeInTemplate

/-- The characters by which a reader in a template is steered. -/
def steersTemplate (c : Char) : Bool :=
  c == '\\' || c == '\x60' || c == '$' || c == '\x7b'

theorem isMark_of_steersTemplate (c : Char) (steers : steersTemplate c = true) :
    isMark c = true := by
  simp only [steersTemplate, Bool.or_eq_true, beq_iff_eq] at steers
  rcases steers with ((rfl | rfl) | rfl) | rfl <;> decide

theorem step_of_steersTemplate_eq_false {c : Char} (ordinary : steersTemplate c = false)
    (reader : ChunkReader) : reader.step c = some .plain := by
  simp only [steersTemplate, Bool.or_eq_false_iff, beq_eq_false_iff_ne] at ordinary
  rcases ordinary with ⟨⟨⟨noBackslash, noTick⟩, noDollar⟩, noBrace⟩
  cases reader <;> simp [ChunkReader.step, noBackslash, noTick, noDollar, noBrace]

/-- A dictionary of safe translations turns chunks of a template into chunks, if no key
has a character by which a template is read. -/
theorem isChunk_translateEscaped {terms : List Term} {vocabulary : Vocabulary} {text : List Char}
    (chunk : isChunk text = true)
    (keys : ∀ entry ∈ dictionaryOf terms vocabulary,
      '\\' ∉ entry.key ∧ '\x60' ∉ entry.key ∧ '$' ∉ entry.key ∧ '\x7b' ∉ entry.key)
    (safe : ∀ entry ∈ dictionaryOf terms vocabulary, SafeInTemplate entry.translation) :
    isChunk (translateEscaped (dictionaryOf terms vocabulary) inTemplate text) = true := by
  have keysFree : ∀ entry ∈ dictionaryOf terms vocabulary, entry.key ≠ []
      ∧ ∀ c ∈ entry.key, steersTemplate c = false := by
    intro entry member
    rcases keys entry member with ⟨noBackslash, noTick, noDollar, noBrace⟩
    refine ⟨(ne_nil_of_mem_dictionaryOf member).1, fun c inKey => ?_⟩
    simp [steersTemplate, ne_of_mem_of_not_mem inKey noBackslash,
      ne_of_mem_of_not_mem inKey noTick, ne_of_mem_of_not_mem inKey noDollar,
      ne_of_mem_of_not_mem inKey noBrace]
  have ordinary : ∀ c, steersTemplate c = false → ∀ reader, ChunkReader.step reader c =
      some .plain := fun _ => step_of_steersTemplate_eq_false
  have inserted : ∀ entry ∈ dictionaryOf terms vocabulary, ∀ sample,
      LeadsHome ChunkReader.step .plain (inTemplate (matchCase entry.translation sample)) := by
    intro entry member sample
    have same := sameFrame_matchCase entry.translation sample
    exact ((safe entry member).of_sameFrame same).leadsHome
      (matchCase_ne_nil sample (ne_nil_of_mem_dictionaryOf member).2)
  have awaited : ChunkReader.Awaits .plain
      (translateEscaped (dictionaryOf terms vocabulary) inTemplate text) :=
    (awaits_translateEscaped_iff ChunkReader.awaits_nil_iff ChunkReader.awaits_cons_iff
      isMark_of_steersTemplate ordinary keysFree inserted .plain text).mpr chunk
  exact awaited

/-- A translation with a backtick and an opener within it, at places where a dollar sign
or a backslash stands before it or a brace behind it. -/
theorem isChunk_translateEscaped_seams :
    let entries := dictionaryOf [] [("user".toList, .text "a\x60$\x7bb".toList)]
    let text := "$user\\user\x7b".toList
    isChunk text = true ∧ isChunk (translateEscaped entries inTemplate text) = true := by
  intro entries text
  have only : entries = [⟨"user".toList, "a\x60$\x7bb".toList⟩] := by decide +kernel
  have chunk : isChunk text = true := by decide +kernel
  refine ⟨chunk, isChunk_translateEscaped chunk ?_ ?_⟩
  · change ∀ entry ∈ entries, _
    rw [only, List.forall_mem_singleton]
    decide
  · change ∀ entry ∈ entries, _
    rw [only, List.forall_mem_singleton]
    exact ⟨by decide, by decide, by decide, by decide, by decide⟩

/-- A backslash at the end of a translation is left dangling. -/
theorem not_isChunk_translateEscaped :
    let entries := dictionaryOf [] [("user".toList, .text "c:\\".toList)]
    isChunk "user".toList = true
      ∧ (∀ entry ∈ entries,
        '\\' ∉ entry.key ∧ '\x60' ∉ entry.key ∧ '$' ∉ entry.key ∧ '\x7b' ∉ entry.key)
      ∧ translateEscaped entries inTemplate "user".toList = "c:\\".toList
      ∧ ¬ isChunk (translateEscaped entries inTemplate "user".toList) = true := by
  decide +kernel

end CodeGloss.Gloss.Escape
