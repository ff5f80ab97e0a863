import CodeGloss.Proofs.Format.Scalars

/-!
# Reading what was written

A value without bytes and fractions, whose whole numbers have few enough digits and
whose records name each field once, is read back from its JSON text. The layout does
not matter as long as it indents with blanks.

The readers take fuel. Twice the length of the written text is enough for a value,
and a reader of items or fields needs one more.
-/

namespace CodeGloss.Format.Json

/-- Values of which the text tells everything. -/
inductive Readable : Value → Prop
  | null : Readable .null
  | bool (truth : Bool) : Readable (.bool truth)
  | int {number : Int} (short : (Nat.toDigits 10 number.natAbs).length ≤ digitLimit) :
      Readable (.int number)
  | text (content : List Char) : Readable (.text content)
  | list {items : List Value} (each : ∀ item ∈ items, Readable item) : Readable (.list items)
  | record {fields : Fields} (named : (fields.map Prod.fst).Nodup)
      (each : ∀ field ∈ fields, Readable field.2) : Readable (.record fields)

/-! ## Blanks and breaks -/

/-- The layout has nothing but blanks around items. -/
def Layout.IsBlank : Layout → Prop
  | compact => True
  | indented indent => ∀ c ∈ indent, isSpace c = true

section Blanks

variable {layout : Layout} {c : Char}

theorem skipSpace_cons (noSpace : isSpace c = false) (rest : List Char) :
    skipSpace (c :: rest) = c :: rest := by
  simp [skipSpace, noSpace]

theorem skipSpace_append {blanks : List Char} (areBlank : ∀ c ∈ blanks, isSpace c = true)
    (rest : List Char) : skipSpace (blanks ++ rest) = skipSpace rest :=
  List.dropWhile_append_of_pos areBlank

theorem Layout.IsBlank.isSpace_of_mem_break (blank : layout.IsBlank) (depth : Nat) :
    ∀ c ∈ layout.break depth, isSpace c = true := by
  cases layout with
  | compact => nofun
  | indented indent =>
      intro c member
      rcases List.mem_cons.mp member with rfl | inIndent
      · rfl
      · rcases List.mem_flatten.mp inIndent with ⟨copy, isCopy, inCopy⟩
        rw [List.eq_of_mem_replicate isCopy] at inCopy
        exact blank c inCopy

theorem Layout.IsBlank.skipSpace_break (blank : layout.IsBlank) (depth : Nat)
    (noSpace : isSpace c = false) (rest : List Char) :
    skipSpace (layout.break depth ++ c :: rest) = c :: rest := by
  rw [skipSpace_append (blank.isSpace_of_mem_break depth), skipSpace_cons noSpace]

/-- Behind a comma only blanks stand before the next item. -/
theorem Layout.IsBlank.exists_comma (blank : layout.IsBlank) (depth : Nat) :
    ∃ blanks, layout.comma ++ layout.break depth = ',' :: blanks
      ∧ ∀ c ∈ blanks, isSpace c = true := by
  cases layout with
  | compact => exact ⟨[' '], rfl, List.forall_mem_singleton.mpr rfl⟩
  | indented indent => exact ⟨_, rfl, blank.isSpace_of_mem_break depth⟩

theorem endsNumber_break (layout : Layout) (depth : Nat) {rest : List Char}
    (ends : EndsNumber rest) : EndsNumber (layout.break depth ++ rest) := by
  cases layout with
  | compact => exact ends
  | indented indent => exact endsNumber_cons rfl (by decide)

end Blanks

/-! ## How values start -/

/-- A character with which the text of a value may start. -/
def StartsValue (c : Char) : Prop :=
  c.isDigit = true ∨ c ∈ ['-', 'n', 't', 'f', '"', '[', '\x7b']

instance (c : Char) : Decidable (StartsValue c) :=
  inferInstanceAs (Decidable (_ ∨ _))

theorem ne_of_isDigit {c other : Char} (isDigit : c.isDigit = true)
    (noDigit : other.isDigit = false) : c ≠ other := by
  rintro rfl
  rw [isDigit] at noDigit
  contradiction

theorem StartsValue.ne {c other : Char} (starts : StartsValue c) (never : ¬ StartsValue other) :
    c ≠ other := by
  rintro rfl
  exact never starts

theorem StartsValue.noSpace {c : Char} (starts : StartsValue c) : isSpace c = false := by
  have noBlank : c ≠ ' ' ∧ c ≠ '\t' ∧ c ≠ '\n' ∧ c ≠ '\r' :=
    ⟨starts.ne (by decide), starts.ne (by decide), starts.ne (by decide), starts.ne (by decide)⟩
  simp [isSpace, noBlank]

/-- The text starts with a digit, or with a minus and a digit. -/
def StartsNumber (text : List Char) : Prop :=
  (∃ c rest, text = c :: rest ∧ c.isDigit = true)
    ∨ ∃ c rest, text = '-' :: c :: rest ∧ c.isDigit = true

theorem startsNumber_toString (number : Int) (rest : List Char) :
    StartsNumber ((toString number).toList ++ rest) := by
  rcases exists_toDigits_eq_cons number.natAbs with ⟨c, digits, isWritten, isDigit, _⟩
  rw [toList_toString_int, isWritten]
  split
  · exact .inr ⟨c, digits ++ rest, rfl, isDigit⟩
  · exact .inl ⟨c, digits ++ rest, rfl, isDigit⟩

theorem Readable.exists_start {value : Value} (readable : Readable value) (layout : Layout)
    (depth : Nat) : ∃ c rest, encodeAt layout depth value = c :: rest ∧ StartsValue c := by
  cases readable with
  | null => exact ⟨'n', _, rfl, by decide⟩
  | bool truth =>
      cases truth with
      | false => exact ⟨'f', _, rfl, by decide⟩
      | true => exact ⟨'t', _, rfl, by decide⟩
  | @int number short =>
      have starts := startsNumber_toString number []
      rw [List.append_nil] at starts
      rcases starts with ⟨c, rest, isWritten, isDigit⟩ | ⟨c, rest, isWritten, _⟩
      · exact ⟨c, rest, isWritten, .inl isDigit⟩
      · exact ⟨'-', c :: rest, isWritten, by decide⟩
  | text content => exact ⟨'"', _, rfl, by decide⟩
  | @list items each =>
      cases items with
      | nil => exact ⟨'[', _, rfl, by decide⟩
      | cons item items => exact ⟨'[', _, rfl, by decide⟩
  | @record fields named each =>
      cases fields with
      | nil => exact ⟨'\x7b', _, rfl, by decide⟩
      | cons field fields => exact ⟨'\x7b', _, rfl, by decide⟩

theorem Readable.length_pos {value : Value} (readable : Readable value) (layout : Layout)
    (depth : Nat) : 0 < (encodeAt layout depth value).length := by
  rcases readable.exists_start layout depth with ⟨c, rest, isWritten, _⟩
  rw [isWritten]
  exact Nat.succ_pos _

/-- Behind blanks the reader comes to the value. -/
theorem Readable.skipSpace_encodeAt {value : Value} (readable : Readable value) (layout : Layout)
    (depth : Nat) (rest : List Char) :
    skipSpace (encodeAt layout depth value ++ rest) = encodeAt layout depth value ++ rest := by
  rcases readable.exists_start layout depth with ⟨c, more, isWritten, starts⟩
  rw [isWritten, List.cons_append, skipSpace_cons starts.noSpace]

/-! ## Single values -/

/-- Whatever stands behind it, unless it goes on with a number, the value is read from
what was written for it. -/
def ReadsBack (layout : Layout) (value : Value) : Prop :=
  ∀ depth fuel rest, 2 * (encodeAt layout depth value).length ≤ fuel → EndsNumber rest →
    readValue fuel none (encodeAt layout depth value ++ rest) = .ok (value, rest)

section Single

variable {layout : Layout}

theorem readValue_of_readWord? {fuel : Nat} {c : Char} {text rest : List Char} {value : Value}
    (noOpener : c ≠ '"' ∧ c ≠ '[' ∧ c ≠ '\x7b')
    (reads : readWord? (c :: text) = some (value, rest)) :
    readValue (fuel + 1) none (c :: text) = .ok (value, rest) := by
  simp [readValue, noOpener, reads]

theorem readsBack_null : ReadsBack layout .null := by
  intro depth fuel rest enough _
  cases fuel with
  | zero => contradiction
  | succ fuel => exact readValue_of_readWord? (by decide) rfl

theorem readsBack_bool (truth : Bool) : ReadsBack layout (.bool truth) := by
  intro depth fuel rest enough _
  cases truth with
  | false =>
      cases fuel with
      | zero => contradiction
      | succ fuel => exact readValue_of_readWord? (by decide) rfl
  | true =>
      cases fuel with
      | zero => contradiction
      | succ fuel => exact readValue_of_readWord? (by decide) rfl

theorem StartsNumber.readWord?_eq_none {text : List Char} (starts : StartsNumber text) :
    readWord? text = none := by
  rcases starts with ⟨c, rest, rfl, isDigit⟩ | ⟨c, rest, rfl, isDigit⟩
  · have noWord : 'n' ≠ c ∧ 't' ≠ c ∧ 'f' ≠ c ∧ 'N' ≠ c ∧ 'I' ≠ c ∧ '-' ≠ c := by
      refine ⟨?_, ?_, ?_, ?_, ?_, ?_⟩ <;> exact (ne_of_isDigit isDigit (by decide)).symm
    simp [readWord?, words, noWord]
  · have noWord : 'I' ≠ c := (ne_of_isDigit isDigit (by decide)).symm
    simp [readWord?, words, noWord]

theorem StartsNumber.readValue_eq {text : List Char} (starts : StartsNumber text) (fuel : Nat) :
    readValue (fuel + 1) none text = readNumber text := by
  have noWord := starts.readWord?_eq_none
  rcases starts with ⟨c, rest, rfl, isDigit⟩ | ⟨c, rest, rfl, _⟩
  · have noOpener : c ≠ '"' ∧ c ≠ '[' ∧ c ≠ '\x7b' :=
      ⟨ne_of_isDigit isDigit rfl, ne_of_isDigit isDigit rfl, ne_of_isDigit isDigit rfl⟩
    simp [readValue, noOpener, noWord]
  · simp [readValue, noWord]

theorem readsBack_int {number : Int}
    (short : (Nat.toDigits 10 number.natAbs).length ≤ digitLimit) :
    ReadsBack layout (.int number) := by
  intro depth fuel rest enough ends
  have positive := (Readable.int short).length_pos layout depth
  obtain ⟨fuel, rfl⟩ := Nat.exists_eq_add_of_le' (by omega : 1 ≤ fuel)
  rw [encodeAt, (startsNumber_toString number rest).readValue_eq fuel]
  exact ends.readNumber_written short

theorem readsBack_text (content : List Char) : ReadsBack layout (.text content) := by
  intro depth fuel rest enough _
  cases fuel with
  | zero => simp [encodeAt, encodeText] at enough
  | succ fuel => simp [encodeAt, encodeText, readValue, readString_written, Except.map]

end Single

/-! ## Lists -/

section Lists

variable {layout : Layout} {fuel : Nat} {text rest behind : List Char}

theorem readItems_close {item : Value} (reads : readValue fuel none text = .ok (item, rest))
    (closes : skipSpace rest = ']' :: behind) :
    readItems (fuel + 1) none text = .ok ([item], behind) := by
  simp [readItems, reads, closes, bind, Except.bind]

theorem readItems_comma {item : Value} {items : List Value} {after : List Char}
    (reads : readValue fuel none text = .ok (item, rest)) (continues : skipSpace rest = ',' :: behind)
    (readsMore : readItems fuel none (skipSpace behind) = .ok (items, after)) :
    readItems (fuel + 1) none text = .ok (item :: items, after) := by
  simp [readItems, reads, continues, readsMore, bind, Except.bind]

theorem readValue_list {items : List Value} (opens : skipSpace rest = text)
    (noCloser : text.head? ≠ some ']') (reads : readItems fuel none text = .ok (items, behind)) :
    readValue (fuel + 1) none ('[' :: rest) = .ok (.list items, behind) := by
  rw [readValue, enter?, opens]
  dsimp only
  split
  · contradiction
  · rw [reads]
    rfl

theorem Readable.exists_start_items {item : Value} (readable : Readable item) (layout : Layout)
    (depth : Nat) (items : List Value) :
    ∃ c rest, encodeItems layout depth (item :: items) = c :: rest ∧ StartsValue c := by
  rcases readable.exists_start layout depth with ⟨c, rest, isWritten, starts⟩
  cases items with
  | nil => exact ⟨c, rest, isWritten, starts⟩
  | cons next more =>
      refine ⟨c, rest ++ (layout.comma ++ (layout.break depth
        ++ encodeItems layout depth (next :: more))), ?_, starts⟩
      rw [encodeItems, isWritten]
      simp only [List.append_assoc, List.cons_append]

theorem Layout.IsBlank.exists_encodeItems_cons (blank : layout.IsBlank) (depth : Nat)
    (item next : Value) (more : List Value) :
    ∃ blanks, (∀ c ∈ blanks, isSpace c = true)
      ∧ encodeItems layout depth (item :: next :: more) =
        encodeAt layout depth item
          ++ (',' :: (blanks ++ encodeItems layout depth (next :: more))) := by
  rcases blank.exists_comma depth with ⟨blanks, isComma, areBlank⟩
  refine ⟨blanks, areBlank, ?_⟩
  rw [encodeItems, List.append_assoc (encodeAt layout depth item), isComma, List.append_assoc,
    List.cons_append]

/-- The items of a list are read from what was written for them, up to the bracket. -/
theorem readItems_encodeItems (blank : layout.IsBlank) {items : List Value} (nonempty : items ≠ [])
    (readable : ∀ item ∈ items, Readable item) (readsBack : ∀ item ∈ items, ReadsBack layout item)
    (depth outer : Nat) (enough : 2 * (encodeItems layout depth items).length + 1 ≤ fuel)
    (behind : List Char) :
    readItems fuel none (encodeItems layout depth items ++ (layout.break outer ++ ']' :: behind)) =
      .ok (items, behind) := by
  induction items generalizing fuel with
  | nil => contradiction
  | cons item items ih =>
      rcases List.forall_mem_cons.mp readable with ⟨_, areReadable⟩
      rcases List.forall_mem_cons.mp readsBack with ⟨itemReads, itemsRead⟩
      obtain ⟨fuel, rfl⟩ := Nat.exists_eq_add_of_le' (Nat.le_of_add_left_le enough)
      cases items with
      | nil =>
          rw [encodeItems] at enough ⊢
          apply readItems_close
          · apply itemReads depth fuel _ (by omega)
            exact endsNumber_break layout outer (endsNumber_cons rfl (by decide))
          · exact blank.skipSpace_break outer rfl behind
      | cons next more =>
          rcases blank.exists_encodeItems_cons depth item next more with
            ⟨blanks, areBlank, isWritten⟩
          rw [isWritten] at enough ⊢
          simp only [List.length_append, List.length_cons] at enough
          have reads := itemReads depth fuel (',' :: (blanks ++
            encodeItems layout depth (next :: more) ++ (layout.break outer ++ ']' :: behind)))
            (by omega) (endsNumber_cons rfl (by decide))
          have enoughMore : 2 * (encodeItems layout depth (next :: more)).length + 1 ≤ fuel := by
            omega
          have readsMore := ih (List.cons_ne_nil next more) areReadable itemsRead enoughMore
          rw [List.append_assoc, List.cons_append]
          apply readItems_comma reads (skipSpace_cons rfl _)
          rcases (areReadable next List.mem_cons_self).exists_start_items layout depth more with
            ⟨c, after, startsWith, starts⟩
          rw [startsWith, List.cons_append] at readsMore
          rw [List.append_assoc, skipSpace_append areBlank, startsWith, List.cons_append,
            skipSpace_cons starts.noSpace]
          exact readsMore

theorem readsBack_list (blank : layout.IsBlank) {items : List Value}
    (readable : ∀ item ∈ items, Readable item) (readsBack : ∀ item ∈ items, ReadsBack layout item) :
    ReadsBack layout (.list items) := by
  intro depth fuel rest enough _
  have positive := (Readable.list readable).length_pos layout depth
  obtain ⟨fuel, rfl⟩ := Nat.exists_eq_add_of_le' (by omega : 1 ≤ fuel)
  cases items with
  | nil => rfl
  | cons item items =>
      rcases (readable item List.mem_cons_self).exists_start_items layout (depth + 1) items with
        ⟨c, after, startsWith, starts⟩
      simp only [encodeAt, List.length_append, List.length_cons, List.length_nil] at enough
      have enoughInside :
          2 * (encodeItems layout (depth + 1) (item :: items)).length + 1 ≤ fuel := by
        omega
      have reads := readItems_encodeItems blank (List.cons_ne_nil item items) readable readsBack
        (depth + 1) depth enoughInside rest
      rw [encodeAt]
      simp only [List.append_assoc, List.cons_append, List.nil_append]
      refine readValue_list ?_ ?_ reads
      · rw [startsWith, List.cons_append, blank.skipSpace_break (depth + 1) starts.noSpace]
      · rw [startsWith]
        simpa using starts.ne (by decide)

end Lists

/-! ## Records -/

section Records

variable {layout : Layout} {fuel : Nat} {name text rest behind : List Char} {value : Value}

theorem set_of_not_mem {fields : Fields} (absent : name ∉ fields.map Prod.fst) (value : Value) :
    fields.set name value = fields ++ [(name, value)] := by
  induction fields with
  | nil => rfl
  | cons field fields ih =>
      rw [List.map_cons, List.mem_cons, not_or] at absent
      rw [Fields.set, if_neg (Ne.symm absent.1), ih absent.2, List.cons_append]

theorem foldl_set_append (front : Fields) {fields : Fields}
    (named : ((front ++ fields).map Prod.fst).Nodup) :
    fields.foldl (fun record (name, value) => record.set name value) front = front ++ fields := by
  induction fields generalizing front with
  | nil => simp
  | cons field fields ih =>
      obtain ⟨name, value⟩ := field
      have absent : name ∉ front.map Prod.fst := by
        intro inFront
        rw [List.map_append, List.map_cons] at named
        exact (List.nodup_append.mp named).2.2 name inFront name List.mem_cons_self rfl
      rw [List.foldl_cons]
      dsimp only
      rw [set_of_not_mem absent, ih (front ++ [(name, value)])]
      · rw [List.append_assoc, List.singleton_append]
      · rwa [List.append_assoc, List.singleton_append]

/-- Fields that are named once are kept as they come. -/
theorem lastOfEach_of_nodup {fields : Fields} (named : (fields.map Prod.fst).Nodup) :
    lastOfEach fields = fields :=
  foldl_set_append [] named

theorem readFields_close (name : List Char) (starts : skipSpace text = text)
    (reads : readValue fuel none text = .ok (value, rest)) (closes : skipSpace rest = '\x7d' :: behind) :
    readFields (fuel + 1) none (encodeText name ++ (':' :: ' ' :: text)) =
      .ok ([(name, value)], behind) := by
  have afterColon : skipSpace (' ' :: text) = text := starts
  simp [encodeText, readFields, readString_written, skipSpace_cons, isSpace, afterColon, reads,
    closes, bind, Except.bind]

theorem readFields_comma (name : List Char) {fields : Fields} {after : List Char}
    (starts : skipSpace text = text) (reads : readValue fuel none text = .ok (value, rest))
    (continues : skipSpace rest = ',' :: behind)
    (readsMore : readFields fuel none (skipSpace behind) = .ok (fields, after)) :
    readFields (fuel + 1) none (encodeText name ++ (':' :: ' ' :: text)) =
      .ok ((name, value) :: fields, after) := by
  have afterColon : skipSpace (' ' :: text) = text := starts
  simp [encodeText, readFields, readString_written, skipSpace_cons, isSpace, afterColon, reads,
    continues, readsMore, bind, Except.bind]

theorem readValue_record {fields : Fields} (named : (fields.map Prod.fst).Nodup)
    (opens : skipSpace rest = text) (noCloser : text.head? ≠ some '\x7d')
    (reads : readFields fuel none text = .ok (fields, behind)) :
    readValue (fuel + 1) none ('\x7b' :: rest) = .ok (.record fields, behind) := by
  rw [readValue, enter?, opens]
  dsimp only
  split
  · contradiction
  · rw [reads]
    simp [Except.map, lastOfEach_of_nodup named]

theorem exists_encodeFields_eq_cons (layout : Layout) (depth : Nat) (field : List Char × Value)
    (fields : Fields) : ∃ rest, encodeFields layout depth (field :: fields) = '"' :: rest := by
  cases fields with
  | nil => exact ⟨_, rfl⟩
  | cons next more => exact ⟨_, rfl⟩

theorem Layout.IsBlank.exists_encodeFields_cons (blank : layout.IsBlank) (depth : Nat)
    (name : List Char) (value : Value) (next : List Char × Value) (more : Fields) :
    ∃ blanks, (∀ c ∈ blanks, isSpace c = true)
      ∧ encodeFields layout depth ((name, value) :: next :: more) =
        encodeText name ++ (':' :: ' ' :: (encodeAt layout depth value
          ++ (',' :: (blanks ++ encodeFields layout depth (next :: more))))) := by
  rcases blank.exists_comma depth with ⟨blanks, isComma, areBlank⟩
  refine ⟨blanks, areBlank, ?_⟩
  rw [encodeFields, List.append_assoc (encodeText name ++ _ ++ _), isComma]
  simp only [List.append_assoc, List.cons_append, List.nil_append]

/-- The fields of a record are read from what was written for them, up to the brace. -/
theorem readFields_encodeFields (blank : layout.IsBlank) {fields : Fields} (nonempty : fields ≠ [])
    (readable : ∀ field ∈ fields, Readable field.2)
    (readsBack : ∀ field ∈ fields, ReadsBack layout field.2) (depth outer : Nat)
    (enough : 2 * (encodeFields layout depth fields).length + 1 ≤ fuel) (behind : List Char) :
    readFields fuel none
        (encodeFields layout depth fields ++ (layout.break outer ++ '\x7d' :: behind)) =
      .ok (fields, behind) := by
  induction fields generalizing fuel with
  | nil => contradiction
  | cons field fields ih =>
      obtain ⟨name, value⟩ := field
      rcases List.forall_mem_cons.mp readable with ⟨isReadable, areReadable⟩
      rcases List.forall_mem_cons.mp readsBack with ⟨valueReads, fieldsRead⟩
      obtain ⟨fuel, rfl⟩ := Nat.exists_eq_add_of_le' (Nat.le_of_add_left_le enough)
      dsimp only at isReadable valueReads
      cases fields with
      | nil =>
          rw [encodeFields] at enough ⊢
          simp only [List.length_append] at enough
          simp only [List.append_assoc, List.cons_append, List.nil_append]
          apply readFields_close name (isReadable.skipSpace_encodeAt layout depth _)
          · apply valueReads depth fuel _ (by omega)
            exact endsNumber_break layout outer (endsNumber_cons rfl (by decide))
          · exact blank.skipSpace_break outer rfl behind
      | cons next more =>
          rcases blank.exists_encodeFields_cons depth name value next more with
            ⟨blanks, areBlank, isWritten⟩
          rw [isWritten] at enough ⊢
          simp only [List.length_append, List.length_cons] at enough
          have reads := valueReads depth fuel (',' :: (blanks ++
            encodeFields layout depth (next :: more) ++ (layout.break outer ++ '\x7d' :: behind)))
            (by omega) (endsNumber_cons rfl (by decide))
          have enoughMore : 2 * (encodeFields layout depth (next :: more)).length + 1 ≤ fuel := by
            omega
          have readsMore := ih (List.cons_ne_nil next more) areReadable fieldsRead enoughMore
          simp only [List.append_assoc, List.cons_append] at reads ⊢
          apply readFields_comma name (isReadable.skipSpace_encodeAt layout depth _) reads
            (skipSpace_cons rfl _)
          rcases exists_encodeFields_eq_cons layout depth next more with ⟨after, startsWith⟩
          rw [startsWith, List.cons_append] at readsMore
          rw [skipSpace_append areBlank, startsWith, List.cons_append, skipSpace_cons rfl]
          exact readsMore

theorem readsBack_record (blank : layout.IsBlank) {fields : Fields}
    (named : (fields.map Prod.fst).Nodup) (readable : ∀ field ∈ fields, Readable field.2)
    (readsBack : ∀ field ∈ fields, ReadsBack layout field.2) :
    ReadsBack layout (.record fields) := by
  intro depth fuel rest enough _
  have positive := (Readable.record named readable).length_pos layout depth
  obtain ⟨fuel, rfl⟩ := Nat.exists_eq_add_of_le' (by omega : 1 ≤ fuel)
  cases fields with
  | nil => rfl
  | cons field fields =>
      rcases exists_encodeFields_eq_cons layout (depth + 1) field fields with ⟨after, startsWith⟩
      simp only [encodeAt, List.length_append, List.length_cons, List.length_nil] at enough
      have enoughInside :
          2 * (encodeFields layout (depth + 1) (field :: fields)).length + 1 ≤ fuel := by
        omega
      have reads := readFields_encodeFields blank (List.cons_ne_nil field fields) readable readsBack
        (depth + 1) depth enoughInside rest
      rw [encodeAt]
      simp only [List.append_assoc, List.cons_append, List.nil_append]
      refine readValue_record named ?_ ?_ reads
      · rw [startsWith, List.cons_append, blank.skipSpace_break (depth + 1) rfl]
      · rw [startsWith]
        simp

end Records

/-! ## Documents -/

theorem Readable.readsBack {layout : Layout} (blank : layout.IsBlank) {value : Value}
    (readable : Readable value) : ReadsBack layout value := by
  induction readable with
  | null => exact readsBack_null
  | bool truth => exact readsBack_bool truth
  | int short => exact readsBack_int short
  | text content => exact readsBack_text content
  | list each ih => exact readsBack_list blank each ih
  | record named each ih => exact readsBack_record blank named each ih

/-- In every layout of blanks a value stands for itself. -/
theorem Readable.decode_encode {layout : Layout} (blank : layout.IsBlank) {value : Value}
    (readable : Readable value) : decode (encode layout value) = .ok value := by
  have starts := readable.skipSpace_encodeAt layout 0 []
  have reads := readable.readsBack blank 0 (2 * (encodeAt layout 0 value).length + 2) []
    (Nat.le_add_right _ 2) endsNumber_nil
  rw [List.append_nil] at starts reads
  have document : readDocument none (encode layout value) = .ok value := by
    rw [readDocument, encode, starts, reads]
    rfl
  have noMark : (encode layout value).head? ≠ some '\ufeff' := by
    rcases readable.exists_start layout 0 with ⟨c, rest, startsWith, startsValue⟩
    rw [encode, startsWith]
    simpa using startsValue.ne (by decide)
  rw [decode, decodeWithin, if_neg noMark, document]

end CodeGloss.Format.Json
