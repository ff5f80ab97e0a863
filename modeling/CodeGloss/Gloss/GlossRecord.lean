import CodeGloss.Format.Json.Decode
import CodeGloss.Format.Json.Encode
import CodeGloss.Gloss.GlossedCode

/-!
# Glossed code as records

Glossed code is stored as a record, and as the JSON text of one. A stored record
is taken as it stands: it has to have the language, the code, and all fields of
each segment, and the kinds of segments have to be known, but what the other
fields hold is not looked at. What else is missing is filled in, and fields of
other names are passed over.
-/

namespace CodeGloss.Gloss

open Format

/-- A segment as a record holds it. -/
structure SegmentRecord where
  kind : Segment.Kind
  source : Value
  translated : Value
  start : Value
  stop : Value

/-- Glossed code as a record holds it. -/
structure GlossRecord where
  language : Value
  code : Value
  usedFallback : Value
  segments : List SegmentRecord
  stringReplacements : Value
  commentReplacements : Value

/-- Why a value is not the record of glossed code. -/
inductive RecordError where
  | missingField (name : String)
  | unknownKind (kind : Value)
  /-- The code or a segment is no record, or the segments are no list. -/
  | wrongShape (part : String)

def RecordError.message : RecordError → List Char
  | missingField name => Text.quoted name.toList
  | unknownKind kind => kind.display ++ " is not a valid SegmentKind".toList
  | wrongShape part => "the record has unexpected ".toList ++ part.toList

/-! ## Records of glossed code -/

def Segment.toRecord (segment : Segment) : SegmentRecord :=
  { kind := segment.kind
    source := .text segment.source
    translated := .text segment.translated
    start := .int segment.start
    stop := .int segment.stop }

def GlossedCode.toRecord (result : GlossedCode) : GlossRecord :=
  { language := .text result.language
    code := .text result.code
    usedFallback := .bool result.usedFallback
    segments := result.segments.map Segment.toRecord
    stringReplacements := .int result.stringReplacements
    commentReplacements := .int result.commentReplacements }

/-- A segment is known by its record. -/
theorem Segment.toRecord_injective {first second : Segment}
    (same : first.toRecord = second.toRecord) : first = second := by
  cases first
  cases second
  simpa [toRecord] using same

/-- Glossed code is known by its record. -/
theorem GlossedCode.toRecord_injective {first second : GlossedCode}
    (same : first.toRecord = second.toRecord) : first = second := by
  cases first
  cases second
  simp only [toRecord, GlossRecord.mk.injEq, Value.text.injEq, Value.bool.injEq,
    Value.int.injEq] at same
  obtain ⟨language, code, usedFallback, segments, strings, comments⟩ := same
  simp only [mk.injEq]
  exact ⟨language, code, usedFallback,
    (List.map_inj_right fun _ _ => Segment.toRecord_injective).1 segments, strings, comments⟩

/-! ## Writing -/

def SegmentRecord.toValue (segment : SegmentRecord) : Value :=
  .record
    [("kind".toList, .text segment.kind.tag.toList), ("original".toList, segment.source),
     ("translated".toList, segment.translated), ("start".toList, segment.start),
     ("end".toList, segment.stop)]

def GlossRecord.toValue (result : GlossRecord) : Value :=
  .record
    [("language".toList, result.language), ("code".toList, result.code),
     ("used_fallback".toList, result.usedFallback),
     ("segments".toList, .list (result.segments.map SegmentRecord.toValue)),
     ("string_replacements".toList, result.stringReplacements),
     ("comment_replacements".toList, result.commentReplacements)]

/-- The JSON text of a record. -/
def GlossRecord.toJson (layout : Json.Layout) (result : GlossRecord) : List Char :=
  Json.encode layout result.toValue

/-- The JSON text of glossed code. -/
def GlossedCode.toJson (layout : Json.Layout) (result : GlossedCode) : List Char :=
  result.toRecord.toJson layout

/-! ## Reading -/

/-- The value of a field that has to be there. -/
def required (fields : Fields) (name : String) : Except RecordError Value :=
  match fields.get? name with
  | some value => .ok value
  | none => .error (.missingField name)

/-- The kind that a value names. -/
def kindOf (value : Value) : Except RecordError Segment.Kind :=
  match value.text?.bind fun tag => Segment.Kind.ofTag? (String.ofList tag) with
  | some kind => .ok kind
  | none => .error (.unknownKind value)

/-- The items among which segments are looked for. Text and a record without
content count as a list without items. -/
def segmentItems : Value → Except RecordError (List Value)
  | .list items => .ok items
  | .record [] | .text [] => .ok []
  | _ => .error (.wrongShape "segments")

/-- Read a segment. Its fields are looked for in their order. -/
def SegmentRecord.ofValue : Value → Except RecordError SegmentRecord
  | .record fields => do
      let kind ← kindOf (← required fields "kind")
      let source ← required fields "original"
      let translated ← required fields "translated"
      let start ← required fields "start"
      let stop ← required fields "end"
      return ⟨kind, source, translated, start, stop⟩
  | _ => .error (.wrongShape "segments")

/-- Read the fields of a record. -/
def GlossRecord.ofFields (fields : Fields) : Except RecordError GlossRecord := do
  let language ← required fields "language"
  let code ← required fields "code"
  let items ← segmentItems ((fields.get? "segments").getD (.list []))
  return {
    language
    code
    usedFallback := (fields.get? "used_fallback").getD (.bool false)
    segments := ← items.mapM SegmentRecord.ofValue
    stringReplacements := (fields.get? "string_replacements").getD (.int 0)
    commentReplacements := (fields.get? "comment_replacements").getD (.int 0) }

/-- Why a text is not the JSON text of a record. -/
inductive RecordTextError where
  | json (error : Json.DecodeError)
  | record (error : RecordError)

/-- Read the JSON text of a record. -/
def GlossRecord.ofJson (text : List Char) : Except RecordTextError GlossRecord := do
  let value ← (Json.decode text).mapError .json
  match value with
  | .record fields => (GlossRecord.ofFields fields).mapError .record
  | _ => .error (.record (.wrongShape "fields"))

@[simp]
theorem kindOf_tag (kind : Segment.Kind) : kindOf (.text kind.tag.toList) = .ok kind := by
  simp [kindOf]

/-- Reading a segment undoes writing it. -/
@[simp]
theorem SegmentRecord.ofValue_toValue (segment : SegmentRecord) :
    SegmentRecord.ofValue segment.toValue = .ok segment := by
  simp [toValue, ofValue, required, Fields.get?, List.lookup_cons, bind, Except.bind, pure, Except.pure]

end CodeGloss.Gloss
