import CodeGloss.Text.Slice

/-!
# Slices of a text put together

A slice of a text that is written as parts is one of the parts, and a text behind
a place is a slice and the text behind that.
-/

namespace CodeGloss.Text

variable {α : Type}

theorem slice_of_append {before middle after : List α} {start stop : Nat}
    (starts : start = before.length) (stops : stop = before.length + middle.length) :
    slice (before ++ (middle ++ after)) start stop = middle := by
  rw [slice, starts, stops, ← List.length_append, ← List.append_assoc, List.take_left,
    List.drop_left]

theorem drop_eq_slice_append (items : List α) {start stop : Nat} (order : start ≤ stop) :
    items.drop start = slice items start stop ++ items.drop stop := by
  have parts : items.drop start = (items.take stop ++ items.drop stop).drop start := by
    rw [List.take_append_drop]
  rw [parts, List.drop_append, slice, List.length_take]
  by_cases inText : stop ≤ items.length
  · rw [Nat.min_eq_left inText, Nat.sub_eq_zero_of_le order, List.drop_zero]
  · rw [List.drop_eq_nil_of_le (by omega : items.length ≤ stop), List.drop_nil]

theorem getElem?_slice (items : List α) {start stop index : Nat} (inside : start + index < stop) :
    (slice items start stop)[index]? = items[start + index]? := by
  rw [slice, List.getElem?_drop, List.getElem?_take_of_lt inside]

end CodeGloss.Text
