/-!
# Slices

The part of a list between two places. A range that reaches beyond the end reads
short, and a range whose places are out of order reads nothing.
-/

namespace CodeGloss.Text

/-- The items from place `start` up to place `stop`. -/
def slice {α : Type} (items : List α) (start stop : Nat) : List α :=
  (items.take stop).drop start

theorem length_slice {α : Type} (items : List α) (start stop : Nat) :
    (slice items start stop).length = min stop items.length - start := by
  simp [slice]

theorem slice_eq_nil_of_le {α : Type} (items : List α) {start stop : Nat} (order : stop ≤ start) :
    slice items start stop = [] := by
  apply List.eq_nil_of_length_eq_zero
  rw [length_slice]
  omega

end CodeGloss.Text
