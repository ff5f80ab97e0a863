import CodeGloss.Text.Quoted

/-!
# Values of data files

Term collections come from files whose cells are not all text. A value is what
such a file can hold: nothing, a truth value, a number, text, raw bytes, a list
or a record of named fields. An empty value is one that says nothing: null,
false, zero, and text, bytes, lists and records without content.
-/

namespace CodeGloss.Format

/-- The number `digits * 10 ^ exponent`. -/
structure Decimal where
  digits : Int
  exponent : Int
  deriving DecidableEq, Repr

inductive Value where
  | null
  | bool (truth : Bool)
  | int (number : Int)
  | real (number : Decimal)
  /-- Not a number, or an infinity, under the name it is written with. -/
  | nonFinite (name : String)
  | text (content : List Char)
  | bytes (content : List UInt8)
  | list (items : List Value)
  | record (fields : List (List Char × Value))
  deriving Inhabited

namespace Value

/-- Whether the value says nothing. -/
def isEmpty : Value → Bool
  | null => true
  | bool truth => !truth
  | int number => number == 0
  | real number => number.digits == 0
  | nonFinite _ => false
  | text content => content.isEmpty
  | bytes content => content.isEmpty
  | list items => items.isEmpty
  | record fields => fields.isEmpty

/-- The text of a value that is text. -/
def text? : Value → Option (List Char)
  | text content => some content
  | _ => none

/-- The texts among the items of a list; nothing for any other value. -/
def texts : Value → List (List Char)
  | list items => items.filterMap text?
  | _ => []

@[simp]
theorem text?_text (content : List Char) : (text content).text? = some content :=
  rfl

@[simp]
theorem texts_list_map_text (contents : List (List Char)) :
    (list (contents.map text)).texts = contents := by
  induction contents with
  | nil => rfl
  | cons content rest ih =>
      simpa [texts] using ih

mutual

/-- How messages show a value. -/
def display : Value → List Char
  | null => "None".toList
  | bool true => "True".toList
  | bool false => "False".toList
  | int number => (toString number).toList
  | real number => s!"{number.digits}e{number.exponent}".toList
  | nonFinite name => name.toList
  | text content => Text.quoted content
  | bytes content => 'b' :: Text.quoted (content.map fun b => Char.ofNat b.toNat)
  | list items => '[' :: displayItems items ++ [']']
  | record fields => '\x7b' :: displayFields fields ++ ['\x7d']

def displayItems : List Value → List Char
  | [] => []
  | [item] => display item
  | item :: next :: rest => display item ++ ", ".toList ++ displayItems (next :: rest)

def displayFields : List (List Char × Value) → List Char
  | [] => []
  | [(name, value)] => Text.quoted name ++ ": ".toList ++ display value
  | (name, value) :: next :: rest =>
      Text.quoted name ++ ": ".toList ++ display value ++ ", ".toList
        ++ displayFields (next :: rest)

end

end Value

/-- Fields by name, as records hold them. -/
abbrev Fields := List (List Char × Value)

namespace Fields

/-- The value of the field of that name. -/
def get? (fields : Fields) (name : String) : Option Value :=
  fields.lookup name.toList

/-- Set a field. A field that is there keeps its place. -/
def set (name : List Char) (value : Value) : Fields → Fields
  | [] => [(name, value)]
  | (other, old) :: rest =>
      if other = name then (name, value) :: rest else (other, old) :: set name value rest

end Fields

end CodeGloss.Format
