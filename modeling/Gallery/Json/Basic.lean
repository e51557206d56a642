/-!
# JSON values

A number keeps the text in which it was written, so that whole numbers of any
size and decimal fractions are both exact.  An object keeps its members in the
order written, repeated names included.  A text with half of a surrogate pair in
it is well written and yet no string: it is unreadable, and so is an object with
such a name.  Every decoder refuses what is unreadable, so that it does no harm
only where nobody looks.
-/

namespace Gallery

inductive Json
  | null
  | bool (value : Bool)
  | number (literal : String)
  | string (text : String)
  | array (elements : List Json)
  | object (members : List (String × Json))
  | unreadable

namespace Json

def ofInt (n : Int) : Json :=
  .number (toString n)

def ofNat (n : Nat) : Json :=
  .number (toString n)

/-- Absent values are written as null. -/
def ofOption {α : Type} (encode : α → Json) : Option α → Json
  | some value => encode value
  | none => .null

def ofList {α : Type} (encode : α → Json) (values : List α) : Json :=
  .array (values.map encode)

/-- An object whose names are strings where they are readable. -/
def ofMembers (members : List (Option String × Json)) : Json :=
  match members.mapM fun (name, value) => name.map (·, value) with
  | some members => .object members
  | none => .unreadable

/-- The first member of an object with the given name. -/
def member? (value : Json) (name : String) : Option Json :=
  match value with
  | .object members => (members.find? (·.1 == name)).map (·.2)
  | _ => none

def text? : Json → Option String
  | .string text => some text
  | _ => none

def bool? : Json → Option Bool
  | .bool value => some value
  | _ => none

def elements? : Json → Option (List Json)
  | .array elements => some elements
  | _ => none

def members? : Json → Option (List (String × Json))
  | .object members => some members
  | _ => none

/-- The number whose decimal digits are given; nothing if one is no digit. -/
def digits? (digits : List Char) : Option Nat :=
  if digits.all Char.isDigit && !digits.isEmpty then
    some (digits.foldl (fun value c => 10 * value + (c.toNat - '0'.toNat)) 0)
  else none

/-- A number written without fraction and exponent.  Minus zero is a fraction,
since no whole number is written so. -/
def int? : Json → Option Int
  | .number literal =>
    match literal.toList with
    | ['-', '0'] => none
    | '-' :: digits => (digits? digits).map fun n => -(n : Int)
    | digits => (digits? digits).map fun n => (n : Int)
  | _ => none

def nat? (value : Json) : Option Nat :=
  value.int?.bind fun n => if 0 ≤ n then some n.toNat else none

end Json

end Gallery
