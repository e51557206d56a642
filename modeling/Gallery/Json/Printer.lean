import Gallery.Json.Basic

/-!
# Writing JSON

`render` writes a value on one line; `pretty` puts every element and member on
a line of its own, indented by two spaces for each level.  What is unreadable is
written as null.
-/

namespace Gallery.Json

/-- Four hexadecimal digits of a code below 65536. -/
def unitDigits (code : Nat) : List Char :=
  let digits := Nat.toDigits 16 code
  List.replicate (4 - digits.length) '0' ++ digits

def escapedChar (c : Char) : List Char :=
  if c = '"' then ['\\', '"']
  else if c = '\\' then ['\\', '\\']
  else if c = '\n' then ['\\', 'n']
  else if c = '\r' then ['\\', 'r']
  else if c = '\t' then ['\\', 't']
  else if c = '\x08' then ['\\', 'b']
  else if c = '\x0c' then ['\\', 'f']
  else if c < ' ' then ['\\', 'u'] ++ unitDigits c.toNat
  else [c]

def renderString (text : String) : String :=
  String.ofList ('"' :: text.toList.flatMap escapedChar ++ ['"'])

mutual

def render : Json → String
  | .null | .unreadable => "null"
  | .bool true => "true"
  | .bool false => "false"
  | .number literal => literal
  | .string text => renderString text
  | .array elements => "[" ++ ",".intercalate (renderElements elements) ++ "]"
  | .object members => "\x7b" ++ ",".intercalate (renderMembers members) ++ "\x7d"

def renderElements : List Json → List String
  | [] => []
  | value :: rest => render value :: renderElements rest

def renderMembers : List (String × Json) → List String
  | [] => []
  | (name, value) :: rest =>
    (renderString name ++ ":" ++ render value) :: renderMembers rest

end

def indentation (level : Nat) : String :=
  String.ofList ('\n' :: List.replicate (2 * level) ' ')

/-- The lines of a bracket that is not empty. -/
def block (left right : String) (level : Nat) (lines : List String) : String :=
  left ++ indentation (level + 1) ++
    ("," ++ indentation (level + 1)).intercalate lines ++ indentation level ++ right

mutual

def prettyAt (level : Nat) : Json → String
  | .array [] => "[]"
  | .object [] => "\x7b\x7d"
  | .array (value :: rest) =>
    block "[" "]" level (prettyElements (level + 1) (value :: rest))
  | .object (member :: rest) =>
    block "\x7b" "\x7d" level (prettyMembers (level + 1) (member :: rest))
  | .null | .unreadable => "null"
  | .bool true => "true"
  | .bool false => "false"
  | .number literal => literal
  | .string text => renderString text

def prettyElements (level : Nat) : List Json → List String
  | [] => []
  | value :: rest => prettyAt level value :: prettyElements level rest

def prettyMembers (level : Nat) : List (String × Json) → List String
  | [] => []
  | (name, value) :: rest =>
    (renderString name ++ ": " ++ prettyAt level value) :: prettyMembers level rest

end

def pretty (value : Json) : String :=
  prettyAt 0 value

end Gallery.Json
