import Gallery.Json.Basic

/-!
# Reading JSON

The strict grammar: one value, blanks around it, nothing after it.  Arrays and
objects may be nested to any depth: those that are open are kept in a list, and
no function calls itself for each of them.  Each loop carries a bound on the
characters that are left, so every function here is total.
-/

namespace Gallery.Json

def skipBlanks (text : List Char) : List Char :=
  text.dropWhile fun c => c == ' ' || c == '\t' || c == '\n' || c == '\r'

def hexDigit? (c : Char) : Option Nat :=
  if c.isDigit then some (c.toNat - '0'.toNat)
  else if 'a' ≤ c ∧ c ≤ 'f' then some (c.toNat - 'a'.toNat + 10)
  else if 'A' ≤ c ∧ c ≤ 'F' then some (c.toNat - 'A'.toNat + 10)
  else none

/-- Four hexadecimal digits and what follows them. -/
def unit? : List Char → Option (Nat × List Char)
  | a :: b :: c :: d :: rest => do
    let a ← hexDigit? a
    let b ← hexDigit? b
    let c ← hexDigit? c
    let d ← hexDigit? d
    some (((a * 16 + b) * 16 + c) * 16 + d, rest)
  | _ => none

def isLeadingSurrogate (unit : Nat) : Bool :=
  0xD800 ≤ unit && unit ≤ 0xDBFF

def isTrailingSurrogate (unit : Nat) : Bool :=
  0xDC00 ≤ unit && unit ≤ 0xDFFF

/-- The other half of a surrogate pair, if it follows. -/
def trailing? : List Char → Option (Nat × List Char)
  | '\\' :: 'u' :: rest =>
    (unit? rest).bind fun (unit, rest) =>
      if isTrailingSurrogate unit then some (unit, rest) else none
  | _ => none

/-- The character after a backslash and u; none where a surrogate stands alone. -/
def escapedUnit? (text : List Char) : Option (Option Char × List Char) := do
  let (unit, rest) ← unit? text
  if isLeadingSurrogate unit then
    match trailing? rest with
    | some (low, rest) =>
      some (some (Char.ofNat (0x10000 + (unit - 0xD800) * 0x400 + (low - 0xDC00))), rest)
    | none => some (none, rest)
  else if isTrailingSurrogate unit then some (none, rest)
  else some (some (Char.ofNat unit), rest)

def escape? : List Char → Option (Option Char × List Char)
  | '"' :: rest => some (some '"', rest)
  | '\\' :: rest => some (some '\\', rest)
  | '/' :: rest => some (some '/', rest)
  | 'b' :: rest => some (some '\x08', rest)
  | 'f' :: rest => some (some '\x0c', rest)
  | 'n' :: rest => some (some '\n', rest)
  | 'r' :: rest => some (some '\r', rest)
  | 't' :: rest => some (some '\t', rest)
  | 'u' :: rest => escapedUnit? rest
  | _ => none

/-- The string up to the closing quote, after the characters already read, which
are given in reverse; none once one of them was unreadable. -/
def stringTail (read : Option (List Char)) :
    Nat → List Char → Option (Option String × List Char)
  | 0, _ => none
  | bound + 1, text =>
    match text with
    | '"' :: rest => some (read.map fun read => String.ofList read.reverse, rest)
    | '\\' :: rest =>
      match escape? rest with
      | some (c, rest) => stringTail (read.bind fun read => c.map (· :: read)) bound rest
      | none => none
    | c :: rest => if c < ' ' then none else stringTail (read.map (c :: ·)) bound rest
    | [] => none

def digitsThen (text : List Char) : List Char × List Char :=
  (text.takeWhile Char.isDigit, text.dropWhile Char.isDigit)

/-- The whole part of a number: zero, or digits that begin with another. -/
def wholePart? (text : List Char) : Option (List Char × List Char) :=
  match digitsThen text with
  | ([], _) => none
  | ('0' :: _ :: _, _) => none
  | (digits, rest) => some (digits, rest)

def fractionPart? : List Char → Option (List Char × List Char)
  | '.' :: text =>
    match digitsThen text with
    | ([], _) => none
    | (digits, rest) => some ('.' :: digits, rest)
  | text => some ([], text)

def exponentSign : List Char → List Char × List Char
  | '+' :: rest => (['+'], rest)
  | '-' :: rest => (['-'], rest)
  | text => ([], text)

def exponentPart? (text : List Char) : Option (List Char × List Char) :=
  match text with
  | c :: rest =>
    if c == 'e' || c == 'E' then
      let (sign, rest) := exponentSign rest
      match digitsThen rest with
      | ([], _) => none
      | (digits, rest) => some (c :: sign ++ digits, rest)
    else some ([], text)
  | [] => some ([], [])

def number? (text : List Char) : Option (Json × List Char) := do
  let (sign, text) :=
    match text with
    | '-' :: rest => (['-'], rest)
    | text => (([] : List Char), text)
  let (whole, text) ← wholePart? text
  let (fraction, text) ← fractionPart? text
  let (exponent, text) ← exponentPart? text
  some (.number (String.ofList (sign ++ whole ++ fraction ++ exponent)), text)

def scalar? (bound : Nat) : List Char → Option (Json × List Char)
  | 'n' :: 'u' :: 'l' :: 'l' :: rest => some (.null, rest)
  | 't' :: 'r' :: 'u' :: 'e' :: rest => some (.bool true, rest)
  | 'f' :: 'a' :: 'l' :: 's' :: 'e' :: rest => some (.bool false, rest)
  | '"' :: rest =>
    (stringTail (some []) bound rest).map fun read =>
      ((read.1.map Json.string).getD .unreadable, read.2)
  | text => number? text

/-- The name of a member up to its value. -/
def memberName? (bound : Nat) (text : List Char) : Option (Option String × List Char) :=
  match skipBlanks text with
  | '"' :: text =>
    (stringTail (some []) bound text).bind fun (name, text) =>
      match skipBlanks text with
      | ':' :: text => some (name, text)
      | _ => none
  | _ => none

/-- A bracket that is still open, with what was read in it, in reverse.  An object
also holds the name whose value comes next. -/
inductive Bracket
  | array (elements : List Json)
  | object (members : List (Option String × Json)) (name : Option String)

/-- Reads one value within the brackets that are open, the innermost first.
`finished` is a value that was just read to its end; without one, a value comes
next.  Each step consumes a character or finishes a value, so that twice the
length of the text bounds the steps. -/
def readWithin : Nat → List Bracket → Option Json → List Char → Option (Json × List Char)
  | 0, _, _, _ => none
  | _ + 1, [], some finished, text => some (finished, text)
  | bound + 1, .array elements :: outer, some finished, text =>
    match skipBlanks text with
    | ',' :: text => readWithin bound (.array (finished :: elements) :: outer) none text
    | ']' :: text =>
      readWithin bound outer (some (.array (finished :: elements).reverse)) text
    | _ => none
  | bound + 1, .object members name :: outer, some finished, text =>
    match skipBlanks text with
    | ',' :: text =>
      match memberName? bound text with
      | some (next, text) =>
        readWithin bound (.object ((name, finished) :: members) next :: outer) none text
      | none => none
    | '\x7d' :: text =>
      readWithin bound outer (some (ofMembers ((name, finished) :: members).reverse)) text
    | _ => none
  | bound + 1, outer, none, text =>
    match skipBlanks text with
    | '[' :: text =>
      match skipBlanks text with
      | ']' :: text => readWithin bound outer (some (.array [])) text
      | _ => readWithin bound (.array [] :: outer) none text
    | '\x7b' :: text =>
      match skipBlanks text with
      | '\x7d' :: text => readWithin bound outer (some (.object [])) text
      | _ =>
        match memberName? bound text with
        | some (name, text) => readWithin bound (.object [] name :: outer) none text
        | none => none
    | text =>
      match scalar? bound text with
      | some (value, text) => readWithin bound outer (some value) text
      | none => none

def parse? (text : String) : Option Json :=
  match readWithin (2 * text.length + 2) [] none text.toList with
  | some (read, rest) => if skipBlanks rest = [] then some read else none
  | none => none

end Gallery.Json
