import Gallery.Text.Blank

/-!
# Files of settings

A file of settings holds lines `KEY=value`.  A value may be quoted, singly or
doubly, in whole or in part; a backslash outside single quotes escapes the
character after it.  A quoted value may go on over several lines.  Blanks around
the key and the equals sign, lines without a setting, comments and a leading
`export` are passed over.  No variables are substituted.  One malformed line
makes the whole file unreadable.
-/

namespace Gallery.Dotenv

open Text

/-! ## Lines -/

/-- Where in a line the reader stands. -/
inductive LineState
  | complete
  | blank
  | escape
  | weak
  | weakEscape
  | strong
  | strongEscape
  | comment
  deriving DecidableEq

/-- The state after a character that opens something, outside quotes. -/
def LineState.opening : Char → LineState
  | '\\' => .escape
  | '"' => .weak
  | '\x27' => .strong
  | _ => .complete

def LineState.next : LineState → Char → LineState
  | .blank, c => if c = '#' then .comment else opening c
  | .escape, _ => .complete
  | .complete, c =>
    if isBlank c && c ≠ '\n' && c ≠ '\r' then .blank else opening c
  | .weak, c => if c = '\\' then .weakEscape else if c = '"' then .complete else .weak
  | .weakEscape, _ => .weak
  | .strong, c =>
    if c = '\\' then .strongEscape else if c = '\x27' then .complete else .strong
  | .strongEscape, _ => .strong
  | .comment, _ => .comment

/-- The part of a line before a comment, and the state at its end. -/
def scanLine (state : LineState) : List Char → List Char × LineState
  | [] => ([], state)
  | c :: line =>
    match state.next c with
    | .comment => ([], .comment)
    | state =>
      let (kept, state) := scanLine state line
      (c :: kept, state)

/-- The lines of a text, each with the newline that ends it. -/
def physicalLines : List Char → List (List Char)
  | [] => []
  | c :: text =>
    if c = '\n' then [c] :: physicalLines text
    else
      match physicalLines text with
      | [] => [[c]]
      | line :: later => (c :: line) :: later

def withoutNewline (line : List Char) : List Char :=
  match line.reverse with
  | '\n' :: '\r' :: rest => rest.reverse
  | '\n' :: rest => rest.reverse
  | _ => line

def isCommentLine (line : List Char) : Bool :=
  (line.dropWhile isBlank).head? == some '#'

/-- Joins lines over open quotes and escapes.  A line that the text leaves open
is given as nothing. -/
def logicalLines (pending : List Char) (state : LineState) :
    List (List Char) → List (Option (List Char))
  | [] => if state = .complete then [] else [none]
  | line :: later =>
    let whole := pending ++ line
    if isCommentLine whole then some [] :: logicalLines [] .complete later
    else
      match scanLine state line with
      | (_, .complete) => some (withoutNewline whole) :: logicalLines [] .complete later
      | (kept, .comment) => some (pending ++ kept) :: logicalLines [] .complete later
      | (_, state) => logicalLines whole state later

/-! ## Entries -/

def isKeyStart (c : Char) : Bool :=
  c.isAlpha || c = '_'

def isKeyChar (c : Char) : Bool :=
  c.isAlphanum || c = '_' || c = '.'

/-- A key at the head of a line, and what follows it. -/
def key? (line : List Char) : Option (List Char × List Char) :=
  if line.head?.any isKeyStart then some (line.takeWhile isKeyChar, line.dropWhile isKeyChar)
  else none

def skipBlanks (line : List Char) : List Char :=
  line.dropWhile isBlank

def afterEquals? (line : List Char) : Option (List Char) :=
  match skipBlanks line with
  | '=' :: rest => some rest
  | _ => none

/-- The key of a line and what follows the equals sign.  The word `export` is
passed over unless it is itself the key. -/
def keyAndRest? (line : List Char) : Option (List Char × List Char) := do
  let (key, rest) ← key? line
  match afterEquals? rest with
  | some value => some (key, value)
  | none =>
    if key = "export".toList then
      let (key, rest) ← key? (skipBlanks rest)
      let value ← afterEquals? rest
      some (key, value)
    else none

/-- Where in a value the reader stands. -/
inductive ValueState
  | plain
  | strong
  | weak
  | escape (quoted : Bool)
  /-- After a blank outside quotes: only a comment may follow. -/
  | ended
  | comment
  deriving DecidableEq

/-- The character that an escape stands for. -/
def escaped? : Char → Option Char
  | '\\' => some '\\'
  | '\x27' => some '\x27'
  | '"' => some '"'
  | '$' => some '$'
  | ' ' => some ' '
  | 'n' => some '\n'
  | _ => none

/-- The state after a character of a value and what it adds to the value. -/
def ValueState.next? : ValueState → Char → Option (ValueState × List Char)
  | .plain, c =>
    if c = '\x27' then some (.strong, [])
    else if c = '"' then some (.weak, [])
    else if c = '\\' then some (.escape false, [])
    else if c = ' ' ∨ c = '\t' then some (.ended, [])
    else some (.plain, [c])
  | .strong, c => if c = '\x27' then some (.plain, []) else some (.strong, [c])
  | .weak, c =>
    if c = '"' then some (.plain, [])
    else if c = '\\' then some (.escape true, [])
    else some (.weak, [c])
  | .escape quoted, c => (escaped? c).map fun c => (if quoted then .weak else .plain, [c])
  | .ended, c =>
    if c = ' ' ∨ c = '\t' then some (.ended, [])
    else if c = '#' then some (.comment, [])
    else none
  | .comment, _ => some (.comment, [])

/-- A value must not end within quotes. -/
def ValueState.mayEnd : ValueState → Bool
  | .strong | .weak | .escape true => false
  | _ => true

def valueFrom? (state : ValueState) : List Char → Option (List Char)
  | [] => if state.mayEnd then some [] else none
  | c :: rest => do
    let (state, added) ← state.next? c
    let later ← valueFrom? state rest
    some (added ++ later)

def value? (text : List Char) : Option (List Char) :=
  let text := skipBlanks text
  if text.head? = some '#' then some [] else valueFrom? .plain text

def trimEnd (line : List Char) : List Char :=
  (line.reverse.dropWhile isBlank).reverse

/-- The setting of a line: none where the line has none, and a failure where the
line is malformed. -/
def entry? (line : List Char) : Option (Option (String × String)) :=
  let line := skipBlanks (trimEnd line)
  if line = [] ∨ line.head? = some '#' then some none
  else do
    let (key, rest) ← keyAndRest? line
    let value ← value? rest
    some (some (String.ofList key, String.ofList value))

/-- The settings of a file in order, if it can be read. -/
def entries? (text : String) : Option (List (String × String)) := do
  let lines := logicalLines [] .complete (physicalLines text.toList)
  let entries ← lines.mapM fun line => line.bind entry?
  some (entries.filterMap id)

end Gallery.Dotenv
