import Gallery.Text.Lowercase
import Gallery.TextIndex.Alphabet
import Gallery.TextIndex.Separator

/-!
# Tokens of the text index

A token starts at a letter, a digit, an underscore, a hyphen or any other
character that is no separator, and goes on over such characters and over marks.
Its characters are folded: case is dropped, marks are dropped, and a Latin letter
with one mark becomes the bare letter.  Of a long token only the first bytes count.
-/

namespace Gallery.TextIndex

open Text

/-- A folded word of an indexed text. -/
abbrev IndexToken := List Char

def isTokenChar (c : Char) : Bool :=
  if c.toNat < 128 then c.isAlphanum || c == '_' || c == '-' else !isSeparator c

def isMark (c : Char) : Bool :=
  inRanges markRanges c.toNat

def foldedCode (code : Nat) : Nat :=
  if inRanges unfoldedRanges code then code
  else
    match secondForms.find? (·.1 == code) with
    | some form => form.2
    | none => lowerCode code

/-- The bare letter of a code that is a letter with one mark. -/
def bareLetter? (code : Nat) : Option Char :=
  (markedLetters.find? fun row => row.1 ≤ code && code ≤ row.2.1).map (·.2.2)

/-- The folded character; nothing is left of a mark. -/
def fold (c : Char) : List Char :=
  if c.toNat < 128 then [c.toLower]
  else if isMark c then []
  else
    let code := foldedCode c.toNat
    [(bareLetter? code).getD (Char.ofNat code)]

/-- The tokens of a text, given the token that the text begins within. -/
def tokensFrom (current : Option IndexToken) : List Char → List IndexToken
  | [] => current.toList
  | c :: text =>
    match current with
    | none =>
      if isTokenChar c then tokensFrom (some (fold c)) text else tokensFrom none text
    | some token =>
      if isTokenChar c || isMark c then tokensFrom (some (token ++ fold c)) text
      else token :: tokensFrom none text

def tokensOf (text : List Char) : List IndexToken :=
  tokensFrom none text

/-- How many bytes of a token count. -/
def tokenLimit : Nat := 32768

/-- The least character whose code agrees with another in its first bytes. -/
def leastAlike (c : Char) (bytes : Nat) : Char :=
  let unit := Nat.pow 64 (c.utf8Size - bytes)
  Char.ofNat (c.toNat / unit * unit)

/-- As much of a token as so many bytes hold.  A character that is cut through
stands for all that begin alike. -/
def cut (bytes : Nat) : IndexToken → IndexToken
  | [] => []
  | c :: token =>
    if c.utf8Size ≤ bytes then c :: cut (bytes - c.utf8Size) token
    else if bytes = 0 then []
    else [leastAlike c bytes]

/-- No character takes more than four bytes, so that a short token is whole. -/
def bounded (token : IndexToken) : IndexToken :=
  if 4 * token.length ≤ tokenLimit then token else cut tokenLimit token

def tokens (text : String) : List IndexToken :=
  (tokensOf text.toList).map bounded

end Gallery.TextIndex
