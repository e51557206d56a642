import Gallery.Text.Lowercase.Table
import Gallery.Text.Lowercase.Context

/-!
# Lower case

Two notions are kept apart.  `lower` is the full Unicode mapping, in which a
capital I with a dot becomes two characters and a capital sigma looks at its
neighbours.  `asciiLower` moves the twenty-six basic Latin capitals and leaves
every other character alone; the store's own comparisons use it.
-/

namespace Gallery.Text

def lowerCode (code : Nat) : Nat :=
  match lowercaseRuns.find? (·.covers code) with
  | some run => (code + run.shift).toNat
  | none => code

/-- The lower case of a character that does not depend on its neighbours. -/
def lowerChar (c : Char) : List Char :=
  if c.toNat < 128 then [c.toLower]
  else if c = 'İ' then ['i', '\u0307']
  else [Char.ofNat (lowerCode c.toNat)]

/-- Whether a sigma ends its word: a letter stands before it, and none after.
The characters before it are given in reverse. -/
def endsWord (before after : List Char) : Bool :=
  (before.dropWhile isCaseIgnorable).head?.any isCased &&
    !(after.dropWhile isCaseIgnorable).head?.any isCased

def lowerSigma (before after : List Char) : Char :=
  if endsWord before after then 'ς' else 'σ'

def lowerAfter (before : List Char) : List Char → List Char
  | [] => []
  | c :: after =>
    (if c = 'Σ' then [lowerSigma before after] else lowerChar c) ++
      lowerAfter (c :: before) after

def lowerOf (text : List Char) : List Char :=
  lowerAfter [] text

/-- The Unicode lower case of a text. -/
def lower (text : String) : String :=
  String.ofList (lowerOf text.toList)

def asciiLowerOf (text : List Char) : List Char :=
  text.map Char.toLower

/-- The text with its basic Latin capitals replaced by small letters. -/
def asciiLower (text : String) : String :=
  String.ofList (asciiLowerOf text.toList)

@[simp] theorem lowerOf_nil : lowerOf [] = [] := rfl

@[simp] theorem length_asciiLowerOf (text : List Char) :
    (asciiLowerOf text).length = text.length := by
  simp [asciiLowerOf]

theorem asciiLowerOf_append (left right : List Char) :
    asciiLowerOf (left ++ right) = asciiLowerOf left ++ asciiLowerOf right := by
  simp [asciiLowerOf]

end Gallery.Text
