/-!
# Pieces of a text

Containment, endings and cuts.  Containment is decided by trying every
position, and `occursIn_iff` says that this is the infix relation on lists.
-/

namespace Gallery.Text

def occursIn (piece : List Char) : List Char → Bool
  | [] => piece.isEmpty
  | c :: text => piece.isPrefixOf (c :: text) || occursIn piece text

def contains (text piece : String) : Bool :=
  occursIn piece.toList text.toList

def endsWith (text ending : String) : Bool :=
  ending.toList.isSuffixOf text.toList

/-- What follows `start` in a text that begins with it. -/
def afterStart? (start : List Char) (text : List Char) : Option (List Char) :=
  if start.isPrefixOf text then some (text.drop start.length) else none

/-- What precedes `ending` in a text that ends with it. -/
def beforeEnd? (ending : List Char) (text : List Char) : Option (List Char) :=
  if ending.isSuffixOf text then some (text.take (text.length - ending.length)) else none

/-- The two sides of the first occurrence of a character. -/
def cutAt? (mark : Char) (text : List Char) : Option (List Char × List Char) :=
  match text.dropWhile (· != mark) with
  | [] => none
  | _ :: right => some (text.takeWhile (· != mark), right)

/-- The runs between the occurrences of a mark; one more than there are
occurrences. -/
def pieces {α : Type} [DecidableEq α] (mark : α) : List α → List (List α)
  | [] => [[]]
  | c :: text =>
    if c = mark then [] :: pieces mark text
    else
      match pieces mark text with
      | [] => [[c]]
      | run :: later => (c :: run) :: later

/-- The text without the given character at its two ends. -/
def trimChar (mark : Char) (text : List Char) : List Char :=
  ((text.dropWhile (· == mark)).reverse.dropWhile (· == mark)).reverse

theorem occursIn_iff {piece text : List Char} :
    occursIn piece text = true ↔ piece <:+: text := by
  induction text with
  | nil => simp [occursIn]
  | cons c text ih =>
      simp only [occursIn, Bool.or_eq_true, List.isPrefixOf_iff_prefix, ih,
        List.infix_cons_iff]

end Gallery.Text
