import Gallery.Text.Lowercase

/-!
# Patterns with wildcards

In a pattern a percent sign stands for any run of characters and an underscore
for one character; a backslash takes the character after it literally.  Basic
Latin letters match without regard to case.  `literally` writes a text so that
it stands for itself alone.
-/

namespace Gallery.Text

inductive Wildcard
  | run
  | one
  | char (c : Char)
  deriving DecidableEq

/-- The parts of a written pattern; none for a backslash at its end. -/
def wildcards? : List Char → Option (List Wildcard)
  | [] => some []
  | ['\\'] => none
  | '\\' :: c :: pattern => (wildcards? pattern).map (.char c :: ·)
  | c :: pattern =>
    (wildcards? pattern).map fun rest =>
      (if c = '%' then .run else if c = '_' then .one else .char c) :: rest

def suffixes : List Char → List (List Char)
  | [] => [[]]
  | c :: text => (c :: text) :: suffixes text

def matchesParts : List Wildcard → List Char → Bool
  | [], text => text.isEmpty
  | .run :: pattern, text => (suffixes text).any (matchesParts pattern)
  | .one :: pattern, _ :: text => matchesParts pattern text
  | .char c :: pattern, d :: text => c.toLower == d.toLower && matchesParts pattern text
  | _ :: _, [] => false

/-- The characters before the first U+0000. -/
def untilNul (text : List Char) : List Char :=
  text.takeWhile (· != '\x00')

/-- The last two code points of the basic plane are no characters; they are read
as the replacement character. -/
def readable (c : Char) : Char :=
  if c.toNat = 0xFFFE ∨ c.toNat = 0xFFFF then '\ufffd' else c

/-- Whether a text matches a written pattern; both end at U+0000. -/
def isLike (pattern text : List Char) : Bool :=
  match wildcards? ((untilNul pattern).map readable) with
  | some parts => matchesParts parts ((untilNul text).map readable)
  | none => false

def literally : List Char → List Char
  | [] => []
  | c :: text =>
    if c = '\\' ∨ c = '%' ∨ c = '_' then '\\' :: c :: literally text
    else c :: literally text

end Gallery.Text
