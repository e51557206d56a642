import Gallery.Item.Basic
import Gallery.TextIndex.Expression
import Gallery.TextIndex.Layout
import Gallery.Total

/-!
# Matching and ranking

A document is a row of the index: its texts laid out as tokens, column by column.
A phrase occurs where its tokens follow one another within a column; the last
token of an open phrase may be the start of a longer one.  A phrase without
tokens occurs nowhere.

The rank of a document is the negated sum over the required phrases of their
rarity times a saturated frequency, so that the best document has the lowest
rank.
-/

namespace Gallery.TextIndex

structure Document where
  item : ItemId
  layout : Layout
  /-- The number of tokens in the texts of the item. -/
  size : Nat

/-- Whether the tokens of a phrase stand at the head of a column. -/
def startsAt (opens : Bool) : List IndexToken → List Slot → Bool
  | [], _ => true
  | [last], slot :: _ =>
    slot.any fun token => if opens then last.isPrefixOf token else last == token
  | first :: rest, slot :: column => slot.contains first && startsAt opens rest column
  | _ :: _, [] => false

/-- The number of places in a column at which a phrase stands. -/
def occurrences (opens : Bool) (phrase : List IndexToken) : List Slot → Nat
  | [] => 0
  | slot :: column =>
    (if startsAt opens phrase (slot :: column) then 1 else 0) +
      occurrences opens phrase column

/-- A phrase as the tokens to look for. -/
structure Sought where
  words : List IndexToken
  opens : Bool

def Phrase.sought (phrase : Phrase) : Sought :=
  ⟨tokens phrase.text, phrase.opens⟩

def Sought.frequency (sought : Sought) (document : Document) : Nat :=
  if sought.words = [] then 0
  else totalOf (occurrences sought.opens sought.words) document.layout

def Sought.occursIn (sought : Sought) (document : Document) : Bool :=
  0 < sought.frequency document

/-- An expression as the phrases to look for. -/
structure Search where
  required : List Sought
  excluded : List Sought

def Expression.search (expression : Expression) : Search where
  required := expression.required.map Phrase.sought
  excluded := expression.excluded.map fun term => ⟨tokens term, false⟩

def Search.accepts (search : Search) (document : Document) : Bool :=
  search.required.all (·.occursIn document) &&
    !search.excluded.any (·.occursIn document)

/-- How deep the tree of an expression may be. -/
def depthLimit : Nat := 256

/-- Every exclusion stands on a level of its own above the conjunction. -/
def Expression.depth (expression : Expression) : Nat :=
  expression.excluded.length + if expression.required.length ≤ 1 then 0 else 1

def Expression.hasNul (expression : Expression) : Bool :=
  (expression.required.map Phrase.text ++ expression.excluded).any
    (·.toList.contains '\x00')

/-- Whether the index takes the expression at all. -/
def Expression.isAdmissible (expression : Expression) : Bool :=
  !expression.hasNul && expression.depth ≤ depthLimit

/-- The documents of an index with their count and the count of their tokens. -/
structure Corpus where
  documents : List Document
  rows : Nat
  tokens : Nat

namespace Corpus

def saturation : Float := 1.2

def lengthShare : Float := 0.75

/-- The rarity of a phrase, a small positive number for a common one. -/
def rarity (corpus : Corpus) (sought : Sought) : Float :=
  let hits := (corpus.documents.filter (sought.occursIn ·)).length
  let rarity :=
    Float.log ((Float.ofInt ((corpus.rows : Int) - hits) + 0.5) / (Float.ofNat hits + 0.5))
  if rarity ≤ 0 then 1e-6 else rarity

def meanSize (corpus : Corpus) : Float :=
  Float.ofNat corpus.tokens / Float.ofNat corpus.rows

def score (corpus : Corpus) (frequency : Nat) (rarity : Float) (document : Document) :
    Float :=
  let f := Float.ofNat frequency
  rarity * ((f * (saturation + 1.0)) /
    (f + saturation *
      (1.0 - lengthShare + lengthShare * Float.ofNat document.size / corpus.meanSize)))

/-- The rank of a document.  There is none where the totals fall so short of the
documents that a phrase has no rarity. -/
def rank? (corpus : Corpus) (weighed : List (Sought × Float)) (document : Document) :
    Option Float :=
  let sum := weighed.foldl (fun sum (sought, rarity) =>
    sum + corpus.score (sought.frequency document) rarity document) 0.0
  if sum.isNaN then none else some (-1.0 * sum)

/-- The documents that an expression accepts, with their ranks. -/
def ranked (corpus : Corpus) (search : Search) : List (ItemId × Option Float) :=
  let weighed := search.required.map fun sought => (sought, corpus.rarity sought)
  (corpus.documents.filter (search.accepts ·)).map fun document =>
    (document.item, corpus.rank? weighed document)

end Corpus

end Gallery.TextIndex
