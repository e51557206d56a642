import Gallery.Item.Basic
import Gallery.Query.Route
import Gallery.Word

/-!
# Results of a search

Hits are shown page by page.  Positions are words of the machine: a sum or product
that would pass the largest word is that word, but a difference that would fall below
zero fails.  So does a cut between two positions that are not those of the hits.
-/

namespace Gallery

structure SearchResults where
  hits : List Hit
  shuffleEligible : Bool
  route : Route
  deriving DecidableEq

def largestWord : Nat :=
  wordBound - 1

/-- A position, or the largest word where it would pass that. -/
def saturated (position : Nat) : Nat :=
  min position largestWord

def difference? (a b : Nat) : Option Nat :=
  if b ≤ a then some (a - b) else none

/-- The part of a list from one position up to another; none where they are out of
order or the second lies past the end. -/
def slice? {α : Type} (list : List α) (start stop : Nat) : Option (List α) :=
  if start ≤ stop ∧ stop ≤ list.length then some ((list.take stop).drop start) else none

/-- A page of a list; pages are counted from one. -/
def pageOf? {α : Type} (list : List α) (page perPage : Nat) : Option (List α) :=
  if page = 0 ∨ perPage = 0 then some []
  else do
    let before ← difference? page 1
    let start := saturated (before * perPage)
    if list.length ≤ start then some []
    else slice? list start (min (saturated (start + perPage)) list.length)

namespace SearchResults

def none (route : Route) : SearchResults :=
  ⟨[], false, route⟩

def page? (results : SearchResults) (page perPage : Nat) : Option (List Hit) :=
  pageOf? results.hits page perPage

def page (results : SearchResults) (page perPage : Nat) : List Hit :=
  (results.page? page perPage).getD []

end SearchResults

end Gallery
