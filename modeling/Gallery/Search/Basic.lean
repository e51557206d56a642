import Gallery.Directory
import Gallery.Query.Parser
import Gallery.Query.Route
import Gallery.Search.Candidates
import Gallery.Search.Filter
import Gallery.Search.Results

/-!
# Searching

A query is routed, its candidates are filtered by what their route left open,
and they are sorted unless they came sorted.  A search never fails: where the
store or its index refuses, nothing is found.
-/

namespace Gallery

namespace Search

/-- Filters and sorts candidates.  `structural` says whether the structural
checks are still open. -/
def refine (store : Store) (query : Query) (structural : Bool) (candidates : List Item) :
    Except StoreError (List Item) := do
  let tables ← SideTables.load store query structural
  return Filter.retain query structural tables candidates

def sorted (query : Query) (items : List Item) : List Item :=
  match query.order with
  | some key => key.sort items
  | none => items

/-- The items that a query finds by a route. -/
def run (store : Store) (query : Query) (route : Route) (exact : List Bool)
    (included excluded : List TagId) : Except StoreError (List Item) := do
  match route with
  | .simpleOrder => store.scanOrdered query.order
  | .simpleFilter => refine store query false (← store.scanFiltered query)
  | .hybrid => return sorted query (← refine store query true (← store.hybrid query exact))
  | .exactTag =>
    return sorted query
      (← refine store query false (← store.withTags query included excluded))
  | .fallback => return sorted query (← refine store query true (← store.scanOrdered none))

def results (query : Query) (route : Route) : Except StoreError (List Item) → SearchResults
  | .ok items => ⟨items.map Item.hit, route.shuffleEligible query, route⟩
  | .error _ => .none route

/-- Answers a query with the tag numbers of one state of the directory. -/
def answer (store : Store) (names : TagNames) (query : Query) : SearchResults :=
  let exact := query.general.map fun term => (names.id? term).isSome
  let route := Route.choose query exact
  results query route
    (run store query route exact (names.ids query.general) (names.ids query.negative))

/-- Whether answering a query looks at the directory. -/
def consultsDirectory (query : Query) : Bool :=
  !query.general.isEmpty || Route.choose query [] = .exactTag

def execute (store : Store) (directory : Directory) (query : Query) :
    SearchResults × Directory :=
  if consultsDirectory query then
    let (names, directory) := directory.names store
    (answer store names query, directory)
  else (answer store {} query, directory)

end Search

end Gallery
