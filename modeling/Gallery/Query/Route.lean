import Gallery.Query.Basic

/-!
# How a query is answered

A route says where the candidates of a query come from.  It is chosen from the
shape of the query and from which of its general terms are known tags.
-/

namespace Gallery

inductive Route
  /-- Only an order: every item, sorted. -/
  | simpleOrder
  /-- Only structural facets: one sorted scan. -/
  | simpleFilter
  /-- Some term is no known tag, or a phrase was quoted: the text index. -/
  | hybrid
  /-- Every general term is a known tag: the attachments. -/
  | exactTag
  /-- Nothing to narrow by: every item. -/
  | fallback
  deriving DecidableEq

namespace Route

def all : List Route :=
  [simpleOrder, simpleFilter, hybrid, exactTag, fallback]

def name : Route → String
  | simpleOrder => "simple_order"
  | simpleFilter => "simple_filter"
  | hybrid => "hybrid"
  | exactTag => "exact_tag"
  | fallback => "fallback"

/-- `exact` says of each general term whether it is a known tag. -/
def choose (query : Query) (exact : List Bool) : Route :=
  let bare := !query.hasTerms && !query.freetext && query.metadata.isNone
  if bare && !query.hasCategorizedTerms && !query.hasStructuralFilters then
    if query.order.isSome then simpleOrder else fallback
  else if bare && query.hasStructuralFilters then simpleFilter
  else if query.freetext || exact.any (! ·) then hybrid
  else if query.hasTerms then exactTag
  else fallback

/-- Whether the hits may be shown in a random order. -/
def shuffleEligible (route : Route) (query : Query) : Bool :=
  let random := query.order == some .random
  match route with
  | hybrid => false
  | simpleOrder | simpleFilter => random
  | exactTag | fallback =>
    !query.hasStructuralFilters && (query.order.isNone || random)

end Route

end Gallery
