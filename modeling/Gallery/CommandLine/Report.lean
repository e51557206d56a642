import Gallery.Catalog.Basic
import Gallery.Json.Basic

/-!
# What the command line prints

Every command prints one JSON value.  How a score is written is left open.
-/

namespace Gallery.CommandLine

inductive Report (α : Type)
  | search (results : SearchResults) (page : Nat) (shuffled : Bool) (hits : List Hit)
  | related (items : List (RelatedItem α))
  | tag (name : String) (id : Option TagId) (weight : α)
  | stats (stats : Stats)

def hitJson (hit : Hit) : Json :=
  .object [("id", .ofInt hit.id), ("filepath", .string hit.filepath),
    ("tags", .string hit.tags)]

def statsJson (stats : Stats) : Json :=
  .object [
    ("total_items", .ofNat stats.totalItems),
    ("total_tags", .ofNat stats.totalTags),
    ("tags_by_category",
      .object (stats.tagsByCategory.map fun (category, n) => (category.name, .ofNat n))),
    ("top_tags", .ofList (fun (name, n) => .array [.string name, .ofNat n]) stats.topTags)]

variable {α : Type}

def Report.json (scalar : α → Json) : Report α → Json
  | .search results page shuffled hits =>
    .object [("path", .string results.route.name), ("total", .ofNat results.hits.length),
      ("page", .ofNat page), ("shuffled", .bool shuffled), ("hits", .ofList hitJson hits)]
  | .related items =>
    .ofList (fun related => .object [("item", hitJson related.item),
      ("score", scalar related.score)]) items
  | .tag name id weight =>
    .object [("name", .string name), ("id", .ofOption .ofInt id), ("weight", scalar weight)]
  | .stats counters => statsJson counters

end Gallery.CommandLine
