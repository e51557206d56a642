import Gallery.Query.Basic

/-!
# How deep conditions nest

The store refuses a condition that nests more than a thousand levels deep.  The
conditions of a query are joined one after the other, so every one but the last
two adds a level above the first, and the endings of a path are alternatives
that are joined in the same way.  A condition that looks into another relation
has a condition of its own there, whose levels come on top of all the others.
-/

namespace Gallery

/-- The levels of one condition, and those of its condition on another relation. -/
structure Nesting where
  height : Nat
  within : Nat := 0
  deriving DecidableEq

namespace Nesting

/-- The deepest nesting that the store accepts. -/
def limit : Nat := 1000

/-- Both conditions, with one level above them. -/
def both (first second : Nesting) : Nesting :=
  ⟨max first.height second.height + 1, max first.within second.within⟩

def all : List Nesting → Nesting
  | [] => ⟨0, 0⟩
  | first :: rest => rest.foldl both first

def isAccepted (nesting : Nesting) : Bool :=
  nesting.height + nesting.within ≤ limit

/-- A condition that is there if something asks for it. -/
def whenAsked (asked : Bool) (nesting : Nesting) : List Nesting :=
  if asked then [nesting] else []

/-- Having every one of some tags; one tag is compared, several are looked up. -/
def included (tags : Nat) : List Nesting :=
  whenAsked (tags ≠ 0) (if tags = 1 then ⟨4, 3⟩ else ⟨3, 2⟩)

/-- Having none of some tags. -/
def excluded (tags : Nat) : List Nesting :=
  whenAsked (tags ≠ 0) ⟨6, 4⟩

def ofPool : PoolFilter → Nesting
  | .named _ => ⟨6, 6⟩
  | .any => ⟨4, 3⟩

def ofRelationship : RelationshipFilter → Nesting
  | .any => ⟨4, 0⟩
  | .hasParent | .hasChildren => ⟨3, 0⟩

/-- The structural conditions of a query, in the order in which they are joined. -/
def structural (query : Query) : List Nesting :=
  whenAsked (!query.sources.isEmpty) ⟨5, 4⟩ ++
    whenAsked (!query.extensions.isEmpty) ⟨query.extensions.length + 3, 0⟩ ++
    whenAsked query.filename.isSome ⟨5, 0⟩ ++
    query.pool.toList.map ofPool ++
    query.relationship.toList.map ofRelationship ++
    whenAsked query.favorite ⟨4, 3⟩ ++
    whenAsked query.upscaled.isSome ⟨3, 0⟩

@[simp] theorem all_nil : all [] = ⟨0, 0⟩ := rfl

@[simp] theorem all_singleton (nesting : Nesting) : all [nesting] = nesting := rfl

end Nesting

end Gallery
