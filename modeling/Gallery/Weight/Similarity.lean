import Gallery.Distinct
import Gallery.Weight.Basic

/-!
# Similarity of tag sets

The overlap of two sets is the share of their union that lies in both, by count
or by weight.  Sets are lists without repetition.  An empty set is like nothing.
-/

namespace Gallery

open Scalar Text

inductive Policy
  | jaccard
  | weighted
  deriving DecidableEq

namespace Policy

def name : Policy → String
  | jaccard => "jaccard"
  | weighted => "weighted"

/-- Names are read without regard to case and to blanks around them. -/
def ofName? (text : String) : Option Policy :=
  match lower (trim text) with
  | "jaccard" | "unweighted" => some jaccard
  | "weighted" | "weighted_jaccard" => some weighted
  | _ => none

end Policy

variable {α : Type} [Scalar α]

def shared (a b : List String) : List String :=
  a.filter fun tag => b.contains tag

/-- The tags of `a` and then those of `b` that `a` has not. -/
def union (a b : List String) : List String :=
  a ++ b.filter fun tag => !a.contains tag

def jaccard (a b : List String) : α :=
  if a.isEmpty || b.isEmpty then whole 0
  else ratio (shared a b).length (a.length + b.length - (shared a b).length)

def weightedJaccard (weight : String → α) (a b : List String) : α :=
  if a.isEmpty || b.isEmpty then whole 0
  else
    let united := total ((union a b).map weight)
    if atMost united (whole 0) then whole 0
    else div (total ((shared a b).map weight)) united

end Gallery
