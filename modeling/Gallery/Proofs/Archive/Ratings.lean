import Gallery.Proofs.Archive.Effects
import Gallery.Proofs.Archive.TextSearch

/-!
# Tags for ratings

An assignment puts a tag whose name says that it is for ratings into the rating category,
whatever was declared.  The move of a tag to a category does not look at its name.  So
such a tag is a rating until it is moved, and afterwards it is what it was last moved to;
the items that carry it show it there and nowhere else.
-/

namespace Gallery

open Text

def IsRatingName (name : String) : Prop :=
  "rating:".toList <+: name.toList

instance (name : String) : Decidable (IsRatingName name) :=
  inferInstanceAs (Decidable ("rating:".toList <+: name.toList))

theorem TagAssignment.effectiveCategory_of_isRatingName {assigned : TagAssignment}
    (hname : IsRatingName assigned.name) : assigned.effectiveCategory = .rating :=
  if_pos (List.isPrefixOf_iff_prefix.2 hname)

namespace Archive

/-! ## Moves -/

/-- The category that the tag of a name was last asked to move to. -/
def lastMove? (calls : List Call) (name : String) : Option Category :=
  calls.foldl (fun last? call => call.request.movedTo? name <|> last?) none

theorem lastMove?_concat (calls : List Call) (call : Call) (name : String) :
    lastMove? (calls ++ [call]) name =
      (call.request.movedTo? name <|> lastMove? calls name) := by
  simp [lastMove?]

theorem exists_of_lastMove? {calls : List Call} {name : String} {category : Category}
    (hlast : lastMove? calls name = some category) :
    ∃ call ∈ calls, call.request.movedTo? name = some category := by
  induction calls using List.reverseRecOn with
  | nil => simp [lastMove?] at hlast
  | append_singleton before call ih =>
      rw [lastMove?_concat] at hlast
      cases hmoved : call.request.movedTo? name with
      | none =>
          rw [hmoved] at hlast
          obtain ⟨earlier, hearlier, hcategory⟩ := ih hlast
          exact ⟨earlier, by simp [hearlier], hcategory⟩
      | some moved =>
          rw [hmoved] at hlast
          exact ⟨call, by simp, hmoved.trans hlast⟩

/-! ## The category of a tag for ratings -/

def RatingsAsMoved (calls : List Call) (store : Store) : Prop :=
  ∀ tag ∈ store.tags, IsRatingName tag.name →
    tag.category = .rating ∨ lastMove? calls tag.name = some tag.category

theorem RatingsAsMoved.concat {calls : List Call} {call : Call} {store next : Store}
    {batch? : Option (List ItemRecord)} (h : RatingsAsMoved calls store)
    (hhealthy : store.Healthy) (heffect : Effect store call.request batch? next) :
    RatingsAsMoved (calls ++ [call]) next := by
  intro tag htag hname
  rw [lastMove?_concat]
  obtain hmoved | ⟨hunmoved, hkept | hassigned⟩ := heffect.origin_of_tag hhealthy htag
  · simp [hmoved]
  · obtain ⟨old, hold, holdName, hcategory⟩ := hkept
    rw [hunmoved, ← holdName, ← hcategory]
    exact h old hold (holdName ▸ hname)
  · obtain ⟨assigned, hassigned, hcategory⟩ := hassigned
    left
    rw [hcategory]
    exact TagAssignment.effectiveCategory_of_isRatingName (hassigned ▸ hname)

variable {α : Type} [Scalar α]

/-- After any calls a tag for ratings is a rating unless the last move of a tag of its name
went elsewhere, and the items that carry it list it in the text of its category alone. -/
theorem ratings_follow_moves
    (configs : ℕ → Config) (limits : ℕ → ℕ) {calls : List Call}
    (hordinary : ∀ call ∈ calls, call.request.isOrdinary = true) :
    let store := ((opened {} configs limits : Archive α).run calls).store
    ∀ tag ∈ store.tags, IsRatingName tag.name →
      (tag.category = .rating ∨ lastMove? calls tag.name = some tag.category) ∧
      ((∀ call ∈ calls, ∀ category, call.request.movedTo? tag.name = some category →
          category = .rating) → tag.category = .rating) ∧
      ∀ item ∈ store.items, store.Carries item.id tag → ∀ category,
        tag.name ∈ words (item.tags.get category) ↔ category = tag.category := by
  intro store tag htag hname
  have hlive : (opened {} configs limits : Archive α).Live :=
    live_opened Store.consistent_empty configs limits
  have hconsistent : store.Consistent := (hlive.run hordinary).consistent
  have hmoves : RatingsAsMoved calls store := by
    refine stored_induction (motive := fun calls _ store => RatingsAsMoved calls store)
      hlive hordinary ?_ ?_
    · intro other hother
      cases hother
    · intro before call records batch? earlier next hearlier hbefore heffect
      exact hbefore.concat hearlier.sound.healthy heffect
  refine ⟨hmoves tag htag hname, ?_, ?_⟩
  · intro hrating
    rcases hmoves tag htag hname with hcategory | hlast
    · exact hcategory
    · obtain ⟨call, hcall, hmoved⟩ := exists_of_lastMove? hlast
      exact hrating call hcall tag.category hmoved
  · intro item hitem hcarries category
    rw [hconsistent.words_get hitem, hconsistent.sound.mem_namesOf_iff_carries]
    constructor
    · rintro ⟨other, hother, rfl, hsame⟩
      rw [hconsistent.sound.tag_eq_of_name hother.1 htag hsame]
    · rintro rfl
      exact ⟨tag, hcarries, rfl, rfl⟩

/-- One tag for ratings that was declared to be something else, and one that was moved
away and back. -/
theorem ratings_follow_moves_of_two_tags :
    let calls : List Call :=
      [⟨0, 0, .add { filepath := "a.png", contentHash := "0", tags := [⟨"rating:general",
          .artist, none, .imported⟩, ⟨"rating:safe", .general, none, .imported⟩] }⟩,
        ⟨0, 0, .flush⟩,
        ⟨1, 1, .setTagCategory "rating:safe" .general none⟩,
        ⟨0, 1, .setTagCategory "rating:safe" .rating none⟩]
    let store := ((opened {} (fun _ => {}) (fun _ => 8) : Archive Float).run calls).store
    (∃ tag ∈ store.tags, tag.name = "rating:general" ∧ tag.category = .rating) ∧
      ∃ tag ∈ store.tags, tag.name = "rating:safe" ∧
        (tag.category = .rating ∨ lastMove? calls tag.name = some tag.category) ∧
        ∀ item ∈ store.items, store.Carries item.id tag → ∀ category,
          tag.name ∈ words (item.tags.get category) ↔ category = tag.category := by
  intro calls store
  have hordinary : ∀ call ∈ calls, call.request.isOrdinary = true := by decide
  have hall := ratings_follow_moves (α := Float) (fun _ => {}) (fun _ => 8) hordinary
  have htags : ∃ general ∈ store.tags, ∃ safe ∈ store.tags,
      general.name = "rating:general" ∧ safe.name = "rating:safe" ∧
        IsRatingName general.name ∧ IsRatingName safe.name := by
    decide
  obtain ⟨general, hgeneral, safe, hsafe, hgeneralName, hsafeName, hrating, hsafeRating⟩ := htags
  have hunmoved : ∀ call ∈ calls, ∀ category,
      call.request.movedTo? general.name = some category → category = .rating := by
    rw [hgeneralName]
    simp [calls, Request.movedTo?]
  obtain ⟨hcategory, -, hlisted⟩ := hall safe hsafe hsafeRating
  exact ⟨⟨general, hgeneral, hgeneralName, (hall general hgeneral hrating).2.1 hunmoved⟩,
    safe, hsafe, hsafeName, hcategory, hlisted⟩

/-- A tag for ratings that is moved to the general tags is shown among them, and a search
for its rating finds nothing. -/
theorem rating_tag_moved_away :
    let calls : List Call :=
      [⟨0, 0, .add { filepath := "a.png", contentHash := "0", tags := [⟨"rating:general",
          .rating, none, .imported⟩] }⟩,
        ⟨0, 0, .flush⟩,
        ⟨0, 0, .setTagCategory "rating:general" .general none⟩]
    let store := ((opened {} (fun _ => {}) (fun _ => 8) : Archive Float).run calls).store
    let catalog : Catalog Float := .fresh {}
    (∀ call ∈ calls, call.request.isOrdinary = true) ∧
      (∃ tag ∈ store.tags, IsRatingName tag.name ∧ tag.category = .general) ∧
      (∃ item ∈ store.items, item.tags.get .rating = "" ∧
        item.tags.get .general = "rating:general") ∧
      (catalog.execute store (Query.parse "rating:general")).1.hits = [] := by
  intro calls store catalog
  have hordinary : ∀ call ∈ calls, call.request.isOrdinary = true := by decide
  have hcurrent : catalog.UpToDate store :=
    upToDate_fresh (fun _ => {}) (fun _ => 8) hordinary {}
  refine ⟨hordinary, by decide, by decide +kernel, ?_⟩
  simp only [hcurrent.execute, Store.names_eq_insertionSort]
  decide +kernel

end Archive

end Gallery
