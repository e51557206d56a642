import Gallery.Proofs.Archive.TextSearch
import Gallery.Proofs.Search.Terms

/-!
# Searching with the same terms

What a search finds in an archive depends on which terms its query has, and neither on
their order nor on how often each of them was given.  On every route but the text index
the hits also stand in the same order.
-/

namespace Gallery

namespace Archive

variable {α : Type} [Scalar α]

theorem same_terms_same_hits
    (configs : ℕ → Config) (limits : ℕ → ℕ) {calls : List Call}
    (hordinary : ∀ call ∈ calls, call.request.isOrdinary = true)
    (catalog : Catalog α) {first second : Query} (hsame : first.SameTerms second) :
    let store := ((opened {} configs limits : Archive α).run calls).store
    let names := (catalog.names store).1
    let found := (catalog.execute store first).1
    let again := (catalog.execute store second).1
    Search.FitsLimits store names first → Search.FitsLimits store names second →
      found.route = again.route ∧ found.hits.Perm again.hits ∧
        (found.route ≠ .hybrid → found = again) := by
  intro store names found again hfirst hsecond
  have hsound : store.Sound := (reachable_run configs limits hordinary).consistent.sound
  have hfound : found = Search.answer store names first := catalog.execute_eq_answer store first
  have hagain : again = Search.answer store names second := catalog.execute_eq_answer store second
  rw [hfound, hagain]
  exact Search.answer_of_sameTerms hsame hsound names hfirst hsecond

/-- A tag to have, one to lack and an ending, given once and given several times in another
order. -/
theorem same_terms_same_hits_of_two_items :
    let calls : List Call :=
      [⟨0, 0, .add { filepath := "a.png", contentHash := "0", tags := [{ name := "cat" }] }⟩,
        ⟨0, 0, .add { filepath := "b.png", contentHash := "1", tags := [{ name := "hat" }] }⟩,
        ⟨0, 0, .flush⟩]
    let first := Query.parse "cat -hat .png"
    let second := Query.parse "-hat cat .png cat -hat cat .png"
    let store := ((opened {} (fun _ => {}) (fun _ => 8) : Archive Float).run calls).store
    let catalog : Catalog Float := .fresh {}
    let found := (catalog.execute store first).1
    found.route = .exactTag ∧ found.hits.map (·.id) = [1] ∧
      found = (catalog.execute store second).1 := by
  intro calls
  have hfirst : Query.parse "cat -hat .png" =
      { general := ["cat"], negative := ["hat"], extensions := [".png"] } := by
    decide
  have hsecond : Query.parse "-hat cat .png cat -hat cat .png" =
      { general := ["cat", "cat", "cat"], negative := ["hat", "hat"]
        extensions := [".png", ".png"] } := by
    decide
  rw [hfirst, hsecond]
  intro first second
  have hordinary : ∀ call ∈ calls, call.request.isOrdinary = true := by decide
  have hsame : first.SameTerms second := by
    constructor <;> simp [first, second, Query.categoryTerms]
  have hcurrent := upToDate_fresh (α := Float) (fun _ => {}) (fun _ => 8) hordinary {}
  have hfacts :
      let store := ((opened {} (fun _ => {}) (fun _ => 8) : Archive Float).run calls).store
      Search.FitsLimits store store.names first ∧ Search.FitsLimits store store.names second ∧
        (Search.answer store store.names first).route = .exactTag ∧
        (Search.answer store store.names first).hits.map (·.id) = [1] := by
    simp only [Store.names_eq_insertionSort]
    decide +kernel
  obtain ⟨hfits, hsecondFits, hroute, hhits⟩ := hfacts
  rw [← hcurrent.execute] at hroute hhits
  rw [← hcurrent] at hfits hsecondFits
  have hagree := same_terms_same_hits (α := Float) (fun _ => {}) (fun _ => 8) hordinary (.fresh {})
    hsame
  have hequal := hagree hfits hsecondFits
  refine ⟨hroute, hhits, hequal.2.2 ?_⟩
  rw [hroute]
  decide

end Archive

end Gallery
