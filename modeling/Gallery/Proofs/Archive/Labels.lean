import Gallery.Proofs.Archive.Effects
import Gallery.Proofs.Archive.Soundness
import Gallery.Proofs.Search.Scan
import Gallery.Proofs.Search.SingleTerm
import Gallery.Proofs.Store.Labels
import Gallery.Proofs.Text.FinalSigma

/-!
# Searching for source labels

A label is lower-cased on its own when it is stored and behind `source:` when it is asked
for.  The two agree on every label but those that open with a capital sigma which no
letter follows.  Over all runs of an archive a search for a label finds an item if some
stored record of its path has a source whose stored label is the one that is asked for.
-/

namespace Gallery

open Text

/-! ## Reading the query -/

namespace Query

/-- The label that a query for a source asks for. -/
def askedLabel (source : String) : String :=
  String.ofList (lowerAfter "source:".toList.reverse source.toList)

def ofSource (label : String) : Query where
  sources := [label]

theorem lowerOf_source (text : List Char) :
    lowerOf ("source:".toList ++ text) =
      "source:".toList ++ lowerAfter "source:".toList.reverse text := by
  have hname : "source:".toList.all (Settled ·) = true := by decide
  have hsettled : ∀ c ∈ "source:".toList, Settled c := by
    simpa only [List.all_eq_true, decide_eq_true_iff] using hname
  generalize "source:".toList = name at hsettled ⊢
  have hlowered := lowerAfter_append_of_asciiLower hsettled (asciiLowerOf_eq_self hsettled) [] text
  rwa [List.append_nil] at hlowered

theorem classify_source {value : List Char} (hvalue : value ≠ []) :
    Token.classify ("source:".toList ++ value) = .source (String.ofList value) := by
  have hletters : "source:".toList = ['s', 'o', 'u', 'r', 'c', 'e', ':'] := rfl
  have hcut : cutAt? ':' ("source:".toList ++ value) = some ("source".toList, value) := rfl
  have hnamed : Token.namedFilter? "source" (String.ofList value) =
      some (.source (String.ofList value)) := by
    have hne : String.ofList value ≠ "" := by simpa using hvalue
    rw [Token.namedFilter?, if_neg hne]
  have hpositive : Token.classify ("source:".toList ++ value) =
      Token.positive ("source:".toList ++ value) := by
    rw [hletters]
    unfold Token.classify
    split
    · next hsame =>
        have hfirst : some 's' = some '-' := congrArg List.head? hsame
        exact absurd hfirst (by decide)
    · rfl
  rw [hpositive, Token.positive, hcut]
  dsimp only
  rw [String.ofList_toList, hnamed]
  rfl

theorem parse_source {source : String} (hsource : isWord source = true) :
    parse ("source:" ++ source) = ofSource (askedLabel source) := by
  obtain ⟨hne, hletters⟩ := isWord_iff.1 hsource
  have hlist : source.toList ≠ [] := by simpa using hne
  have hlowered : lowerAfter "source:".toList.reverse source.toList ≠ [] :=
    lowerAfter_ne_nil hlist _
  have hname : "source:".toList.all (! isBlank ·) = true := by decide
  have hword : ∀ c ∈ "source:".toList ++ source.toList, isBlank c = false := by
    simp only [List.all_eq_true, Bool.not_eq_true'] at hname
    exact List.forall_mem_append.2 ⟨hname, hletters⟩
  have hopening :
      QueryReading.opening?
        ("source:".toList ++ lowerAfter "source:".toList.reverse source.toList) = none := rfl
  rw [parse, ofWords, String.toList_append, wordsOf_lowerOf,
    wordsOf_of_letters (by simp) hword, List.map_singleton, lowerOf_source]
  simp only [List.foldl_cons, List.foldl_nil, QueryReading.read, hopening,
    classify_source hlowered, QueryReading.finish]
  rfl

/-- A label is asked for as it is stored, unless it opens with a capital sigma. -/
theorem askedLabel_eq_storedLabel_iff {source : String} (hsource : isWord source = true) :
    askedLabel source = storedLabel source ↔ ¬OpensWithSigma source.toList := by
  have hletter : ("source:".toList.reverse.dropWhile isCaseIgnorable).head?.any isCased = true := by
    set_option maxRecDepth 2000 in decide
  have hlabel : storedLabel source = String.ofList (lowerOf source.toList) := by
    rw [storedLabel, trim_of_letters (isWord_iff.1 hsource).2, lower]
  have hnear : ∀ c ∈ ([] : List Char), isCaseIgnorable c = true := List.forall_mem_nil _
  rw [hlabel, askedLabel, String.ofList_inj]
  exact lowerAfter_letter_iff hnear hletter source.toList

end Query

/-! ## Finding the items -/

namespace Search

variable {store : Store} {item : StoredItem}

theorem meets_ofSource_iff {label : String} :
    store.meets (Query.ofSource label) item = true ↔ ⟨item.id, label⟩ ∈ store.sources := by
  have hmeets : store.meets (Query.ofSource label) item =
      store.sourceMatches (Query.ofSource label) item := by
    change (Store.sourceMatches _ _ _ && true && true && true && true && true && true) = _
    simp
  rw [hmeets, sourceMatches_iff]
  constructor
  · rintro (hnone | ⟨⟨_, _⟩, hrow, rfl, hlabel⟩)
    · cases hnone
    · rwa [← List.mem_singleton.1 hlabel]
  · exact fun hrow => .inr ⟨_, hrow, rfl, List.mem_singleton_self label⟩

/-- A search for a label finds the items that have the label which is asked for. -/
theorem mem_hits_source_iff {α : Type} [Scalar α] (catalog : Catalog α) (hsound : store.Sound)
    {source : String} (hsource : isWord source = true) (hitem : item ∈ store.items) :
    item.view.hit ∈ (catalog.search store ("source:" ++ source)).1.hits ↔
      ⟨item.id, Query.askedLabel source⟩ ∈ store.sources := by
  obtain ⟨names, hanswer⟩ := catalog.exists_names_of_search store ("source:" ++ source)
  have hstructural : IsStructural (Query.ofSource (Query.askedLabel source)) :=
    ⟨rfl, rfl, rfl, rfl, rfl⟩
  have haccepted : (Nesting.all
      (Nesting.structural (Query.ofSource (Query.askedLabel source)))).isAccepted = true := rfl
  rw [hanswer, Query.parse_source hsource,
    mem_hits_iff_meets hsound.healthy hstructural haccepted rfl, ← meets_ofSource_iff]
  constructor
  · rintro ⟨other, hother, hmeets, hsame⟩
    rwa [← hsound.item_eq_of_id hother hitem (congrArg Hit.id hsame)]
  · exact fun hmeets => ⟨item, hitem, hmeets, rfl⟩

end Search

/-! ## Runs -/

namespace Archive

theorem Effect.keeps_labels {store next : Store} {request : Request}
    (heffect : Effect store request none next) :
    next.idAt? = store.idAt? ∧ next.sources = store.sources := by
  have hrefreshed (store : Store) (id : ItemId) : (store.refreshed id).idAt? = store.idAt? :=
    Store.idAt?_alter id (fun _ => rfl) (fun _ => rfl)
  cases heffect with
  | nothing _ => exact ⟨rfl, rfl⟩
  | @category tag known category subcategory =>
      apply List.foldlRecOn
        (motive := fun next : Store => next.idAt? = store.idAt? ∧ next.sources = store.sources)
      · exact ⟨rfl, rfl⟩
      · exact fun middle hmiddle id _ => ⟨(hrefreshed middle id).trans hmiddle.1, hmiddle.2⟩
  | @removal path name item tag stored known attached =>
      exact ⟨hrefreshed (store.detached item.id tag.id) item.id, rfl⟩
  | pool pool stored =>
      rw [Store.pooled_eq]
      exact ⟨rfl, rfl⟩
  | favorite favorite stored =>
      rw [Store.marked_eq]
      exact ⟨rfl, rfl⟩
  | orphans => exact ⟨rfl, rfl⟩

theorem Effect.labelled {store next : Store} {request : Request}
    {batch? : Option (List ItemRecord)} {records : List ItemRecord}
    (heffect : Effect store request batch? next) (hhealthy : store.Healthy)
    (h : store.Labelled records) : next.Labelled (records ++ batch?.toList.flatten) := by
  cases batch? with
  | none =>
      obtain ⟨hids, hsources⟩ := heffect.keeps_labels
      simpa using h.of_eq hids hsources
  | some batch =>
      cases heffect with
      | batch buffered valid done =>
          rw [Store.storeBatch_of_healthy hhealthy] at done
          simpa using h.foldlM_storeRecord hhealthy done

variable {α : Type} [Scalar α]

/-- Whatever was called since a record was stored, a search for one of its sources finds
its item if a stored record of its path has a source whose stored label is the one that is
asked for, and that is its own unless it opens with a capital sigma. -/
theorem labels_are_found
    (configs : ℕ → Config) (limits : ℕ → ℕ) {calls : List Call}
    (hordinary : ∀ call ∈ calls, call.request.isOrdinary = true) :
    let start : Archive α := opened {} configs limits
    let records := start.stored calls
    let store := (start.run calls).store
    ∀ record ∈ records, ∀ source ∈ record.sources, isWord source = true →
      ∃ item ∈ store.items, item.filepath = record.filepath ∧
        (Query.askedLabel source = storedLabel source ↔ ¬OpensWithSigma source.toList) ∧
        ∀ catalog : Catalog α,
          (item.view.hit ∈ (catalog.search store ("source:" ++ source)).1.hits ↔
            ∃ other ∈ records, other.filepath = record.filepath ∧
              Store.GivesLabel other (Query.askedLabel source)) ∧
          (¬OpensWithSigma source.toList →
            item.view.hit ∈ (catalog.search store ("source:" ++ source)).1.hits) := by
  intro start records store record hrecord source hsource hword
  have hlive : start.Live := live_opened Store.consistent_empty configs limits
  have hsound : store.Sound := (hlive.run hordinary).consistent.sound
  have hlabelled : store.Labelled records := by
    refine stored_induction (motive := fun _ records store => store.Labelled records)
      hlive hordinary Store.labelled_empty ?_
    intro before call stored batch? earlier next hearlier hbefore heffect
    exact heffect.labelled hearlier.sound.healthy hbefore
  obtain ⟨item, hitem, hpath⟩ := hlabelled.exists_item hrecord
  have hsame := Query.askedLabel_eq_storedLabel_iff hword
  have hfound (catalog : Catalog α) :
      item.view.hit ∈ (catalog.search store ("source:" ++ source)).1.hits ↔
        ∃ other ∈ records, other.filepath = record.filepath ∧
          Store.GivesLabel other (Query.askedLabel source) := by
    rw [Search.mem_hits_source_iff catalog hsound hword hitem,
      hlabelled.mem_sources_iff hsound hitem, hpath]
  refine ⟨item, hitem, hpath, hsame, fun catalog => ⟨hfound catalog, ?_⟩⟩
  intro hopens
  exact (hfound catalog).2 ⟨record, hrecord, rfl, source, hsource, (hsame.2 hopens).symm⟩

/-- Capitals with a sigma at the end, found after the item came again without sources and
a tag was taken off it. -/
theorem labels_are_found_of_capitals :
    let source := "ΑΣ"
    let record : ItemRecord :=
      { filepath := "a.png", contentHash := "0", tags := [{ name := "red" }]
        sources := [source, "Web"] }
    let calls : List Call :=
      [⟨0, 0, .add record⟩,
        ⟨0, 0, .flush⟩,
        ⟨1, 1, .add { filepath := "a.png", contentHash := "1" }⟩,
        ⟨1, 1, .flush⟩,
        ⟨0, 1, .removeTag "a.png" "red"⟩]
    let store := ((opened {} (fun _ => {}) (fun _ => 8) : Archive Float).run calls).store
    let catalog : Catalog Float := .fresh {}
    ∃ item ∈ store.items, item.filepath = "a.png" ∧
      item.view.hit ∈ (catalog.search store ("source:" ++ source)).1.hits := by
  intro source record calls
  have hordinary : ∀ call ∈ calls, call.request.isOrdinary = true := by decide
  have hrecord :
      record ∈ (opened {} (fun _ => {}) (fun _ => 8) : Archive Float).stored calls := by
    set_option maxRecDepth 2000 in decide
  have hword : isWord source = true ∧ ¬OpensWithSigma source.toList := by
    set_option maxRecDepth 2000 in decide
  obtain ⟨item, hitem, hpath, -, hfound⟩ :=
    labels_are_found (α := Float) (fun _ => {}) (fun _ => 8) hordinary record hrecord source
      List.mem_cons_self hword.1
  exact ⟨item, hitem, hpath, (hfound _).2 hword.2⟩

/-- A sigma that stands alone ends no word on its own, and behind `source:` it does. -/
theorem label_of_sigma_is_not_found :
    let calls : List Call :=
      [⟨0, 0, .add { filepath := "a.png", contentHash := "0", sources := ["Σ"] }⟩,
        ⟨0, 0, .flush⟩]
    let store := ((opened {} (fun _ => {}) (fun _ => 8) : Archive Float).run calls).store
    let catalog : Catalog Float := .fresh {}
    (∀ call ∈ calls, call.request.isOrdinary = true) ∧
      (∃ record ∈ (opened {} (fun _ => {}) (fun _ => 8) : Archive Float).stored calls,
        record.filepath = "a.png" ∧ "Σ" ∈ record.sources) ∧ isWord "Σ" = true ∧
      ∃ item ∈ store.items, item.filepath = "a.png" ∧
        item.view.hit ∉ (catalog.search store ("source:" ++ "Σ")).1.hits := by
  intro calls store catalog
  have hordinary : ∀ call ∈ calls, call.request.isOrdinary = true := by decide
  have hsound : store.Sound :=
    (reachable_run (fun _ => {}) (fun _ => 8) hordinary).consistent.sound
  have hword : isWord "Σ" = true := by decide
  refine ⟨hordinary, by decide, hword, ?_⟩
  obtain ⟨item, hitem, hpath, hunlabelled⟩ :
      ∃ item ∈ store.items, item.filepath = "a.png" ∧
        ⟨item.id, Query.askedLabel "Σ"⟩ ∉ store.sources := by
    set_option maxRecDepth 2000 in decide
  refine ⟨item, hitem, hpath, ?_⟩
  rwa [Search.mem_hits_source_iff catalog hsound hword hitem]

end Archive

end Gallery
