import Gallery.Proofs.Catalog.Coherent
import Gallery.Proofs.Item.Tags
import Gallery.Proofs.Search.Route
import Gallery.Proofs.Store.Consistent

/-!
# Searching as a scan of the relations

`Search.Fits` says what a query asks of an item in terms of the relations alone: the
tags attached to it, its sources and its structural facets.  The store and the filter
look elsewhere, at tag numbers and at lower-cased texts.  In a consistent store the
texts are the names of the attached tags, so the two agree on every route that does
not use the text index.
-/

namespace Gallery

open Text

/-! ## Texts as tags -/

namespace Store

variable {store : Store} {item : StoredItem}

def Carries (store : Store) (item : ItemId) (tag : Tag) : Prop :=
  tag ∈ store.tags ∧ ∃ a ∈ store.attachments, a.item = item ∧ a.tag = tag.id

instance (store : Store) (item : ItemId) (tag : Tag) : Decidable (store.Carries item tag) :=
  inferInstanceAs (Decidable (_ ∧ _))

theorem Sound.mem_namesOf_iff_carries
    (h : store.Sound) {id : ItemId} {category : Category} {name : String} :
    name ∈ store.namesOf id category ↔
      ∃ tag, store.Carries id tag ∧ tag.category = category ∧ tag.name = name := by
  rw [h.mem_namesOf_iff]
  constructor
  · rintro ⟨tag, htag, hname, hcategory, hattached⟩
    exact ⟨tag, ⟨htag, hattached⟩, hcategory, hname⟩
  · rintro ⟨tag, ⟨htag, hattached⟩, hcategory, hname⟩
    exact ⟨tag, htag, hname, hcategory, hattached⟩

theorem Consistent.mem_words_lower_get
    (h : store.Consistent) (hitem : item ∈ store.items) {category : Category} {term : String} :
    term ∈ words (lower (item.tags.get category)) ↔
      ∃ tag, store.Carries item.id tag ∧ tag.category = category ∧ lower tag.name = term := by
  rw [h.get_tags hitem,
    words_lower_intercalate_names fun name hname => h.sound.isWord_of_mem_namesOf hname,
    List.mem_map]
  constructor
  · rintro ⟨name, hname, rfl⟩
    obtain ⟨tag, htag, hcategory, rfl⟩ := h.sound.mem_namesOf_iff_carries.1 hname
    exact ⟨tag, htag, hcategory, rfl⟩
  · rintro ⟨tag, htag, hcategory, rfl⟩
    exact ⟨tag.name, h.sound.mem_namesOf_iff_carries.2 ⟨tag, htag, hcategory, rfl⟩, rfl⟩

/-- The lower-cased words of an item are the lower-cased names of its tags. -/
theorem Consistent.mem_words_lower_joined
    (h : store.Consistent) (hitem : item ∈ store.items) {term : String} :
    term ∈ words (lower item.tags.joined) ↔
      ∃ tag, store.Carries item.id tag ∧ lower tag.name = term := by
  rw [CategoryTags.mem_words_lower_joined_iff]
  constructor
  · rintro ⟨category, hterm⟩
    obtain ⟨tag, htag, -, hname⟩ := (h.mem_words_lower_get hitem).1 hterm
    exact ⟨tag, htag, hname⟩
  · rintro ⟨tag, htag, hname⟩
    exact ⟨tag.category, (h.mem_words_lower_get hitem).2 ⟨tag, htag, rfl, hname⟩⟩

/-! ## Numbers as tags -/

theorem Sound.id?_eq_some_iff (h : store.Sound) {name : String} {id : TagId} :
    store.names.id? name = some id ↔ ∃ tag ∈ store.tags, tag.name = name ∧ tag.id = id := by
  have hfind : ∀ tags : List Tag, (TagNames.ofTags tags).id? name =
      (tags.find? (·.name = name)).map (·.id) := by
    intro tags
    simp only [TagNames.ofTags, TagNames.id?, List.find?_map, Option.map_map]
    rfl
  have hunique : ((store.tags.mergeSort fun a b => a.id ≤ b.id).map (·.name)).Nodup :=
    ((List.mergeSort_perm _ _).map _).nodup_iff.2 h.tagNames
  rw [names, hfind, Option.map_eq_some_iff]
  constructor
  · rintro ⟨tag, htag, hid⟩
    obtain ⟨hmem, hname⟩ := (find?_eq_some_iff_of_nodup hunique).1 htag
    exact ⟨tag, List.mem_mergeSort.1 hmem, hname, hid⟩
  · rintro ⟨tag, hmem, hname, hid⟩
    exact ⟨tag, (find?_eq_some_iff_of_nodup hunique).2 ⟨List.mem_mergeSort.2 hmem, hname⟩, hid⟩

theorem mem_held_iff {id : ItemId} {tag : TagId} :
    tag ∈ (store.attachmentsOf id).map (·.tag) ↔
      ∃ a ∈ store.attachments, a.item = id ∧ a.tag = tag := by
  simp [attachmentsOf, and_assoc]

theorem Sound.hasAll_iff
    (h : store.Sound) {terms : List String}
    (hknown : ∀ term ∈ terms, (store.names.id? term).isSome = true) (id : ItemId) :
    store.hasAll id (store.names.ids terms) = true ↔
      ∀ term ∈ terms, ∃ tag, store.Carries id tag ∧ tag.name = term := by
  simp only [hasAll, List.all_eq_true, List.contains_iff_mem, mem_held_iff, TagNames.ids,
    List.mem_filterMap]
  constructor
  · intro hall term hterm
    obtain ⟨number, hnumber⟩ := Option.isSome_iff_exists.1 (hknown term hterm)
    obtain ⟨tag, htag, hname, hid⟩ := h.id?_eq_some_iff.1 hnumber
    obtain ⟨a, ha, haitem, hatag⟩ := hall number ⟨term, hterm, hnumber⟩
    exact ⟨tag, ⟨htag, a, ha, haitem, hatag.trans hid.symm⟩, hname⟩
  · rintro hall number ⟨term, hterm, hnumber⟩
    obtain ⟨tag, ⟨htag, a, ha, haitem, hatag⟩, hname⟩ := hall term hterm
    obtain ⟨other, hother, hothername, hid⟩ := h.id?_eq_some_iff.1 hnumber
    have hsame : tag = other := h.tag_eq_of_name htag hother (hname.trans hothername.symm)
    exact ⟨a, ha, haitem, hatag.trans (hsame ▸ hid)⟩

theorem Sound.hasNone_of
    (h : store.Sound) {terms : List String} {id : ItemId}
    (hnone : ∀ term ∈ terms, ∀ tag, store.Carries id tag → tag.name ≠ term) :
    store.hasNone id (store.names.ids terms) = true := by
  simp only [hasNone, Bool.not_eq_true', List.any_eq_false, List.contains_iff_mem, mem_held_iff,
    TagNames.ids, List.mem_filterMap]
  rintro number ⟨term, hterm, hnumber⟩ ⟨a, ha, haitem, hatag⟩
  obtain ⟨tag, htag, hname, hid⟩ := h.id?_eq_some_iff.1 hnumber
  exact hnone term hterm tag ⟨htag, a, ha, haitem, hatag.trans hid.symm⟩ hname

end Store

namespace Search

/-- What a query asks of an item, read off the relations. -/
structure Fits (ends : String → String → Prop) (fold : String → String) (store : Store)
    (query : Query) (item : StoredItem) : Prop where
  general : ∀ term ∈ query.general, ∃ tag, store.Carries item.id tag ∧ tag.name = term
  negative : ∀ term ∈ query.negative,
    (∀ tag, store.Carries item.id tag → lower tag.name ≠ term) ∧
      ¬term.toList <:+: (lower item.filepath).toList
  categorized : ∀ asked ∈ query.categorized,
    ∃ tag, store.Carries item.id tag ∧ tag.category = asked.1 ∧ lower tag.name = asked.2
  ratings : query.ratings ≠ [] → ∀ name,
    name ∈ query.ratings.map RatingLevel.tagName ↔
      ∃ tag, store.Carries item.id tag ∧ tag.category = .rating ∧ lower tag.name = name
  metadataPresent : query.metadata = some .present →
    ∃ row ∈ store.sources, row.item = item.id ∧ row.label ≠ automaticTagger
  metadataMissing : query.metadata = some .missing →
    ∀ row ∈ store.sources, row.item = item.id → row.label = automaticTagger
  facets : Facets ends fold store query item

variable {store : Store} {query : Query} {item : StoredItem}

/-! ## Checks in memory -/

theorem metadataAccepts_iff :
    Filter.metadataAccepts query (store.sourcesOf item.id) = true ↔
      (query.metadata = some .present →
        ∃ row ∈ store.sources, row.item = item.id ∧ row.label ≠ automaticTagger) ∧
      (query.metadata = some .missing →
        ∀ row ∈ store.sources, row.item = item.id → row.label = automaticTagger) := by
  unfold Filter.metadataAccepts Store.sourcesOf
  cases hmetadata : query.metadata with
  | none => simp
  | some filter => cases filter <;> simp

theorem categoriesAccept_iff (h : store.Consistent) (hitem : item ∈ store.items) :
    Filter.categoriesAccept query item.view = true ↔
      ∀ asked ∈ query.categorized,
        ∃ tag, store.Carries item.id tag ∧ tag.category = asked.1 ∧ lower tag.name = asked.2 := by
  unfold Filter.categoriesAccept Filter.loweredTags
  rw [List.all_eq_true]
  refine forall₂_congr fun asked _ => ?_
  rw [List.contains_iff_mem]
  exact h.mem_words_lower_get hitem

theorem ratingsAccept_iff (h : store.Consistent) (hitem : item ∈ store.items) :
    Filter.ratingsAccept query item.view = true ↔
      (query.ratings ≠ [] → ∀ name,
        name ∈ query.ratings.map RatingLevel.tagName ↔
          ∃ tag, store.Carries item.id tag ∧ tag.category = .rating ∧
            lower tag.name = name) := by
  have hheld : ∀ name, name ∈ Filter.loweredTags item.view .rating ↔
      ∃ tag, store.Carries item.id tag ∧ tag.category = .rating ∧ lower tag.name = name :=
    fun name => h.mem_words_lower_get hitem
  unfold Filter.ratingsAccept
  rw [Bool.or_eq_true, List.isEmpty_iff, Bool.and_eq_true, List.all_eq_true, List.all_eq_true]
  simp only [List.contains_iff_mem]
  constructor
  · rintro (hnone | ⟨hasked, hfound⟩) hsome name
    · exact absurd hnone hsome
    · rw [← hheld]
      exact ⟨hasked name, hfound name⟩
  · intro hsame
    by_cases hnone : query.ratings = []
    · exact Or.inl hnone
    · have hnames := hsame hnone
      refine Or.inr ⟨?_, ?_⟩
      · exact fun name hname => (hheld name).2 ((hnames name).1 hname)
      · exact fun name hname => (hnames name).2 ((hheld name).1 hname)

/-- The excluded terms, and what is left of the general ones in memory. -/
theorem termsAccept_iff
    (h : store.Consistent) (hitem : item ∈ store.items) (hplain : query.Plain)
    (hgeneral : ∀ term ∈ query.general, ∃ tag, store.Carries item.id tag ∧ tag.name = term) :
    Filter.termsAccept query item.view = true ↔
      ∀ term ∈ query.negative,
        (∀ tag, store.Carries item.id tag → lower tag.name ≠ term) ∧
          ¬term.toList <:+: (lower item.filepath).toList := by
  have hjoined : ∀ {term : String}, term ∈ words (lower item.view.tags.joined) ↔
      ∃ tag, store.Carries item.id tag ∧ lower tag.name = term :=
    h.mem_words_lower_joined hitem
  have hheld : ∀ term ∈ query.general, term ∈ words (lower item.view.tags.joined) := by
    intro term hterm
    obtain ⟨tag, htag, hname⟩ := hgeneral term hterm
    refine hjoined.2 ⟨tag, htag, ?_⟩
    rw [hname]
    exact lower_eq_self (hplain.general term hterm).settled
  have hpath : item.view.filepath = item.filepath := rfl
  unfold Filter.termsAccept
  rw [Bool.or_eq_true]
  simp only [Bool.and_eq_true, List.all_eq_true, Bool.or_eq_true, List.contains_iff_mem,
    Bool.not_eq_true', List.any_eq_false, hpath, contains, occursIn_iff, not_or]
  constructor
  · rintro (hnone | ⟨-, hnegative⟩) term hterm
    · simp only [Query.hasTerms, Bool.or_eq_false_iff, Bool.not_eq_false',
        List.isEmpty_iff] at hnone
      rw [hnone.2] at hterm
      cases hterm
    · obtain ⟨hnot, houtside⟩ := hnegative term hterm
      exact ⟨fun tag htag hname => hnot (hjoined.2 ⟨tag, htag, hname⟩), houtside⟩
  · intro hnegative
    refine Or.inr ⟨fun term hterm => Or.inl (Or.inl (hheld term hterm)), ?_⟩
    intro term hterm
    obtain ⟨hnot, houtside⟩ := hnegative term hterm
    refine ⟨?_, houtside⟩
    intro hmem
    obtain ⟨tag, htag, hname⟩ := hjoined.1 hmem
    exact hnot tag htag hname

theorem accepts_false_iff
    (h : store.Consistent) (hitem : item ∈ store.items) (hplain : query.Plain)
    (hgeneral : ∀ term ∈ query.general, ∃ tag, store.Carries item.id tag ∧ tag.name = term)
    {ends : String → String → Prop} {fold : String → String}
    (hfacets : Facets ends fold store query item) :
    Filter.accepts query false (SideTables.full store query) item.view = true ↔
      Fits ends fold store query item := by
  have hsources : (SideTables.full store query).sourcesOf item.view.id =
      store.sourcesOf item.id := rfl
  unfold Filter.accepts
  rw [Bool.and_eq_true, Bool.and_eq_true, Bool.and_eq_true, Bool.and_eq_true, hsources,
    metadataAccepts_iff, categoriesAccept_iff h hitem, ratingsAccept_iff h hitem,
    termsAccept_iff h hitem hplain hgeneral]
  constructor
  · rintro ⟨⟨⟨⟨-, hpresent, hmissing⟩, hcategorized⟩, hratings⟩, hnegative⟩
    exact ⟨hgeneral, hnegative, hcategorized, hratings, hpresent, hmissing, hfacets⟩
  · intro hfits
    exact ⟨⟨⟨⟨rfl, hfits.metadataPresent, hfits.metadataMissing⟩, hfits.categorized⟩,
      hfits.ratings⟩, hfits.negative⟩

/-! ## Routes -/

/-- How a route folds paths and file names: the store in its own way, the filter fully. -/
def foldOf : Route → String → String
  | .fallback | .hybrid => lower
  | _ => asciiLower

/-- What counts as an ending on a route. -/
def endsOf : Route → String → String → Prop
  | .fallback | .hybrid => EndsIn lower
  | _ => LooksLikeEnding

theorem facets_of_none
    (hnone : query.hasStructuralFilters = false) (ends : String → String → Prop)
    (fold : String → String) : Facets ends fold store query item := by
  simp only [Query.hasStructuralFilters, Bool.or_eq_false_iff, Bool.not_eq_false',
    Option.isSome_eq_false_iff, Option.isNone_iff_eq_none, List.isEmpty_iff] at hnone
  obtain ⟨⟨⟨⟨⟨⟨hsources, hfilename⟩, hextensions⟩, hpool⟩, hrelationship⟩, hfavorite⟩,
    hupscaled⟩ := hnone
  constructor <;> simp [hsources, hfilename, hextensions, hpool, hrelationship, hfavorite,
    hupscaled]

theorem general_eq_nil (hterms : query.hasTerms = false) : query.general = [] := by
  simp only [Query.hasTerms, Bool.or_eq_false_iff, Bool.not_eq_false', List.isEmpty_iff] at hterms
  exact hterms.1

theorem facets_and_accepts_iff
    (h : store.Consistent) (hitem : item ∈ store.items) (hplain : query.Plain)
    (hgeneral : ∀ term ∈ query.general, ∃ tag, store.Carries item.id tag ∧ tag.name = term)
    {ends : String → String → Prop} {fold : String → String} :
    Facets ends fold store query item ∧
        Filter.accepts query false (SideTables.full store query) item.view = true ↔
      Fits ends fold store query item := by
  constructor
  · rintro ⟨hfacets, haccepts⟩
    exact (accepts_false_iff h hitem hplain hgeneral hfacets).1 haccepts
  · intro hfits
    exact ⟨hfits.facets, (accepts_false_iff h hitem hplain hgeneral hfits.facets).2 hfits⟩

theorem selects_exactTag_iff
    (h : store.Consistent) (hitem : item ∈ store.items) (hplain : query.Plain)
    (hpath : '\x00' ∉ item.filepath.toList)
    (hknown : ∀ term ∈ query.general, (store.names.id? term).isSome = true) :
    selects store query .exactTag (store.names.ids query.general)
        (store.names.ids query.negative) item = true ↔
      Fits LooksLikeEnding asciiLower store query item := by
  unfold selects Store.holdsTags
  rw [Bool.and_eq_true, Bool.and_eq_true, Bool.and_eq_true, h.sound.hasAll_iff hknown,
    meets_iff hplain hpath]
  constructor
  · rintro ⟨⟨⟨-, hfacets⟩, hgeneral⟩, haccepts⟩
    exact (facets_and_accepts_iff h hitem hplain hgeneral).1 ⟨hfacets, haccepts⟩
  · intro hfits
    refine ⟨⟨⟨h.sound.hasNone_of ?_, hfits.facets⟩, hfits.general⟩,
      (accepts_false_iff h hitem hplain hfits.general hfits.facets).2 hfits⟩
    intro term hterm tag htag hname
    apply (hfits.negative term hterm).1 tag htag
    rw [hname]
    exact lower_eq_self (hplain.negative term hterm).settled

/-- Every route but the text index selects the items that fit the query. -/
theorem selects_iff
    (h : store.Consistent) (hitem : item ∈ store.items) (hplain : query.Plain)
    (hpath : '\x00' ∉ item.filepath.toList) {exact : List Bool}
    (hexact : exact = query.general.map fun term => (store.names.id? term).isSome)
    (hindex : Route.choose query exact ≠ .hybrid) :
    selects store query (Route.choose query exact) (store.names.ids query.general)
        (store.names.ids query.negative) item = true ↔
      Fits (endsOf (Route.choose query exact)) (foldOf (Route.choose query exact)) store query
        item := by
  have hgeneral : query.hasTerms = false →
      ∀ term ∈ query.general, ∃ tag, store.Carries item.id tag ∧ tag.name = term := by
    intro hterms term hterm
    rw [general_eq_nil hterms] at hterm
    cases hterm
  cases hroute : Route.choose query exact with
  | simpleOrder =>
      obtain ⟨hterms, hmetadata, hcategorized, hnone⟩ := Route.of_simpleOrder hroute
      refine iff_of_true rfl ?_
      exact (facets_and_accepts_iff h hitem hplain (hgeneral hterms)).1
        ⟨facets_of_none hnone _ _, Filter.accepts_of_none hterms hmetadata hcategorized _ _⟩
  | simpleFilter =>
      have hterms := (Route.of_simpleFilter hroute).1
      unfold selects
      rw [Bool.and_eq_true, meets_iff hplain hpath]
      exact facets_and_accepts_iff h hitem hplain (hgeneral hterms)
  | exactTag =>
      refine selects_exactTag_iff h hitem hplain hpath ?_
      intro term hterm
      apply (Route.of_exactTag hroute).2
      rw [hexact]
      exact List.mem_map_of_mem hterm
  | fallback =>
      have hterms := Route.of_fallback hroute
      change Filter.accepts query true (SideTables.full store query) item.view = true ↔ _
      rw [Filter.accepts_true, Bool.and_eq_true, structuralAccepts_iff hplain]
      exact facets_and_accepts_iff h hitem hplain (hgeneral hterms)
  | hybrid => exact absurd hroute hindex

/-! ## Endings told apart -/

theorem Facets.imp
    {ends ends' : String → String → Prop} {fold : String → String}
    (hends : ∀ ending ∈ query.extensions, ends ending item.filepath → ends' ending item.filepath)
    (h : Facets ends fold store query item) : Facets ends' fold store query item :=
  { h with
    extension := by
      obtain hnone | ⟨ending, hending, hpath⟩ := h.extension
      · exact Or.inl hnone
      · exact Or.inr ⟨ending, hending, hends ending hending hpath⟩ }

theorem Fits.imp
    {ends ends' : String → String → Prop} {fold : String → String}
    (hends : ∀ ending ∈ query.extensions, ends ending item.filepath → ends' ending item.filepath)
    (h : Fits ends fold store query item) : Fits ends' fold store query item :=
  { h with facets := h.facets.imp hends }

theorem endsOf_iff
    (hdistinct : Distinguishable query) (route : Route) {ending path : String}
    (hending : ending ∈ query.extensions) :
    endsOf route ending path ↔ EndsIn (foldOf route) ending path := by
  have hlike : LooksLikeEnding ending path ↔ EndsIn asciiLower ending path :=
    looksLikeEnding_iff (hdistinct ending hending)
  cases route with
  | fallback | hybrid => exact Iff.rfl
  | simpleOrder | simpleFilter | exactTag => exact hlike

/-- Where a pattern tells the endings asked for from all others, a route looks for
them as they are. -/
theorem fits_iff_of_distinguishable (hdistinct : Distinguishable query) (route : Route) :
    Fits (endsOf route) (foldOf route) store query item ↔
      Fits (EndsIn (foldOf route)) (foldOf route) store query item := by
  constructor
  · exact Fits.imp fun ending hending => (endsOf_iff hdistinct route hending).1
  · exact Fits.imp fun ending hending => (endsOf_iff hdistinct route hending).2

/-! ## Hits -/

/-- The route of a query where the directory knows some names. -/
def routeOf (names : TagNames) (query : Query) : Route :=
  Route.choose query (query.general.map fun term => (names.id? term).isSome)

/-- What the store says to a query where the directory knows some names. -/
def outcome (store : Store) (names : TagNames) (query : Query) :
    Except StoreError (List Item) :=
  run store query (routeOf names query)
    (query.general.map fun term => (names.id? term).isSome)
    (names.ids query.general) (names.ids query.negative)

theorem answer_eq (store : Store) (names : TagNames) (query : Query) :
    answer store names query =
      results query (routeOf names query) (outcome store names query) := rfl

theorem route_answer (store : Store) (names : TagNames) (query : Query) :
    (answer store names query).route = routeOf names query := by
  rw [answer_eq]
  cases outcome store names query with
  | error fault => rfl
  | ok items => rfl

theorem isOk_of_mem_hits
    {names : TagNames} {hit : Hit} (hhit : hit ∈ (answer store names query).hits) :
    (outcome store names query).isOk = true := by
  rw [answer_eq] at hhit
  obtain ⟨items, houtcome, -⟩ := hits_results.1 hhit
  rw [houtcome]
  rfl

/-- Only the attachments are asked for tags by number. -/
theorem run_of_ne_exactTag
    {route : Route} (hroute : route ≠ .exactTag) (exact : List Bool)
    (included excluded : List TagId) :
    run store query route exact included excluded = run store query route exact [] [] := by
  cases route with
  | exactTag => exact absurd rfl hroute
  | simpleOrder | simpleFilter | hybrid | fallback => rfl

/-- The directory makes no difference to a query that does not consult it. -/
theorem answer_of_not_consults
    (hconsults : ¬consultsDirectory query = true) (names : TagNames) :
    answer store names query = answer store {} query := by
  simp only [consultsDirectory, Bool.or_eq_true, Bool.not_eq_true', List.isEmpty_eq_false_iff,
    decide_eq_true_eq, not_or, not_not] at hconsults
  obtain ⟨hgeneral, hroute⟩ := hconsults
  have hsame : ∀ names : TagNames,
      answer store names query =
        results query (Route.choose query []) (run store query (Route.choose query []) [] [] []) := by
    intro names
    rw [← run_of_ne_exactTag hroute [] (names.ids query.general) (names.ids query.negative),
      answer_eq, outcome, routeOf, hgeneral, List.map_nil]
  rw [hsame names, hsame {}]

theorem mem_hits_iff
    (h : store.Consistent) (hplain : query.Plain)
    (hpaths : ∀ item ∈ store.items, '\x00' ∉ item.filepath.toList)
    (hindex : routeOf store.names query ≠ .hybrid)
    (hanswered : (outcome store store.names query).isOk = true) {hit : Hit} :
    hit ∈ (answer store store.names query).hits ↔
      ∃ item ∈ store.items, item.view.hit = hit ∧
        Fits (endsOf (routeOf store.names query)) (foldOf (routeOf store.names query)) store
          query item := by
  obtain ⟨items, hrun⟩ : ∃ items, outcome store store.names query = .ok items := by
    cases houtcome : outcome store store.names query with
    | error fault =>
        rw [houtcome] at hanswered
        cases hanswered
    | ok items => exact ⟨items, rfl⟩
  have hperm := run_ok_of_ne_hybrid h.sound.healthy hindex hrun
  have hselects : ∀ item ∈ store.items,
      (selects store query (routeOf store.names query) (store.names.ids query.general)
          (store.names.ids query.negative) item = true ↔
        Fits (endsOf (routeOf store.names query)) (foldOf (routeOf store.names query)) store
          query item) :=
    fun item hitem => selects_iff h hitem hplain (hpaths item hitem) rfl hindex
  rw [answer_eq, hrun, hits_results]
  constructor
  · rintro ⟨_, hitems, shown, hshown, hhit⟩
    cases hitems
    obtain ⟨item, hitem, rfl⟩ := List.mem_map.1 (hperm.mem_iff.1 hshown)
    obtain ⟨hmem, hselected⟩ := List.mem_filter.1 hitem
    exact ⟨item, hmem, hhit, (hselects item hmem).1 hselected⟩
  · rintro ⟨item, hitem, hhit, hfits⟩
    refine ⟨items, rfl, item.view, hperm.mem_iff.2 (List.mem_map_of_mem ?_), hhit⟩
    exact List.mem_filter.2 ⟨hitem, (hselects item hitem).2 hfits⟩

/-- Numbers tell items apart, so a hit stands for one item. -/
theorem view_hit_mem_hits_iff
    (h : store.Consistent) (hplain : query.Plain)
    (hpaths : ∀ item ∈ store.items, '\x00' ∉ item.filepath.toList)
    (hindex : routeOf store.names query ≠ .hybrid)
    (hanswered : (outcome store store.names query).isOk = true) (hitem : item ∈ store.items) :
    item.view.hit ∈ (answer store store.names query).hits ↔
      Fits (endsOf (routeOf store.names query)) (foldOf (routeOf store.names query)) store
        query item := by
  rw [mem_hits_iff h hplain hpaths hindex hanswered]
  constructor
  · rintro ⟨other, hother, hsame, hfits⟩
    have hid : other.id = item.id := congrArg Hit.id hsame
    rwa [h.sound.item_eq_of_id hother hitem hid] at hfits
  · exact fun hfits => ⟨item, hitem, rfl, hfits⟩

end Search

end Gallery
