import Gallery.Proofs.Query.Plain
import Gallery.Proofs.Search.Selection
import Gallery.Proofs.Text.Pattern

/-!
# Structural conditions, in the store and in memory

The store checks the structural facets of a query with its own comparisons, a filter
checks them in memory.  Both amount to the same conditions on the relations but for
the texts: the store folds basic Latin letters only, and it matches the ending of a
path by a pattern, which takes some characters for one another.  What the store lets
through, the filter accepts if the ending really is one.
-/

namespace Gallery

open Text

namespace Search

/-- A path has an ending after it was folded. -/
def EndsIn (fold : String → String) (ending path : String) : Prop :=
  ending.toList <:+ (fold path).toList

/-- A path has an ending as a pattern reads the two. -/
def LooksLikeEnding (ending path : String) : Prop :=
  ending.toList.map readable <:+ (asciiLower path).toList.map readable

/-- The structural conditions on an item, read off the relations.  What it means to have
an ending and how file names are folded is left open. -/
structure Facets (ends : String → String → Prop) (fold : String → String) (store : Store)
    (query : Query) (item : StoredItem) : Prop where
  source : query.sources = [] ∨
    ∃ row ∈ store.sources, row.item = item.id ∧ row.label ∈ query.sources
  extension : query.extensions = [] ∨
    ∃ ending ∈ query.extensions, ends ending item.filepath
  filename : ∀ fragment, query.filename = some fragment →
    fragment.toList <:+: (fold item.filename).toList
  anyPool : query.pool = some .any → ∃ row ∈ store.memberships, row.item = item.id
  namedPool : ∀ pool, query.pool = some (.named pool) →
    ∃ row ∈ store.memberships, row.item = item.id ∧ asciiLower row.pool = pool
  parent : query.relationship = some .hasParent → item.parent.isSome = true
  children : query.relationship = some .hasChildren → item.hasChildren = true
  family : query.relationship = some .any → item.parent.isSome = true ∨ item.hasChildren = true
  favorite : query.favorite = true → item.id ∈ store.favorites
  upscaled : query.upscaled = some .present → item.upscaledSize.isSome = true
  unscaled : query.upscaled = some .absent → item.upscaledSize = none

variable {store : Store} {query : Query} {item : StoredItem}

/-! ## Conditions on the relations -/

theorem sourceMatches_iff :
    store.sourceMatches query item = true ↔
      query.sources = [] ∨
        ∃ row ∈ store.sources, row.item = item.id ∧ row.label ∈ query.sources := by
  simp [Store.sourceMatches]

theorem poolMatches_iff :
    store.poolMatches query item = true ↔
      (query.pool = some .any → ∃ row ∈ store.memberships, row.item = item.id) ∧
        ∀ pool, query.pool = some (.named pool) →
          ∃ row ∈ store.memberships, row.item = item.id ∧ asciiLower row.pool = pool := by
  unfold Store.poolMatches
  cases hpool : query.pool with
  | none => simp
  | some filter => cases filter <;> simp

theorem relationshipMatches_iff :
    Store.relationshipMatches query item = true ↔
      (query.relationship = some .hasParent → item.parent.isSome = true) ∧
        (query.relationship = some .hasChildren → item.hasChildren = true) ∧
        (query.relationship = some .any →
          item.parent.isSome = true ∨ item.hasChildren = true) := by
  unfold Store.relationshipMatches
  cases query.relationship with
  | none => simp
  | some filter => cases filter <;> simp

theorem upscaledMatches_iff :
    Store.upscaledMatches query item = true ↔
      (query.upscaled = some .present → item.upscaledSize.isSome = true) ∧
        (query.upscaled = some .absent → item.upscaledSize = none) := by
  unfold Store.upscaledMatches
  cases query.upscaled with
  | none => simp
  | some filter => cases filter <;> simp

/-- The conditions of the store with the two text comparisons left open. -/
def facetsHold (store : Store) (query : Query) (item : StoredItem)
    (extension filename : Bool) : Bool :=
  store.sourceMatches query item && extension && filename &&
    store.poolMatches query item && Store.relationshipMatches query item &&
    (!query.favorite || store.favorites.contains item.id) &&
    Store.upscaledMatches query item

theorem facetsHold_iff
    {ends : String → String → Prop} {fold : String → String} {extension filename : Bool}
    (hextension : extension = true ↔
      query.extensions = [] ∨ ∃ ending ∈ query.extensions, ends ending item.filepath)
    (hfilename : filename = true ↔
      ∀ fragment, query.filename = some fragment →
        fragment.toList <:+: (fold item.filename).toList) :
    facetsHold store query item extension filename = true ↔
      Facets ends fold store query item := by
  have hfavorite :
      (!query.favorite || store.favorites.contains item.id) = true ↔
        (query.favorite = true → item.id ∈ store.favorites) := by
    cases query.favorite <;> simp
  unfold facetsHold
  rw [Bool.and_eq_true, Bool.and_eq_true, Bool.and_eq_true, Bool.and_eq_true, Bool.and_eq_true,
    Bool.and_eq_true, sourceMatches_iff, hextension, hfilename, poolMatches_iff,
    relationshipMatches_iff, hfavorite, upscaledMatches_iff]
  constructor
  · rintro ⟨⟨⟨⟨⟨⟨hsource, hext⟩, hname⟩, hany, hnamed⟩, hparent, hchildren, hfamily⟩, hfav⟩,
      hup, hun⟩
    exact ⟨hsource, hext, hname, hany, hnamed, hparent, hchildren, hfamily, hfav, hup, hun⟩
  · rintro ⟨hsource, hext, hname, hany, hnamed, hparent, hchildren, hfamily, hfav, hup, hun⟩
    exact ⟨⟨⟨⟨⟨⟨hsource, hext⟩, hname⟩, hany, hnamed⟩, hparent, hchildren, hfamily⟩, hfav⟩,
      hup, hun⟩

/-! ## The filter in memory -/

theorem sourceAccepts_sourcesOf (store : Store) (query : Query) (item : StoredItem) :
    Filter.sourceAccepts query (store.sourcesOf item.id) = store.sourceMatches query item := by
  rw [Bool.eq_iff_iff, sourceMatches_iff]
  simp [Filter.sourceAccepts, Store.sourcesOf]

theorem relationshipAccepts_view (query : Query) (item : StoredItem) :
    Filter.relationshipAccepts query item.view = Store.relationshipMatches query item := rfl

theorem upscaledAccepts_view (query : Query) (item : StoredItem) :
    Filter.upscaledAccepts query item.view = Store.upscaledMatches query item := by
  unfold Filter.upscaledAccepts Store.upscaledMatches
  cases query.upscaled with
  | none => rfl
  | some filter =>
      cases filter with
      | present => rfl
      | absent => exact Option.not_isSome item.upscaledSize

theorem isPooled_full (hsettled : query.Over Settled) (item : StoredItem) :
    (query.pool.isNone || (SideTables.full store query).isPooled item.id) =
      store.poolMatches query item := by
  unfold SideTables.isPooled SideTables.full Store.poolMatches
  cases hpool : query.pool with
  | none => rfl
  | some filter =>
      cases filter with
      | any =>
          rw [Bool.eq_iff_iff]
          simp [SideTables.poolItems]
      | named pool =>
          have hself : asciiLower pool = pool :=
            asciiLower_eq_self (hsettled.pool pool hpool)
          rw [Bool.eq_iff_iff]
          simp [SideTables.poolItems, hself, and_left_comm, and_comm]

theorem structuralAccepts_full (hsettled : query.Over Settled) (item : StoredItem) :
    Filter.structuralAccepts query (SideTables.full store query) item.view =
      facetsHold store query item (Filter.extensionAccepts query item.view)
        (Filter.filenameAccepts query item.view) := by
  unfold Filter.structuralAccepts facetsHold
  rw [SideTables.sourcesOf_full, ← isPooled_full hsettled item, ← sourceAccepts_sourcesOf,
    ← relationshipAccepts_view, ← upscaledAccepts_view]
  rfl

theorem meets_eq (store : Store) (query : Query) (item : StoredItem) :
    store.meets query item =
      facetsHold store query item (Store.extensionMatches query item)
        (query.filename.all (contains (asciiLower item.filename))) := rfl

theorem extensionAccepts_iff :
    Filter.extensionAccepts query item.view = true ↔
      query.extensions = [] ∨ ∃ ending ∈ query.extensions, EndsIn lower ending item.filepath := by
  simp [Filter.extensionAccepts, endsWith, EndsIn, StoredItem.view, List.isSuffixOf_iff_suffix]

theorem contains_filename_iff {fold : String → String} :
    query.filename.all (contains (fold item.filename)) = true ↔
      ∀ fragment, query.filename = some fragment →
        fragment.toList <:+: (fold item.filename).toList := by
  cases query.filename with
  | none => simp
  | some fragment => simp [contains, occursIn_iff]

theorem structuralAccepts_iff (hplain : query.Plain) :
    Filter.structuralAccepts query (SideTables.full store query) item.view = true ↔
      Facets (EndsIn lower) lower store query item := by
  rw [structuralAccepts_full hplain.settled]
  exact facetsHold_iff extensionAccepts_iff contains_filename_iff

/-! ## The store -/

theorem nul_of_asciiLower {text : List Char} (htext : '\x00' ∉ text) :
    '\x00' ∉ asciiLowerOf text := by
  intro hmem
  obtain ⟨c, hc, hlower⟩ := List.mem_map.1 hmem
  have hself : c.toLower = c := by
    by_cases hsmall : c.toNat < 128
    · exact eq_of_toLower hsmall (by rw [hlower]; decide)
    · exact toLower_eq_self (by omega)
  apply htext
  rwa [← hlower, hself]

/-- The store matches an ending up to the characters that it does not tell apart. -/
theorem extensionMatches_iff
    (hplain : query.Plain) (hpath : '\x00' ∉ item.filepath.toList) :
    Store.extensionMatches query item = true ↔
      query.extensions = [] ∨
        ∃ ending ∈ query.extensions, LooksLikeEnding ending item.filepath := by
  have hlike : ∀ ending ∈ query.extensions,
      (isLike (Store.endingPattern ending) (asciiLower item.filepath).toList = true ↔
        LooksLikeEnding ending item.filepath) := by
    intro ending hending
    have hasked := hplain.extensions ending hending
    rw [LooksLikeEnding, asciiLower, String.toList_ofList]
    exact isLike_settled_ending hasked.settled hasked.nul (nul_of_asciiLower hpath)
  unfold Store.extensionMatches
  rw [Bool.or_eq_true, List.isEmpty_iff]
  refine or_congr_right ?_
  rw [List.any_eq_true]
  constructor
  · rintro ⟨ending, hending, hmatch⟩
    exact ⟨ending, hending, (hlike ending hending).1 hmatch⟩
  · rintro ⟨ending, hending, hmatch⟩
    exact ⟨ending, hending, (hlike ending hending).2 hmatch⟩

/-- The endings of a query that a pattern tells from all others. -/
def Distinguishable (query : Query) : Prop :=
  ∀ ending ∈ query.extensions, ∀ c ∈ ending.toList, ¬IsConfusable c

instance (query : Query) : Decidable (Distinguishable query) :=
  haveI (ending : String) : Decidable (∀ c ∈ ending.toList, ¬IsConfusable c) :=
    List.decidableBAll (fun c => ¬IsConfusable c) ending.toList
  List.decidableBAll (fun ending : String => ∀ c ∈ ending.toList, ¬IsConfusable c) query.extensions

theorem looksLikeEnding_iff
    {ending path : String} (hending : ∀ c ∈ ending.toList, ¬IsConfusable c) :
    LooksLikeEnding ending path ↔ EndsIn asciiLower ending path :=
  map_readable_suffix_iff hending

/-- The pattern for an ending has no wildcards, whatever signs the ending holds: any matcher
that follows the rules of patterns finds with it the paths that end so, up to the case of
basic Latin letters.  The store's own matcher finds the paths that end so as it reads the two,
and these are the same unless the ending holds a character that it reads as another one. -/
theorem endingPattern_stands_for_itself
    {like : List Char → List Char → Prop} (hlike : FollowsRules like) (ending : String)
    {path : String} (hpath : '\x00' ∉ path.toList) :
    (like (Store.endingPattern ending) (asciiLower path).toList ↔
        EndsUpToCase ending.toList (asciiLower path).toList) ∧
      (isLike (Store.endingPattern ending) (asciiLower path).toList = true ↔
        EndsUpToCase ((untilNul ending.toList).map readable)
          ((asciiLower path).toList.map readable)) ∧
      ('\x00' ∉ ending.toList → (∀ c ∈ ending.toList, ¬IsConfusable c) →
        (isLike (Store.endingPattern ending) (asciiLower path).toList = true ↔
          EndsUpToCase ending.toList (asciiLower path).toList)) := by
  have hread : isLike (Store.endingPattern ending) (asciiLower path).toList = true ↔
      EndsUpToCase ((untilNul ending.toList).map readable)
        ((asciiLower path).toList.map readable) := by
    have hlowered : '\x00' ∉ (asciiLower path).toList := by
      rw [asciiLower, String.toList_ofList]
      exact nul_of_asciiLower hpath
    rw [Store.endingPattern, isLike_ending, untilNul_eq_self hlowered]
  refine ⟨hlike.ending_iff, hread, ?_⟩
  intro hnul hdistinct
  rw [hread, untilNul_eq_self hnul]
  exact endsUpToCase_map_readable_iff hdistinct

/-- A percent sign, an underscore and a backslash in an ending, which is given with a capital
letter; the second path has other characters in their places. -/
theorem endingPattern_stands_for_itself_of_signs :
    FollowsRules (fun pattern text => isLikeExactly pattern text = true) ∧
      '\x00' ∉ ("B.9%_\\a" : String).toList ∧ '\x00' ∉ ("b.90c\\a" : String).toList ∧
      '\x00' ∉ (".9%_\\A" : String).toList ∧
      (∀ c ∈ (".9%_\\A" : String).toList, ¬IsConfusable c) ∧
      isLikeExactly (Store.endingPattern ".9%_\\A") (asciiLower "B.9%_\\a").toList = true ∧
      isLike (Store.endingPattern ".9%_\\A") (asciiLower "B.9%_\\a").toList = true ∧
      ¬isLikeExactly (Store.endingPattern ".9%_\\A") (asciiLower "b.90c\\a").toList = true ∧
      ¬isLike (Store.endingPattern ".9%_\\A") (asciiLower "b.90c\\a").toList = true := by
  have hsame : '\x00' ∉ ("B.9%_\\a" : String).toList := by decide
  have hother : '\x00' ∉ ("b.90c\\a" : String).toList := by decide
  have hnul : '\x00' ∉ (".9%_\\A" : String).toList := by decide
  have hdistinct : ∀ c ∈ (".9%_\\A" : String).toList, ¬IsConfusable c := by
    simp [IsConfusable]
  obtain ⟨hrules, -, hstore⟩ :=
    endingPattern_stands_for_itself followsRules_isLikeExactly ".9%_\\A" hsame
  obtain ⟨hrulesOther, -, hstoreOther⟩ :=
    endingPattern_stands_for_itself followsRules_isLikeExactly ".9%_\\A" hother
  have hends : EndsUpToCase (".9%_\\A" : String).toList (asciiLower "B.9%_\\a").toList := by
    decide
  have hnone : ¬EndsUpToCase (".9%_\\A" : String).toList (asciiLower "b.90c\\a").toList := by
    decide
  exact ⟨followsRules_isLikeExactly, hsame, hother, hnul, hdistinct, hrules.2 hends,
    (hstore hnul hdistinct).2 hends, fun hlike => hnone (hrulesOther.1 hlike),
    fun hlike => hnone ((hstoreOther hnul hdistinct).1 hlike)⟩

theorem meets_iff (hplain : query.Plain) (hpath : '\x00' ∉ item.filepath.toList) :
    store.meets query item = true ↔ Facets LooksLikeEnding asciiLower store query item := by
  rw [meets_eq]
  exact facetsHold_iff (extensionMatches_iff hplain hpath) contains_filename_iff

/-! ## From the store to memory -/

/-- What the store lets through is accepted in memory if its ending is. -/
theorem structuralAccepts_of_meets
    (hsettled : query.Over Settled) (hmeets : store.meets query item = true) :
    Filter.structuralAccepts query (SideTables.full store query) item.view =
      Filter.extensionAccepts query item.view := by
  have hfilename : Filter.filenameAccepts query item.view = true := by
    have hfolded : query.filename.all (contains (asciiLower item.filename)) = true := by
      rw [meets_eq] at hmeets
      simp only [facetsHold, Bool.and_eq_true] at hmeets
      exact hmeets.1.1.1.1.2
    rw [contains_filename_iff] at hfolded
    refine contains_filename_iff.2 fun fragment hfragment => ?_
    have hwithin := hfolded fragment hfragment
    rw [asciiLower, String.toList_ofList] at hwithin
    rw [lower, String.toList_ofList]
    exact infix_lowerOf (hsettled.filename fragment hfragment) hwithin
  rw [structuralAccepts_full hsettled, hfilename]
  rw [meets_eq] at hmeets
  unfold facetsHold at hmeets ⊢
  simp only [Bool.and_eq_true] at hmeets
  obtain ⟨⟨⟨⟨⟨⟨hsource, -⟩, -⟩, hpool⟩, hrelationship⟩, hfavorite⟩, hupscaled⟩ := hmeets
  simp only [hsource, hpool, hrelationship, hfavorite, hupscaled, Bool.true_and, Bool.and_true]

theorem extensionAccepts_of_meets
    (hplain : query.Plain) (hpath : '\x00' ∉ item.filepath.toList)
    (hdistinct : Distinguishable query) (hmeets : store.meets query item = true) :
    Filter.extensionAccepts query item.view = true := by
  obtain hnone | ⟨ending, hending, hlike⟩ := ((meets_iff hplain hpath).1 hmeets).extension
  · exact extensionAccepts_iff.2 (Or.inl hnone)
  · refine extensionAccepts_iff.2 (Or.inr ⟨ending, hending, ?_⟩)
    have hsuffix := (looksLikeEnding_iff (hdistinct ending hending)).1 hlike
    rw [EndsIn, asciiLower, String.toList_ofList] at hsuffix
    rw [EndsIn, lower, String.toList_ofList]
    exact suffix_lowerOf (hplain.extensions ending hending).settled hsuffix

/-- Whether the patterns for the endings of a query are compared with a path as they are
written, no character being read as another one. -/
def ReadsExactly (query : Query) (item : StoredItem) : Prop :=
  ∀ ending ∈ query.extensions,
    isLike (Store.endingPattern ending) (asciiLower item.filepath).toList =
      isLikeExactly (Store.endingPattern ending) (asciiLower item.filepath).toList

theorem isLikeExactly_endingPattern_iff
    {ending : String} (hsettled : ∀ c ∈ ending.toList, Settled c) :
    isLikeExactly (Store.endingPattern ending) (asciiLower item.filepath).toList = true ↔
      EndsIn asciiLower ending item.filepath := by
  rw [EndsIn, asciiLower, String.toList_ofList]
  exact isLikeExactly_settled_ending hsettled

theorem readsExactly_of_distinguishable
    (hplain : query.Plain) (hpath : '\x00' ∉ item.filepath.toList)
    (hdistinct : Distinguishable query) : ReadsExactly query item := by
  intro ending hending
  have hasked := hplain.extensions ending hending
  rw [Bool.eq_iff_iff, isLikeExactly_endingPattern_iff hasked.settled,
    ← looksLikeEnding_iff (hdistinct ending hending), LooksLikeEnding, asciiLower,
    String.toList_ofList]
  exact isLike_settled_ending hasked.settled hasked.nul (nul_of_asciiLower hpath)

theorem structuralAccepts_of_meets_of_readsExactly
    (hsettled : query.Over Settled) (hexact : ReadsExactly query item)
    (hmeets : store.meets query item = true) :
    Filter.structuralAccepts query (SideTables.full store query) item.view = true := by
  have hmatches : Store.extensionMatches query item = true := by
    rw [meets_eq] at hmeets
    simp only [facetsHold, Bool.and_eq_true] at hmeets
    exact hmeets.1.1.1.1.1.2
  rw [structuralAccepts_of_meets hsettled hmeets, extensionAccepts_iff]
  unfold Store.extensionMatches at hmatches
  rw [Bool.or_eq_true, List.isEmpty_iff, List.any_eq_true] at hmatches
  refine hmatches.imp_right ?_
  rintro ⟨ending, hending, hlike⟩
  refine ⟨ending, hending, ?_⟩
  have hfolded := hsettled.extensions ending hending
  rw [hexact ending hending, isLikeExactly_endingPattern_iff hfolded, EndsIn, asciiLower,
    String.toList_ofList] at hlike
  rw [EndsIn, lower, String.toList_ofList]
  exact suffix_lowerOf hfolded hlike

/-! ## From memory to the store -/

/-- What is accepted in memory the store lets through, if the texts of the item have no
letters that only the full folding changes. -/
theorem meets_of_structuralAccepts
    (hplain : query.Plain) (hpath : '\x00' ∉ item.filepath.toList)
    (hfilepath : lower item.filepath = asciiLower item.filepath)
    (hfilename : lower item.filename = asciiLower item.filename)
    (haccepts :
      Filter.structuralAccepts query (SideTables.full store query) item.view = true) :
    store.meets query item = true := by
  have hfacets := (structuralAccepts_iff hplain).1 haccepts
  refine (meets_iff hplain hpath).2 { hfacets with extension := ?_, filename := ?_ }
  · refine hfacets.extension.imp_right ?_
    rintro ⟨ending, hending, hsuffix⟩
    rw [EndsIn, hfilepath] at hsuffix
    exact ⟨ending, hending, hsuffix.map readable⟩
  · intro fragment hfragment
    rw [← hfilename]
    exact hfacets.filename fragment hfragment

end Search

end Gallery
