import Gallery.Proofs.Search.Reference
import Gallery.Proofs.TextIndex.Phrases

/-!
# What the text index contributes to a search

Over a healthy store the index holds the texts of every item.  An item is a candidate if
it has all phrases of the match expression, or, failing that, if some term is no known tag
and all terms that are none lie somewhere within its texts.  A known tag is left out of
that second attempt altogether, and so are the exclusions.

The index refuses an expression with a zero character or too many exclusions, and the store
looks for no more than so many terms in every column (`Store.looseTermLimit`).  Every other
query on this route is answered.

As numbers tell items apart, what the index says of a document is said of one item.
-/

namespace Gallery

open Text TextIndex

/-- Some text has the characters of a term next to one another, capital letters of the
basic Latin alphabet counting as small. -/
def HasFragment (texts : List String) (term : String) : Prop :=
  ∃ text ∈ texts, term.toList <:+: (asciiLower text).toList

instance (texts : List String) (term : String) : Decidable (HasFragment texts term) :=
  List.decidableBEx _ texts

namespace TextIndex

theorem withExactness_map (terms : List String) (known : String → Bool) :
    withExactness terms (terms.map known) = terms.map fun term => (term, known term) := by
  have hzip : ∀ padding,
      terms.zip (terms.map known ++ padding) = terms.map fun term => (term, known term) := by
    intro padding
    induction terms with
    | nil => rfl
    | cons term terms ih => simp [ih]
  exact hzip _

theorem ofQuery_eq_none_iff (query : Query) (exact : List Bool) :
    Expression.ofQuery? query exact = none ↔ query.general.isEmpty = true := by
  unfold Expression.ofQuery?
  split <;> simp_all

end TextIndex

namespace Store

variable {store : Store} {query : Query} {item : StoredItem}

def Knows (store : Store) (term : String) : Prop :=
  ∃ tag ∈ store.tags, tag.name = term

instance (store : Store) (term : String) : Decidable (store.Knows term) :=
  List.decidableBEx _ store.tags

theorem Sound.isSome_id?_iff (h : store.Sound) (term : String) :
    (store.names.id? term).isSome = true ↔ store.Knows term := by
  rw [Option.isSome_iff_exists]
  simp only [h.id?_eq_some_iff, Knows]
  constructor
  · rintro ⟨id, tag, htag, hname, -⟩
    exact ⟨tag, htag, hname⟩
  · rintro ⟨tag, htag, hname⟩
    exact ⟨tag.id, tag, htag, hname, rfl⟩

/-! ## Documents -/

theorem layout_document (hhealthy : store.Healthy) (item : StoredItem) :
    (store.document item).layout = layoutOf item.columns := by
  have hrelic : store.relicLayout item.id = [] := by
    rw [relicLayout, hhealthy.2]
    rfl
  rw [document, indexedLayout, hrelic, Layout.above_nil]

theorem documents_corpus (hhealthy : store.Healthy) :
    store.corpus.documents = store.items.map store.document := by
  have hall : store.indexedItems = store.items := by
    simp [indexedItems, hhealthy.2]
  have hnone : store.looseRelics = [] := by
    rw [looseRelics, hhealthy.2]
    rfl
  simp [corpus, hall, hnone]

theorem askIndex_ok
    (hhealthy : store.Healthy) {expression : Expression} {found : List (ItemId × Option Float)}
    (hasked : store.askIndex expression = .ok found) :
    found = store.corpus.ranked expression.search := by
  unfold askIndex at hasked
  rw [require_of_healthy hhealthy, ok_bind] at hasked
  split at hasked
  · cases hasked
  · cases hasked
    rfl

theorem isSome_find?_ranked
    (h : store.Sound) (hitem : item ∈ store.items) (search : TextIndex.Search) :
    ((store.corpus.ranked search).find? (·.1 = item.id)).isSome =
      search.accepts (store.document item) := by
  rw [Bool.eq_iff_iff, List.find?_isSome]
  simp only [Corpus.ranked, documents_corpus h.healthy, List.mem_map, List.mem_filter,
    decide_eq_true_eq]
  constructor
  · rintro ⟨_, ⟨_, ⟨⟨other, hother, rfl⟩, haccepts⟩, rfl⟩, hid⟩
    rw [← h.item_eq_of_id hother hitem hid]
    exact haccepts
  · intro haccepts
    exact ⟨_, ⟨_, ⟨⟨item, hitem, rfl⟩, haccepts⟩, rfl⟩, rfl⟩

/-! ## Candidates -/

def finds (store : Store) (query : Query) (exact : List Bool) (item : StoredItem) : Bool :=
  match Expression.ofQuery? query exact with
  | none => true
  | some expression =>
    expression.search.accepts (store.document item) ||
      !(looseTerms query exact).isEmpty && holdsLoosely (looseTerms query exact) item

theorem isSome_ranked (found : List (ItemId × Option Float)) (loose : List String)
    (item : StoredItem) :
    (ranked found loose item).isSome =
      ((found.find? (·.1 = item.id)).isSome || !loose.isEmpty && holdsLoosely loose item) := by
  unfold ranked
  cases hfound : found.find? (·.1 = item.id) with
  | some entry => rfl
  | none =>
      dsimp only
      split <;> simp_all

theorem hybrid_perm
    (h : store.Sound) {exact : List Bool} {items : List Item}
    (hscan : store.hybrid query exact = .ok items) :
    items.Perm ((store.items.filter (store.finds query exact)).map StoredItem.view) := by
  obtain ⟨hnone, hall⟩ | ⟨expression, found, hexpression, hasked, hperm⟩ :=
    hybrid_cases h.healthy hscan
  · have hfinds : store.items.filter (store.finds query exact) = store.items := by
      rw [List.filter_eq_self]
      intro item _
      rw [finds, hnone]
    rwa [hfinds]
  · have hfinds : store.items.filter (store.finds query exact) =
        store.items.filter fun item => (ranked found (looseTerms query exact) item).isSome := by
      apply List.filter_congr
      intro item hitem
      rw [isSome_ranked, askIndex_ok h.healthy hasked, isSome_find?_ranked h hitem, finds,
        hexpression]
    rwa [hfinds]

/-! ## What the candidates have -/

/-- What the index asks of an item for one term. -/
def Matches (store : Store) (item : StoredItem) (term : String) : Prop :=
  (store.Knows term → HasPhrase item.columns term) ∧
    (¬store.Knows term → HasOpenPhrase item.columns term)

instance (store : Store) (item : StoredItem) (term : String) :
    Decidable (store.Matches item term) :=
  inferInstanceAs (Decidable (_ ∧ _))

/-- The same for one term by itself, where a term that is no tag may also lie anywhere. -/
def HasTerm (store : Store) (item : StoredItem) (term : String) : Prop :=
  (store.Knows term → HasPhrase item.columns term) ∧
    (¬store.Knows term → HasOpenPhrase item.columns term ∨ HasFragment item.columns term)

instance (store : Store) (item : StoredItem) (term : String) :
    Decidable (store.HasTerm item term) :=
  inferInstanceAs (Decidable (_ ∧ _))

theorem hasTerm_iff {term : String} :
    store.HasTerm item term ↔
      store.Matches item term ∨ ¬store.Knows term ∧ HasFragment item.columns term := by
  unfold HasTerm Matches
  by_cases hknows : store.Knows term
  · simp [hknows]
  · simp [hknows]

/-- What makes an item a candidate: all phrases and none that is excluded, or every term
that is no tag, of which there must be one. -/
def IsCandidate (store : Store) (query : Query) (item : StoredItem) : Prop :=
  query.general = [] ∨
    (∀ term ∈ query.general, store.Matches item term) ∧
      (∀ term ∈ query.negative, ¬HasPhrase item.columns term) ∨
    (∃ term ∈ query.general, ¬store.Knows term) ∧
      ∀ term ∈ query.general, ¬store.Knows term → HasFragment item.columns term

theorem occursIn_document
    (hhealthy : store.Healthy) (opens : Bool) (item : StoredItem) (term : String) :
    Sought.occursIn ⟨tokens term, opens⟩ (store.document item) = true ↔
      Occurs opens item.columns term :=
  occursIn_iff_occurs opens item.columns term (layout_document hhealthy item)

theorem holdsLoosely_iff {terms : List String} :
    holdsLoosely terms item = true ↔ ∀ term ∈ terms, HasFragment item.columns term := by
  simp [holdsLoosely, HasFragment, contains, occursIn_iff]

theorem Sound.isSome_id?_eq_false_iff (h : store.Sound) (term : String) :
    (store.names.id? term).isSome = false ↔ ¬store.Knows term := by
  rw [← h.isSome_id?_iff, Bool.not_eq_true]

theorem looseTerms_map (query : Query) (known : String → Bool) :
    looseTerms query (query.general.map known) = query.general.filter fun term => !known term := by
  rw [looseTerms, withExactness_map, List.filter_map, List.map_map]
  exact List.map_id _

theorem Sound.looseTerms_eq (h : store.Sound) (query : Query) :
    looseTerms query (query.general.map fun term => (store.names.id? term).isSome) =
      query.general.filter fun term => ¬store.Knows term := by
  rw [looseTerms_map]
  apply List.filter_congr
  intro term _
  rw [Bool.eq_iff_iff, Bool.not_eq_true', decide_eq_true_iff, h.isSome_id?_eq_false_iff]

theorem Sound.mem_looseTerms_iff (h : store.Sound) {term : String} :
    term ∈ looseTerms query (query.general.map fun term => (store.names.id? term).isSome) ↔
      term ∈ query.general ∧ ¬store.Knows term := by
  rw [h.looseTerms_eq, List.mem_filter, decide_eq_true_iff]

theorem Sound.occursIn_iff_matches (h : store.Sound) (item : StoredItem) (term : String) :
    Sought.occursIn ⟨tokens term, !(store.names.id? term).isSome⟩ (store.document item) = true ↔
      store.Matches item term := by
  rw [occursIn_document h.healthy, Matches]
  by_cases hknows : store.Knows term
  · rw [(h.isSome_id?_iff term).2 hknows, Bool.not_true, occurs_false_iff]
    simp [hknows]
  · rw [(h.isSome_id?_eq_false_iff term).2 hknows, Bool.not_false, occurs_true_iff]
    simp [hknows]

theorem Sound.accepts_document_iff
    (h : store.Sound) {expression : Expression}
    (hexpression :
      Expression.ofQuery? query (query.general.map fun term => (store.names.id? term).isSome) =
        some expression)
    (item : StoredItem) :
    expression.search.accepts (store.document item) = true ↔
      (∀ term ∈ query.general, store.Matches item term) ∧
        ∀ term ∈ query.negative, ¬HasPhrase item.columns term := by
  unfold Expression.ofQuery? at hexpression
  split at hexpression
  · cases hexpression
  · cases hexpression
    have hexcluded : ∀ term,
        Sought.occursIn ⟨tokens term, false⟩ (store.document item) = true ↔
          HasPhrase item.columns term := by
      intro term
      rw [occursIn_document h.healthy, occurs_false_iff]
    simp only [TextIndex.Search.accepts, Expression.search, withExactness_map, List.map_map,
      List.all_map, List.any_map, Bool.and_eq_true, List.all_eq_true, Bool.not_eq_true',
      List.any_eq_false, Function.comp_apply, Phrase.sought, h.occursIn_iff_matches, hexcluded]

/-- Without an expression the index is not asked, and every item is a candidate. -/
theorem Sound.finds_iff (h : store.Sound) (item : StoredItem) :
    store.finds query (query.general.map fun term => (store.names.id? term).isSome) item =
        true ↔
      store.IsCandidate query item := by
  have hloose :
      (!(looseTerms query
          (query.general.map fun term => (store.names.id? term).isSome)).isEmpty) = true ↔
        ∃ term ∈ query.general, ¬store.Knows term := by
    rw [Bool.not_eq_true', List.isEmpty_eq_false_iff_exists_mem]
    simp only [h.mem_looseTerms_iff]
  have hheld :
      holdsLoosely
          (looseTerms query (query.general.map fun term => (store.names.id? term).isSome))
          item = true ↔
        ∀ term ∈ query.general, ¬store.Knows term → HasFragment item.columns term := by
    rw [holdsLoosely_iff]
    simp only [h.mem_looseTerms_iff, and_imp]
  unfold finds IsCandidate
  cases hexpression : Expression.ofQuery? query
      (query.general.map fun term => (store.names.id? term).isSome) with
  | none =>
      have hgeneral : query.general = [] :=
        List.isEmpty_iff.1 ((ofQuery_eq_none_iff query _).1 hexpression)
      simp [hgeneral]
  | some expression =>
      have hgeneral : query.general ≠ [] := by
        rw [Ne, ← List.isEmpty_iff, ← ofQuery_eq_none_iff query _, hexpression]
        exact Option.some_ne_none expression
      rw [Bool.or_eq_true, Bool.and_eq_true, h.accepts_document_iff hexpression, hloose, hheld]
      simp only [hgeneral, false_or]

/-! ## Whether there is an answer -/

/-- The store answers where the index takes the expression and not too many terms are to be
looked for in every column. -/
theorem isOk_hybrid_iff (hhealthy : store.Healthy) {exact : List Bool} :
    (store.hybrid query exact).isOk = true ↔
      ∀ expression ∈ Expression.ofQuery? query exact,
        (looseTerms query exact).length ≤ looseTermLimit ∧ expression.isAdmissible = true := by
  unfold hybrid askIndex
  simp only [require_of_healthy hhealthy, ok_bind]
  cases Expression.ofQuery? query exact with
  | none => exact iff_of_true rfl (by simp)
  | some expression =>
      simp only [Option.mem_some_iff, forall_eq']
      by_cases hmany : looseTermLimit < (looseTerms query exact).length
      · rw [if_pos hmany]
        exact iff_of_false Bool.false_ne_true fun hfew => (Nat.not_lt.2 hfew.1) hmany
      · rw [if_neg hmany]
        cases expression.isAdmissible with
        | false => exact iff_of_false Bool.false_ne_true fun hindex => Bool.false_ne_true hindex.2
        | true => exact iff_of_true rfl ⟨Nat.not_lt.1 hmany, rfl⟩

theorem length_unknown_le_one
    (hterms : (∀ term ∈ query.general, store.Knows term) ∨ query.general.length ≤ 1) :
    (query.general.filter fun term => ¬store.Knows term).length ≤ 1 := by
  obtain hknown | hone := hterms
  · have hnone : (query.general.filter fun term => ¬store.Knows term) = [] := by
      rw [List.filter_eq_nil_iff]
      intro term hterm
      simpa using hknown term hterm
    rw [hnone]
    exact Nat.zero_le 1
  · exact (List.length_filter_le _ _).trans hone

/-- Of the queries that the index takes the store answers those with few enough terms that are
no tags. -/
theorem Sound.isOk_hybrid_iff_of_isAdmissible (h : store.Sound)
    (hindex : ∀ expression ∈ Expression.ofQuery? query
        (query.general.map fun term => (store.names.id? term).isSome),
      expression.isAdmissible = true) :
    (store.hybrid query (query.general.map fun term => (store.names.id? term).isSome)).isOk =
        true ↔
      (query.general.filter fun term => ¬store.Knows term).length ≤ looseTermLimit := by
  rw [isOk_hybrid_iff h.healthy, h.looseTerms_eq]
  cases hexpression : Expression.ofQuery? query
      (query.general.map fun term => (store.names.id? term).isSome) with
  | none =>
      have hgeneral : query.general = [] :=
        List.isEmpty_iff.1 ((ofQuery_eq_none_iff query _).1 hexpression)
      simp [hgeneral]
  | some expression => simp [hindex expression hexpression]

end Store

/-! ## Hits -/

namespace Search

variable {store : Store} {query : Query} {item : StoredItem}

theorem run_hybrid_perm
    (h : store.Sound) {exact : List Bool} {included excluded : List TagId} {items : List Item}
    (hrun : run store query .hybrid exact included excluded = .ok items) :
    items.Perm
      ((store.items.filter fun item =>
        Filter.accepts query true (SideTables.full store query) item.view &&
          store.finds query exact item).map StoredItem.view) := by
  obtain ⟨candidates, hscan, hrest⟩ := ok_of_bind hrun
  obtain ⟨refined, hrefine, hsorted⟩ := ok_of_bind hrest
  cases hsorted
  have hperm := refine_ok h.healthy (Store.hybrid_perm h hscan) hrefine
  rw [List.filter_filter] at hperm
  exact (sorted_perm query refined).trans hperm

/-- Numbers tell items apart, so a hit stands for one item. -/
theorem exists_hit_iff_of_perm
    (h : store.Sound) {p : StoredItem → Bool} {items : List Item}
    (hperm : items.Perm ((store.items.filter p).map StoredItem.view)) (hitem : item ∈ store.items) :
    (∃ shown ∈ items, shown.hit = item.view.hit) ↔ p item = true := by
  simp only [hperm.mem_iff, List.mem_map, List.mem_filter]
  constructor
  · rintro ⟨_, ⟨other, ⟨hother, hkept⟩, rfl⟩, hsame⟩
    have hid : other.id = item.id := congrArg Hit.id hsame
    rwa [← h.item_eq_of_id hother hitem hid]
  · intro hkept
    exact ⟨item.view, ⟨item, ⟨hitem, hkept⟩, rfl⟩, rfl⟩

theorem isOk_outcome_of_hybrid {names : TagNames}
    (hhealthy : store.Healthy) (hroute : routeOf names query = .hybrid) :
    (outcome store names query).isOk =
      (store.hybrid query (query.general.map fun term => (names.id? term).isSome)).isOk := by
  rw [outcome, hroute, run]
  cases store.hybrid query (query.general.map fun term => (names.id? term).isSome) with
  | error fault => rfl
  | ok candidates =>
      simp only [ok_bind, refine_of_healthy hhealthy]
      rfl

theorem view_hit_mem_hits_iff_selects
    (h : store.Sound) {names : TagNames} (hroute : routeOf names query ≠ .hybrid)
    (hanswered : (outcome store names query).isOk = true) (hitem : item ∈ store.items) :
    item.view.hit ∈ (answer store names query).hits ↔
      selects store query (routeOf names query) (names.ids query.general)
        (names.ids query.negative) item = true := by
  cases hrun : outcome store names query with
  | error fault =>
      rw [hrun] at hanswered
      cases hanswered
  | ok items =>
      rw [answer_eq, hrun, hits_results]
      simp only [Except.ok.injEq, exists_eq_left']
      exact exists_hit_iff_of_perm h (run_ok_of_ne_hybrid h.healthy hroute hrun) hitem

theorem view_hit_mem_hits_iff_finds
    (h : store.Sound) {names : TagNames} (hroute : routeOf names query = .hybrid)
    (hanswered : (outcome store names query).isOk = true) (hitem : item ∈ store.items) :
    item.view.hit ∈ (answer store names query).hits ↔
      Filter.accepts query true (SideTables.full store query) item.view = true ∧
        store.finds query (query.general.map fun term => (names.id? term).isSome) item = true := by
  cases hrun : outcome store names query with
  | error fault =>
      rw [hrun] at hanswered
      cases hanswered
  | ok items =>
      have hindexed := hrun
      rw [outcome, hroute] at hindexed
      rw [answer_eq, hrun, hits_results]
      simp only [Except.ok.injEq, exists_eq_left']
      rw [exists_hit_iff_of_perm h (run_hybrid_perm h hindexed) hitem, Bool.and_eq_true]

theorem view_hit_mem_hits_hybrid_iff
    (h : store.Sound) (hroute : routeOf store.names query = .hybrid)
    (hanswered : (outcome store store.names query).isOk = true) (hitem : item ∈ store.items) :
    item.view.hit ∈ (answer store store.names query).hits ↔
      Filter.accepts query true (SideTables.full store query) item.view = true ∧
        store.IsCandidate query item := by
  rw [view_hit_mem_hits_iff_finds h hroute hanswered hitem, h.finds_iff]

theorem view_hit_mem_hits_iff_isCandidate
    (h : store.Sound) (hroute : routeOf store.names query = .hybrid) (hitem : item ∈ store.items) :
    item.view.hit ∈ (answer store store.names query).hits ↔
      (outcome store store.names query).isOk = true ∧
        Filter.accepts query true (SideTables.full store query) item.view = true ∧
        store.IsCandidate query item := by
  constructor
  · intro hhit
    have hanswered := isOk_of_mem_hits hhit
    exact ⟨hanswered, (view_hit_mem_hits_hybrid_iff h hroute hanswered hitem).1 hhit⟩
  · rintro ⟨hanswered, hfound⟩
    exact (view_hit_mem_hits_hybrid_iff h hroute hanswered hitem).2 hfound

/-! ## Terms together and alone -/

theorem isCandidate_iff_of_negative_eq_nil (hnegative : query.negative = []) :
    store.IsCandidate query item ↔
      (∀ term ∈ query.general, store.Matches item term) ∨
        (∃ term ∈ query.general, ¬store.Knows term) ∧
          ∀ term ∈ query.general, ¬store.Knows term → HasFragment item.columns term := by
  unfold Store.IsCandidate
  constructor
  · rintro (hnone | ⟨hmatches, -⟩ | hloose)
    · exact Or.inl (by simp [hnone])
    · exact Or.inl hmatches
    · exact Or.inr hloose
  · rintro (hmatches | hloose)
    · exact Or.inr (Or.inl ⟨hmatches, by simp [hnegative]⟩)
    · exact Or.inr (Or.inr hloose)

/-- Both attempts may be made at each term by itself where all terms are tags, as the second
is then never made, or there is but one. -/
theorem two_attempts_iff
    (hterms : (∀ term ∈ query.general, store.Knows term) ∨ query.general.length ≤ 1) :
    ((∀ term ∈ query.general, store.Matches item term) ∨
        (∃ term ∈ query.general, ¬store.Knows term) ∧
          ∀ term ∈ query.general, ¬store.Knows term → HasFragment item.columns term) ↔
      ∀ term ∈ query.general, store.HasTerm item term := by
  simp only [Store.hasTerm_iff]
  obtain hknown | hone := hterms
  · have hnone : ¬∃ term ∈ query.general, ¬store.Knows term := by
      rintro ⟨term, hterm, hunknown⟩
      exact hunknown (hknown term hterm)
    have hsame : ∀ term ∈ query.general,
        (store.Matches item term ∨ ¬store.Knows term ∧ HasFragment item.columns term ↔
          store.Matches item term) := by
      intro term hterm
      simp [hknown term hterm]
    rw [forall₂_congr hsame]
    simp only [hnone, false_and, or_false]
  · match hgeneral : query.general with
    | [] => simp
    | [term] =>
        simp only [List.mem_singleton, forall_eq, exists_eq_left]
        tauto
    | first :: second :: rest =>
        rw [hgeneral] at hone
        simp at hone

end Search

end Gallery
