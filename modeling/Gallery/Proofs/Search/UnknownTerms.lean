import Gallery.Proofs.Search.Hybrid

/-!
# Searching for words that are no tags

The filter looks for a term in the path and in the tags of all categories together, with
capital letters of any alphabet lowered.  The store looks into one column at a time and
lowers the basic Latin alphabet.  For a word the difference between the tags together and
one by one is none, as it cannot go over the blank between two of them.  So where the two
ways to lower letters agree on the texts of an item, what the filter accepts for terms that
are no tags lies somewhere in the columns, and is a candidate whatever the index says,
as long as the query is answered at all.
-/

namespace Gallery

open Text TextIndex

/-- Lowering all letters of the texts of an item comes to lowering the basic Latin ones. -/
def StoredItem.FoldsAlike (item : StoredItem) : Prop :=
  ∀ text ∈ item.columns, lower text = asciiLower text

instance (item : StoredItem) : Decidable item.FoldsAlike :=
  inferInstanceAs (Decidable (∀ text ∈ item.columns, lower text = asciiLower text))

namespace Search

variable {store : Store} {query : Query} {item : StoredItem}

theorem hasFragment_of_infix_lower {term text : String} (hfolds : item.FoldsAlike)
    (htext : text ∈ item.columns) (hinside : term.toList <:+: (lower text).toList) :
    HasFragment item.columns term :=
  ⟨text, htext, hfolds text htext ▸ hinside⟩

/-- A word within the tags of an item lies within those of one category. -/
theorem hasFragment_of_infix_joined {term : String} (hfolds : item.FoldsAlike)
    (hterm : isWord term = true)
    (hinside : term.toList <:+: (lower item.tags.joined).toList) :
    HasFragment item.columns term := by
  obtain ⟨hne, hletters⟩ := isWord_iff.1 hterm
  have hsome : term.toList ≠ [] := by simpa using hne
  have hspace : ' ' ∉ term.toList := by
    intro hmem
    have hletter := hletters ' ' hmem
    rw [isBlank_space] at hletter
    cases hletter
  have hblank : " ".toList = [' '] := rfl
  rw [CategoryTags.joined, lower_intercalate_space, String.toList_intercalate, hblank] at hinside
  obtain ⟨part, hpart, hwithin⟩ := exists_infix_of_infix_intercalate_space hsome hspace hinside
  obtain ⟨lowered, hlowered, rfl⟩ := List.mem_map.1 hpart
  obtain ⟨text, htext, rfl⟩ := List.mem_map.1 hlowered
  have hcolumn : text ∈ item.columns :=
    List.mem_cons_of_mem item.filepath (List.mem_of_mem_filter htext)
  exact hasFragment_of_infix_lower hfolds hcolumn hwithin

theorem hasFragment_of_accepts {tables : SideTables} (hfolds : item.FoldsAlike)
    (haccepts : Filter.accepts query true tables item.view = true) {term : String}
    (hterm : term ∈ query.general) (hword : isWord term = true) :
    HasFragment item.columns term := by
  have hterms : query.hasTerms = true := by
    have hgeneral : query.general ≠ [] := List.ne_nil_of_mem hterm
    simp [Query.hasTerms, hgeneral]
  have hfound := (Bool.and_eq_true_iff.1 haccepts).2
  simp only [Filter.termsAccept, hterms, Bool.not_true, Bool.false_or, Bool.and_eq_true,
    List.all_eq_true, Bool.or_eq_true, List.contains_iff_mem, contains, occursIn_iff] at hfound
  rcases hfound.1 term hterm with (htag | hjoined) | hpath
  · exact hasFragment_of_infix_joined hfolds hword (infix_of_mem_words htag)
  · exact hasFragment_of_infix_joined hfolds hword hjoined
  · exact hasFragment_of_infix_lower hfolds List.mem_cons_self hpath

/-- What the filter accepts the second attempt of the index finds. -/
theorem isCandidate_of_accepts {tables : SideTables} (hfolds : item.FoldsAlike)
    (hwords : ∀ term ∈ query.general, isWord term = true)
    (hunknown : ∀ term ∈ query.general, ¬store.Knows term)
    (haccepts : Filter.accepts query true tables item.view = true) :
    store.IsCandidate query item := by
  unfold Store.IsCandidate
  by_cases hgeneral : query.general = []
  · exact .inl hgeneral
  · obtain ⟨term, hterm⟩ := List.exists_mem_of_ne_nil query.general hgeneral
    refine .inr (.inr ⟨⟨term, hterm, hunknown term hterm⟩, ?_⟩)
    intro other hother _
    exact hasFragment_of_accepts hfolds haccepts hother (hwords other hother)

theorem view_hit_mem_hits_iff_accepts (h : store.Sound)
    (hroute : routeOf store.names query = .hybrid)
    (hanswered : (outcome store store.names query).isOk = true)
    (hwords : ∀ term ∈ query.general, isWord term = true)
    (hunknown : ∀ term ∈ query.general, ¬store.Knows term)
    (hitem : item ∈ store.items) (hfolds : item.FoldsAlike) :
    item.view.hit ∈ (answer store store.names query).hits ↔
      Filter.accepts query true (SideTables.full store query) item.view = true := by
  rw [view_hit_mem_hits_hybrid_iff h hroute hanswered hitem]
  exact and_iff_left_of_imp (isCandidate_of_accepts hfolds hwords hunknown)

/-- Where all texts fold alike, the index leaves nothing out of a scan of all items. -/
theorem hits_perm_scan (h : store.Sound)
    (hroute : routeOf store.names query = .hybrid)
    (hanswered : (outcome store store.names query).isOk = true)
    (hwords : ∀ term ∈ query.general, isWord term = true)
    (hunknown : ∀ term ∈ query.general, ¬store.Knows term)
    (hfolds : ∀ item ∈ store.items, item.FoldsAlike) :
    (answer store store.names query).hits.Perm
      ((store.items.filter fun item =>
        Filter.accepts query true (SideTables.full store query) item.view).map
          fun item => item.view.hit) := by
  cases hrun : outcome store store.names query with
  | error fault =>
      rw [hrun] at hanswered
      cases hanswered
  | ok items =>
      have hindexed := hrun
      rw [outcome, hroute] at hindexed
      have hperm := run_hybrid_perm h hindexed
      have hkept : (store.items.filter fun item =>
          Filter.accepts query true (SideTables.full store query) item.view &&
            store.finds query (query.general.map fun term => (store.names.id? term).isSome)
              item) =
          store.items.filter fun item =>
            Filter.accepts query true (SideTables.full store query) item.view := by
        apply List.filter_congr
        intro item hitem
        rw [Bool.and_eq_left_iff_imp]
        intro haccepts
        exact (h.finds_iff item).2
          (isCandidate_of_accepts (hfolds item hitem) hwords hunknown haccepts)
      have hhits := hperm.map Item.hit
      rw [hkept, List.map_map] at hhits
      rw [answer_eq, hrun]
      exact hhits

end Search

end Gallery
