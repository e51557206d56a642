import Gallery.Proofs.Search.Hybrid

/-!
# Quoting a tag

A query whose general terms are all tags is answered from the attachments.  With a quote
around one of them it goes through the text index instead.  The index finds a tag by its
tokens within the texts of an item, so it misses a tag without tokens; and it takes an
excluded term for a phrase, which may stand within a longer tag that the attachments tell
apart from it.  The filter that follows asks the same of both.
-/

namespace Gallery

open Text TextIndex

theorem Route.choose_of_freetext {query : Query} (hfreetext : query.freetext = true)
    (exact : List Bool) : Route.choose query exact = .hybrid := by
  simp [Route.choose, hfreetext]

namespace Store

variable {store : Store} {item : StoredItem} {tag : Tag}

theorem Consistent.exists_names_of_carries
    (h : store.Consistent) (hitem : item ∈ store.items) (hcarries : store.Carries item.id tag) :
    ∃ names, tag.name ∈ names ∧ " ".intercalate names ∈ item.columns := by
  have hcolumn : item.tags.get tag.category ∈ item.columns :=
    List.mem_cons_of_mem _ (List.mem_map_of_mem tag.category.mem_all)
  rw [h.get_tags hitem] at hcolumn
  exact ⟨_, h.sound.mem_namesOf_iff_carries.2 ⟨tag, hcarries, rfl, rfl⟩, hcolumn⟩

/-- A tag that an item carries is a phrase of its texts if it has tokens at all. -/
theorem Consistent.hasPhrase_iff_of_carries
    (h : store.Consistent) (hitem : item ∈ store.items) (hcarries : store.Carries item.id tag) :
    HasPhrase item.columns tag.name ↔ tokens tag.name ≠ [] := by
  obtain ⟨names, hname, hcolumn⟩ := h.exists_names_of_carries hitem hcarries
  constructor
  · exact And.left
  · intro htokens
    exact ⟨htokens, _, hcolumn, tokens_infix_intercalate_space hname⟩

end Store

namespace Search

variable {store : Store} {query : Query} {item : StoredItem}

theorem exists_carries_of_selects
    (h : store.Sound) (hroute : routeOf store.names query = .exactTag)
    (hselects :
      selects store query .exactTag (store.names.ids query.general)
        (store.names.ids query.negative) item = true) :
    ∀ term ∈ query.general, ∃ tag, store.Carries item.id tag ∧ tag.name = term := by
  have hknown : ∀ term ∈ query.general, (store.names.id? term).isSome = true := by
    intro term hterm
    exact (Route.of_exactTag hroute).2 _ (List.mem_map_of_mem hterm)
  simp only [selects, Store.holdsTags, Bool.and_eq_true] at hselects
  exact (h.hasAll_iff hknown item.id).1 hselects.1.2

/-- A quote makes the text index ask for the tokens of each tag, and for those of each
exclusion. -/
theorem isCandidate_quoted_iff
    (h : store.Consistent) (hitem : item ∈ store.items)
    (hcarries : ∀ term ∈ query.general, ∃ tag, store.Carries item.id tag ∧ tag.name = term) :
    store.IsCandidate { query with freetext := true } item ↔
      (query.general ≠ [] →
        (∀ term ∈ query.general, tokens term ≠ []) ∧
          ∀ term ∈ query.negative, ¬HasPhrase item.columns term) := by
  have hknows : ∀ term ∈ query.general, store.Knows term := by
    intro term hterm
    obtain ⟨tag, htag, hname⟩ := hcarries term hterm
    exact ⟨tag, htag.1, hname⟩
  have hmatches : ∀ term ∈ query.general, (store.Matches item term ↔ tokens term ≠ []) := by
    intro term hterm
    obtain ⟨tag, htag, rfl⟩ := hcarries term hterm
    rw [← h.hasPhrase_iff_of_carries hitem htag, Store.Matches]
    simp [hknows _ hterm]
  have hnone : ¬∃ term ∈ query.general, ¬store.Knows term := by
    rintro ⟨term, hterm, hunknown⟩
    exact hunknown (hknows term hterm)
  unfold Store.IsCandidate
  dsimp only
  rw [forall₂_congr hmatches]
  simp only [hnone, false_and, or_false]
  exact or_iff_not_imp_left

/-- The filter accepts a hit with quotes as it does without them, so the candidates decide. -/
theorem view_hit_mem_hits_quoted_iff
    (h : store.Consistent) (hsettled : query.Over Settled)
    (hroute : routeOf store.names query = .exactTag) (hitem : item ∈ store.items)
    (hhit : item.view.hit ∈ (answer store store.names query).hits)
    (hextension : Filter.extensionAccepts query item.view = true) :
    item.view.hit ∈ (answer store store.names { query with freetext := true }).hits ↔
      (outcome store store.names { query with freetext := true }).isOk = true ∧
        (query.general ≠ [] →
          (∀ term ∈ query.general, tokens term ≠ []) ∧
            ∀ term ∈ query.negative, ¬HasPhrase item.columns term) := by
  obtain ⟨other, hother, hsame, hselected⟩ := exists_of_mem_answer h.sound.healthy hhit
  have hid : other.id = item.id := congrArg Hit.id hsame
  rw [h.sound.item_eq_of_id hother hitem hid] at hselected
  have hindexed : routeOf store.names { query with freetext := true } = .hybrid :=
    Route.choose_of_freetext rfl _
  have haccepts : Filter.accepts query true (SideTables.full store query) item.view = true := by
    rw [accepts_of_selects_of_settled hsettled hselected, hextension]
  have hselects :
      selects store query .exactTag (store.names.ids query.general)
        (store.names.ids query.negative) item = true := hroute ▸ hselected
  have hcarries := exists_carries_of_selects h.sound hroute hselects
  rw [view_hit_mem_hits_iff_isCandidate h.sound hindexed hitem,
    isCandidate_quoted_iff h hitem hcarries]
  exact and_congr_right fun _ => and_iff_right haccepts

end Search

end Gallery
