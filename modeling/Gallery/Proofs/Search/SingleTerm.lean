import Gallery.Proofs.Query.Plain
import Gallery.Proofs.Search.Quoting

/-!
# Searching for one term

A single term that is the name of a tag is looked up among the attachments, any other
goes to the text index.  The name is compared as it is, while the term has been
lower-cased with its query.  So for the name of a tag as a query it matters which tags the
store has: a tag of the lower-cased name takes the query to itself, and without one the
index has to find the lower-cased name in texts that it folds in its own way.
-/

namespace Gallery

open Text TextIndex

/-! ## Reading terms -/

def Query.ofTerm (term : String) : Query :=
  { general := [term] }

namespace Token

theorem namedFilter?_ne_general (name value term : String) :
    namedFilter? name value ≠ some (.general term) := by
  unfold namedFilter?
  split
  · simp
  · split
    · simp
    · simp
    · simp
    · simp
    · simp
    · unfold metadataFilter?
      split <;> simp
    · unfold hasFilter?
      split <;> simp
    · unfold isFilter?
      split <;> simp
    · unfold categorized?
      intro hnamed
      obtain ⟨category, -, hscoped⟩ := Option.bind_eq_some_iff.1 hnamed
      split at hscoped <;> cases hscoped

theorem eq_of_bare {word : List Char} {term : String} (hbare : bare word = .general term) :
    term = String.ofList word := by
  unfold bare at hbare
  split at hbare
  · cases hbare
  · split at hbare
    · cases hbare
    · cases hbare
      rfl

theorem eq_of_classify {word : List Char} {term : String} (hclass : classify word = .general term) :
    term = String.ofList word := by
  unfold classify at hclass
  split at hclass
  · cases hclass
  · split at hclass
    · cases hclass
    · unfold positive at hclass
      split at hclass
      · rename_i name value _
        cases hnamed : namedFilter? (String.ofList name) (String.ofList value) with
        | none =>
            rw [hnamed] at hclass
            exact eq_of_bare hclass
        | some token =>
            rw [hnamed] at hclass
            cases hclass
            exact absurd hnamed (namedFilter?_ne_general _ _ _)
      · exact eq_of_bare hclass

end Token

theorem QueryReading.opening?_of_notMem {word : List Char} (hquote : '"' ∉ word) :
    opening? word = none := by
  unfold opening?
  split
  · simp at hquote
  · simp at hquote
  · rfl

theorem QueryReading.foldl_read_names
    {names : List String} (hquotes : ∀ name ∈ names, '"' ∉ name.toList)
    (hgeneral : ∀ name ∈ names, ∃ term, Token.classify (lowerOf name.toList) = .general term)
    (done : List String) :
    (names.map fun name => lowerOf name.toList).foldl read ⟨{ general := done }, none⟩ =
      ⟨{ general := done ++ names.map lower }, none⟩ := by
  induction names generalizing done with
  | nil => simp
  | cons name names ih =>
      obtain ⟨hquote, hquotes⟩ := List.forall_mem_cons.1 hquotes
      obtain ⟨⟨term, hclass⟩, hgeneral⟩ := List.forall_mem_cons.1 hgeneral
      have hclosed : '"' ∉ lowerOf name.toList :=
        fun hmem => hquote (mem_of_mem_lowerAfter (by decide) hmem)
      have hterm : term = lower name := Token.eq_of_classify hclass
      have hfirst : read ⟨{ general := done }, none⟩ (lowerOf name.toList) =
          ⟨{ general := done ++ [lower name] }, none⟩ := by
        simp only [read, opening?_of_notMem hclosed, hclass, hterm]
        rfl
      rw [List.map_cons, List.foldl_cons, hfirst, ih hquotes hgeneral]
      simp

/-- Names without quotes are read as terms, in lower case, if the parser takes none of
them for a filter. -/
theorem Query.parse_intercalate_names
    {names : List String} (hnames : ∀ name ∈ names, isWord name = true)
    (hquotes : ∀ name ∈ names, '"' ∉ name.toList)
    (hgeneral : ∀ name ∈ names, ∃ term, Token.classify (lowerOf name.toList) = .general term) :
    parse (" ".intercalate names) = { general := names.map lower } := by
  have hwords : wordsOf (lowerOf (" ".intercalate names).toList) =
      names.map fun name => lowerOf name.toList := by
    have hlowered := congrArg (List.map String.toList) (words_lower_intercalate_names hnames)
    simpa [words, lower, Function.comp_def] using hlowered
  rw [parse, ofWords, hwords]
  exact congrArg QueryReading.finish (QueryReading.foldl_read_names hquotes hgeneral [])

theorem Query.parse_intercalate_replicate
    {word : String} (hword : isWord word = true) (hquote : '"' ∉ word.toList)
    (hgeneral : ∃ term, Token.classify (lowerOf word.toList) = .general term) (count : ℕ) :
    parse (" ".intercalate (List.replicate count word)) =
      { general := List.replicate count (lower word) } := by
  have heach {p : String → Prop} (hone : p word) : ∀ name ∈ List.replicate count word, p name := by
    intro name hname
    rwa [List.eq_of_mem_replicate hname]
  rw [parse_intercalate_names (heach hword) (heach hquote) (heach hgeneral),
    List.map_replicate]

theorem Query.parse_of_general
    {name term : String} (hname : isWord name = true) (hquote : '"' ∉ name.toList)
    (hgeneral : Token.classify (lowerOf name.toList) = .general term) :
    parse name = ofTerm (lower name) := by
  have hparse : parse (" ".intercalate [name]) = { general := [name].map lower } :=
    parse_intercalate_names (List.forall_mem_singleton.2 hname) (List.forall_mem_singleton.2 hquote)
      (List.forall_mem_singleton.2 ⟨term, hgeneral⟩)
  rwa [String.intercalate_singleton] at hparse

/-! ## Answering to it -/

namespace Store

/-- How an item answers to a single term: it is one of its tags, or, where no tag has
this name, it stands in its texts. -/
def AnswersTo (store : Store) (item : StoredItem) (term : String) : Prop :=
  (∃ tag, store.Carries item.id tag ∧ tag.name = term) ∨
    ¬store.Knows term ∧ (HasOpenPhrase item.columns term ∨ HasFragment item.columns term)

variable {store : Store} {item : StoredItem} {tag : Tag}

/-- A name with no capital letters but those that the texts are searched without. -/
theorem Consistent.answersTo_of_asciiLower
    (h : store.Consistent) (hitem : item ∈ store.items) (hcarries : store.Carries item.id tag)
    (hunknown : ¬store.Knows (lower tag.name)) (hfolded : asciiLower tag.name = lower tag.name) :
    store.AnswersTo item (lower tag.name) := by
  obtain ⟨names, hname, hcolumn⟩ := h.exists_names_of_carries hitem hcarries
  have hspace : " ".toList = [' '] := rfl
  have hwithin : tag.name.toList <:+: (" ".intercalate names).toList := by
    rw [String.toList_intercalate, hspace]
    exact infix_intercalate_space (List.mem_map_of_mem hname)
  refine Or.inr ⟨hunknown, Or.inr ⟨_, hcolumn, ?_⟩⟩
  rw [← hfolded, asciiLower, asciiLower, String.toList_ofList, String.toList_ofList]
  exact hwithin.map Char.toLower

/-- A name whose tokens are those of its lower case. -/
theorem Consistent.answersTo_of_tokens
    (h : store.Consistent) (hitem : item ∈ store.items) (hcarries : store.Carries item.id tag)
    (hunknown : ¬store.Knows (lower tag.name)) (htokens : tokens (lower tag.name) = tokens tag.name)
    (hsome : tokens tag.name ≠ []) : store.AnswersTo item (lower tag.name) := by
  have hphrase : HasPhrase item.columns tag.name :=
    (h.hasPhrase_iff_of_carries hitem hcarries).2 hsome
  refine Or.inr ⟨hunknown, Or.inl (HasPhrase.hasOpenPhrase ?_)⟩
  unfold HasPhrase at hphrase ⊢
  rwa [htokens]

end Store

/-! ## Finding it -/

namespace Search

variable {store : Store} {names : TagNames} {item : StoredItem} {term : String}

theorem routeOf_ofTerm (names : TagNames) (term : String) :
    routeOf names (Query.ofTerm term) =
      if (names.id? term).isSome then .exactTag else .hybrid := by
  cases hknown : (names.id? term).isSome <;>
    simp [routeOf, Query.ofTerm, Route.choose, Query.hasTerms, hknown]

theorem length_distinct_ids (names : TagNames) (term : String) :
    (distinct (names.ids [term])).length ≤ 1 := by
  unfold TagNames.ids
  cases hid : names.id? term with
  | none => simp [hid, distinct]
  | some id => simp [hid, distinct]

theorem withTags_ofTerm (hhealthy : store.Healthy) (names : TagNames) (term : String) :
    ∃ items, store.withTags (Query.ofTerm term) (names.ids [term]) [] = .ok items := by
  have hnested :
      (Nesting.all (Nesting.included (distinct (names.ids [term])).length ++
        Nesting.excluded (distinct ([] : List TagId)).length ++
          Nesting.structural (Query.ofTerm term))).isAccepted = true := by
    have hnone : Nesting.structural (Query.ofTerm term) = [] := rfl
    have hlength := length_distinct_ids names term
    rw [hnone]
    interval_cases (distinct (names.ids [term])).length <;> decide
  have hfits (holders : List StoredItem) :
      holders.any (Store.meetsOverlong (Query.ofTerm term)) = false :=
    List.any_eq_false.2 fun _ _ => Bool.false_ne_true
  unfold Store.withTags
  simp only [Store.require_of_healthy hhealthy, ok_bind, ite_self, hnested, hfits, Bool.not_true,
    Bool.false_eq_true, if_false]
  exact ⟨_, rfl⟩

theorem isOk_hybrid_ofTerm
    (hhealthy : store.Healthy) (hnul : '\x00' ∉ term.toList) :
    (store.hybrid (Query.ofTerm term) [false]).isOk = true := by
  have hexpression : Expression.ofQuery? (Query.ofTerm term) [false] =
      some ⟨[⟨term, true⟩], []⟩ := rfl
  have hloose : Store.looseTerms (Query.ofTerm term) [false] = [term] := rfl
  have hfew : 1 ≤ Store.looseTermLimit := by decide
  have hadmissible : (Expression.mk [⟨term, true⟩] []).isAdmissible = true := by
    simp [Expression.isAdmissible, Expression.hasNul, Expression.depth, hnul]
  rw [Store.isOk_hybrid_iff hhealthy, hexpression, hloose]
  rintro expression ⟨rfl⟩
  exact ⟨hfew, hadmissible⟩

theorem outcome_ofTerm (hhealthy : store.Healthy) (names : TagNames) (hnul : '\x00' ∉ term.toList) :
    (outcome store names (Query.ofTerm term)).isOk = true := by
  have hroute := routeOf_ofTerm names term
  cases hknown : (names.id? term).isSome with
  | true =>
      obtain ⟨items, hitems⟩ := withTags_ofTerm hhealthy names term
      have hgeneral : names.ids (Query.ofTerm term).general = names.ids [term] := rfl
      have hnegative : names.ids (Query.ofTerm term).negative = [] := rfl
      rw [hknown, if_pos rfl] at hroute
      simp only [outcome, hroute, run, hgeneral, hnegative, hitems, ok_bind,
        refine_of_healthy hhealthy]
      rfl
  | false =>
      have hexact : ((Query.ofTerm term).general.map fun term => (names.id? term).isSome) =
          [false] := by
        simp [Query.ofTerm, hknown]
      rw [hknown, if_neg Bool.false_ne_true] at hroute
      rw [isOk_outcome_of_hybrid hhealthy hroute, hexact]
      exact isOk_hybrid_ofTerm hhealthy hnul

/-- The filter asks of an item only that the term is among its lower-cased tags, or within
them or its path. -/
theorem accepts_ofTerm (structural : Bool) (tables : SideTables) (shown : Item) :
    Filter.accepts (Query.ofTerm term) structural tables shown =
      ((words (lower shown.tags.joined)).contains term ||
        contains (lower shown.tags.joined) term || contains (lower shown.filepath) term) := by
  simp [Filter.accepts, Filter.structuralAccepts, Filter.sourceAccepts, Filter.extensionAccepts,
    Filter.filenameAccepts, Filter.relationshipAccepts, Filter.upscaledAccepts,
    Filter.metadataAccepts, Filter.categoriesAccept, Filter.ratingsAccept, Filter.termsAccept,
    Query.ofTerm, Query.hasTerms, Query.upscaled]

theorem accepts_ofTerm_of_carries
    (h : store.Consistent) (hitem : item ∈ store.items)
    (hterm : ∃ tag, store.Carries item.id tag ∧ lower tag.name = term) (structural : Bool)
    (tables : SideTables) :
    Filter.accepts (Query.ofTerm term) structural tables item.view = true := by
  have hword : term ∈ words (lower item.view.tags.joined) :=
    (h.mem_words_lower_joined hitem).2 hterm
  rw [accepts_ofTerm, List.contains_iff_mem.2 hword]
  rfl

theorem view_hit_mem_hits_ofTerm_iff
    (h : store.Consistent) (hitem : item ∈ store.items)
    (hterm : ∃ tag, store.Carries item.id tag ∧ lower tag.name = term)
    (hnul : '\x00' ∉ term.toList) :
    item.view.hit ∈ (answer store store.names (Query.ofTerm term)).hits ↔
      store.AnswersTo item term := by
  have hanswered := outcome_ofTerm h.sound.healthy store.names hnul
  have haccepts := accepts_ofTerm_of_carries h hitem hterm
  have hroute := routeOf_ofTerm store.names term
  by_cases hknows : store.Knows term
  · have hknown := (h.sound.isSome_id?_iff term).2 hknows
    rw [hknown, if_pos rfl] at hroute
    have hindexed : routeOf store.names (Query.ofTerm term) ≠ .hybrid := by simp [hroute]
    have hmeets : store.meets (Query.ofTerm term) item = true := rfl
    have hheld : store.hasAll item.id (store.names.ids (Query.ofTerm term).general) = true ↔
        ∀ name ∈ [term], ∃ tag, store.Carries item.id tag ∧ tag.name = name :=
      h.sound.hasAll_iff (List.forall_mem_singleton.2 hknown) item.id
    have hexcluded : store.hasNone item.id (store.names.ids (Query.ofTerm term).negative) = true :=
      rfl
    rw [view_hit_mem_hits_iff_selects h.sound hindexed hanswered hitem, hroute]
    simp only [selects, Store.holdsTags, haccepts, hmeets, hexcluded, Bool.true_and,
      Bool.and_true, hheld, List.forall_mem_singleton, Store.AnswersTo, hknows, not_true_eq_false,
      false_and, or_false]
  · have hknown := (h.sound.isSome_id?_eq_false_iff term).2 hknows
    rw [hknown, if_neg Bool.false_ne_true] at hroute
    have hunnamed : ¬∃ tag, store.Carries item.id tag ∧ tag.name = term := by
      rintro ⟨tag, htag, hname⟩
      exact hknows ⟨tag, htag.1, hname⟩
    have hcandidate :
        store.IsCandidate (Query.ofTerm term) item ↔
          ∀ name ∈ [term], store.HasTerm item name := by
      rw [isCandidate_iff_of_negative_eq_nil rfl]
      exact two_attempts_iff (Or.inr le_rfl)
    rw [view_hit_mem_hits_hybrid_iff h.sound hroute hanswered hitem, hcandidate]
    simp only [haccepts, true_and, List.forall_mem_singleton, Store.HasTerm, Store.AnswersTo,
      hknows, hunnamed, not_false_eq_true, forall_const, IsEmpty.forall_iff, false_or]

end Search

end Gallery
