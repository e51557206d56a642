import Gallery.Proofs.Query.Plain

/-!
# Well-formed queries

Search relies on the shape of what it is asked with.  An empty term would be found in every
item, and an excluded term of several words, which is no tag, would exclude none.  Whatever
text is read as a query, none of this comes out of it: words are not empty and hold no blank,
the reader cuts pieces out of them that are not empty either, and only a quoted run joins
several words, which the query then says of itself.
-/

namespace Gallery

open Text

namespace Text

theorem head?_trimChar (mark : Char) (text : List Char) :
    (trimChar mark text).head? ≠ some mark := by
  have hfront : trimChar mark text <+: text.dropWhile (· == mark) := by
    rw [trimChar, ← List.reverse_suffix, List.reverse_reverse]
    exact List.dropWhile_suffix _
  intro hhead
  have hopens : (text.dropWhile (· == mark)).head? = some mark := by
    obtain ⟨later, hlater⟩ := hfront
    rw [← hlater, List.head?_append, hhead, Option.some_or]
  have hdropped := List.head?_dropWhile_not (· == mark) text
  rw [hopens] at hdropped
  simp at hdropped

theorem head?_intercalate_space {mark : Char} {words : List (List Char)}
    (hwords : ∀ word ∈ words, word ≠ [] ∧ word.head? ≠ some mark) :
    ([' '].intercalate words).head? ≠ some mark := by
  cases words with
  | nil => simp
  | cons word words =>
      obtain ⟨hne, hhead⟩ := hwords word List.mem_cons_self
      obtain ⟨c, word, rfl⟩ := List.exists_cons_of_ne_nil hne
      cases words with
      | nil => simpa using hhead
      | cons next words => simpa [List.intercalate_cons_cons] using hhead

end Text

/-! ## Tokens -/

/-- A term that is not empty and, unless it was quoted, is one word. -/
def Query.IsTerm (quoted : Bool) (term : String) : Prop :=
  term ≠ "" ∧ (quoted = false → MadeOf (isBlank · = false) term.toList)

theorem Query.IsTerm.quoted {quoted : Bool} {term : String} (h : IsTerm quoted term) :
    IsTerm true term :=
  ⟨h.1, by simp⟩

namespace Token

open Query

/-- The shape of what a token adds to a query in which terms may have been quoted. -/
def Shaped (quoted : Bool) : Token → Prop
  | .general term => IsTerm quoted term ∧ term.toList.head? ≠ some '"'
  | .phrase words => IsTerm true words ∧ words.toList.head? ≠ some '"'
  | .negative term => IsTerm quoted term
  | .categorized category term => category ≠ .rating ∧ term ≠ ""
  | .source term | .filename term | .pool (.named term) => term ≠ ""
  | .extensions endings => ∀ ending ∈ endings, isExtension ending.toList = true
  | _ => True

variable {quoted : Bool} {word : List Char}

theorem isTerm_tagName (level : RatingLevel) : IsTerm quoted level.tagName := by
  have hword : level.tagName ≠ "" ∧ MadeOf (isBlank · = false) level.tagName.toList := by
    cases level <;> decide
  exact ⟨hword.1, fun _ => hword.2⟩

theorem isTerm_ofList (hne : word ≠ []) (hletters : MadeOf (isBlank · = false) word) :
    IsTerm quoted (String.ofList word) := by
  refine ⟨by simpa using hne, fun _ => ?_⟩
  rwa [String.toList_ofList]

section Filters

variable {name value : String} {token : Token}

theorem shaped_hasFilter? (htoken : hasFilter? value = some token) : token.Shaped quoted := by
  have hvideo : ∀ ending ∈ [".mp4", ".webm"], isExtension ending.toList = true := by decide
  unfold hasFilter? at htoken
  split at htoken <;> cases htoken <;> first | exact hvideo | trivial

theorem shaped_isFilter? (htoken : isFilter? value = some token) : token.Shaped quoted := by
  unfold isFilter? at htoken
  split at htoken <;> cases htoken <;> trivial

theorem shaped_metadataFilter? (htoken : metadataFilter? value = some token) :
    token.Shaped quoted := by
  unfold metadataFilter? at htoken
  split at htoken <;> cases htoken <;> trivial

theorem shaped_categorized? (hvalue : value ≠ "") (htoken : categorized? name value = some token) :
    token.Shaped quoted := by
  unfold categorized? at htoken
  obtain ⟨category, -, hscoped⟩ := Option.bind_eq_some_iff.1 htoken
  split at hscoped
  · rename_i hscopable
    cases hscoped
    refine ⟨?_, hvalue⟩
    rintro rfl
    cases hscopable
  · cases hscoped

/-- A name without a value is no filter. -/
theorem shaped_namedFilter? (htoken : namedFilter? name value = some token) :
    token.Shaped quoted := by
  unfold namedFilter? at htoken
  split at htoken
  · cases htoken
  · rename_i hvalue
    split at htoken
    · cases htoken
      exact hvalue
    · cases htoken
      exact hvalue
    · cases htoken
      exact hvalue
    · obtain ⟨key, -, rfl⟩ := Option.map_eq_some_iff.1 htoken
      trivial
    · obtain ⟨level, -, rfl⟩ := Option.map_eq_some_iff.1 htoken
      trivial
    · exact shaped_metadataFilter? htoken
    · exact shaped_hasFilter? htoken
    · exact shaped_isFilter? htoken
    · exact shaped_categorized? hvalue htoken

end Filters

section Words

variable (hne : word ≠ []) (hletters : MadeOf (isBlank · = false) word)
  (hunquoted : word.head? ≠ some '"')

include hne hletters hunquoted

theorem shaped_bare : (bare word).Shaped quoted := by
  unfold bare
  split
  · trivial
  · split
    · rename_i hextension
      intro ending hending
      rcases List.mem_singleton.1 hending with rfl
      rwa [String.toList_ofList]
    · refine ⟨isTerm_ofList hne hletters, ?_⟩
      rwa [String.toList_ofList]

theorem shaped_positive : (positive word).Shaped quoted := by
  unfold positive
  split
  · rename_i name value hcut
    cases hnamed : namedFilter? (String.ofList name) (String.ofList value) with
    | none => exact shaped_bare hne hletters hunquoted
    | some token => exact shaped_namedFilter? hnamed
  · exact shaped_bare hne hletters hunquoted

theorem shaped_classify : (classify word).Shaped quoted := by
  unfold classify
  split
  · trivial
  · split
    · rename_i c rest _
      change IsTerm quoted (negativeTerm (c :: rest))
      unfold negativeTerm
      split
      · exact isTerm_tagName _
      · exact isTerm_ofList (by simp) (hletters.of_subset (List.subset_cons_self _ _))
    · exact shaped_positive hne hletters hunquoted

end Words

end Token

/-! ## Queries -/

namespace Query

/-- The shape of a query, as far as it does not depend on letters. -/
structure Shaped (query : Query) : Prop where
  general : ∀ term ∈ query.general,
    IsTerm query.freetext term ∧ term.toList.head? ≠ some '"'
  negative : ∀ term ∈ query.negative, IsTerm query.freetext term
  categorized : ∀ entry ∈ query.categorized, entry.1 ≠ .rating ∧ entry.2 ≠ ""
  sources : ∀ label ∈ query.sources, label ≠ ""
  filename : ∀ fragment, query.filename = some fragment → fragment ≠ ""
  pool : ∀ pool, query.pool = some (.named pool) → pool ≠ ""
  extensions : ∀ ending ∈ query.extensions, Token.isExtension ending.toList = true

variable {query : Query}

theorem shaped_empty : Shaped {} := by
  refine ⟨?_, ?_, ?_, ?_, ?_, ?_, ?_⟩ <;> simp

/-- Once terms may have been quoted, less is asked of those that are there. -/
theorem Shaped.quoted (h : query.Shaped) : Shaped { query with freetext := true } :=
  { h with
    general := fun term hterm => ⟨(h.general term hterm).1.quoted, (h.general term hterm).2⟩
    negative := fun term hterm => (h.negative term hterm).quoted }

theorem Shaped.apply (h : query.Shaped) {token : Token} (htoken : token.Shaped query.freetext) :
    (query.apply token).Shaped := by
  cases token with
  | general term =>
      exact { h with
        general := List.forall_mem_append.2 ⟨h.general, List.forall_mem_singleton.2 htoken⟩ }
  | phrase words =>
      exact { h.quoted with
        general :=
          List.forall_mem_append.2 ⟨h.quoted.general, List.forall_mem_singleton.2 htoken⟩ }
  | negative term =>
      exact { h with
        negative := List.forall_mem_append.2 ⟨h.negative, List.forall_mem_singleton.2 htoken⟩ }
  | categorized category term =>
      exact { h with
        categorized :=
          List.forall_mem_append.2 ⟨h.categorized, List.forall_mem_singleton.2 htoken⟩ }
  | source label =>
      exact { h with
        sources := List.forall_mem_append.2 ⟨h.sources, List.forall_mem_singleton.2 htoken⟩ }
  | filename fragment =>
      exact { h with
        filename := by
          intro other hother
          cases hother
          exact htoken }
  | extensions endings =>
      exact { h with extensions := List.forall_mem_append.2 ⟨h.extensions, htoken⟩ }
  | pool filter =>
      exact { h with
        pool := by
          intro pool hpool
          cases hpool
          exact htoken }
  | upscaled filter => cases filter <;> exact { h with }
  | _ => exact { h with }

theorem Shaped.applyPhrase (h : query.Shaped) (hfreetext : query.freetext = true)
    (negated : Bool) {phrase : List Char} (hunquoted : phrase.head? ≠ some '"') :
    (query.applyPhrase negated phrase).Shaped := by
  unfold Query.applyPhrase
  split_ifs with hempty hnegated
  · exact h
  · have hterm : (Token.negative (String.ofList phrase)).Shaped query.freetext :=
      ⟨by simpa using hempty, by simp [hfreetext]⟩
    exact h.apply hterm
  · have hterm : IsTerm true (String.ofList phrase) := ⟨by simpa using hempty, by simp⟩
    have htoken : (Token.phrase (String.ofList phrase)).Shaped query.freetext :=
      ⟨hterm, by rwa [String.toList_ofList]⟩
    exact h.apply htoken

end Query

/-! ## Reading -/

namespace QueryReading

/-- What has been read has its shape.  A phrase is open only in a query that says so, and
none of its words is empty or begins with a quote. -/
structure Shaped (reading : QueryReading) : Prop where
  query : reading.query.Shaped
  phrase : ∀ phrase, reading.phrase? = some phrase → reading.query.freetext = true ∧
    ∀ word ∈ phrase.words, word ≠ [] ∧ word.head? ≠ some '"'

theorem bare_push {phrase : OpenPhrase}
    (hwords : ∀ word ∈ phrase.words, word ≠ [] ∧ word.head? ≠ some '"') (word : List Char) :
    ∀ other ∈ (phrase.push word).words, other ≠ [] ∧ other.head? ≠ some '"' := by
  unfold OpenPhrase.push
  dsimp only
  split
  · exact hwords
  · rename_i hbare
    exact List.forall_mem_append.2
      ⟨hwords, List.forall_mem_singleton.2 ⟨hbare, head?_trimChar _ _⟩⟩

theorem head?_of_opening?_eq_none {word : List Char} (hopening : opening? word = none) :
    word.head? ≠ some '"' := by
  intro hhead
  obtain ⟨rest, rfl⟩ := List.head?_eq_some_iff.1 hhead
  simp [opening?] at hopening

theorem Shaped.read {reading : QueryReading} (h : reading.Shaped) {word : List Char}
    (hne : word ≠ []) (hletters : MadeOf (isBlank · = false) word) :
    (reading.read word).Shaped := by
  unfold QueryReading.read
  cases hphrase : reading.phrase? with
  | some phrase =>
      obtain ⟨hfreetext, hwords⟩ := h.phrase phrase hphrase
      dsimp only
      unfold continuePhrase
      split
      · have hunquoted := head?_intercalate_space (bare_push hwords ‹List Char›)
        exact ⟨h.query.applyPhrase hfreetext _ hunquoted, by simp⟩
      · refine ⟨h.query, ?_⟩
        intro later hlater
        cases hlater
        exact ⟨hfreetext, bare_push hwords word⟩
  | none =>
      dsimp only
      cases hopening : opening? word with
      | none =>
          have hunquoted := head?_of_opening?_eq_none hopening
          exact ⟨h.query.apply (Token.shaped_classify hne hletters hunquoted), by simp⟩
      | some opening =>
          obtain ⟨negated, rest⟩ := opening
          dsimp only
          unfold openPhrase
          split
          · exact ⟨h.query.quoted.applyPhrase rfl _ (head?_trimChar _ _), by simp⟩
          · refine ⟨h.query.quoted, ?_⟩
            intro later hlater
            cases hlater
            exact ⟨rfl, bare_push (by simp) rest⟩

theorem Shaped.finish {reading : QueryReading} (h : reading.Shaped) : reading.finish.Shaped := by
  unfold QueryReading.finish
  cases hphrase : reading.phrase? with
  | some phrase =>
      obtain ⟨hfreetext, hwords⟩ := h.phrase phrase hphrase
      exact h.query.applyPhrase hfreetext _ (head?_intercalate_space hwords)
  | none => exact h.query

end QueryReading

namespace Query

theorem shaped_parse (text : String) : (parse text).Shaped := by
  have hread : ((wordsOf (lowerOf text.toList)).foldl QueryReading.read {}).Shaped := by
    refine List.foldlRecOn (motive := QueryReading.Shaped) _ _ ⟨shaped_empty, by simp⟩ ?_
    intro reading hreading word hword
    obtain ⟨hne, hletters⟩ := mem_wordsOf hword
    exact hreading.read hne hletters
  exact hread.finish

/-! ## What searches rely on -/

/-- A text to look for: there is something to find, and it is written as searches compare
texts. -/
structure IsSought (text : String) : Prop where
  nonempty : text ≠ ""
  lowered : lower text = text

structure WellFormed (query : Query) : Prop where
  general : ∀ term ∈ query.general, IsSought term ∧ term.toList.head? ≠ some '"'
  negative : ∀ term ∈ query.negative, IsSought term
  /-- A category stands in the query with at least one term, and ratings have a filter of
  their own. -/
  categories : ∀ category ∈ query.categorized.map (·.1),
    category ≠ .rating ∧ query.categoryTerms category ≠ []
  categoryTerms : ∀ category, ∀ term ∈ query.categoryTerms category, IsSought term
  ratings : ∀ level ∈ query.ratings, level.tagName ∈
    ["rating:general", "rating:sensitive", "rating:questionable", "rating:explicit"]
  sources : ∀ label ∈ query.sources, IsSought label
  filename : ∀ fragment, query.filename = some fragment → IsSought fragment
  pool : ∀ pool, query.pool = some (.named pool) → IsSought pool
  extensions : ∀ ending ∈ query.extensions,
    ∃ rest, ending.toList = '.' :: rest ∧ rest ≠ [] ∧ '.' ∉ rest
  /-- Without quotes every term is one word. -/
  words : query.freetext = false →
    ∀ term ∈ query.general ++ query.negative, ∀ c ∈ term.toList, isBlank c = false

theorem isExtension_iff {text : List Char} :
    Token.isExtension text = true ↔ ∃ rest, text = '.' :: rest ∧ rest ≠ [] ∧ '.' ∉ rest := by
  unfold Token.isExtension
  split
  · simp
  · rename_i hother
    simpa using fun rest heq => absurd heq (hother rest)

/-- Whatever is typed, the query that is read from it is well formed. -/
theorem wellFormed_parse (text : String) : (parse text).WellFormed := by
  have hshaped := shaped_parse text
  have hsettled := settled_parse text
  refine ⟨?_, ?_, ?_, ?_, ?_, ?_, ?_, ?_, ?_, ?_⟩
  · intro term hterm
    obtain ⟨hterm', hunquoted⟩ := hshaped.general term hterm
    exact ⟨⟨hterm'.1, lower_eq_self (hsettled.general term hterm)⟩, hunquoted⟩
  · intro term hterm
    exact ⟨(hshaped.negative term hterm).1, lower_eq_self (hsettled.negative term hterm)⟩
  · intro category hcategory
    obtain ⟨entry, hentry, rfl⟩ := List.mem_map.1 hcategory
    refine ⟨(hshaped.categorized entry hentry).1, ?_⟩
    apply List.ne_nil_of_mem (a := entry.2)
    exact List.mem_map_of_mem (List.mem_filter.2 ⟨hentry, by simp⟩)
  · intro category term hterm
    obtain ⟨entry, hentry, rfl⟩ := List.mem_map.1 hterm
    have hentry := List.mem_of_mem_filter hentry
    exact ⟨(hshaped.categorized entry hentry).2, lower_eq_self (hsettled.categorized entry hentry)⟩
  · intro level _
    cases level <;> decide
  · intro label hlabel
    exact ⟨hshaped.sources label hlabel, lower_eq_self (hsettled.sources label hlabel)⟩
  · intro fragment hfragment
    exact ⟨hshaped.filename fragment hfragment,
      lower_eq_self (hsettled.filename fragment hfragment)⟩
  · intro pool hpool
    exact ⟨hshaped.pool pool hpool, lower_eq_self (hsettled.pool pool hpool)⟩
  · exact fun ending hending => isExtension_iff.1 (hshaped.extensions ending hending)
  · intro hfreetext term hterm
    rcases List.mem_append.1 hterm with hgeneral | hnegative
    · exact (hshaped.general term hgeneral).1.2 hfreetext
    · exact (hshaped.negative term hnegative).2 hfreetext

end Query

end Gallery
