import Gallery.Proofs.Text.Lowering
import Gallery.Query.Parser

/-!
# Reading queries behind one another

A blank ends a word, and a word outside quotes is read by itself.  So a query whose
quoted runs are closed can be followed by another one: what is read is the two
queries merged.  Three facts go into this.  The words of the lower-cased text are the
lower-cased words; a finished query in front of a reading is carried along unchanged
(`behind`); and whether a phrase is open can be seen from the words as they were typed
(`openAfter`), since lower-casing neither makes nor loses a quote.
-/

namespace Gallery

open Text

namespace Query

theorem merge_empty (query : Query) : query.merge {} = query := by
  simp [merge]

theorem merge_apply (base query : Query) (token : Token) :
    (base.merge query).apply token = base.merge (query.apply token) := by
  cases token with
  | upscaled filter => cases filter <;> simp [apply, merge]
  | _ => simp [apply, merge]

theorem merge_applyPhrase (base query : Query) (negated : Bool) (phrase : List Char) :
    (base.merge query).applyPhrase negated phrase =
      base.merge (query.applyPhrase negated phrase) := by
  unfold applyPhrase
  split
  · rfl
  · split <;> rw [merge_apply]

end Query

namespace QueryReading

/-! ## A query in front of a reading -/

/-- A reading with a finished query in front of it. -/
def behind (base : Query) (reading : QueryReading) : QueryReading :=
  ⟨base.merge reading.query, reading.phrase?⟩

theorem continuePhrase_merge (base query : Query) (phrase : OpenPhrase) (word : List Char) :
    continuePhrase (base.merge query) phrase word = (continuePhrase query phrase word).behind base := by
  unfold continuePhrase
  split
  · rw [Query.merge_applyPhrase]
    rfl
  · rfl

theorem openPhrase_merge (base query : Query) (negated : Bool) (rest : List Char) :
    openPhrase (base.merge query) negated rest = (openPhrase query negated rest).behind base := by
  unfold openPhrase
  split
  · rw [Query.merge_applyPhrase]
    rfl
  · rfl

theorem read_behind (base : Query) (reading : QueryReading) (word : List Char) :
    (reading.behind base).read word = (reading.read word).behind base := by
  unfold read
  cases hphrase : reading.phrase? with
  | some phrase =>
      simp only [behind, hphrase]
      exact continuePhrase_merge base reading.query phrase word
  | none =>
      simp only [behind, hphrase]
      split
      · have hfreetext : { base.merge reading.query with freetext := true } =
            base.merge { reading.query with freetext := true } := by
          simp [Query.merge]
        rw [hfreetext]
        exact openPhrase_merge base _ _ _
      · rw [Query.merge_apply]

theorem foldl_read_behind (base : Query) (words : List (List Char)) (reading : QueryReading) :
    words.foldl read (reading.behind base) = (words.foldl read reading).behind base := by
  induction words generalizing reading with
  | nil => rfl
  | cons word words ih => rw [List.foldl_cons, read_behind, ih, List.foldl_cons]

theorem finish_behind (base : Query) (reading : QueryReading) :
    (reading.behind base).finish = base.merge reading.finish := by
  unfold finish
  cases hphrase : reading.phrase? with
  | some phrase =>
      simp only [behind, hphrase]
      exact Query.merge_applyPhrase base reading.query phrase.negated phrase.text
  | none => simp [behind, hphrase]

/-! ## Open runs -/

def endsQuoted (word : List Char) : Bool :=
  word.getLast? = some '"'

/-- Whether a quoted run is open behind a word.  A word that begins with a quote, or
with a minus and a quote, opens one unless it ends with a second quote; the next word
that ends with a quote closes it. -/
def openAfter (opened : Bool) (word : List Char) : Bool :=
  if opened then !endsQuoted word
  else (opening? word).any fun (_, rest) => !endsQuoted rest

theorem beforeEnd?_quote (word : List Char) :
    (beforeEnd? ['"'] word).isSome = endsQuoted word := by
  have hends : ['"'].isSuffixOf word = endsQuoted word := by
    rw [Bool.eq_iff_iff, List.isSuffixOf_iff_suffix, endsQuoted, decide_eq_true_eq,
      List.getLast?_eq_some_iff]
    exact exists_congr fun _ => eq_comm
  unfold beforeEnd?
  rw [hends]
  split <;> simp_all

theorem isSome_read (reading : QueryReading) (word : List Char) :
    (reading.read word).phrase?.isSome = openAfter reading.phrase?.isSome word := by
  unfold read openAfter
  cases reading.phrase? with
  | some phrase =>
      rw [Option.isSome_some, if_pos rfl, ← beforeEnd?_quote]
      unfold continuePhrase
      cases beforeEnd? ['"'] word <;> rfl
  | none =>
      cases opening? word with
      | none => rfl
      | some start =>
          obtain ⟨negated, rest⟩ := start
          simp only [Option.isSome_none, Bool.false_eq_true, if_false, Option.any_some]
          rw [← beforeEnd?_quote]
          unfold openPhrase
          cases beforeEnd? ['"'] rest <;> rfl

theorem isSome_foldl_read (words : List (List Char)) (reading : QueryReading) :
    (words.foldl read reading).phrase?.isSome =
      words.foldl openAfter reading.phrase?.isSome := by
  induction words generalizing reading with
  | nil => rfl
  | cons word words ih => rw [List.foldl_cons, ih, isSome_read, List.foldl_cons]

/-- Lower-casing a word leaves what opens a run as it is, and a word that opens none, as it
begins with neither sign, opens none in lower case. -/
theorem opening?_lowerOf (word : List Char) :
    ∃ before, opening? (lowerOf word) =
      (opening? word).map fun (negated, rest) => (negated, lowerAfter before rest) := by
  have hquote : ('"' : Char).toNat < 65 := by decide
  have hminus : ('-' : Char).toNat < 65 := by decide
  have hquoted (before rest : List Char) :
      lowerAfter before ('"' :: rest) = '"' :: lowerAfter ('"' :: before) rest :=
    (lowerAfter_eq_cons_iff hquote).2 ⟨rest, rfl, rfl⟩
  have hnegated (before rest : List Char) :
      lowerAfter before ('-' :: rest) = '-' :: lowerAfter ('-' :: before) rest :=
    (lowerAfter_eq_cons_iff hminus).2 ⟨rest, rfl, rfl⟩
  by_cases hshort : ∃ rest, word = '"' :: rest
  · obtain ⟨rest, rfl⟩ := hshort
    exact ⟨['"'], by rw [lowerOf, hquoted]; rfl⟩
  by_cases hlong : ∃ rest, word = '-' :: '"' :: rest
  · obtain ⟨rest, rfl⟩ := hlong
    exact ⟨['"', '-'], by rw [lowerOf, hnegated, hquoted]; rfl⟩
  have hnone {text : List Char} (hshort : ¬∃ rest, text = '"' :: rest)
      (hlong : ¬∃ rest, text = '-' :: '"' :: rest) : opening? text = none := by
    unfold opening?
    split
    · exact absurd ⟨_, rfl⟩ hlong
    · exact absurd ⟨_, rfl⟩ hshort
    · rfl
  refine ⟨[], ?_⟩
  rw [hnone hshort hlong]
  apply hnone
  · rintro ⟨later, hlater⟩
    obtain ⟨rest, rfl, -⟩ := (lowerAfter_eq_cons_iff hquote).1 hlater
    exact hshort ⟨rest, rfl⟩
  · rintro ⟨later, hlater⟩
    obtain ⟨rest, rfl, hrest⟩ := (lowerAfter_eq_cons_iff hminus).1 hlater
    obtain ⟨inner, rfl, -⟩ := (lowerAfter_eq_cons_iff hquote).1 hrest.symm
    exact hlong ⟨inner, rfl⟩

theorem endsQuoted_lowerAfter (before word : List Char) :
    endsQuoted (lowerAfter before word) = endsQuoted word := by
  have hquote : ('"' : Char).toNat < 65 := by decide
  exact decide_eq_decide.2 (getLast?_lowerAfter hquote before word)

theorem openAfter_lowerOf (opened : Bool) (word : List Char) :
    openAfter opened (lowerOf word) = openAfter opened word := by
  obtain ⟨before, hopening⟩ := opening?_lowerOf word
  unfold openAfter
  rw [hopening, lowerOf, endsQuoted_lowerAfter, Option.any_map]
  simp only [endsQuoted_lowerAfter]

end QueryReading

namespace Query

/-- Every quoted run of a text is closed. -/
def QuotesClosed (text : String) : Prop :=
  (wordsOf text.toList).foldl QueryReading.openAfter false = false

instance (text : String) : Decidable (QuotesClosed text) :=
  inferInstanceAs (Decidable (_ = _))

theorem QuotesClosed.phrase?_eq_none {text : String} (h : QuotesClosed text) :
    ((wordsOf (lowerOf text.toList)).foldl QueryReading.read {}).phrase? = none := by
  have hsame : (wordsOf (lowerOf text.toList)).foldl QueryReading.openAfter false =
      (wordsOf text.toList).foldl QueryReading.openAfter false := by
    rw [wordsOf_lowerOf, List.foldl_map]
    simp only [QueryReading.openAfter_lowerOf]
  apply Option.not_isSome_iff_eq_none.1
  rw [Bool.not_eq_true]
  exact (QueryReading.isSome_foldl_read _ {}).trans (hsame.trans h)

/-- Two texts with blanks between them are read as two queries, provided that every
quoted run of the first is closed. -/
theorem parse_append {first : String} (hclosed : QuotesClosed first) {blanks : String}
    (hne : blanks ≠ "") (hblanks : ∀ c ∈ blanks.toList, isBlank c = true) (second : String) :
    parse (first ++ blanks ++ second) = (parse first).merge (parse second) := by
  have hwords :
      wordsOf (lowerOf (first ++ blanks ++ second).toList) =
        wordsOf (lowerOf first.toList) ++ wordsOf (lowerOf second.toList) := by
    have hlist : blanks.toList ≠ [] := by simpa using hne
    simp only [wordsOf_lowerOf, String.toList_append, wordsOf_append_blanks hlist hblanks,
      List.map_append]
  have hphrase := hclosed.phrase?_eq_none
  have hfinished :
      (wordsOf (lowerOf first.toList)).foldl QueryReading.read {} =
        QueryReading.behind (parse first) {} := by
    have hquery : parse first =
        ((wordsOf (lowerOf first.toList)).foldl QueryReading.read {}).query := by
      rw [parse, ofWords, QueryReading.finish, hphrase]
    rw [hquery, QueryReading.behind, merge_empty]
    exact congrArg (QueryReading.mk _) hphrase
  calc
    parse (first ++ blanks ++ second) =
        ((wordsOf (lowerOf second.toList)).foldl QueryReading.read
          (QueryReading.behind (parse first) {})).finish := by
      rw [parse, ofWords, hwords, List.foldl_append, hfinished]
    _ = (QueryReading.behind (parse first)
          ((wordsOf (lowerOf second.toList)).foldl QueryReading.read {})).finish := by
      rw [QueryReading.foldl_read_behind]
    _ = (parse first).merge (parse second) := by
      rw [QueryReading.finish_behind]
      rfl

theorem parse_append_of_phrase :
    QuotesClosed "ΟΔΟΣ -\"Red DOG\" pool:a order:new" ∧
      "\u3000" ≠ "" ∧ (∀ c ∈ "\u3000".toList, isBlank c = true) ∧
      parse ("ΟΔΟΣ -\"Red DOG\" pool:a order:new" ++ "\u3000" ++ "Σ \"blue order:old") =
        (parse "ΟΔΟΣ -\"Red DOG\" pool:a order:new").merge (parse "Σ \"blue order:old") := by
  have hclosed : QuotesClosed "ΟΔΟΣ -\"Red DOG\" pool:a order:new" := by decide
  have hne : "\u3000" ≠ "" := by decide
  have hblanks : ∀ c ∈ "\u3000".toList, isBlank c = true := List.all_eq_true.1 (by decide)
  exact ⟨hclosed, hne, hblanks, parse_append hclosed hne hblanks _⟩

example : ¬QuotesClosed "\"red" ∧
    parse "\"red dog" ≠ (parse "\"red").merge (parse "dog") := by
  decide

end Query

end Gallery
