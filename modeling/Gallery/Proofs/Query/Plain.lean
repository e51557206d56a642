import Gallery.Proofs.Text.Lowering
import Gallery.Query.Parser

/-!
# What a parsed query asks with

A query is lower-cased before anything else, and every text in the parsed query is
cut out of it or is one of a few constants.  So whatever holds of the characters of the
lower-cased query, and of those of the constants, holds of all texts that are asked with:
they are settled, and none holds a U+0000 that the query did not hold.
-/

namespace Gallery

open Text

namespace Text

/-- Only characters that have a property. -/
def MadeOf (P : Char → Prop) (text : List Char) : Prop :=
  ∀ c ∈ text, P c

/-- Settled, and no U+0000. -/
def IsPlainChar (c : Char) : Prop :=
  Settled c ∧ c ≠ '\x00'

instance (c : Char) : Decidable (IsPlainChar c) :=
  inferInstanceAs (Decidable (_ ∧ _))

instance (P : Char → Prop) [DecidablePred P] (text : List Char) : Decidable (MadeOf P text) :=
  List.decidableBAll P text

section MadeOf

variable {P Q : Char → Prop} {text piece : List Char}

theorem MadeOf.of_subset (h : MadeOf P text) (hsub : piece ⊆ text) : MadeOf P piece :=
  fun c hc => h c (hsub hc)

theorem MadeOf.imp (h : MadeOf P text) (himp : ∀ c, P c → Q c) : MadeOf Q text :=
  fun c hc => himp c (h c hc)

theorem MadeOf.settled (h : MadeOf IsPlainChar text) : MadeOf Settled text :=
  h.imp fun _ hc => hc.1

theorem MadeOf.nul (h : MadeOf IsPlainChar text) : '\x00' ∉ text :=
  fun hmem => (h _ hmem).2 rfl

theorem settled_lowerOf (text : List Char) : MadeOf Settled (lowerOf text) :=
  fun _ hc => settled_of_mem_lowerAfter hc

theorem plain_lowerOf (htext : '\x00' ∉ text) : MadeOf IsPlainChar (lowerOf text) := by
  intro c hc
  refine ⟨settled_of_mem_lowerAfter hc, ?_⟩
  rintro rfl
  exact htext (mem_of_mem_lowerAfter (by decide) hc)

end MadeOf

theorem firstRunAndWords_subset (text : List Char) :
    (firstRunAndWords text).1 ⊆ text ∧ ∀ word ∈ (firstRunAndWords text).2, word ⊆ text := by
  induction text with
  | nil => simp
  | cons c text ih =>
      obtain ⟨hrun, hlater⟩ := ih
      cases hc : isBlank c with
      | false =>
          rw [firstRunAndWords_letter text hc]
          refine ⟨List.cons_subset_cons c hrun, ?_⟩
          exact fun word hword => List.Subset.trans (hlater word hword) (List.subset_cons_self c text)
      | true =>
          rw [firstRunAndWords_blank text hc]
          refine ⟨List.nil_subset _, ?_⟩
          intro word hword
          refine List.Subset.trans ?_ (List.subset_cons_self c text)
          unfold wordsOf at hword
          dsimp only at hword
          split at hword
          · exact hlater word hword
          · rcases List.mem_cons.1 hword with rfl | hword
            · exact hrun
            · exact hlater word hword

theorem wordsOf_subset {text word : List Char} (hword : word ∈ wordsOf text) : word ⊆ text := by
  obtain ⟨hrun, hlater⟩ := firstRunAndWords_subset text
  unfold wordsOf at hword
  dsimp only at hword
  split at hword
  · exact hlater word hword
  · rcases List.mem_cons.1 hword with rfl | hword
    · exact hrun
    · exact hlater word hword

theorem cutAt?_subset
    {mark : Char} {text left right : List Char} (hcut : cutAt? mark text = some (left, right)) :
    right ⊆ text := by
  unfold cutAt? at hcut
  split at hcut
  · cases hcut
  · rename_i rest hrest
    cases hcut
    intro c hc
    have hmem : c ∈ text.dropWhile (· != mark) := hrest ▸ List.mem_cons_of_mem _ hc
    exact (List.dropWhile_sublist _).subset hmem

theorem beforeEnd?_subset
    {ending text left : List Char} (hcut : beforeEnd? ending text = some left) : left ⊆ text := by
  unfold beforeEnd? at hcut
  split at hcut
  · cases hcut
    exact List.take_subset _ _
  · cases hcut

theorem trimChar_subset (mark : Char) (text : List Char) : trimChar mark text ⊆ text := by
  intro c hc
  unfold trimChar at hc
  have hinner := (List.dropWhile_sublist _).subset (List.mem_reverse.1 hc)
  exact (List.dropWhile_sublist _).subset (List.mem_reverse.1 hinner)

end Text

/-! ## Tokens -/

-- The constants of the parser are plain, so any property of plain characters will do.
variable {P : Char → Prop} (hP : ∀ c, IsPlainChar c → P c)

namespace Token

/-- All texts of a token are made of characters with a property. -/
def Over (P : Char → Prop) : Token → Prop
  | .general term | .phrase term | .negative term | .categorized _ term | .source term
  | .filename term | .pool (.named term) => MadeOf P term.toList
  | .extensions endings => ∀ ending ∈ endings, MadeOf P ending.toList
  | _ => True

theorem plain_tagName (level : RatingLevel) : MadeOf IsPlainChar level.tagName.toList := by
  cases level <;> decide

include hP in
theorem over_hasFilter? {value : String} {token : Token} (htoken : hasFilter? value = some token) :
    token.Over P := by
  have hvideo : ∀ ending ∈ [".mp4", ".webm"], MadeOf P ending.toList := by
    have hplain : ∀ ending ∈ [".mp4", ".webm"], MadeOf IsPlainChar ending.toList := by
      decide
    exact fun ending hending => (hplain ending hending).imp hP
  unfold hasFilter? at htoken
  split at htoken <;> cases htoken <;> first | exact hvideo | trivial

theorem over_isFilter? {value : String} {token : Token} (htoken : isFilter? value = some token) :
    token.Over P := by
  unfold isFilter? at htoken
  split at htoken <;> cases htoken <;> trivial

theorem over_metadataFilter?
    {value : String} {token : Token} (htoken : metadataFilter? value = some token) :
    token.Over P := by
  unfold metadataFilter? at htoken
  split at htoken <;> cases htoken <;> trivial

theorem over_categorized?
    {name value : String} {token : Token} (hvalue : MadeOf P value.toList)
    (htoken : categorized? name value = some token) : token.Over P := by
  unfold categorized? at htoken
  obtain ⟨category, -, hscoped⟩ := Option.bind_eq_some_iff.1 htoken
  split at hscoped
  · cases hscoped
    exact hvalue
  · cases hscoped

include hP in
theorem over_namedFilter?
    {name value : String} {token : Token} (hvalue : MadeOf P value.toList)
    (htoken : namedFilter? name value = some token) : token.Over P := by
  unfold namedFilter? at htoken
  split at htoken
  · cases htoken
  · split at htoken
    · cases htoken
      exact hvalue
    · cases htoken
      exact hvalue
    · cases htoken
      exact hvalue
    · obtain ⟨key, -, rfl⟩ := Option.map_eq_some_iff.1 htoken
      trivial
    · obtain ⟨level, -, rfl⟩ := Option.map_eq_some_iff.1 htoken
      trivial
    · exact over_metadataFilter? htoken
    · exact over_hasFilter? hP htoken
    · exact over_isFilter? htoken
    · exact over_categorized? hvalue htoken

theorem over_bare {word : List Char} (hword : MadeOf P word) : (bare word).Over P := by
  unfold bare
  split
  · trivial
  · split
    · intro ending hending
      rcases List.mem_singleton.1 hending with rfl
      rwa [String.toList_ofList]
    · change MadeOf P (String.ofList word).toList
      rwa [String.toList_ofList]

include hP in
theorem over_positive {word : List Char} (hword : MadeOf P word) : (positive word).Over P := by
  unfold positive
  cases hcut : cutAt? ':' word with
  | none => exact over_bare hword
  | some sides =>
      obtain ⟨name, value⟩ := sides
      have hvalue : MadeOf P (String.ofList value).toList := by
        rw [String.toList_ofList]
        exact hword.of_subset (cutAt?_subset hcut)
      dsimp only
      cases hnamed : namedFilter? (String.ofList name) (String.ofList value) with
      | none => exact over_bare hword
      | some token => exact over_namedFilter? hP hvalue hnamed

include hP in
theorem over_classify {word : List Char} (hword : MadeOf P word) : (classify word).Over P := by
  unfold classify
  split
  · trivial
  · split
    · change MadeOf P (negativeTerm _).toList
      unfold negativeTerm
      split
      · exact (plain_tagName _).imp hP
      · rw [String.toList_ofList]
        exact hword.of_subset (List.subset_cons_self _ _)
    · exact over_positive hP hword

end Token

/-! ## Queries -/

namespace Query

/-- All texts that a query asks with are made of characters with a property. -/
structure Over (P : Char → Prop) (query : Query) : Prop where
  general : ∀ term ∈ query.general, MadeOf P term.toList
  negative : ∀ term ∈ query.negative, MadeOf P term.toList
  categorized : ∀ entry ∈ query.categorized, MadeOf P entry.2.toList
  sources : ∀ label ∈ query.sources, MadeOf P label.toList
  extensions : ∀ ending ∈ query.extensions, MadeOf P ending.toList
  filename : ∀ fragment, query.filename = some fragment → MadeOf P fragment.toList
  pool : ∀ pool, query.pool = some (.named pool) → MadeOf P pool.toList

theorem over_empty : Over P {} := by
  refine ⟨?_, ?_, ?_, ?_, ?_, ?_, ?_⟩ <;> simp

theorem Over.apply {query : Query} (h : query.Over P) {token : Token} (htoken : token.Over P) :
    (query.apply token).Over P := by
  have hadded {β : Type} {text : β → String} {old : List β} {new : β}
      (hold : ∀ other ∈ old, MadeOf P (text other).toList) (hnew : MadeOf P (text new).toList) :
      ∀ other ∈ old ++ [new], MadeOf P (text other).toList :=
    List.forall_mem_append.2 ⟨hold, List.forall_mem_singleton.2 hnew⟩
  cases token with
  | general term | phrase term => exact { h with general := hadded h.general htoken }
  | negative term => exact { h with negative := hadded h.negative htoken }
  | categorized category term =>
      exact { h with categorized := hadded h.categorized htoken }
  | source label => exact { h with sources := hadded h.sources htoken }
  | extensions endings =>
      exact { h with extensions := List.forall_mem_append.2 ⟨h.extensions, htoken⟩ }
  | filename fragment =>
      exact { h with
        filename := by
          intro other hother
          cases hother
          exact htoken }
  | pool filter =>
      exact { h with
        pool := by
          intro pool hpool
          cases hpool
          exact htoken }
  | upscaled filter => cases filter <;> exact { h with }
  | _ => exact { h with }

theorem Over.applyPhrase
    {query : Query} (h : query.Over P) (negated : Bool) {phrase : List Char}
    (hphrase : MadeOf P phrase) : (query.applyPhrase negated phrase).Over P := by
  have htext : MadeOf P (String.ofList phrase).toList := by rwa [String.toList_ofList]
  unfold Query.applyPhrase
  split_ifs
  · exact h
  · have htoken : (Token.negative (String.ofList phrase)).Over P := htext
    exact h.apply htoken
  · have htoken : (Token.phrase (String.ofList phrase)).Over P := htext
    exact h.apply htoken

end Query

namespace QueryReading

/-- What has been read is made of such characters, in the finished part and in the open
phrase. -/
structure Over (P : Char → Prop) (reading : QueryReading) : Prop where
  query : reading.query.Over P
  phrase : ∀ phrase, reading.phrase? = some phrase → ∀ word ∈ phrase.words, MadeOf P word

theorem madeOf_push
    {phrase : OpenPhrase} (hphrase : ∀ word ∈ phrase.words, MadeOf P word) {word : List Char}
    (hword : MadeOf P word) : ∀ other ∈ (phrase.push word).words, MadeOf P other := by
  intro other hother
  unfold OpenPhrase.push at hother
  dsimp only at hother
  split at hother
  · exact hphrase other hother
  · rcases List.mem_append.1 hother with hold | hnew
    · exact hphrase other hold
    · rcases List.mem_singleton.1 hnew with rfl
      exact hword.of_subset (trimChar_subset _ _)

include hP in
theorem madeOf_intercalate {words : List (List Char)} (hwords : ∀ word ∈ words, MadeOf P word) :
    MadeOf P ([' '].intercalate words) := by
  have hspace : P ' ' := hP ' ' (by decide)
  induction words with
  | nil =>
      intro c hc
      simp at hc
  | cons word words ih =>
      cases words with
      | nil => simpa using hwords word List.mem_cons_self
      | cons next words =>
          rw [List.intercalate_cons_cons]
          intro c hc
          rcases List.mem_append.1 hc with hfront | hrest
          · rcases List.mem_append.1 hfront with hword | hblank
            · exact hwords word List.mem_cons_self c hword
            · rcases List.mem_singleton.1 hblank with rfl
              exact hspace
          · exact ih (fun other hother => hwords other (List.mem_cons_of_mem word hother)) c hrest

theorem opening?_subset
    {word rest : List Char} {negated : Bool} (hopening : opening? word = some (negated, rest)) :
    rest ⊆ word := by
  unfold opening? at hopening
  split at hopening
  · cases hopening
    exact fun c hc => List.mem_cons_of_mem _ (List.mem_cons_of_mem _ hc)
  · cases hopening
    exact List.subset_cons_self _ _
  · cases hopening

include hP in
theorem Over.read {reading : QueryReading} (h : reading.Over P) {word : List Char}
    (hword : MadeOf P word) : (reading.read word).Over P := by
  unfold QueryReading.read
  cases hphrase : reading.phrase? with
  | some phrase =>
      have hwords := h.phrase phrase hphrase
      dsimp only
      unfold continuePhrase
      cases hend : beforeEnd? ['"'] word with
      | some last =>
          have hlast := hword.of_subset (beforeEnd?_subset hend)
          exact ⟨h.query.applyPhrase _ (madeOf_intercalate hP (madeOf_push hwords hlast)),
            by simp⟩
      | none =>
          refine ⟨h.query, ?_⟩
          intro later hlater
          cases hlater
          exact madeOf_push hwords hword
  | none =>
      dsimp only
      cases hopening : opening? word with
      | none => exact ⟨h.query.apply (Token.over_classify hP hword), by simp⟩
      | some opening =>
          obtain ⟨negated, rest⟩ := opening
          have hrest := hword.of_subset (opening?_subset hopening)
          have hquery : Query.Over P { reading.query with freetext := true } := { h.query with }
          dsimp only
          unfold openPhrase
          cases hend : beforeEnd? ['"'] rest with
          | some inner =>
              have hinner := hrest.of_subset
                (List.Subset.trans (trimChar_subset '"' inner) (beforeEnd?_subset hend))
              exact ⟨hquery.applyPhrase _ hinner, by simp⟩
          | none =>
              refine ⟨hquery, ?_⟩
              intro later hlater
              cases hlater
              exact madeOf_push (by simp) hrest

include hP in
theorem Over.finish {reading : QueryReading} (h : reading.Over P) : reading.finish.Over P := by
  unfold QueryReading.finish
  cases hphrase : reading.phrase? with
  | some phrase =>
      exact h.query.applyPhrase _ (madeOf_intercalate hP (h.phrase phrase hphrase))
  | none => exact h.query

end QueryReading

namespace Query

include hP in
/-- What holds of the characters of a lower-cased query holds of those it asks with. -/
theorem over_parse {text : String} (htext : MadeOf P (lowerOf text.toList)) :
    (parse text).Over P := by
  have hread : ((wordsOf (lowerOf text.toList)).foldl QueryReading.read {}).Over P := by
    refine List.foldlRecOn (motive := QueryReading.Over P) _ _ ⟨over_empty, by simp⟩ ?_
    intro reading hreading word hword
    exact hreading.read hP (htext.of_subset (wordsOf_subset hword))
  exact hread.finish hP

theorem settled_parse (text : String) : (parse text).Over Settled :=
  over_parse (fun _ hc => hc.1) (settled_lowerOf text.toList)

/-- All texts that a query asks with are settled and without U+0000. -/
def Plain (query : Query) : Prop :=
  query.Over IsPlainChar

theorem Plain.settled {query : Query} (h : query.Plain) : query.Over Settled where
  general := fun term hterm => (h.general term hterm).settled
  negative := fun term hterm => (h.negative term hterm).settled
  categorized := fun entry hentry => (h.categorized entry hentry).settled
  sources := fun label hlabel => (h.sources label hlabel).settled
  extensions := fun ending hending => (h.extensions ending hending).settled
  filename := fun fragment hfragment => (h.filename fragment hfragment).settled
  pool := fun pool hpool => (h.pool pool hpool).settled

theorem plain_parse {text : String} (htext : '\x00' ∉ text.toList) : (parse text).Plain :=
  over_parse (fun _ hc => hc) (plain_lowerOf htext)

end Query

end Gallery
