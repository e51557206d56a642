import Gallery.Proofs.Query.Plain

/-!
# Quoted phrases

What stands between quotes is read as one term, whatever its words look like outside of
them.  The opening quote and the closing one may be parts of one word, of two words with
others between, or words by themselves, and the closing one may be missing.  In each case
the term is made of the words of what stands between the quotes.
-/

namespace Gallery

open Text

namespace Text

/-! ## Signs at the ends of a word -/

section Ends

variable {mark : Char} {text : List Char}

theorem trimChar_of_notMem (hmark : mark ∉ text) : trimChar mark text = text := by
  have hkept : ∀ {piece : List Char}, mark ∉ piece → piece.dropWhile (· == mark) = piece := by
    intro piece hpiece
    cases piece with
    | nil => rfl
    | cons c piece =>
        have hc : ¬(c == mark) = true := by
          intro heq
          exact hpiece (by simp [eq_of_beq heq])
        exact List.dropWhile_cons_of_neg hc
  rw [trimChar, hkept hmark, hkept (by simpa using hmark), List.reverse_reverse]

theorem beforeEnd?_concat (mark : Char) (text : List Char) :
    beforeEnd? [mark] (text ++ [mark]) = some text := by
  have hends : [mark].isSuffixOf (text ++ [mark]) = true :=
    List.isSuffixOf_iff_suffix.2 (List.suffix_append text [mark])
  rw [beforeEnd?, if_pos hends]
  simp

theorem beforeEnd?_of_notMem (hmark : mark ∉ text) : beforeEnd? [mark] text = none := by
  unfold beforeEnd?
  split
  · rename_i hends
    obtain ⟨front, rfl⟩ := List.isSuffixOf_iff_suffix.1 hends
    exact absurd (by simp) hmark
  · rfl

end Ends

end Text

/-! ## Reading a phrase -/

theorem OpenPhrase.push_of_notMem {phrase : OpenPhrase} {run : List Char} (hquote : '"' ∉ run) :
    phrase.push run = { phrase with words := phrase.words ++ wordOfRun run } := by
  unfold push wordOfRun
  rw [trimChar_of_notMem hquote]
  by_cases hrun : run = [] <;> simp [hrun]

namespace QueryReading

variable {query : Query} {phrase : OpenPhrase} {negated : Bool} {run : List Char}

theorem read_within (hquote : '"' ∉ run) (hne : run ≠ []) :
    read ⟨query, some phrase⟩ run =
      ⟨query, some { phrase with words := phrase.words ++ [run] }⟩ := by
  simp only [read, continuePhrase, beforeEnd?_of_notMem hquote,
    OpenPhrase.push_of_notMem hquote, wordOfRun, if_neg hne]

theorem foldl_read_within {words : List (List Char)}
    (hwords : ∀ word ∈ words, word ≠ [] ∧ '"' ∉ word) :
    words.foldl read ⟨query, some phrase⟩ =
      ⟨query, some { phrase with words := phrase.words ++ words }⟩ := by
  induction words generalizing phrase with
  | nil => simp
  | cons word words ih =>
      obtain ⟨⟨hne, hquote⟩, hlater⟩ := List.forall_mem_cons.1 hwords
      rw [List.foldl_cons, read_within hquote hne, ih hlater]
      simp

theorem read_closing (hquote : '"' ∉ run) :
    read ⟨query, some phrase⟩ (run ++ ['"']) =
      ⟨query.applyPhrase phrase.negated
        ([' '].intercalate (phrase.words ++ wordOfRun run)), none⟩ := by
  simp only [read, continuePhrase, beforeEnd?_concat, OpenPhrase.push_of_notMem hquote,
    OpenPhrase.text]

/-- What opens a phrase. -/
def opener (negated : Bool) : List Char :=
  if negated then ['-', '"'] else ['"']

theorem opening?_opener (negated : Bool) (rest : List Char) :
    opening? (opener negated ++ rest) = some (negated, rest) := by
  cases negated <;> rfl

theorem read_opening (hquote : '"' ∉ run) :
    read {} (opener negated ++ run) =
      ⟨{ freetext := true }, some ⟨negated, wordOfRun run⟩⟩ := by
  simp only [read, opening?_opener, openPhrase, beforeEnd?_of_notMem hquote,
    OpenPhrase.push_of_notMem hquote, List.nil_append]

theorem read_opening_closing (hquote : '"' ∉ run) :
    read {} (opener negated ++ run ++ ['"']) =
      ⟨Query.applyPhrase { freetext := true } negated run, none⟩ := by
  simp only [read, List.append_assoc, opening?_opener, openPhrase, beforeEnd?_concat,
    trimChar_of_notMem hquote]

end QueryReading

namespace Query

open QueryReading

variable {text : List Char}

theorem opener_ne_nil (negated : Bool) : opener negated ≠ [] := by
  cases negated <;> simp [opener]

theorem isBlank_of_mem_opener (negated : Bool) : ∀ c ∈ opener negated, isBlank c = false := by
  have hminus : isBlank '-' = false := by decide
  have hquote : isBlank '"' = false := by decide
  cases negated <;> simp [opener, hminus, hquote]

/-- The runs of a text without quotes are read into an open phrase as they are. -/
theorem runs_within (hquote : '"' ∉ text) :
    '"' ∉ (firstRunAndWords text).1 ∧
      ∀ word ∈ (firstRunAndWords text).2, word ≠ [] ∧ '"' ∉ word := by
  obtain ⟨hrun, hlater⟩ := firstRunAndWords_subset text
  refine ⟨fun hmem => hquote (hrun hmem), ?_⟩
  intro word hword
  exact ⟨(mem_words_of_firstRun hword).1, fun hmem => hquote (hlater word hword hmem)⟩

/-- A quote that nothing closes takes the words up to the end. -/
theorem ofWords_opened (hquote : '"' ∉ text) (negated : Bool) :
    ofWords (wordsOf (opener negated ++ text)) =
      applyPhrase { freetext := true } negated ([' '].intercalate (wordsOf text)) := by
  obtain ⟨hrun, hlater⟩ := runs_within hquote
  rw [ofWords, wordsOf_letters_append (opener_ne_nil negated) (isBlank_of_mem_opener negated),
    List.foldl_cons, read_opening hrun, foldl_read_within hlater, wordsOf_eq_append text]
  rfl

/-- The word with the opening quote may be the one with the closing quote. -/
theorem ofWords_closed (hquote : '"' ∉ text) (negated : Bool) :
    ofWords (wordsOf (opener negated ++ text ++ ['"'])) =
      applyPhrase { freetext := true } negated ([' '].intercalate (wordsOf text)) := by
  have hopened :=
    wordsOf_letters_append (opener_ne_nil negated) (isBlank_of_mem_opener negated) text
  obtain ⟨words, last, hclosed, hwords⟩ :=
    exists_wordsOf_concat (c := '"') (by decide) (opener negated ++ text)
  obtain ⟨hrun, hlater⟩ := runs_within hquote
  rw [hopened] at hwords
  rw [ofWords, hclosed, wordsOf_eq_append text]
  generalize (firstRunAndWords text).1 = run at *
  generalize (firstRunAndWords text).2 = later at *
  cases words with
  | nil =>
      obtain ⟨rfl, rfl⟩ := wordOfRun_eq_cons hwords.symm
      rw [List.nil_append, List.foldl_cons, List.foldl_nil, read_opening_closing hrun,
        List.append_nil, intercalate_wordOfRun]
      rfl
  | cons first words =>
      rw [List.cons_append] at hwords
      obtain ⟨rfl, rfl⟩ := List.cons_eq_cons.1 hwords
      have hbetween : ∀ word ∈ words, word ≠ [] ∧ '"' ∉ word :=
        fun word hword => hlater word (List.mem_append_left _ hword)
      have hend : '"' ∉ last :=
        notMem_of_forall_wordOfRun fun word hword => (hlater word (List.mem_append_right _ hword)).2
      rw [List.cons_append, List.foldl_cons, List.foldl_append, List.foldl_cons, List.foldl_nil,
        read_opening hrun, foldl_read_within hbetween, read_closing hend, ← List.append_assoc]
      rfl

/-- Whether it is closed or not, a phrase is made of the words behind its quote. -/
theorem ofWords_quoted (hquote : '"' ∉ text) (negated closed : Bool) :
    ofWords (wordsOf (opener negated ++ text ++ if closed then ['"'] else [])) =
      applyPhrase { freetext := true } negated ([' '].intercalate (wordsOf text)) := by
  cases closed with
  | true => exact ofWords_closed hquote negated
  | false =>
      rw [if_neg Bool.false_ne_true, List.append_nil]
      exact ofWords_opened hquote negated

/-! ## Lower case -/

theorem lowerOf_quoted (text : List Char) (negated closed : Bool) :
    lowerOf (opener negated ++ text ++ if closed then ['"'] else []) =
      opener negated ++ lowerOf text ++ if closed then ['"'] else [] := by
  have hopened (rest : List Char) : lowerOf (opener negated ++ rest) =
      opener negated ++ lowerOf rest := by
    cases negated with
    | false => exact lowerAfter_divider divides_quote [] [] rest
    | true =>
        have hquote : lowerOf ('"' :: rest) = '"' :: lowerOf rest :=
          lowerAfter_divider divides_quote [] [] rest
        calc
          lowerOf ('-' :: '"' :: rest) = '-' :: lowerOf ('"' :: rest) :=
            lowerAfter_divider divides_minus [] [] ('"' :: rest)
          _ = '-' :: '"' :: lowerOf rest := by rw [hquote]
  rw [List.append_assoc, hopened, List.append_assoc]
  cases closed with
  | false => simp
  | true =>
      rw [if_pos rfl, lowerOf, lowerAfter_divider divides_quote]
      rfl

theorem toList_intercalate_lower (names : List String) :
    (" ".intercalate (names.map lower)).toList =
      [' '].intercalate ((names.map String.toList).map lowerOf) := by
  simp [String.toList_intercalate, lower, Function.comp_def]

/-- A quote before some words makes one term of them, and so it does with a minus in front
and with a quote behind.  Blanks do not show in it, and no word is taken for a filter. -/
theorem parse_quoted {names : List String}
    (hnames : ∀ name ∈ names, isWord name = true ∧ '"' ∉ name.toList) {inner : String}
    (hspaced : Spaced (names.map String.toList) inner.toList) (negated closed : Bool) :
    let phrase := if names = [] then [] else [" ".intercalate (names.map lower)]
    parse ((if negated then "-\"" else "\"") ++ inner ++ if closed then "\"" else "") =
      { general := if negated then [] else phrase
        negative := if negated then phrase else []
        freetext := true } := by
  intro phrase
  have hwords : wordsOf inner.toList = names.map String.toList :=
    hspaced.wordsOf_eq_names fun name hname => (hnames name hname).1
  have hquote : '"' ∉ lowerOf inner.toList := by
    intro hmem
    have hinner : '"' ∈ inner.toList := mem_of_mem_lowerAfter (by decide) hmem
    obtain ⟨word, hword, hinside⟩ := exists_mem_wordsOf (by decide) hinner
    rw [hwords] at hword
    obtain ⟨name, hname, rfl⟩ := List.mem_map.1 hword
    exact (hnames name hname).2 hinside
  have htext : ((if negated then "-\"" else "\"") ++ inner ++
      if closed then "\"" else "").toList =
        opener negated ++ inner.toList ++ if closed then ['"'] else [] := by
    cases negated <;> cases closed <;> simp [opener]
  rw [parse, htext, lowerOf_quoted, ofWords_quoted hquote, wordsOf_lowerOf, hwords,
    ← toList_intercalate_lower]
  by_cases hnone : names = []
  · cases negated <;> simp [phrase, hnone, applyPhrase]
  · have hlowered : ∀ word ∈ names.map lower, isWord word = true := by
      intro word hword
      obtain ⟨name, hname, rfl⟩ := List.mem_map.1 hword
      exact isWord_lower (hnames name hname).1
    have hne : (" ".intercalate (names.map lower)).toList ≠ [] :=
      intercalate_names_ne_nil hlowered (mt List.map_eq_nil_iff.1 hnone)
    rw [applyPhrase, if_neg hne, String.ofList_toList]
    cases negated <;> simp [phrase, hnone, apply]

/-- Words that would be filters, an ending and an excluded term, with blanks of several
kinds between them and no closing quote. -/
theorem parse_quoted_of_filters :
    parse "-\"\u3000-x  .PNG\tpool:a\nΟΔΟΣ " =
      { negative := ["-x .png pool:a οδος"], freetext := true } := by
  have hspaced : Spaced (["-x", ".PNG", "pool:a", "ΟΔΟΣ"].map String.toList)
      "\u3000-x  .PNG\tpool:a\nΟΔΟΣ ".toList :=
    .more ['\u3000'] "-x".toList ' ' (List.forall_mem_singleton.2 (by decide)) (by decide)
      (.more [' '] ".PNG".toList '\t' (List.forall_mem_singleton.2 (by decide)) (by decide)
        (.more [] "pool:a".toList '\n' (List.forall_mem_nil _) (by decide)
          (.more [] "ΟΔΟΣ".toList ' ' (List.forall_mem_nil _) (by decide)
            (.blanks [] (List.forall_mem_nil _)))))
  have hnames : ∀ name ∈ ["-x", ".PNG", "pool:a", "ΟΔΟΣ"],
      isWord name = true ∧ '"' ∉ name.toList := by
    decide
  have hlowered : ["-x", ".PNG", "pool:a", "ΟΔΟΣ"].map lower = ["-x", ".png", "pool:a", "οδος"] := by
    decide +kernel
  have hparsed := parse_quoted hnames hspaced true false
  rw [hlowered] at hparsed
  exact hparsed

end Query

end Gallery
