import Gallery.Item.CategoryTags
import Gallery.Record.Basic
import Mathlib.Tactic

/-!
# Words of joined texts

A blank ends every word that it stands behind, so the words of two texts with a
blank between them are the words of the first and then those of the second.
From this one equation it follows that names joined by spaces are read back as
they were, and that the words of an item's joined text are those of its seven
category texts.  Letters at an end of a text lengthen the word there.
-/

namespace Gallery.Text

theorem isBlank_space : isBlank ' ' = true := by decide

theorem firstRunAndWords_append_blank
    {c : Char} (hc : isBlank c = true) (left right : List Char) :
    firstRunAndWords (left ++ c :: right) =
      ((firstRunAndWords left).1, (firstRunAndWords left).2 ++ wordsOf right) := by
  induction left with
  | nil => simp [firstRunAndWords_blank right hc]
  | cons d left ih =>
      cases hd : isBlank d with
      | true =>
          rw [List.cons_append, firstRunAndWords_blank _ hd, firstRunAndWords_blank _ hd]
          simp only [wordsOf, ih]
          split <;> rfl
      | false =>
          rw [List.cons_append, firstRunAndWords_letter _ hd, firstRunAndWords_letter _ hd, ih]

@[simp] theorem wordsOf_nil : wordsOf [] = [] := rfl

theorem wordsOf_append_blank
    {c : Char} (hc : isBlank c = true) (left right : List Char) :
    wordsOf (left ++ c :: right) = wordsOf left ++ wordsOf right := by
  simp only [wordsOf, firstRunAndWords_append_blank hc left right]
  split <;> rfl

/-- Any number of blanks separates words, as long as there is one. -/
theorem wordsOf_append_blanks
    {blanks : List Char} (hne : blanks ≠ []) (hblanks : ∀ c ∈ blanks, isBlank c = true)
    (left right : List Char) : wordsOf (left ++ blanks ++ right) = wordsOf left ++ wordsOf right := by
  induction blanks generalizing left with
  | nil => exact absurd rfl hne
  | cons c blanks ih =>
      have hc : isBlank c = true := hblanks c List.mem_cons_self
      rw [List.append_assoc, List.cons_append, wordsOf_append_blank hc]
      cases blanks with
      | nil => rfl
      | cons d blanks =>
          have hrest := ih (List.cons_ne_nil d blanks)
            (fun e he => hblanks e (List.mem_cons_of_mem c he)) []
          rw [List.nil_append, wordsOf_nil, List.nil_append] at hrest
          rw [hrest]

theorem firstRunAndWords_of_letters
    {text : List Char} (htext : ∀ c ∈ text, isBlank c = false) :
    firstRunAndWords text = (text, []) := by
  induction text with
  | nil => rfl
  | cons c text ih =>
      have hrest : firstRunAndWords text = (text, []) :=
        ih fun d hd => htext d (List.mem_cons_of_mem c hd)
      rw [firstRunAndWords_letter text (htext c List.mem_cons_self), hrest]

theorem wordsOf_of_letters
    {text : List Char} (hne : text ≠ []) (htext : ∀ c ∈ text, isBlank c = false) :
    wordsOf text = [text] := by
  simp [wordsOf, firstRunAndWords_of_letters htext, hne]

/-- A text is made of letters alone, or of two texts with a blank between. -/
@[elab_as_elim]
theorem wordsOf_induction
    {motive : List Char → Prop} (letters : ∀ text, (∀ c ∈ text, isBlank c = false) → motive text)
    (blank : ∀ left c right, isBlank c = true → motive left → motive right →
      motive (left ++ c :: right)) (text : List Char) : motive text := by
  by_cases hblank : ∃ c ∈ text, isBlank c = true
  · obtain ⟨c, hmem, hc⟩ := hblank
    obtain ⟨left, right, rfl⟩ := List.append_of_mem hmem
    exact blank left c right hc (wordsOf_induction letters blank left)
      (wordsOf_induction letters blank right)
  · refine letters text fun c hmem => ?_
    rw [Bool.eq_false_iff]
    exact fun hc => hblank ⟨c, hmem, hc⟩
termination_by text.length
decreasing_by
  all_goals
    subst text
    rw [List.length_append, List.length_cons]
    omega

theorem wordsOf_intercalate_space (parts : List (List Char)) :
    wordsOf ([' '].intercalate parts) = parts.flatMap wordsOf := by
  induction parts with
  | nil => rfl
  | cons part parts ih =>
      cases parts with
      | nil => simp
      | cons next parts =>
          rw [List.intercalate_cons_cons, List.append_assoc, List.singleton_append,
            wordsOf_append_blank isBlank_space, ih]
          simp only [List.flatMap_cons]

theorem infix_intercalate_space {parts : List (List Char)} {part : List Char}
    (hpart : part ∈ parts) : part <:+: [' '].intercalate parts := by
  induction parts with
  | nil => cases hpart
  | cons first parts ih =>
      cases parts with
      | nil =>
          rcases List.mem_singleton.1 hpart with rfl
          simp
      | cons next parts =>
          rw [List.intercalate_cons_cons, List.append_assoc]
          rcases List.mem_cons.1 hpart with rfl | hlater
          · exact (List.prefix_append part _).isInfix
          · rw [← List.append_assoc]
            exact (ih hlater).trans (List.suffix_append _ _).isInfix

/-- A piece without a certain character lies on one side of it. -/
theorem infix_or_of_infix_append_cons {c : Char} {piece left right : List Char}
    (hpiece : c ∉ piece) (hinside : piece <:+: left ++ c :: right) :
    piece <:+: left ∨ piece <:+: right := by
  obtain ⟨before, after, hsplit⟩ := hinside
  rcases List.append_eq_append_iff.1 hsplit with ⟨rest, hleft, -⟩ | ⟨rest, hbegun, hrest⟩
  · exact .inl ⟨before, rest, hleft.symm⟩
  · cases rest with
    | nil =>
        left
        exact ⟨before, [], by simpa using hbegun⟩
    | cons d rest =>
        obtain ⟨rfl, hright⟩ := List.cons_eq_cons.1 hrest
        rcases List.append_eq_append_iff.1 hbegun with ⟨inner, -, hover⟩ | ⟨inner, -, hover⟩
        · exact absurd (hover ▸ by simp) hpiece
        · cases inner with
          | nil =>
              have hpieceEq : c :: rest = piece := hover
              exact absurd (hpieceEq ▸ List.mem_cons_self) hpiece
          | cons d inner =>
              obtain ⟨-, hinner⟩ := List.cons_eq_cons.1 hover
              exact .inr ⟨inner, after, by simp [hright, hinner]⟩

theorem exists_infix_of_infix_intercalate_space {piece : List Char} (hne : piece ≠ [])
    (hspace : ' ' ∉ piece) {parts : List (List Char)}
    (hinside : piece <:+: [' '].intercalate parts) : ∃ part ∈ parts, piece <:+: part := by
  induction parts with
  | nil => exact absurd (List.infix_nil.1 hinside) hne
  | cons part parts ih =>
      cases parts with
      | nil => exact ⟨part, by simp, by simpa using hinside⟩
      | cons next parts =>
          rw [List.intercalate_cons_cons, List.append_assoc, List.singleton_append] at hinside
          rcases infix_or_of_infix_append_cons hspace hinside with hhere | hlater
          · exact ⟨part, List.mem_cons_self, hhere⟩
          · obtain ⟨other, hother, hpiece⟩ := ih hlater
            exact ⟨other, List.mem_cons_of_mem part hother, hpiece⟩

theorem infix_of_mem_wordsOf {text word : List Char} (hword : word ∈ wordsOf text) :
    word <:+: text := by
  induction text using wordsOf_induction generalizing word with
  | letters text htext =>
      by_cases hempty : text = []
      · simp [hempty] at hword
      · rw [wordsOf_of_letters hempty htext, List.mem_singleton] at hword
        rw [hword]
  | blank left c right hc hleft hright =>
      rw [wordsOf_append_blank hc, List.mem_append] at hword
      rcases hword with hword | hword
      · exact (hleft hword).trans (List.prefix_append left _).isInfix
      · exact (hright hword).trans (List.suffix_append_of_suffix (List.suffix_cons c right)).isInfix

/-- What stands in a word: at least one character, and no blank. -/
theorem mem_words_of_firstRun
    {text word : List Char} (hword : word ∈ (firstRunAndWords text).2) :
    word ≠ [] ∧ ∀ c ∈ word, isBlank c = false := by
  induction text generalizing word with
  | nil => simp at hword
  | cons d text ih =>
      cases hd : isBlank d with
      | false =>
          rw [firstRunAndWords_letter text hd] at hword
          exact ih hword
      | true =>
          rw [firstRunAndWords_blank text hd] at hword
          simp only [wordsOf] at hword
          split at hword
          · exact ih hword
          · rename_i hrun
            rcases List.mem_cons.1 hword with rfl | hlater
            · exact ⟨by simpa using hrun, fun c hc => not_blank_of_mem_firstRun hc⟩
            · exact ih hlater

theorem mem_wordsOf
    {text word : List Char} (hword : word ∈ wordsOf text) :
    word ≠ [] ∧ ∀ c ∈ word, isBlank c = false := by
  have hspaced : word ∈ (firstRunAndWords (' ' :: text)).2 := by
    rw [firstRunAndWords_blank text isBlank_space]
    exact hword
  exact mem_words_of_firstRun hspaced

@[simp] theorem words_empty : words "" = [] := rfl

theorem infix_of_mem_words {text word : String} (hword : word ∈ words text) :
    word.toList <:+: text.toList := by
  obtain ⟨letters, hletters, rfl⟩ := List.mem_map.1 hword
  rw [String.toList_ofList]
  exact infix_of_mem_wordsOf hletters

theorem words_intercalate_space (parts : List String) :
    words (" ".intercalate parts) = parts.flatMap words := by
  have hspace : " ".toList = [' '] := rfl
  unfold words
  rw [String.toList_intercalate, hspace, wordsOf_intercalate_space, List.flatMap_map,
    List.map_flatMap]

/-! ## The ends of a text -/

/-- The word that a run of letters is, unless it is empty. -/
def wordOfRun (run : List Char) : List (List Char) :=
  if run = [] then [] else [run]

theorem wordsOf_eq_append (text : List Char) :
    wordsOf text = wordOfRun (firstRunAndWords text).1 ++ (firstRunAndWords text).2 := by
  unfold wordsOf wordOfRun
  by_cases hrun : (firstRunAndWords text).1 = []
  · simp [hrun]
  · simp [hrun]

theorem intercalate_wordOfRun (run : List Char) : [' '].intercalate (wordOfRun run) = run := by
  unfold wordOfRun
  by_cases hrun : run = [] <;> simp [hrun]

theorem wordOfRun_eq_cons {run word : List Char} {words : List (List Char)}
    (hrun : wordOfRun run = word :: words) : run = word ∧ words = [] := by
  unfold wordOfRun at hrun
  split at hrun
  · cases hrun
  · cases hrun
    exact ⟨rfl, rfl⟩

theorem notMem_of_forall_wordOfRun {c : Char} {run : List Char}
    (hword : ∀ word ∈ wordOfRun run, c ∉ word) : c ∉ run := by
  intro hmem
  have hne : run ≠ [] := List.ne_nil_of_mem hmem
  exact hword run (by simp [wordOfRun, hne]) hmem

/-- Letters in front of a text lengthen its first run. -/
theorem wordsOf_letters_append {front : List Char} (hne : front ≠ [])
    (hfront : ∀ c ∈ front, isBlank c = false) (text : List Char) :
    wordsOf (front ++ text) =
      (front ++ (firstRunAndWords text).1) :: (firstRunAndWords text).2 := by
  have hrun : firstRunAndWords (front ++ text) =
      (front ++ (firstRunAndWords text).1, (firstRunAndWords text).2) := by
    clear hne
    induction front with
    | nil => rfl
    | cons c front ih =>
        obtain ⟨hc, hfront⟩ := List.forall_mem_cons.1 hfront
        rw [List.cons_append, firstRunAndWords_letter _ hc, ih hfront]
        rfl
  rw [wordsOf_eq_append, hrun, wordOfRun, if_neg (List.append_ne_nil_of_left_ne_nil hne _)]
  rfl

/-- A letter behind a text lengthens its last run. -/
theorem exists_wordsOf_concat {c : Char} (hc : isBlank c = false) (text : List Char) :
    ∃ words last, wordsOf (text ++ [c]) = words ++ [last ++ [c]] ∧
      wordsOf text = words ++ wordOfRun last := by
  induction text using wordsOf_induction with
  | letters text hletters =>
      have hgrown : ∀ d ∈ text ++ [c], isBlank d = false := by
        simpa [or_imp, forall_and, hc] using hletters
      refine ⟨[], text, ?_, ?_⟩
      · simpa using wordsOf_of_letters (by simp) hgrown
      · rw [wordsOf_eq_append, firstRunAndWords_of_letters hletters]
        simp
  | blank left d right hd _ hright =>
      obtain ⟨words, last, hgrown, hwords⟩ := hright
      refine ⟨wordsOf left ++ words, last, ?_, ?_⟩
      · rw [List.append_assoc, List.cons_append, wordsOf_append_blank hd, hgrown,
          List.append_assoc]
      · rw [wordsOf_append_blank hd, hwords, List.append_assoc]

theorem exists_mem_wordsOf {c : Char} (hc : isBlank c = false) {text : List Char}
    (hmem : c ∈ text) : ∃ word ∈ wordsOf text, c ∈ word := by
  induction text using wordsOf_induction with
  | letters text hletters =>
      rw [wordsOf_of_letters (List.ne_nil_of_mem hmem) hletters]
      exact ⟨text, List.mem_singleton_self text, hmem⟩
  | blank left d right hd hleft hright =>
      rw [wordsOf_append_blank hd]
      rcases List.mem_append.1 hmem with hbefore | hafter
      · obtain ⟨word, hword, hinside⟩ := hleft hbefore
        exact ⟨word, List.mem_append_left _ hword, hinside⟩
      · rcases List.mem_cons.1 hafter with rfl | hafter
        · rw [hd] at hc
          cases hc
        · obtain ⟨word, hword, hinside⟩ := hright hafter
          exact ⟨word, List.mem_append_right _ hword, hinside⟩

/-! ## Words with blanks between them -/

/-- Words one after another, with blanks between any two of them and at the ends. -/
inductive Spaced : List (List Char) → List Char → Prop
  | blanks (gap : List Char) (hgap : ∀ c ∈ gap, isBlank c = true) : Spaced [] gap
  | last (gap word : List Char) (hgap : ∀ c ∈ gap, isBlank c = true) :
      Spaced [word] (gap ++ word)
  | more (gap word : List Char) (c : Char) {words : List (List Char)} {text : List Char}
      (hgap : ∀ c ∈ gap, isBlank c = true) (hc : isBlank c = true) (later : Spaced words text) :
      Spaced (word :: words) (gap ++ word ++ c :: text)

theorem wordsOf_blanks_append {gap : List Char} (hgap : ∀ c ∈ gap, isBlank c = true)
    (text : List Char) : wordsOf (gap ++ text) = wordsOf text := by
  induction gap with
  | nil => rfl
  | cons c gap ih =>
      obtain ⟨hc, hgap⟩ := List.forall_mem_cons.1 hgap
      rw [List.cons_append, ← ih hgap]
      exact wordsOf_append_blank hc [] (gap ++ text)

theorem Spaced.wordsOf_eq {words : List (List Char)} {text : List Char}
    (h : Spaced words text)
    (hwords : ∀ word ∈ words, word ≠ [] ∧ ∀ c ∈ word, isBlank c = false) :
    wordsOf text = words := by
  induction h with
  | blanks gap hgap =>
      rw [← List.append_nil gap]
      exact wordsOf_blanks_append hgap []
  | last gap word hgap =>
      obtain ⟨hne, hletters⟩ := hwords word List.mem_cons_self
      rw [wordsOf_blanks_append hgap, wordsOf_of_letters hne hletters]
  | more gap word c hgap hc later ih =>
      obtain ⟨⟨hne, hletters⟩, hlater⟩ := List.forall_mem_cons.1 hwords
      rw [wordsOf_append_blank hc, wordsOf_blanks_append hgap, wordsOf_of_letters hne hletters,
        ih hlater]
      rfl

/-! ## Trimming -/

theorem dropWhile_isBlank_of_letters {text : List Char}
    (hletters : ∀ c ∈ text, isBlank c = false) : text.dropWhile isBlank = text := by
  cases text with
  | nil => rfl
  | cons c text => simp [hletters c List.mem_cons_self]

theorem trim_of_letters {text : String} (hletters : ∀ c ∈ text.toList, isBlank c = false) :
    trim text = text := by
  rw [trim, trimOf, dropWhile_isBlank_of_letters hletters, dropWhile_isBlank_of_letters,
    List.reverse_reverse, String.ofList_toList]
  exact fun c hc => hletters c (List.mem_reverse.1 hc)

end Gallery.Text

namespace Gallery

open Text

theorem isWord_iff {name : String} :
    isWord name = true ↔ name ≠ "" ∧ ∀ c ∈ name.toList, isBlank c = false := by
  simp [isWord]

theorem words_of_isWord {name : String} (hname : isWord name = true) :
    words name = [name] := by
  obtain ⟨hne, hletters⟩ := isWord_iff.1 hname
  have hlist : name.toList ≠ [] := by simpa using hne
  simp [words, wordsOf_of_letters hlist hletters]

/-- Names joined by single spaces are read back as they were. -/
theorem words_intercalate_names
    {names : List String} (hnames : ∀ name ∈ names, isWord name = true) :
    words (" ".intercalate names) = names := by
  rw [words_intercalate_space]
  induction names with
  | nil => rfl
  | cons name names ih =>
      rw [List.flatMap_cons, words_of_isWord (hnames name List.mem_cons_self),
        ih fun other hother => hnames other (List.mem_cons_of_mem name hother)]
      rfl

theorem intercalate_names_ne_nil {names : List String}
    (hnames : ∀ name ∈ names, isWord name = true) (hne : names ≠ []) :
    (" ".intercalate names).toList ≠ [] := by
  intro hempty
  have hread := words_intercalate_names hnames
  rw [words, hempty, wordsOf_nil] at hread
  exact hne hread.symm

theorem Text.Spaced.wordsOf_eq_names {names : List String} {text : List Char}
    (h : Spaced (names.map String.toList) text) (hnames : ∀ name ∈ names, isWord name = true) :
    wordsOf text = names.map String.toList := by
  apply h.wordsOf_eq
  intro word hword
  obtain ⟨name, hname, rfl⟩ := List.mem_map.1 hword
  obtain ⟨hne, hletters⟩ := isWord_iff.1 (hnames name hname)
  exact ⟨by simpa using hne, hletters⟩

end Gallery
