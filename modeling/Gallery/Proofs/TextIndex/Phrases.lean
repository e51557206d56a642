import Gallery.TextIndex.Match
import Mathlib.Data.List.Infix

/-!
# What a phrase asks of a text

The index compares tokens, so a phrase is found where its tokens stand next to one
another among the tokens of one text.  The last token of an open phrase may go on.

A text of names with blanks between them has the tokens of its names, since no token goes
on over a blank.  A phrase may begin within one name and end within the next.
-/

namespace Gallery.TextIndex

open Text

/-! ## Phrases -/

/-- Some text has the tokens of a phrase next to one another. -/
def HasPhrase (texts : List String) (phrase : String) : Prop :=
  tokens phrase ≠ [] ∧ ∃ text ∈ texts, tokens phrase <:+: tokens text

/-- The same where the last token of the phrase may go on. -/
def HasOpenPhrase (texts : List String) (phrase : String) : Prop :=
  ∃ words last token, tokens phrase = words ++ [last] ∧ last <+: token ∧
    ∃ text ∈ texts, words ++ [token] <:+: tokens text

/-- Whether a token may stand for the last one of a phrase. -/
def StandsFor (opens : Bool) (last token : IndexToken) : Prop :=
  if opens then last <+: token else token = last

def Occurs (opens : Bool) (texts : List String) (phrase : String) : Prop :=
  ∃ words last token, tokens phrase = words ++ [last] ∧ StandsFor opens last token ∧
    ∃ text ∈ texts, words ++ [token] <:+: tokens text

theorem occurs_false_iff {texts : List String} {phrase : String} :
    Occurs false texts phrase ↔ HasPhrase texts phrase := by
  simp only [Occurs, HasPhrase, StandsFor, Bool.false_eq_true, if_false]
  constructor
  · rintro ⟨words, last, token, hsplit, rfl, text, htext, hwords⟩
    rw [hsplit]
    exact ⟨by simp, text, htext, hwords⟩
  · rintro ⟨hphrase, text, htext, hwords⟩
    have hsplit := (List.dropLast_append_getLast hphrase).symm
    refine ⟨_, _, _, hsplit, rfl, text, htext, ?_⟩
    rwa [← hsplit]

theorem occurs_true_iff {texts : List String} {phrase : String} :
    Occurs true texts phrase ↔ HasOpenPhrase texts phrase := by
  simp only [Occurs, HasOpenPhrase, StandsFor, if_true]

theorem HasPhrase.hasOpenPhrase {texts : List String} {phrase : String}
    (h : HasPhrase texts phrase) : HasOpenPhrase texts phrase := by
  obtain ⟨words, last, token, hsplit, hlast, hstands⟩ := occurs_false_iff.2 h
  have hsame : token = last := hlast
  exact ⟨words, last, token, hsplit, hsame ▸ List.prefix_rfl, hstands⟩

theorem standsFor_iff {opens : Bool} {last token : IndexToken} :
    (if opens then last.isPrefixOf token else last == token) = true ↔
      StandsFor opens last token := by
  cases opens with
  | true => simp [StandsFor]
  | false =>
      simp only [StandsFor, Bool.false_eq_true, if_false, beq_iff_eq]
      exact eq_comm

theorem startsAt_cons
    (opens : Bool) (first : IndexToken) {rest : List IndexToken} (hrest : rest ≠ [])
    (slot : Slot) (column : List Slot) :
    startsAt opens (first :: rest) (slot :: column) =
      (slot.contains first && startsAt opens rest column) := by
  cases rest with
  | nil => exact absurd rfl hrest
  | cons next rest => rfl

theorem startsAt_append_singleton
    (opens : Bool) (words : List IndexToken) (last : IndexToken) (column : List IndexToken) :
    startsAt opens (words ++ [last]) (column.map ([·])) = true ↔
      ∃ token, StandsFor opens last token ∧ words ++ [token] <+: column := by
  induction words generalizing column with
  | nil =>
      cases column with
      | nil => simp [startsAt]
      | cons head column =>
          simp only [List.nil_append, List.map_cons, startsAt, List.any_cons, List.any_nil,
            Bool.or_false, standsFor_iff, List.cons_prefix_cons, List.nil_prefix, and_true,
            exists_eq_right]
  | cons first words ih =>
      cases column with
      | nil => simp [startsAt]
      | cons head column =>
          rw [List.cons_append, List.map_cons, startsAt_cons opens first (by simp),
            Bool.and_eq_true, ih, List.contains_iff_mem, List.mem_singleton]
          simp only [List.cons_append, List.cons_prefix_cons]
          constructor
          · rintro ⟨hfirst, token, hstands, hwords⟩
            exact ⟨token, hstands, hfirst, hwords⟩
          · rintro ⟨token, hstands, hfirst, hwords⟩
            exact ⟨hfirst, token, hstands, hwords⟩

/-- A phrase occurs in a column where it starts at one of its positions. -/
theorem occurrences_pos_iff
    {opens : Bool} {phrase : List IndexToken} (hphrase : phrase ≠ []) (column : List IndexToken) :
    0 < occurrences opens phrase (column.map ([·])) ↔
      ∃ rest, rest <:+ column ∧ startsAt opens phrase (rest.map ([·])) = true := by
  induction column with
  | nil =>
      have hnowhere : startsAt opens phrase [] = false := by
        cases phrase with
        | nil => exact absurd rfl hphrase
        | cons first rest => cases rest <;> rfl
      simp [occurrences, hnowhere]
  | cons head column ih =>
      simp only [List.map_cons, occurrences, List.suffix_cons_iff, or_and_right, exists_or,
        exists_eq_left, ← ih]
      by_cases hhere : startsAt opens phrase ([head] :: column.map ([·])) = true
      · simp only [hhere, if_true, true_or, iff_true]
        omega
      · simp [hhere]

theorem totalOf_pos_iff {α : Type} {count : α → ℕ} {list : List α} :
    0 < totalOf count list ↔ ∃ a ∈ list, 0 < count a := by
  induction list with
  | nil => simp
  | cons a list ih =>
      simp only [totalOf_cons, List.mem_cons, exists_eq_or_imp, ← ih]
      omega

/-! ## Blanks -/

/-- A text may end within a token, which the blank then ends. -/
theorem tokensFrom_append_space (current : Option IndexToken) (text rest : List Char) :
    tokensFrom current (text ++ ' ' :: rest) = tokensFrom current text ++ tokensOf rest := by
  have hspace : isTokenChar ' ' = false ∧ isMark ' ' = false := by decide
  induction text generalizing current with
  | nil => cases current <;> simp [tokensFrom, tokensOf, hspace]
  | cons c text ih =>
      cases current with
      | none =>
          simp only [List.cons_append, tokensFrom]
          split <;> exact ih _
      | some token =>
          simp only [List.cons_append, tokensFrom]
          split
          · exact ih _
          · rw [ih, List.cons_append]

theorem tokensOf_intercalate_space (parts : List (List Char)) :
    tokensOf ([' '].intercalate parts) = parts.flatMap tokensOf := by
  induction parts with
  | nil => rfl
  | cons part parts ih =>
      cases parts with
      | nil => simp
      | cons next parts =>
          rw [List.intercalate_cons_cons, List.append_assoc, List.singleton_append, tokensOf,
            tokensFrom_append_space, ih]
          rfl

theorem tokens_intercalate_space (names : List String) :
    tokens (" ".intercalate names) = names.flatMap tokens := by
  have hspace : " ".toList = [' '] := rfl
  unfold tokens
  rw [String.toList_intercalate, hspace, tokensOf_intercalate_space, List.flatMap_map,
    List.map_flatMap]

theorem tokens_infix_intercalate_space {names : List String} {name : String} (hname : name ∈ names) :
    tokens name <:+: tokens (" ".intercalate names) := by
  obtain ⟨before, after, rfl⟩ := List.append_of_mem hname
  rw [tokens_intercalate_space, List.flatMap_append, List.flatMap_cons]
  exact List.infix_append' _ _ _

/-! ## Documents -/

theorem occursIn_iff_occurs
    (opens : Bool) (texts : List String) (phrase : String) {document : Document}
    (hlayout : document.layout = layoutOf texts) :
    Sought.occursIn ⟨tokens phrase, opens⟩ document = true ↔ Occurs opens texts phrase := by
  unfold Sought.occursIn Sought.frequency Occurs
  rw [decide_eq_true_eq, hlayout, layoutOf]
  by_cases hphrase : tokens phrase = []
  · simp [hphrase]
  · obtain ⟨words, last, hsplit⟩ : ∃ words last, tokens phrase = words ++ [last] :=
      ⟨_, _, (List.dropLast_append_getLast hphrase).symm⟩
    have hplaces : ∀ text,
        0 < occurrences opens (tokens phrase) ((tokens text).map ([·])) ↔
          ∃ token, StandsFor opens last token ∧ words ++ [token] <:+: tokens text := by
      intro text
      rw [occurrences_pos_iff hphrase, hsplit]
      simp only [startsAt_append_singleton, List.infix_iff_prefix_suffix]
      constructor
      · rintro ⟨rest, hrest, token, hstands, hwords⟩
        exact ⟨token, hstands, rest, hwords, hrest⟩
      · rintro ⟨token, hstands, rest, hwords, hrest⟩
        exact ⟨rest, hrest, token, hstands, hwords⟩
    rw [if_neg hphrase, totalOf_pos_iff]
    simp only [List.mem_map, exists_exists_and_eq_and, hplaces]
    constructor
    · rintro ⟨text, htext, token, hstands, hwords⟩
      exact ⟨words, last, token, hsplit, hstands, text, htext, hwords⟩
    · rintro ⟨others, other, token, hother, hstands, text, htext, hwords⟩
      obtain ⟨rfl, hlast⟩ := List.append_inj' (hsplit.symm.trans hother) rfl
      cases hlast
      exact ⟨text, htext, token, hstands, hwords⟩

instance (texts : List String) (phrase : String) : Decidable (HasPhrase texts phrase) :=
  inferInstanceAs (Decidable (_ ∧ _))

/-- An open phrase is looked for as the index does it. -/
instance (texts : List String) (phrase : String) : Decidable (HasOpenPhrase texts phrase) :=
  decidable_of_iff _
    ((occursIn_iff_occurs true texts phrase (rfl : Document.layout ⟨0, layoutOf texts, 0⟩ = _)).trans
      occurs_true_iff)

end Gallery.TextIndex
