import Gallery.Proofs.Text.Lowering
import Gallery.Text.Pattern
import Mathlib.Data.List.TakeWhile

/-!
# Patterns that stand for endings

`FollowsRules` says what a matcher of written patterns does sign by sign.  Of any such
matcher a text written literally is matched by itself alone, up to the case of basic
Latin letters, so a percent sign and a text written literally match what ends with this
text.

The store's matcher follows the rules on what it reads.  It reads up to U+0000, and it
reads the last two code points of the basic plane as the replacement character, so these
three characters are not told apart; an ending without any of them is told from all others.
-/

namespace Gallery.Text

/-- The characters that patterns do not tell apart. -/
def IsConfusable (c : Char) : Prop :=
  0xFFFD ≤ c.toNat ∧ c.toNat ≤ 0xFFFF

instance (c : Char) : Decidable (IsConfusable c) :=
  inferInstanceAs (Decidable (_ ∧ _))

theorem readable_eq_self {c : Char} (hc : ¬IsConfusable c) : readable c = c := by
  unfold readable
  rw [if_neg]
  unfold IsConfusable at hc
  omega

theorem readable_cases (c : Char) : readable c = c ∨ readable c = '\ufffd' := by
  unfold readable
  split
  · exact Or.inr rfl
  · exact Or.inl rfl

theorem eq_of_readable {c d : Char} (hd : ¬IsConfusable d) (hcd : readable c = d) : c = d := by
  rcases readable_cases c with hself | hreplaced
  · rw [← hcd, hself]
  · rw [hreplaced] at hcd
    subst hcd
    exact absurd (by decide) hd

theorem toLower_toLower (c : Char) : c.toLower.toLower = c.toLower := by
  by_cases hsmall : c.toNat < 128
  · exact (settled_toLower hsmall).2.2
  · have hself : c.toLower = c := toLower_eq_self (by omega)
    rw [hself, hself]

/-- Only basic Latin letters change their case, and none of them is read as another
character. -/
theorem toLower_cases (c : Char) : c.toLower = c ∨ ¬IsConfusable c ∧ ¬IsConfusable c.toLower := by
  by_cases hsmall : c.toNat < 128
  · refine Or.inr ⟨fun hc => ?_, of_ascii (p := fun c => ¬IsConfusable c.toLower) (by decide) hsmall⟩
    unfold IsConfusable at hc
    omega
  · exact Or.inl (toLower_eq_self (by omega))

theorem toLower_readable (c : Char) : (readable c).toLower = readable c.toLower := by
  rcases toLower_cases c with hself | ⟨hc, hlower⟩
  · rw [hself]
    rcases readable_cases c with hkept | hreplaced
    · rw [hkept, hself]
    · rw [hreplaced]
      decide
  · rw [readable_eq_self hc, readable_eq_self hlower]

theorem not_isConfusable_toLower {c : Char} (hc : ¬IsConfusable c) : ¬IsConfusable c.toLower := by
  rcases toLower_cases c with hself | ⟨-, hlower⟩
  · rwa [hself]
  · exact hlower

/-! ## What patterns mean -/

/-- The rules that a matcher of written patterns follows.  A backslash at the end of a
pattern, or before a character that stands for itself anyway, is left open. -/
structure FollowsRules (like : List Char → List Char → Prop) : Prop where
  empty (text : List Char) : like [] text ↔ text = []
  run (pattern text : List Char) :
    like ('%' :: pattern) text ↔ ∃ front back, text = front ++ back ∧ like pattern back
  one (pattern text : List Char) :
    like ('_' :: pattern) text ↔ ∃ c rest, text = c :: rest ∧ like pattern rest
  escaped {c : Char} (hc : c = '\\' ∨ c = '%' ∨ c = '_') (pattern text : List Char) :
    like ('\\' :: c :: pattern) text ↔ ∃ rest, text = c :: rest ∧ like pattern rest
  letter {c : Char} (hc : ¬(c = '\\' ∨ c = '%' ∨ c = '_')) (pattern text : List Char) :
    like (c :: pattern) text ↔
      ∃ d rest, text = d :: rest ∧ d.toLower = c.toLower ∧ like pattern rest

/-- A text ends in another one up to the case of basic Latin letters. -/
def EndsUpToCase (ending text : List Char) : Prop :=
  ∃ front back, text = front ++ back ∧ asciiLowerOf back = asciiLowerOf ending

theorem endsUpToCase_iff {ending text : List Char} :
    EndsUpToCase ending text ↔ asciiLowerOf ending <:+ asciiLowerOf text := by
  constructor
  · rintro ⟨front, back, rfl, hback⟩
    rw [asciiLowerOf_append, hback]
    exact List.suffix_append _ _
  · rintro ⟨left, hleft⟩
    obtain ⟨front, back, htext, -, hback⟩ := List.map_eq_append_iff.1 hleft.symm
    exact ⟨front, back, htext, hback⟩

instance (ending text : List Char) : Decidable (EndsUpToCase ending text) :=
  decidable_of_iff _ endsUpToCase_iff.symm

/-- The characters with a meaning of their own are no letters. -/
theorem toLower_special {c d : Char} (hc : c = '\\' ∨ c = '%' ∨ c = '_') :
    d.toLower = c.toLower ↔ d = c := by
  have hsign : c.toLower = c := by
    rcases hc with rfl | rfl | rfl <;> decide
  refine ⟨fun hlower => ?_, fun heq => by rw [heq]⟩
  rw [hsign] at hlower
  by_cases hsmall : d.toNat < 128
  · have hkept : d.toLower = '\\' ∨ d.toLower = '%' ∨ d.toLower = '_' → d.toLower = d :=
      of_ascii (p := fun d => d.toLower = '\\' ∨ d.toLower = '%' ∨ d.toLower = '_' →
        d.toLower = d) (by decide) hsmall
    rw [← hkept (by rwa [hlower]), hlower]
  · rw [← hlower, toLower_eq_self (by omega)]

namespace FollowsRules

variable {like : List Char → List Char → Prop}

/-- A text written literally has no wildcards. -/
theorem literally_iff (h : FollowsRules like) {piece text : List Char} :
    like (literally piece) text ↔ asciiLowerOf text = asciiLowerOf piece := by
  induction piece generalizing text with
  | nil =>
      rw [literally, h.empty]
      simp [asciiLowerOf]
  | cons c piece ih =>
      have hcons : asciiLowerOf text = asciiLowerOf (c :: piece) ↔
          ∃ d rest, text = d :: rest ∧ d.toLower = c.toLower ∧
            asciiLowerOf rest = asciiLowerOf piece := by
        simp only [asciiLowerOf, List.map_cons, List.map_eq_cons_iff]
      rw [hcons]
      by_cases hc : c = '\\' ∨ c = '%' ∨ c = '_'
      · rw [literally, if_pos hc, h.escaped hc]
        simp [toLower_special hc, ih]
      · rw [literally, if_neg hc, h.letter hc]
        simp only [ih]

theorem ending_iff (h : FollowsRules like) {ending text : List Char} :
    like ('%' :: literally ending) text ↔ EndsUpToCase ending text := by
  rw [h.run, EndsUpToCase]
  simp only [h.literally_iff]

end FollowsRules

/-! ## The matcher -/

theorem mem_suffixes {piece text : List Char} : piece ∈ suffixes text ↔ piece <:+ text := by
  induction text with
  | nil => simp [suffixes]
  | cons c text ih => rw [suffixes, List.mem_cons, ih, List.suffix_cons_iff]

theorem matchesParts_run {parts : List Wildcard} {text : List Char} :
    matchesParts (.run :: parts) text = true ↔
      ∃ front back, text = front ++ back ∧ matchesParts parts back = true := by
  rw [matchesParts, List.any_eq_true]
  constructor
  · rintro ⟨back, hback, hmatch⟩
    obtain ⟨front, htext⟩ := mem_suffixes.1 hback
    exact ⟨front, back, htext.symm, hmatch⟩
  · rintro ⟨front, back, htext, hmatch⟩
    exact ⟨back, mem_suffixes.2 ⟨front, htext.symm⟩, hmatch⟩

theorem matchesParts_one {parts : List Wildcard} {text : List Char} :
    matchesParts (.one :: parts) text = true ↔
      ∃ c rest, text = c :: rest ∧ matchesParts parts rest = true := by
  cases text with
  | nil => simp [matchesParts]
  | cons c rest => simp [matchesParts]

theorem matchesParts_char {c : Char} {parts : List Wildcard} {text : List Char} :
    matchesParts (.char c :: parts) text = true ↔
      ∃ d rest, text = d :: rest ∧ d.toLower = c.toLower ∧ matchesParts parts rest = true := by
  cases text with
  | nil => simp [matchesParts]
  | cons d rest =>
      rw [matchesParts, Bool.and_eq_true, beq_iff_eq, @eq_comm _ c.toLower]
      simp

/-- Whether a text matches a written pattern if no character is read as another one. -/
def isLikeExactly (pattern text : List Char) : Bool :=
  match wildcards? pattern with
  | some parts => matchesParts parts text
  | none => false

theorem isLikeExactly_iff {pattern text : List Char} :
    isLikeExactly pattern text = true ↔
      ∃ parts, wildcards? pattern = some parts ∧ matchesParts parts text = true := by
  unfold isLikeExactly
  cases wildcards? pattern with
  | none => simp
  | some parts => simp

/-- A pattern that begins with one more part. -/
theorem isLikeExactly_of_part {written pattern text : List Char} {part : Wildcard}
    (hwritten : wildcards? written = (wildcards? pattern).map (part :: ·)) :
    isLikeExactly written text = true ↔
      ∃ parts, wildcards? pattern = some parts ∧ matchesParts (part :: parts) text = true := by
  rw [isLikeExactly_iff, hwritten]
  simp

theorem wildcards?_cons {c : Char} (hc : c ≠ '\\') (pattern : List Char) :
    wildcards? (c :: pattern) = (wildcards? pattern).map
      ((if c = '%' then .run else if c = '_' then .one else .char c) :: ·) := by
  rw [wildcards?]
  · exact fun heq _ => hc heq
  · exact fun d rest heq _ => hc heq

theorem followsRules_isLikeExactly :
    FollowsRules (fun pattern text => isLikeExactly pattern text = true) where
  empty text := by
    simp [isLikeExactly, wildcards?, matchesParts]
  run pattern text := by
    have hpart : wildcards? ('%' :: pattern) = (wildcards? pattern).map (.run :: ·) :=
      wildcards?_cons (by decide) pattern
    rw [isLikeExactly_of_part hpart]
    simp only [matchesParts_run, isLikeExactly_iff]
    grind
  one pattern text := by
    have hpart : wildcards? ('_' :: pattern) = (wildcards? pattern).map (.one :: ·) :=
      wildcards?_cons (by decide) pattern
    rw [isLikeExactly_of_part hpart]
    simp only [matchesParts_one, isLikeExactly_iff]
    grind
  escaped := by
    intro c hc pattern text
    have hpart : wildcards? ('\\' :: c :: pattern) = (wildcards? pattern).map (.char c :: ·) :=
      rfl
    rw [isLikeExactly_of_part hpart]
    simp only [matchesParts_char, isLikeExactly_iff, toLower_special hc]
    grind
  letter := by
    intro c hc pattern text
    simp only [not_or] at hc
    obtain ⟨hslash, hpercent, hunderscore⟩ := hc
    have hpart : wildcards? (c :: pattern) = (wildcards? pattern).map (.char c :: ·) := by
      rw [wildcards?_cons hslash, if_neg hpercent, if_neg hunderscore]
    rw [isLikeExactly_of_part hpart]
    simp only [matchesParts_char, isLikeExactly_iff]
    grind

/-! ## What the store reads -/

theorem isLike_eq (pattern text : List Char) :
    isLike pattern text =
      isLikeExactly ((untilNul pattern).map readable) ((untilNul text).map readable) :=
  rfl

theorem untilNul_eq_self {text : List Char} (htext : '\x00' ∉ text) : untilNul text = text := by
  unfold untilNul
  rw [List.takeWhile_eq_self_iff]
  intro c hc
  rw [bne_iff_ne]
  rintro rfl
  exact htext hc

theorem untilNul_cons (c : Char) (text : List Char) :
    untilNul (c :: text) = if c = '\x00' then [] else c :: untilNul text := by
  by_cases hc : c = '\x00' <;> simp [untilNul, hc]

theorem untilNul_literally (text : List Char) :
    untilNul (literally text) = literally (untilNul text) := by
  induction text with
  | nil => rfl
  | cons c text ih =>
      by_cases hc : c = '\\' ∨ c = '%' ∨ c = '_'
      · have hslash : '\\' ≠ '\x00' := by decide
        have hkept : c ≠ '\x00' := by
          rcases hc with rfl | rfl | rfl <;> decide
        rw [literally, if_pos hc, untilNul_cons, if_neg hslash, untilNul_cons, if_neg hkept, ih,
          untilNul_cons, if_neg hkept, literally, if_pos hc]
      · rw [literally, if_neg hc, untilNul_cons, untilNul_cons, ih]
        split
        · rfl
        · rw [literally, if_neg hc]

theorem readable_special {c : Char} (hc : c = '\\' ∨ c = '%' ∨ c = '_') : readable c = c := by
  rcases hc with rfl | rfl | rfl <;> decide

theorem map_readable_literally (text : List Char) :
    (literally text).map readable = literally (text.map readable) := by
  induction text with
  | nil => rfl
  | cons c text ih =>
      by_cases hc : c = '\\' ∨ c = '%' ∨ c = '_'
      · have hslash : readable '\\' = '\\' := by decide
        have hself : readable c = c := readable_special hc
        rw [literally, if_pos hc, List.map_cons, List.map_cons, List.map_cons, hslash, hself,
          literally, if_pos hc, ih]
      · have hkept : ¬(readable c = '\\' ∨ readable c = '%' ∨ readable c = '_') := by
          rcases readable_cases c with hself | hreplaced
          · rwa [hself]
          · rw [hreplaced]
            decide
        rw [literally, if_neg hc, List.map_cons, List.map_cons, literally, if_neg hkept, ih]

/-- The store's matcher looks for the ending that it reads. -/
theorem isLike_ending {ending text : List Char} :
    isLike ('%' :: literally ending) text = true ↔
      EndsUpToCase ((untilNul ending).map readable) ((untilNul text).map readable) := by
  have hpattern : (untilNul ('%' :: literally ending)).map readable =
      '%' :: literally ((untilNul ending).map readable) := by
    have hpercent : untilNul ('%' :: literally ending) = '%' :: untilNul (literally ending) := rfl
    rw [hpercent, untilNul_literally, List.map_cons, map_readable_literally]
    rfl
  rw [isLike_eq, hpattern]
  exact followsRules_isLikeExactly.ending_iff

theorem asciiLowerOf_map_readable (text : List Char) :
    asciiLowerOf (text.map readable) = (asciiLowerOf text).map readable := by
  unfold asciiLowerOf
  rw [List.map_map, List.map_map]
  exact List.map_congr_left fun c _ => toLower_readable c

/-- Without confusable characters reading a text does not matter. -/
theorem map_readable_suffix_iff
    {piece text : List Char} (hpiece : ∀ c ∈ piece, ¬IsConfusable c) :
    piece.map readable <:+ text.map readable ↔ piece <:+ text := by
  have hself : piece.map readable = piece := by
    conv_rhs => rw [← List.map_id piece]
    apply List.map_congr_left
    exact fun c hc => readable_eq_self (hpiece c hc)
  constructor
  · rintro ⟨left, hleft⟩
    obtain ⟨start, ending, rfl, -, hending⟩ := List.map_eq_append_iff.1 hleft.symm
    rw [hself] at hending
    have hsame : ending = piece := by
      rw [← hending]
      conv_lhs => rw [← List.map_id ending]
      apply List.map_congr_left
      intro c hc
      have hread : readable c ∈ piece := hending ▸ List.mem_map_of_mem hc
      exact eq_of_readable (hpiece _ hread) rfl
    rw [hsame]
    exact List.suffix_append start piece
  · exact fun hsuffix => hsuffix.map readable

theorem endsUpToCase_map_readable_iff
    {ending text : List Char} (hending : ∀ c ∈ ending, ¬IsConfusable c) :
    EndsUpToCase (ending.map readable) (text.map readable) ↔ EndsUpToCase ending text := by
  rw [endsUpToCase_iff, endsUpToCase_iff, asciiLowerOf_map_readable, asciiLowerOf_map_readable]
  apply map_readable_suffix_iff
  intro c hc
  obtain ⟨d, hd, rfl⟩ := List.mem_map.1 hc
  exact not_isConfusable_toLower (hending d hd)

/-! ## Endings of lower-cased texts -/

theorem asciiLowerOf_asciiLowerOf (text : List Char) :
    asciiLowerOf (asciiLowerOf text) = asciiLowerOf text := by
  unfold asciiLowerOf
  rw [List.map_map]
  exact List.map_congr_left fun c _ => toLower_toLower c

theorem endsUpToCase_of_settled
    {ending text : List Char} (hsettled : ∀ c ∈ ending, Settled c) :
    EndsUpToCase ending (asciiLowerOf text) ↔ ending <:+ asciiLowerOf text := by
  rw [endsUpToCase_iff, asciiLowerOf_eq_self hsettled, asciiLowerOf_asciiLowerOf]

theorem isLikeExactly_settled_ending
    {ending text : List Char} (hsettled : ∀ c ∈ ending, Settled c) :
    isLikeExactly ('%' :: literally ending) (asciiLowerOf text) = true ↔
      ending <:+ asciiLowerOf text :=
  followsRules_isLikeExactly.ending_iff.trans (endsUpToCase_of_settled hsettled)

theorem isLike_settled_ending
    {ending text : List Char} (hsettled : ∀ c ∈ ending, Settled c)
    (hending : '\x00' ∉ ending) (htext : '\x00' ∉ asciiLowerOf text) :
    isLike ('%' :: literally ending) (asciiLowerOf text) = true ↔
      ending.map readable <:+ (asciiLowerOf text).map readable := by
  rw [isLike_ending, untilNul_eq_self hending, untilNul_eq_self htext, endsUpToCase_iff,
    asciiLowerOf_map_readable, asciiLowerOf_map_readable, asciiLowerOf_eq_self hsettled,
    asciiLowerOf_asciiLowerOf]

end Gallery.Text
