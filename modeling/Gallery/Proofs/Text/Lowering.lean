import Gallery.Proofs.Text.Words
import Gallery.Text.Piece

/-!
# What lower-casing leaves behind

Every character of a lower-cased text is settled: lower-casing it again, in the full
or in the basic Latin way, changes nothing.  The table of runs is searched for this
once; everything else follows from the character by character shape of `lowerOf`.

A sigma looks at its neighbours, but never across a blank or a quote.  So the words of
a lower-cased text are the lower-cased words, and a settled piece that occurs in the
basic Latin lower case of a text occurs in its full lower case as well.
-/

namespace Gallery.Text

/-! ## The table -/

/-- The first code point that a run leads to. -/
def CaseRun.imageStart (run : CaseRun) : ℕ :=
  (run.first + run.shift).toNat

def CaseRun.imageEnd (run : CaseRun) : ℕ :=
  run.imageStart + (run.last - run.first)

/-- Whether a run leads to no code point of another one: it ends before that one or
starts after it, or the two interleave. -/
def CaseRun.avoids (run other : CaseRun) : Bool :=
  Nat.blt run.imageEnd other.first || Nat.blt other.last run.imageStart ||
    ((Nat.beq run.stride 2 || Nat.beq run.first run.last) && Nat.beq other.stride 2 &&
      Nat.beq ((run.imageStart + other.first) % 2) 1)

/-- Whether a run leads to characters that are in lower case and not blank. -/
def CaseRun.settles (run : CaseRun) : Bool :=
  decide (0 ≤ run.first + run.shift) &&
    (Nat.blt run.imageEnd 0xD800 ||
      Nat.blt 0xDFFF run.imageStart && Nat.blt run.imageEnd 0x110000) &&
    (Nat.ble 97 run.imageStart && Nat.ble run.imageEnd 122 || Nat.ble 128 run.imageStart) &&
    (Nat.blt run.imageEnd 0x130 || Nat.blt 0x130 run.imageStart) &&
    (blankRanges.all fun range =>
      Nat.blt run.imageEnd range.1 || Nat.blt range.2 run.imageStart) &&
    lowercaseRuns.all run.avoids

theorem settles_lowercaseRuns : lowercaseRuns.all CaseRun.settles = true := by
  decide +kernel

theorem CaseRun.image_bounds
    {run : CaseRun} {code : ℕ} (hsettles : run.settles = true) (hcovers : run.covers code = true) :
    (code + run.shift).toNat = run.imageStart + (code - run.first) ∧
      run.first ≤ code ∧ code ≤ run.last ∧ (code - run.first) % run.stride = 0 := by
  simp only [settles, Bool.and_eq_true, decide_eq_true_eq] at hsettles
  simp only [covers, Bool.and_eq_true, decide_eq_true_eq, beq_iff_eq] at hcovers
  obtain ⟨⟨hfirst, hlast⟩, hstride⟩ := hcovers
  have hstart := hsettles.1.1.1.1.1
  refine ⟨?_, hfirst, hlast, hstride⟩
  unfold imageStart
  omega

theorem CaseRun.not_covers_image
    {run other : CaseRun} {code : ℕ} (hsettles : run.settles = true)
    (hcovers : run.covers code = true) (hother : other ∈ lowercaseRuns) :
    other.covers (code + run.shift).toNat = false := by
  obtain ⟨himage, hfirst, hlast, hstride⟩ := image_bounds hsettles hcovers
  have havoids : run.avoids other = true := by
    simp only [settles, Bool.and_eq_true] at hsettles
    exact List.all_eq_true.1 hsettles.2 other hother
  rw [himage]
  simp only [avoids, imageEnd, Bool.or_eq_true, Bool.and_eq_true, Nat.blt_eq,
    Nat.beq_eq] at havoids
  by_contra hcovered
  simp only [covers, Bool.not_eq_false, Bool.and_eq_true, decide_eq_true_eq,
    beq_iff_eq] at hcovered
  obtain ⟨⟨hge, hle⟩, hmod⟩ := hcovered
  rcases havoids with (hbefore | hafter) | ⟨⟨hsame | hsame, hother2⟩, hparity⟩
  · omega
  · omega
  · rw [hsame] at hstride
    rw [hother2] at hmod
    omega
  · rw [hother2] at hmod
    omega

/-! ## Settled characters -/

/-- Neither way of lower-casing changes the character. -/
def Settled (c : Char) : Prop :=
  c ≠ 'Σ' ∧ lowerChar c = [c] ∧ c.toLower = c

instance (c : Char) : Decidable (Settled c) :=
  inferInstanceAs (Decidable (_ ∧ _ ∧ _))

theorem toLower_eq_self {c : Char} (hc : ¬(65 ≤ c.toNat ∧ c.toNat ≤ 90)) : c.toLower = c := by
  unfold Char.toLower
  rw [dif_neg]
  rintro ⟨hlow, hhigh⟩
  apply hc
  simp only [ge_iff_le, UInt32.le_iff_toNat_le] at hlow hhigh
  exact ⟨hlow, hhigh⟩

theorem of_ascii
    {p : Char → Prop} (h : ∀ n < 128, p (Char.ofNat n)) {c : Char} (hc : c.toNat < 128) :
    p c := by
  have hcode := h c.toNat hc
  rwa [Char.ofNat_toNat] at hcode

theorem toNat_ofNat {n : ℕ} (hvalid : n.isValidChar) : (Char.ofNat n).toNat = n := by
  rw [Char.ofNat, dif_pos hvalid]
  rfl

theorem settled_of_lowerCode
    {c : Char} (hlarge : 128 ≤ c.toNat) (hsigma : c ≠ 'Σ') (hdotted : c ≠ 'İ')
    (hcode : lowerCode c.toNat = c.toNat) : Settled c := by
  refine ⟨hsigma, ?_, toLower_eq_self (by omega)⟩
  have hsmall : ¬c.toNat < 128 := by omega
  rw [lowerChar, if_neg hsmall, if_neg hdotted, hcode, Char.ofNat_toNat]

theorem lowerCode_eq_self
    {code : ℕ} (hcode : ∀ run ∈ lowercaseRuns, run.covers code = false) :
    lowerCode code = code := by
  have hnone : lowercaseRuns.find? (·.covers code) = none := by
    rw [List.find?_eq_none]
    intro run hrun
    simp [hcode run hrun]
  rw [lowerCode, hnone]

theorem settled_sign {c : Char} (hsign : c.toNat < 65) : Settled c :=
  of_ascii (p := fun c => c.toNat < 65 → Settled c) (by decide) (by omega) hsign

theorem settled_toLower {c : Char} (hc : c.toNat < 128) : Settled c.toLower :=
  of_ascii (p := fun c => Settled c.toLower) (by decide) hc

theorem settled_dot : Settled 'i' ∧ Settled '\u0307' := by decide

theorem settled_sigma : Settled 'σ' ∧ Settled 'ς' := by decide

theorem capitalSigma_covered : lowercaseRuns.any (·.covers 0x3A3) = true := by decide

/-- A code point in lower case that no run of the table covers is settled. -/
theorem settled_ofNat
    {code : ℕ} (hvalid : code.isValidChar) (hlower : 97 ≤ code ∧ code ≤ 122 ∨ 128 ≤ code)
    (hdotted : code ≠ 0x130) (huncovered : ∀ run ∈ lowercaseRuns, run.covers code = false) :
    Settled (Char.ofNat code) := by
  have hnat : (Char.ofNat code).toNat = code := toNat_ofNat hvalid
  have hnotSigma : code ≠ 0x3A3 := by
    intro heq
    obtain ⟨run, hrun, hcovered⟩ := List.any_eq_true.1 capitalSigma_covered
    rw [heq] at huncovered
    rw [huncovered run hrun] at hcovered
    cases hcovered
  by_cases hsmall : code < 128
  · have hsettled := settled_toLower (hnat.symm ▸ hsmall)
    rwa [toLower_eq_self (by omega)] at hsettled
  · apply settled_of_lowerCode
    · omega
    · intro heq
      rw [heq] at hnat
      exact hnotSigma hnat.symm
    · intro heq
      rw [heq] at hnat
      exact hdotted hnat.symm
    · rw [hnat]
      exact lowerCode_eq_self huncovered

/-- The character that a run leads to, with all that the table says about it. -/
theorem settled_image
    {run : CaseRun} {code : ℕ} (hrun : run ∈ lowercaseRuns) (hcovers : run.covers code = true) :
    Settled (Char.ofNat (code + run.shift).toNat) ∧
      isBlank (Char.ofNat (code + run.shift).toNat) = false ∧
      97 ≤ (Char.ofNat (code + run.shift).toNat).toNat := by
  have hsettles : run.settles = true := List.all_eq_true.1 settles_lowercaseRuns run hrun
  obtain ⟨himage, hfirst, hlast, -⟩ := CaseRun.image_bounds hsettles hcovers
  have huncovered : ∀ other ∈ lowercaseRuns,
      other.covers (code + run.shift).toNat = false :=
    fun other hother => CaseRun.not_covers_image hsettles hcovers hother
  simp only [CaseRun.settles, CaseRun.imageEnd, Bool.and_eq_true, Bool.or_eq_true, Nat.blt_eq,
    Nat.ble_eq] at hsettles
  obtain ⟨⟨⟨⟨⟨-, hvalid⟩, hlower⟩, hdotted⟩, hblank⟩, -⟩ := hsettles
  generalize (code + run.shift).toNat = image at *
  have hscalar : image.isValidChar := by
    unfold Nat.isValidChar
    omega
  have hnat : (Char.ofNat image).toNat = image := toNat_ofNat hscalar
  refine ⟨settled_ofNat hscalar (by omega) (by omega) huncovered, ?_, ?_⟩
  · unfold isBlank
    rw [hnat, Bool.eq_false_iff]
    intro hin
    obtain ⟨range, hrange, hlow, hhigh⟩ := inRanges_iff.1 hin
    have hapart := List.all_eq_true.1 hblank range hrange
    simp only [Bool.or_eq_true, Nat.blt_eq] at hapart
    omega
  · rw [hnat]
    omega

theorem settled_of_mem_lowerChar
    {c d : Char} (hc : c ≠ 'Σ') (hd : d ∈ lowerChar c) : Settled d := by
  unfold lowerChar at hd
  split at hd
  · rename_i hsmall
    rcases List.mem_singleton.1 hd with rfl
    exact settled_toLower hsmall
  · rename_i hlarge
    split at hd
    · rcases List.mem_cons.1 hd with rfl | hdot
      · exact settled_dot.1
      · rcases List.mem_singleton.1 hdot with rfl
        exact settled_dot.2
    · rename_i hdotted
      rcases List.mem_singleton.1 hd with rfl
      unfold lowerCode
      cases hfind : lowercaseRuns.find? (·.covers c.toNat) with
      | some run =>
          have hcovers : run.covers c.toNat = true := by simpa using List.find?_some hfind
          exact (settled_image (List.mem_of_find?_eq_some hfind) hcovers).1
      | none =>
          have hcode : lowerCode c.toNat = c.toNat := by rw [lowerCode, hfind]
          rw [Char.ofNat_toNat]
          exact settled_of_lowerCode (by omega) hc hdotted hcode

theorem isBlank_toLower {c : Char} (hc : c.toNat < 128) :
    isBlank c = false → isBlank c.toLower = false :=
  of_ascii (p := fun c => isBlank c = false → isBlank c.toLower = false)
    (by decide) hc

/-- A letter stays one, and is not lost. -/
theorem isBlank_of_mem_lowerChar
    {c d : Char} (hc : isBlank c = false) (hd : d ∈ lowerChar c) : isBlank d = false := by
  unfold lowerChar at hd
  split at hd
  · rename_i hsmall
    rcases List.mem_singleton.1 hd with rfl
    exact isBlank_toLower hsmall hc
  · split at hd
    · rcases List.mem_cons.1 hd with rfl | hdot
      · decide
      · rcases List.mem_singleton.1 hdot with rfl
        decide
    · rcases List.mem_singleton.1 hd with rfl
      unfold lowerCode
      cases hfind : lowercaseRuns.find? (·.covers c.toNat) with
      | some run =>
          have hcovers : run.covers c.toNat = true := by simpa using List.find?_some hfind
          exact (settled_image (List.mem_of_find?_eq_some hfind) hcovers).2.1
      | none =>
          rw [Char.ofNat_toNat]
          exact hc

/-- Signs and digits, all that stands before the capitals, come from themselves alone. -/
theorem eq_of_toLower {c : Char} (hc : c.toNat < 128) : c.toLower.toNat < 65 → c.toLower = c :=
  of_ascii (p := fun c => c.toLower.toNat < 65 → c.toLower = c) (by decide) hc

theorem eq_of_mem_lowerChar
    {c d : Char} (hsign : d.toNat < 65) (hd : d ∈ lowerChar c) : c = d := by
  unfold lowerChar at hd
  split at hd
  · rename_i hsmall
    rcases List.mem_singleton.1 hd with rfl
    exact (eq_of_toLower hsmall hsign).symm
  · split at hd
    · rcases List.mem_cons.1 hd with rfl | hdot
      · exact absurd hsign (by decide)
      · rcases List.mem_singleton.1 hdot with rfl
        exact absurd hsign (by decide)
    · rcases List.mem_singleton.1 hd with rfl
      unfold lowerCode at hsign ⊢
      cases hfind : lowercaseRuns.find? (·.covers c.toNat) with
      | some run =>
          rw [hfind] at hsign
          dsimp only at hsign
          have hcovers : run.covers c.toNat = true := by simpa using List.find?_some hfind
          have hlarge := (settled_image (List.mem_of_find?_eq_some hfind) hcovers).2.2
          omega
      | none => exact (Char.ofNat_toNat c).symm

theorem lowerChar_ne_nil (c : Char) : lowerChar c ≠ [] := by
  unfold lowerChar
  split_ifs <;> simp

/-! ## Texts -/

theorem settled_of_mem_lowerAfter
    {before text : List Char} {d : Char} (hd : d ∈ lowerAfter before text) : Settled d := by
  induction text generalizing before with
  | nil => simp [lowerAfter] at hd
  | cons c text ih =>
      rw [lowerAfter] at hd
      rcases List.mem_append.1 hd with hhead | htail
      · split at hhead
        · rcases List.mem_singleton.1 hhead with rfl
          unfold lowerSigma
          split
          · exact settled_sigma.2
          · exact settled_sigma.1
        · rename_i hc
          exact settled_of_mem_lowerChar hc hhead
      · exact ih htail

theorem eq_of_mem_lowered
    {before after : List Char} {c d : Char} (hsign : d.toNat < 65)
    (hd : d ∈ if c = 'Σ' then [lowerSigma before after] else lowerChar c) : c = d := by
  split at hd
  · rcases List.mem_singleton.1 hd with rfl
    unfold lowerSigma at hsign
    split at hsign
    · exact absurd hsign (by decide)
    · exact absurd hsign (by decide)
  · exact eq_of_mem_lowerChar hsign hd

theorem mem_of_mem_lowerAfter
    {before text : List Char} {d : Char} (hsign : d.toNat < 65)
    (hd : d ∈ lowerAfter before text) : d ∈ text := by
  induction text generalizing before with
  | nil => simp [lowerAfter] at hd
  | cons c text ih =>
      rw [lowerAfter] at hd
      rcases List.mem_append.1 hd with hhead | htail
      · rw [eq_of_mem_lowered hsign hhead]
        exact List.mem_cons_self
      · exact List.mem_cons_of_mem c (ih htail)

theorem lowerAfter_eq_self
    {before text : List Char} (htext : ∀ c ∈ text, Settled c) : lowerAfter before text = text := by
  induction text generalizing before with
  | nil => rfl
  | cons c text ih =>
      obtain ⟨hsigma, hlower, -⟩ := htext c List.mem_cons_self
      have hrest : lowerAfter (c :: before) text = text :=
        ih fun d hd => htext d (List.mem_cons_of_mem c hd)
      rw [lowerAfter, if_neg hsigma, hlower, hrest]
      rfl

theorem lower_eq_self {text : String} (htext : ∀ c ∈ text.toList, Settled c) :
    lower text = text := by
  rw [lower, lowerOf, lowerAfter_eq_self htext, String.ofList_toList]

theorem asciiLowerOf_eq_self {text : List Char} (htext : ∀ c ∈ text, Settled c) :
    asciiLowerOf text = text := by
  unfold asciiLowerOf
  conv_rhs => rw [← List.map_id text]
  apply List.map_congr_left
  exact fun c hc => (htext c hc).2.2

theorem asciiLower_eq_self {text : String} (htext : ∀ c ∈ text.toList, Settled c) :
    asciiLower text = text := by
  rw [asciiLower, asciiLowerOf_eq_self htext, String.ofList_toList]

/-! ## Words -/

def blankCodes : List ℕ :=
  blankRanges.flatMap fun range => List.range' range.1 (range.2 + 1 - range.1)

theorem of_blank
    {p : Char → Prop} (h : ∀ n ∈ blankCodes, p (Char.ofNat n)) {c : Char}
    (hc : isBlank c = true) : p c := by
  obtain ⟨range, hrange, hlow, hhigh⟩ := inRanges_iff.1 hc
  have hcode : c.toNat ∈ blankCodes := by
    refine List.mem_flatMap.2 ⟨range, hrange, List.mem_range'_1.2 ⟨hlow, ?_⟩⟩
    omega
  have hofNat := h c.toNat hcode
  rwa [Char.ofNat_toNat] at hofNat

theorem settled_blank {c : Char} (hc : isBlank c = true) : Settled c :=
  of_blank (by decide) hc

theorem blank_neither {c : Char} (hc : isBlank c = true) :
    isCased c = false ∧ isCaseIgnorable c = false :=
  of_blank (p := fun c => isCased c = false ∧ isCaseIgnorable c = false) (by decide +kernel) hc

/-- A character that stays as it is and behind which a sigma finds no neighbour. -/
def Divides (c : Char) : Prop :=
  Settled c ∧ isCased c = false ∧ isCaseIgnorable c = false

instance (c : Char) : Decidable (Divides c) :=
  inferInstanceAs (Decidable (_ ∧ _ ∧ _))

theorem divides_blank {c : Char} (hc : isBlank c = true) : Divides c :=
  ⟨settled_blank hc, blank_neither hc⟩

theorem divides_quote : Divides '"' := by decide +kernel

theorem divides_minus : Divides '-' := by decide +kernel

/-- A search for a neighbouring letter ends at a divider, and finds none there. -/
theorem neighbour_append_divider {c : Char} (hc : Divides c) (near far : List Char) :
    ((near ++ c :: far).dropWhile isCaseIgnorable).head?.any isCased =
      (near.dropWhile isCaseIgnorable).head?.any isCased := by
  obtain ⟨-, hcased, hignorable⟩ := hc
  induction near with
  | nil => simp [hcased, hignorable]
  | cons d near ih =>
      by_cases hd : isCaseIgnorable d = true
      · simpa [hd] using ih
      · simp [hd]

theorem lowerAfter_append_divider
    {c : Char} (hc : Divides c) (near far text : List Char) :
    lowerAfter (near ++ c :: far) text = lowerAfter near text := by
  induction text generalizing near with
  | nil => rfl
  | cons d text ih =>
      have hsigma : lowerSigma (near ++ c :: far) text = lowerSigma near text := by
        rw [lowerSigma, endsWord, neighbour_append_divider hc]
        rfl
      have hrest := ih (d :: near)
      rw [List.cons_append] at hrest
      rw [lowerAfter, lowerAfter, hsigma, hrest]

theorem lowerAfter_divider
    {c : Char} (hc : Divides c) (before left right : List Char) :
    lowerAfter before (left ++ c :: right) =
      lowerAfter before left ++ c :: lowerOf right := by
  induction left generalizing before with
  | nil =>
      have hfresh := lowerAfter_append_divider hc [] before right
      obtain ⟨⟨hsigma, hlower, -⟩, -⟩ := hc
      rw [List.nil_append] at hfresh
      change (if c = 'Σ' then [lowerSigma before right] else lowerChar c) ++
        lowerAfter (c :: before) right = _
      rw [if_neg hsigma, hlower, hfresh]
      rfl
  | cons d left ih =>
      have hsigma : lowerSigma before (left ++ c :: right) = lowerSigma before left := by
        rw [lowerSigma, endsWord, neighbour_append_divider hc]
        rfl
      rw [List.cons_append, lowerAfter, lowerAfter, hsigma, ih, List.append_assoc]

theorem lowerOf_intercalate_space (parts : List (List Char)) :
    lowerOf ([' '].intercalate parts) = [' '].intercalate (parts.map lowerOf) := by
  induction parts with
  | nil => rfl
  | cons part parts ih =>
      cases parts with
      | nil => simp
      | cons next parts =>
          rw [List.intercalate_cons_cons, List.append_assoc, List.singleton_append, lowerOf,
            lowerAfter_divider (divides_blank isBlank_space), ih]
          simp [lowerOf, List.intercalate_cons_cons]

theorem lower_intercalate_space (parts : List String) :
    lower (" ".intercalate parts) = " ".intercalate (parts.map lower) := by
  have hspace : " ".toList = [' '] := rfl
  apply String.toList_injective
  rw [lower, String.toList_ofList, String.toList_intercalate, String.toList_intercalate, hspace,
    lowerOf_intercalate_space, List.map_map, List.map_map]
  congr 1
  apply List.map_congr_left
  intro part _
  simp [lower]

theorem isBlank_of_mem_lowerAfter
    {before text : List Char} (htext : ∀ c ∈ text, isBlank c = false) {d : Char}
    (hd : d ∈ lowerAfter before text) : isBlank d = false := by
  induction text generalizing before with
  | nil => simp [lowerAfter] at hd
  | cons c text ih =>
      rw [lowerAfter] at hd
      rcases List.mem_append.1 hd with hhead | htail
      · split at hhead
        · rcases List.mem_singleton.1 hhead with rfl
          unfold lowerSigma
          split <;> decide
        · exact isBlank_of_mem_lowerChar (htext c List.mem_cons_self) hhead
      · exact ih (fun e he => htext e (List.mem_cons_of_mem c he)) htail

theorem lowerAfter_ne_nil
    {text : List Char} (htext : text ≠ []) (before : List Char) :
    lowerAfter before text ≠ [] := by
  cases text with
  | nil => exact absurd rfl htext
  | cons c text =>
      rw [lowerAfter]
      refine List.append_ne_nil_of_left_ne_nil ?_ _
      split
      · exact List.cons_ne_nil _ _
      · exact lowerChar_ne_nil c

theorem wordsOf_lowerOf (text : List Char) : wordsOf (lowerOf text) = (wordsOf text).map lowerOf := by
  induction text using wordsOf_induction with
  | letters text hletters =>
      by_cases htext : text = []
      · subst htext
        rfl
      · have hlowered : ∀ d ∈ lowerOf text, isBlank d = false :=
          fun d hd => isBlank_of_mem_lowerAfter hletters hd
        have hne : lowerOf text ≠ [] := lowerAfter_ne_nil htext []
        rw [wordsOf_of_letters htext hletters, wordsOf_of_letters hne hlowered]
        rfl
  | blank left c right hc hleft hright =>
      rw [lowerOf, lowerAfter_divider (divides_blank hc), wordsOf_append_blank hc,
        wordsOf_append_blank hc, List.map_append, ← hright, ← hleft]
      rfl

theorem words_lower (text : String) : words (lower text) = (words text).map lower := by
  have hofList : String.ofList ∘ lowerOf = lower ∘ String.ofList := by
    funext letters
    rw [Function.comp_apply, Function.comp_apply, lower, String.toList_ofList]
  rw [words, words, lower, String.toList_ofList, wordsOf_lowerOf, List.map_map, List.map_map,
    hofList]

/-! ## Pieces -/

/-- A settled character in the basic Latin lower case of a text is there in full. -/
theorem lowerChar_of_toLower
    {c d : Char} (hd : Settled d) (hc : c.toLower = d) : c ≠ 'Σ' ∧ lowerChar c = [d] := by
  obtain ⟨hsigma, hlower, -⟩ := hd
  by_cases hsmall : c.toNat < 128
  · refine ⟨?_, ?_⟩
    · rintro rfl
      exact absurd hsmall (by decide)
    · rw [lowerChar, if_pos hsmall, hc]
  · have hself : c.toLower = c := toLower_eq_self (by omega)
    rw [hself] at hc
    subst hc
    exact ⟨hsigma, hlower⟩

theorem lowerAfter_append_of_asciiLower
    {piece text : List Char} (hpiece : ∀ c ∈ piece, Settled c)
    (htext : asciiLowerOf text = piece) (before rest : List Char) :
    lowerAfter before (text ++ rest) = piece ++ lowerAfter (text.reverse ++ before) rest := by
  induction text generalizing before piece with
  | nil =>
      rw [← htext]
      rfl
  | cons c text ih =>
      rw [asciiLowerOf, List.map_cons] at htext
      subst htext
      obtain ⟨hsigma, hlower⟩ := lowerChar_of_toLower (hpiece _ List.mem_cons_self) rfl
      have hrest := ih (fun d hd => hpiece d (List.mem_cons_of_mem _ hd)) rfl (c :: before)
      rw [List.cons_append, lowerAfter, if_neg hsigma, hlower, hrest]
      simp

theorem exists_lowerAfter_append (before left rest : List Char) :
    ∃ lowered, lowerAfter before (left ++ rest) =
      lowered ++ lowerAfter (left.reverse ++ before) rest := by
  induction left generalizing before with
  | nil => exact ⟨[], rfl⟩
  | cons c left ih =>
      obtain ⟨lowered, hlowered⟩ := ih (c :: before)
      refine ⟨(if c = 'Σ' then [lowerSigma before (left ++ rest)] else lowerChar c) ++ lowered, ?_⟩
      rw [List.cons_append, lowerAfter, hlowered]
      simp

/-- A text begins with a sign if and only if its lower case does. -/
theorem lowerAfter_eq_cons_iff
    {sign : Char} (hsign : sign.toNat < 65) {before text later : List Char} :
    lowerAfter before text = sign :: later ↔
      ∃ rest, text = sign :: rest ∧ later = lowerAfter (sign :: before) rest := by
  obtain ⟨hsigma, hlower, -⟩ := settled_sign hsign
  constructor
  · intro hcons
    cases text with
    | nil => cases hcons
    | cons c rest =>
        rw [lowerAfter] at hcons
        have hmem : sign ∈ if c = 'Σ' then [lowerSigma before rest] else lowerChar c := by
          rcases List.append_eq_cons_iff.1 hcons with ⟨hnil, -⟩ | ⟨more, hmore, -⟩
          · split at hnil
            · cases hnil
            · exact absurd hnil (lowerChar_ne_nil c)
          · rw [hmore]
            exact List.mem_cons_self
        have hsame : c = sign := eq_of_mem_lowered hsign hmem
        subst hsame
        rw [if_neg hsigma, hlower, List.singleton_append] at hcons
        exact ⟨rest, rfl, (List.cons.inj hcons).2.symm⟩
  · rintro ⟨rest, rfl, rfl⟩
    rw [lowerAfter, if_neg hsigma, hlower]
    rfl

/-- A text ends with a sign if and only if its lower case does. -/
theorem getLast?_lowerAfter
    {sign : Char} (hsign : sign.toNat < 65) (before text : List Char) :
    (lowerAfter before text).getLast? = some sign ↔ text.getLast? = some sign := by
  rcases List.eq_nil_or_concat' text with rfl | ⟨start, c, rfl⟩
  · rfl
  · obtain ⟨lowered, hlowered⟩ := exists_lowerAfter_append before start [c]
    have hne : lowerAfter (start.reverse ++ before) [c] ≠ [] :=
      lowerAfter_ne_nil (List.cons_ne_nil c []) _
    rw [hlowered, List.getLast?_append_of_ne_nil _ hne, List.getLast?_concat,
      Option.some.injEq]
    constructor
    · intro hlast
      have hmem := mem_of_mem_lowerAfter hsign (List.mem_of_getLast? hlast)
      exact (List.mem_singleton.1 hmem).symm
    · rintro rfl
      obtain ⟨hsigma, hlower, -⟩ := settled_sign hsign
      rw [lowerAfter, if_neg hsigma, hlower]
      rfl

theorem suffix_lowerOf
    {piece text : List Char} (hpiece : ∀ c ∈ piece, Settled c)
    (hsuffix : piece <:+ asciiLowerOf text) : piece <:+ lowerOf text := by
  obtain ⟨left, hleft⟩ := hsuffix
  obtain ⟨start, ending, rfl, -, hending⟩ := List.map_eq_append_iff.1 hleft.symm
  obtain ⟨lowered, hlowered⟩ := exists_lowerAfter_append [] start ending
  have hpieces := lowerAfter_append_of_asciiLower hpiece hending (start.reverse ++ []) []
  rw [List.append_nil ending] at hpieces
  rw [lowerOf, hlowered, hpieces]
  exact ⟨lowered, by simp [lowerAfter]⟩

theorem infix_lowerOf
    {piece text : List Char} (hpiece : ∀ c ∈ piece, Settled c)
    (hwithin : piece <:+: asciiLowerOf text) : piece <:+: lowerOf text := by
  obtain ⟨left, right, hboth⟩ := hwithin
  obtain ⟨front, rest, rfl, hfront, -⟩ := List.map_eq_append_iff.1 hboth.symm
  obtain ⟨start, middle, rfl, -, hmiddle⟩ := List.map_eq_append_iff.1 hfront
  obtain ⟨lowered, hlowered⟩ := exists_lowerAfter_append [] start (middle ++ rest)
  have hpieces := lowerAfter_append_of_asciiLower hpiece hmiddle (start.reverse ++ []) rest
  rw [lowerOf, List.append_assoc, hlowered, hpieces]
  exact ⟨lowered, _, by rw [List.append_assoc]⟩

end Gallery.Text

namespace Gallery

open Text

theorem isWord_lower {name : String} (hname : isWord name = true) :
    isWord (lower name) = true := by
  obtain ⟨hne, hletters⟩ := isWord_iff.1 hname
  refine isWord_iff.2 ⟨?_, ?_⟩
  · intro hempty
    have hlist : name.toList ≠ [] := by simpa using hne
    have hlowered : lowerOf name.toList ≠ [] := lowerAfter_ne_nil hlist []
    apply hlowered
    have htoList := congrArg String.toList hempty
    simpa [lower] using htoList
  · intro d hd
    rw [lower, String.toList_ofList] at hd
    exact isBlank_of_mem_lowerAfter hletters hd

/-- The words of names that were joined and lower-cased are the lower-cased names. -/
theorem words_lower_intercalate_names
    {names : List String} (hnames : ∀ name ∈ names, isWord name = true) :
    words (lower (" ".intercalate names)) = names.map lower := by
  rw [words_lower, words_intercalate_names hnames]

end Gallery
