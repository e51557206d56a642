import Gallery.Proofs.Config.Precedence
import Gallery.Proofs.Text.Words

/-!
# Saved settings are read back

Settings are written one a line and without quotes.  Over the characters of such a line
the reader never leaves its plain states: it opens no quote, no escape and no comment,
and it passes over no blank.  So every line is read as the entry that was written, and
its value is what the setting was before.
-/

namespace Gallery

open Text

namespace Dotenv

/-- A character that stands for itself where nothing is quoted. -/
def isPlain (c : Char) : Bool :=
  !isBlank c && c ≠ '\x27' && c ≠ '"' && c ≠ '\\'

theorem isPlain_iff {c : Char} :
    isPlain c = true ↔ isBlank c = false ∧ c ≠ '\x27' ∧ c ≠ '"' ∧ c ≠ '\\' := by
  simp [isPlain, and_assoc]

theorem isBlank_of_isPlain {c : Char} (hc : isPlain c = true) : isBlank c = false :=
  (isPlain_iff.1 hc).1

theorem ne_of_isPlain {c d : Char} (hc : isPlain c = true) (hd : isBlank d = true) : c ≠ d := by
  rintro rfl
  simp [isBlank_of_isPlain hc] at hd

/-! ## Lines -/

section Lines

variable {line : List Char}

theorem physicalLines_append (hline : '\n' ∉ line) (text : List Char) :
    physicalLines (line ++ '\n' :: text) = (line ++ ['\n']) :: physicalLines text := by
  induction line with
  | nil => rfl
  | cons c line ih =>
      obtain ⟨hc, hrest⟩ := not_or.1 (mt List.mem_cons.2 hline)
      rw [List.cons_append, physicalLines, if_neg (Ne.symm hc), ih hrest]
      rfl

theorem LineState.next_complete {c : Char} (hc : isPlain c = true) :
    LineState.complete.next c = .complete := by
  obtain ⟨hblank, hstrong, hweak, hescape⟩ := isPlain_iff.1 hc
  have hopening : LineState.opening c = .complete := by
    unfold LineState.opening
    split
    · contradiction
    · contradiction
    · contradiction
    · rfl
  simp [LineState.next, hblank, hopening]

/-- A plain line is complete; its newline is a blank after which no comment may open. -/
theorem scanLine_plain (hplain : ∀ c ∈ line, isPlain c = true) :
    scanLine .complete (line ++ ['\n']) = (line ++ ['\n'], .complete) := by
  induction line with
  | nil =>
      rfl
  | cons c line ih =>
      obtain ⟨hc, hrest⟩ := List.forall_mem_cons.1 hplain
      rw [List.cons_append, scanLine, LineState.next_complete hc]
      simp only [ih hrest]

theorem withoutNewline_plain (hplain : ∀ c ∈ line, isPlain c = true) :
    withoutNewline (line ++ ['\n']) = line := by
  have hreturn : ∀ rest, line.reverse ≠ '\r' :: rest := by
    intro rest hrest
    have hmem : '\r' ∈ line := List.mem_reverse.1 (hrest ▸ List.mem_cons_self)
    exact ne_of_isPlain (hplain _ hmem) (by decide) rfl
  have hreverse : (line ++ ['\n']).reverse = '\n' :: line.reverse := by simp
  unfold withoutNewline
  rw [hreverse]
  split
  · rename_i rest hrest
    exact absurd (List.cons.inj hrest).2 (hreturn rest)
  · rename_i rest _ hrest
    rw [← (List.cons.inj hrest).2, List.reverse_reverse]
  · rename_i hother
    exact absurd rfl (hother _)

theorem logicalLines_plain (hplain : ∀ c ∈ line, isPlain c = true) (hhead : line.head? ≠ some '#')
    (later : List (List Char)) :
    logicalLines [] .complete ((line ++ ['\n']) :: later) =
      some line :: logicalLines [] .complete later := by
  have hcomment : isCommentLine (line ++ ['\n']) = false := by
    cases line with
    | nil => rfl
    | cons c line =>
        have hc : c ≠ '#' := by simpa using hhead
        simp [isCommentLine, isBlank_of_isPlain (hplain c List.mem_cons_self), hc]
  rw [logicalLines]
  simp only [List.nil_append, hcomment, scanLine_plain hplain, withoutNewline_plain hplain]
  rfl

end Lines

/-! ## Entries -/

/-- A key that the reader knows as one. -/
def isKey (key : String) : Bool :=
  key.toList.head?.any isKeyStart && key.toList.all fun c => isKeyChar c && isPlain c

/-- A value that is read as it is written, without quotes. -/
def isBare (value : String) : Bool :=
  value.toList.all isPlain && value.toList.head? ≠ some '#'

theorem isKey_iff {key : String} :
    isKey key = true ↔ key.toList.head?.any isKeyStart = true ∧
      ∀ c ∈ key.toList, isKeyChar c = true ∧ isPlain c = true := by
  simp [isKey]

theorem isBare_iff {value : String} :
    isBare value = true ↔
      (∀ c ∈ value.toList, isPlain c = true) ∧ value.toList.head? ≠ some '#' := by
  simp [isBare]

theorem trim_of_isBare {value : String} (h : isBare value = true) : trim value = value :=
  trim_of_letters fun c hc => isBlank_of_isPlain ((isBare_iff.1 h).1 c hc)

structure IsWritable (entry : String × String) : Prop where
  key : isKey entry.1 = true
  value : isBare entry.2 = true

/-- The line of an entry, without the newline that ends it. -/
def lineOf (entry : String × String) : List Char :=
  entry.1.toList ++ '=' :: entry.2.toList

section Entries

variable {entry : String × String}

theorem IsWritable.plain (h : IsWritable entry) :
    ∀ c ∈ lineOf entry, isPlain c = true := by
  unfold lineOf
  rw [List.forall_mem_append, List.forall_mem_cons]
  exact ⟨fun c hc => ((isKey_iff.1 h.key).2 c hc).2, by decide, (isBare_iff.1 h.value).1⟩

theorem IsWritable.isKeyStart_head? (h : IsWritable entry) :
    (lineOf entry).head?.any isKeyStart = true := by
  have hkeyStart := (isKey_iff.1 h.key).1
  unfold lineOf
  cases hkey : entry.1.toList with
  | nil => simp [hkey] at hkeyStart
  | cons c key => simpa [hkey] using hkeyStart

theorem IsWritable.head?_ne (h : IsWritable entry) : (lineOf entry).head? ≠ some '#' := by
  intro hhead
  have hstart := h.isKeyStart_head?
  rw [hhead] at hstart
  exact absurd hstart (by decide)

theorem valueFrom?_plain {text : List Char} (hplain : ∀ c ∈ text, isPlain c = true) :
    valueFrom? .plain text = some text := by
  induction text with
  | nil => rfl
  | cons c text ih =>
      obtain ⟨hc, hrest⟩ := List.forall_mem_cons.1 hplain
      obtain ⟨-, hstrong, hweak, hescape⟩ := isPlain_iff.1 hc
      have hspace : c ≠ ' ' := ne_of_isPlain hc (by decide)
      have htab : c ≠ '\t' := ne_of_isPlain hc (by decide)
      have hnext : ValueState.plain.next? c = some (.plain, [c]) := by
        simp [ValueState.next?, hstrong, hweak, hescape, hspace, htab]
      rw [valueFrom?, hnext]
      simp [ih hrest]

theorem keyAndRest?_lineOf (h : IsWritable entry) :
    keyAndRest? (lineOf entry) = some (entry.1.toList, entry.2.toList) := by
  have hkeyChars : ∀ c ∈ entry.1.toList, isKeyChar c = true :=
    fun c hc => ((isKey_iff.1 h.key).2 c hc).1
  have hequals : isKeyChar '=' = false := by decide
  have hkey : key? (lineOf entry) = some (entry.1.toList, '=' :: entry.2.toList) := by
    rw [key?, if_pos h.isKeyStart_head?]
    unfold lineOf
    rw [List.takeWhile_append_of_pos hkeyChars, List.dropWhile_append_of_pos hkeyChars]
    simp [hequals]
  have hafter : afterEquals? ('=' :: entry.2.toList) = some entry.2.toList := by
    have hblank : isBlank '=' = false := by decide
    simp [afterEquals?, skipBlanks, hblank]
  simp only [keyAndRest?, hkey, Option.bind_eq_bind, Option.bind_some, hafter]

theorem value?_bare {value : String} (h : isBare value = true) :
    value? value.toList = some value.toList := by
  obtain ⟨hplain, hhead⟩ := isBare_iff.1 h
  unfold value? skipBlanks
  rw [dropWhile_isBlank_of_letters fun c hc => isBlank_of_isPlain (hplain c hc), if_neg hhead]
  exact valueFrom?_plain hplain

theorem entry?_lineOf (h : IsWritable entry) : entry? (lineOf entry) = some (some entry) := by
  have hletters : ∀ c ∈ lineOf entry, isBlank c = false :=
    fun c hc => isBlank_of_isPlain (h.plain c hc)
  have htrim : skipBlanks (trimEnd (lineOf entry)) = lineOf entry := by
    have hreverse : ∀ c ∈ (lineOf entry).reverse, isBlank c = false :=
      fun c hc => hletters c (List.mem_reverse.1 hc)
    rw [skipBlanks, trimEnd, dropWhile_isBlank_of_letters hreverse, List.reverse_reverse,
      dropWhile_isBlank_of_letters hletters]
  have hsetting : ¬(lineOf entry = [] ∨ (lineOf entry).head? = some '#') := by
    rintro (hnil | hhead)
    · simp [lineOf] at hnil
    · exact h.head?_ne hhead
  unfold entry?
  rw [htrim, if_neg hsetting, keyAndRest?_lineOf h]
  simp [value?_bare h.value]

theorem logicalLines_lines {entries : List (String × String)}
    (h : ∀ entry ∈ entries, IsWritable entry) :
    logicalLines [] .complete
        (physicalLines (entries.flatMap fun entry => lineOf entry ++ ['\n'])) =
      entries.map fun entry => some (lineOf entry) := by
  induction entries with
  | nil => rfl
  | cons entry entries ih =>
      obtain ⟨hentry, hrest⟩ := List.forall_mem_cons.1 h
      have hline : '\n' ∉ lineOf entry :=
        fun hmem => ne_of_isPlain (hentry.plain _ hmem) (by decide) rfl
      rw [List.flatMap_cons, List.append_assoc, List.singleton_append, physicalLines_append hline,
        logicalLines_plain hentry.plain hentry.head?_ne, ih hrest, List.map_cons]

/-- Entries that are written one a line are read as they were. -/
theorem entries?_of_lines {entries : List (String × String)}
    (h : ∀ entry ∈ entries, IsWritable entry) {text : String}
    (htext : text.toList = entries.flatMap fun entry => lineOf entry ++ ['\n']) :
    entries? text = some entries := by
  have hread : (entries.map fun entry => some (lineOf entry)).mapM (fun line => line.bind entry?) =
      some (entries.map some) := by
    clear htext
    induction entries with
    | nil => rfl
    | cons entry entries ih =>
        obtain ⟨hentry, hrest⟩ := List.forall_mem_cons.1 h
        simp [List.mapM_cons, entry?_lineOf hentry, ih hrest]
  simp [entries?, htext, logicalLines_lines h, hread]

end Entries

end Dotenv

namespace Config

open Dotenv

/-! ## Numbers -/

theorem isPlain_of_isDigit {c : Char} (hc : c.isDigit = true) : isPlain c = true := by
  have hrange := Char.isDigit_iff_toNat.1 hc
  have hblank : isBlank c = false := by
    simp [isBlank, inRanges, blankRanges] at hrange ⊢
    omega
  refine isPlain_iff.2 ⟨hblank, ?_, ?_, ?_⟩ <;>
    · rintro rfl
      exact absurd hc (by decide)

theorem unsignedDigits?_toDigits (n : ℕ) : unsignedDigits? (Nat.toDigits 10 n) = some n := by
  have hdigits : (Nat.toDigits 10 n).all Char.isDigit = true :=
    List.all_eq_true.2 fun c hc => Nat.isDigit_of_mem_toDigits (by decide) (by decide) hc
  rw [unsignedDigits?, if_pos ⟨Nat.toDigits_ne_nil, hdigits⟩]
  exact congrArg some (Nat.ofDigitChars_toDigits (by decide) (by decide))

theorem toList_toString (n : ℕ) : (toString n).toList = Nat.toDigits 10 n := by
  rw [Nat.toString_eq_repr, Nat.toList_repr]

theorem isDigit_of_mem_toString {n : ℕ} {c : Char} (hc : c ∈ (toString n).toList) :
    c.isDigit = true := by
  rw [toList_toString] at hc
  exact Nat.isDigit_of_mem_toDigits (by decide) (by decide) hc

theorem positiveWord?_toString {n : ℕ} (hpositive : 1 ≤ n) (hword : n < wordBound) :
    positiveWord? (toString n) = some n := by
  have hread : word? (toString n) = some n := by
    unfold word?
    split
    · rename_i digits hplus
      have hmem : '+' ∈ (toString n).toList := hplus ▸ List.mem_cons_self
      exact absurd (isDigit_of_mem_toString hmem) (by decide)
    · simp [unsignedDigits?_toDigits, hword]
  rw [positiveWord?, hread]
  simp [Nat.one_le_iff_ne_zero.1 hpositive]

/-! ## Settings -/

/-- The entries that are written for the settings. -/
def written (config : Config) : List (String × String) :=
  [(databasePathKey, config.databasePath), (similarityKey, config.similarity.name),
    (rarityKey, config.rarity.name), (subcategoriesKey, switchText config.useSubcategories),
    (relatedCapacityKey, toString config.relatedCapacity)]

theorem toList_save (config : Config) :
    config.save.toList = config.written.flatMap fun entry => lineOf entry ++ ['\n'] := by
  simp [save, settingLine, written, lineOf]

theorem isBare_toString (n : ℕ) : isBare (toString n) = true := by
  refine isBare_iff.2 ⟨fun c hc => isPlain_of_isDigit (isDigit_of_mem_toString hc), fun hhead => ?_⟩
  exact absurd (isDigit_of_mem_toString (List.mem_of_mem_head? hhead)) (by decide)

theorem isWritable_written {config : Config} (hpath : isBare config.databasePath = true) :
    ∀ entry ∈ config.written, IsWritable entry := by
  have hkeys : ∀ key ∈ keys, isKey key = true := List.all_eq_true.1 (by decide)
  have hsimilarity : isBare config.similarity.name = true := by
    cases config.similarity <;> decide
  have hrarity : isBare config.rarity.name = true := by
    cases config.rarity <;> decide
  have hswitch : isBare (switchText config.useSubcategories) = true := by
    cases config.useSubcategories <;> decide
  simp only [keys, List.forall_mem_cons] at hkeys
  obtain ⟨hpathKey, hsimilarityKey, hrarityKey, hswitchKey, hnumberKey, -⟩ := hkeys
  simp only [written, List.forall_mem_cons]
  exact ⟨⟨hpathKey, hpath⟩, ⟨hsimilarityKey, hsimilarity⟩, ⟨hrarityKey, hrarity⟩,
    ⟨hswitchKey, hswitch⟩, ⟨hnumberKey, isBare_toString _⟩, List.forall_mem_nil _⟩

/-- What is written for a setting settles it. -/
theorem settled_written {config : Config} (hcapacity : 1 ≤ config.relatedCapacity)
    (hword : config.relatedCapacity < wordBound) (hpath : config.databasePath ≠ "")
    (hbare : isBare config.databasePath = true) : settled {} (valuesOf config.written) = config := by
  have hdatabasePath : path? config.databasePath = some config.databasePath := by
    rw [path?, trim_of_isBare hbare, if_neg hpath]
  have hsimilarity : Policy.ofName? (trim config.similarity.name) = some config.similarity := by
    cases config.similarity <;> decide +kernel
  have hrarity : Rarity.ofName? (trim config.rarity.name) = some config.rarity := by
    cases config.rarity <;> decide +kernel
  have hswitch : switch? (trim (switchText config.useSubcategories)) =
      some config.useSubcategories := by
    cases config.useSubcategories <;> decide +kernel
  have hnumber : positiveWord? (trim (toString config.relatedCapacity)) =
      some config.relatedCapacity := by
    rw [trim_of_isBare (isBare_toString _), positiveWord?_toString hcapacity hword]
  have hvalues : valuesOf config.written databasePathKey = [config.databasePath] ∧
      valuesOf config.written similarityKey = [config.similarity.name] ∧
      valuesOf config.written rarityKey = [config.rarity.name] ∧
      valuesOf config.written subcategoriesKey = [switchText config.useSubcategories] ∧
      valuesOf config.written relatedCapacityKey = [toString config.relatedCapacity] := by
    exact ⟨rfl, rfl, rfl, rfl, rfl⟩
  obtain ⟨hfirst, hsecond, hthird, hfourth, hfifth⟩ := hvalues
  simp only [settled, hfirst, hsecond, hthird, hfourth, hfifth, lastUsable_singleton,
    hdatabasePath, hsimilarity, hrarity, hswitch, hnumber, Option.getD_some]

theorem ofFile_save {config : Config} (hcapacity : 1 ≤ config.relatedCapacity)
    (hword : config.relatedCapacity < wordBound) (hpath : config.databasePath ≠ "")
    (hchars : ∀ c ∈ config.databasePath.toList,
      isBlank c = false ∧ c ∉ ['\x27', '"', '\\', '$', '#']) :
    ofFile (some config.save) = .ok config := by
  have hbare : isBare config.databasePath = true := by
    refine isBare_iff.2 ⟨fun c hc => ?_, fun hhead => ?_⟩
    · obtain ⟨hblank, hmarks⟩ := hchars c hc
      simp only [List.mem_cons, not_or] at hmarks
      exact isPlain_iff.2 ⟨hblank, hmarks.1, hmarks.2.1, hmarks.2.2.1⟩
    · exact (hchars '#' (List.mem_of_mem_head? hhead)).2 (by decide)
  have hentries : Dotenv.entries? config.save = some config.written :=
    entries?_of_lines (isWritable_written hbare) (toList_save config)
  simp only [ofFile, ofFileBy, hentries]
  rw [updateAll_eq_settled, settled_written hcapacity hword hpath hbare]

/-- A path with signs of its own and the largest capacity. -/
theorem ofFile_save_of_signs :
    let config : Config :=
      { databasePath := "/tmp/a=b:c,é.db", similarity := .jaccard, rarity := .classic,
        useSubcategories := true, relatedCapacity := wordBound - 1 }
    config.save = "CATALOG_DB_PATH=/tmp/a=b:c,é.db\nCATALOG_SIMILARITY=jaccard\n" ++
        "CATALOG_IDF=classic\nCATALOG_EXTENDED_CATEGORIES=true\n" ++
        "CATALOG_RELATED_CACHE=18446744073709551615\n" ∧
      ofFile (some config.save) = .ok config := by
  intro config
  have hchars : ∀ c ∈ config.databasePath.toList,
      (!isBlank c && !(['\x27', '"', '\\', '$', '#'].contains c)) = true :=
    List.all_eq_true.1 (by decide)
  refine ⟨by decide +kernel, ofFile_save (by decide) (by decide) (by decide) fun c hc => ?_⟩
  simpa using hchars c hc

end Config

end Gallery
