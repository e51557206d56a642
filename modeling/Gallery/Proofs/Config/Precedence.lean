import Gallery.Config.Load
import Mathlib.Data.List.Basic

/-!
# Which value of a setting holds

Settings are changed one entry at a time, first by those of a file and then by the
variables of the process.  An entry changes the one setting that has its key, and only
if its value is of use there.  So every setting ends with the last value of use that was
given to its key, or with its default, whatever else stands in the file.
-/

namespace Gallery

open Text

namespace Config

/-! ## Values of use -/

/-- A path is taken without the blanks around it and must not be blank. -/
def path? (value : String) : Option String :=
  if trim value = "" then none else some (trim value)

/-- The last value of use, or what held before where none is. -/
def lastUsable {β : Type} (read? : String → Option β) (held : β) (values : List String) : β :=
  (values.filterMap read?).getLast?.getD held

/-- The settings after some values were given to each key. -/
def settled (config : Config) (values : String → List String) : Config where
  databasePath := lastUsable path? config.databasePath (values databasePathKey)
  similarity :=
    lastUsable (fun value => Policy.ofName? (trim value)) config.similarity
      (values similarityKey)
  rarity :=
    lastUsable (fun value => Rarity.ofName? (trim value)) config.rarity (values rarityKey)
  useSubcategories :=
    lastUsable (fun value => switch? (trim value)) config.useSubcategories
      (values subcategoriesKey)
  relatedCapacity :=
    lastUsable (fun value => positiveWord? (trim value)) config.relatedCapacity
      (values relatedCapacityKey)

/-- The values that entries give to a key, in order. -/
def valuesOf (entries : List (String × String)) (key : String) : List String :=
  (entries.filter (·.1 = key)).map (·.2)

section Values

variable {β : Type} {read? : String → Option β} {held : β}

@[simp] theorem lastUsable_nil : lastUsable read? held [] = held := rfl

@[simp] theorem lastUsable_singleton (value : String) :
    lastUsable read? held [value] = (read? value).getD held := by
  unfold lastUsable
  cases hread : read? value <;> simp [hread]

theorem lastUsable_append (first later : List String) :
    lastUsable read? held (first ++ later) =
      lastUsable read? (lastUsable read? held first) later := by
  simp only [lastUsable, List.filterMap_append, List.getLast?_append]
  cases (later.filterMap read?).getLast? <;> rfl

end Values

theorem settled_append (config : Config) (first later : String → List String) :
    settled config (fun key => first key ++ later key) =
      settled (settled config first) later := by
  simp only [settled, lastUsable_append]

@[simp] theorem valuesOf_nil (key : String) : valuesOf [] key = [] := rfl

theorem valuesOf_cons (name value : String) (entries : List (String × String)) (key : String) :
    valuesOf ((name, value) :: entries) key =
      if name = key then value :: valuesOf entries key else valuesOf entries key := by
  unfold valuesOf
  by_cases hname : name = key <;> simp [hname]

theorem valuesOf_cons_eq_append (entry : String × String) (entries : List (String × String)) :
    valuesOf (entry :: entries) = fun key => valuesOf [entry] key ++ valuesOf entries key := by
  funext key
  rw [valuesOf_cons, valuesOf_cons]
  split <;> rfl

/-! ## Entries -/

-- Keys are told apart by what they say.
attribute [local simp] databasePathKey similarityKey rarityKey subcategoriesKey
  relatedCapacityKey

/-- An entry gives its value to its own key and to no other. -/
theorem update_eq_settled (config : Config) (entry : String × String) :
    config.update entry = settled config (valuesOf [entry]) := by
  obtain ⟨key, value⟩ := entry
  simp only [update, update?, settled, valuesOf_cons, valuesOf_nil]
  by_cases hkey : key ∈ keys
  · simp only [keys, List.mem_cons, List.not_mem_nil, or_false] at hkey
    obtain rfl | rfl | rfl | rfl | rfl := hkey
    · by_cases hblank : trim value = "" <;> simp [path?, hblank]
    · cases hread : Policy.ofName? (trim value) <;> simp [hread]
    · cases hread : Rarity.ofName? (trim value) <;> simp [hread]
    · cases hread : switch? (trim value) <;> simp [hread]
    · cases hread : positiveWord? (trim value) <;> simp [hread]
  · simp only [keys, List.mem_cons, List.not_mem_nil, or_false, not_or] at hkey
    simp only [hkey, if_false, lastUsable_nil, Option.getD_none]

theorem updateAll_eq_settled (config : Config) (entries : List (String × String)) :
    config.updateAll entries = settled config (valuesOf entries) := by
  induction entries generalizing config with
  | nil => rfl
  | cons entry entries ih =>
      rw [valuesOf_cons_eq_append, settled_append, ← update_eq_settled]
      exact ih _

/-! ## The variables of the process -/

section Environment

variable (environment : List (String × String))

theorem processVariable?_eq (key : String) :
    processVariable? environment key = (environment.lookup key).map (key, ·) := by
  induction environment with
  | nil => rfl
  | cons entry environment ih =>
      obtain ⟨name, value⟩ := entry
      unfold processVariable? at ih ⊢
      by_cases hname : name = key
      · subst hname
        simp
      · have hkey : (key == name) = false := by simpa using Ne.symm hname
        simp [List.lookup_cons, hname, hkey, ih]

/-- Each of several variables is asked for once. -/
theorem valuesOf_processVariables {names : List String} (hnames : names.Nodup) (key : String) :
    valuesOf (names.filterMap (processVariable? environment)) key =
      if key ∈ names then (environment.lookup key).toList else [] := by
  induction names with
  | nil => rfl
  | cons name names ih =>
      obtain ⟨hfirst, hrest⟩ := List.nodup_cons.1 hnames
      have hothers := ih hrest
      rw [List.filterMap_cons, processVariable?_eq]
      by_cases hname : name = key
      · subst hname
        rw [if_neg hfirst] at hothers
        cases environment.lookup name with
        | none => simp [hothers]
        | some value => simp [valuesOf_cons, hothers]
      · have hkey : key ∈ name :: names ↔ key ∈ names :=
          List.mem_cons.trans (or_iff_right (Ne.symm hname))
        cases environment.lookup name with
        | none => simp [hothers, hkey]
        | some value => simp [valuesOf_cons, hothers, hname, hkey]

end Environment

theorem settled_congr (config : Config) {first second : String → List String}
    (hsame : ∀ key ∈ keys, first key = second key) :
    settled config first = settled config second := by
  simp only [keys, List.forall_mem_cons] at hsame
  obtain ⟨hpath, hsimilarity, hrarity, hsubcategories, hcapacity, -⟩ := hsame
  simp only [settled, hpath, hsimilarity, hrarity, hsubcategories, hcapacity]

/-- Whatever reads the file: if there is none or it can be read, then each setting has the
last value of use among those that the file gives to its key and the variable of that
name. -/
theorem load_last_usable
    (read : String → Option (List (String × String))) (file : Option String)
    (environment : List (String × String)) {entries : List (String × String)}
    (hentries : file.elim (some []) read = some entries) :
    loadBy read file environment =
      .ok (settled {} fun key => valuesOf entries key ++ (environment.lookup key).toList) := by
  have hvariables (config : Config) :
      config.updateAll (keys.filterMap (processVariable? environment)) =
        settled config fun key => (environment.lookup key).toList := by
    rw [updateAll_eq_settled]
    apply settled_congr
    intro key hkey
    rw [valuesOf_processVariables environment (by decide), if_pos hkey]
  rw [settled_append, ← hvariables, ← updateAll_eq_settled]
  cases file with
  | none =>
      cases hentries
      rfl
  | some text =>
      have hread : read text = some entries := hentries
      simp only [loadBy, ofFileBy, hread, Option.isSome_some, if_true]
      rfl

/-- Names, numbers and switches of use and of none, in a file and in the environment. -/
theorem load_last_usable_of_mixed_entries :
    let file := "CATALOG_SIMILARITY=Unweighted\nCATALOG_IDF=tfidf\n" ++
      "CATALOG_RELATED_CACHE=12 # few\nCATALOG_SIMILARITY=cosine\n" ++
      "export CATALOG_RELATED_CACHE=0\nOTHER=1\nCATALOG_DB_PATH='a b.db'\nCATALOG_IDF=\n"
    let environment := [("CATALOG_DB_PATH", " "), ("CATALOG_EXTENDED_CATEGORIES", " On "),
      ("CATALOG_IDF", "none")]
    load (some file) environment = .ok
      { databasePath := "a b.db", similarity := .jaccard, rarity := .classic,
        useSubcategories := true, relatedCapacity := 12 } := by
  intro file environment
  have hentries : (some file).elim (some []) Dotenv.entries? = some
      [("CATALOG_SIMILARITY", "Unweighted"), ("CATALOG_IDF", "tfidf"),
        ("CATALOG_RELATED_CACHE", "12"), ("CATALOG_SIMILARITY", "cosine"),
        ("CATALOG_RELATED_CACHE", "0"), ("OTHER", "1"), ("CATALOG_DB_PATH", "a b.db"),
        ("CATALOG_IDF", "")] := by
    decide +kernel
  exact (load_last_usable Dotenv.entries? (some file) environment hentries).trans (by decide)

end Config

end Gallery
