import Gallery.Proofs.Catalog.Coherent
import Gallery.Proofs.Catalog.Reads
import Gallery.Proofs.Store.Sound

/-!
# A directory and the table that it was read from

The look-ups of a directory are those of the rows that it was read from, as long as no two
rows have one number or one name.  The rows may as well be entered one by one into two
tables, one for each direction, where a later row takes the place of an earlier one of its
number or name: then none ever does.

Between two readings of the relation a directory stays as it is.  The reads of a catalog
fill it if it was empty, and a notice makes it read the relation again.
-/

namespace Gallery

/-- No two tags have one number, and no two have one name. -/
structure KeyedTags (rows : List Tag) : Prop where
  ids : (rows.map (·.id)).Nodup
  names : (rows.map (·.name)).Nodup

theorem KeyedTags.perm {rows others : List Tag} (h : KeyedTags rows) (hperm : rows.Perm others) :
    KeyedTags others :=
  ⟨(hperm.map _).nodup h.ids, (hperm.map _).nodup h.names⟩

theorem Store.Sound.keyedTags {store : Store} (h : store.Sound) : KeyedTags store.tags :=
  ⟨h.tagIds, h.tagNames⟩

/-- A directory that translates both ways between the numbers and the names of the rows,
and knows no others. -/
structure TagNames.Mirrors (names : TagNames) (rows : List Tag) : Prop where
  id?_iff : ∀ name id, names.id? name = some id ↔ ∃ row ∈ rows, row.name = name ∧ row.id = id
  inverse : ∀ name id, names.name? id = some name ↔ names.id? name = some id
  count : names.count = rows.length
  roundTrip : ∀ given, names.namesOf (names.ids given) =
    given.filter fun name => rows.any (·.name = name)

theorem TagNames.Mirrors.name?_iff {names : TagNames} {rows : List Tag} (h : names.Mirrors rows)
    (id : TagId) (name : String) :
    names.name? id = some name ↔ ∃ row ∈ rows, row.id = id ∧ row.name = name := by
  rw [h.inverse, h.id?_iff]
  simp only [and_comm]

theorem TagNames.Mirrors.perm {names : TagNames} {rows others : List Tag}
    (h : names.Mirrors rows) (hperm : rows.Perm others) : names.Mirrors others where
  id?_iff name id := by simp only [h.id?_iff, hperm.mem_iff]
  inverse := h.inverse
  count := h.count.trans hperm.length_eq
  roundTrip given := by simp only [h.roundTrip, hperm.any_eq]

namespace KeyedTags

variable {rows : List Tag}

theorem id?_ofTags_iff (h : KeyedTags rows) (name : String) (id : TagId) :
    (TagNames.ofTags rows).id? name = some id ↔ ∃ row ∈ rows, row.name = name ∧ row.id = id := by
  rw [TagNames.id?, TagNames.ofTags, List.find?_map]
  simp only [Option.map_map, Option.map_eq_some_iff, Function.comp_def,
    find?_eq_some_iff_of_nodup h.names, and_assoc]

theorem name?_ofTags_iff (h : KeyedTags rows) (id : TagId) (name : String) :
    (TagNames.ofTags rows).name? id = some name ↔ ∃ row ∈ rows, row.id = id ∧ row.name = name := by
  rw [TagNames.name?, TagNames.ofTags, List.find?_map]
  simp only [Option.map_map, Option.map_eq_some_iff, Function.comp_def,
    find?_eq_some_iff_of_nodup h.ids, and_assoc]

/-- A name that has a number gets back from it; one that has none is passed over. -/
theorem namesOf_ids_ofTags (h : KeyedTags rows) (given : List String) :
    (TagNames.ofTags rows).namesOf ((TagNames.ofTags rows).ids given) =
      given.filter fun name => rows.any (·.name = name) := by
  rw [TagNames.namesOf, TagNames.ids, List.filterMap_filterMap, ← List.filterMap_eq_filter]
  congr 1
  funext name
  by_cases hknown : rows.any (·.name = name) = true
  · obtain ⟨row, hrow, hname⟩ := List.any_eq_true.1 hknown
    have hid := (h.id?_ofTags_iff name row.id).2 ⟨row, hrow, of_decide_eq_true hname, rfl⟩
    have hback := (h.name?_ofTags_iff row.id name).2 ⟨row, hrow, rfl, of_decide_eq_true hname⟩
    rw [hid, Option.bind_some, hback, Option.guard, if_pos hknown]
  · have hid : (TagNames.ofTags rows).id? name = none := by
      rw [Option.eq_none_iff_forall_ne_some]
      intro id hid
      obtain ⟨row, hrow, hname, -⟩ := (h.id?_ofTags_iff name id).1 hid
      exact hknown (List.any_eq_true.2 ⟨row, hrow, decide_eq_true hname⟩)
    rw [hid, Option.bind_none, Option.guard, if_neg hknown]

theorem mirrors_ofTags (h : KeyedTags rows) : (TagNames.ofTags rows).Mirrors rows where
  id?_iff := h.id?_ofTags_iff
  inverse name id := by
    rw [h.id?_ofTags_iff, h.name?_ofTags_iff]
    simp only [and_comm]
  count := by simp [TagNames.count, TagNames.ofTags]
  roundTrip := h.namesOf_ids_ofTags

end KeyedTags

theorem Store.mirrors_names {store : Store} (h : KeyedTags store.tags) :
    store.names.Mirrors store.tags := by
  have hperm := List.mergeSort_perm store.tags fun a b => a.id ≤ b.id
  exact (h.perm hperm.symm).mirrors_ofTags.perm hperm

/-! ## Rows entered one by one -/

/-- What a table holds that rows were entered into, each in place of an earlier one of its
key: if no two rows have one key, all of them. -/
theorem getElem?_foldl_insert {α κ ν : Type} [DecidableEq κ] [Hashable κ] {key : α → κ}
    {value : α → ν} {rows : List α} (hkeys : (rows.map key).Nodup) (k : κ) :
    (rows.foldl (fun table row => table.insert (key row) (value row))
      (∅ : Std.HashMap κ ν))[k]? = (rows.find? (key · = k)).map value := by
  induction rows using List.reverseRecOn with
  | nil => simp
  | append_singleton rows row ih =>
      rw [List.map_append, List.nodup_append] at hkeys
      rw [List.foldl_append, List.foldl_cons, List.foldl_nil, Std.HashMap.getElem?_insert,
        ih hkeys.1, List.find?_append]
      by_cases hkey : key row = k
      · have hnone : rows.find? (key · = k) = none := by
          rw [List.find?_eq_none]
          intro other hother hsame
          exact hkeys.2.2 (key other) (List.mem_map_of_mem hother) (key row) (by simp)
            ((of_decide_eq_true hsame).trans hkey.symm)
        simp [hkey, hnone]
      · simp [hkey]

theorem size_foldl_insert {α κ ν : Type} [DecidableEq κ] [Hashable κ] {key : α → κ}
    {value : α → ν} {rows : List α} (hkeys : (rows.map key).Nodup) :
    (rows.foldl (fun table row => table.insert (key row) (value row))
      (∅ : Std.HashMap κ ν)).size = rows.length := by
  induction rows using List.reverseRecOn with
  | nil => simp
  | append_singleton rows row ih =>
      rw [List.map_append, List.nodup_append] at hkeys
      have hnew : key row ∉ rows.foldl (fun table row => table.insert (key row) (value row))
          (∅ : Std.HashMap κ ν) := by
        rw [← Std.HashMap.isSome_getElem?_iff_mem, getElem?_foldl_insert hkeys.1]
        simp only [Option.isSome_map, List.find?_isSome, not_exists, not_and]
        intro other hother hsame
        exact hkeys.2.2 (key other) (List.mem_map_of_mem hother) (key row) (by simp)
          (of_decide_eq_true hsame)
      rw [List.foldl_append, List.foldl_cons, List.foldl_nil, Std.HashMap.size_insert,
        if_neg hnew, ih hkeys.1]
      simp

/-- The tables of both directions. -/
structure TagTables where
  ids : Std.HashMap String TagId := ∅
  names : Std.HashMap TagId String := ∅

namespace TagTables

def enter (tables : TagTables) (row : Tag) : TagTables where
  names := tables.names.insert row.id row.name
  ids := tables.ids.insert row.name row.id

def ofTags (rows : List Tag) : TagTables :=
  rows.foldl enter {}

theorem ids_ofTags (rows : List Tag) :
    (ofTags rows).ids = rows.foldl (fun table row => table.insert row.name row.id) ∅ := by
  unfold ofTags
  exact (List.foldl_hom TagTables.ids fun _ _ => rfl).symm

theorem names_ofTags (rows : List Tag) :
    (ofTags rows).names = rows.foldl (fun table row => table.insert row.id row.name) ∅ := by
  unfold ofTags
  exact (List.foldl_hom TagTables.names fun _ _ => rfl).symm

/-- The tables answer what a directory answers. -/
structure Agrees (tables : TagTables) (names : TagNames) : Prop where
  id? : ∀ name, tables.ids[name]? = names.id? name
  name? : ∀ id, tables.names[id]? = names.name? id
  count : tables.ids.size = names.count

/-- In whatever order the rows come in. -/
theorem agrees_ofTags {rows entered : List Tag} (h : KeyedTags rows) (hperm : entered.Perm rows)
    {names : TagNames} (hmirrors : names.Mirrors rows) : (ofTags entered).Agrees names := by
  have hkeyed : KeyedTags entered := h.perm hperm.symm
  have hentered : names.Mirrors entered := hmirrors.perm hperm.symm
  refine ⟨?_, ?_, ?_⟩
  · intro name
    ext id
    rw [ids_ofTags, getElem?_foldl_insert hkeyed.names, hentered.id?_iff]
    simp only [Option.map_eq_some_iff, find?_eq_some_iff_of_nodup hkeyed.names, and_assoc]
  · intro id
    ext name
    rw [names_ofTags, getElem?_foldl_insert hkeyed.ids, hentered.name?_iff]
    simp only [Option.map_eq_some_iff, find?_eq_some_iff_of_nodup hkeyed.ids, and_assoc]
  · rw [ids_ofTags, size_foldl_insert hkeyed.names, hentered.count]

end TagTables

/-! ## Readings -/

namespace Directory

theorem load_of_readable {store : Store} (hreadable : Relation.tags ∉ store.missing) :
    load store = .ok store.names := by
  simp [load, Store.tagRows, Store.require, hreadable, Store.names, bind, Except.bind, pure,
    Except.pure]

theorem load_of_unreadable {store : Store} (hunreadable : Relation.tags ∈ store.missing) :
    load store = .error .refused := by
  simp [load, Store.tagRows, Store.require, hunreadable, bind, Except.bind]

theorem reload_of_readable {store : Store} (hreadable : Relation.tags ∉ store.missing)
    (directory : Directory) :
    directory.reload store = (.ok store.names.count, ⟨some store.names⟩) := by
  rw [reload, load_of_readable hreadable]

theorem reload_of_unreadable {store : Store} (hunreadable : Relation.tags ∈ store.missing)
    (directory : Directory) : directory.reload store = (.error .refused, directory) := by
  rw [reload, load_of_unreadable hunreadable]

theorem reload_reload (store : Store) (directory : Directory) :
    ((directory.reload store).2.reload store).2 = (directory.reload store).2 := by
  by_cases hreadable : Relation.tags ∈ store.missing
  · simp only [reload_of_unreadable hreadable]
  · simp only [reload_of_readable hreadable]

theorem names_of_current {directory : Directory} {names : TagNames}
    (hcurrent : directory.current = some names) (store : Store) :
    directory.names store = (names, directory) := by
  rw [Directory.names, hcurrent]

/-- What becomes of a directory that is used: it stays, or it is filled if it was empty and
the relation can be read. -/
inductive Kept (store : Store) (directory : Directory) : Directory → Prop
  | same : Kept store directory directory
  | filled (hempty : directory.current = none) (hreadable : Relation.tags ∉ store.missing) :
      Kept store directory ⟨some store.names⟩

theorem Kept.names {store : Store} {before after : Directory} (h : Kept store before after) :
    Kept store before (after.names store).2 := by
  cases h with
  | filled hempty hreadable => exact .filled hempty hreadable
  | same =>
      unfold Directory.names
      cases hcurrent : before.current with
      | some names => exact .same
      | none =>
          by_cases hreadable : Relation.tags ∈ store.missing
          · rw [load_of_unreadable hreadable]
            exact .same
          · rw [load_of_readable hreadable]
            exact .filled hcurrent hreadable

end Directory

section

variable {α : Type} [Scalar α]

theorem Caches.directory_keptByReads (config : Config) (store : Store) (directory : Directory) :
    KeptByReads config store
      (fun caches : Caches α => Directory.Kept store directory caches.directory) where
  names h := h.names
  weightFor h tag := by
    unfold Caches.weightFor
    dsimp only
    split <;> exact h.names
  prime h := by
    unfold Caches.prime
    split
    · exact h
    · exact h.names
  answers h _ _ := h

end

namespace Catalog

variable {α : Type}

theorem invalidate_directory (store : Store) (cache : CacheName) (caches : Caches α) :
    (invalidate store cache caches).2.directory =
      if cache = .directory then (caches.directory.reload store).2 else caches.directory := by
  cases cache with
  | directory =>
      unfold invalidate
      cases hreload : caches.directory.reload store with
      | mk result after => cases result <;> rfl
  | weights | related | stats => rfl

/-- A notice has the directory read again if the directory is on the bus. -/
theorem announce_directory (catalog : Catalog α) (store : Store) :
    (catalog.announce store).2.caches.directory =
      if .directory ∈ catalog.bus.listeners then (catalog.caches.directory.reload store).2
      else catalog.caches.directory := by
  have htold : ∀ (listeners : List CacheName) (report : TriggerReport) (caches : Caches α),
      (listeners.foldl (Bus.tell CacheName.label (invalidate store)) (report, caches)).2.directory =
        if .directory ∈ listeners then (caches.directory.reload store).2 else caches.directory := by
    intro listeners
    induction listeners with
    | nil => simp
    | cons cache rest ih =>
        intro report caches
        rw [List.foldl_cons, Bus.tell, ih, invalidate_directory]
        by_cases hcache : cache = .directory
        · simp [hcache, Directory.reload_reload]
        · simp [hcache, Ne.symm hcache]
  exact htold catalog.bus.listeners {} catalog.caches

end Catalog

end Gallery
