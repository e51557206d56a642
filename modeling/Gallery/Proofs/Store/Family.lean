import Gallery.Proofs.Store.Consistent
import Gallery.Proofs.Store.Replay

/-!
# Parents and the flags of parents

A record gives its parent by a path.  The number of the parent is written to the item of
the record, where a later record may write another one, and the item of the parent is
flagged, which nothing takes back.  So an item is the child of what its last record with
a parent names, while every item is flagged that any record ever named.
-/

namespace Gallery

namespace Store

variable {store next : Store} {records : List ItemRecord} {record : ItemRecord} {id : ItemId}

/-- The path that the last record of a path with a parent gives for it. -/
def lastParent? (records : List ItemRecord) (path : String) : Option String :=
  records.foldl
    (fun last? record => if record.filepath = path then record.parent <|> last? else last?) none

theorem lastParent?_concat (records : List ItemRecord) (record : ItemRecord) (path : String) :
    lastParent? (records ++ [record]) path =
      if record.filepath = path then record.parent <|> lastParent? records path
      else lastParent? records path := by
  simp [lastParent?]

theorem exists_of_lastParent? {path parent : String}
    (hlast : lastParent? records path = some parent) :
    ∃ record ∈ records, record.filepath = path ∧ record.parent = some parent := by
  induction records using List.reverseRecOn with
  | nil => simp [lastParent?] at hlast
  | append_singleton records record ih =>
      have hearlier (hbefore : lastParent? records path = some parent) :
          ∃ other ∈ records ++ [record],
            other.filepath = path ∧ other.parent = some parent := by
        obtain ⟨other, hother, hfound⟩ := ih hbefore
        exact ⟨other, List.mem_append_left _ hother, hfound⟩
      rw [lastParent?_concat] at hlast
      by_cases hpath : record.filepath = path
      · rw [if_pos hpath] at hlast
        cases hparent : record.parent with
        | none =>
            rw [hparent] at hlast
            exact hearlier hlast
        | some named =>
            rw [hparent] at hlast
            exact ⟨record, by simp, hpath, hparent.trans hlast⟩
      · rw [if_neg hpath] at hlast
        exact hearlier hlast

/-- The parents and the flags of a store are those that some records have made. -/
structure Family (store : Store) (records : List ItemRecord) : Prop where
  placed : ∀ record ∈ records, (store.idAt? record.filepath).isSome
  named : ∀ record ∈ records, ∀ path ∈ record.parent, (store.idAt? path).isSome
  parent : ∀ item ∈ store.items,
    item.parent = (lastParent? records item.filepath).bind store.idAt?
  flagged : ∀ item ∈ store.items,
    item.hasChildren = true ↔ ∃ record ∈ records, record.parent = some item.filepath

theorem family_empty : Family {} [] := by
  refine ⟨?_, ?_, ?_, ?_⟩ <;> simp

theorem Sound.idAt?_eq_some_iff (h : store.Sound) {item : StoredItem}
    (hitem : item ∈ store.items) {path : String} :
    store.idAt? path = some item.id ↔ path = item.filepath := by
  constructor
  · intro hid
    obtain ⟨other, hother, hsame⟩ := Option.map_eq_some_iff.1 hid
    obtain ⟨hmem, rfl⟩ := h.itemAt?_eq_some_iff.1 hother
    rw [h.item_eq_of_id hmem hitem hsame]
  · rintro rfl
    simp [idAt?, h.itemAt?_eq_some_iff.2 ⟨hitem, rfl⟩]

/-! ## Records -/

theorem Sound.welcomed (h : store.Sound) (record : ItemRecord) :
    (store.welcomed record).Sound := by
  have hplaced := h.placed record
  unfold Store.placed at hplaced
  unfold Store.welcomed
  cases hitem : store.itemAt? record.filepath with
  | some item => exact h
  | none =>
      rw [hitem] at hplaced
      exact hplaced

theorem idAt?_welcomed_of_isSome {path : String} (hpath : (store.idAt? path).isSome)
    (record : ItemRecord) : (store.welcomed record).idAt? path = store.idAt? path := by
  obtain ⟨id, hid⟩ := Option.isSome_iff_exists.1 hpath
  rw [idAt?_welcomed hid record, hid]

theorem Family.unheard_of_absent (h : store.Family records) {path : String}
    (habsent : store.itemAt? path = none) (hrecord : record ∈ records) :
    record.filepath ≠ path ∧ record.parent ≠ some path := by
  constructor
  · rintro rfl
    have hplaced := h.placed record hrecord
    simp [idAt?, habsent] at hplaced
  · intro hparent
    have hnamed := h.named record hrecord path hparent
    simp [idAt?, habsent] at hnamed

/-- Nobody has spoken of the path of a new item. -/
theorem Family.welcomed (h : store.Family records) (record : ItemRecord) :
    (store.welcomed record).Family records := by
  cases hitem : store.itemAt? record.filepath with
  | some item => simpa [Store.welcomed, hitem] using h
  | none =>
      have hitems : (store.welcomed record).items =
          store.items ++ [newItem (nextId (store.items.map (·.id))) record] := by
        simp [Store.welcomed, hitem]
      refine ⟨?_, ?_, ?_, ?_⟩
      · intro other hother
        rw [idAt?_welcomed_of_isSome (h.placed other hother)]
        exact h.placed other hother
      · intro other hother path hpath
        rw [idAt?_welcomed_of_isSome (h.named other hother path hpath)]
        exact h.named other hother path hpath
      · intro item hmem
        rw [hitems] at hmem
        rcases List.mem_append.1 hmem with hold | hnew
        · rw [h.parent item hold]
          cases hlast : lastParent? records item.filepath with
          | none => rfl
          | some path =>
              obtain ⟨other, hother, -, hparent⟩ := exists_of_lastParent? hlast
              exact (idAt?_welcomed_of_isSome (h.named other hother path hparent) record).symm
        · rcases List.mem_singleton.1 hnew with rfl
          cases hlast : lastParent? records record.filepath with
          | none => simp [newItem, hlast]
          | some path =>
              obtain ⟨other, hother, hsame, -⟩ := exists_of_lastParent? hlast
              exact absurd hsame (h.unheard_of_absent hitem hother).1
      · intro item hmem
        rw [hitems] at hmem
        rcases List.mem_append.1 hmem with hold | hnew
        · exact h.flagged item hold
        · rcases List.mem_singleton.1 hnew with rfl
          have hunnamed : ∀ other ∈ records, other.parent ≠ some record.filepath :=
            fun other hother => (h.unheard_of_absent hitem hother).2
          simpa [newItem] using hunnamed

theorem rowAfter_parent (parent? : Option ItemId) (texts : CategoryTags) (item : StoredItem) :
    (rowAfter record id parent? texts item).parent =
      if item.id = id then parent? <|> item.parent else item.parent := by
  by_cases hown : item.id = id <;> simp [rowAfter, rewritten, hown]

theorem Family.recorded (h : store.Family records) (hsound : store.Sound)
    (hid : store.idAt? record.filepath = some id)
    (hparents : ∀ path ∈ record.parent, (store.idAt? path).isSome) :
    (store.recorded id record).Family (records ++ [record]) := by
  have hids := idAt?_recorded store id record
  refine ⟨?_, ?_, ?_, ?_⟩
  · intro other hother
    rw [hids]
    rcases List.mem_append.1 hother with hold | hnew
    · exact h.placed other hold
    · rcases List.mem_singleton.1 hnew with rfl
      simp [hid]
  · intro other hother
    rw [hids]
    rcases List.mem_append.1 hother with hold | hnew
    · exact h.named other hold
    · rcases List.mem_singleton.1 hnew with rfl
      exact hparents
  · intro item hitem
    rw [items_recorded] at hitem
    obtain ⟨old, hold, rfl⟩ := List.mem_map.1 hitem
    have hown : old.id = id ↔ record.filepath = old.filepath := by
      rw [← hsound.idAt?_eq_some_iff hold, hid, Option.some.injEq, eq_comm]
    rw [rowAfter_parent, rowAfter_filepath, lastParent?_concat, hids]
    simp only [hown]
    split
    · cases hparent : record.parent with
      | none =>
          simpa [parentId?, hparent] using h.parent old hold
      | some path =>
          obtain ⟨parent, hknown⟩ := Option.isSome_iff_exists.1 (hparents path hparent)
          simp [parentId?, hparent, hknown]
    · exact h.parent old hold
  · intro item hitem
    rw [items_recorded] at hitem
    obtain ⟨old, hold, rfl⟩ := List.mem_map.1 hitem
    have hnames : store.parentId? record = some old.id ↔ record.parent = some old.filepath := by
      unfold parentId?
      cases record.parent with
      | none => simp
      | some path => simp [hsound.idAt?_eq_some_iff hold]
    rw [rowAfter_filepath]
    simp only [rowAfter, Bool.or_eq_true, decide_eq_true_eq, h.flagged old hold, hnames]
    simp only [List.mem_append, List.mem_singleton]
    constructor
    · rintro (⟨other, hother, hparent⟩ | hparent)
      · exact ⟨other, .inl hother, hparent⟩
      · exact ⟨record, .inr rfl, hparent⟩
    · rintro ⟨other, hother | rfl, hparent⟩
      · exact .inl ⟨other, hother, hparent⟩
      · exact .inr hparent

theorem Family.foldlM_storeRecord {batch : List ItemRecord} (h : store.Family records)
    (hconsistent : store.Consistent) (hvalid : ∀ record ∈ batch, record.fault? = none)
    (hnext : batch.foldlM storeRecord store = .ok next) : next.Family (records ++ batch) := by
  induction batch generalizing store records with
  | nil =>
      cases hnext
      rwa [List.append_nil]
  | cons record batch ih =>
      rw [List.foldlM_cons] at hnext
      obtain ⟨middle, hmiddle, hrest⟩ := ok_of_bind hnext
      have hthen := hconsistent.storeRecord (hvalid record List.mem_cons_self) hmiddle
      obtain ⟨id, hid, hparents, rfl⟩ :=
        storeRecord_eq_recorded hconsistent.sound.healthy hmiddle
      have hmore := (h.welcomed record).recorded (hconsistent.sound.welcomed record) hid hparents
      rw [← List.singleton_append, ← List.append_assoc]
      exact ih hmore hthen (fun later hlater => hvalid later (List.mem_cons_of_mem _ hlater)) hrest

/-! ## Changes that name no parent -/

theorem Family.of_map (h : store.Family records) {change : StoredItem → StoredItem}
    (hid : ∀ item, (change item).id = item.id)
    (hpath : ∀ item, (change item).filepath = item.filepath)
    (hparent : ∀ item, (change item).parent = item.parent)
    (hflag : ∀ item, (change item).hasChildren = item.hasChildren)
    (hitems : next.items = store.items.map change) : next.Family records := by
  have hids : next.idAt? = store.idAt? := idAt?_map_items hid hpath hitems
  refine ⟨?_, ?_, ?_, ?_⟩
  · simpa only [hids] using h.placed
  · simpa only [hids] using h.named
  · intro item hitem
    rw [hitems] at hitem
    obtain ⟨old, hold, rfl⟩ := List.mem_map.1 hitem
    rw [hparent, hpath, hids]
    exact h.parent old hold
  · intro item hitem
    rw [hitems] at hitem
    obtain ⟨old, hold, rfl⟩ := List.mem_map.1 hitem
    rw [hflag, hpath]
    exact h.flagged old hold

theorem Family.of_items (h : store.Family records) (hitems : next.items = store.items) :
    next.Family records :=
  h.of_map (fun _ => rfl) (fun _ => rfl) (fun _ => rfl) (fun _ => rfl)
    (hitems.trans (List.map_id store.items).symm)

theorem Family.refreshed (h : store.Family records) (id : ItemId) :
    (store.refreshed id).Family records := by
  have hitems : (store.refreshed id).items = store.items.map fun item =>
      if item.id = id then { item with tags := store.attachedTexts id } else item := rfl
  refine h.of_map ?_ ?_ ?_ ?_ hitems
  all_goals
    intro item
    split <;> rfl

theorem Family.refreshed_foldl (h : store.Family records) (ids : List ItemId) :
    (ids.foldl Store.refreshed store).Family records :=
  List.foldlRecOn (motive := fun s : Store => s.Family records) ids _ h
    fun _ hstore id _ => hstore.refreshed id

/-! ## Children -/

/-- An item has a child if it is what the last record of some path with a parent names. -/
theorem Family.exists_child_iff (h : store.Family records) (hsound : store.Sound)
    {item : StoredItem} (hitem : item ∈ store.items) :
    (∃ child ∈ store.items, child.parent = some item.id) ↔
      ∃ record ∈ records, lastParent? records record.filepath = some item.filepath := by
  constructor
  · rintro ⟨child, hchild, hparent⟩
    rw [h.parent child hchild, Option.bind_eq_some_iff] at hparent
    obtain ⟨path, hlast, hid⟩ := hparent
    obtain rfl := (hsound.idAt?_eq_some_iff hitem).1 hid
    obtain ⟨record, hrecord, hpath, -⟩ := exists_of_lastParent? hlast
    exact ⟨record, hrecord, hpath ▸ hlast⟩
  · rintro ⟨record, hrecord, hlast⟩
    obtain ⟨id, hid⟩ := Option.isSome_iff_exists.1 (h.placed record hrecord)
    obtain ⟨child, hchild, -⟩ := Option.map_eq_some_iff.1 hid
    obtain ⟨hmem, hpath⟩ := mem_of_itemAt? hchild
    refine ⟨child, hmem, ?_⟩
    rw [h.parent child hmem, hpath, hlast]
    exact (hsound.idAt?_eq_some_iff hitem).2 rfl

end Store

end Gallery
