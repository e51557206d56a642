import Gallery.Proofs.Search.Reference

/-!
# In what order items are found

The store sorts by a facet and then by number.  The filter sorts what came by number,
and as its sort is stable it leaves the lower number first where a key does not tell two
items apart.  So does the store for every key but the newest, where the higher number
comes first.

Both orders tell all items of a store apart, so they determine the list of what is
found, and leaving items out does not rearrange the others.
-/

namespace Gallery

/-! ## Orders that go on by number -/

theorem facetLe_total (a b : Option Int) : (facetLe a b || facetLe b a) = true := by
  cases a <;> cases b <;> simp [facetLe]
  omega

theorem facetLe_trans {a b c : Option Int}
    (hab : facetLe a b = true) (hbc : facetLe b c = true) : facetLe a c = true := by
  cases a <;> cases b <;> cases c <;> simp_all [facetLe]
  omega

theorem facetLe_antisymm {a b : Option Int}
    (hab : facetLe a b = true) (hba : facetLe b a = true) : a = b := by
  cases a <;> cases b <;> simp_all [facetLe]
  omega

namespace OrderKey

theorem le_total (key : OrderKey) (a b : Item) : (key.le a b || key.le b a) = true := by
  cases key <;> simp only [le, facetLe_total, Bool.or_true]

theorem le_trans {key : OrderKey} {a b c : Item}
    (hab : key.le a b = true) (hbc : key.le b c = true) : key.le a c = true := by
  cases key with
  | newest | score | favorites => exact facetLe_trans hbc hab
  | oldest => exact facetLe_trans hab hbc
  | random => rfl

/-- By a key, and by the number where the key does not tell two items apart. -/
def thenNumber (key : OrderKey) (a b : Item) : Bool :=
  key.le a b && (!key.le b a || a.id ≤ b.id)

def thenNumberDown (key : OrderKey) (a b : Item) : Bool :=
  key.le a b && (!key.le b a || b.id ≤ a.id)

theorem scanLe_some (key : OrderKey) :
    scanLe (some key) = if key = newest then key.thenNumberDown else key.thenNumber := by
  funext a b
  cases key <;> simp [scanLe, thenNumber, thenNumberDown, le]

end OrderKey

theorem scanLe_total (key : Option OrderKey) (a b : Item) :
    (scanLe key a b || scanLe key b a) = true := by
  cases key with
  | none =>
      simp only [scanLe, Bool.or_eq_true, decide_eq_true_eq]
      exact Int.le_total a.id b.id
  | some key =>
      have htotal := key.le_total a b
      rw [OrderKey.scanLe_some]
      split <;> grind [OrderKey.thenNumber, OrderKey.thenNumberDown]

/-- A tie of the outer two comes from ties with the middle one. -/
theorem scanLe_trans {key : Option OrderKey} {a b c : Item}
    (hab : scanLe key a b = true) (hbc : scanLe key b c = true) : scanLe key a c = true := by
  cases key with
  | none =>
      simp only [scanLe, decide_eq_true_eq] at *
      exact Int.le_trans hab hbc
  | some key =>
      have hforth := @OrderKey.le_trans key a b c
      have hfirst := @OrderKey.le_trans key b c a
      have hsecond := @OrderKey.le_trans key c a b
      rw [OrderKey.scanLe_some] at *
      split <;> grind [OrderKey.thenNumber, OrderKey.thenNumberDown]

theorem id_eq_of_scanLe {key : Option OrderKey} {a b : Item}
    (hab : scanLe key a b = true) (hba : scanLe key b a = true) : a.id = b.id := by
  cases key with
  | none =>
      simp only [scanLe, decide_eq_true_eq] at *
      exact Int.le_antisymm hab hba
  | some key =>
      rw [OrderKey.scanLe_some] at hab hba
      split at hab <;> grind [OrderKey.thenNumber, OrderKey.thenNumberDown]

theorem pairwise_scanSort (key : Option OrderKey) (items : List Item) :
    (scanSort key items).Pairwise fun a b => scanLe key a b = true :=
  @List.pairwise_mergeSort _ (scanLe key) (fun _ _ _ => scanLe_trans) (scanLe_total key) items

/-! ## Stable sorting -/

section Pairs

variable {β : Type} {list : List β} {a b : β}

theorem pair_sublist_or (ha : a ∈ list) (hb : b ∈ list) (hne : a ≠ b) :
    [a, b].Sublist list ∨ [b, a].Sublist list := by
  induction list with
  | nil => cases ha
  | cons head tail ih => grind

theorem not_pair_sublist_swap (hnodup : list.Nodup) (hpair : [a, b].Sublist list) :
    ¬[b, a].Sublist list := by
  induction list with
  | nil => cases hpair
  | cons head tail ih => grind

end Pairs

namespace OrderKey

/-- Sorting by a key what stands by number leaves it by key and number, as a stable sort
keeps in place what the key does not tell apart. -/
theorem pairwise_sort
    {key : OrderKey} {items : List Item} (hnodup : items.Nodup)
    (hnumbers : items.Pairwise fun a b => a.id ≤ b.id) :
    (key.sort items).Pairwise fun a b => key.thenNumber a b = true := by
  have hperm : (key.sort items).Perm items := List.mergeSort_perm _ _
  have hsorted : (key.sort items).Nodup := hperm.nodup_iff.2 hnodup
  have hkeys : (key.sort items).Pairwise fun a b => key.le a b = true :=
    @List.pairwise_mergeSort _ key.le (fun _ _ _ => le_trans) key.le_total items
  rw [List.pairwise_iff_forall_sublist] at hkeys hnumbers ⊢
  intro a b hpair
  have ha : a ∈ items := hperm.mem_iff.1 (hpair.subset (by simp))
  have hb : b ∈ items := hperm.mem_iff.1 (hpair.subset (by simp))
  simp only [thenNumber, Bool.and_eq_true, Bool.or_eq_true, Bool.not_eq_true',
    decide_eq_true_eq]
  refine ⟨hkeys hpair, ?_⟩
  obtain hkept | hswapped := pair_sublist_or ha hb (hsorted.forall_sublist hpair)
  · exact Or.inr (hnumbers hkept)
  · left
    by_contra htied
    have hback : [b, a].Sublist (key.sort items) :=
      @List.pair_sublist_mergeSort _ key.le b a items (fun _ _ _ => le_trans) key.le_total
        (by simpa using htied) hswapped
    exact not_pair_sublist_swap hsorted hpair hback

end OrderKey

/-! ## Sorting by insertion

Merging recurses on lengths and does not evaluate in proofs; insertion does, and it keeps
what an order does not tell apart in the same places. -/

section Insertion

variable {β : Type} {le : β → β → Bool}

theorem orderedInsert_between
    {a : β} {before after : List β} (hbefore : ∀ b ∈ before, le a b = false)
    (hafter : ∀ b ∈ after, le a b = true) :
    (before ++ after).orderedInsert (le · ·) a = before ++ a :: after := by
  induction before with
  | nil =>
      cases after with
      | nil => rfl
      | cons b after => exact List.orderedInsert_cons_of_le _ after (hafter b List.mem_cons_self)
  | cons b before ih =>
      have hb : ¬le a b = true := by simp [hbefore b List.mem_cons_self]
      have hrest := ih fun c hc => hbefore c (List.mem_cons_of_mem b hc)
      simp only [List.cons_append, List.orderedInsert_cons, if_neg hb, hrest]

theorem mergeSort_eq_insertionSort
    (le : β → β → Bool)
    (htrans : ∀ a b c, le a b = true → le b c = true → le a c = true)
    (htotal : ∀ a b, (le a b || le b a) = true) (list : List β) :
    list.mergeSort le = list.insertionSort (le · ·) := by
  induction list with
  | nil => simp
  | cons a list ih =>
      obtain ⟨before, after, hsort, hrest, hbefore⟩ := List.mergeSort_cons htrans htotal a list
      have hsorted := List.pairwise_mergeSort htrans htotal (a :: list)
      rw [hsort, List.pairwise_append, List.pairwise_cons] at hsorted
      rw [List.insertionSort_cons, ← ih, hrest, hsort]
      apply (orderedInsert_between _ hsorted.2.1.1).symm
      simpa using hbefore

end Insertion

theorem scanSort_eq_insertionSort (key : Option OrderKey) (items : List Item) :
    scanSort key items = items.insertionSort fun a b => scanLe key a b = true :=
  mergeSort_eq_insertionSort (scanLe key) (fun _ _ _ => scanLe_trans) (scanLe_total key) items

theorem OrderKey.sort_eq_insertionSort (key : OrderKey) (items : List Item) :
    key.sort items = items.insertionSort fun a b => key.le a b = true :=
  mergeSort_eq_insertionSort key.le (fun _ _ _ => le_trans) key.le_total items

theorem Store.names_eq_insertionSort (store : Store) :
    store.names = TagNames.ofTags (store.tags.insertionSort fun a b => a.id ≤ b.id) := by
  have htrans : ∀ a b c : Tag, decide (a.id ≤ b.id) = true → decide (b.id ≤ c.id) = true →
      decide (a.id ≤ c.id) = true := by
    simpa using fun a b c : Tag => Int.le_trans
  have htotal : ∀ a b : Tag, (decide (a.id ≤ b.id) || decide (b.id ≤ a.id)) = true := by
    simpa using fun a b : Tag => Int.le_total a.id b.id
  rw [names, mergeSort_eq_insertionSort _ htrans htotal]
  simp only [decide_eq_true_eq]

/-! ## Scans -/

namespace Store

variable {store : Store} {query : Query} {items : List Item}

def inOrder (store : Store) (key : OrderKey) : List Item :=
  scanSort (some key) (store.items.map StoredItem.view)

theorem mem_inOrder {key : OrderKey} {item : Item} :
    item ∈ store.inOrder key ↔ ∃ row ∈ store.items, row.view = item := by
  rw [inOrder, (scanSort_perm _ _).mem_iff, List.mem_map]

theorem nodup_inOrder (hids : (store.items.map (·.id)).Nodup) (key : OrderKey) :
    ((store.inOrder key).map (·.id)).Nodup :=
  nodup_ids_of_perm (scanSort_perm (some key) _) hids

/-- What is sorted like all items is what remains of them: sorted the same way, two lists
can differ only in items with one number. -/
theorem sublist_inOrder
    (hids : (store.items.map (·.id)).Nodup) {key : OrderKey} (hnodup : items.Nodup)
    (hstored : ∀ item ∈ items, ∃ row ∈ store.items, row.view = item)
    (hsorted : items.Pairwise fun a b => scanLe (some key) a b = true) :
    items.Sublist (store.inOrder key) := by
  have hall := nodup_inOrder hids key
  have hperm : items.Perm ((store.inOrder key).filter (· ∈ items)) := by
    rw [List.perm_ext_iff_of_nodup hnodup (hall.of_map.filter _)]
    intro item
    rw [List.mem_filter, decide_eq_true_eq, mem_inOrder]
    exact ⟨fun hitem => ⟨hstored item hitem, hitem⟩, fun hitem => hitem.2⟩
  have hsame : items = (store.inOrder key).filter (· ∈ items) := by
    refine List.Perm.eq_of_pairwise ?_ hsorted ((pairwise_scanSort _ _).filter _) hperm
    intro a b ha hb hab hba
    exact List.inj_on_of_nodup_map hall (mem_inOrder.2 (hstored a ha)) (List.mem_of_mem_filter hb)
      (id_eq_of_scanLe hab hba)
  rw [hsame]
  exact List.filter_sublist

/-- Of two items that were added at one time, the filter leaves the lower number first,
and the store the higher one. -/
theorem pair_inOrder_newest
    (hids : (store.items.map (·.id)).Nodup) {a b : Item}
    (ha : a ∈ store.inOrder .newest) (hb : b ∈ store.inOrder .newest) (hne : a ≠ b)
    (hnumber : OrderKey.newest.thenNumber a b = true) :
    if a.ingestedAt = b.ingestedAt then [b, a].Sublist (store.inOrder .newest)
    else [a, b].Sublist (store.inOrder .newest) := by
  have hsorted := pairwise_scanSort (some .newest) (store.items.map StoredItem.view)
  rw [List.pairwise_iff_forall_sublist] at hsorted
  simp only [OrderKey.thenNumber, OrderKey.le, Bool.and_eq_true, Bool.or_eq_true,
    Bool.not_eq_true', decide_eq_true_eq] at hnumber
  obtain hforth | hback := pair_sublist_or ha hb hne
  · rw [if_neg]
    · exact hforth
    · intro htied
      have hscan : scanLe (some .newest) a b = true := hsorted hforth
      simp only [scanLe, Bool.and_eq_true, Bool.or_eq_true, Bool.not_eq_true',
        decide_eq_true_eq] at hscan
      rw [htied] at hscan hnumber
      have hup : a.id ≤ b.id := hnumber.2.resolve_left (by simp [hnumber.1])
      have hdown : b.id ≤ a.id := hscan.2.resolve_left (by simp [hscan.1])
      exact hne (List.inj_on_of_nodup_map (nodup_inOrder hids .newest) ha hb
        (Int.le_antisymm hup hdown))
  · rw [if_pos]
    · exact hback
    · have hscan : scanLe (some .newest) b a = true := hsorted hback
      rw [OrderKey.scanLe_some, if_pos rfl, OrderKey.thenNumberDown, Bool.and_eq_true] at hscan
      exact facetLe_antisymm hscan.1 hnumber.1

end Store

/-! ## Routes -/

namespace Search

/-- The order in which a route finds items for a key. -/
def foundLe (route : Route) (key : OrderKey) : Item → Item → Bool :=
  match route with
  | .simpleOrder | .simpleFilter => scanLe (some key)
  | .exactTag | .fallback | .hybrid => key.thenNumber

variable {store : Store} {query : Query} {key : OrderKey}

theorem pairwise_refine
    (hhealthy : store.Healthy) {structural : Bool} {candidates refined : List Item}
    {le : Item → Item → Bool} (hcandidates : candidates.Pairwise fun a b => le a b = true)
    (hrefine : refine store query structural candidates = .ok refined) :
    refined.Pairwise fun a b => le a b = true := by
  rw [refine_of_healthy hhealthy] at hrefine
  cases hrefine
  exact hcandidates.filter _

theorem pairwise_sorted
    (horder : query.order = some key) {items : List Item} (hnodup : (sorted query items).Nodup)
    (hnumbers : items.Pairwise fun a b => scanLe none a b = true) :
    (sorted query items).Pairwise fun a b => key.thenNumber a b = true := by
  rw [(sorted_perm query items).nodup_iff] at hnodup
  unfold sorted
  rw [horder]
  apply OrderKey.pairwise_sort hnodup
  simpa only [scanLe, decide_eq_true_eq] using hnumbers

/-- How items stand that were found without the text index: as the store sorted them, or
as the filter sorts what the store gave it by number. -/
inductive Arranged (query : Query) : Route → List Item → Prop
  | byStore {route : Route} {items : List Item}
      (route_eq : route = .simpleOrder ∨ route = .simpleFilter)
      (pairwise : items.Pairwise fun a b => scanLe query.order a b = true) :
      Arranged query route items
  | byFilter {route : Route} {items : List Item}
      (route_eq : route = .exactTag ∨ route = .fallback)
      (pairwise : items.Pairwise fun a b => scanLe none a b = true) :
      Arranged query route (sorted query items)

theorem arranged_run
    (hhealthy : store.Healthy) {route : Route} (hroute : route ≠ .hybrid) {exact : List Bool}
    {included excluded : List TagId} {items : List Item}
    (hrun : run store query route exact included excluded = .ok items) :
    Arranged query route items := by
  cases route with
  | simpleOrder =>
      rw [Store.scanOrdered_ok hrun]
      exact .byStore (Or.inl rfl) (pairwise_scanSort query.order _)
  | simpleFilter =>
      obtain ⟨candidates, hscan, hrefine⟩ := ok_of_bind hrun
      rw [Store.scanFiltered_ok hhealthy hscan] at hrefine
      exact .byStore (Or.inr rfl) (pairwise_refine hhealthy (pairwise_scanSort query.order _) hrefine)
  | exactTag =>
      obtain ⟨candidates, hscan, hrest⟩ := ok_of_bind hrun
      obtain ⟨refined, hrefine, hsorted⟩ := ok_of_bind hrest
      cases hsorted
      rw [Store.withTags_ok hhealthy hscan] at hrefine
      exact .byFilter (Or.inl rfl) (pairwise_refine hhealthy (pairwise_scanSort none _) hrefine)
  | fallback =>
      obtain ⟨candidates, hscan, hrest⟩ := ok_of_bind hrun
      obtain ⟨refined, hrefine, hsorted⟩ := ok_of_bind hrest
      cases hsorted
      rw [Store.scanOrdered_ok hscan] at hrefine
      exact .byFilter (Or.inr rfl) (pairwise_refine hhealthy (pairwise_scanSort none _) hrefine)
  | hybrid => exact absurd rfl hroute

theorem pairwise_run
    (hhealthy : store.Healthy) (horder : query.order = some key) {route : Route}
    (hroute : route ≠ .hybrid) {exact : List Bool} {included excluded : List TagId}
    {items : List Item} (hnodup : items.Nodup)
    (hrun : run store query route exact included excluded = .ok items) :
    items.Pairwise fun a b => foundLe route key a b = true := by
  cases arranged_run hhealthy hroute hrun with
  | byStore hstore hitems =>
      rw [horder] at hitems
      obtain rfl | rfl := hstore <;> exact hitems
  | byFilter hfilter hitems =>
      have hsorted := pairwise_sorted horder hnodup hitems
      obtain rfl | rfl := hfilter <;> exact hsorted

/-- Only for the newest key do the routes differ in what comes first. -/
theorem foundLe_eq_scanLe
    {route : Route} (h : key ≠ .newest ∨ route = .simpleOrder ∨ route = .simpleFilter) :
    foundLe route key = scanLe (some key) := by
  obtain hkey | rfl | rfl := h
  · rw [OrderKey.scanLe_some, if_neg hkey]
    cases route <;> simp only [foundLe, OrderKey.scanLe_some, if_neg hkey]
  · rfl
  · rfl

/-- What a search finds without the text index, in the order of its route. -/
theorem exists_items_of_answer
    (h : store.Sound) (horder : query.order = some key) {names : TagNames}
    (hroute : routeOf names query ≠ .hybrid) :
    ∃ items : List Item,
      (answer store names query).hits = items.map Item.hit ∧ items.Nodup ∧
        (∀ item ∈ items, ∃ row ∈ store.items, row.view = item) ∧
        items.Pairwise fun a b => foundLe (routeOf names query) key a b = true := by
  rw [answer_eq]
  cases hrun : outcome store names query with
  | error fault => exact ⟨[], rfl, .nil, by simp, .nil⟩
  | ok items =>
      have hperm := run_ok_of_ne_hybrid h.healthy hroute hrun
      have hnodup : items.Nodup :=
        (Store.nodup_ids_of_perm hperm
          (h.itemIds.sublist (List.filter_sublist.map _))).of_map
      refine ⟨items, rfl, hnodup, ?_, pairwise_run h.healthy horder hroute hnodup hrun⟩
      intro item hitem
      obtain ⟨row, hrow, hview⟩ := List.mem_map.1 (hperm.mem_iff.1 hitem)
      exact ⟨row, List.mem_of_mem_filter hrow, hview⟩

theorem hits_answer_order (hhealthy : store.Healthy) (names : TagNames) (key : OrderKey) :
    (answer store names { order := some key }).hits = (store.inOrder key).map Item.hit := by
  have hscan : store.scanOrdered (some key) = .ok (store.inOrder key) := by
    rw [Store.scanOrdered, Store.require_of_healthy hhealthy]
    rfl
  have hrun : outcome store names { order := some key } = .ok (store.inOrder key) := hscan
  rw [answer_eq, hrun]
  rfl

end Search

end Gallery
