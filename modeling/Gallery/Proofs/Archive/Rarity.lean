import Gallery.Proofs.Archive.Weights
import Gallery.Proofs.Weight.Measure
import Gallery.Proofs.Weight.Rarity

/-!
# Positive weights

Weights that are remembered are positive, whatever a catalog was asked and whatever became
of the store, since nothing but computed weights is remembered.  So no score divides by
nothing, and a text with tags is wholly like itself.  A catalog that knows of every change
weighs a tag by the items that have it now, and the more of them there are the less.
-/

namespace Gallery

/-! ## Tags of a store -/

namespace Store

/-- A tag that no item has is not counted, which makes its frequency zero. -/
theorem frequency_weightSnapshot (store : Store) (id : TagId) :
    store.weightSnapshot.frequency id = store.frequency id := by
  simp only [WeightSnapshot.frequency, weightSnapshot, List.find?_map, Option.map_map]
  cases hfound : (distinct (store.attachments.map (·.tag))).find? (· = id) with
  | some counted =>
      have hsame : counted = id := by simpa using List.find?_some hfound
      simp [Function.comp_def, hfound, hsame]
  | none =>
      have hnone : ∀ a ∈ store.attachments, a.tag ≠ id := by
        intro a ha
        have hmiss := List.find?_eq_none.1 hfound a.tag
          (mem_distinct.2 (List.mem_map_of_mem ha))
        simpa using hmiss
      have hcarriers : store.attachments.filter (·.tag = id) = [] := by
        simpa [List.filter_eq_nil_iff] using hnone
      simp [Function.comp_def, hfound, frequency, carriers, hcarriers]

section Stored

variable {α : Type} [Scalar α] {store : Store} {tag : Tag}

theorem Sound.factor_weightSnapshot (h : store.Sound) (htag : tag ∈ store.tags)
    (options : WeightOptions) :
    (store.weightSnapshot.factor options tag.id : α) =
      categoryWeight tag.category tag.subcategory options.useSubcategories := by
  have hids : ((store.tags.mergeSort fun a b => a.id ≤ b.id).map (·.id)).Nodup :=
    ((List.mergeSort_perm _ _).map _).nodup_iff.2 h.tagIds
  have hfound : store.weightSnapshot.tags.find? (·.id = tag.id) = some tag :=
    (find?_eq_some_iff_of_nodup hids).2 ⟨List.mem_mergeSort.2 htag, rfl⟩
  rw [WeightSnapshot.factor, hfound]

theorem Sound.weightOf_eq (h : store.Sound) (htag : tag ∈ store.tags) (config : Config) :
    (store.weightOf config tag.name : α) =
      store.weightSnapshot.weight (Caches.options config) tag.id := by
  have hid : store.names.id? tag.name = some tag.id :=
    h.id?_eq_some_iff.2 ⟨tag, htag, rfl, rfl⟩
  rw [weightOf, hid]

end Stored

theorem Sound.weightOf_le_weightOf {α : Type} [Field α] [LinearOrder α] [Scalar α]
    [Scalar.Exact α] {store : Store} {tag other : Tag} (h : store.Sound)
    (htag : tag ∈ store.tags) (hother : other ∈ store.tags) (config : Config)
    (hfactor : (categoryWeight tag.category tag.subcategory config.useSubcategories : α) =
      categoryWeight other.category other.subcategory config.useSubcategories)
    (hfewer : store.frequency tag.id ≤ store.frequency other.id) :
    (store.weightOf config other.name : α) ≤ store.weightOf config tag.name := by
  rw [h.weightOf_eq htag, h.weightOf_eq hother]
  apply WeightSnapshot.weight_le_weight
  · rw [h.factor_weightSnapshot htag, h.factor_weightSnapshot hother]
    exact hfactor
  · simpa only [frequency_weightSnapshot] using hfewer

end Store

/-! ## Remembered weights -/

variable {α : Type} [Field α] [LinearOrder α]

namespace WeightCache

variable {cache : WeightCache α}

/-- No remembered weight is zero or less. -/
def Positive (cache : WeightCache α) : Prop :=
  ∀ generation, cache.current = some generation → ∀ entry ∈ generation.known, 0 < entry.2

theorem Positive.prime (h : cache.Positive) (store : Store) : (cache.prime store).Positive := by
  unfold WeightCache.prime
  split
  · exact h
  · split
    · intro generation hgeneration entry hentry
      cases hgeneration
      simp at hentry
    · exact h

end WeightCache

/-! ## Announcements -/

namespace Catalog

variable {catalog : Catalog α}

theorem positive_announce (h : catalog.caches.weights.Positive) (store : Store) :
    (catalog.announce store).2.caches.weights.Positive := by
  refine List.foldlRecOn
    (motive := fun told : TriggerReport × Caches α => told.2.weights.Positive)
    catalog.bus.listeners (Bus.tell CacheName.label (invalidate store)) h ?_
  intro told htold listener _
  obtain ⟨report, caches⟩ := told
  cases listener with
  | directory =>
      unfold Bus.tell invalidate
      dsimp only
      split <;> exact htold
  | weights => simp [Bus.tell, invalidate, WeightCache.invalidate, WeightCache.Positive]
  | related | stats => exact htold

end Catalog

namespace Peer

variable {peer : Peer α} {store : Store}

theorem positive_announceIf (h : peer.catalog.caches.weights.Positive) (store : Store)
    (changed : Bool) : (peer.announceIf store changed).catalog.caches.weights.Positive := by
  unfold announceIf
  split
  · exact Catalog.positive_announce h store
  · exact h

theorem positive_wrote (h : peer.catalog.caches.weights.Positive) (outcome : Writer.Outcome) :
    (peer.wrote outcome).peer.catalog.caches.weights.Positive := by
  have hwriter : Peer.catalog { peer with writer := outcome.writer } = peer.catalog := rfl
  exact positive_announceIf (hwriter ▸ h) _ _

theorem positive_changed (h : peer.catalog.caches.weights.Positive) {β : Type}
    (result : Except StoreError (β × Store)) (answer : β → Answer α) (announces : β → Bool) :
    (peer.changed store result answer announces).peer.catalog.caches.weights.Positive := by
  unfold changed
  split
  · exact positive_announceIf h _ _
  · exact h

end Peer

/-! ## Reads -/

variable [Scalar α] [Scalar.Exact α]

namespace WeightCache

variable {cache : WeightCache α}

theorem Positive.weight (h : cache.Positive) (store : Store) (options : WeightOptions)
    (name : String) (id : TagId) :
    0 < (cache.weight store options name id).1 ∧
      (cache.weight store options name id).2.Positive := by
  have hprimed := h.prime store
  unfold WeightCache.weight
  dsimp only
  cases hcurrent : (cache.prime store).current with
  | none => exact ⟨WeightSnapshot.weight_pos _ _ _, hprimed⟩
  | some generation =>
      have hknown := hprimed generation hcurrent
      dsimp only
      cases hfound : generation.known.find? (·.1 = name) with
      | some entry => exact ⟨hknown entry (List.mem_of_find?_eq_some hfound), hprimed⟩
      | none =>
          refine ⟨WeightSnapshot.weight_pos _ _ _, ?_⟩
          intro later hlater entry hentry
          cases hlater
          rcases List.mem_cons.1 hentry with rfl | hold
          · exact WeightSnapshot.weight_pos _ _ _
          · exact hknown entry hold

end WeightCache

namespace Caches

variable {caches : Caches α} (config : Config) (store : Store)

theorem weightFor_pos (h : caches.weights.Positive) (tag : String) :
    0 < (weightFor config store caches tag).1 ∧
      (weightFor config store caches tag).2.weights.Positive := by
  have hread : (caches.names store).2.weights.Positive := h
  unfold weightFor
  dsimp only
  cases (caches.names store).1.id? tag with
  | none => exact ⟨unknownTagWeight_pos, hread⟩
  | some id => exact hread.weight store (options config) tag id

theorem positive_keptByReads :
    KeptByReads config store fun caches : Caches α => caches.weights.Positive where
  names h := h
  weightFor h tag := (weightFor_pos config store h tag).2
  prime h := by
    unfold prime
    split
    · exact h
    · exact h.prime store
  answers h _ _ := h

theorem weigh_pos (h : caches.weights.Positive) (tags : List String) :
    ∀ entry ∈ (weigh config store caches tags).1, 0 < entry.2 := by
  induction tags generalizing caches with
  | nil => simp [weigh]
  | cons tag tags ih =>
      obtain ⟨hweight, hweighed⟩ := weightFor_pos config store h tag
      intro entry hentry
      rcases List.mem_cons.1 hentry with rfl | hrest
      · exact hweight
      · exact ih hweighed entry hrest

theorem listedWeight_pos {weights : List (String × α)} (h : ∀ entry ∈ weights, 0 < entry.2)
    (tag : String) : 0 < listedWeight weights tag := by
  unfold listedWeight
  cases hfound : weights.find? (·.1 = tag) with
  | none => exact unknownTagWeight_pos
  | some entry => exact h entry (List.mem_of_find?_eq_some hfound)

/-- The overlap of a set with itself is whole, by count and by positive weights. -/
theorem score_self (h : caches.weights.Positive) {tags : List String} (hne : tags ≠ [])
    (hnodup : tags.Nodup) : (score config store caches tags tags).1 = 1 := by
  have hempty : ¬(tags.isEmpty || tags.isEmpty) = true := by simp [hne]
  have hnonempty : tags.toFinset.Nonempty := List.toFinset_nonempty_iff tags |>.2 hne
  unfold score
  cases config.similarity with
  | jaccard =>
      have hcard : ((tags.toFinset.card : ℕ) : α) ≠ 0 :=
        Nat.cast_ne_zero.2 hnonempty.card_pos.ne'
      dsimp only
      rw [jaccard_eq_overlap hnodup hnodup fun _ => 1, Policy.overlap, Finset.inter_self,
        Finset.union_self, div_self hcard]
  | weighted =>
      dsimp only
      rw [if_neg hempty]
      have hweight : ∀ tag, 0 < listedWeight (weigh config store caches (union tags tags)).1 tag :=
        listedWeight_pos (weigh_pos config store h _)
      rw [weightedJaccard_eq_overlap hnodup hnodup fun tag => (hweight tag).le]
      exact Policy.overlap_self (Finset.sum_pos (fun tag _ => hweight tag) hnonempty).ne'

end Caches

/-! ## Runs -/

namespace Peer

/-- Every request keeps remembered weights positive, also one that goes past the writer. -/
theorem positive_step {peer : Peer α} (h : peer.catalog.caches.weights.Positive) (store : Store)
    (request : Request) :
    (peer.step store request).peer.catalog.caches.weights.Positive := by
  by_cases hread : request.isRead = true ∧ request ≠ .reloadTags ∧ request ≠ .trigger
  · exact peer.step_read_keeps (Caches.positive_keptByReads peer.catalog.config store) rfl h hread.1
      hread.2.1 hread.2.2
  · cases request with
    | add _ | flush => exact positive_wrote h _
    | setTagCategory _ _ _ | removeTag _ _ | addToPool _ _ | setFavorite _ _ | deleteOrphanTags
    | insertTag _ _ _ _ | drop _ => exact positive_changed h _ _ _
    | trigger => exact Catalog.positive_announce h store
    | reloadTags | unregisterAll => exact h
    | _ => simp [Request.isRead] at hread

end Peer

namespace Archive

theorem positive_run (start : Store) (configs : ℕ → Config) (limits : ℕ → ℕ)
    (calls : List Call) (catalog : ℕ) :
    (((opened start configs limits : Archive α).run calls).catalogs
      catalog).caches.weights.Positive := by
  refine run_induction
    (motive := fun archive : Archive α => (archive.catalogs catalog).caches.weights.Positive)
    ?_ ?_
  · simp [opened, Catalog.fresh, Caches.cold, WeightCache.Positive]
  · intro archive harchive call _
    change (Function.update archive.catalogs call.catalog (archive.asked call).peer.catalog
      catalog).caches.weights.Positive
    by_cases hown : catalog = call.catalog
    · subst hown
      rw [Function.update_self]
      exact Peer.positive_step harchive archive.store call.request
    · rw [Function.update_of_ne hown]
      exact harchive

/-- Every weight is positive and every text with tags is wholly like itself, whatever was
asked before.  While all calls go to one catalog, of two tags with the same factor it gives
no more weight to the one that more items have. -/
theorem weights_positive_and_falling (start : Store) (configs : ℕ → Config)
    (limits : ℕ → ℕ) (calls : List Call) (catalog : ℕ) :
    let archive : Archive α := (opened start configs limits).run calls
    let weight (tag : String) := ((archive.catalogs catalog).weightFor archive.store tag).1
    let factor (tag : Tag) : α :=
      categoryWeight tag.category tag.subcategory (configs catalog).useSubcategories
    Rarity.Lawful α ∧
      (∀ category subcategory useSubcategories,
        0 < (categoryWeight category subcategory useSubcategories : α)) ∧
      (∀ (snapshot : WeightSnapshot) (options : WeightOptions) (id other : TagId),
        (snapshot.factor options id : α) = snapshot.factor options other →
        snapshot.frequency id ≤ snapshot.frequency other →
          (snapshot.weight options other : α) ≤ snapshot.weight options id) ∧
      (∀ tag, 0 < weight tag) ∧
      (∀ text, Text.words text ≠ [] →
        ((archive.catalogs catalog).similarity archive.store text text).1 = 1) ∧
      (start.Reachable →
        (∀ call ∈ calls, call.request.isOrdinary = true ∧ call.catalog = catalog) →
        ∀ tag ∈ archive.store.tags, ∀ other ∈ archive.store.tags, factor tag = factor other →
          archive.store.frequency tag.id ≤ archive.store.frequency other.id →
            weight other.name ≤ weight tag.name) := by
  intro archive weight factor
  have hpositive : (archive.catalogs catalog).caches.weights.Positive :=
    positive_run start configs limits calls catalog
  refine ⟨Rarity.lawful α, categoryWeight_pos, ?_, ?_, ?_, ?_⟩
  · intro snapshot options id other hfactor hfewer
    exact WeightSnapshot.weight_le_weight hfactor hfewer
  · exact fun tag => (Caches.weightFor_pos _ _ hpositive tag).1
  · intro text hwords
    obtain ⟨tag, htag⟩ := List.exists_mem_of_ne_nil _ hwords
    exact Caches.score_self _ _ hpositive (List.ne_nil_of_mem (mem_distinct.2 htag))
      (nodup_distinct _)
  · intro hreachable hcalls tag htag other hother hfactor hfewer
    have hordinary : ∀ call ∈ calls, call.request.isOrdinary = true :=
      fun call hcall => (hcalls call hcall).1
    have hsound : archive.store.Sound :=
      ((live_opened hreachable.consistent configs limits).run hordinary).consistent.sound
    have hsettled : archive.Settled catalog (configs catalog) :=
      settled_run hreachable.consistent.sound.healthy configs limits hordinary
        fun call hcall => (hcalls call hcall).2
    have hweight (name : String) : weight name = archive.store.weightOf (configs catalog) name :=
      (hsettled.coherent.weightFor hsound.healthy name).1
    rw [hweight, hweight]
    exact hsound.weightOf_le_weightOf htag hother (configs catalog) hfactor hfewer

/-- Two items have the first tag and one of them has the second. -/
theorem weights_positive_and_falling_of_shared_tag :
    let calls : List Call :=
      [⟨0, 0, .add { filepath := "a.png", contentHash := "0", tags := [⟨"cat", .general, none,
          .imported⟩, ⟨"hat", .general, none, .imported⟩] }⟩,
        ⟨0, 0, .add { filepath := "b.png", contentHash := "1", tags := [⟨"cat", .general, none,
          .imported⟩] }⟩,
        ⟨0, 0, .flush⟩]
    let archive : Archive ℝ := (opened {} (fun _ => {}) (fun _ => 8)).run calls
    let weight (tag : String) := ((archive.catalogs 0).weightFor archive.store tag).1
    (0 : ℝ) < weight "dog" ∧
      ((archive.catalogs 0).similarity archive.store "cat dog cat" "cat dog cat").1 = 1 ∧
      weight "cat" ≤ weight "hat" := by
  intro calls archive weight
  obtain ⟨-, -, -, hpositive, hself, hfalling⟩ :=
    weights_positive_and_falling (α := ℝ) {} (fun _ => {}) (fun _ => 8) calls 0
  refine ⟨hpositive "dog", hself "cat dog cat" (by decide), ?_⟩
  have htags : archive.store.tags = [⟨1, "cat", .general, none⟩, ⟨2, "hat", .general, none⟩] := by
    decide +kernel
  have hcat : ⟨1, "cat", .general, none⟩ ∈ archive.store.tags := by simp [htags]
  have hhat : ⟨2, "hat", .general, none⟩ ∈ archive.store.tags := by simp [htags]
  have hfewer : archive.store.frequency 2 ≤ archive.store.frequency 1 := by decide +kernel
  exact hfalling .refl (by decide) _ hhat _ hcat rfl hfewer

end Archive

end Gallery
