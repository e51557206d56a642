import Gallery.Proofs.Archive.Basic
import Gallery.Proofs.Catalog.Coherent

/-!
# Caches do not show

While all calls go to one catalog, its caches stay coherent with the store: every
change of the store is announced on the bus of this catalog, and whatever is read
in between is read from the store as it is.  So the catalog answers as a new one
would, whose caches are empty.
-/

namespace Gallery

namespace Catalog

variable {α : Type}

/-! ## Announcements -/

/-- The caches after all of them were told of a store that can be read. -/
def renewed (store : Store) (caches : Caches α) : Caches α where
  directory := ⟨some store.names⟩
  weights := ⟨none⟩
  related := caches.related.clear
  stats := none

theorem announce_eq
    {store : Store} {catalog : Catalog α}
    (hlisteners : catalog.bus.listeners = CacheName.all) (hhealthy : store.Healthy) :
    catalog.announce store =
      (⟨4, []⟩, { catalog with caches := renewed store catalog.caches }) := by
  unfold announce Bus.trigger
  rw [hlisteners]
  simp [CacheName.all, Bus.tell, invalidate, Directory.reload,
    Directory.load_of_healthy hhealthy, Reaction.isFailure, WeightCache.invalidate, renewed]

/-! ## Coherent catalogs -/

variable [Scalar α]

/-- A catalog with all caches on its bus, which hold nothing that is out of date. -/
structure Coherent (config : Config) (store : Store) (catalog : Catalog α) : Prop where
  settings : catalog.config = config
  listeners : catalog.bus.listeners = CacheName.all
  caches : Caches.Coherent config store catalog.caches

theorem coherent_fresh (config : Config) (store : Store) :
    Coherent config store (fresh config : Catalog α) :=
  ⟨rfl, rfl, Caches.coherent_cold config store⟩

variable {config : Config} {store : Store} {catalog : Catalog α}

/-- Whatever the caches held, after an announcement they are coherent. -/
theorem coherent_announce
    (hconfig : catalog.config = config)
    (hlisteners : catalog.bus.listeners = CacheName.all) (hhealthy : store.Healthy) :
    Coherent config store (catalog.announce store).2 := by
  rw [announce_eq hlisteners hhealthy]
  refine ⟨hconfig, hlisteners, ?_⟩
  refine ⟨?_, ?_, ?_, ?_, ?_⟩ <;> simp [renewed, Memo.clear]

/-! ## Reads -/

theorem Coherent.withCaches
    (h : Coherent config store catalog) {caches : Caches α}
    (hcaches : Caches.Coherent config store caches) :
    Coherent config store { catalog with caches := caches } :=
  ⟨h.settings, h.listeners, hcaches⟩

theorem Coherent.execute
    (h : Coherent config store catalog) (hhealthy : store.Healthy) (query : Query) :
    (catalog.execute store query).1 =
        Search.answer store (if Search.consultsDirectory query then store.names else {}) query ∧
      Coherent config store (catalog.execute store query).2 := by
  obtain ⟨hnames, hread⟩ := h.caches.names hhealthy
  unfold Catalog.execute Search.execute
  by_cases hconsults : Search.consultsDirectory query = true
  · simp only [hconsults, if_true]
    refine ⟨?_, h.withCaches hread⟩
    rw [← hnames]
    rfl
  · simp only [hconsults]
    exact ⟨rfl, h.withCaches h.caches⟩

theorem Coherent.names
    (h : Coherent config store catalog) (hhealthy : store.Healthy) :
    (catalog.names store).1 = store.names ∧
      Coherent config store (catalog.names store).2 := by
  obtain ⟨hnames, hread⟩ := h.caches.names hhealthy
  exact ⟨hnames, h.withCaches hread⟩

theorem Coherent.reloadTags
    (h : Coherent config store catalog) (hhealthy : store.Healthy) :
    Coherent config store (catalog.reloadTags store).2 := by
  unfold Catalog.reloadTags Directory.reload
  rw [Directory.load_of_healthy hhealthy]
  apply h.withCaches
  exact { h.caches with
    directory := by
      intro names hnames
      exact (Option.some.inj hnames).symm }

theorem Coherent.related
    (h : Coherent config store catalog) (hhealthy : store.Healthy) (id : ItemId) (limit : ℕ) :
    (catalog.related store id limit).1 = store.relatedOf config id limit ∧
      Coherent config store (catalog.related store id limit).2 := by
  obtain ⟨hanswer, hread⟩ := h.caches.relatedTo hhealthy id limit
  rw [← h.settings] at hanswer hread ⊢
  exact ⟨hanswer, rfl, h.listeners, hread⟩

theorem Coherent.weightFor
    (h : Coherent config store catalog) (hhealthy : store.Healthy) (tag : String) :
    (catalog.weightFor store tag).1 = store.weightOf config tag ∧
      Coherent config store (catalog.weightFor store tag).2 := by
  obtain ⟨hanswer, hread⟩ := h.caches.weightFor hhealthy tag
  rw [← h.settings] at hanswer hread ⊢
  exact ⟨hanswer, rfl, h.listeners, hread⟩

theorem Coherent.similarity
    (h : Coherent config store catalog) (hhealthy : store.Healthy) (a b : String) :
    (catalog.similarity store a b).1 =
        store.scoreOf config (distinct (Text.words a)) (distinct (Text.words b)) ∧
      Coherent config store (catalog.similarity store a b).2 := by
  obtain ⟨hanswer, hread⟩ :=
    h.caches.score hhealthy (distinct (Text.words a)) (distinct (Text.words b))
  rw [← h.settings] at hanswer hread ⊢
  exact ⟨hanswer, rfl, h.listeners, hread⟩

theorem Coherent.stats (h : Coherent config store catalog) :
    (catalog.stats store).1 = Stats.compute store ∧
      Coherent config store (catalog.stats store).2 := by
  obtain ⟨hanswer, hread⟩ := h.caches.readStats
  exact ⟨hanswer, h.withCaches hread⟩

/-- Two catalogs answer every question about a store alike. -/
structure AnswersAs (store : Store) (catalog other : Catalog α) : Prop where
  search : ∀ text, (catalog.search store text).1 = (other.search store text).1
  related : ∀ id limit, (catalog.related store id limit).1 = (other.related store id limit).1
  weightFor : ∀ tag, (catalog.weightFor store tag).1 = (other.weightFor store tag).1
  similarity : ∀ a b, (catalog.similarity store a b).1 = (other.similarity store a b).1
  stats : (catalog.stats store).1 = (other.stats store).1
  tagId : ∀ name, (catalog.names store).1.id? name = (other.names store).1.id? name
  tagName : ∀ id, (catalog.names store).1.name? id = (other.names store).1.name? id
  tagIds : ∀ names, (catalog.names store).1.ids names = (other.names store).1.ids names
  tagNames : ∀ ids, (catalog.names store).1.namesOf ids = (other.names store).1.namesOf ids
  tagCount : (catalog.names store).1.count = (other.names store).1.count

theorem Coherent.answersAs
    (h : Coherent config store catalog) {other : Catalog α}
    (hother : Coherent config store other) (hhealthy : store.Healthy) :
    AnswersAs store catalog other := by
  have hnames : (catalog.names store).1 = (other.names store).1 :=
    (h.names hhealthy).1.trans (hother.names hhealthy).1.symm
  refine ⟨?_, ?_, ?_, ?_, ?_, ?_, ?_, ?_, ?_, ?_⟩
  · intro text
    exact (h.execute hhealthy _).1.trans (hother.execute hhealthy _).1.symm
  · intro id limit
    exact (h.related hhealthy id limit).1.trans (hother.related hhealthy id limit).1.symm
  · intro tag
    exact (h.weightFor hhealthy tag).1.trans (hother.weightFor hhealthy tag).1.symm
  · intro a b
    exact (h.similarity hhealthy a b).1.trans (hother.similarity hhealthy a b).1.symm
  · exact h.stats.1.trans hother.stats.1.symm
  all_goals
    rw [hnames]
    try exact fun _ => rfl

end Catalog

/-! ## Runs over one catalog -/

namespace Peer

variable {α : Type} [Scalar α] {config : Config} {store : Store}

theorem coherent_step_read
    (hhealthy : store.Healthy) {peer : Peer α} (h : Catalog.Coherent config store peer.catalog)
    {request : Request} (hread : request.isRead = true) :
    Catalog.Coherent config store (peer.step store request).peer.catalog := by
  cases request with
  | execute query => exact (h.execute hhealthy query).2
  | related item limit => exact (h.related hhealthy item limit).2
  | itemById _ | itemByPath _ | tagRows =>
      change Catalog.Coherent config store (peer.looked store _ _).peer.catalog
      rw [(looked_store ..).2]
      exact h
  | tagId _ | tagName _ | tagIds _ | tagNames _ | tagCount => exact (h.names hhealthy).2
  | reloadTags => exact h.reloadTags hhealthy
  | weight tag => exact (h.weightFor hhealthy tag).2
  | similarity a b => exact (h.similarity hhealthy a b).2
  | stats => exact h.stats.2
  | trigger => exact Catalog.coherent_announce h.settings h.listeners hhealthy
  | _ => simp [Request.isRead] at hread

theorem coherent_step
    (hhealthy : store.Healthy) (peer : Peer α) (hvalid : peer.writer.Valid)
    (h : Catalog.Coherent config store peer.catalog) {request : Request}
    (hordinary : request.isOrdinary = true) :
    (peer.step store request).store.Healthy ∧
      Catalog.Coherent config (peer.step store request).store
        (peer.step store request).peer.catalog := by
  rcases Bool.or_eq_true_iff.1 hordinary with hwrite | hread
  · have hwritten := (step_write hhealthy peer hvalid hwrite).2
    generalize (peer.step store request).store = next at hwritten ⊢
    generalize (peer.step store request).peer.catalog = after at hwritten ⊢
    cases hwritten with
    | nothing => exact ⟨hhealthy, h⟩
    | change hchange =>
        have hnext := hchange.healthy hhealthy
        exact ⟨hnext, Catalog.coherent_announce h.settings h.listeners hnext⟩
  · have hstore := (step_read peer store hread).1
    rw [hstore]
    exact ⟨hhealthy, coherent_step_read hhealthy h hread⟩

end Peer

namespace Archive

variable {α : Type} [Scalar α]

/-- The invariant of runs whose calls all go to one catalog. -/
structure Settled (archive : Archive α) (catalog : ℕ) (config : Config) : Prop where
  healthy : archive.store.Healthy
  valid : archive.Valid
  coherent : Catalog.Coherent config archive.store (archive.catalogs catalog)

theorem Settled.step
    {archive : Archive α} {catalog : ℕ} {config : Config}
    (h : archive.Settled catalog config) {call : Call}
    (hordinary : call.request.isOrdinary = true) (hcatalog : call.catalog = catalog) :
    (archive.step call).Settled catalog config := by
  subst hcatalog
  obtain ⟨hhealthy, hcoherent⟩ := Peer.coherent_step h.healthy
    ⟨archive.catalogs call.catalog, archive.writers call.writer⟩ (h.valid call.writer) h.coherent hordinary
  refine ⟨hhealthy, (step_store h.healthy h.valid hordinary).1, ?_⟩
  change Catalog.Coherent config (archive.asked call).store
    (Function.update archive.catalogs call.catalog (archive.asked call).peer.catalog
      call.catalog)
  rw [Function.update_self]
  exact hcoherent

theorem settled_run
    {store : Store} (hhealthy : store.Healthy) (configs : ℕ → Config) (limits : ℕ → ℕ)
    {catalog : ℕ} {calls : List Call}
    (hordinary : ∀ call ∈ calls, call.request.isOrdinary = true)
    (hcatalog : ∀ call ∈ calls, call.catalog = catalog) :
    ((opened store configs limits : Archive α).run calls).Settled catalog (configs catalog) := by
  refine run_induction
    (motive := fun archive : Archive α => archive.Settled catalog (configs catalog)) ?_ ?_
  · exact ⟨hhealthy, valid_opened store configs limits,
      Catalog.coherent_fresh (configs catalog) store⟩
  · intro archive harchive call hcall
    exact harchive.step (hordinary call hcall) (hcatalog call hcall)

/-- At every moment of a run over one catalog, the catalog answers as a new one. -/
theorem answersAs_fresh_run
    {store : Store} (hhealthy : store.Healthy) (configs : ℕ → Config) (limits : ℕ → ℕ)
    {catalog : ℕ} {calls : List Call}
    (hordinary : ∀ call ∈ calls, call.request.isOrdinary = true)
    (hcatalog : ∀ call ∈ calls, call.catalog = catalog) :
    let archive : Archive α := (opened store configs limits).run calls
    Catalog.AnswersAs archive.store (archive.catalogs catalog) (.fresh (configs catalog)) := by
  have hsettled : ((opened store configs limits : Archive α).run calls).Settled catalog
      (configs catalog) := settled_run hhealthy configs limits hordinary hcatalog
  exact hsettled.coherent.answersAs (Catalog.coherent_fresh _ _) hsettled.healthy

/-- Reads fill all caches before, between and after the writes of two writers. -/
theorem answersAs_fresh_run_of_reads :
    let calls : List Call :=
      [⟨0, 0, .stats⟩, ⟨0, 0, .weight "cat"⟩,
        ⟨0, 0, .add { filepath := "a.png", contentHash := "0", tags := [⟨"cat", .general, none,
          .imported⟩] }⟩,
        ⟨0, 0, .flush⟩, ⟨0, 1, .related 1 5⟩, ⟨0, 1, .tagId "cat"⟩,
        ⟨0, 1, .setTagCategory "cat" .species none⟩, ⟨0, 1, .weight "cat"⟩,
        ⟨0, 1, .removeTag "a.png" "cat"⟩, ⟨0, 0, .deleteOrphanTags⟩]
    let archive : Archive Float := (opened {} (fun _ => {}) (fun _ => 8)).run calls
    Catalog.AnswersAs archive.store (archive.catalogs 0) (.fresh {}) := by
  refine answersAs_fresh_run Store.healthy_empty (fun _ => {}) (fun _ => 8) ?_ ?_
  · simp [Request.isOrdinary, Request.isWrite, Request.isRead]
  · simp

end Archive

end Gallery
