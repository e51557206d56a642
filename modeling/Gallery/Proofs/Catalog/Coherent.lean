import Gallery.Catalog.Basic
import Mathlib.Tactic

/-!
# Caches that agree with the store

For every question that a catalog answers through its caches there is the answer
that the store itself gives.  Caches are coherent with a store if all that they
hold are such answers.  Reading from coherent caches over a healthy store gives
the answer of the store, whatever the caches hold, and leaves them coherent.
-/

namespace Gallery

/-! ## The answers of the store -/

namespace Store

/-- The names of all tags, in the order of their numbers. -/
def names (store : Store) : TagNames :=
  TagNames.ofTags (store.tags.mergeSort fun a b => a.id ≤ b.id)

/-- What weights are computed from. -/
def weightSnapshot (store : Store) : WeightSnapshot where
  frequencies := (distinct (store.attachments.map (·.tag))).map fun tag =>
    (tag, store.frequency tag)
  tags := store.tags.mergeSort fun a b => a.id ≤ b.id
  totalItems := store.items.length

variable {α : Type} [Scalar α]

def weightOf (store : Store) (config : Config) (tag : String) : α :=
  match store.names.id? tag with
  | none => unknownTagWeight
  | some id => store.weightSnapshot.weight (Caches.options config) id

def scoreOf (store : Store) (config : Config) (a b : List String) : α :=
  match config.similarity with
  | .jaccard => jaccard a b
  | .weighted =>
    if a.isEmpty || b.isEmpty then Scalar.whole 0
    else
      let weights := (union a b).map fun tag => (tag, store.weightOf config tag)
      weightedJaccard (Caches.listedWeight weights) a b

/-- The items most like an item; none where the question cannot be put. -/
def relatedOf (store : Store) (config : Config) (id : ItemId) (limit : ℕ) :
    List (RelatedItem α) :=
  match Caches.relatedQuestion store id limit with
  | .ok (some (reference, candidates)) =>
    Caches.best limit (candidates.map fun item =>
      ⟨item.hit, store.scoreOf config reference.tags.tagSet item.tags.tagSet⟩)
  | _ => []

end Store

theorem Directory.load_of_healthy {store : Store} (hhealthy : store.Healthy) :
    Directory.load store = .ok store.names := by
  unfold load Store.tagRows
  rw [Store.require_of_healthy hhealthy]
  rfl

theorem WeightSnapshot.take_of_healthy {store : Store} (hhealthy : store.Healthy) :
    WeightSnapshot.take store = .ok store.weightSnapshot := by
  unfold take Store.tagRows Store.frequencies Store.itemCount
  rw [Store.require_of_healthy hhealthy, Store.require_of_healthy hhealthy,
    Store.require_of_healthy hhealthy]
  rfl

theorem Memo.mem_of_use?
    {κ ν : Type} [DecidableEq κ] {memo used : Memo κ ν} {key : κ} {value : ν}
    (huse : memo.use? key = some (value, used)) :
    (key, value) ∈ memo.entries ∧ ∀ entry ∈ used.entries, entry ∈ memo.entries := by
  unfold use? find? at huse
  cases hfind : memo.entries.find? (·.1 = key) with
  | none =>
      rw [hfind] at huse
      cases huse
  | some entry =>
      rw [hfind] at huse
      cases huse
      have hkey : entry.1 = key := by simpa using List.find?_some hfind
      have hmem : (key, entry.2) ∈ memo.entries := by
        rw [← hkey]
        exact List.mem_of_find?_eq_some hfind
      refine ⟨hmem, ?_⟩
      intro other hother
      rcases List.mem_cons.1 hother with rfl | hrest
      · exact hmem
      · exact List.mem_of_mem_filter hrest

theorem Memo.mem_of_mem_put
    {κ ν : Type} [DecidableEq κ] {memo : Memo κ ν} {key : κ} {value : ν} {entry : κ × ν}
    (hentry : entry ∈ (memo.put key value).entries) :
    entry = (key, value) ∨ entry ∈ memo.entries := by
  rcases List.mem_cons.1 (List.mem_of_mem_take hentry) with heq | hrest
  · exact Or.inl heq
  · exact Or.inr (List.mem_of_mem_filter hrest)

namespace Caches

variable {α : Type} [Scalar α]

/-- All that the caches of a catalog hold are answers of the store. -/
structure Coherent (config : Config) (store : Store) (caches : Caches α) : Prop where
  directory : ∀ names, caches.directory.current = some names → names = store.names
  snapshot : ∀ generation, caches.weights.current = some generation →
    generation.snapshot = store.weightSnapshot
  weights : ∀ generation, caches.weights.current = some generation →
    ∀ entry ∈ generation.known, entry.2 = store.weightOf config entry.1
  related : ∀ entry ∈ caches.related.entries,
    entry.2 = store.relatedOf config entry.1.1 entry.1.2
  stats : ∀ stats, caches.stats = some stats → Stats.compute store = .ok stats

variable {config : Config} {store : Store} {caches : Caches α}

theorem coherent_cold (config : Config) (store : Store) :
    Coherent config store (cold config : Caches α) := by
  refine ⟨?_, ?_, ?_, ?_, ?_⟩ <;> simp [cold, Memo.empty]

/-! ## The directory -/

theorem Coherent.names (h : Coherent config store caches) (hhealthy : store.Healthy) :
    (caches.names store).1 = store.names ∧ Coherent config store (caches.names store).2 := by
  unfold Caches.names Directory.names
  cases hcurrent : caches.directory.current with
  | some names => exact ⟨h.directory names hcurrent, h⟩
  | none =>
      rw [Directory.load_of_healthy hhealthy]
      refine ⟨rfl, ?_⟩
      exact { h with
        directory := by
          intro names hnames
          exact (Option.some.inj hnames).symm }

/-! ## Weights and scores -/

theorem Coherent.prime (h : Coherent config store caches) (hhealthy : store.Healthy) :
    Coherent config store { caches with weights := caches.weights.prime store } ∧
      ∃ generation, (caches.weights.prime store).current = some generation := by
  unfold WeightCache.prime
  cases hcurrent : caches.weights.current with
  | some generation => exact ⟨h, generation, hcurrent⟩
  | none =>
      rw [WeightSnapshot.take_of_healthy hhealthy]
      refine ⟨?_, _, rfl⟩
      exact { h with
        snapshot := by
          intro generation hgeneration
          rw [← Option.some.inj hgeneration]
        weights := by
          intro generation hgeneration entry hentry
          rw [← Option.some.inj hgeneration] at hentry
          simp at hentry }

/-- A remembered weight is looked up by name and computed by number; both come from
the same names. -/
theorem Coherent.weight
    (h : Coherent config store caches) (hhealthy : store.Healthy) {tag : String} {id : TagId}
    (hid : store.names.id? tag = some id) :
    (caches.weights.weight store (options config) tag id).1 = store.weightOf config tag ∧
      Coherent config store
        { caches with
          weights := (caches.weights.weight store (options config) tag id).2 } := by
  have hnow : store.weightOf config tag =
      (store.weightSnapshot.weight (options config) id : α) := by
    rw [Store.weightOf, hid]
  obtain ⟨hprimed, generation, hgeneration⟩ := h.prime hhealthy
  unfold WeightCache.weight
  simp only [hgeneration]
  cases hknown : generation.known.find? (·.1 = tag) with
  | some entry =>
      obtain ⟨name, weight⟩ := entry
      have hname : name = tag := by simpa using List.find?_some hknown
      have hweight :=
        hprimed.weights generation hgeneration _ (List.mem_of_find?_eq_some hknown)
      refine ⟨?_, hprimed⟩
      rw [← hname]
      exact hweight
  | none =>
      have hsnapshot := hprimed.snapshot generation hgeneration
      refine ⟨?_, ?_⟩
      · rw [hnow, hsnapshot]
      · exact { hprimed with
          snapshot := by
            intro later hlater
            rw [← Option.some.inj hlater]
            exact hsnapshot
          weights := by
            intro later hlater entry hentry
            rw [← Option.some.inj hlater] at hentry
            rcases List.mem_cons.1 hentry with rfl | hold
            · rw [hnow, hsnapshot]
            · exact hprimed.weights generation hgeneration entry hold }

theorem Coherent.weightFor
    (h : Coherent config store caches) (hhealthy : store.Healthy) (tag : String) :
    (Caches.weightFor config store caches tag).1 = store.weightOf config tag ∧
      Coherent config store (Caches.weightFor config store caches tag).2 := by
  obtain ⟨hnames, hread⟩ := h.names hhealthy
  unfold Caches.weightFor
  simp only [hnames]
  cases hid : store.names.id? tag with
  | none =>
      refine ⟨?_, hread⟩
      rw [Store.weightOf, hid]
  | some id => exact hread.weight hhealthy hid

theorem Coherent.weigh
    (h : Coherent config store caches) (hhealthy : store.Healthy) (tags : List String) :
    (Caches.weigh config store caches tags).1 =
        tags.map (fun tag => (tag, store.weightOf config tag)) ∧
      Coherent config store (Caches.weigh config store caches tags).2 := by
  induction tags generalizing caches with
  | nil => exact ⟨rfl, h⟩
  | cons tag tags ih =>
      obtain ⟨hweight, hweighed⟩ := h.weightFor hhealthy tag
      obtain ⟨hrest, hlast⟩ := ih hweighed
      refine ⟨?_, hlast⟩
      simp only [Caches.weigh, List.map_cons, hweight, hrest]

theorem Coherent.score
    (h : Coherent config store caches) (hhealthy : store.Healthy) (a b : List String) :
    (Caches.score config store caches a b).1 = store.scoreOf config a b ∧
      Coherent config store (Caches.score config store caches a b).2 := by
  unfold Caches.score Store.scoreOf
  cases config.similarity with
  | jaccard => exact ⟨rfl, h⟩
  | weighted =>
      dsimp only
      by_cases hempty : (a.isEmpty || b.isEmpty) = true
      · rw [if_pos hempty, if_pos hempty]
        exact ⟨rfl, h⟩
      · rw [if_neg hempty, if_neg hempty]
        obtain ⟨hweights, hweighed⟩ := h.weigh hhealthy (union a b)
        refine ⟨?_, hweighed⟩
        rw [← hweights]

/-! ## Related items -/

theorem Coherent.scoreAll
    (h : Coherent config store caches) (hhealthy : store.Healthy) (tags : List String)
    (items : List Item) :
    (Caches.scoreAll config store tags caches items).1 =
        items.map (fun item =>
          ⟨item.hit, store.scoreOf config tags item.tags.tagSet⟩) ∧
      Coherent config store (Caches.scoreAll config store tags caches items).2 := by
  induction items generalizing caches with
  | nil => exact ⟨rfl, h⟩
  | cons item items ih =>
      obtain ⟨hscore, hscored⟩ := h.score hhealthy tags item.tags.tagSet
      obtain ⟨hrest, hlast⟩ := ih hscored
      refine ⟨?_, hlast⟩
      simp only [Caches.scoreAll, List.map_cons, hscore, hrest]

theorem Coherent.primed (h : Coherent config store caches) (hhealthy : store.Healthy) :
    Coherent config store (Caches.prime config store caches) := by
  unfold Caches.prime
  cases config.similarity with
  | jaccard => exact h
  | weighted => exact ((h.names hhealthy).2.prime hhealthy).1

/-- The answer of the store is computed, unless the question cannot be put. -/
theorem Coherent.computeRelated
    (h : Coherent config store caches) (hhealthy : store.Healthy) (id : ItemId) (limit : ℕ) :
    (∃ after, Caches.computeRelated config store caches id limit =
        (.ok (store.relatedOf config id limit), after) ∧ Coherent config store after) ∨
      ∃ fault, Caches.computeRelated config store caches id limit = (.error fault, caches) ∧
        store.relatedOf config id limit = ([] : List (RelatedItem α)) := by
  unfold Caches.computeRelated Store.relatedOf
  cases relatedQuestion store id limit with
  | error fault => exact Or.inr ⟨fault, rfl, rfl⟩
  | ok question =>
      cases question with
      | none => exact Or.inl ⟨caches, rfl, h⟩
      | some question =>
          obtain ⟨reference, candidates⟩ := question
          obtain ⟨hscored, hlast⟩ :=
            (h.primed hhealthy).scoreAll hhealthy reference.tags.tagSet candidates
          refine Or.inl ⟨_, ?_, hlast⟩
          dsimp only
          rw [← hscored]

/-- What is computed is the answer of the store; what is remembered was computed. -/
theorem Coherent.relatedTo
    (h : Coherent config store caches) (hhealthy : store.Healthy) (id : ItemId) (limit : ℕ) :
    (Caches.relatedTo config store caches id limit).1 = store.relatedOf config id limit ∧
      Coherent config store (Caches.relatedTo config store caches id limit).2 := by
  unfold Caches.relatedTo
  cases huse : caches.related.use? (id, limit) with
  | some used =>
      obtain ⟨answer, related⟩ := used
      obtain ⟨hmem, hkept⟩ := Memo.mem_of_use? huse
      refine ⟨h.related _ hmem, ?_⟩
      exact { h with related := fun entry hentry => h.related entry (hkept entry hentry) }
  | none =>
      obtain ⟨after, hcomputed, hafter⟩ | ⟨fault, hfailed, hnothing⟩ :=
        h.computeRelated hhealthy id limit
      · rw [hcomputed]
        refine ⟨rfl, ?_⟩
        exact { hafter with
          related := by
            intro entry hentry
            rcases Memo.mem_of_mem_put hentry with rfl | hold
            · rfl
            · exact hafter.related entry hold }
      · rw [hfailed, hnothing]
        exact ⟨rfl, h⟩

/-! ## Statistics -/

theorem Coherent.readStats (h : Coherent config store caches) :
    (caches.readStats store).1 = Stats.compute store ∧
      Coherent config store (caches.readStats store).2 := by
  unfold Caches.readStats
  cases hstats : caches.stats with
  | some stats => exact ⟨(h.stats stats hstats).symm, h⟩
  | none =>
      dsimp only
      cases hcompute : Stats.compute store with
      | error fault => exact ⟨rfl, h⟩
      | ok stats =>
          refine ⟨rfl, ?_⟩
          exact { h with
            stats := by
              intro kept hkept
              rw [hcompute, Option.some.inj hkept] }

end Caches

end Gallery
