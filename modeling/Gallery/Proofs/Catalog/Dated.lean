import Gallery.Proofs.Catalog.Coherent
import Gallery.Proofs.Catalog.Reads

/-!
# Caches that come from several states of the store

The directory of a catalog and the snapshot of its weights are read at different moments,
and other catalogs may change the store in between.  Caches are dated if the names that
they hold were read from one store and the snapshot from another, such that the two may
stand together; every weight that is remembered was computed from two such stores.
Reading keeps caches dated and answers from two such stores.
-/

namespace Gallery

/-- The weight of a tag whose number is found in one store and weighed in another. -/
def Store.weightBetween {α : Type} [Scalar α] (named counted : Store) (config : Config)
    (tag : String) : α :=
  match named.names.id? tag with
  | none => unknownTagWeight
  | some id => counted.weightSnapshot.weight (Caches.options config) id

section WeightBetween

variable {α : Type} [Scalar α] {named counted : Store} {config : Config} {tag : String}
  {id : TagId}

theorem Store.weightBetween_of_none (hid : named.names.id? tag = none) :
    (named.weightBetween counted config tag : α) = named.weightOf config tag := by
  rw [weightBetween, weightOf, hid]

theorem Store.weightBetween_of_some (hid : named.names.id? tag = some id) :
    (named.weightBetween counted config tag : α) =
      counted.weightSnapshot.weight (Caches.options config) id := by
  rw [weightBetween, hid]

/-- A number that both stores have for the tag makes the weight that of the second. -/
theorem Store.weightBetween_of_same (hid : named.names.id? tag = some id)
    (hsame : counted.names.id? tag = some id) :
    (named.weightBetween counted config tag : α) = counted.weightOf config tag := by
  rw [weightBetween_of_some hid, weightOf, hsame]

end WeightBetween

namespace Caches

variable {α : Type} [Scalar α] {config : Config} {loaded : Store → Prop}
  {pair : Store → Store → Prop} {caches : Caches α} {store : Store}

/-- The stores that caches may come from: those of the directory, and those of a directory
and a snapshot together. -/
structure Dated (config : Config) (loaded : Store → Prop) (pair : Store → Store → Prop)
    (caches : Caches α) : Prop where
  directory : ∀ names, caches.directory.current = some names →
    ∃ named, loaded named ∧ names = named.names
  weights : ∀ generation, caches.weights.current = some generation →
    ∃ counted, generation.snapshot = counted.weightSnapshot ∧
      (∃ named, pair named counted ∧ caches.directory.current = some named.names) ∧
      ∀ entry ∈ generation.known,
        ∃ named, pair named counted ∧ entry.2 = named.weightBetween counted config entry.1

theorem dated_cold (config : Config) (loaded : Store → Prop) (pair : Store → Store → Prop) :
    Dated config loaded pair (cold config : Caches α) := by
  refine ⟨?_, ?_⟩ <;> simp [cold]

theorem Dated.imp {later : Store → Prop} {together : Store → Store → Prop}
    (h : Dated config loaded pair caches) (hloaded : ∀ named, loaded named → later named)
    (hpair : ∀ named counted, pair named counted → together named counted) :
    Dated config later together caches where
  directory := by
    intro names hnames
    obtain ⟨named, hnamed, rfl⟩ := h.directory names hnames
    exact ⟨named, hloaded named hnamed, rfl⟩
  weights := by
    intro generation hgeneration
    obtain ⟨counted, hsnapshot, ⟨named, hnamed, hnames⟩, hknown⟩ := h.weights generation hgeneration
    refine ⟨counted, hsnapshot, ⟨named, hpair _ _ hnamed, hnames⟩, ?_⟩
    intro entry hentry
    obtain ⟨other, hother, hweight⟩ := hknown entry hentry
    exact ⟨other, hpair _ _ hother, hweight⟩

/-! ## Reading -/

section Reading

variable (hhealthy : store.Healthy) (hloaded : loaded store)
  (hpair : ∀ named, loaded named → pair named store)

include hhealthy hloaded

/-- Weights are remembered only beside a directory, so none are while it is empty. -/
theorem Dated.names (h : Dated config loaded pair caches) :
    Dated config loaded pair (caches.names store).2 ∧
      ∃ named, loaded named ∧ (caches.names store).1 = named.names ∧
        (caches.names store).2.directory.current = some named.names := by
  unfold Caches.names Directory.names
  cases hcurrent : caches.directory.current with
  | some names =>
      obtain ⟨named, hnamed, rfl⟩ := h.directory names hcurrent
      exact ⟨h, named, hnamed, rfl, hcurrent⟩
  | none =>
      rw [Directory.load_of_healthy hhealthy]
      refine ⟨⟨?_, ?_⟩, store, hloaded, rfl, rfl⟩
      · intro names hnames
        exact ⟨store, hloaded, (Option.some.inj hnames).symm⟩
      · intro generation hgeneration
        obtain ⟨counted, -, ⟨named, -, hnames⟩, -⟩ := h.weights generation hgeneration
        rw [hcurrent] at hnames
        cases hnames

include hpair

omit hloaded in
theorem Dated.prime (h : Dated config loaded pair caches)
    (hcurrent : ∃ named, loaded named ∧ caches.directory.current = some named.names) :
    Dated config loaded pair { caches with weights := caches.weights.prime store } ∧
      ∃ generation, (caches.weights.prime store).current = some generation := by
  unfold WeightCache.prime
  cases hweights : caches.weights.current with
  | some generation => exact ⟨h, generation, hweights⟩
  | none =>
      rw [WeightSnapshot.take_of_healthy hhealthy]
      refine ⟨⟨h.directory, ?_⟩, _, rfl⟩
      intro generation hgeneration
      obtain ⟨named, hnamed, hnames⟩ := hcurrent
      cases hgeneration
      exact ⟨store, rfl, ⟨named, hpair named hnamed, hnames⟩, by simp⟩

theorem Dated.weightFor (h : Dated config loaded pair caches) (tag : String) :
    Dated config loaded pair (Caches.weightFor config store caches tag).2 ∧
      ∃ named counted, pair named counted ∧
        (Caches.weightFor config store caches tag).1 = named.weightBetween counted config tag := by
  obtain ⟨hread, named, hnamed, hnames, hcurrent⟩ := h.names hhealthy hloaded
  unfold Caches.weightFor
  simp only [hnames]
  cases hid : named.names.id? tag with
  | none =>
      refine ⟨hread, named, store, hpair named hnamed, ?_⟩
      rw [Store.weightBetween, hid]
  | some id =>
      obtain ⟨hprimed, generation, hgeneration⟩ :=
        hread.prime hhealthy hpair ⟨named, hnamed, hcurrent⟩
      obtain ⟨counted, hsnapshot, ⟨beside, hbeside, hsame⟩, hknown⟩ :=
        hprimed.weights generation hgeneration
      have hweight : (generation.snapshot.weight (options config) id : α) =
          beside.weightBetween counted config tag := by
        have hnumber : beside.names.id? tag = some id := by
          rw [← Option.some.inj (hcurrent.symm.trans hsame)]
          exact hid
        rw [Store.weightBetween_of_some hnumber, hsnapshot]
      unfold WeightCache.weight
      simp only [hgeneration]
      cases hfound : generation.known.find? (·.1 = tag) with
      | some entry =>
          obtain ⟨name, weight⟩ := entry
          have hname : name = tag := by simpa using List.find?_some hfound
          obtain ⟨other, hother, hremembered⟩ := hknown _ (List.mem_of_find?_eq_some hfound)
          refine ⟨hprimed, other, counted, hother, ?_⟩
          rw [← hname]
          exact hremembered
      | none =>
          refine ⟨⟨hprimed.directory, ?_⟩, beside, counted, hbeside, hweight⟩
          intro later hlater
          cases hlater
          refine ⟨counted, hsnapshot, ⟨beside, hbeside, hsame⟩, ?_⟩
          intro entry hentry
          rcases List.mem_cons.1 hentry with rfl | hold
          · exact ⟨beside, hbeside, hweight⟩
          · exact hknown entry hold

theorem Dated.primed (h : Dated config loaded pair caches) :
    Dated config loaded pair (Caches.prime config store caches) := by
  unfold Caches.prime
  split
  · exact h
  · obtain ⟨hread, named, hnamed, -, hcurrent⟩ := h.names hhealthy hloaded
    exact (hread.prime hhealthy hpair ⟨named, hnamed, hcurrent⟩).1

theorem dated_keptByReads :
    KeptByReads config store (Dated config loaded pair : Caches α → Prop) where
  names h := (h.names hhealthy hloaded).1
  weightFor h tag := (h.weightFor hhealthy hloaded hpair tag).1
  prime h := h.primed hhealthy hloaded hpair
  answers h _ _ := ⟨h.directory, h.weights⟩

end Reading

/-! ## Reading anew -/

/-- A directory that is read again stands beside the snapshot that was there before. -/
theorem Dated.reload (h : Dated config loaded pair caches) (hhealthy : store.Healthy)
    {later : Store → Prop} {together : Store → Store → Prop} (hloaded : later store)
    (hpair : ∀ named counted, pair named counted →
      together named counted ∧ together store counted) :
    Dated config later together
      { caches with directory := (caches.directory.reload store).2 } := by
  unfold Directory.reload
  rw [Directory.load_of_healthy hhealthy]
  refine ⟨?_, ?_⟩
  · intro names hnames
    exact ⟨store, hloaded, (Option.some.inj hnames).symm⟩
  · intro generation hgeneration
    obtain ⟨counted, hsnapshot, ⟨named, hnamed, -⟩, hknown⟩ := h.weights generation hgeneration
    refine ⟨counted, hsnapshot, ⟨store, (hpair _ _ hnamed).2, rfl⟩, ?_⟩
    intro entry hentry
    obtain ⟨other, hother, hweight⟩ := hknown entry hentry
    exact ⟨other, (hpair _ _ hother).1, hweight⟩

end Caches

/-- A catalog that has read its directory and no snapshot weighs by the store as it is. -/
theorem Catalog.weightFor_of_unprimed {α : Type} [Scalar α] {store : Store}
    {catalog : Catalog α} {names : TagNames} {tag : String} {id : TagId}
    (hhealthy : store.Healthy) (hnames : catalog.caches.directory.current = some names)
    (hweights : catalog.caches.weights.current = none) (hid : names.id? tag = some id) :
    (catalog.weightFor store tag).1 =
      store.weightSnapshot.weight (Caches.options catalog.config) id := by
  simp [Catalog.weightFor, Caches.weightFor, Caches.names, Directory.names, hnames, hid,
    WeightCache.weight, WeightCache.prime, hweights, WeightSnapshot.take_of_healthy hhealthy]

end Gallery
