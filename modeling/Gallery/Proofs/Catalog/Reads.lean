import Gallery.Catalog.Basic

/-!
# What reading keeps

Related items, scores and statistics are made of few reads: of the names, of the weight of
one tag and of what scoring needs ahead of it.  What each of these keeps, and what does not
depend on the remembered answers, is kept by all of them.
-/

namespace Gallery

namespace Caches

variable {α : Type} [Scalar α]

/-- A property of caches that the reads of a catalog over a store keep. -/
structure KeptByReads (config : Config) (store : Store) (motive : Caches α → Prop) : Prop where
  names : ∀ {caches}, motive caches → motive (caches.names store).2
  weightFor : ∀ {caches}, motive caches → ∀ tag, motive (weightFor config store caches tag).2
  prime : ∀ {caches}, motive caches → motive (prime config store caches)
  answers : ∀ {caches}, motive caches → ∀ related stats,
    motive { caches with related := related, stats := stats }

namespace KeptByReads

variable {config : Config} {store : Store} {motive : Caches α → Prop} {caches : Caches α}

theorem weigh (hkept : KeptByReads config store motive) (h : motive caches)
    (tags : List String) : motive (Caches.weigh config store caches tags).2 := by
  induction tags generalizing caches with
  | nil => exact h
  | cons tag tags ih => exact ih (hkept.weightFor h tag)

theorem score (hkept : KeptByReads config store motive) (h : motive caches)
    (a b : List String) : motive (Caches.score config store caches a b).2 := by
  unfold Caches.score
  split
  · exact h
  · split
    · exact h
    · exact hkept.weigh h (union a b)

theorem scoreAll (hkept : KeptByReads config store motive) (h : motive caches)
    (tags : List String) (items : List Item) :
    motive (Caches.scoreAll config store tags caches items).2 := by
  induction items generalizing caches with
  | nil => exact h
  | cons item items ih => exact ih (hkept.score h tags item.tags.tagSet)

theorem computeRelated (hkept : KeptByReads config store motive) (h : motive caches)
    (id : ItemId) (limit : Nat) :
    motive (Caches.computeRelated config store caches id limit).2 := by
  unfold Caches.computeRelated
  split
  · exact h
  · exact h
  · exact hkept.scoreAll (hkept.prime h) _ _

theorem relatedTo (hkept : KeptByReads config store motive) (h : motive caches)
    (id : ItemId) (limit : Nat) :
    motive (Caches.relatedTo config store caches id limit).2 := by
  have hcomputed := hkept.computeRelated h id limit
  unfold Caches.relatedTo
  cases caches.related.use? (id, limit) with
  | some used => exact hkept.answers h _ _
  | none =>
      dsimp only
      cases hresult : Caches.computeRelated config store caches id limit with
      | mk result after =>
          rw [hresult] at hcomputed
          cases result with
          | ok answer => exact hkept.answers hcomputed _ _
          | error fault => exact hcomputed

theorem readStats (hkept : KeptByReads config store motive) (h : motive caches) :
    motive (caches.readStats store).2 := by
  unfold Caches.readStats
  split
  · exact h
  · split
    · exact hkept.answers h _ _
    · exact h

theorem execute (hkept : KeptByReads config store motive) {catalog : Catalog α}
    (h : motive catalog.caches) (query : Query) :
    motive (catalog.execute store query).2.caches := by
  unfold Catalog.execute Search.execute
  by_cases hconsults : Search.consultsDirectory query = true
  · simp only [hconsults, if_true]
    exact hkept.names h
  · simp only [hconsults]
    exact h

end KeptByReads

end Caches

end Gallery
