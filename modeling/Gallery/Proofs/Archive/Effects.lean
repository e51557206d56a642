import Gallery.Proofs.Archive.Accounting
import Gallery.Proofs.Store.Consistent
import Gallery.Proofs.Store.Tags

/-!
# What a request makes of the store

A change of the store does not say who asked for it.  `Archive.Effect` does: it relates
a store to the one after a request, with the batch that was stored if there was one,
and every other change is named beside the request that brings it about.  What holds
after a run is proved from this relation by `stored_induction`, along with the records
that were stored so far.
-/

namespace Gallery

/-- The category that a request asks for the tag of a name. -/
def Request.movedTo? (name : String) : Request → Option Category
  | .setTagCategory tag category _ => if tag = name then some category else none
  | _ => none

theorem Request.movedTo?_of_isBuffered {request : Request}
    (hbuffered : request.isBuffered = true) (name : String) : request.movedTo? name = none := by
  cases request with
  | add _ | flush => rfl
  | _ => cases hbuffered

namespace Archive

/-- Whether a request may come to nothing: the move of a tag does so only where there is
no such tag. -/
def MayFail (store : Store) : Request → Prop
  | .setTagCategory name _ _ => ∀ tag ∈ store.tags, tag.name ≠ name
  | _ => True

/-- What a request leaves of a healthy store, and the batch that it stored. -/
inductive Effect (store : Store) : Request → Option (List ItemRecord) → Store → Prop
  | nothing {request : Request} (failed : MayFail store request) :
      Effect store request none store
  | batch {request : Request} {batch : List ItemRecord} {next : Store}
      (buffered : request.isBuffered = true)
      (valid : ∀ record ∈ batch, record.fault? = none)
      (done : store.storeBatch batch = .ok next) : Effect store request (some batch) next
  | category {tag : Tag} (known : tag ∈ store.tags) (category : Category)
      (subcategory : Option Subcategory) :
      Effect store (.setTagCategory tag.name category subcategory) none
        ((store.carriers tag.id).foldl Store.refreshed
          (store.recategorized tag.name category (Store.keptSubcategory category subcategory)))
  | removal {path name : String} {item : StoredItem} {tag : Tag} (stored : item ∈ store.items)
      (known : tag ∈ store.tags) (attached : store.isAttached item.id tag.id = true) :
      Effect store (.removeTag path name) none ((store.detached item.id tag.id).refreshed item.id)
  | pool {path : String} (pool : String) {item : StoredItem} (stored : item ∈ store.items) :
      Effect store (.addToPool pool path) none (store.pooled pool item.id)
  | favorite {path : String} (favorite : Bool) {item : StoredItem}
      (stored : item ∈ store.items) :
      Effect store (.setFavorite path favorite) none (store.marked item.id favorite)
  | orphans : Effect store .deleteOrphanTags none store.pruned

/-! ## Single changes -/

section Changes

variable {store next : Store} {found : Bool}

theorem effect_of_setTagCategory {α : Type} [Scalar α] (hhealthy : store.Healthy)
    (peer : Peer α) (name : String) (category : Category) (subcategory : Option Subcategory) :
    Effect store (.setTagCategory name category subcategory) none
      (peer.step store (.setTagCategory name category subcategory)).store := by
  simp only [Peer.step]
  rw [Store.setTagCategory_of_healthy hhealthy]
  cases htag : store.tagNamed? name with
  | none =>
      apply Effect.nothing
      intro tag hmem hname
      simpa [hname] using List.find?_eq_none.1 htag tag hmem
  | some tag =>
      obtain ⟨hmem, rfl⟩ := Store.mem_of_tagNamed? htag
      exact .category hmem category subcategory

theorem effect_of_removeTag (hhealthy : store.Healthy) {path name : String}
    (hdone : store.removeTag path name = .ok (found, next)) :
    Effect store (.removeTag path name) none next := by
  obtain ⟨-, rfl⟩ | ⟨rfl, -⟩ := Peer.removeTag_announced hhealthy hdone
  · exact .nothing trivial
  · obtain ⟨item, hitem, tag, htag, hattached, rfl⟩ := Store.removeTag_ok hhealthy hdone
    exact .removal hitem htag hattached

/-- A refused change leaves the store as it was. -/
theorem effect_changed {α β : Type} {request : Request} (hmay : MayFail store request)
    (peer : Peer α) {result : Except StoreError (β × Store)} (answer : β → Answer α)
    (announces : β → Bool)
    (hresult : ∀ value next, result = .ok (value, next) → Effect store request none next) :
    Effect store request none (peer.changed store result answer announces).store := by
  cases result with
  | error fault => exact .nothing hmay
  | ok done => exact hresult done.1 done.2 rfl

theorem effect_of_not_buffered {α : Type} [Scalar α] (hhealthy : store.Healthy)
    (peer : Peer α) {request : Request} (hordinary : request.isOrdinary = true)
    (hbuffered : request.isBuffered = false) :
    Effect store request none (peer.step store request).store := by
  cases request with
  | setTagCategory name category subcategory =>
      exact effect_of_setTagCategory hhealthy peer name category subcategory
  | removeTag path name =>
      apply effect_changed
      · exact trivial
      · exact fun found next hdone => effect_of_removeTag hhealthy hdone
  | addToPool pool path =>
      apply effect_changed
      · exact trivial
      · intro value next hdone
        obtain ⟨item, hitem, rfl⟩ := Store.addToPool_ok hhealthy (Peer.map_unit_eq_ok hdone)
        exact .pool pool hitem
  | setFavorite path favorite =>
      apply effect_changed
      · exact trivial
      · intro value next hdone
        obtain ⟨item, hitem, rfl⟩ := Store.setFavorite_ok hhealthy (Peer.map_unit_eq_ok hdone)
        exact .favorite favorite hitem
  | deleteOrphanTags =>
      apply effect_changed
      · exact trivial
      · intro count next hdone
        rw [Store.deleteOrphanTags_of_healthy hhealthy] at hdone
        cases hdone
        exact .orphans
  | add _ | flush => cases hbuffered
  | insertTag _ _ _ _ | drop _ | unregisterAll => cases hordinary
  | itemById _ | itemByPath _ | tagRows =>
      rw [(peer.step_read store rfl).1]
      exact .nothing trivial
  | _ => exact .nothing trivial

end Changes

/-! ## What becomes of tags -/

section Tags

variable {store next : Store} {request : Request} {batch? : Option (List ItemRecord)}

/-- The category of a tag is that of its first assignment until the tag is moved. -/
theorem Effect.origin_of_tag (heffect : Effect store request batch? next)
    (hhealthy : store.Healthy) {tag : Tag} (htag : tag ∈ next.tags) :
    request.movedTo? tag.name = some tag.category ∨
      request.movedTo? tag.name = none ∧
        ((∃ old ∈ store.tags, old.name = tag.name ∧ old.category = tag.category) ∨
          ∃ assigned : TagAssignment, tag.name = assigned.name ∧
            tag.category = assigned.effectiveCategory) := by
  cases heffect with
  | nothing failed =>
      refine .inr ⟨?_, .inl ⟨tag, htag, rfl, rfl⟩⟩
      cases request with
      | setTagCategory name category subcategory => exact if_neg (failed tag htag).symm
      | _ => rfl
  | batch buffered valid done =>
      refine .inr ⟨Request.movedTo?_of_isBuffered buffered tag.name, ?_⟩
      rcases (Store.tagsFrom_storeBatch hhealthy done).new tag htag with hold | hassigned
      · exact .inl ⟨tag, hold, rfl, rfl⟩
      · exact .inr hassigned
  | @category moved known category subcategory =>
      rw [Store.tags_refreshed_foldl] at htag
      obtain ⟨old, hold, rfl⟩ := List.mem_map.1 htag
      by_cases hname : old.name = moved.name
      · rw [if_pos hname]
        exact .inl (if_pos hname.symm)
      · rw [if_neg hname]
        exact .inr ⟨if_neg (Ne.symm hname), .inl ⟨old, hold, rfl, rfl⟩⟩
  | pool pool stored =>
      rw [Store.pooled_eq] at htag
      exact .inr ⟨rfl, .inl ⟨tag, htag, rfl, rfl⟩⟩
  | favorite favorite stored =>
      rw [Store.marked_eq] at htag
      exact .inr ⟨rfl, .inl ⟨tag, htag, rfl, rfl⟩⟩
  | orphans => exact .inr ⟨rfl, .inl ⟨tag, List.mem_of_mem_filter htag, rfl, rfl⟩⟩
  | removal _ _ _ => exact .inr ⟨rfl, .inl ⟨tag, htag, rfl, rfl⟩⟩

/-- A tag keeps its number and its name until it is removed for want of items. -/
theorem Effect.keeps_tag (heffect : Effect store request batch? next)
    (hhealthy : store.Healthy) (hrequest : request ≠ .deleteOrphanTags) {tag : Tag}
    (htag : tag ∈ store.tags) :
    ∃ later ∈ next.tags, later.id = tag.id ∧ later.name = tag.name := by
  cases heffect with
  | batch buffered valid done =>
      exact ⟨tag, (Store.tagsFrom_storeBatch hhealthy done).kept.subset htag, rfl, rfl⟩
  | category known category subcategory =>
      rw [Store.tags_refreshed_foldl]
      refine ⟨_, List.mem_map_of_mem htag, ?_⟩
      split <;> exact ⟨rfl, rfl⟩
  | pool pool stored => exact ⟨tag, by rwa [Store.pooled_eq], rfl, rfl⟩
  | favorite favorite stored => exact ⟨tag, by rwa [Store.marked_eq], rfl, rfl⟩
  | orphans => exact absurd rfl hrequest
  | nothing _ | removal _ _ _ => exact ⟨tag, htag, rfl, rfl⟩

end Tags

/-! ## Calls -/

variable {α : Type} {archive : Archive α} {call : Call}

theorem fault?_of_mem_taken {request : Request} {record : ItemRecord}
    (hrecord : record ∈ request.taken) : record.fault? = none := by
  cases request with
  | add given =>
      simp only [Request.taken] at hrecord
      split at hrecord
      · rwa [List.mem_singleton.1 hrecord]
      · cases hrecord
  | _ => cases hrecord

theorem fault?_of_mem_batch? (hvalid : archive.Valid) {batch : List ItemRecord}
    (hbatch : archive.batch? call = some batch) :
    ∀ record ∈ batch, record.fault? = none := by
  intro record hrecord
  unfold batch? at hbatch
  split at hbatch
  · cases hbatch
    rcases List.mem_append.1 hrecord with hheld | htaken
    · exact hvalid call.writer record hheld
    · exact fault?_of_mem_taken htaken
  · cases hbatch

theorem batch?_of_not_buffered (hbuffered : call.request.isBuffered = false) :
    archive.batch? call = none := by
  have hnothing : archive.outcome? call = none := by
    unfold outcome?
    cases hrequest : call.request with
    | add _ | flush => simp [hrequest, Request.isBuffered] at hbuffered
    | _ => rfl
  simp [batch?, announced, hnothing]

/-- An archive whose writers hold valid records over a consistent store. -/
structure Live (archive : Archive α) : Prop where
  valid : archive.Valid
  consistent : archive.store.Consistent

theorem live_opened {store : Store} (hconsistent : store.Consistent) (configs : ℕ → Config)
    (limits : ℕ → ℕ) : (opened store configs limits : Archive α).Live :=
  ⟨valid_opened store configs limits, hconsistent⟩

variable [Scalar α]

theorem effect_step (hhealthy : archive.store.Healthy) (hvalid : archive.Valid)
    (hordinary : call.request.isOrdinary = true) :
    Effect archive.store call.request (archive.batch? call) (archive.step call).store := by
  cases hbuffered : call.request.isBuffered with
  | false =>
      rw [batch?_of_not_buffered hbuffered]
      exact effect_of_not_buffered hhealthy _ hordinary hbuffered
  | true =>
      cases hbatch : archive.batch? call with
      | none =>
          rw [step_store_of_batch?_none hbuffered hbatch]
          apply Effect.nothing
          unfold MayFail
          split
          · next hrequest => simp [hrequest, Request.isBuffered] at hbuffered
          · trivial
      | some batch =>
          exact .batch hbuffered (fault?_of_mem_batch? hvalid hbatch) (storeBatch_of_batch? hbatch)

/-! ## Runs -/

theorem Live.step (h : archive.Live) (hordinary : call.request.isOrdinary = true) :
    (archive.step call).Live := by
  obtain ⟨hvalid, hsame | hchange⟩ := step_store h.consistent.sound.healthy h.valid hordinary
  · exact ⟨hvalid, hsame ▸ h.consistent⟩
  · exact ⟨hvalid, hchange.consistent h.consistent⟩

theorem Live.effect (h : archive.Live) (hordinary : call.request.isOrdinary = true) :
    Effect archive.store call.request (archive.batch? call) (archive.step call).store :=
  effect_step h.consistent.sound.healthy h.valid hordinary

theorem Live.run {calls : List Call} (h : archive.Live)
    (hordinary : ∀ call ∈ calls, call.request.isOrdinary = true) : (archive.run calls).Live :=
  run_induction h fun _ hbefore call hcall => hbefore.step (hordinary call hcall)

theorem run_concat (archive : Archive α) (calls : List Call) (call : Call) :
    archive.run (calls ++ [call]) = (archive.run calls).step call := by
  simp [run]

/-- The records that are stored over some calls, in the order in which they are. -/
def stored (archive : Archive α) (calls : List Call) : List ItemRecord :=
  (archive.batches calls).flatMap (·.2)

theorem stored_concat (archive : Archive α) (calls : List Call) (call : Call) :
    archive.stored (calls ++ [call]) =
      archive.stored calls ++ ((archive.run calls).batch? call).toList.flatten := by
  induction calls generalizing archive with
  | nil => cases hbatch : archive.batch? call <;> simp [stored, batches, run, hbatch]
  | cons first calls ih =>
      have hrest := ih (archive.step first)
      simp only [stored, List.cons_append, batches, List.flatMap_append] at hrest ⊢
      rw [hrest, List.append_assoc]
      rfl

/-- What every effect keeps of the calls so far, of the records stored by them and of the
store holds after a run, in which each call finds what the calls before it have made of
the archive. -/
theorem stored_induction {motive : List Call → List ItemRecord → Store → Prop}
    {calls : List Call} (hlive : archive.Live)
    (hordinary : ∀ call ∈ calls, call.request.isOrdinary = true)
    (hstart : motive [] [] archive.store)
    (hstep : ∀ before call records batch? store next, store.Consistent →
      motive before records store → Effect store call.request batch? next →
      motive (before ++ [call]) (records ++ batch?.toList.flatten) next) :
    motive calls (archive.stored calls) (archive.run calls).store := by
  induction calls using List.reverseRecOn with
  | nil => exact hstart
  | append_singleton before call ih =>
      have hbefore : ∀ earlier ∈ before, earlier.request.isOrdinary = true :=
        fun earlier hearlier => hordinary earlier (List.mem_append_left _ hearlier)
      have hthen := hlive.run hbefore
      rw [stored_concat, run_concat]
      apply hstep before call _ _ _ _ hthen.consistent (ih hbefore)
      exact hthen.effect (hordinary call (by simp))

end Archive

end Gallery
