import Gallery.Proofs.Store.Change
import Gallery.Session

/-!
# Archives

An archive is a store with any number of catalogs and any number of writers.  In
a session every catalog has one writer of its own; here a call names the catalog
and the writer that take part in it, so that several writers may announce their
changes on the bus of one catalog.

A write either leaves the store and the catalog as they were, or it makes one
change of the store and announces it.  A read leaves the store and the writers
alone.
-/

namespace Gallery

/-! ## Writers hold valid records -/

namespace Writer

def Valid (writer : Writer) : Prop :=
  ∀ record ∈ writer.buffer, record.fault? = none

variable {writer : Writer}

theorem valid_withLimit (limit : ℕ) : (withLimit limit).Valid := by
  intro record hrecord
  simp [withLimit] at hrecord

/-- What a flush leaves behind: everything as it was, or a stored batch. -/
theorem flush_cases (hvalid : writer.Valid) (store : Store) :
    (writer.flush store).writer.Valid ∧
      ((writer.flush store).announces = false ∧ (writer.flush store).store = store ∨
        (writer.flush store).announces = true ∧
          Store.Change store (writer.flush store).store) := by
  unfold flush
  by_cases hempty : writer.buffer.isEmpty = true
  · rw [if_pos hempty]
    exact ⟨hvalid, Or.inl ⟨rfl, rfl⟩⟩
  · rw [if_neg hempty]
    cases hbatch : store.storeBatch writer.buffer with
    | error fault => exact ⟨hvalid, Or.inl ⟨rfl, rfl⟩⟩
    | ok stored =>
        refine ⟨?_, Or.inr ⟨rfl, .batch hvalid hbatch⟩⟩
        intro record hrecord
        simp at hrecord

theorem add_cases (hvalid : writer.Valid) (store : Store) (record : ItemRecord) :
    (writer.add store record).writer.Valid ∧
      ((writer.add store record).announces = false ∧ (writer.add store record).store = store ∨
        (writer.add store record).announces = true ∧
          Store.Change store (writer.add store record).store) := by
  unfold add
  cases hfault : record.fault? with
  | some fault => exact ⟨hvalid, Or.inl ⟨rfl, rfl⟩⟩
  | none =>
      have hfilled : Valid { writer with buffer := writer.buffer ++ [record] } := by
        intro other hother
        rcases List.mem_append.1 hother with hold | hnew
        · exact hvalid other hold
        · rcases List.mem_singleton.1 hnew with rfl
          exact hfault
      dsimp only
      split
      · exact flush_cases hfilled store
      · exact ⟨hfilled, Or.inl ⟨rfl, rfl⟩⟩

end Writer

/-! ## Kinds of requests -/

namespace Request

def isWrite : Request → Bool
  | .add _ | .flush | .setTagCategory _ _ _ | .removeTag _ _ | .addToPool _ _
  | .setFavorite _ _ | .deleteOrphanTags => true
  | _ => false

/-- The requests that look at a catalog or at the store. -/
def isRead : Request → Bool
  | .execute _ | .related _ _ | .itemById _ | .itemByPath _ | .tagId _ | .tagName _
  | .tagIds _ | .tagNames _ | .tagCount | .reloadTags | .tagRows | .weight _
  | .similarity _ _ | .stats | .trigger => true
  | _ => false

/-- Whether a request does not go past the writers and the bus. -/
def isOrdinary (request : Request) : Bool :=
  request.isWrite || request.isRead

end Request

namespace Peer

variable {α : Type} {store : Store}

/-- What a write makes of a store and of the catalog that it is announced to. -/
inductive Written (store : Store) (catalog : Catalog α) : Store → Catalog α → Prop
  | nothing : Written store catalog store catalog
  | change {next : Store} (change : Store.Change store next) :
      Written store catalog next (catalog.announce next).2

theorem looked_store
    {β : Type} (peer : Peer α) (store : Store) (answer : β → Answer α)
    (result : Except StoreError β) :
    (peer.looked store answer result).store = store ∧
      (peer.looked store answer result).peer = peer := by
  unfold looked
  split <;> exact ⟨rfl, rfl⟩

theorem Written.store_eq_or_change
    {next : Store} {catalog after : Catalog α} (hwritten : Written store catalog next after) :
    next = store ∨ Store.Change store next := by
  cases hwritten with
  | nothing => exact Or.inl rfl
  | change hchange => exact Or.inr hchange

theorem written_wrote
    (peer : Peer α) {outcome : Writer.Outcome}
    (houtcome : outcome.announces = false ∧ outcome.store = store ∨
      outcome.announces = true ∧ Store.Change store outcome.store) :
    Written store peer.catalog (peer.wrote outcome).store (peer.wrote outcome).peer.catalog := by
  rcases houtcome with ⟨hsilent, hstore⟩ | ⟨hannounced, hchange⟩
  · simp only [wrote, announceIf, hsilent, hstore]
    exact .nothing
  · simp only [wrote, announceIf, hannounced, if_true]
    exact .change hchange

theorem written_changed
    {β : Type} (peer : Peer α) {result : Except StoreError (β × Store)}
    (answer : β → Answer α) (announces : β → Bool)
    (hresult : ∀ value next, result = .ok (value, next) →
      announces value = false ∧ next = store ∨
        announces value = true ∧ Store.Change store next) :
    Written store peer.catalog (peer.changed store result answer announces).store
      (peer.changed store result answer announces).peer.catalog := by
  cases result with
  | error fault => exact .nothing
  | ok done =>
      obtain ⟨value, next⟩ := done
      rcases hresult value next rfl with ⟨hsilent, rfl⟩ | ⟨hannounced, hchange⟩
      · simp only [changed, announceIf, hsilent]
        exact .nothing
      · simp only [changed, announceIf, hannounced, if_true]
        exact .change hchange

theorem changed_writer
    {β : Type} (peer : Peer α) (result : Except StoreError (β × Store))
    (answer : β → Answer α) (announces : β → Bool) :
    (peer.changed store result answer announces).peer.writer = peer.writer := by
  unfold changed announceIf
  split
  · split <;> rfl
  · rfl

/-- A change that answers whether it did anything is announced if it did. -/
theorem setTagCategory_announced
    (hhealthy : store.Healthy) {name : String} {category : Category}
    {subcategory : Option Subcategory} {found : Bool} {next : Store}
    (hdone : store.setTagCategory name category subcategory = .ok (found, next)) :
    found = false ∧ next = store ∨ found = true ∧ Store.Change store next := by
  cases found with
  | true => exact Or.inr ⟨rfl, .category hdone⟩
  | false =>
      rw [Store.setTagCategory_of_healthy hhealthy] at hdone
      split at hdone
      · cases hdone
        exact Or.inl ⟨rfl, rfl⟩
      · cases hdone

theorem removeTag_announced
    (hhealthy : store.Healthy) {path tag : String} {found : Bool} {next : Store}
    (hdone : store.removeTag path tag = .ok (found, next)) :
    found = false ∧ next = store ∨ found = true ∧ Store.Change store next := by
  cases found with
  | true => exact Or.inr ⟨rfl, .removal hdone⟩
  | false =>
      rw [Store.removeTag_of_healthy hhealthy] at hdone
      split at hdone
      · cases hdone
      · split at hdone
        · cases hdone
          exact Or.inl ⟨rfl, rfl⟩
        · split at hdone
          · cases hdone
          · cases hdone
            exact Or.inl ⟨rfl, rfl⟩

/-- Removing no tags changes nothing, which is why it need not be announced. -/
theorem deleteOrphanTags_announced
    (hhealthy : store.Healthy) {count : ℕ} {next : Store}
    (hdone : store.deleteOrphanTags = .ok (count, next)) :
    decide (0 < count) = false ∧ next = store ∨
      decide (0 < count) = true ∧ Store.Change store next := by
  by_cases hcount : 0 < count
  · exact Or.inr ⟨decide_eq_true hcount, .orphans hdone⟩
  · refine Or.inl ⟨decide_eq_false hcount, ?_⟩
    rw [Store.deleteOrphanTags_of_healthy hhealthy] at hdone
    cases hdone
    have hnone : store.tags.filter store.isOrphan = [] := by
      rw [← List.length_eq_zero_iff]
      omega
    have hall : store.tags.filter (! store.isOrphan ·) = store.tags := by
      rw [List.filter_eq_self]
      intro tag htag
      simpa using List.filter_eq_nil_iff.1 hnone tag htag
    rw [Store.pruned, hall]

theorem map_unit_eq_ok
    {result : Except StoreError Store} {value : Unit} {next : Store}
    (hresult : result.map ((), ·) = .ok (value, next)) : result = .ok next := by
  cases result with
  | error fault => cases hresult
  | ok stored =>
      cases hresult
      rfl

variable [Scalar α]

/-- A write leaves store and catalog alone or makes one change and announces it. -/
theorem step_write
    (hhealthy : store.Healthy) (peer : Peer α) (hvalid : peer.writer.Valid)
    {request : Request} (hwrite : request.isWrite = true) :
    (peer.step store request).peer.writer.Valid ∧
      Written store peer.catalog (peer.step store request).store
        (peer.step store request).peer.catalog := by
  cases request with
  | add record =>
      obtain ⟨hwriter, houtcome⟩ := Writer.add_cases hvalid store record
      refine ⟨?_, written_wrote peer houtcome⟩
      unfold step wrote announceIf
      dsimp only
      split <;> exact hwriter
  | flush =>
      obtain ⟨hwriter, houtcome⟩ := Writer.flush_cases hvalid store
      refine ⟨?_, written_wrote peer houtcome⟩
      unfold step wrote announceIf
      dsimp only
      split <;> exact hwriter
  | setTagCategory tag category subcategory =>
      refine ⟨?_, written_changed peer _ _ ?_⟩
      · simpa only [step, changed_writer] using hvalid
      · exact fun found next hdone => setTagCategory_announced hhealthy hdone
  | removeTag path tag =>
      refine ⟨?_, written_changed peer _ _ ?_⟩
      · simpa only [step, changed_writer] using hvalid
      · exact fun found next hdone => removeTag_announced hhealthy hdone
  | addToPool pool path =>
      refine ⟨?_, written_changed peer _ _ ?_⟩
      · simpa only [step, changed_writer] using hvalid
      · exact fun value next hdone => Or.inr ⟨rfl, .pool (map_unit_eq_ok hdone)⟩
  | setFavorite path favorite =>
      refine ⟨?_, written_changed peer _ _ ?_⟩
      · simpa only [step, changed_writer] using hvalid
      · exact fun value next hdone => Or.inr ⟨rfl, .favorite (map_unit_eq_ok hdone)⟩
  | deleteOrphanTags =>
      refine ⟨?_, written_changed peer _ _ ?_⟩
      · simpa only [step, changed_writer] using hvalid
      · exact fun count next hdone => deleteOrphanTags_announced hhealthy hdone
  | _ => simp [Request.isWrite] at hwrite

theorem step_read
    (peer : Peer α) (store : Store) {request : Request} (hread : request.isRead = true) :
    (peer.step store request).store = store ∧
      (peer.step store request).peer.writer = peer.writer := by
  cases request with
  | itemById _ | itemByPath _ | tagRows =>
      exact ⟨(looked_store ..).1, congrArg Peer.writer (looked_store ..).2⟩
  | execute _ | related _ _ | tagId _ | tagName _ | tagIds _ | tagNames _ | tagCount
  | reloadTags | weight _ | similarity _ _ | stats | trigger => exact ⟨rfl, rfl⟩
  | _ => simp [Request.isRead] at hread

end Peer

/-! ## Archives and their runs -/

structure Archive (α : Type) where
  store : Store
  catalogs : ℕ → Catalog α
  writers : ℕ → Writer

/-- A request to a catalog, carried out through a writer if it is a write. -/
structure Call where
  catalog : ℕ
  writer : ℕ
  request : Request

namespace Archive

variable {α : Type}

def opened (store : Store) (configs : ℕ → Config) (limits : ℕ → ℕ) : Archive α where
  store := store
  catalogs := fun catalog => .fresh (configs catalog)
  writers := fun writer => .withLimit (limits writer)

def Valid (archive : Archive α) : Prop :=
  ∀ writer, (archive.writers writer).Valid

theorem valid_opened (store : Store) (configs : ℕ → Config) (limits : ℕ → ℕ) :
    (opened store configs limits : Archive α).Valid :=
  fun writer => Writer.valid_withLimit (limits writer)

variable [Scalar α]

def asked (archive : Archive α) (call : Call) : Peer.Step α :=
  Peer.step ⟨archive.catalogs call.catalog, archive.writers call.writer⟩ archive.store
    call.request

def step (archive : Archive α) (call : Call) : Archive α where
  store := (archive.asked call).store
  catalogs := Function.update archive.catalogs call.catalog (archive.asked call).peer.catalog
  writers := Function.update archive.writers call.writer (archive.asked call).peer.writer

def run (archive : Archive α) (calls : List Call) : Archive α :=
  calls.foldl step archive

theorem step_store
    {archive : Archive α} (hhealthy : archive.store.Healthy) (hvalid : archive.Valid)
    {call : Call} (hordinary : call.request.isOrdinary = true) :
    (archive.step call).Valid ∧
      ((archive.step call).store = archive.store ∨
        Store.Change archive.store (archive.step call).store) := by
  have hasked :
      (archive.asked call).peer.writer.Valid ∧
        ((archive.asked call).store = archive.store ∨
          Store.Change archive.store (archive.asked call).store) := by
    rcases Bool.or_eq_true_iff.1 hordinary with hwrite | hread
    · obtain ⟨hwriter, hwritten⟩ := Peer.step_write hhealthy
        ⟨archive.catalogs call.catalog, archive.writers call.writer⟩ (hvalid call.writer) hwrite
      exact ⟨hwriter, hwritten.store_eq_or_change⟩
    · obtain ⟨hstore, hwriter⟩ := Peer.step_read
        ⟨archive.catalogs call.catalog, archive.writers call.writer⟩ archive.store hread
      refine ⟨?_, Or.inl hstore⟩
      rw [asked, hwriter]
      exact hvalid call.writer
  refine ⟨?_, hasked.2⟩
  intro writer
  by_cases hwriter : writer = call.writer
  · subst hwriter
    simpa [step] using hasked.1
  · simpa [step, hwriter] using hvalid writer

/-- What every call keeps is kept by a run. -/
theorem run_induction
    {motive : Archive α → Prop} {archive : Archive α} {calls : List Call}
    (hstart : motive archive)
    (hstep : ∀ before, motive before → ∀ call ∈ calls, motive (before.step call)) :
    motive (archive.run calls) :=
  List.foldlRecOn calls step hstart hstep

theorem reachable_run
    (configs : ℕ → Config) (limits : ℕ → ℕ) {calls : List Call}
    (hordinary : ∀ call ∈ calls, call.request.isOrdinary = true) :
    ((opened {} configs limits : Archive α).run calls).store.Reachable := by
  refine (run_induction
    (motive := fun archive : Archive α =>
      archive.Valid ∧ archive.store.Healthy ∧ archive.store.Reachable)
    ⟨valid_opened {} configs limits, Store.healthy_empty, .refl⟩ ?_).2.2
  rintro archive ⟨hvalid, hhealthy, hreachable⟩ call hcall
  obtain ⟨hkept, hsame | hchange⟩ := step_store hhealthy hvalid (hordinary call hcall)
  · rw [hsame]
    exact ⟨hkept, hhealthy, hreachable⟩
  · exact ⟨hkept, hchange.healthy hhealthy, hreachable.tail hchange⟩

end Archive

end Gallery
