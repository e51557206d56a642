import Gallery.Proofs.Archive.Basic

/-!
# Where the records of a writer are

Every valid record that was handed to a writer is either in a batch that it has stored
or still in its buffer, and the order is kept.  A writer changes the store by storing
a batch and in no other way.  What fails leaves the store and all catalogs as they
were, whatever the other writers did before.

Nothing is assumed about the store, so relations may also be missing from it.
-/

namespace Gallery

/-! ## What a writer makes of the records that it takes -/

def Request.taken : Request → List ItemRecord
  | .add record => if record.fault? = none then [record] else []
  | _ => []

def Request.isBuffered : Request → Bool
  | .add _ | .flush => true
  | _ => false

namespace Writer

/-- What may come of a request that goes through the buffer of a writer. -/
inductive Handles (writer : Writer) (store : Store) (request : Request) : Outcome → Prop
  | rejects {record : ItemRecord} {fault : RecordFault}
      (asked : request = .add record) (invalid : record.fault? = some fault) :
      Handles writer store request ⟨.error (.invalidRecord fault), writer, store, false⟩
  | waits :
      Handles writer store request
        ⟨.ok (), { writer with buffer := writer.buffer ++ request.taken }, store, false⟩
  | stores {next : Store}
      (done : store.storeBatch (writer.buffer ++ request.taken) = .ok next) :
      Handles writer store request ⟨.ok (), { writer with buffer := [] }, next, true⟩
  | fails {fault : StoreError}
      (failed : store.storeBatch (writer.buffer ++ request.taken) = .error fault) :
      Handles writer store request
        ⟨.error (.store fault), { writer with buffer := writer.buffer ++ request.taken }, store,
          false⟩

variable {writer : Writer} {store : Store}

theorem handles_flush_filled (writer : Writer) (store : Store) (request : Request) :
    Handles writer store request
      (flush { writer with buffer := writer.buffer ++ request.taken } store) := by
  unfold flush
  dsimp only
  by_cases hempty : (writer.buffer ++ request.taken).isEmpty = true
  · rw [if_pos hempty]
    exact .waits
  · rw [if_neg hempty]
    cases hbatch : store.storeBatch (writer.buffer ++ request.taken) with
    | ok next => exact .stores hbatch
    | error fault => exact .fails hbatch

theorem handles_flush (writer : Writer) (store : Store) :
    Handles writer store .flush (writer.flush store) := by
  have hfilled := handles_flush_filled writer store .flush
  simp only [Request.taken, List.append_nil] at hfilled
  exact hfilled

theorem handles_add (writer : Writer) (store : Store) (record : ItemRecord) :
    Handles writer store (.add record) (writer.add store record) := by
  unfold add
  cases hfault : record.fault? with
  | some fault => exact .rejects rfl hfault
  | none =>
      have htaken : (Request.add record).taken = [record] := by simp [Request.taken, hfault]
      have hflushed := handles_flush_filled writer store (.add record)
      have hkept : Handles writer store (.add record) _ := .waits
      rw [htaken] at hflushed hkept
      dsimp only
      split
      · exact hflushed
      · exact hkept

theorem buffer_flush_of_ok (hdone : (writer.flush store).result = .ok ()) :
    (writer.flush store).writer.buffer = [] := by
  unfold flush at hdone ⊢
  by_cases hempty : writer.buffer.isEmpty = true
  · rw [if_pos hempty]
    exact List.isEmpty_iff.1 hempty
  · rw [if_neg hempty] at hdone ⊢
    split
    · rfl
    · simp_all

theorem add_of_fault
    {record : ItemRecord} {fault : RecordFault} (hfault : record.fault? = some fault) :
    writer.add store record = ⟨.error (.invalidRecord fault), writer, store, false⟩ := by
  simp only [add, hfault]

end Writer

/-! ## What a call makes of an archive -/

namespace Archive

variable {α : Type}

/-- What came of the writer's part in a call that goes through its buffer. -/
def outcome? (archive : Archive α) (call : Call) : Option Writer.Outcome :=
  match call.request with
  | .add record => some ((archive.writers call.writer).add archive.store record)
  | .flush => some ((archive.writers call.writer).flush archive.store)
  | _ => none

def announced (archive : Archive α) (call : Call) : Bool :=
  (archive.outcome? call).any (·.announces)

/-- The batch that a call stores: all that its writer holds by then. -/
def batch? (archive : Archive α) (call : Call) : Option (List ItemRecord) :=
  if archive.announced call then
    some ((archive.writers call.writer).buffer ++ call.request.taken)
  else none

def handed (writer : ℕ) (calls : List Call) : List ItemRecord :=
  calls.flatMap fun call => if call.writer = writer then call.request.taken else []

section Outcomes

variable {archive : Archive α} {call : Call} {outcome : Writer.Outcome}

theorem handles_of_outcome? (houtcome : archive.outcome? call = some outcome) :
    Writer.Handles (archive.writers call.writer) archive.store call.request outcome := by
  unfold outcome? at houtcome
  split at houtcome
  · rename_i record hrequest
    cases houtcome
    rw [hrequest]
    exact Writer.handles_add _ _ record
  · rename_i hrequest
    cases houtcome
    rw [hrequest]
    exact Writer.handles_flush _ _
  · cases houtcome

theorem announced_of_outcome? (houtcome : archive.outcome? call = some outcome) :
    archive.announced call = outcome.announces := by
  simp [announced, houtcome]

theorem batch?_of_outcome? (houtcome : archive.outcome? call = some outcome) :
    archive.batch? call =
      if outcome.announces then
        some ((archive.writers call.writer).buffer ++ call.request.taken)
      else none := by
  rw [batch?, announced_of_outcome? houtcome]

theorem exists_outcome?_of_isBuffered (hbuffered : call.request.isBuffered = true) :
    ∃ outcome, archive.outcome? call = some outcome := by
  unfold outcome?
  cases hrequest : call.request with
  | add record => exact ⟨_, rfl⟩
  | flush => exact ⟨_, rfl⟩
  | _ => simp [hrequest, Request.isBuffered] at hbuffered

theorem taken_of_outcome?_none (houtcome : archive.outcome? call = none) :
    call.request.taken = [] := by
  unfold outcome? at houtcome
  cases hrequest : call.request with
  | add record => simp [hrequest] at houtcome
  | flush => simp [hrequest] at houtcome
  | _ => rfl

end Outcomes

variable [Scalar α]

/-- The batches that are stored over some calls, the oldest first, each with its writer. -/
def batches (archive : Archive α) : List Call → List (ℕ × List ItemRecord)
  | [] => []
  | call :: calls =>
    (archive.batch? call).toList.map (call.writer, ·) ++ (archive.step call).batches calls

def committed (archive : Archive α) (writer : ℕ) (calls : List Call) : List (List ItemRecord) :=
  ((archive.batches calls).filter (·.1 = writer)).map (·.2)

/-- What a call through a buffer does to an archive: all of it, or nothing. -/
structure Atomic (archive : Archive α) (call : Call) : Prop where
  stores : ∀ batch, archive.batch? call = some batch →
    archive.store.storeBatch batch = .ok (archive.step call).store
  keeps : call.request.isBuffered = true → archive.batch? call = none →
    (archive.step call).store = archive.store
  flushed : call.request = .flush → (archive.asked call).answer = .done →
    ((archive.step call).writers call.writer).buffer = []
  /-- A flush fails only if the store refuses the batch, and then nothing has changed. -/
  flushFails : ∀ error, call.request = .flush → (archive.asked call).answer = .failed error →
    (∃ fault, error = .store fault ∧
      archive.store.storeBatch (archive.writers call.writer).buffer = .error fault) ∧
    archive.announced call = false ∧ archive.step call = archive
  /-- Where a full buffer could not be flushed, it holds the new record, and nothing else
  has changed. -/
  addFails : ∀ record error, call.request = .add record → record.fault? = none →
    (archive.asked call).answer = .failed error →
    (∃ fault, error = .store fault ∧
      archive.store.storeBatch ((archive.writers call.writer).buffer ++ [record]) =
        .error fault) ∧
    archive.announced call = false ∧
    archive.step call =
      { archive with
        writers := Function.update archive.writers call.writer
          { archive.writers call.writer with
            buffer := (archive.writers call.writer).buffer ++ [record] } }
  addRejects : ∀ record fault, call.request = .add record → record.fault? = some fault →
    (archive.asked call).answer = .failed (.invalidRecord fault) ∧
    archive.announced call = false ∧ archive.step call = archive

variable {archive : Archive α} {call : Call} {outcome : Writer.Outcome}

theorem asked_of_outcome? (houtcome : archive.outcome? call = some outcome) :
    archive.asked call =
      Peer.wrote ⟨archive.catalogs call.catalog, archive.writers call.writer⟩ outcome := by
  unfold outcome? at houtcome
  unfold asked Peer.step
  split at houtcome
  · rename_i record hrequest
    cases houtcome
    rw [hrequest]
  · rename_i hrequest
    cases houtcome
    rw [hrequest]
  · cases houtcome

theorem step_store_of_outcome? (houtcome : archive.outcome? call = some outcome) :
    (archive.step call).store = outcome.store := by
  unfold step
  rw [asked_of_outcome? houtcome]
  rfl

theorem step_writer_of_outcome? (houtcome : archive.outcome? call = some outcome) :
    (archive.step call).writers call.writer = outcome.writer := by
  unfold step
  rw [asked_of_outcome? houtcome]
  simp only [Function.update_self]
  unfold Peer.wrote Peer.announceIf
  cases outcome.announces <;> rfl

/-- Where nothing is announced, only the writer and the store can have changed. -/
theorem step_of_silent
    (houtcome : archive.outcome? call = some outcome) (hsilent : outcome.announces = false) :
    archive.step call =
      { archive with
        store := outcome.store
        writers := Function.update archive.writers call.writer outcome.writer } := by
  unfold step
  rw [asked_of_outcome? houtcome]
  simp [Peer.wrote, Peer.announceIf, hsilent]

theorem answer_of_outcome? (houtcome : archive.outcome? call = some outcome) :
    (archive.asked call).answer =
      match outcome.result with
      | .ok () => .done
      | .error error => .failed error := by
  rw [asked_of_outcome? houtcome]
  rfl

theorem step_writer_of_outcome?_none (houtcome : archive.outcome? call = none) :
    (archive.step call).writers call.writer = archive.writers call.writer := by
  unfold step
  simp only [Function.update_self]
  unfold asked
  unfold outcome? at houtcome
  cases hrequest : call.request with
  | add record => simp [hrequest] at houtcome
  | flush => simp [hrequest] at houtcome
  | setTagCategory _ _ _ | removeTag _ _ | addToPool _ _ | setFavorite _ _ | deleteOrphanTags
  | insertTag _ _ _ _ | drop _ => simp only [Peer.step, Peer.changed_writer]
  | itemById _ | itemByPath _ | tagRows =>
      exact congrArg Peer.writer (Peer.looked_store ..).2
  | _ => rfl

theorem step_writer_of_ne {writer : ℕ} (hwriter : call.writer ≠ writer) :
    (archive.step call).writers writer = archive.writers writer := by
  unfold step
  simp [Function.update_of_ne hwriter.symm]

/-! ## Single calls -/

/-- What a writer held and took is what it has stored and what it holds then. -/
theorem buffer_append_taken (archive : Archive α) (call : Call) :
    (archive.writers call.writer).buffer ++ call.request.taken =
      (archive.batch? call).toList.flatten ++
        ((archive.step call).writers call.writer).buffer := by
  cases houtcome : archive.outcome? call with
  | none =>
      have hsilent : archive.announced call = false := by simp [announced, houtcome]
      simp [batch?, hsilent, taken_of_outcome?_none houtcome,
        step_writer_of_outcome?_none houtcome]
  | some outcome =>
      rw [step_writer_of_outcome? houtcome]
      unfold batch?
      rw [announced_of_outcome? houtcome]
      cases handles_of_outcome? houtcome with
      | rejects asked invalid => simp [asked, Request.taken, invalid]
      | waits => simp
      | stores done => simp
      | fails failed => simp

theorem storeBatch_of_batch?
    {batch : List ItemRecord} (hbatch : archive.batch? call = some batch) :
    archive.store.storeBatch batch = .ok (archive.step call).store := by
  cases houtcome : archive.outcome? call with
  | none => simp [batch?, announced, houtcome] at hbatch
  | some outcome =>
      rw [batch?_of_outcome? houtcome] at hbatch
      rw [step_store_of_outcome? houtcome]
      cases handles_of_outcome? houtcome with
      | rejects asked invalid => simp at hbatch
      | waits => simp at hbatch
      | fails failed => simp at hbatch
      | stores done =>
          rw [if_pos rfl, Option.some.injEq] at hbatch
          rw [← hbatch]
          exact done

theorem step_store_of_batch?_none
    (hbuffered : call.request.isBuffered = true) (hbatch : archive.batch? call = none) :
    (archive.step call).store = archive.store := by
  obtain ⟨outcome, houtcome⟩ := exists_outcome?_of_isBuffered hbuffered
  rw [batch?_of_outcome? houtcome] at hbatch
  rw [step_store_of_outcome? houtcome]
  cases handles_of_outcome? houtcome with
  | rejects asked invalid => rfl
  | waits => rfl
  | fails failed => rfl
  | stores done => simp at hbatch

/-- Where a valid record or a flush is answered by an error, the store has refused all that
the writer holds, and nothing has changed but that the writer holds it. -/
theorem refused_of_failed
    (hbuffered : call.request.isBuffered = true)
    (hvalid : ∀ record, call.request = .add record → record.fault? = none)
    {error : CatalogError} (hfailed : (archive.asked call).answer = .failed error) :
    (∃ fault, error = .store fault ∧
      archive.store.storeBatch
        ((archive.writers call.writer).buffer ++ call.request.taken) = .error fault) ∧
      archive.announced call = false ∧
      archive.step call =
        { archive with
          writers := Function.update archive.writers call.writer
            { archive.writers call.writer with
              buffer := (archive.writers call.writer).buffer ++ call.request.taken } } := by
  obtain ⟨outcome, houtcome⟩ := exists_outcome?_of_isBuffered hbuffered
  rw [answer_of_outcome? houtcome] at hfailed
  rw [announced_of_outcome? houtcome]
  cases handles_of_outcome? houtcome with
  | rejects asked invalid =>
      rw [hvalid _ asked] at invalid
      cases invalid
  | waits => cases hfailed
  | stores done => cases hfailed
  | fails failed =>
      cases hfailed
      exact ⟨⟨_, rfl, failed⟩, rfl, step_of_silent houtcome rfl⟩

/-- Every call stores all that its writer holds, or none of it.  A flush takes nothing, so
one that fails leaves the buffer that it found. -/
theorem atomic (archive : Archive α) (call : Call) : archive.Atomic call where
  stores := fun batch => storeBatch_of_batch?
  keeps := step_store_of_batch?_none
  flushed := by
    intro hflush hdone
    have houtcome :
        archive.outcome? call =
          some ((archive.writers call.writer).flush archive.store) := by
      simp [outcome?, hflush]
    rw [answer_of_outcome? houtcome] at hdone
    rw [step_writer_of_outcome? houtcome]
    apply Writer.buffer_flush_of_ok
    cases hresult : ((archive.writers call.writer).flush archive.store).result with
    | ok value => rfl
    | error error => simp [hresult] at hdone
  flushFails := by
    intro error hflush hfailed
    have hbuffered : call.request.isBuffered = true := by rw [hflush]; rfl
    have hvalid : ∀ record, call.request = .add record → record.fault? = none := by
      intro record hadd
      rw [hflush] at hadd
      cases hadd
    have hrefused := refused_of_failed hbuffered hvalid hfailed
    simp only [hflush, Request.taken, List.append_nil, Function.update_eq_self] at hrefused
    exact hrefused
  addFails := by
    intro record error hadd hfault hfailed
    have hbuffered : call.request.isBuffered = true := by rw [hadd]; rfl
    have hvalid : ∀ other, call.request = .add other → other.fault? = none := by
      intro other hother
      rw [hadd] at hother
      cases hother
      exact hfault
    have hrefused := refused_of_failed hbuffered hvalid hfailed
    simp only [hadd, Request.taken, hfault, if_true] at hrefused
    exact hrefused
  addRejects := by
    intro record fault hadd hfault
    have houtcome :
        archive.outcome? call =
          some ⟨.error (.invalidRecord fault), archive.writers call.writer, archive.store,
            false⟩ := by
      simp [outcome?, hadd, Writer.add_of_fault hfault]
    refine ⟨answer_of_outcome? houtcome, announced_of_outcome? houtcome, ?_⟩
    rw [step_of_silent houtcome rfl, Function.update_eq_self]

/-! ## Runs -/

theorem committed_cons (archive : Archive α) (writer : ℕ) (call : Call) (calls : List Call) :
    archive.committed writer (call :: calls) =
      (if call.writer = writer then (archive.batch? call).toList else []) ++
        (archive.step call).committed writer calls := by
  unfold committed
  rw [batches, List.filter_append, List.map_append]
  congr 1
  cases archive.batch? call with
  | none => simp
  | some batch => by_cases hwriter : call.writer = writer <;> simp [hwriter]

/-- From any moment on, what a writer held and is handed is what it stores and what it
holds at the end. -/
theorem buffer_append_handed (archive : Archive α) (writer : ℕ) (calls : List Call) :
    (archive.writers writer).buffer ++ handed writer calls =
      (archive.committed writer calls).flatten ++ ((archive.run calls).writers writer).buffer := by
  induction calls generalizing archive with
  | nil => simp [handed, committed, batches, run]
  | cons call calls ih =>
      have hrest := ih (archive.step call)
      have hrun : archive.run (call :: calls) = (archive.step call).run calls := rfl
      rw [hrun, committed_cons, List.flatten_append, List.append_assoc, ← hrest]
      by_cases hwriter : call.writer = writer
      · subst hwriter
        have hstep := archive.buffer_append_taken call
        rw [if_pos rfl, ← List.append_assoc, ← hstep]
        simp [handed]
      · rw [if_neg hwriter, step_writer_of_ne hwriter]
        simp [handed, hwriter]

/-- The batches make up the store: none is missing and none is stored twice. -/
theorem foldlM_batches
    (archive : Archive α) {calls : List Call}
    (hbuffered : ∀ call ∈ calls, call.request.isBuffered = true) :
    ((archive.batches calls).map (·.2)).foldlM Store.storeBatch archive.store =
      .ok (archive.run calls).store := by
  induction calls generalizing archive with
  | nil => rfl
  | cons call calls ih =>
      have hrest := ih (archive.step call)
        fun other hother => hbuffered other (List.mem_cons_of_mem call hother)
      have hrun : archive.run (call :: calls) = (archive.step call).run calls := rfl
      rw [batches, hrun, List.map_append, List.foldlM_append]
      cases hbatch : archive.batch? call with
      | none =>
          have hcall := hbuffered call List.mem_cons_self
          have hstore := step_store_of_batch?_none hcall hbatch
          rw [← hrest, hstore]
          rfl
      | some batch =>
          have hstored := storeBatch_of_batch? hbatch
          rw [← hrest]
          simp only [Option.toList_some, List.map_cons, List.map_nil, List.foldlM_cons,
            List.foldlM_nil, hstored]
          rfl

/-- At any moment of a run, what a writer has been handed is what it has stored and what
it holds.  The next call stores all that its writer holds or changes nothing, so that over
adds and flushes alone the stored batches make up the store. -/
theorem records_accounted_for
    (store : Store) (configs : ℕ → Config) (limits : ℕ → ℕ) (calls : List Call) :
    let start : Archive α := opened store configs limits
    let archive := start.run calls
    (∀ writer,
      handed writer calls =
        (start.committed writer calls).flatten ++ (archive.writers writer).buffer) ∧
      ((∀ call ∈ calls, call.request.isBuffered = true) →
        ((start.batches calls).map (·.2)).foldlM Store.storeBatch store = .ok archive.store) ∧
      ∀ call, archive.Atomic call := by
  intro start archive
  refine ⟨?_, start.foldlM_batches, archive.atomic⟩
  intro writer
  have hrun := start.buffer_append_handed writer calls
  have hempty : (start.writers writer).buffer = [] := rfl
  rw [hempty, List.nil_append] at hrun
  exact hrun

/-- A full buffer whose batch needs a path of another writer: the store refuses it twice,
then that path is stored, and the batch as well. -/
theorem records_accounted_for_after_refusal :
    let parent : ItemRecord := { filepath := "b.png", contentHash := "1" }
    let child : ItemRecord :=
      { filepath := "a.png", contentHash := "0", parent := some "b.png" }
    let other : ItemRecord := { filepath := "c.png", contentHash := "2" }
    let calls : List Call :=
      [⟨0, 0, .add other⟩, ⟨0, 0, .add child⟩, ⟨0, 0, .add { other with filepath := "" }⟩,
        ⟨0, 0, .flush⟩, ⟨1, 1, .add parent⟩, ⟨1, 1, .flush⟩, ⟨0, 0, .add other⟩]
    let start : Archive Float := opened {} (fun _ => {}) (fun _ => 2)
    let archive := start.run calls
    start.committed 0 calls = [[other, child, other]] ∧
      start.committed 1 calls = [[parent]] ∧
      (start.run (calls.take 4)).store.items.length = 0 ∧
      archive.store.items.length = 3 ∧
      handed 0 calls =
        (start.committed 0 calls).flatten ++ (archive.writers 0).buffer ∧
      ((start.batches calls).map (·.2)).foldlM Store.storeBatch {} = .ok archive.store ∧
      archive.Atomic ⟨0, 0, .flush⟩ := by
  intro parent child other calls start archive
  obtain ⟨hbuffers, hstored, hatomic⟩ :=
    records_accounted_for (α := Float) {} (fun _ => {}) (fun _ => 2) calls
  exact ⟨by decide, by decide, by decide, by decide,
    hbuffers 0, hstored (by decide), hatomic _⟩

end Archive

end Gallery
