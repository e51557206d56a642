import Gallery.Store.Write

/-!
# Writers

A writer collects valid records and stores them as one batch when it is
flushed, or when it holds as many as it may.  A batch that the store refuses
stays with the writer, and the store is left as it was.
-/

namespace Gallery

inductive CatalogError
  | invalidRecord (fault : RecordFault)
  | store (fault : StoreError)
  deriving DecidableEq

/-- What is said of an error; nothing of a statement that the store refused. -/
def CatalogError.message? : CatalogError → Option String
  | .invalidRecord fault => some ("invalid record: " ++ fault.message)
  | .store (.noItem path) => some ("No item stored at " ++ path)
  | .store .refused => none

structure Writer where
  buffer : List ItemRecord := []
  limit : Nat := 1000
  deriving DecidableEq

namespace Writer

/-- A writer holds at least one record before it stores its batch. -/
def withLimit (limit : Nat) : Writer where
  limit := max limit 1

/-- What came of a call: whether it went well, the writer and the store after
it, and whether the store has changed. -/
structure Outcome where
  result : Except CatalogError Unit
  writer : Writer
  store : Store
  announces : Bool

def flush (writer : Writer) (store : Store) : Outcome :=
  if writer.buffer.isEmpty then ⟨.ok (), writer, store, false⟩
  else
    match store.storeBatch writer.buffer with
    | .ok stored => ⟨.ok (), { writer with buffer := [] }, stored, true⟩
    | .error fault => ⟨.error (.store fault), writer, store, false⟩

/-- Takes a record.  A record that is refused is not kept; one whose flush fails
is. -/
def add (writer : Writer) (store : Store) (record : ItemRecord) : Outcome :=
  match record.fault? with
  | some fault => ⟨.error (.invalidRecord fault), writer, store, false⟩
  | none =>
    let filled := { writer with buffer := writer.buffer ++ [record] }
    if filled.limit ≤ filled.buffer.length then filled.flush store
    else ⟨.ok (), filled, store, false⟩

end Writer

end Gallery
