import Gallery.Catalog.Basic
import Gallery.Writer

/-!
# Sessions

A session is a store with any number of peers.  A peer is a catalog over the
store with one writer.  A request goes to one peer; a write that changes the
store is announced on the bus of that peer alone, so the caches of the others
may fall behind.
-/

namespace Gallery

structure Peer (α : Type) where
  catalog : Catalog α
  writer : Writer := {}

structure Session (α : Type) where
  store : Store := {}
  peers : List (Peer α)

/-- What a peer can be asked to do. -/
inductive Request
  | add (record : ItemRecord)
  | flush
  | setTagCategory (tag : String) (category : Category) (subcategory : Option Subcategory)
  | removeTag (path tag : String)
  | addToPool (pool path : String)
  | setFavorite (path : String) (favorite : Bool)
  | deleteOrphanTags
  | execute (query : Query)
  | related (item : ItemId) (limit : Nat)
  | itemById (item : ItemId)
  | itemByPath (path : String)
  | tagId (name : String)
  | tagName (id : TagId)
  | tagIds (names : List String)
  | tagNames (ids : List TagId)
  | tagCount
  | reloadTags
  | tagRows
  | weight (tag : String)
  | similarity (a b : String)
  | stats
  | trigger
  | unregisterAll
  | insertTag (id : Option TagId) (name : String) (category : Category)
      (subcategory : Option Subcategory)
  | drop (relation : Relation)

inductive Answer (α : Type)
  | done
  | failed (error : CatalogError)
  | changed (found : Bool)
  | count (n : Nat)
  | results (results : SearchResults)
  | related (items : List (RelatedItem α))
  | item (item : Option Item)
  | tagId (id : Option TagId)
  | tagName (name : Option String)
  | tagIds (ids : List TagId)
  | tagNames (names : List String)
  | tagRows (rows : List Tag)
  | scalar (value : α)
  | stats (stats : Stats)
  | report (report : TriggerReport)

namespace Peer

variable {α : Type} [Scalar α]

def fresh (config : Config) (bufferLimit : Nat) : Peer α where
  catalog := .fresh config
  writer := .withLimit bufferLimit

/-- Announces a change of the store if there was one. -/
def announceIf (peer : Peer α) (store : Store) (changed : Bool) : Peer α :=
  if changed then { peer with catalog := (peer.catalog.announce store).2 } else peer

/-- What a peer answers, with the store and the peer after it. -/
structure Step (α : Type) where
  answer : Answer α
  store : Store
  peer : Peer α

def wrote (peer : Peer α) (outcome : Writer.Outcome) : Step α :=
  let peer := { peer with writer := outcome.writer }
  let answer : Answer α :=
    match outcome.result with
    | .ok () => .done
    | .error error => .failed error
  ⟨answer, outcome.store, peer.announceIf outcome.store outcome.announces⟩

/-- A change of the store that is announced if `announces` says so. -/
def changed {β : Type} (peer : Peer α) (store : Store)
    (result : Except StoreError (β × Store)) (answer : β → Answer α)
    (announces : β → Bool) : Step α :=
  match result with
  | .ok (value, store) =>
    ⟨answer value, store, peer.announceIf store (announces value)⟩
  | .error fault => ⟨.failed (.store fault), store, peer⟩

/-- An answer from the catalog that leaves the store alone. -/
def asked {β : Type} (peer : Peer α) (store : Store) (answer : β → Answer α)
    (result : β × Catalog α) : Step α :=
  ⟨answer result.1, store, { peer with catalog := result.2 }⟩

/-- An answer from the store itself. -/
def looked {β : Type} (peer : Peer α) (store : Store) (answer : β → Answer α)
    (result : Except StoreError β) : Step α :=
  match result with
  | .ok value => ⟨answer value, store, peer⟩
  | .error fault => ⟨.failed (.store fault), store, peer⟩

def orFailed {β : Type} (answer : β → Answer α) : Except StoreError β → Answer α
  | .ok value => answer value
  | .error fault => .failed (.store fault)

def step (peer : Peer α) (store : Store) : Request → Step α
  | .add record => peer.wrote (peer.writer.add store record)
  | .flush => peer.wrote (peer.writer.flush store)
  | .setTagCategory tag category subcategory =>
    peer.changed store (store.setTagCategory tag category subcategory) .changed id
  | .removeTag path tag => peer.changed store (store.removeTag path tag) .changed id
  | .addToPool pool path =>
    peer.changed store ((store.addToPool pool path).map ((), ·)) (fun _ => .done) fun _ => true
  | .setFavorite path favorite =>
    peer.changed store ((store.setFavorite path favorite).map ((), ·)) (fun _ => .done)
      fun _ => true
  | .deleteOrphanTags => peer.changed store store.deleteOrphanTags .count (0 < ·)
  | .execute query => peer.asked store .results (peer.catalog.execute store query)
  | .related item limit => peer.asked store .related (peer.catalog.related store item limit)
  | .itemById item => peer.looked store .item (store.itemById item)
  | .itemByPath path => peer.looked store .item (store.itemByPath path)
  | .tagId name => peer.asked store (fun names => .tagId (names.id? name))
      (peer.catalog.names store)
  | .tagName id => peer.asked store (fun names => .tagName (names.name? id))
      (peer.catalog.names store)
  | .tagIds given => peer.asked store (fun names => .tagIds (names.ids given))
      (peer.catalog.names store)
  | .tagNames given => peer.asked store (fun names => .tagNames (names.namesOf given))
      (peer.catalog.names store)
  | .tagCount => peer.asked store (fun names => .count names.count) (peer.catalog.names store)
  | .reloadTags => peer.asked store (orFailed .count) (peer.catalog.reloadTags store)
  | .tagRows => peer.looked store .tagRows store.tagRows
  | .weight tag => peer.asked store .scalar (peer.catalog.weightFor store tag)
  | .similarity a b => peer.asked store .scalar (peer.catalog.similarity store a b)
  | .stats => peer.asked store (orFailed .stats) (peer.catalog.stats store)
  | .trigger => peer.asked store .report (peer.catalog.announce store)
  | .unregisterAll =>
    peer.asked store .count (peer.catalog.unregisterAll.bus.size, peer.catalog.unregisterAll)
  | .insertTag id name category subcategory =>
    peer.changed store ((store.insertTag id name category subcategory).map ((), ·))
      (fun _ => .done) fun _ => false
  | .drop relation =>
    peer.changed store ((store.drop relation).map ((), ·)) (fun _ => .done) fun _ => false

end Peer

namespace Session

variable {α : Type} [Scalar α]

/-- Peers with the given settings and writer limits over an empty store. -/
def start (peers : List (Config × Nat)) : Session α where
  peers := peers.map fun (config, bufferLimit) => .fresh config bufferLimit

/-- Asks the peer at a position; there is no answer where there is no peer. -/
def step (session : Session α) (position : Nat) (request : Request) :
    Option (Answer α) × Session α :=
  match session.peers[position]? with
  | none => (none, session)
  | some peer =>
    let step := peer.step session.store request
    (some step.answer,
      { store := step.store, peers := session.peers.set position step.peer })

/-- Closes every peer, with what its writer still holds, and opens the store
again for new ones. -/
def reopen (session : Session α) (peers : List (Config × Nat)) : Session α :=
  { start peers with store := session.store.reopen }

end Session

end Gallery
