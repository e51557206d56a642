import Gallery.Proofs.Archive.Weights
import Gallery.Proofs.Catalog.TagTable

/-!
# Generations of a directory

A store may change behind the back of a catalog: through another catalog, by a row that is
put into the relation of tags, by the loss of the relation, or in any other way.  All the
same the answers that a catalog gives about numbers and names of tags are those of one state
of the relation, the one at its last reading.  The relation is read when it is reloaded,
when a change is announced while the directory is on the bus, and at the first use of an
empty directory; a reading that fails changes nothing.
-/

namespace Gallery

namespace Peer

variable {α : Type}

/-- Whether a change was made that is to be announced. -/
def isAnnounced {β : Type} (result : Except StoreError (β × Store)) (announces : β → Bool) :
    Bool :=
  match result with
  | .ok (value, _) => announces value
  | .error _ => false

/-- Whether a request has the bus of the catalog triggered. -/
def announces (peer : Peer α) (store : Store) : Request → Bool
  | .add record => (peer.writer.add store record).announces
  | .flush => (peer.writer.flush store).announces
  | .setTagCategory tag category subcategory =>
    isAnnounced (store.setTagCategory tag category subcategory) id
  | .removeTag path tag => isAnnounced (store.removeTag path tag) id
  | .addToPool pool path => isAnnounced ((store.addToPool pool path).map ((), ·)) fun _ => true
  | .setFavorite path favorite =>
    isAnnounced ((store.setFavorite path favorite).map ((), ·)) fun _ => true
  | .deleteOrphanTags => isAnnounced store.deleteOrphanTags (0 < ·)
  | .trigger => true
  | _ => false

/-- Whether a request has the directory of the catalog read the relation of tags again. -/
def Rereads (peer : Peer α) (store : Store) (request : Request) : Prop :=
  request = .reloadTags ∨
    peer.announces store request = true ∧ .directory ∈ peer.catalog.bus.listeners

theorem announceIf_catalog (peer : Peer α) (store : Store) (changed : Bool) :
    (peer.announceIf store changed).catalog =
      if changed then (peer.catalog.announce store).2 else peer.catalog := by
  cases changed <;> rfl

theorem wrote_catalog (peer : Peer α) (outcome : Writer.Outcome) :
    (peer.wrote outcome).peer.catalog =
      if outcome.announces then (peer.catalog.announce (peer.wrote outcome).store).2
      else peer.catalog :=
  announceIf_catalog { peer with writer := outcome.writer } outcome.store outcome.announces

theorem changed_catalog {β : Type} (peer : Peer α) (store : Store)
    (result : Except StoreError (β × Store)) (answer : β → Answer α) (announces : β → Bool) :
    (peer.changed store result answer announces).peer.catalog =
      if isAnnounced result announces then
        (peer.catalog.announce (peer.changed store result answer announces).store).2
      else peer.catalog := by
  cases result with
  | error fault => rfl
  | ok done => exact peer.announceIf_catalog done.2 (announces done.1)

theorem changed_catalog_of_silent {β : Type} (peer : Peer α) (store : Store)
    (result : Except StoreError (β × Store)) (answer : β → Answer α) :
    (peer.changed store result answer fun _ => false).peer.catalog = peer.catalog := by
  cases result <;> rfl

theorem not_announces_of_read (peer : Peer α) (store : Store) {request : Request}
    (hread : request.isRead = true) (htrigger : request ≠ .trigger) :
    peer.announces store request = false := by
  cases request with
  | trigger => exact absurd rfl htrigger
  | add _ | flush | setTagCategory _ _ _ | removeTag _ _ | addToPool _ _ | setFavorite _ _
  | deleteOrphanTags | unregisterAll | insertTag _ _ _ _ | drop _ => cases hread
  | _ => rfl

variable [Scalar α]

/-- A request that changes the store or the bus leaves the directory alone, unless it has
the bus triggered. -/
theorem step_directory_of_not_read (peer : Peer α) (store : Store) {request : Request}
    (hread : request.isRead = false) :
    (peer.step store request).peer.catalog.caches.directory =
      if peer.announces store request then
        (peer.catalog.announce (peer.step store request).store).2.caches.directory
      else peer.catalog.caches.directory := by
  have hcatalog : request = .unregisterAll ∨ (peer.step store request).peer.catalog =
      if peer.announces store request then
        (peer.catalog.announce (peer.step store request).store).2
      else peer.catalog := by
    cases request with
    | add record => exact .inr (peer.wrote_catalog (peer.writer.add store record))
    | flush => exact .inr (peer.wrote_catalog (peer.writer.flush store))
    | setTagCategory _ _ _ | removeTag _ _ | addToPool _ _ | setFavorite _ _ | deleteOrphanTags =>
        exact .inr (changed_catalog _ _ _ _ _)
    | unregisterAll => exact .inl rfl
    | insertTag _ _ _ _ | drop _ => exact .inr (changed_catalog_of_silent _ _ _ _)
    | _ => cases hread
  rcases hcatalog with rfl | hcatalog
  · rfl
  · rw [hcatalog]
    split <;> rfl

theorem step_directory_of_rereads (peer : Peer α) (store : Store) {request : Request}
    (h : peer.Rereads store request) :
    (peer.step store request).peer.catalog.caches.directory =
      (peer.catalog.caches.directory.reload (peer.step store request).store).2 := by
  rcases h with rfl | ⟨hannounces, hlistens⟩
  · rfl
  · have hannounced : (peer.catalog.announce (peer.step store request).store).2.caches.directory =
        (peer.catalog.caches.directory.reload (peer.step store request).store).2 := by
      rw [Catalog.announce_directory, if_pos hlistens]
    cases hread : request.isRead with
    | false => rw [step_directory_of_not_read peer store hread, if_pos hannounces, hannounced]
    | true =>
        by_cases htrigger : request = .trigger
        · subst htrigger
          exact hannounced
        · rw [not_announces_of_read peer store hread htrigger] at hannounces
          cases hannounces

theorem step_directory_kept (peer : Peer α) (store : Store) {request : Request}
    (h : ¬peer.Rereads store request) :
    Directory.Kept (peer.step store request).store peer.catalog.caches.directory
      (peer.step store request).peer.catalog.caches.directory := by
  have hunheard (next : Store) (hannounces : peer.announces store request = true) :
      (peer.catalog.announce next).2.caches.directory = peer.catalog.caches.directory := by
    rw [Catalog.announce_directory, if_neg fun hlistens => h (.inr ⟨hannounces, hlistens⟩)]
  cases hread : request.isRead with
  | false =>
      have hsame : (peer.step store request).peer.catalog.caches.directory =
          peer.catalog.caches.directory := by
        rw [step_directory_of_not_read peer store hread]
        split
        · exact hunheard _ ‹_›
        · rfl
      rw [hsame]
      exact .same
  | true =>
      rw [(peer.step_read store hread).1]
      by_cases htrigger : request = .trigger
      · subst htrigger
        have hsame : (peer.step store .trigger).peer.catalog.caches.directory =
            peer.catalog.caches.directory := hunheard store rfl
        rw [hsame]
        exact .same
      · exact peer.step_read_keeps (Caches.directory_keptByReads _ _ _) rfl .same hread
          (fun hreload => h (.inl hreload)) htrigger

end Peer

/-! ## What happens to an archive -/

/-- A call to a catalog, or a change of the store that no catalog knows of. -/
inductive Event
  | call (call : Call)
  | rewrite (store : Store)

/-- The requests that are answered from the directory alone. -/
def Request.asksDirectory : Request → Bool
  | .tagId _ | .tagName _ | .tagIds _ | .tagNames _ | .tagCount => true
  | _ => false

namespace Archive

variable {α : Type} [Scalar α] {start : Archive α} {catalog : ℕ}

def meet (archive : Archive α) : Event → Archive α
  | .call call => archive.step call
  | .rewrite store => { archive with store }

def through (archive : Archive α) (events : List Event) : Archive α :=
  events.foldl meet archive

def directoryOf (archive : Archive α) (catalog : ℕ) : Directory :=
  (archive.catalogs catalog).caches.directory

/-- The numbers and names of tags that a catalog answers from. -/
def namesOf (archive : Archive α) (catalog : ℕ) : TagNames :=
  ((archive.catalogs catalog).names archive.store).1

/-- Whether a call has the directory of its catalog read the relation of tags again. -/
def Rereads (archive : Archive α) (call : Call) : Prop :=
  Peer.Rereads ⟨archive.catalogs call.catalog, archive.writers call.writer⟩ archive.store
    call.request

/-- Whether a catalog reads the relation of tags again at an event, and succeeds. -/
def Renews (archive : Archive α) (catalog : ℕ) : Event → Prop
  | .call call =>
    call.catalog = catalog ∧ archive.Rereads call ∧
      Relation.tags ∉ (archive.step call).store.missing
  | .rewrite _ => False

/-- Whether a catalog reads the relation of tags at an event, for the first time or again,
and succeeds. -/
def Reads (archive : Archive α) (catalog : ℕ) (event : Event) : Prop :=
  archive.Renews catalog event ∨
    (archive.directoryOf catalog).current = none ∧
      ((archive.meet event).directoryOf catalog).current ≠ none

/-- Whether a catalog reads the relation of tags again, and succeeds, at a moment. -/
def RenewsAt (start : Archive α) (events : List Event) (catalog moment : ℕ) : Prop :=
  ∃ event, events[moment]? = some event ∧ (start.through (events.take moment)).Renews catalog event

theorem through_concat (events : List Event) (event : Event) :
    start.through (events ++ [event]) = (start.through events).meet event := by
  simp [through]

/-! ## One event -/

theorem directoryOf_step_own (call : Call) :
    (start.step call).directoryOf call.catalog =
      (start.asked call).peer.catalog.caches.directory := by
  simp [directoryOf, step]

theorem directoryOf_step_of_rereads {call : Call} (h : start.Rereads call) :
    (start.step call).directoryOf call.catalog =
      ((start.directoryOf call.catalog).reload (start.step call).store).2 :=
  (directoryOf_step_own call).trans (Peer.step_directory_of_rereads _ _ h)

theorem kept_step_of_not_rereads {call : Call} (h : ¬start.Rereads call) :
    Directory.Kept (start.step call).store (start.directoryOf call.catalog)
      ((start.step call).directoryOf call.catalog) := by
  rw [directoryOf_step_own]
  exact Peer.step_directory_kept _ _ h

theorem directoryOf_meet_of_renews {event : Event} (h : start.Renews catalog event) :
    (start.meet event).directoryOf catalog = ⟨some (start.meet event).store.names⟩ := by
  cases event with
  | rewrite store => exact h.elim
  | call call =>
      obtain ⟨rfl, hrereads, hreadable⟩ := h
      rw [meet, directoryOf_step_of_rereads hrereads, Directory.reload_of_readable hreadable]

/-- Without a reading that succeeds a directory stays, or it is filled if it was
empty.  A reading that is due fails only for the loss of the relation. -/
theorem kept_of_not_renews {event : Event} (h : ¬start.Renews catalog event) :
    Directory.Kept (start.meet event).store (start.directoryOf catalog)
      ((start.meet event).directoryOf catalog) := by
  cases event with
  | rewrite store => exact .same
  | call call =>
      by_cases hown : call.catalog = catalog
      · subst hown
        by_cases hrereads : start.Rereads call
        · have hunreadable : Relation.tags ∈ (start.step call).store.missing := by
            by_contra hreadable
            exact h ⟨rfl, hrereads, hreadable⟩
          rw [meet, directoryOf_step_of_rereads hrereads,
            Directory.reload_of_unreadable hunreadable]
          exact .same
        · exact kept_step_of_not_rereads hrereads
      · have hdirectory : (start.step call).directoryOf catalog = start.directoryOf catalog := by
          simp [directoryOf, step, Ne.symm hown]
        rw [meet, hdirectory]
        exact .same

theorem Reads.readable_and_directoryOf {event : Event} (h : start.Reads catalog event) :
    Relation.tags ∉ (start.meet event).store.missing ∧
      (start.meet event).directoryOf catalog = ⟨some (start.meet event).store.names⟩ := by
  by_cases hrenews : start.Renews catalog event
  · refine ⟨?_, directoryOf_meet_of_renews hrenews⟩
    cases event with
    | rewrite store => exact hrenews.elim
    | call call => exact hrenews.2.2
  · obtain ⟨hempty, hfilled⟩ := h.resolve_left hrenews
    have hkept := kept_of_not_renews hrenews
    generalize (start.meet event).directoryOf catalog = after at *
    cases hkept with
    | same => exact absurd hempty hfilled
    | filled _ hreadable => exact ⟨hreadable, rfl⟩

/-! ## Runs -/

theorem quiet_nil (moment : ℕ) : ¬start.RenewsAt [] catalog moment := by
  rintro ⟨event, hevent, -⟩
  cases hevent

theorem quiet_cons_iff {event : Event} {rest : List Event} :
    (∀ moment, ¬start.RenewsAt (event :: rest) catalog moment) ↔
      ¬start.Renews catalog event ∧
        ∀ moment, ¬(start.meet event).RenewsAt rest catalog moment := by
  constructor
  · refine fun hquiet => ⟨fun hrenews => hquiet 0 ⟨event, rfl, hrenews⟩, ?_⟩
    rintro moment ⟨next, hnext, hrenews⟩
    exact hquiet (moment + 1) ⟨next, hnext, hrenews⟩
  · rintro ⟨hfirst, hrest⟩ moment ⟨next, hnext, hrenews⟩
    cases moment with
    | zero =>
        cases hnext
        exact hfirst hrenews
    | succ moment => exact hrest moment ⟨next, hnext, hrenews⟩

/-- What a directory has read stays until the relation is read again. -/
theorem current_through {names : TagNames} {events : List Event}
    (hcurrent : (start.directoryOf catalog).current = some names)
    (hquiet : ∀ moment, ¬start.RenewsAt events catalog moment) :
    ((start.through events).directoryOf catalog).current = some names := by
  induction events generalizing start with
  | nil => exact hcurrent
  | cons event rest ih =>
      obtain ⟨hfirst, hrest⟩ := quiet_cons_iff.1 hquiet
      have hkept := kept_of_not_renews hfirst
      refine ih ?_ hrest
      generalize (start.meet event).directoryOf catalog = after at *
      cases hkept with
      | same => exact hcurrent
      | filled hempty => rw [hempty] at hcurrent; cases hcurrent

omit [Scalar α] in
theorem namesOf_of_current {names : TagNames}
    (hcurrent : (start.directoryOf catalog).current = some names) :
    start.namesOf catalog = names := by
  have hread := Directory.names_of_current hcurrent start.store
  exact congrArg Prod.fst hread

theorem answer_of_asksDirectory {other : Archive α} (hsame : start.namesOf catalog = other.namesOf catalog)
    (writer : ℕ) {request : Request} (hasks : request.asksDirectory = true) :
    (start.asked ⟨catalog, writer, request⟩).answer =
      (other.asked ⟨catalog, writer, request⟩).answer := by
  unfold namesOf at hsame
  cases request with
  | tagId _ | tagName _ | tagIds _ | tagNames _ | tagCount =>
      simp only [asked, Peer.step, Peer.asked, hsame]
  | _ => cases hasks

/-! ## Where the names come from -/

theorem renewsAt_concat {events : List Event} {event : Event} {moment : ℕ} :
    start.RenewsAt (events ++ [event]) catalog moment ↔
      start.RenewsAt events catalog moment ∨
        moment = events.length ∧ (start.through events).Renews catalog event := by
  unfold RenewsAt
  rcases lt_trichotomy moment events.length with hbefore | rfl | hafter
  · rw [List.getElem?_append_left hbefore, List.take_append_of_le_length hbefore.le]
    simp [hbefore.ne]
  · simp
  · rw [List.getElem?_append_right hafter.le, List.getElem?_eq_none (l := events) hafter.le]
    simp [hafter.ne', Nat.sub_eq_zero_iff_le, hafter]

/-- The store of a moment from which on a catalog has not read the relation of tags again. -/
def GenerationOf (start : Archive α) (events : List Event) (catalog : ℕ) (store : Store) : Prop :=
  ∃ moment ≤ events.length, store = (start.through (events.take moment)).store ∧
    ∀ later ≥ moment, ¬start.RenewsAt events catalog later

theorem GenerationOf.concat {events : List Event} {event : Event} {store : Store}
    (h : start.GenerationOf events catalog store)
    (hkept : ¬(start.through events).Renews catalog event) :
    start.GenerationOf (events ++ [event]) catalog store := by
  obtain ⟨moment, hmoment, rfl, hquiet⟩ := h
  refine ⟨moment, by simp; omega, by rw [List.take_append_of_le_length hmoment], ?_⟩
  rintro later hlater hrenews
  rcases renewsAt_concat.1 hrenews with hbefore | ⟨-, hnow⟩
  · exact hquiet later hlater hbefore
  · exact hkept hnow

theorem generationOf_last (events : List Event) :
    start.GenerationOf events catalog (start.through events).store := by
  refine ⟨events.length, le_rfl, by rw [List.take_length], ?_⟩
  rintro later hlater ⟨event, hevent, -⟩
  rw [List.getElem?_eq_none hlater] at hevent
  cases hevent

/-- A directory that was empty at first is empty as long as no reading has succeeded, and
later holds the names of one moment since which it was not read again.  An event that
fills it leaves the store alone, so it may as well have been read after it. -/
theorem directory_of_run (hempty : (start.directoryOf catalog).current = none)
    (events : List Event) :
    (∀ moment, ¬start.RenewsAt events catalog moment) ∧
        ((start.through events).directoryOf catalog).current = none ∨
      ∃ store, start.GenerationOf events catalog store ∧
        ((start.through events).directoryOf catalog).current = some store.names := by
  induction events using List.reverseRecOn with
  | nil =>
      exact .inl ⟨quiet_nil, hempty⟩
  | append_singleton events event ih =>
      rw [through_concat]
      by_cases hrenews : (start.through events).Renews catalog event
      · refine .inr ⟨_, generationOf_last _, ?_⟩
        rw [directoryOf_meet_of_renews hrenews, through_concat]
      · have hkept := kept_of_not_renews hrenews
        generalize hafter : ((start.through events).meet event).directoryOf catalog = after at *
        rcases ih with ⟨hquiet, hnone⟩ | ⟨store, hgeneration, hcurrent⟩
        · cases hkept with
          | same =>
              refine .inl ⟨fun moment hmoment => ?_, hnone⟩
              rcases renewsAt_concat.1 hmoment with hbefore | ⟨-, hnow⟩
              · exact hquiet moment hbefore
              · exact hrenews hnow
          | filled =>
              refine .inr ⟨_, generationOf_last _, ?_⟩
              rw [through_concat]
        · refine .inr ⟨store, hgeneration.concat hrenews, ?_⟩
          cases hkept with
          | same => exact hcurrent
          | filled hnone => rw [hnone] at hcurrent; cases hcurrent

/-- At any time of a run the answers of a catalog that had read nothing are those of one
moment since which it has not read the relation again, or it knows no tag because no reading
has succeeded and none would now. -/
theorem namesOf_of_run (hempty : (start.directoryOf catalog).current = none)
    (events : List Event) :
    (∃ store, start.GenerationOf events catalog store ∧
        (start.through events).namesOf catalog = store.names) ∨
      (∀ moment, ¬start.RenewsAt events catalog moment) ∧
        Relation.tags ∈ (start.through events).store.missing ∧
        (start.through events).namesOf catalog = {} := by
  rcases directory_of_run hempty events with ⟨hquiet, hnone⟩ | ⟨store, hgeneration, hcurrent⟩
  · have hnames : (start.through events).namesOf catalog =
        (Directory.names ⟨none⟩ (start.through events).store).1 := by
      rw [← hnone]
      rfl
    by_cases hreadable : Relation.tags ∈ (start.through events).store.missing
    · refine .inr ⟨hquiet, hreadable, ?_⟩
      rw [hnames, Directory.names, Directory.load_of_unreadable hreadable]
    · refine .inl ⟨_, generationOf_last events, ?_⟩
      rw [hnames, Directory.names, Directory.load_of_readable hreadable]
  · exact .inl ⟨store, hgeneration, namesOf_of_current hcurrent⟩

/-! ## One table -/

theorem answer_reloadTags {writer : ℕ} (hreadable : Relation.tags ∉ start.store.missing)
    (hkeyed : KeyedTags start.store.tags) :
    (start.asked ⟨catalog, writer, .reloadTags⟩).answer = .count start.store.tags.length := by
  rw [← (Store.mirrors_names hkeyed).count]
  simp [asked, Peer.step, Peer.asked, Catalog.reloadTags, Directory.reload_of_readable hreadable,
    Peer.orFailed]

/-- Once a catalog has read the relation of tags it translates between exactly the numbers
and names that stood there, whatever becomes of the store, until it reads the relation again
and succeeds.  Two tables into which the rows are entered in any order do the same.  A reload
answers how many rows it has read. -/
theorem directory_mirrors_one_table {event : Event} (hreads : start.Reads catalog event)
    (hkeyed : KeyedTags (start.meet event).store.tags) {later : List Event}
    (hquiet : ∀ moment, ¬(start.meet event).RenewsAt later catalog moment) :
    let rows := (start.meet event).store.tags
    let archive := (start.meet event).through later
    (archive.namesOf catalog).Mirrors rows ∧
      (∀ entered : List Tag, entered.Perm rows →
        (TagTables.ofTags entered).Agrees (archive.namesOf catalog)) ∧
      (∀ writer request, request.asksDirectory = true →
        (archive.asked ⟨catalog, writer, request⟩).answer =
          ((start.meet event).asked ⟨catalog, writer, request⟩).answer) ∧
      ∀ writer, event = .call ⟨catalog, writer, .reloadTags⟩ →
        (start.asked ⟨catalog, writer, .reloadTags⟩).answer = .count rows.length := by
  intro rows archive
  obtain ⟨hreadable, hdirectory⟩ := hreads.readable_and_directoryOf
  have hcurrent : ((start.meet event).directoryOf catalog).current =
      some (start.meet event).store.names := congrArg Directory.current hdirectory
  have hnow := namesOf_of_current hcurrent
  have hlater := namesOf_of_current (current_through hcurrent hquiet)
  have hmirrors : (archive.namesOf catalog).Mirrors rows := by
    rw [hlater]
    exact Store.mirrors_names hkeyed
  refine ⟨hmirrors, ?_, ?_, ?_⟩
  · intro entered hperm
    exact TagTables.agrees_ofTags hkeyed hperm hmirrors
  · intro writer request hasks
    exact answer_of_asksDirectory (hlater.trans hnow.symm) writer hasks
  · rintro writer rfl
    exact answer_reloadTags hreadable hkeyed

/-- The directory of a catalog outlives a row that is put in, the loss of the relation, a
reload that fails and the loss of everything else. -/
theorem directory_mirrors_lost_table :
    let rows : List Tag := [⟨-5, "left", .general, none⟩,
      ⟨9223372036854775806, "far_away", .artist, none⟩]
    let start : Archive Float := opened { tags := rows } (fun _ => {}) fun _ => 8
    let archive := (start.meet (.call ⟨0, 0, .reloadTags⟩)).through
      [.call ⟨0, 0, .insertTag (some 7) "fresh" .general none⟩, .call ⟨1, 1, .drop .tags⟩,
        .call ⟨0, 0, .reloadTags⟩, .rewrite {}]
    (archive.namesOf 0).Mirrors rows ∧
      (TagTables.ofTags rows).Agrees (archive.namesOf 0) := by
  intro rows start archive
  have hreads : start.Reads 0 (.call ⟨0, 0, .reloadTags⟩) := .inl ⟨rfl, .inl rfl, by decide⟩
  have hkeyed : KeyedTags (start.meet (.call ⟨0, 0, .reloadTags⟩)).store.tags :=
    ⟨by decide, by decide⟩
  have hquiet : ∀ moment, ¬(start.meet (.call ⟨0, 0, .reloadTags⟩)).RenewsAt
      [.call ⟨0, 0, .insertTag (some 7) "fresh" .general none⟩, .call ⟨1, 1, .drop .tags⟩,
        .call ⟨0, 0, .reloadTags⟩, .rewrite {}] 0 moment := by
    simp only [quiet_cons_iff]
    refine ⟨?_, ?_, ?_, ?_, quiet_nil⟩
    · rintro ⟨-, hreload | ⟨hannounces, -⟩, -⟩
      · cases hreload
      · cases hannounces
    · exact fun hrenews => absurd hrenews.1 (by decide)
    · exact fun hrenews => hrenews.2.2 (by decide +kernel)
    · exact fun hrenews => hrenews
  obtain ⟨hmirrors, htables, -⟩ := directory_mirrors_one_table hreads hkeyed hquiet
  exact ⟨hmirrors, htables rows (.refl rows)⟩

end Archive

end Gallery
