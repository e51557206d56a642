import Gallery.Proofs.Archive.Effects
import Gallery.Proofs.Archive.Transparency
import Gallery.Proofs.Catalog.Dated
import Gallery.Proofs.Search.Reference
import Gallery.Proofs.Weight.Exact

/-!
# Weights among several catalogs

A catalog hears of the changes that are announced on its own bus only.  It weighs a tag by
a number from its directory and by a snapshot, which may be of two moments of a run.  As
long as the tag has its number at both, the weight is the one of the later moment.  A tag
loses its number where it is removed for want of items, and if another catalog asks for
this between the two moments, the weight may be that of another tag.
-/

namespace Gallery

/-! ## Requests that read -/

namespace Peer

variable {α : Type} {store : Store}

theorem Written.same_or_announced {next : Store} {catalog after : Catalog α}
    (hwritten : Written store catalog next after) :
    (next = store ∧ after = catalog) ∨
      (Store.Change store next ∧ after = (catalog.announce next).2) := by
  cases hwritten with
  | nothing => exact .inl ⟨rfl, rfl⟩
  | change hchange => exact .inr ⟨hchange, rfl⟩

variable [Scalar α]

theorem step_read_settings (peer : Peer α) (store : Store) {request : Request}
    (hread : request.isRead = true) :
    (peer.step store request).peer.catalog.config = peer.catalog.config ∧
      (peer.step store request).peer.catalog.bus = peer.catalog.bus := by
  cases request with
  | itemById _ | itemByPath _ | tagRows =>
      have hsame : ∀ {β : Type} (answer : β → Answer α) (result : Except StoreError β),
          (peer.looked store answer result).peer = peer :=
        fun answer result => (peer.looked_store store answer result).2
      simp only [step, hsame, and_self]
  | execute _ | related _ _ | tagId _ | tagName _ | tagIds _ | tagNames _ | tagCount
  | reloadTags | weight _ | similarity _ _ | stats | trigger => exact ⟨rfl, rfl⟩
  | _ => cases hread

/-- What reads keep is kept by a request that reads, unless it renews caches. -/
theorem step_read_keeps {config : Config} {motive : Caches α → Prop} (peer : Peer α)
    {request : Request} (hkept : Caches.KeptByReads config store motive)
    (hconfig : peer.catalog.config = config) (h : motive peer.catalog.caches)
    (hread : request.isRead = true) (hreload : request ≠ .reloadTags)
    (htrigger : request ≠ .trigger) :
    motive (peer.step store request).peer.catalog.caches := by
  subst hconfig
  cases request with
  | execute query => exact hkept.execute h query
  | related item limit => exact hkept.relatedTo h item limit
  | itemById _ | itemByPath _ | tagRows =>
      change motive (peer.looked store _ _).peer.catalog.caches
      rw [(looked_store ..).2]
      exact h
  | tagId _ | tagName _ | tagIds _ | tagNames _ | tagCount => exact hkept.names h
  | reloadTags => exact absurd rfl hreload
  | weight tag => exact hkept.weightFor h tag
  | similarity a b => exact hkept.score h _ _
  | stats => exact hkept.readStats h
  | trigger => exact absurd rfl htrigger
  | _ => cases hread

end Peer

theorem Caches.dated_renewed {α : Type} [Scalar α] {config : Config} {loaded : Store → Prop}
    {store : Store} (hloaded : loaded store) (pair : Store → Store → Prop) (caches : Caches α) :
    Dated config loaded pair (Catalog.renewed store caches) where
  directory := fun _ hnames => ⟨store, hloaded, (Option.some.inj hnames).symm⟩
  weights := by simp [Catalog.renewed]

/-! ## Moments of a run -/

namespace Archive

variable {α : Type} [Scalar α] {start : Archive α} {calls : List Call} {catalog : ℕ}

/-- The archive after the first few calls. -/
def after (start : Archive α) (calls : List Call) (count : ℕ) : Archive α :=
  start.run (calls.take count)

theorem after_succ {count : ℕ} {call : Call} (hcall : calls[count]? = some call) :
    start.after calls (count + 1) = (start.after calls count).step call := by
  unfold after
  rw [List.take_add_one, hcall]
  exact start.run_concat (calls.take count) call

theorem after_of_none {count : ℕ} (hnone : calls[count]? = none) :
    start.after calls (count + 1) = start.after calls count := by
  unfold after
  rw [List.take_add_one, hnone]
  simp

theorem Live.after (h : start.Live) (hordinary : ∀ call ∈ calls, call.request.isOrdinary = true)
    (count : ℕ) : (start.after calls count).Live :=
  h.run fun call hcall => hordinary call (List.mem_of_mem_take hcall)

/-- No call to a catalog changes the store between two moments. -/
def Quiet (start : Archive α) (calls : List Call) (catalog first last : ℕ) : Prop :=
  ∀ count call, first ≤ count → count < last → calls[count]? = some call →
    call.catalog = catalog →
      (start.after calls (count + 1)).store = (start.after calls count).store

def Reloads (calls : List Call) (catalog count : ℕ) : Prop :=
  ∃ call, calls[count]? = some call ∧ call.catalog = catalog ∧ call.request = .reloadTags

/-- The stores that the directory of a catalog may have been read from by a moment. -/
def LoadedBy (start : Archive α) (calls : List Call) (catalog now : ℕ) (named : Store) : Prop :=
  ∃ first ≤ now, named = (start.after calls first).store ∧ start.Quiet calls catalog first now

/-- The stores that the directory and the snapshot of a catalog may have been read from by
a moment, the snapshot after the directory unless the directory was reloaded by itself. -/
def PairedBy (start : Archive α) (calls : List Call) (catalog now : ℕ)
    (named counted : Store) : Prop :=
  ∃ first ≤ now, ∃ second ≤ now,
    named = (start.after calls first).store ∧ counted = (start.after calls second).store ∧
      (first ≤ second ∧ start.Quiet calls catalog first second ∨
        second ≤ first ∧ Reloads calls catalog first)

theorem quiet_refl (first : ℕ) : start.Quiet calls catalog first first := by
  intro count call hfirst hlast
  omega

theorem Quiet.succ {first now : ℕ} (h : start.Quiet calls catalog first now)
    (hstill : ∀ call, calls[now]? = some call → call.catalog = catalog →
      (start.after calls (now + 1)).store = (start.after calls now).store) :
    start.Quiet calls catalog first (now + 1) := by
  intro count call hfirst hlast hcall hown
  rcases Nat.lt_succ_iff_lt_or_eq.1 hlast with hbefore | rfl
  · exact h count call hfirst hbefore hcall hown
  · exact hstill call hcall hown

theorem loadedBy_now (now : ℕ) :
    start.LoadedBy calls catalog now (start.after calls now).store :=
  ⟨now, le_rfl, rfl, quiet_refl now⟩

theorem LoadedBy.pairedBy {now : ℕ} {named : Store} (h : start.LoadedBy calls catalog now named) :
    start.PairedBy calls catalog now named (start.after calls now).store := by
  obtain ⟨first, hfirst, rfl, hquiet⟩ := h
  exact ⟨first, hfirst, now, le_rfl, rfl, rfl, .inl ⟨hfirst, hquiet⟩⟩

theorem PairedBy.succ {now : ℕ} {named counted : Store}
    (h : start.PairedBy calls catalog now named counted) :
    start.PairedBy calls catalog (now + 1) named counted := by
  obtain ⟨first, hfirst, second, hsecond, hboth⟩ := h
  exact ⟨first, by omega, second, by omega, hboth⟩

theorem PairedBy.reloaded {now : ℕ} {named counted : Store} (hreloads : Reloads calls catalog now)
    (h : start.PairedBy calls catalog now named counted) :
    start.PairedBy calls catalog (now + 1) (start.after calls now).store counted := by
  obtain ⟨-, -, second, hsecond, -, hcounted, -⟩ := h
  exact ⟨now, by omega, second, by omega, rfl, hcounted, .inr ⟨hsecond, hreloads⟩⟩

/-! ## The caches of a catalog over a run -/

/-- The caches of a catalog hold what could be read by a moment. -/
structure Timed (start : Archive α) (calls : List Call) (catalog : ℕ) (config : Config)
    (now : ℕ) : Prop where
  settings : ((start.after calls now).catalogs catalog).config = config
  listeners : ((start.after calls now).catalogs catalog).bus.listeners = CacheName.all
  caches : Caches.Dated config (start.LoadedBy calls catalog now)
    (start.PairedBy calls catalog now) ((start.after calls now).catalogs catalog).caches

variable {config : Config} {now : ℕ}

/-- A moment later the caches still hold what could be read, unless the catalog itself has
changed the store. -/
theorem Timed.still (h : start.Timed calls catalog config now)
    (hsame : (start.after calls (now + 1)).catalogs catalog =
      (start.after calls now).catalogs catalog)
    (hstill : ∀ call, calls[now]? = some call → call.catalog = catalog →
      (start.after calls (now + 1)).store = (start.after calls now).store) :
    start.Timed calls catalog config (now + 1) := by
  refine ⟨hsame ▸ h.settings, hsame ▸ h.listeners, ?_⟩
  rw [hsame]
  apply h.caches.imp
  · rintro named ⟨first, hfirst, hnamed, hquiet⟩
    exact ⟨first, by omega, hnamed, hquiet.succ hstill⟩
  · exact fun named counted hpaired => hpaired.succ

/-- Caches that have been told of a change hold nothing older. -/
theorem Timed.announced (h : start.Timed calls catalog config now)
    (hhealthy : (start.after calls (now + 1)).store.Healthy)
    (hcatalog : (start.after calls (now + 1)).catalogs catalog =
      (((start.after calls now).catalogs catalog).announce
        (start.after calls (now + 1)).store).2) :
    start.Timed calls catalog config (now + 1) := by
  rw [Catalog.announce_eq h.listeners hhealthy] at hcatalog
  refine ⟨?_, ?_, ?_⟩
  · rw [hcatalog]
    exact h.settings
  · rw [hcatalog]
    exact h.listeners
  · rw [hcatalog]
    exact Caches.dated_renewed (loadedBy_now (now + 1)) _ _

theorem Timed.succ_of_read (h : start.Timed calls catalog config now)
    (hhealthy : (start.after calls now).store.Healthy) {call : Call}
    (hcall : calls[now]? = some call) (hown : call.catalog = catalog)
    (hread : call.request.isRead = true) : start.Timed calls catalog config (now + 1) := by
  subst hown
  let peer : Peer α := ⟨(start.after calls now).catalogs call.catalog,
    (start.after calls now).writers call.writer⟩
  have hstore : (start.after calls (now + 1)).store = (start.after calls now).store := by
    rw [after_succ hcall]
    exact (peer.step_read _ hread).1
  have hcatalog : (start.after calls (now + 1)).catalogs call.catalog =
      (peer.step (start.after calls now).store call.request).peer.catalog := by
    rw [after_succ hcall]
    exact Function.update_self _ _ _
  have hloaded (named : Store) (hnamed : start.LoadedBy calls call.catalog now named) :
      start.LoadedBy calls call.catalog (now + 1) named := by
    obtain ⟨first, hfirst, hsame, hquiet⟩ := hnamed
    exact ⟨first, by omega, hsame, hquiet.succ fun _ _ _ => hstore⟩
  by_cases htrigger : call.request = .trigger
  · rw [htrigger] at hcatalog
    apply h.announced (hstore ▸ hhealthy)
    rw [hcatalog, hstore]
    rfl
  · obtain ⟨hconfig, hbus⟩ := peer.step_read_settings (start.after calls now).store hread
    refine ⟨?_, ?_, ?_⟩
    · rw [hcatalog, hconfig]
      exact h.settings
    · rw [hcatalog, hbus]
      exact h.listeners
    · rw [hcatalog]
      by_cases hreload : call.request = .reloadTags
      · rw [hreload]
        apply h.caches.reload hhealthy (hloaded _ (loadedBy_now now))
        intro named counted hpaired
        exact ⟨hpaired.succ, hpaired.reloaded ⟨call, hcall, rfl, hreload⟩⟩
      · have hkept : Caches.KeptByReads config (start.after calls now).store
            (Caches.Dated config (start.LoadedBy calls call.catalog now)
              (start.PairedBy calls call.catalog now) : Caches α → Prop) :=
          Caches.dated_keptByReads hhealthy (loadedBy_now now)
            fun named hnamed => LoadedBy.pairedBy hnamed
        have hdated := peer.step_read_keeps hkept h.settings h.caches hread hreload htrigger
        exact hdated.imp hloaded fun named counted hpaired => hpaired.succ

theorem Timed.succ_of_write (h : start.Timed calls catalog config now)
    (hlive : (start.after calls now).Live) {call : Call} (hcall : calls[now]? = some call)
    (hown : call.catalog = catalog) (hwrite : call.request.isWrite = true) :
    start.Timed calls catalog config (now + 1) := by
  subst hown
  have hhealthy := hlive.consistent.sound.healthy
  have hwritten := (Peer.step_write hhealthy
    ⟨(start.after calls now).catalogs call.catalog, (start.after calls now).writers call.writer⟩
    (hlive.valid call.writer) hwrite).2.same_or_announced
  have hcatalog : (start.after calls (now + 1)).catalogs call.catalog =
      ((start.after calls now).asked call).peer.catalog := by
    rw [after_succ hcall]
    exact Function.update_self _ _ _
  have hstore : (start.after calls (now + 1)).store =
      ((start.after calls now).asked call).store := by
    rw [after_succ hcall]
    rfl
  rcases hwritten with ⟨hsame, hkept⟩ | ⟨hchange, htold⟩
  · exact h.still (hcatalog.trans hkept) fun _ _ _ => hstore.trans hsame
  · apply h.announced
    · rw [hstore]
      exact hchange.healthy hhealthy
    · rw [hcatalog, hstore]
      exact htold

theorem Timed.succ (h : start.Timed calls catalog config now)
    (hlive : (start.after calls now).Live) {call : Call} (hcall : calls[now]? = some call)
    (hordinary : call.request.isOrdinary = true) :
    start.Timed calls catalog config (now + 1) := by
  by_cases hown : call.catalog = catalog
  · rcases Bool.or_eq_true_iff.1 hordinary with hwrite | hread
    · exact h.succ_of_write hlive hcall hown hwrite
    · exact h.succ_of_read hlive.consistent.sound.healthy hcall hown hread
  · apply h.still
    · rw [after_succ hcall]
      exact Function.update_of_ne (Ne.symm hown) _ _
    · intro other hother hcatalog
      rw [hcall] at hother
      cases hother
      exact absurd hcatalog hown

theorem timed_after {store : Store} (configs : ℕ → Config) (limits : ℕ → ℕ)
    (hconsistent : store.Consistent) (hordinary : ∀ call ∈ calls, call.request.isOrdinary = true)
    (catalog : ℕ) (now : ℕ) :
    (opened store configs limits : Archive α).Timed calls catalog (configs catalog) now := by
  have hlive := live_opened (α := α) hconsistent configs limits
  induction now with
  | zero => exact ⟨rfl, rfl, Caches.dated_cold _ _ _⟩
  | succ now ih =>
      cases hcall : calls[now]? with
      | none =>
          apply ih.still
          · rw [after_of_none hcall]
          · exact fun call hother => by rw [hcall] at hother; cases hother
      | some call =>
          exact ih.succ (hlive.after hordinary now) hcall
            (hordinary call (List.mem_of_getElem? hcall))

/-! ## The number of a tag -/

/-- A tag that has lost its number was removed for want of items. -/
theorem exists_orphaned (hlive : start.Live)
    (hordinary : ∀ call ∈ calls, call.request.isOrdinary = true) {first second : ℕ}
    (horder : first ≤ second) {tag : String} {id : TagId}
    (hbefore : (start.after calls first).store.names.id? tag = some id)
    (hafter : (start.after calls second).store.names.id? tag ≠ some id) :
    ∃ count call, first ≤ count ∧ count < second ∧ calls[count]? = some call ∧
      call.request = .deleteOrphanTags ∧
      (start.after calls count).store.names.id? tag = some id ∧
      (start.after calls (count + 1)).store.names.id? tag ≠ some id := by
  induction second, horder using Nat.le_induction with
  | base => exact absurd hbefore hafter
  | succ second horder ih =>
      by_cases hkept : (start.after calls second).store.names.id? tag = some id
      · cases hcall : calls[second]? with
        | none =>
            rw [after_of_none hcall] at hafter
            exact absurd hkept hafter
        | some call =>
            refine ⟨second, call, horder, by omega, hcall, ?_, hkept, hafter⟩
            have hthen := hlive.after hordinary second
            have hlater := hlive.after hordinary (second + 1)
            have heffect := hthen.effect (hordinary call (List.mem_of_getElem? hcall))
            rw [← after_succ hcall] at heffect
            by_contra hrequest
            obtain ⟨row, hrow, hname, hid⟩ :=
              hthen.consistent.sound.id?_eq_some_iff.1 hkept
            obtain ⟨same, hsame, hsameId, hsameName⟩ :=
              heffect.keeps_tag hthen.consistent.sound.healthy hrequest hrow
            apply hafter
            rw [hlater.consistent.sound.id?_eq_some_iff]
            exact ⟨same, hsame, hsameName.trans hname, hsameId.trans hid⟩
      · obtain ⟨count, call, hfirst, hlast, hfound⟩ := ih hkept
        exact ⟨count, call, hfirst, by omega, hfound⟩

/-! ## Answers -/

/-- Every weight that a catalog answers is the one that a new catalog would answer at some
moment of the run, or the tag had its number when the directory was read and not when the
snapshot was taken.  In between another catalog removed the tag for want of items, or the
directory was reloaded by itself after the snapshot. -/
theorem weight_of_moments
    {store : Store} (hreachable : store.Reachable) (configs : ℕ → Config) (limits : ℕ → ℕ)
    {calls : List Call} (hordinary : ∀ call ∈ calls, call.request.isOrdinary = true)
    (catalog : ℕ) (tag : String) :
    let start : Archive α := opened store configs limits
    let state (count : ℕ) := (start.after calls count).store
    let archive := start.run calls
    let weight := ((archive.catalogs catalog).weightFor archive.store tag).1
    (∃ count ≤ calls.length,
        weight = ((Catalog.fresh (configs catalog) : Catalog α).weightFor (state count) tag).1) ∨
      ∃ first ≤ calls.length, ∃ second ≤ calls.length, ∃ id,
        (state first).names.id? tag = some id ∧ (state second).names.id? tag ≠ some id ∧
          weight = (state second).weightSnapshot.weight (Caches.options (configs catalog)) id ∧
          ((∃ count call, first ≤ count ∧ count < second ∧ calls[count]? = some call ∧
              call.catalog ≠ catalog ∧ call.request = .deleteOrphanTags ∧
              (state count).names.id? tag = some id ∧
              (state (count + 1)).names.id? tag ≠ some id) ∨
            second ≤ first ∧ Reloads calls catalog first) := by
  intro start state archive weight
  have hlive : start.Live := live_opened hreachable.consistent configs limits
  have hhealthy (count : ℕ) : (state count).Healthy :=
    (hlive.after hordinary count).consistent.sound.healthy
  have hfresh (count : ℕ) :
      ((Catalog.fresh (configs catalog) : Catalog α).weightFor (state count) tag).1 =
        (state count).weightOf (configs catalog) tag :=
    ((Catalog.coherent_fresh (configs catalog) _).weightFor (hhealthy count) tag).1
  have hend : start.after calls calls.length = archive := by
    rw [after, List.take_length]
  have htimed := timed_after (α := α) configs limits hreachable.consistent hordinary catalog
    calls.length
  obtain ⟨-, named, counted, hpaired, hweight⟩ :=
    htimed.caches.weightFor (hhealthy calls.length) (loadedBy_now calls.length)
      (fun named hnamed => LoadedBy.pairedBy hnamed) tag
  have hanswer : weight = named.weightBetween counted (configs catalog) tag := by
    have hasked : weight = (Caches.weightFor (archive.catalogs catalog).config archive.store
        (archive.catalogs catalog).caches tag).1 := rfl
    rw [hasked, ← hend, htimed.settings, hweight]
  obtain ⟨first, hfirst, second, hsecond, rfl, rfl, horder⟩ := hpaired
  simp only [hfresh]
  cases hid : (state first).names.id? tag with
  | none =>
      refine .inl ⟨first, hfirst, ?_⟩
      exact hanswer.trans (Store.weightBetween_of_none hid)
  | some id =>
      by_cases hsame : (state second).names.id? tag = some id
      · refine .inl ⟨second, hsecond, ?_⟩
        exact hanswer.trans (Store.weightBetween_of_same hid hsame)
      · refine .inr ⟨first, hfirst, second, hsecond, id, hid, hsame, ?_, ?_⟩
        · exact hanswer.trans (Store.weightBetween_of_some hid)
        · refine horder.imp_left ?_
          rintro ⟨hearlier, hquiet⟩
          obtain ⟨count, call, hfrom, hto, hcall, hrequest, hheld, hlost⟩ :=
            exists_orphaned hlive hordinary hearlier hid hsame
          refine ⟨count, call, hfrom, hto, hcall, ?_, hrequest, hheld, hlost⟩
          intro hown
          rw [hquiet count call hfrom hto hcall hown] at hlost
          exact hlost hheld

/-- Another catalog moves a tag and takes it off its item behind the back of one that has
weighed it. -/
theorem weight_of_moments_behind :
    let calls : List Call :=
      [⟨0, 0, .add { filepath := "a.png", contentHash := "0", tags := [⟨"x", .general, none,
          .imported⟩] }⟩,
        ⟨0, 0, .flush⟩, ⟨0, 0, .weight "x"⟩,
        ⟨1, 1, .setTagCategory "x" .artist none⟩,
        ⟨1, 1, .removeTag "a.png" "x"⟩]
    let start : Archive Float := opened {} (fun _ => {}) (fun _ => 8)
    let archive := start.run calls
    ∃ count ≤ calls.length,
      ((archive.catalogs 0).weightFor archive.store "x").1 =
        ((Catalog.fresh {} : Catalog Float).weightFor (start.after calls count).store "x").1 := by
  intro calls start archive
  have hordinary : ∀ call ∈ calls, call.request.isOrdinary = true := by decide
  have hnone : ∀ call ∈ calls,
      call.request ≠ .deleteOrphanTags ∧ call.request ≠ .reloadTags := by
    simp [calls]
  have hstart : Store.Reachable {} := .refl
  have hall := weight_of_moments (α := Float) hstart (fun _ => {}) (fun _ => 8) hordinary 0 "x"
  rcases hall with hmoment | ⟨first, -, second, -, id, -, -, -, horphaned | hreloaded⟩
  · obtain ⟨count, hcount, hweight⟩ := hmoment
    refine ⟨count, hcount, ?_⟩
    simp only [archive, start]
    exact hweight
  · obtain ⟨count, call, -, -, hcall, -, hrequest, -⟩ := horphaned
    exact absurd hrequest (hnone call (List.mem_of_getElem? hcall)).1
  · obtain ⟨-, call, hcall, -, hrequest⟩ := hreloaded
    exact absurd hrequest (hnone call (List.mem_of_getElem? hcall)).2

/-- Another catalog removes a tag for want of items, and its number goes to a tag of an
artist.  The name is then weighed as that tag, which it is at no moment. -/
theorem weight_of_two_tags :
    let calls : List Call :=
      [⟨0, 0, .add { filepath := "a.png", contentHash := "0", tags := [⟨"x", .general, none,
          .imported⟩] }⟩,
        ⟨0, 0, .flush⟩,
        ⟨1, 1, .removeTag "a.png" "x"⟩, ⟨1, 1, .deleteOrphanTags⟩,
        ⟨1, 1, .add { filepath := "b.png", contentHash := "1", tags := [⟨"y", .artist, none,
          .imported⟩] }⟩,
        ⟨1, 1, .flush⟩]
    let start : Archive ℝ := opened {} (fun _ => {}) (fun _ => 8)
    let archive := start.run calls
    (∀ call ∈ calls, call.request.isOrdinary = true) ∧
      ((archive.catalogs 0).weightFor archive.store "x").1 = 3 / Real.log 2 ∧
      ∀ count ≤ calls.length,
        ((Catalog.fresh {} : Catalog ℝ).weightFor (start.after calls count).store "x").1 ≠
          3 / Real.log 2 := by
  intro calls start archive
  have hordinary : ∀ call ∈ calls, call.request.isOrdinary = true := by decide
  have hlive : start.Live := live_opened Store.consistent_empty _ _
  have hoptions : Caches.options {} = ⟨.compressed, false⟩ := rfl
  have hlog : 0 < Real.log 2 := Real.log_pos (by norm_num)
  have hlogLt : Real.log 2 < 1 := by
    have hbelow := Real.log_lt_sub_one_of_pos (by norm_num : (0 : ℝ) < 2) (by norm_num)
    linarith
  refine ⟨hordinary, ?_, ?_⟩
  · have hnames : (archive.catalogs 0).caches.directory.current = some ⟨[(1, "x")]⟩ := by
      decide +kernel
    have hweights : (archive.catalogs 0).caches.weights.current.isNone = true := by
      decide
    have hartist : archive.store.weightSnapshot.frequency 1 ≤ 1 ∧
        archive.store.weightSnapshot.tags.find? (·.id = 1) = some ⟨1, "y", .artist, none⟩ := by
      decide +kernel
    have hconfig : (archive.catalogs 0).config = {} := by decide
    have hid : TagNames.id? ⟨[(1, "x")]⟩ "x" = some 1 := by decide
    rw [Catalog.weightFor_of_unprimed (hlive.run hordinary).consistent.sound.healthy hnames
      (Option.isNone_iff_eq_none.1 hweights) hid, hconfig, hoptions,
      WeightSnapshot.weight_of_rare hartist.1 hartist.2]
    simp [Category.weight, Scalar.whole]
  · intro count hcount
    have hhealthy := (hlive.after hordinary count).consistent.sound.healthy
    rw [((Catalog.coherent_fresh {} _).weightFor hhealthy "x").1]
    have hmoments : ∀ count ≤ calls.length,
        (start.after calls count).store.names.id? "x" = none ∨
          (start.after calls count).store.names.id? "x" = some 1 ∧
            (start.after calls count).store.weightSnapshot.frequency 1 ≤ 1 ∧
            (start.after calls count).store.weightSnapshot.tags.find? (·.id = 1) =
              some ⟨1, "x", .general, none⟩ := by
      decide +kernel
    obtain hunknown | ⟨hid, hrare, htag⟩ := hmoments count hcount
    · rw [Store.weightOf, hunknown, unknownTagWeight_eq]
      have hlarge : 3 < 3 / Real.log 2 := by
        rw [lt_div_iff₀ hlog]
        linarith
      linarith
    · rw [Store.weightOf, hid, hoptions]
      dsimp only
      rw [WeightSnapshot.weight_of_rare hrare htag]
      simp only [Category.weight, Scalar.whole, ne_eq, div_left_inj' hlog.ne']
      norm_num

end Archive

end Gallery
