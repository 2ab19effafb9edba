/-
  Bookshop.Proofs.Catalog.Late — writes that come late: other clients have been at work since the row was read.

  A write names the version that it expects, and in one lifetime of a row a version is one value
  (`Meanwhile.current`). So a write that goes through by the version of the row that it was made from has
  met just that row.

  - `cascade_overwrites_nothing`: the deletion of an author takes a credit from a book as it was found, or
    changes nothing.
  - `Books.patch_steps`, `Authors.patch_steps`: a patch is three steps, and in `PatchUnderWay` other clients are
    at work between them.
  - `patch_reverts_nothing`: a patch leaves the fields that it does not set as it meets them, provided that the
    version it expects is not past that of the row it was merged over. A header may assert such a version:
    `patch_by_a_version_to_come_reverts`.
-/

import Bookshop.Proofs.Catalog.Guarded
import Bookshop.Proofs.Catalog.Meanwhile

namespace Bookshop

open CatalogM

/-! ## Updates by the version of what was found -/

section

variable {α : Type} [Storable α] {id : Uuid} {s s' t : Store} {a : α} {now : Nat} {expected : Int} {answer : Stored α}

/-- What an update leaves: its answer at the place, and every other row as it was. -/
theorem Store.of_update (h : s.update now a expected = .ok (answer, s'))
    (hd : Storable.decode (Storable.encode a) = .ok a) :
    answer.data = a ∧ s'.get α (Storable.id a) = .ok (some answer) ∧
      ∀ collection other, ¬ (Storable.collection α = collection ∧ Storable.id a = other) →
        s'.row? collection other = s.row? collection other := by
  obtain ⟨row, hr, hholds, rfl⟩ := row?_of_update h
  refine ⟨rfl, get_eq_some.mpr ⟨row, hr, hholds.read hd⟩, fun collection other hne => ?_⟩
  obtain ⟨_, -, -, -, -, rfl⟩ := update_eq_ok.mp h
  rw [row?_replacing, if_neg hne]

theorem Store.metadata_of_update {found : Stored α} (hg : s.get α (Storable.id a) = .ok (some found))
    (h : s.update now a expected = .ok (answer, s')) :
    answer.metadata.created = found.metadata.created ∧ answer.version = found.version + 1 := by
  obtain ⟨row, hr, -, -, rfl, -⟩ := update_eq_ok.mp h
  obtain ⟨row', hr', hread⟩ := get_eq_some.mp hg
  obtain rfl : row' = row := Option.some.inj (hr'.symm.trans hr)
  rw [Stored.version, Stored.version, Row.metadata_of_read hread]
  exact ⟨rfl, rfl⟩

/-- An update goes through by no earlier version than that of a row that was found before, and if it does by that one,
it meets the row as it was found. -/
theorem Meanwhile.of_update (hm : Meanwhile (Storable.collection α) id s t) (hs : s.Sound) {found : Stored α}
    (hg : s.get α id = .ok (some found)) (ha : Storable.id a = id) (he : expected ≤ found.version)
    (h : t.update now a expected = .ok (answer, s')) :
    t.get α id = .ok (some found) ∧ answer.metadata.created = found.metadata.created ∧
      answer.version = found.version + 1 := by
  subst ha
  obtain ⟨row, hr, hv, -⟩ := Store.update_eq_ok.mp h
  have hle := hm.version_le hs hg hr
  have hcur := hm.current hs hg hr (by omega)
  exact ⟨hcur, Store.metadata_of_update hcur h⟩

end

/-! ## Updates of books -/

namespace Books

/-- The book that a request makes of the row, which is read once more. -/
def revised (id : Uuid) (request : Book.Request) : CatalogM Book := do
  let current ← require id
  decided (request.toBook current.id)

theorem update_eq (id : Uuid) (expected : Int) (request : Book.Request) :
    update id expected request = (do let book ← revised id request; call (StoreM.update book expected)) := by
  simp only [update, revised, bind_assoc]

theorem of_on_revised {id : Uuid} {request : Book.Request} {s t : Session} {book : Book}
    (hs : s.store.Sound) (h : (revised id request).on s = (.ok book, t)) :
    request.toBook id = .ok book ∧ book.id = id ∧ t.store = s.store ∧
      ∃ current, s.store.get Book id = .ok (some current) := by
  obtain ⟨current, u, hr, hd⟩ := on_bind_eq_ok.mp h
  obtain ⟨hget, rfl⟩ := of_on_require hr
  have hid : current.id = id := (hs.of_get books_kind hget).2
  rw [on_decided, hid] at hd
  obtain ⟨hbook, rfl⟩ := Prod.mk.inj hd
  obtain ⟨-, rfl⟩ := Book.Request.toBook_eq_ok.mp hbook
  exact ⟨hbook, rfl, rfl, current, hget⟩

theorem of_on_update {id : Uuid} {expected : Int} {request : Book.Request} {s t : Session} {new : Stored Book}
    (hs : s.store.Sound) (h : (update id expected request).on s = (.ok new, t)) :
    ∃ book now, request.toBook id = .ok book ∧ book.id = id ∧
      s.store.update now book expected = .ok (new, t.store) := by
  rw [update_eq] at h
  obtain ⟨book, u, hrevised, hcall⟩ := on_bind_eq_ok.mp h
  obtain ⟨hbook, hid, hstore, -⟩ := of_on_revised hs hrevised
  obtain ⟨store, hup, rfl⟩ := of_on_attempt hcall
  exact ⟨book, _, hbook, hid, hstore ▸ hup⟩

end Books

/-! ## The cascade -/

/-- Of one of the books that were found, whatever became of it meanwhile, short of being created again. Its price is
the same on the assumption that amounts read back from the text of a row (`Row.read`). -/
theorem cascade_overwrites_nothing {s₀ : Store} (h : Reachable s₀) {author : Uuid} {books : List (Stored Book)}
    (hfind : s₀.find (fun book => book.credits author) = .ok books) {b : Stored Book} (hb : b ∈ books) {s : Session}
    (hm : Meanwhile "books" b.id s₀ s.store) :
    let after := (Books.update b.id b.version (b.data.uncredited author)).on s
    ((∃ f, after.1 = .error f) ∧ after.2.store = s.store ∨
      s.store.get Book b.id = .ok (some b) ∧
      ∃ new, after.1 = .ok new ∧ after.2.store.get Book b.id = .ok (some new) ∧
        new.data = b.data.without author ∧ new.metadata.created = b.metadata.created ∧ new.version = b.version + 1 ∧
        ∀ collection id, ¬ ("books" = collection ∧ b.id = id) →
          after.2.store.row? collection id = s.store.row? collection id) ∧
    (s.Quiet → s.store.row? "books" b.id = s₀.row? "books" b.id → ∃ new, after.1 = .ok new) := by
  intro after
  have hs := hm.sound h.sound
  have hget := (Authors.upToDate_of_find h.sound hfind).current b hb
  have hnormal := (h.sound.of_get books_kind hget).1
  refine ⟨?_, fun hq hsame => ?_⟩
  · cases hrun : after with
    | mk result t =>
      cases result with
      | error f =>
        have hstore := Books.allOrNothing_update b.id b.version (b.data.uncredited author) s f (congrArg Prod.fst hrun)
        exact .inl ⟨⟨f, rfl⟩, (congrArg (·.2.store) hrun).symm.trans hstore⟩
      | ok new =>
        -- the request is made of `b` alone, and the book that is read once more only gives its identifier
        obtain ⟨book, now, hbook, hid, hup⟩ := Books.of_on_update hs hrun
        obtain rfl : b.data.without author = book := Except.ok.inj ((hnormal.toBook_uncredited author).symm.trans hbook)
        obtain ⟨hmet, hcreated, hversion⟩ := hm.of_update h.sound hget hid (Int.le_refl _) hup
        obtain ⟨hdata, hnew, hothers⟩ := Store.of_update hup (Book.decode_toJson (hnormal.without author).price)
        exact .inr ⟨hmet, new, rfl, hnew, hdata, hcreated, hversion, hothers⟩
  · have hcur : s.store.get Book b.id = .ok (some b) := (Store.get_congr hsame).trans hget
    obtain ⟨answer, ha⟩ := Store.update_book hcur (b.data.without author) rfl (s.clock (s.calls + 1))
    have hrun := (Authors.on_update_uncredited hs hcur (hq.outages_eq _ _) author).trans
      (on_attempt_done (hq.outages_eq _ _) ha)
    exact ⟨answer, congrArg Prod.fst hrun⟩

/-- The notes lose a credit of theirs, although an author was added since they were found. -/
theorem ada_leaves_the_notes_late :
    let s := ((Change.createAuthor ⟨8⟩ ⟨"Bo"⟩).run.on quietLibrary).2
    Meanwhile "books" notes.id library.store s.store ∧
      ∃ new, ((Books.update notes.id 0 (notes.uncredited ada)).on s).1 = .ok new ∧ new.data = notes.without ada := by
  intro s
  have hm : Meanwhile "books" notes.id library.store s.store :=
    .change .start ⟨Author.Request.toJson ⟨"Bo"⟩, rfl⟩ fun hc => by cases hc.1
  obtain ⟨books, hfind, -, hmem⟩ := reachable_library.sound.find books_kind (fun book => book.credits ada)
  have hnotes : ⟨notes, ⟨2, 2, 0⟩⟩ ∈ books := (hmem _).mpr ⟨by decide, rfl⟩
  obtain ⟨hsafe, hdone⟩ := cascade_overwrites_nothing reachable_library hfind hnotes hm
  obtain ⟨new, hnew⟩ := hdone rfl rfl
  rcases hsafe with ⟨⟨f, hf⟩, -⟩ | ⟨-, new', hok, -, hdata, -⟩
  · exact absurd (hf.symm.trans hnew) (by simp)
  · exact ⟨hm, new', hok, hdata⟩

/-! ## Patches -/

/-- What a patch begins with: the row, and the version that the headers settle for it. -/
def CatalogM.settled (α : Type) [Storable α] (id : Uuid) (pre : Preconditions) (isEmpty : Bool) :
    CatalogM (Stored α × Int) := do
  let found ← guarded α id pre
  if isEmpty then throw .emptyPatch
  return found

def Authors.revised (id : Uuid) (request : Author.Request) : CatalogM Author := do
  let current ← require id
  return Author.mk id (renamed request current.data)

theorem CatalogM.patching_eq {α β : Type} [Storable α] (id : Uuid) (pre : Preconditions) (isEmpty : Bool)
    (update : Stored α → Int → CatalogM β) :
    patching id pre isEmpty update = (do
      let (current, expected) ← settled α id pre isEmpty
      update current expected) := by
  cases isEmpty <;> simp [patching, settled]

theorem Authors.patch_steps (id : Uuid) (pre : Preconditions) (patch : Author.Patch) :
    Authors.patch id pre patch = (do
      let (current, expected) ← settled Author id pre patch.isEmpty
      let author ← revised id (patch.merge current.data)
      call (StoreM.update author expected)) := by
  rw [patch_eq, patching_eq]
  simp only [update, revised, bind_assoc, pure_bind]

theorem Books.patch_steps (id : Uuid) (pre : Preconditions) (patch : Book.Patch) :
    Books.patch id pre patch = (do
      let (current, expected) ← settled Book id pre patch.isEmpty
      let book ← revised id (patch.merge current.data)
      call (StoreM.update book expected)) := by
  rw [patch_eq, patching_eq]
  simp only [update_eq]

theorem CatalogM.of_on_settled {α : Type} [Storable α] {id : Uuid} {pre : Preconditions} {isEmpty : Bool}
    {s t : Session} {current : Stored α} {expected : Int}
    (h : (settled α id pre isEmpty).on s = (.ok (current, expected), t)) :
    isEmpty = false ∧ s.store.get α id = .ok (some current) ∧ t.store = s.store := by
  obtain ⟨⟨row, n⟩, u, hguarded, h⟩ := on_bind_eq_ok.mp h
  obtain ⟨hget, -, rfl⟩ := of_on_guarded hguarded
  cases isEmpty with
  | true => cases h
  | false =>
    cases h
    exact ⟨rfl, hget, rfl⟩

theorem Authors.of_on_revised {id : Uuid} {request : Author.Request} {s t : Session} {author : Author}
    (h : (revised id request).on s = (.ok author, t)) : author.id = id ∧ t.store = s.store := by
  obtain ⟨current, u, hr, hd⟩ := on_bind_eq_ok.mp h
  obtain ⟨-, rfl⟩ := of_on_require hr
  cases hd
  exact ⟨rfl, rfl⟩

/-- A patch that comes to write its row, and what other clients do between its steps. -/
structure PatchUnderWay {α : Type} [Storable α] (id : Uuid) (pre : Preconditions) (isEmpty : Bool)
    (revise : Stored α → CatalogM α) where
  /-- The sessions in which the row is read, the new value is made, and it is written; and the one after each. -/
  reading : Session
  read : Session
  making : Session
  made : Session
  writing : Session
  written : Session
  current : Stored α
  expected : Int
  value : α
  answer : Stored α
  settles : (settled α id pre isEmpty).on reading = (.ok (current, expected), read)
  before : Meanwhile (Storable.collection α) id read.store making.store
  makes : (revise current).on making = (.ok value, made)
  between : Meanwhile (Storable.collection α) id made.store writing.store
  writes : (call (StoreM.update value expected)).on writing = (.ok answer, written)

namespace PatchUnderWay

variable {α : Type} [Storable α] {id : Uuid} {pre : Preconditions} {isEmpty : Bool} {revise : Stored α → CatalogM α}

theorem exists_update (run : PatchUnderWay id pre isEmpty revise) :
    ∃ now, run.writing.store.update now run.value run.expected = .ok (run.answer, run.written.store) := by
  obtain ⟨store, hup, hwritten⟩ := of_on_attempt run.writes
  rw [hwritten]
  exact ⟨_, hup⟩

theorem exists_written (run : PatchUnderWay id pre isEmpty revise) (hid : Storable.id run.value = id) :
    ∃ row, run.written.store.row? (Storable.collection α) id = some row ∧ row.Holds run.answer.data := by
  obtain ⟨now, hup⟩ := run.exists_update
  obtain ⟨row, hr, hholds, hanswer⟩ := Store.row?_of_update hup
  rw [hid] at hr
  rw [hanswer]
  exact ⟨row, hr, hholds⟩

theorem meanwhile (run : PatchUnderWay id pre isEmpty revise) (hmade : run.made.store = run.making.store) :
    Meanwhile (Storable.collection α) id run.reading.store run.writing.store := by
  obtain ⟨-, -, hread⟩ := of_on_settled run.settles
  have hbefore := run.before
  have hbetween := run.between
  rw [hread] at hbefore
  rw [hmade] at hbetween
  exact hbefore.trans hbetween

end PatchUnderWay

/-- A field that the patch does not set is the same in both. -/
structure Author.Patch.Spares (patch : Author.Patch) (old new : Author) : Prop where
  id : new.id = old.id
  name : patch.newName? = none → new.name = old.name

structure Book.Patch.Spares (patch : Book.Patch) (old new : Book) : Prop where
  id : new.id = old.id
  title : patch.newTitle? = none → new.title = old.title
  authors : patch.authors = none → new.authors = old.authors
  genres : patch.genres = none → new.genres = old.genres
  price : patch.price = none → new.price = old.price

theorem Book.Normal.spares {book new : Book} (h : book.Normal) {patch : Book.Patch}
    (hb : (patch.merge book).toBook book.id = .ok new) : patch.Spares book new := by
  obtain ⟨-, rfl⟩ := Book.Request.toBook_eq_ok.mp hb
  refine ⟨rfl, fun ht => ?_, fun ha => ?_, fun hg => ?_, fun hp => ?_⟩
  · simp [Patch.merge, ht, h.trimmed]
  · simp [Patch.merge, ha, distinct_of_nodup h.authors]
  · simp [Patch.merge, hg, distinct_of_nodup h.genres]
  · simp [Patch.merge, hp]

theorem Authors.patch_spares {id : Uuid} {pre : Preconditions} {patch : Author.Patch}
    (run : PatchUnderWay id pre patch.isEmpty fun current => revised id (patch.merge current.data))
    (h : Reachable run.reading.store) :
    ∃ met row, run.writing.store.get Author id = .ok (some met) ∧ run.written.store.row? "authors" id = some row ∧
      row.Holds run.answer.data ∧ patch.Spares met.data run.answer.data := by
  obtain ⟨he, -, -⟩ := of_on_settled run.settles
  obtain ⟨hid, hmade⟩ := of_on_revised run.makes
  obtain ⟨now, hup⟩ := run.exists_update
  obtain ⟨row, hr, -, -, hanswer, -⟩ := Store.update_eq_ok.mp hup
  rw [show Storable.id run.value = id from hid] at hr
  have hs := (run.meanwhile hmade).sound h.sound
  obtain ⟨met, -, hmet, -, hget⟩ := hs.current authors_kind hr
  rw [hmet] at hget
  obtain ⟨new, hnew, hholds⟩ := run.exists_written hid
  refine ⟨met, new, hget, hnew, hholds, ⟨?_, fun hn => ?_⟩⟩
  · rw [hanswer]
    exact hid.trans hmet.symm
  · rw [Author.Patch.isEmpty, hn] at he
    cases he

theorem Books.patch_spares {id : Uuid} {pre : Preconditions} {patch : Book.Patch}
    (run : PatchUnderWay id pre patch.isEmpty fun current => revised id (patch.merge current.data))
    (h : Reachable run.reading.store) (hv : run.expected ≤ run.current.version) :
    ∃ met row, run.writing.store.get Book id = .ok (some met) ∧ run.written.store.row? "books" id = some row ∧
      row.Holds run.answer.data ∧ patch.Spares met.data run.answer.data := by
  obtain ⟨-, hget, hread⟩ := of_on_settled run.settles
  have hmaking := run.before.sound (hread ▸ h.sound)
  obtain ⟨hbook, hid, hmade, -⟩ := of_on_revised hmaking run.makes
  obtain ⟨now, hup⟩ := run.exists_update
  obtain ⟨hnormal, hcur⟩ := h.sound.of_get books_kind hget
  obtain ⟨hmet, -, -⟩ := (run.meanwhile hmade).of_update h.sound hget hid hv hup
  obtain ⟨_, -, -, -, hanswer, -⟩ := Store.update_eq_ok.mp hup
  obtain ⟨new, hnew, hholds⟩ := run.exists_written hid
  refine ⟨run.current, new, hmet, hnew, hholds, ?_⟩
  rw [hanswer]
  exact hnormal.spares ((congrArg _ hcur).trans hbook)

theorem patch_reverts_nothing (id : Uuid) (pre : Preconditions) :
    (∀ (patch : Author.Patch)
      (run : PatchUnderWay id pre patch.isEmpty fun current => Authors.revised id (patch.merge current.data)),
      Reachable run.reading.store →
      ∃ met row, run.writing.store.get Author id = .ok (some met) ∧
        run.written.store.row? "authors" id = some row ∧ row.Holds run.answer.data ∧
        patch.Spares met.data run.answer.data) ∧
    ∀ (patch : Book.Patch)
      (run : PatchUnderWay id pre patch.isEmpty fun current => Books.revised id (patch.merge current.data)),
      Reachable run.reading.store → run.expected ≤ run.current.version →
      ∃ met row, run.writing.store.get Book id = .ok (some met) ∧
        run.written.store.row? "books" id = some row ∧ row.Holds run.answer.data ∧
        patch.Spares met.data run.answer.data := by
  exact ⟨fun _ run h => Authors.patch_spares run h, fun _ run h hv => Books.patch_spares run h hv⟩

/-! ## The notes are patched -/

def soleCredit : Book.Patch := ⟨none, some [ada], none, none⟩

/-- The notes at the version that they have, while another client adds an author. -/
def patchOfTheNotes : PatchUnderWay notes.id byVersion soleCredit.isEmpty fun current =>
    Books.revised notes.id (soleCredit.merge current.data) where
  reading := quietLibrary
  read := quietLibrary.called
  making := ((Change.createAuthor ⟨8⟩ ⟨"Bo"⟩).run.on quietLibrary.called).2
  made := ((Change.createAuthor ⟨8⟩ ⟨"Bo"⟩).run.on quietLibrary.called).2.called
  writing := ((Change.createAuthor ⟨8⟩ ⟨"Bo"⟩).run.on quietLibrary.called).2.called
  written := _
  current := ⟨notes, ⟨2, 2, 0⟩⟩
  expected := 0
  value := { notes with authors := [ada] }
  answer := ⟨{ notes with authors := [ada] }, ⟨2, 5, 1⟩⟩
  settles := rfl
  before := .change .start ⟨Author.Request.toJson ⟨"Bo"⟩, rfl⟩ fun hc => by cases hc.1
  makes := rfl
  between := .start
  writes := rfl

theorem the_notes_keep_their_title :
    ∃ met row, patchOfTheNotes.writing.store.get Book notes.id = .ok (some met) ∧
      patchOfTheNotes.written.store.row? "books" notes.id = some row ∧ row.Holds patchOfTheNotes.answer.data ∧
      soleCredit.Spares met.data patchOfTheNotes.answer.data :=
  (patch_reverts_nothing notes.id byVersion).2 soleCredit patchOfTheNotes reachable_library (Int.le_refl 0)

/-- Headers that name the notes, and assert the version after the one that they have. -/
def ahead : Preconditions := { ifMatch := some "*, \"00000000-0000-0000-0000-000000000002:1\"" }

/-- The notes are renamed by another client, and the patch is written by the version to which that takes them. -/
def patchAhead : PatchUnderWay notes.id ahead soleCredit.isEmpty fun current =>
    Books.revised notes.id (soleCredit.merge current.data) where
  reading := quietLibrary
  read := quietLibrary.called
  making := ((Change.updateBook notes.id 0 { notes.likewise with title := "Diary" }).run.on quietLibrary.called).2
  made := ((Change.updateBook notes.id 0 { notes.likewise with title := "Diary" }).run.on quietLibrary.called).2.called
  writing := ((Change.updateBook notes.id 0 { notes.likewise with title := "Diary" }).run.on quietLibrary.called).2.called
  written := _
  current := ⟨notes, ⟨2, 2, 0⟩⟩
  expected := 1
  value := { notes with authors := [ada] }
  answer := ⟨{ notes with authors := [ada] }, ⟨2, 5, 2⟩⟩
  settles := rfl
  before := .change .start ⟨Book.Request.toJson { notes.likewise with title := "Diary" }, rfl⟩ fun hc => by cases hc.1
  makes := rfl
  between := .start
  writes := rfl

/-- A patch by a version to come reverts the title that another client has given the notes. -/
theorem patch_by_a_version_to_come_reverts :
    Reachable patchAhead.reading.store ∧ ∃ met, patchAhead.writing.store.get Book notes.id = .ok (some met) ∧
      ¬ soleCredit.Spares met.data patchAhead.answer.data := by
  refine ⟨reachable_library, ⟨{ notes with title := "Diary" }, ⟨2, 4, 1⟩⟩, rfl, fun h => ?_⟩
  have ht : "Notes" = "Diary" := h.title rfl
  exact absurd ht (by decide)

end Bookshop
