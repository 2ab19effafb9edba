/-
  Bookshop.Proofs.Catalog.Merged — a patch is a full write of the merged request.

  A PUT settles first whether it may replace a row at all, and a PATCH reads the row first; then both settle the
  version and write. So where there is a row, and the headers do not ask for a new one, a PUT of the request that the
  patch makes of the row comes to the same as the patch (`CatalogM.agree_placing_patching`): only a PUT that has no
  tag to be matched ends before it reads.

  A book in normal form stays as it is when it is brought into that form again. So the fields that a patch leaves out
  are those of the row, and those that it sets are in normal form (`Book.Normal.turns`).

  - `a_patch_places_the_merged_request`: all of this for authors and books; and a patch that sets nothing changes
    nothing.
-/

import Bookshop.Proofs.Catalog.Late

namespace Bookshop

open CatalogM

/-! ## Placing and patching -/

/-- In the session, the PUT and the PATCH leave the same store, and give the same row or fail with the same failure. -/
def CatalogM.Agree {α : Type} (s : Session) (place : CatalogM (Placed (Stored α))) (patch : CatalogM (Stored α)) : Prop :=
  (place.on s).1 = (patch.on s).1.map .replaced ∧ (place.on s).2.store = (patch.on s).2.store

section

variable {α : Type} [Storable α] {id : Uuid} {pre : Preconditions} {s : Session}

/-- Whether there is a tag to be matched, a PUT settles first, and a PATCH when it has read the row. -/
theorem CatalogM.agree_placing_patching (hn : pre.ifNoneMatch.map Text.trim ≠ some "*") {current : Stored α}
    (ho : s.outages s.calls (.get (Storable.collection α) id) = none) (hget : s.store.get α id = .ok (some current))
    (create : CatalogM (Stored α)) (update : Stored α → Int → CatalogM (Stored α)) :
    Agree s (placing id pre create (update current)) (patching id pre false update) := by
  by_cases hi : pre.HasIfMatch
  · have hp : (decided pre.purpose).on s = (.ok .replace, s) := by
      rw [on_decided, Preconditions.purpose_of_header hi hn]
    rw [Agree, placing, patching, on_bind_ok hp]
    cases hg : (guarded α id pre).on s with
    | mk result t =>
      cases result with
      | error f =>
        rw [on_bind_error hg, on_bind_error hg]
        exact ⟨rfl, rfl⟩
      | ok settled =>
        obtain ⟨found, expected⟩ := settled
        obtain ⟨hfound, -, -⟩ := of_on_guarded hg
        obtain rfl : found = current := Option.some.inj (Except.ok.inj (hfound.symm.trans hget))
        rw [on_bind_ok hg, on_bind_ok hg]
        exact ⟨on_map _ _ t, congrArg Session.store (on_map_session _ _ t)⟩
  · have hp : (decided pre.purpose).on s = (.error .ifMatchRequired, s) := by
      rw [on_decided, Preconditions.purpose_of_absent hi hn]
    have hgate : (decided (pre.gateVersion current)).on s.called = (.error .ifMatchRequired, s.called) := by
      rw [on_decided, Preconditions.gateVersion_of_absent hi]
    have hg : (guarded α id pre).on s = (.error .ifMatchRequired, s.called) :=
      (on_bind_ok (on_require_found ho hget)).trans (on_bind_error hgate)
    rw [Agree, placing, patching, on_bind_error hp, on_bind_error hg]
    exact ⟨rfl, rfl⟩

theorem CatalogM.readOnly_patching {β : Type} (update : Stored α → Int → CatalogM β) :
    (patching id pre true update).ReadOnly := by
  refine (readOnly_guarded id pre).bind fun (current, expected) => ?_
  exact readOnly_throw _

end

/-! ## What a patch sets -/

/-- The name is left out, or blank. -/
def Author.Patch.SetsNothing (patch : Author.Patch) : Prop :=
  ∀ name, patch.name = some name → Text.isBlankText name = true

/-- Each field is left out, or the title is blank. -/
structure Book.Patch.SetsNothing (patch : Book.Patch) : Prop where
  title : ∀ title, patch.title = some title → Text.isBlankText title = true
  authors : patch.authors = none
  genres : patch.genres = none
  price : patch.price = none

theorem Author.Patch.isEmpty_iff {patch : Author.Patch} : patch.isEmpty = true ↔ patch.SetsNothing := by
  obtain ⟨name⟩ := patch
  cases name <;> simp [isEmpty, newName?, SetsNothing]

theorem Book.Patch.newTitle?_eq (patch : Book.Patch) :
    patch.newTitle? = (patch.title.filter fun title => !Text.isBlankText title).map Text.trim := by
  rw [newTitle?]
  cases patch.title with
  | none => rfl
  | some title => cases hb : Text.isBlankText title <;> simp [hb]

theorem Book.Patch.isEmpty_iff {patch : Book.Patch} : patch.isEmpty = true ↔ patch.SetsNothing := by
  have htitle : patch.newTitle? = none ↔ ∀ title, patch.title = some title → Text.isBlankText title = true := by
    simp [newTitle?_eq, Option.filter_eq_none_iff]
  simp only [isEmpty, Bool.and_eq_true, Option.isNone_iff_eq_none, htitle]
  exact ⟨fun ⟨⟨⟨ht, ha⟩, hg⟩, hp⟩ => ⟨ht, ha, hg, hp⟩, fun h => ⟨⟨⟨h.title, h.authors⟩, h.genres⟩, h.price⟩⟩

/-- What becomes of a book: each field that the patch sets is that value in normal form, and the others are as they
were. A blank title sets nothing. -/
structure Book.Patch.Turns (patch : Book.Patch) (old new : Book) : Prop where
  id : new.id = old.id
  title : new.title = ((patch.title.filter fun title => !Text.isBlankText title).map Text.trim).getD old.title
  authors : new.authors = (patch.authors.map List.eraseDups).getD old.authors
  genres : new.genres = (patch.genres.map List.eraseDups).getD old.genres
  price : new.price = patch.price.getD old.price

/-- What is kept in normal form is brought into it again, and stays as it is. -/
theorem Book.Normal.turns {book new : Book} (h : book.Normal) {patch : Book.Patch}
    (hb : (patch.merge book).toBook book.id = .ok new) : patch.Turns book new := by
  obtain ⟨-, rfl⟩ := Book.Request.toBook_eq_ok.mp hb
  refine ⟨rfl, ?_, ?_, ?_, rfl⟩ <;> dsimp only [Patch.merge]
  · rw [Patch.newTitle?_eq]
    cases patch.title.filter fun title => !Text.isBlankText title with
    | none => exact h.trimmed
    | some title => exact Text.trim_trim title
  · cases patch.authors with
    | none => exact distinct_of_nodup h.authors
    | some authors => exact distinct_eq_eraseDups authors
  · cases patch.genres with
    | none => exact distinct_of_nodup h.genres
    | some genres => exact distinct_eq_eraseDups genres

/-! ## Patches of authors and books -/

/-- The book that is answered is left at its place, turned as the patch says and at the next version; every other row is
as it was. -/
structure Book.Patch.Leaves (patch : Book.Patch) (s s' : Store) (old new : Stored Book) : Prop where
  there : s'.get Book old.id = .ok (some new)
  turned : patch.Turns old.data new.data
  created : new.metadata.created = old.metadata.created
  version : new.version = old.version + 1
  others : ∀ collection id, ¬ ("books" = collection ∧ old.id = id) → s'.row? collection id = s.row? collection id

variable {id : Uuid} {pre : Preconditions} {s : Session}

theorem Books.leaves_of_on_patch {patch : Book.Patch} {t : Session} {current new : Stored Book} (hs : s.store.Sound)
    (hp : patch.Priced) (hget : s.store.get Book id = .ok (some current))
    (h : (Books.patch id pre patch).on s = (.ok new, t)) : patch.Leaves s.store t.store current new := by
  obtain ⟨hnormal, rfl⟩ := hs.of_get books_kind hget
  rw [patch_steps] at h
  obtain ⟨⟨found, expected⟩, u, hsettled, h⟩ := on_bind_eq_ok.mp h
  obtain ⟨-, hfound, hread⟩ := of_on_settled hsettled
  obtain rfl : found = current := Option.some.inj (Except.ok.inj (hfound.symm.trans hget))
  dsimp only at h
  rw [← update_eq] at h
  obtain ⟨book, now, hbook, hid, hup⟩ := of_on_update (hread ▸ hs) h
  rw [hread] at hup
  have hvalid := (Book.Request.normal_toBook (hp.valid_merge hnormal.price) hbook).price
  obtain ⟨rfl, hnew, hothers⟩ := Store.of_update hup (Book.decode_toJson hvalid)
  have hsame : Storable.id new.data = found.id := hid
  rw [hsame] at hnew hothers
  obtain ⟨hcreated, hversion⟩ := Store.metadata_of_update (hsame ▸ hget) hup
  exact ⟨hnew, hnormal.turns hbook, hcreated, hversion, hothers⟩

theorem Authors.agree_put_patch (hn : pre.ifNoneMatch.map Text.trim ≠ some "*") {current : Stored Author}
    (ho : s.outages s.calls (.get "authors" id) = none) (hget : s.store.get Author id = .ok (some current))
    {patch : Author.Patch} (hp : ¬ patch.SetsNothing) :
    Agree s (put id pre (patch.merge current.data)) (Authors.patch id pre patch) := by
  rw [put_eq, patch_eq, Bool.eq_false_iff.mpr fun he => hp (Author.Patch.isEmpty_iff.mp he)]
  exact agree_placing_patching hn ho hget _ fun current expected => update id expected (patch.merge current.data)

theorem Books.agree_put_patch (hn : pre.ifNoneMatch.map Text.trim ≠ some "*") {current : Stored Book}
    (ho : s.outages s.calls (.get "books" id) = none) (hget : s.store.get Book id = .ok (some current))
    {patch : Book.Patch} (hp : ¬ patch.SetsNothing) :
    Agree s (put id pre (patch.merge current.data)) (Books.patch id pre patch) := by
  rw [put_eq, patch_eq, Bool.eq_false_iff.mpr fun he => hp (Book.Patch.isEmpty_iff.mp he)]
  exact agree_placing_patching hn ho hget _ fun current expected => update id expected (patch.merge current.data)

/-- Of each kind, where there is a row and the first read is answered. That the price which is read again afterwards is
the one that was written is assumed with `Row.read`. -/
theorem a_patch_places_the_merged_request (id : Uuid) (pre : Preconditions) :
    (∀ s : Session, Reachable s.store → pre.ifNoneMatch.map Text.trim ≠ some "*" →
      s.outages s.calls (.get "authors" id) = none → (s.store.row? "authors" id).isSome →
      ∃ current, s.store.get Author id = .ok (some current) ∧ ∀ patch : Author.Patch, ¬ patch.SetsNothing →
        Agree s (Authors.put id pre (patch.merge current.data)) (Authors.patch id pre patch)) ∧
    (∀ s : Session, Reachable s.store → pre.ifNoneMatch.map Text.trim ≠ some "*" →
      s.outages s.calls (.get "books" id) = none → (s.store.row? "books" id).isSome →
      ∃ current, s.store.get Book id = .ok (some current) ∧ ∀ patch : Book.Patch, ¬ patch.SetsNothing →
        Agree s (Books.put id pre (patch.merge current.data)) (Books.patch id pre patch) ∧
        ∀ v, Book.Patch.decode v = .ok patch → ∀ new, ((Books.patch id pre patch).on s).1 = .ok new →
          patch.Leaves s.store ((Books.patch id pre patch).on s).2.store current new) ∧
    ∀ s : Session,
      (∀ patch : Author.Patch, patch.SetsNothing → ((Authors.patch id pre patch).on s).2.store = s.store) ∧
      ∀ patch : Book.Patch, patch.SetsNothing → ((Books.patch id pre patch).on s).2.store = s.store := by
  refine ⟨fun s h hn ho hr => ?_, fun s h hn ho hr => ?_, fun s => ⟨fun patch hp => ?_, fun patch hp => ?_⟩⟩
  · obtain ⟨row, hr⟩ := Option.isSome_iff_exists.mp hr
    obtain ⟨current, -, rfl, -, hget⟩ := h.sound.current authors_kind hr
    exact ⟨current, hget, fun patch hp => Authors.agree_put_patch hn ho hget hp⟩
  · obtain ⟨row, hr⟩ := Option.isSome_iff_exists.mp hr
    obtain ⟨current, -, rfl, -, hget⟩ := h.sound.current books_kind hr
    refine ⟨current, hget, fun patch hp => ⟨Books.agree_put_patch hn ho hget hp, fun v hv new hnew => ?_⟩⟩
    exact Books.leaves_of_on_patch h.sound (Book.Patch.priced_of_decode hv) hget (Prod.ext hnew rfl)
  · rw [Authors.patch_eq, Author.Patch.isEmpty_iff.mpr hp]
    exact readOnly_patching _ s
  · rw [Books.patch_eq, Book.Patch.isEmpty_iff.mpr hp]
    exact readOnly_patching _ s

/-! ## The notes become a diary -/

/-- A new title with blanks around it, and credits one of which stands twice. -/
def intoDiary : Book.Patch := ⟨some " Diary ", some [⟨9⟩, ada, ⟨9⟩], none, none⟩

theorem the_notes_become_a_diary :
    Reachable quietLibrary.store ∧ byVersion.ifNoneMatch.map Text.trim ≠ some "*" ∧
      quietLibrary.outages quietLibrary.calls (.get "books" notes.id) = none ∧
      (quietLibrary.store.row? "books" notes.id).isSome ∧ ¬ intoDiary.SetsNothing ∧
      ∃ v new, Book.Patch.decode v = .ok intoDiary ∧
        Agree quietLibrary (Books.put notes.id byVersion (intoDiary.merge notes))
          (Books.patch notes.id byVersion intoDiary) ∧
        ((Books.patch notes.id byVersion intoDiary).on quietLibrary).1 = .ok new ∧
        intoDiary.Leaves quietLibrary.store ((Books.patch notes.id byVersion intoDiary).on quietLibrary).2.store
          ⟨notes, ⟨2, 2, 0⟩⟩ new ∧
        ((Books.patch notes.id byVersion ⟨some "  ", none, none, none⟩).on quietLibrary).2.store = quietLibrary.store := by
  have hn : byVersion.ifNoneMatch.map Text.trim ≠ some "*" := by decide
  have hr : (quietLibrary.store.row? "books" notes.id).isSome := rfl
  have hp : ¬ intoDiary.SetsNothing := fun h => absurd h.authors (by decide)
  have hv : Book.Patch.decode intoDiary.toJson = .ok intoDiary := rfl
  have hnew : ((Books.patch notes.id byVersion intoDiary).on quietLibrary).1 =
      .ok ⟨{ notes with title := "Diary", authors := [⟨9⟩, ada] }, ⟨2, 4, 1⟩⟩ := rfl
  have hblank : Book.Patch.SetsNothing ⟨some "  ", none, none, none⟩ := by
    refine ⟨fun title ht => ?_, rfl, rfl, rfl⟩
    cases ht
    rfl
  obtain ⟨-, hbooks, hempty⟩ := a_patch_places_the_merged_request notes.id byVersion
  obtain ⟨current, hget, hpatch⟩ := hbooks quietLibrary reachable_library hn rfl hr
  have hthere : quietLibrary.store.get Book notes.id = .ok (some ⟨notes, ⟨2, 2, 0⟩⟩) := rfl
  obtain rfl : current = ⟨notes, ⟨2, 2, 0⟩⟩ := Option.some.inj (Except.ok.inj (hget.symm.trans hthere))
  obtain ⟨hagree, hleaves⟩ := hpatch intoDiary hp
  exact ⟨reachable_library, hn, rfl, hr, hp, intoDiary.toJson, _, hv, hagree, hnew, hleaves _ hv _ hnew,
    (hempty quietLibrary).2 _ hblank⟩

end Bookshop
