/-
  Bookshop.Proofs.Catalog.Cards — the authors beside a book are those that are found one by one.

  The authors of all books of a page are fetched in one call, and each book picks out its own. In a legible
  store this comes to looking up each credit of each book (`Card.credited_getMany`), whatever other books
  there are on the page. So the card of a book depends on the row of the book and the rows of its authors
  alone (`Store.cardOf`, `Card.ensures_require_cardOf`), and without outages it is answered, for one book
  (`Card.on_require`) and for a page of them (`Card.on_list`).
-/

import Bookshop.Proofs.Catalog.Guarded
import Bookshop.Proofs.Catalog.Shown

namespace Bookshop

open CatalogM

/-- The authors that a book credits, each as it is found on its own. -/
def Store.authorsOf (s : Store) (book : Book) : List (Stored Author) := book.authors.filterMap (s.found? Author)

/-- The card of a book: the book, and its authors if they are wanted and there are any. -/
def Store.cardOf (s : Store) (embed : Embed) (book : Stored Book) : Card :=
  match embed.authors, s.authorsOf book.data with
  | true, first :: rest => ⟨book, some (first :: rest)⟩
  | _, _ => ⟨book, none⟩

theorem Store.book_cardOf (s : Store) (embed : Embed) (book : Stored Book) : (s.cardOf embed book).book = book := by
  unfold cardOf
  split <;> rfl

theorem Store.cardOf_congr {s t : Store} {embed : Embed} {book : Stored Book}
    (h : embed.authors = true → ∀ id ∈ book.data.authors, t.found? Author id = s.found? Author id) :
    t.cardOf embed book = s.cardOf embed book := by
  unfold cardOf
  cases he : embed.authors with
  | false => rfl
  | true =>
    have hauthors : t.authorsOf book.data = s.authorsOf book.data := List.filterMap_congr (h he)
    rw [hauthors]

theorem on_ask_answered {β : Type} {c : Call} {read : Store → Except StoreFault β} {t : Session} (hq : t.Quiet) {b : β}
    (h : read t.store = .ok b) : (call (c.ask read)).on t = (.ok b, t.called) := by
  rw [on_ask, hq.outages_eq, h]
  rfl

namespace Authors

/-- Where no author is wanted, the store is not called, and would answer none. -/
theorem ensures_findAll_getMany {p : Store → Prop} (ids : List Uuid) :
    (findAll ids).Ensures p fun found s => p s ∧ s.getMany Author ids = .ok found := by
  cases ids with
  | nil => exact ensures_pure fun _ hs => ⟨hs, rfl⟩
  | cons id ids => exact ensures_ask fun _ _ hs hg => ⟨hs, hg⟩

theorem on_findAll {s : Session} (hq : s.Quiet) {ids : List Uuid} {found : List (Stored Author)}
    (hg : s.store.getMany Author ids = .ok found) : ∃ t, (findAll ids).on s = (.ok found, t) := by
  cases ids with
  | nil =>
    cases hg
    exact ⟨s, rfl⟩
  | cons id ids => exact ⟨s.called, on_ask_answered hq hg⟩

end Authors

namespace Card

theorem mem_authorIds {books : List (Stored Book)} {id : Uuid} :
    id ∈ authorIds books ↔ ∃ book ∈ books, id ∈ book.data.authors := by
  rw [authorIds, List.mem_mergeSort, mem_distinct, List.mem_flatMap]

section

variable {s : Store} (h : s.Legible Author)

include h

theorem credited_getMany {ids : List Uuid} {found : List (Stored Author)} (hg : s.getMany Author ids = .ok found)
    {book : Book} (hids : ∀ id ∈ book.authors, id ∈ ids) : credited found book = s.authorsOf book :=
  List.filterMap_congr fun id hid => h.find?_getMany hg (hids id hid)

theorem make_of_getMany {books : List (Stored Book)} {found : List (Stored Author)}
    (hg : s.getMany Author (authorIds books) = .ok found) {book : Stored Book} (hb : book ∈ books) (embed : Embed) :
    make found embed book = s.cardOf embed book := by
  rw [make, credited_getMany h hg fun id hid => mem_authorIds.mpr ⟨book, hb, hid⟩]
  rfl

end

theorem make_of_unwanted {embed : Embed} (he : ¬ embed.authors = true) (s : Store) (found : List (Stored Author))
    (book : Stored Book) : make found embed book = s.cardOf embed book := by
  rw [make, Store.cardOf, Bool.eq_false_iff.mpr he]

theorem ensures_require_cardOf (id : Uuid) (embed : Embed) :
    (Card.require id embed).Ensures Store.Sound fun card s =>
      ∃ book, s.get Book id = .ok (some book) ∧ card = s.cardOf embed book := by
  have hbook : (Books.require id).Ensures Store.Sound fun book s => s.Sound ∧ s.get Book id = .ok (some book) :=
    CatalogM.ensures_require fun _ _ hs hget => ⟨hs, hget⟩
  refine hbook.bind fun book => ?_
  have hresolve : (resolve [book] embed).Ensures (fun s => s.Sound ∧ s.get Book id = .ok (some book))
      fun found s => s.get Book id = .ok (some book) ∧ make found embed book = s.cardOf embed book := by
    unfold resolve
    split
    · intro s t found hs hf
      have hfound := Authors.ensures_findAll_getMany
        (p := fun s => s.Sound ∧ s.get Book id = .ok (some book)) (authorIds [book])
      obtain ⟨⟨hsound, hget⟩, hg⟩ := hfound s t found hs hf
      exact ⟨hget, make_of_getMany (hsound.legible authors_kind) hg List.mem_cons_self embed⟩
    · next he => exact ensures_pure fun s hs => ⟨hs.2, make_of_unwanted he s [] book⟩
  exact hresolve.bind fun found => ensures_pure fun _ h => ⟨book, h.1, h.2⟩

/-- In a legible store, what is resolved for several books makes the card of each. -/
theorem on_resolve {s : Session} (ha : s.store.Legible Author) (hq : s.Quiet) (books : List (Stored Book)) (embed : Embed) :
    ∃ found t, (resolve books embed).on s = (.ok found, t) ∧
      ∀ book ∈ books, make found embed book = s.store.cardOf embed book := by
  unfold resolve
  split
  · obtain ⟨found, hg⟩ := ha.answers.getMany (authorIds books)
    obtain ⟨t, hf⟩ := Authors.on_findAll hq hg
    exact ⟨found, t, hf, fun book hbook => make_of_getMany ha hg hbook embed⟩
  · next he => exact ⟨[], _, rfl, fun book _ => make_of_unwanted he s.store [] book⟩

theorem on_require {s : Session} (ha : s.store.Legible Author) (hq : s.Quiet) {id : Uuid} {book : Stored Book}
    (hget : s.store.get Book id = .ok (some book)) (embed : Embed) :
    ((Card.require id embed).on s).1 = .ok (s.store.cardOf embed book) := by
  have hbook : (Books.require id).on s = (.ok book, s.called) := on_require_found (hq.outages_eq _ _) hget
  obtain ⟨found, t, hfound, hmake⟩ := on_resolve (s := s.called) ha hq.called [book] embed
  have hrun : (Card.require id embed).on s = _ := (on_bind_ok hbook).trans (on_bind_ok hfound)
  rw [hrun, on_pure, hmake book List.mem_cons_self]
  rfl

theorem on_list {s : Session} (hb : s.store.Legible Book) (ha : s.store.Legible Author) (hq : s.Quiet) (page : Window)
    (embed : Embed) :
    ∃ books : Page (Stored Book), s.store.list Book page = .ok books ∧
      ((Card.list page embed).on s).1 = .ok (books.map (s.store.cardOf embed)) := by
  obtain ⟨books, hbooks⟩ := hb.answers.list page
  have hlist : (Books.list page).on s = (.ok books, s.called) := on_ask_answered hq hbooks
  obtain ⟨found, t, hfound, hmake⟩ := on_resolve (s := s.called) ha hq.called books.content embed
  have hrun : (Card.list page embed).on s = _ := (on_bind_ok hlist).trans (on_bind_ok hfound)
  refine ⟨books, hbooks, ?_⟩
  rw [hrun, on_pure, Page.map, Page.map, List.map_congr_left hmake]
  rfl

end Card

end Bookshop
