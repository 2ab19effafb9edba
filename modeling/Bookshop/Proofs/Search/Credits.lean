/-
  Bookshop.Proofs.Search.Credits — the authors beside the books of a page are those that single calls answer.

  A page of cards and a search both take the credits of all their books together, fetch each author once and give every
  book its own. What a book would get alone is `Session.authorsOf`: a call for each credit, one after the other, leaving
  out those that answer that there is no such author. In a legible store this is what the store has at the places of the
  credits (`Session.authorsOf_eq`), and so it is what the batch comes to, whoever else is on the page.

  - `batched_authors_are_those_found_one_by_one`: every card of a page is the card of its book alone, its authors are
    those that single calls answer, and the names in a search are theirs.
-/

import Bookshop.Proofs.Search.Results

namespace Bookshop

open CatalogM Search

/-! ## Single calls -/

/-- The authors that a book credits, as a call for each of them answers, in the order of the credits. -/
def Session.authorsOf (s : Session) (book : Book) : List (Stored Author) :=
  book.authors.filterMap fun id => ((Authors.require id).on s).1.toOption

section

variable {s : Session} (hq : s.Quiet)

include hq

theorem on_require_author (ha : s.store.Legible Author) (id : Uuid) :
    (∃ author : Stored Author, author.id = id ∧ s.store.Has author ∧ ((Authors.require id).on s).1 = .ok author) ∨
      s.store.row? "authors" id = none ∧ ((Authors.require id).on s).1 = .error (.missing "Author" id) := by
  have hrequire := on_require (α := Author) id s
  rw [hq.outages_eq] at hrequire
  obtain ⟨found, hget⟩ := ha.answers.get id
  rw [hget] at hrequire
  cases found with
  | some author =>
    left
    obtain rfl := ha.id_of_get hget
    exact ⟨author, rfl, hget, congrArg Prod.fst hrequire⟩
  | none =>
    right
    refine ⟨?_, congrArg Prod.fst hrequire⟩
    cases hrow : s.store.row? "authors" id with
    | none => rfl
    | some row =>
      obtain ⟨hm, hc, rfl⟩ := Store.row?_some hrow
      obtain ⟨author, hread, -⟩ := ha.reads row hm hc
      have hsome := ha.get_of_mem hm hc hread
      rw [hget] at hsome
      cases hsome

theorem Session.authorsOf_eq (book : Book) : s.authorsOf book = s.store.authorsOf book := by
  refine List.filterMap_congr fun id _ => ?_
  rw [Authors.require, on_require, hq.outages_eq, Store.found?]
  cases s.store.get Author id with
  | error fault => rfl
  | ok found => cases found <;> rfl

end

/-! ## Batches -/

theorem Store.authors_cardOf {s : Store} {embed : Embed} {book : Stored Book} :
    (s.cardOf embed book).authors =
      if embed.authors = true ∧ s.authorsOf book.data ≠ [] then some (s.authorsOf book.data) else none := by
  unfold cardOf
  cases embed.authors <;> cases s.authorsOf book.data <;> simp

/-- In a store whose books and authors can be read (`History.legible`). Each card of a page is what its book is
answered with alone. It shows the authors that single calls answer for the credits of the book, in their order and as
often as they are credited, and leaves them out only where there are none or nobody wants them. The authors' names in
the rows of a search are the names of the same authors. -/
theorem batched_authors_are_those_found_one_by_one {s : Session} (hq : s.Quiet) (hb : s.store.Legible Book)
    (ha : s.store.Legible Author) :
    (∀ id, (∃ author : Stored Author, author.id = id ∧ s.store.Has author ∧
        ((Authors.require id).on s).1 = .ok author) ∨
      s.store.row? "authors" id = none ∧ ((Authors.require id).on s).1 = .error (.missing "Author" id)) ∧
    (∀ page embed, ∃ (books : Page (Stored Book)) (cards : Page Card),
      ((Books.list page).on s).1 = .ok books ∧ ((Card.list page embed).on s).1 = .ok cards ∧
        cards.map Card.book = books ∧
        ∀ card ∈ cards.content,
          ((Card.require card.book.id embed).on s).1 = .ok card ∧
          (embed.authors = true → card.authors.getD [] = s.authorsOf card.book.data ∧
            (card.authors = none ↔ s.authorsOf card.book.data = [])) ∧
          (embed.authors = false → card.authors = none)) ∧
    (∀ plan criteria page, ∃ rows : Page Found, ((execute plan criteria page).on s).1 = .ok rows ∧
      ∀ f ∈ rows.content, f.authors = (s.authorsOf f.book.data).map (·.data.name)) := by
  refine ⟨on_require_author hq ha, fun page embed => ?_, fun plan criteria page => ?_⟩
  · obtain ⟨books, hbooks, hcards⟩ := Card.on_list hb ha hq page embed
    have hlist : (Books.list page).on s = (.ok books, s.called) := on_ask_answered hq hbooks
    refine ⟨books, books.map (s.store.cardOf embed), by rw [hlist], hcards, ?_, fun card hcard => ?_⟩
    · simp [Page.map, Function.comp_def, Store.book_cardOf]
    obtain ⟨book, hbook, rfl⟩ := List.mem_map.mp hcard
    have hget : s.store.get Book book.id = .ok (some book) := hb.of_list hbooks book hbook
    rw [Store.book_cardOf, Session.authorsOf_eq hq, Store.authors_cardOf]
    refine ⟨Card.on_require ha hq hget embed, fun hembed => ?_, fun hembed => by simp [hembed]⟩
    by_cases hnone : s.store.authorsOf book.data = [] <;> simp [hembed, hnone]
  · obtain ⟨found, hmem, -, hrun⟩ := on_execute hb ha plan
    refine ⟨_, hrun s hq rfl criteria page, fun f hf => ?_⟩
    have hfound : f ∈ found :=
      (sorts_sortBy criteria found).perm.mem_iff.mp (List.mem_of_mem_drop (List.mem_of_mem_take hf))
    rw [Session.authorsOf_eq hq]
    exact ((hmem f).mp hfound).names

/-- A book that credits Ada twice, and between the two someone who is not there. -/
def duets : Book := ⟨⟨4⟩, "Duets", [ada, ⟨9⟩, ada], [], ⟨Float.ofInt 5, "EUR"⟩⟩

/-- Ada stands beside one book once and beside the other twice. -/
theorem ada_beside_two_books :
    let s1 := (Write.insert (Author.mk ada "Ada")).after 1 .empty
    let s2 := (Write.insert notes).after 2 s1
    let s := (Write.insert duets).after 3 s2
    let t : Session := ⟨s, Session.noOutages, 0, fun _ => 1⟩
    let row : Stored Author := ⟨⟨ada, "Ada"⟩, ⟨1, 1, 0⟩⟩
    t.Quiet ∧ t.store.Legible Book ∧ t.store.Legible Author ∧
      t.authorsOf notes = [row] ∧ t.authorsOf duets = [row, row] ∧
      ∃ cards, ((Card.list ⟨0, 2⟩ ⟨true⟩).on t).1 = .ok cards ∧
        ∀ card ∈ cards.content, ((Card.require card.book.id ⟨true⟩).on t).1 = .ok card ∧
          (card.book.data = duets → card.authors = some [row, row]) := by
  intro s1 s2 s t row
  let log := [recordOf (.insert duets) 3 s2, recordOf (.insert notes) 2 s1,
    recordOf (.insert (Author.mk ada "Ada")) 1 .empty]
  have h : History log s := ((History.start.call _ 1).call _ 2).call _ 3
  have hp : Plain log := by unfold Plain; decide
  have hb : s.Legible Book := by
    have hdecodes : s.Decodes Book := ((Store.decodes_empty.elsewhere 1 (by decide)).insert 2 rfl).insert 3 rfl
    have hbooks : Only Book log := ((Only.nil.elsewhere 1 _ (by decide)).insert 2 _ _).insert 3 _ _
    exact h.legible_book hp hbooks hdecodes
  have ha : s.Legible Author := by
    have hauthors : Only Author log := ((Only.nil.insert 1 _ _).elsewhere 2 _ (by decide)).elsewhere 3 _ (by decide)
    exact h.legible_author hp hauthors
  have hnotes : t.authorsOf notes = [row] := rfl
  have hduets : t.authorsOf duets = [row, row] := rfl
  refine ⟨rfl, hb, ha, hnotes, hduets, ?_⟩
  obtain ⟨-, hpages, -⟩ := batched_authors_are_those_found_one_by_one (s := t) rfl hb ha
  obtain ⟨_, cards, -, hcards, -, hall⟩ := hpages ⟨0, 2⟩ ⟨true⟩
  refine ⟨cards, hcards, fun card hcard => ?_⟩
  obtain ⟨halone, hshown, -⟩ := hall card hcard
  refine ⟨halone, fun hcredits => ?_⟩
  obtain ⟨hauthors, hnone⟩ := hshown rfl
  rw [hcredits, hduets] at hauthors hnone
  cases hs : card.authors with
  | none => exact absurd (hnone.mp hs) (List.cons_ne_nil _ _)
  | some authors =>
    rw [hs] at hauthors
    exact congrArg some hauthors

end Bookshop
