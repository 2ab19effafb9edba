/-
  Bookshop.Proofs.Search.Results — what a search returns.

  What it is for a book to match is said by the plan and by single look-ups (`Store.Matches`): the book is in
  the store, and satisfies every condition on the indexes that are built of it and of the names under which
  its authors are found. `on_execute` is what a search comes to where every row can be read: the matching
  books, sorted and cut.

  - `search_returns_the_matching_books`: for every plan, the books that match are there once each, in the order
    in which they were inserted; whatever the criteria and the size of a page, the pages one after the other
    are these books, sorted, with ties left in that order, and every page tells how many they are.
-/

import Bookshop.Proofs.Catalog.Cards
import Bookshop.Proofs.Search.Order
import Bookshop.Proofs.Search.Pages

namespace Bookshop

open CatalogM

/-! ## Matching -/

namespace Search

/-- The condition holds of a book with these indexes. One that refers to no operand, or to one of the other kind,
holds of no book. -/
def Plan.Holds (plan : Plan) (book : Book) (index : BookIndex) : Condition → Prop
  | .matching field operand => ∃ text, plan.operands[operand]? = some (.text text) ∧
      (Query.parse text plan.profile).matchesIn (index.field field) = true
  | .genreIn operand => ∃ genres, plan.operands[operand]? = some (.genres genres) ∧ ∃ genre ∈ book.genres, genre ∈ genres

theorem Plan.satisfies_iff {plan : Plan} {book : Book} {index : BookIndex} {condition : Condition} :
    plan.satisfies book index condition = true ↔ plan.Holds book index condition := by
  cases condition with
  | matching field operand =>
    simp only [satisfies, query?, Holds]
    cases plan.operands[operand]? with
    | none => simp
    | some o => cases o <;> simp
  | genreIn operand =>
    simp only [satisfies, Holds]
    cases plan.operands[operand]? with
    | none => simp
    | some o => cases o <;> simp

theorem Plan.accepts_iff {plan : Plan} {book : Book} {index : BookIndex} :
    plan.accepts book index = true ↔ ∀ condition ∈ plan.conditions, plan.Holds book index condition := by
  simp only [accepts, List.all_eq_true, satisfies_iff]

theorem Plan.find?_eq_some {plan : Plan} {names : List String} {book : Stored Book} {f : Found} :
    plan.find? names book = some f ↔
      (∀ condition ∈ plan.conditions, plan.Holds book.data (.build book.data names plan.profile) condition) ∧
        f = ⟨book, names, plan.score (.build book.data names plan.profile)⟩ := by
  rw [← accepts_iff]
  unfold find?
  dsimp only
  split
  · next ha => simp [ha, eq_comm]
  · next ha => simp [ha]

theorem sublist_found (plan : Plan) (names : Book → List String) (books : List (Stored Book)) :
    ((books.filterMap fun book => plan.find? (names book.data) book).map (·.book.id)).Sublist (books.map Stored.id) := by
  induction books with
  | nil => exact .slnil
  | cons book books ih =>
    rw [List.filterMap_cons, List.map_cons]
    cases hf : plan.find? (names book.data) book with
    | none => exact ih.cons _
    | some f =>
      have hbook : f.book = book := book_of_find? hf
      rw [List.map_cons, hbook]
      exact ih.cons_cons _

end Search

open Search

/-- The names under which the authors of a book are found, in the order of its credits. -/
def Store.namesOf (s : Store) (book : Book) : List String := (s.authorsOf book).map (·.data.name)

def Store.indexOf (s : Store) (plan : Plan) (book : Book) : BookIndex := .build book (s.namesOf book) plan.profile

/-- A book of the store satisfies the plan, and is found with its authors' names and its score. -/
structure Store.Matches (s : Store) (plan : Plan) (f : Found) : Prop where
  present : s.Has f.book
  holds : ∀ condition ∈ plan.conditions, plan.Holds f.book.data (s.indexOf plan f.book.data) condition
  names : f.authors = s.namesOf f.book.data
  score : f.score = plan.score (s.indexOf plan f.book.data)

theorem Store.matches_iff {s : Store} {plan : Plan} {f : Found} :
    s.Matches plan f ↔ ∃ book, s.Has book ∧ plan.find? (s.namesOf book.data) book = some f := by
  constructor
  · intro h
    refine ⟨f.book, h.present, Plan.find?_eq_some.mpr ⟨h.holds, ?_⟩⟩
    rw [Found.mk.injEq]
    exact ⟨rfl, h.names, h.score⟩
  · rintro ⟨book, hbook, hf⟩
    obtain ⟨hholds, rfl⟩ := Plan.find?_eq_some.mp hf
    exact ⟨hbook, hholds, rfl, rfl⟩

theorem Store.exists_matches_iff {s : Store} {plan : Plan} {book : Stored Book} :
    (∃ f, s.Matches plan f ∧ f.book = book) ↔
      s.Has book ∧ ∀ condition ∈ plan.conditions, plan.Holds book.data (s.indexOf plan book.data) condition := by
  constructor
  · rintro ⟨f, hm, rfl⟩
    exact ⟨hm.present, hm.holds⟩
  · rintro ⟨hhas, hholds⟩
    exact ⟨⟨book, s.namesOf book.data, plan.score (s.indexOf plan book.data)⟩, ⟨hhas, hholds, rfl, rfl⟩, rfl⟩

/-! ## Searching -/

theorem search_eq {request : Request} {genres : List Genre} (h : parseGenres request.genres = .ok genres)
    (profile : Profile) :
    search profile request =
      (do
        let plan := Plan.ofFilters profile ⟨request.title, request.author, request.text, genres⟩
        let criteria ← decided (Criterion.parseList plan.hasScore request.sort)
        execute plan criteria request.page) := by
  rw [search, h]
  rfl

/-- A search that is read without failure comes to the execution of its plan. -/
theorem on_search {profile : Profile} {request : Request} {genres : List Genre} {criteria : List Criterion} {plan : Plan}
    (hg : parseGenres request.genres = .ok genres)
    (hp : Plan.ofFilters profile ⟨request.title, request.author, request.text, genres⟩ = plan)
    (hc : Criterion.parseList plan.hasScore request.sort = .ok criteria) (t : Session) :
    (search profile request).on t = (execute plan criteria request.page).on t := by
  subst hp
  have hcriteria : (decided (Criterion.parseList
      (Plan.ofFilters profile ⟨request.title, request.author, request.text, genres⟩).hasScore request.sort)).on t =
        (.ok criteria, t) := by rw [on_decided, hc]
  rw [search_eq hg]
  exact on_bind_ok hcriteria

section

variable {s : Store} (hb : s.Legible Book) (ha : s.Legible Author)

include hb ha

/-- Where every row can be read, a search comes to the books that match, sorted and cut. -/
theorem on_execute (plan : Plan) :
    ∃ found : List Found,
      (∀ f, f ∈ found ↔ s.Matches plan f) ∧
      (found.map (·.book.id)).Sublist ((s.inOrder "books").map Row.id) ∧
      ∀ (t : Session), t.Quiet → t.store = s → ∀ criteria page,
        ((execute plan criteria page).on t).1 = .ok (page.apply (sortBy criteria found)) := by
  obtain ⟨books, hbooks, hsub, hmem⟩ := hb.find fun _ => true
  obtain ⟨authors, hauthors⟩ := ha.answers.getMany (Card.authorIds books)
  have hnames : ∀ book ∈ books, Search.namesOf authors book.data = s.namesOf book.data := by
    intro book hbook
    have hids : ∀ id ∈ book.data.authors, id ∈ Card.authorIds books :=
      fun id hid => Card.mem_authorIds.mpr ⟨book, hbook, hid⟩
    rw [Search.namesOf, Card.credited_getMany ha hauthors hids]
    rfl
  have hhas : ∀ book, book ∈ books ↔ s.Has book := fun book => (hmem book).trans (by simp [Store.Has])
  refine ⟨books.filterMap fun book => plan.find? (s.namesOf book.data) book, fun f => ?_, ?_, ?_⟩
  · rw [List.mem_filterMap, Store.matches_iff]
    simp only [hhas]
  · exact (Search.sublist_found plan s.namesOf books).trans hsub
  · rintro t hq rfl criteria page
    have hfind : (call (StoreM.find fun _ : Book => true)).on t = (.ok books, t.called) := on_ask_answered hq hbooks
    have hmany : (call (StoreM.getMany Author (Card.authorIds books))).on t.called = (.ok authors, t.called.called) :=
      on_ask_answered hq.called hauthors
    have hrun : (execute plan criteria page).on t = _ := (on_bind_ok hfind).trans (on_bind_ok hmany)
    rw [hrun, on_pure, List.filterMap_congr fun book hbook => by rw [hnames book hbook]]

end

theorem length_found_lt {s : Store} {found : List Found}
    (hsub : (found.map (·.book.id)).Sublist ((s.inOrder "books").map Row.id)) (hfit : s.rows.length < UInt64.size) :
    found.length < UInt64.size := by
  have hle : found.length ≤ (s.inOrder "books").length := by simpa using hsub.length_le
  have hrows := s.length_inOrder_le "books"
  omega

/-- The pages of a search: page `k` is the answer to the search with that number, whenever nobody writes. -/
def Answered (s : Store) (plan : Plan) (criteria : List Criterion) (size : Nat) (pages : Nat → Page Found) : Prop :=
  ∀ (t : Session) (k : Nat), t.Quiet → t.store = s → ((execute plan criteria ⟨k, size⟩).on t).1 = .ok (pages k)

theorem exists_pages {s : Store} (hb : s.Legible Book) (ha : s.Legible Author) (hfit : s.rows.length < UInt64.size)
    (plan : Plan) (criteria : List Criterion) {size : Nat} (hsize : 1 ≤ size) :
    ∃ pages : Nat → Page Found, Answered s plan criteria size pages ∧
      ∀ f, (∃ number, f ∈ (pages number).content) ↔ s.Matches plan f := by
  obtain ⟨found, hmem, hsub, hrun⟩ := on_execute hb ha plan
  have hsorts := sorts_sortBy criteria found
  have hshort : (sortBy criteria found).length < UInt64.size := by
    rw [hsorts.perm.length_eq]
    exact length_found_lt hsub hfit
  refine ⟨fun k => Window.apply ⟨k, size⟩ (sortBy criteria found), ?_, fun f => ?_⟩
  · intro t k hq ht
    exact hrun t hq ht criteria ⟨k, size⟩
  · rw [← hmem, ← hsorts.perm.mem_iff]
    exact Window.exists_mem_slice_iff hshort hsize

/-- After any run of the store that leaves rows that decode. -/
theorem search_returns_the_matching_books {log : List Record} {s : Store} (h : History log s) (hp : Plain log)
    (hbooks : Only Book log) (hauthors : Only Author log) (hb : s.Decodes Book) (ha : s.Decodes Author)
    (hfit : s.rows.length < UInt64.size) (plan : Plan) :
    ∃ matching : List Found,
      (∀ f, f ∈ matching ↔ s.Matches plan f) ∧
      matching.Pairwise (fun f g => s.InsertedBefore "books" f.book.id g.book.id) ∧
      ∀ (criteria : List Criterion) (size : Nat), 1 ≤ size →
        ∃ (sorted : List Found) (pages : Nat → Page Found),
          Sorts criteria matching sorted ∧ Answered s plan criteria size pages ∧
          (∀ n, matching.length ⌈/⌉ size ≤ n → (List.range n).flatMap (fun k => (pages k).content) = sorted) ∧
          ∀ k, (pages k).info.totalElements = matching.length ∧
            (pages k).info.totalPages = matching.length ⌈/⌉ size ∧
            ((pages k).content ≠ [] ↔ k < matching.length ⌈/⌉ size) := by
  have hlb : s.Legible Book := h.legible hp hbooks (by decide) (fun _ _ => Book.id_of_decode_toJson) hb
  have hla : s.Legible Author := h.legible hp hauthors (by decide) (fun _ _ => Author.id_of_decode_toJson) ha
  obtain ⟨matching, hmem, hsub, hrun⟩ := on_execute hlb hla plan
  refine ⟨matching, hmem, ?_, fun criteria size hsize => ?_⟩
  · exact List.pairwise_map.mp ((hlb.pairwise_insertedBefore h.numbered).sublist hsub)
  have hsorts := sorts_sortBy criteria matching
  have hlen : (sortBy criteria matching).length = matching.length := hsorts.perm.length_eq
  have hshort : (sortBy criteria matching).length < UInt64.size := by
    rw [hlen]
    exact length_found_lt hsub hfit
  refine ⟨sortBy criteria matching, fun k => Window.apply ⟨k, size⟩ (sortBy criteria matching), hsorts, ?_, ?_, ?_⟩
  · intro t k hq ht
    exact hrun t hq ht criteria ⟨k, size⟩
  · intro n hn
    exact Window.flatMap_slice_all hshort hsize (by rw [hlen]; exact hn)
  · intro k
    refine ⟨hlen, ?_, ?_⟩
    · rw [Window.totalPages_apply, hlen]
    · exact (Window.slice_ne_nil_iff hshort hsize).trans (by rw [hlen])

/-! ## The books of Ada -/

/-- A search for an author's name. -/
def booksByAda : Plan := ⟨.simple, [.matching .authors 0], [], [.text "ada"]⟩

theorem the_notes_are_on_a_page :
    let s1 := (Write.insert (Author.mk ada "Ada")).after 1 .empty
    let s := (Write.insert notes).after 1 s1
    let log := [recordOf (.insert notes) 1 s1, recordOf (.insert (Author.mk ada "Ada")) 1 .empty]
    History log s ∧ Plain log ∧ Only Book log ∧ Only Author log ∧ s.Decodes Book ∧ s.Decodes Author ∧
      s.rows.length < UInt64.size ∧
      ∃ pages k f, Answered s booksByAda [⟨.title, .ascending⟩] 1 pages ∧ f ∈ (pages k).content ∧ f.book.data = notes := by
  intro s1 s log
  have h : History log s := (History.start.call _ 1).call _ 1
  have hp : Plain log := by unfold Plain; decide
  have hbooks : Only Book log := by
    intro r hr e he hc
    simp only [log, List.mem_cons, List.not_mem_nil, or_false] at hr
    rcases hr with rfl | rfl
    · exact ⟨notes, (Option.some.inj he).symm⟩
    · cases he
      exact absurd hc (by decide)
  have hauthors : Only Author log := by
    intro r hr e he hc
    simp only [log, List.mem_cons, List.not_mem_nil, or_false] at hr
    rcases hr with rfl | rfl
    · cases he
      exact absurd hc (by decide)
    · exact ⟨⟨ada, "Ada"⟩, (Option.some.inj he).symm⟩
  have hrows : s.rows = [Row.fresh notes 2 1, Row.fresh (Author.mk ada "Ada") 1 0] := rfl
  have hb : s.Decodes Book := by
    intro row hm hc
    rw [hrows] at hm
    simp only [List.mem_cons, List.not_mem_nil, or_false] at hm
    rcases hm with rfl | rfl
    · exact ⟨⟨notes, ⟨2, 2, 0⟩⟩, rfl⟩
    · exact absurd hc (by decide)
  have ha : s.Decodes Author := by
    intro row hm hc
    rw [hrows] at hm
    simp only [List.mem_cons, List.not_mem_nil, or_false] at hm
    rcases hm with rfl | rfl
    · exact absurd hc (by decide)
    · exact ⟨⟨⟨ada, "Ada"⟩, ⟨1, 1, 0⟩⟩, rfl⟩
  have hfit : s.rows.length < UInt64.size := by decide
  obtain ⟨matching, hmem, -, hpages⟩ := search_returns_the_matching_books h hp hbooks hauthors hb ha hfit booksByAda
  obtain ⟨sorted, pages, hsorts, hanswered, hall, -⟩ := hpages [⟨.title, .ascending⟩] 1 (Nat.le_refl 1)
  have hnames : s.namesOf notes = ["Ada"] := rfl
  have hholds : ∀ condition ∈ booksByAda.conditions, booksByAda.Holds notes (s.indexOf booksByAda notes) condition := by
    intro condition hc
    obtain rfl := List.mem_singleton.mp hc
    rw [Store.indexOf, hnames]
    exact ⟨"ada", rfl, by decide⟩
  have hmatch : s.Matches booksByAda ⟨⟨notes, ⟨2, 2, 0⟩⟩, ["Ada"], booksByAda.score (s.indexOf booksByAda notes)⟩ :=
    ⟨rfl, hholds, rfl, rfl⟩
  have hin := hsorts.perm.mem_iff.mpr ((hmem _).mpr hmatch)
  rw [← hall _ (Nat.le_refl _)] at hin
  obtain ⟨k, -, hk⟩ := List.mem_flatMap.mp hin
  exact ⟨h, hp, hbooks, hauthors, hb, ha, hfit, pages, k, _, hanswered, hk, rfl⟩

end Bookshop
