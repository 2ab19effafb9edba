/-
  Bookshop.Proofs.Catalog.Cascade — the deletion of an author, and what it makes of the books.

  After the author is gone, the books that credit it are looked up, and each of them is read again and
  written without the credit; a book for which one of these calls fails is left as it is. `turnOf` tells the
  numbers of the calls, so what is said here holds of every pattern of outages.

  - `removeCredits_served`, `removeCredits_left`: one loop over books that are distinct and up to date.
  - `author_deletion_cascades`: when the deletion succeeds, and what it leaves of authors and books.
-/

import Bookshop.Proofs.Catalog.Reachable

namespace Bookshop

open CatalogM

/-! ## Books without a credit -/

def Book.without (book : Book) (author : Uuid) : Book := { book with authors := book.authors.filter (· ≠ author) }

theorem Book.Normal.without {book : Book} (h : book.Normal) (author : Uuid) : (book.without author).Normal :=
  ⟨h.trimmed, h.titled, h.authors.filter _, h.genres, h.price⟩

/-- In this store a book has lost the credit of an author, and its version is one higher; nothing else of it has changed. -/
def Uncredited (author : Uuid) (s : Store) (b : Stored Book) : Prop :=
  ∃ new : Stored Book, s.get Book b.id = .ok (some new) ∧ new.data = b.data.without author ∧
    new.metadata.created = b.metadata.created ∧ new.version = b.version + 1

/-- A book can be written in the place of one that is up to date: no other book is in its way. -/
theorem Store.update_book {s : Store} {b : Stored Book} (hb : s.get Book b.id = .ok (some b)) (book : Book)
    (hid : book.id = b.id) (now : Nat) :
    ∃ answer, s.update now book b.version = .ok (answer, s.replacing now book) := by
  obtain ⟨row, hr, hv⟩ := Store.row?_of_get hb
  rw [← hid] at hr
  exact ⟨_, Store.update_eq_ok.mpr ⟨row, hr, hv, Store.keyTaken_none s _ _, rfl, rfl⟩⟩

/-! ## The calls for one book -/

namespace Authors

/-- Both calls for a book go through, where `n` is the number of the first: it is read again, and written. -/
def GoesThrough (outages : Outages) (n : Nat) (b : Stored Book) : Prop :=
  outages n (.get "books" b.id) = none ∧ outages (n + 1) (.update "books" b.id b.version) = none

instance (outages : Outages) (n : Nat) (b : Stored Book) : Decidable (GoesThrough outages n b) :=
  inferInstanceAs (Decidable (_ ∧ _))

/-- The number of the first call after those for a book. -/
def nextTurn (outages : Outages) (n : Nat) (b : Stored Book) : Nat :=
  if outages n (.get "books" b.id) = none then n + 2 else n + 1

/-- The number of the first call for the book of an identifier, where `n` is that of the first call for all. -/
def turnOf (outages : Outages) (id : Uuid) : Nat → List (Stored Book) → Nat
  | n, [] => n
  | n, b :: rest => if b.id = id then n else turnOf outages id (nextTurn outages n b) rest

variable {s : Session} {author : Uuid} {b : Stored Book}

/-- The update of a book that is up to date comes down to its last call. -/
theorem on_update_uncredited (hs : s.store.Sound) (hb : s.store.get Book b.id = .ok (some b))
    (ho : s.outages s.calls (.get "books" b.id) = none) (author : Uuid) :
    (Books.update b.id b.version (b.data.uncredited author)).on s =
      (call (StoreM.update (b.data.without author) b.version)).on s.called := by
  have hd : (decided ((b.data.uncredited author).toBook b.data.id)).on s.called =
      (.ok (b.data.without author), s.called) := by
    rw [(hs.of_get books_kind hb).1.toBook_uncredited author]
    rfl
  exact (on_bind_ok (on_require_found ho hb)).trans (on_bind_ok hd)

theorem removeCredit_served (hs : s.store.Sound) (hb : s.store.get Book b.id = .ok (some b))
    (h : GoesThrough s.outages s.calls b) (author : Uuid) :
    (removeCredit author b).on s =
      (.ok (), { s with
        calls := nextTurn s.outages s.calls b
        store := s.store.replacing (s.clock (s.calls + 1)) (b.data.without author) }) := by
  obtain ⟨ho, hu⟩ := h
  obtain ⟨answer, ha⟩ := Store.update_book hb (b.data.without author) rfl (s.clock (s.calls + 1))
  have hcall := (on_update_uncredited hs hb ho author).trans (on_attempt_done hu ha)
  rw [removeCredit, on_bind_ok hcall, on_pure, nextTurn, if_pos ho]
  rfl

theorem removeCredit_left (hs : s.store.Sound) (hb : s.store.get Book b.id = .ok (some b))
    (h : ¬ GoesThrough s.outages s.calls b) (author : Uuid) :
    ∃ f, (removeCredit author b).on s = (.error f, { s with calls := nextTurn s.outages s.calls b }) := by
  cases ho : s.outages s.calls (.get "books" b.id) with
  | some fault =>
    have hr : (Books.update b.id b.version (b.data.uncredited author)).on s = (.error (.ofFault fault), s.called) :=
      on_bind_error (on_require_outage ho)
    refine ⟨.ofFault fault, ?_⟩
    rw [removeCredit, on_bind_error hr, nextTurn, if_neg (by simp [ho])]
    rfl
  | none =>
    cases hu : s.outages (s.calls + 1) (.update "books" b.id b.version) with
    | none => exact absurd ⟨ho, hu⟩ h
    | some fault =>
      have hcall := (on_update_uncredited hs hb ho author).trans (on_attempt_outage hu)
      refine ⟨.ofFault fault, ?_⟩
      rw [removeCredit, on_bind_error hcall, nextTurn, if_pos ho]
      rfl

/-! ## One book after the other -/

def afterTurn (author : Uuid) (s : Session) (b : Stored Book) : Session :=
  { s with
    calls := nextTurn s.outages s.calls b
    store :=
      if GoesThrough s.outages s.calls b then s.store.replacing (s.clock (s.calls + 1)) (b.data.without author)
      else s.store }

/-- The books are those of the store, each once and at its current version. -/
structure UpToDate (s : Store) (books : List (Stored Book)) : Prop where
  sound : s.Sound
  distinct : (books.map Stored.id).Nodup
  current : ∀ b ∈ books, s.get Book b.id = .ok (some b)

variable {rest books : List (Stored Book)}

theorem removeCredits_cons (h : UpToDate s.store (b :: rest)) (author : Uuid) :
    (removeCredits author (b :: rest)).on s = (removeCredits author rest).on (afterTurn author s b) := by
  have hb := h.current b List.mem_cons_self
  have hstep : (tryCatch (removeCredit author b) (fun _ => pure ())).on s = (.ok (), afterTurn author s b) := by
    rw [on_tryCatch, afterTurn]
    by_cases hg : GoesThrough s.outages s.calls b
    · rw [removeCredit_served h.sound hb hg, if_pos hg]
    · obtain ⟨f, hf⟩ := removeCredit_left h.sound hb hg author
      rw [hf, if_neg hg]
      rfl
  exact on_bind_ok hstep

theorem row?_afterTurn {collection : String} {id : Uuid} (h : ¬ (Storable.collection Book = collection ∧ b.id = id)) :
    (afterTurn author s b).store.row? collection id = s.store.row? collection id := by
  unfold afterTurn
  dsimp only
  split
  · exact (Store.row?_replacing ..).trans (if_neg h)
  · rfl

theorem UpToDate.apart {s : Store} (h : UpToDate s (b :: rest)) {c : Stored Book} (hc : c ∈ rest) : ¬ b.id = c.id :=
  fun he => (List.nodup_cons.mp h.distinct).1 (List.mem_map.mpr ⟨c, hc, he.symm⟩)

theorem UpToDate.next (h : UpToDate s.store (b :: rest)) (author : Uuid) :
    UpToDate (afterTurn author s b).store rest := by
  refine ⟨?_, (List.nodup_cons.mp h.distinct).2, fun c hc => ?_⟩
  · unfold afterTurn
    dsimp only
    split
    · have hn := (h.sound.of_get books_kind (h.current b List.mem_cons_self)).1.without author
      exact h.sound.replacing (fun _ => .book _ hn) _
    · exact h.sound
  · have hother : ¬ (Storable.collection Book = Storable.collection Book ∧ b.id = c.id) := fun he => h.apart hc he.2
    rw [Store.get_congr (row?_afterTurn hother)]
    exact h.current c (List.mem_cons_of_mem b hc)

theorem uncredited_afterTurn (h : UpToDate s.store (b :: rest)) (hg : GoesThrough s.outages s.calls b) (author : Uuid) :
    Uncredited author (afterTurn author s b).store b := by
  have hb := h.current b List.mem_cons_self
  have hn := (h.sound.of_get books_kind hb).1.without author
  obtain ⟨row, hr, hread⟩ := Store.get_eq_some.mp hb
  have hm : b.metadata = row.metadata := Row.metadata_of_read hread
  rw [afterTurn, if_pos hg]
  generalize hnow : s.clock (s.calls + 1) = now
  have hr' : (s.store.replacing now (b.data.without author)).row? (Storable.collection Book) b.id =
      some (row.renewed (b.data.without author) (s.store.tick now)) :=
    Store.row?_replacing_self (a := b.data.without author) hr now
  have hat : row.isAt (Storable.collection Book) b.id = true := Row.isAt_iff.mpr (Store.row?_some hr).2
  have hread' := (Row.holds_renewed (a := b.data.without author) hat (s.store.tick now)).read
    (Book.decode_toJson hn.price)
  refine ⟨_, Store.get_eq_some.mpr ⟨_, hr', hread'⟩, rfl, ?_, ?_⟩
  · rw [hm]; rfl
  · rw [Stored.version, Stored.version, hm]; rfl

/-! ## All books -/

theorem removeCredits_frame (h : UpToDate s.store books) {collection : String} {id : Uuid}
    (hid : ∀ b ∈ books, ¬ (Storable.collection Book = collection ∧ b.id = id)) :
    ((removeCredits author books).on s).2.store.row? collection id = s.store.row? collection id := by
  induction books generalizing s with
  | nil => rfl
  | cons b rest ih =>
    obtain ⟨hb, hrest⟩ := List.forall_mem_cons.mp hid
    rw [removeCredits_cons h, ih (h.next author) hrest, row?_afterTurn hb]

theorem row?_removeCredits_head (h : UpToDate s.store (b :: rest)) (author : Uuid) :
    ((removeCredits author (b :: rest)).on s).2.store.row? (Storable.collection Book) b.id =
      (afterTurn author s b).store.row? (Storable.collection Book) b.id := by
  rw [removeCredits_cons h]
  exact removeCredits_frame (h.next author) fun c hc he => h.apart hc he.2.symm

theorem removeCredits_served (h : UpToDate s.store books) {c : Stored Book} (hc : c ∈ books)
    (hg : GoesThrough s.outages (turnOf s.outages c.id s.calls books) c) :
    Uncredited author ((removeCredits author books).on s).2.store c := by
  induction books generalizing s with
  | nil => cases hc
  | cons b rest ih =>
    rcases List.mem_cons.mp hc with rfl | hc
    · rw [turnOf, if_pos rfl] at hg
      obtain ⟨new, hnew, hfields⟩ := uncredited_afterTurn h hg author
      exact ⟨new, by rw [Store.get_congr (row?_removeCredits_head h author), hnew], hfields⟩
    · rw [turnOf, if_neg (h.apart hc)] at hg
      rw [removeCredits_cons h]
      exact ih (h.next author) hc hg

theorem removeCredits_left (h : UpToDate s.store books) {c : Stored Book} (hc : c ∈ books)
    (hg : ¬ GoesThrough s.outages (turnOf s.outages c.id s.calls books) c) :
    ((removeCredits author books).on s).2.store.row? (Storable.collection Book) c.id =
      s.store.row? (Storable.collection Book) c.id := by
  induction books generalizing s with
  | nil => cases hc
  | cons b rest ih =>
    rcases List.mem_cons.mp hc with rfl | hc
    · rw [turnOf, if_pos rfl] at hg
      rw [row?_removeCredits_head h author, afterTurn, if_neg hg]
    · rw [turnOf, if_neg (h.apart hc)] at hg
      rw [removeCredits_cons h, ih (h.next author) hc hg]
      exact row?_afterTurn fun he => h.apart hc he.2

/-! ## The deletion -/

variable {expected : Int}

theorem upToDate_of_find {s : Store} (h : s.Sound) (hf : s.find (fun book => book.credits author) = .ok books) :
    UpToDate s books := by
  obtain ⟨found, hfound, hd, hmem⟩ := h.find books_kind (fun book => book.credits author)
  rw [hfound] at hf
  cases hf
  exact ⟨h, hd, fun b hb => ((hmem b).mp hb).2⟩

theorem find_removing {s : Store} (h : s.Sound) (author : Uuid) (p : Book → Bool) :
    (s.removing (Storable.collection Author) author).find p = s.find p := by
  have hrows : (s.removing (Storable.collection Author) author).inOrder (Storable.collection Book) =
      s.inOrder (Storable.collection Book) := by
    rw [Store.inOrder, Store.inOrder, Store.removing, List.filter_filter]
    refine congrArg (List.mergeSort · _) (List.filter_congr fun row hm => ?_)
    cases hu : row.isUnder (Storable.collection Book) with
    | false => rfl
    | true =>
      have hc := ((h.rows row hm).isUnder_iff (by decide)).mp hu
      have hat : row.isAt (Storable.collection Author) author = false :=
        Bool.eq_false_iff.mpr fun hat => absurd (hc.symm.trans (Row.isAt_iff.mp hat).1) (by decide)
      rw [hat]
      rfl
  rw [Store.find, Store.find, hrows]

theorem on_delete_ok_iff (author : Uuid) (expected : Int) (s : Session) :
    ((delete author expected).on s).1 = .ok () ↔
      s.outages s.calls (.delete "authors" author expected) = none ∧
        ∃ row, s.store.row? "authors" author = some row ∧ row.metadata.version = expected := by
  cases ho : s.outages s.calls (.delete "authors" author expected) with
  | some fault =>
    have he : (delete author expected).on s = (.error (.ofFault fault), s.called) :=
      on_bind_error (on_attempt_outage ho)
    simp [he]
  | none =>
    cases hd : s.store.delete Author author expected with
    | error fault =>
      have he : (delete author expected).on s = (.error (.ofFault fault), s.called) :=
        on_bind_error (on_attempt_refused ho (by rw [hd]; rfl))
      have hrow : ¬ ∃ row, s.store.row? "authors" author = some row ∧ row.metadata.version = expected := by
        intro hrow
        rw [Store.delete_eq_ok.mpr ⟨hrow, rfl⟩] at hd
        cases hd
      simp [he, hrow]
    | ok store =>
      obtain ⟨a, ha⟩ := ((sure_tryCatch (Books.byAuthor author) fun _ => sure_pure []).bind
        (sure_removeCredits author)) { s.called with store }
      have he : (delete author expected).on s = _ := on_bind_ok (on_attempt_done ho (by rw [hd]; rfl))
      rw [he, ha]
      exact ⟨fun _ => ⟨rfl, (Store.delete_eq_ok.mp hd).1⟩, fun _ => rfl⟩

/-- Where the search fails, the books are taken for none. -/
theorem on_byAuthor (hf : s.store.find (fun book => book.credits author) = .ok books) :
    (tryCatch (Books.byAuthor author) (fun _ => pure [])).on s =
      (.ok (if s.outages s.calls (.find "books") = none then books else []), s.called) := by
  have hask : (Books.byAuthor author).on s = _ :=
    on_ask (Call.find "books") (fun store => store.find fun book : Book => book.credits author) s
  rw [on_tryCatch, hask, hf]
  cases s.outages s.calls (.find "books") with
  | some fault => rfl
  | none => rfl

end Authors

/-! ## The cascade -/

/-- Every call that the deletion of an author needs for a book goes through: the search that finds the books, and the
two calls for this one. -/
def Reached (s : Session) (books : List (Stored Book)) (b : Stored Book) : Prop :=
  s.outages (s.calls + 1) (.find "books") = none ∧
    Authors.GoesThrough s.outages (Authors.turnOf s.outages b.id (s.calls + 2) books) b

/-- After the author is gone, what is left of its deletion is the loop over the books that were found. The calls go
through for those that are reached. -/
theorem Authors.on_delete_done {s : Session} {author : Uuid} {expected : Int} {books : List (Stored Book)}
    (h : s.store.Sound) (hok : ((delete author expected).on s).1 = .ok ())
    (hfind : s.store.find (fun book => book.credits author) = .ok books) :
    ∃ t found, (delete author expected).on s = (removeCredits author found).on t ∧
      t.store = s.store.removing "authors" author ∧ UpToDate t.store found ∧
      ∀ b, b ∈ found ∧ GoesThrough t.outages (turnOf t.outages b.id t.calls found) b ↔
        b ∈ books ∧ Reached s books b := by
  obtain ⟨ho, hrow⟩ := (on_delete_ok_iff author expected s).mp hok
  have hgone := h.removing "authors" author
  have hd : s.store.delete Author author expected = .ok (s.store.removing "authors" author) :=
    Store.delete_eq_ok.mpr ⟨hrow, rfl⟩
  have hdone : (delete author expected).on s = _ := on_bind_ok (on_attempt_done ho (by rw [hd]; rfl))
  have hfound := (find_removing h author fun book => book.credits author).trans hfind
  have hrest := on_bind_ok (f := removeCredits author) (on_byAuthor (s := { s.called with store := _ }) hfound)
  refine ⟨_, _, hdone.trans hrest, rfl, ?_, fun b => ?_⟩
  · split
    · exact upToDate_of_find hgone hfound
    · exact ⟨hgone, List.nodup_nil, fun _ hb => (List.not_mem_nil hb).elim⟩
  · unfold Reached
    by_cases hf : s.outages (s.calls + 1) (.find "books") = none
    · simp [hf]
    · simp [hf]

/-- Under any outages. The prices of the books that are written again are the same on the assumption that amounts read
back from the text of a row (`Row.read`). -/
theorem author_deletion_cascades {s : Session} (h : Reachable s.store) (author : Uuid) (expected : Int) :
    let after := (Authors.delete author expected).on s
    (after.1 = .ok () ↔ s.outages s.calls (.delete "authors" author expected) = none ∧
      ∃ row, s.store.row? "authors" author = some row ∧ row.metadata.version = expected) ∧
    (after.1 = .ok () →
      after.2.store.row? "authors" author = none ∧
      (∀ other, other ≠ author → after.2.store.row? "authors" other = s.store.row? "authors" other) ∧
      ∃ books : List (Stored Book), s.store.find (fun book => book.credits author) = .ok books ∧
        (∀ b, b ∈ books ↔ b.data.credits author = true ∧ s.store.get Book b.id = .ok (some b)) ∧
        (∀ b ∈ books, Reached s books b → Uncredited author after.2.store b) ∧
        (∀ id, (∀ b ∈ books, b.id = id → ¬ Reached s books b) →
          after.2.store.row? "books" id = s.store.row? "books" id)) := by
  refine ⟨Authors.on_delete_ok_iff author expected s, fun hok => ?_⟩
  obtain ⟨books, hfind, -, hmem⟩ := h.sound.find books_kind (fun book => book.credits author)
  obtain ⟨t, found, hrun, hstore, hu, hreached⟩ := Authors.on_delete_done h.sound hok hfind
  have hauthor (id : Uuid) :
      ((Authors.removeCredits author found).on t).2.store.row? "authors" id = t.store.row? "authors" id :=
    Authors.removeCredits_frame hu fun b _ he => absurd he.1 (by decide)
  rw [hrun]
  refine ⟨?_, fun other hne => ?_, books, hfind, hmem, fun b hb hr => ?_, fun id hid => ?_⟩
  · rw [hauthor, hstore, Store.row?_removing, if_pos ⟨rfl, rfl⟩]
  · rw [hauthor, hstore, Store.row?_removing, if_neg fun he => hne he.2.symm]
  · obtain ⟨hbf, hg⟩ := (hreached b).mpr ⟨hb, hr⟩
    exact Authors.removeCredits_served hu hbf hg
  · have hbook : t.store.row? "books" id = s.store.row? "books" id := by
      rw [hstore, Store.row?_removing, if_neg fun he => absurd he.1 (by decide)]
    rw [← hbook]
    by_cases hb : ∃ b ∈ found, b.id = id
    · obtain ⟨b, hb, rfl⟩ := hb
      apply Authors.removeCredits_left hu hb
      intro hg
      obtain ⟨hbb, hr⟩ := (hreached b).mp ⟨hb, hg⟩
      exact hid b hbb rfl hr
    · exact Authors.removeCredits_frame hu fun b hm he => hb ⟨b, hm, he.2⟩

/-! ## A library -/

def ada : Uuid := ⟨1⟩

def notes : Book := ⟨⟨2⟩, "Notes", [ada, ⟨9⟩], [], ⟨Float.ofInt 5, "EUR"⟩⟩

def letters : Book := ⟨⟨3⟩, "Letters", [ada], [], ⟨Float.ofInt 5, "EUR"⟩⟩

def Book.likewise (book : Book) : Book.Request := ⟨book.title, book.authors, book.genres, book.price⟩

/-- An author and two books of hers, the second of which cannot be written. -/
def library : Session :=
  (Session.start fun _ call => if call = .update "books" letters.id 0 then some (.unavailable "") else none).after
    [.createAuthor ada ⟨"Ada"⟩, .createBook notes.id notes.likewise, .createBook letters.id letters.likewise]

theorem reachable_library : Reachable library.store := by
  apply Reachable.empty.after
  intro change hc
  simp only [List.mem_cons, List.not_mem_nil, or_false] at hc
  rcases hc with rfl | rfl | rfl
  · exact ⟨Author.Request.toJson ⟨"Ada"⟩, rfl⟩
  · exact ⟨notes.likewise.toJson, rfl⟩
  · exact ⟨letters.likewise.toJson, rfl⟩

theorem ada_leaves_the_notes_and_not_the_letters :
    let after := (Authors.delete ada 0).on library
    after.1 = .ok () ∧ Uncredited ada after.2.store ⟨notes, ⟨2, 2, 0⟩⟩ ∧
      after.2.store.row? "books" letters.id = library.store.row? "books" letters.id := by
  obtain ⟨hiff, hok⟩ := author_deletion_cascades reachable_library ada 0
  have hdone := hiff.mpr ⟨rfl, _, rfl, rfl⟩
  obtain ⟨-, -, books, -, hmem, hserved, hleft⟩ := hok hdone
  have hnotes : ⟨notes, ⟨2, 2, 0⟩⟩ ∈ books := (hmem _).mpr ⟨by decide, rfl⟩
  refine ⟨hdone, hserved _ hnotes ⟨rfl, rfl, rfl⟩, hleft letters.id fun b hb hid hr => ?_⟩
  have hget : library.store.get Book letters.id = .ok (some b) := hid ▸ ((hmem b).mp hb).2
  have hletters : library.store.get Book letters.id = .ok (some ⟨letters, ⟨3, 3, 0⟩⟩) := rfl
  rw [hletters] at hget
  cases hget
  have hmet : some (StoreFault.unavailable "") = none := hr.2.2
  cases hmet

end Bookshop
