/-
  Bookshop.Proofs.Store.ReadBack — what the store gives back of the values it has accepted.

  A write keeps a value as JSON and checks nothing but its identifier and its natural key; a read decodes what was kept.
  For an author these are inverse. For a book they are not: its price is read as any client's is, by `Price.make`, so a
  price that this would change comes back changed, and one that it would refuse makes the row unreadable
  (`Book.decode_toJson_iff`). The core is handed valid prices only, and relies on it.

  What is kept is text, and the text of an amount need not be read as that amount. So a book is read from its text as it
  was just if its price is valid and reads back (`Price.ReadsBack`), and what is said of the reads of books is said of
  books whose prices read back: their texts are read as their JSON (`Row.Told`), so `Row.read` reads what the text of the
  row decodes to (`Row.Told.read_eq`).

  A row that no later call has written reads as it did after the write (`Run.row?_eq`, `Store.Accepts.get`).

  - `a_debt_is_accepted_and_cannot_be_read`: a negative price is taken in, and hides the whole collection.
  - `authors_and_valid_books_read_back`: every author comes back as it was answered, and every book whose price reads back
    with the price that `Price.make` makes of it, which is its own if that is valid; and the reads of a whole collection
    are answered, those of books just if there is no price that is refused.
-/

import Bookshop.Proofs.Resources.Written
import Bookshop.Proofs.Store.Legible

namespace Bookshop

/-- The price can be read back, as it is or changed. -/
def Price.Readable (price : Price) : Prop := ∃ other, make price.amount (some price.currency) = .ok other

def Row.text (row : Row) : String := row.body.toText

/-- The text of the row is read as its JSON. -/
def Row.Told (row : Row) : Prop := Json.parse? row.text = some row.body

/-- So what is read of the row is what its text decodes to. -/
theorem Row.Told.read_eq {α : Type} [Storable α] {row : Row} (h : row.Told) :
    row.read (α := α) =
      match Json.decodeText Storable.decode row.text with
      | .ok data => .ok ⟨data, row.metadata⟩
      | .error error => .error (.unreadable error.message) := by
  have hparse : Json.parse? row.text = some row.body := h
  rw [Json.decodeText, hparse]
  rfl

/-! ## Runs that leave a row alone -/

/-- Calls on a store, newest first, and the store after them. -/
inductive Run (s : Store) : List Record → Store → Prop
  | stay : Run s [] s
  | call {log : List Record} {t : Store} (w : Write) (now : Nat) : Run s log t →
      Run s (recordOf w now t :: log) (w.after now t)

/-- No call of the log has written the row or taken it away. -/
def Untouched (log : List Record) (collection : String) (id : Uuid) : Prop :=
  ∀ r ∈ log, ∀ verb, r.did verb collection id = false

theorem Run.row?_eq {s t : Store} {log : List Record} (h : Run s log t) {collection : String} {id : Uuid}
    (hu : Untouched log collection id) : t.row? collection id = s.row? collection id := by
  induction h with
  | stay => rfl
  | @call log t w now _ ih =>
    obtain ⟨hnew, hlog⟩ := List.forall_mem_cons.mp hu
    refine (after_elsewhere fun ⟨hc, hi, hdone⟩ => ?_).trans (ih hlog)
    have hdid : (recordOf w now t).did w.verb collection id = true := did_iff.mpr ⟨rfl, hc, hi, hdone⟩
    rw [hnew w.verb] at hdid
    cases hdid

/-! ## One row -/

section

variable {α : Type} [Storable α]

/-- The store takes a value in, by an insertion or an update, with this answer, and is this afterwards. -/
inductive Store.Accepts (s : Store) (now : Nat) (a : α) (answer : Stored α) (s' : Store) : Prop
  | insert (h : s.insert now a = .ok (answer, s'))
  | update (expected : Int) (h : s.update now a expected = .ok (answer, s'))

namespace Store.Accepts

variable {s s' t : Store} {now : Nat} {a : α} {answer : Stored α} (h : s.Accepts now a answer s')

include h

theorem data_eq : answer.data = a := by
  cases h with
  | insert h =>
    obtain ⟨-, -, rfl, -⟩ := insert_eq_ok.mp h
    rfl
  | update expected h =>
    obtain ⟨_, -, -, -, rfl, -⟩ := update_eq_ok.mp h
    rfl

theorem row : ∃ row, s'.row? (Storable.collection α) (Storable.id a) = some row ∧ row.body = Storable.encode a ∧
    row.metadata = answer.metadata := by
  cases h with
  | insert h =>
    obtain ⟨-, -, rfl, rfl⟩ := insert_eq_ok.mp h
    exact ⟨_, s.row?_adding_self now a, rfl, rfl⟩
  | update expected h =>
    obtain ⟨_, hr, -, -, rfl, rfl⟩ := update_eq_ok.mp h
    exact ⟨_, row?_replacing_self hr now, rfl, rfl⟩

/-- While no other call has written its row, a value is read as what was written of it decodes. -/
theorem get {log : List Record} (hrun : Run s' log t)
    (hu : Untouched log (Storable.collection α) (Storable.id a)) :
    t.get α (Storable.id a) =
      match Storable.decode (Storable.encode a) with
      | .ok b => .ok (some ⟨b, answer.metadata⟩)
      | .error e => .error (.unreadable e.message) := by
  obtain ⟨row, hr, hbody, hm⟩ := h.row
  rw [Store.get, hrun.row?_eq hu, hr]
  show row.read.map some = _
  rw [Row.read, hbody, hm]
  cases Storable.decode (Storable.encode a) (α := α) <;> rfl

end Store.Accepts

end

/-- The store gives the author back as it was answered, from a row with a text that is read as its JSON. -/
structure Author.GivenBack (author : Author) (answer : Stored Author) (t : Store) : Prop where
  told : ∃ row, t.row? "authors" author.id = some row ∧ row.Told
  same : t.get Author author.id = .ok (some answer)

theorem Store.Accepts.givenBack_author {s s' t : Store} {now : Nat} {author : Author} {answer : Stored Author}
    (h : s.Accepts now author answer s') {log : List Record} (hrun : Run s' log t)
    (hu : Untouched log "authors" author.id) : author.GivenBack answer t := by
  constructor
  case told =>
    obtain ⟨row, hr, hbody, -⟩ := h.row
    refine ⟨row, (hrun.row?_eq hu).trans hr, ?_⟩
    rw [Row.Told, Row.text, hbody]
    exact author.parse?_toText
  case same =>
    have hread : (Storable.decode (Storable.encode author) : Except _ Author) = .ok author := author.decode_toJson
    have hget := h.get hrun hu
    rw [hread] at hget
    obtain rfl := h.data_eq
    exact hget

/-- The store gives the book back from the text of its row, which is the book again just if the price is valid and reads
back. Of a price that reads back, it gives what `Price.make` makes of it. -/
structure Book.GivenBack (book : Book) (answer : Stored Book) (t : Store) : Prop where
  text : ∃ row, t.row? "books" book.id = some row ∧ row.metadata = answer.metadata ∧
    (Json.decodeText Book.decode row.text = .ok book ↔ book.price.Valid ∧ book.price.ReadsBack)
  told : book.price.ReadsBack → ∃ row, t.row? "books" book.id = some row ∧ row.Told
  same : book.price.ReadsBack → (t.get Book book.id = .ok (some answer) ↔ book.price.Valid)
  made : book.price.ReadsBack → ∀ price, Price.make book.price.amount (some book.price.currency) = .ok price →
    t.get Book book.id = .ok (some ⟨{ book with price }, answer.metadata⟩)
  refused : book.price.ReadsBack → ¬ book.price.Readable → ∃ detail, t.get Book book.id = .error (.unreadable detail)

section

variable {s s' t : Store} {now : Nat} {book : Book} {answer : Stored Book} (h : s.Accepts now book answer s')
  {log : List Record} (hrun : Run s' log t) (hu : Untouched log "books" book.id)

include h hrun hu

theorem Store.Accepts.get_book {price : Price}
    (hp : Price.make book.price.amount (some book.price.currency) = .ok price) :
    t.get Book book.id = .ok (some ⟨{ book with price }, answer.metadata⟩) := by
  have hread : (Storable.decode (Storable.encode book) : Except _ Book) = .ok { book with price } :=
    Book.decode_toJson_iff.mpr ⟨price, hp, rfl⟩
  have hget := h.get hrun hu
  rw [hread] at hget
  exact hget

theorem Store.Accepts.get_unreadable (hp : ¬ book.price.Readable) :
    ∃ detail, t.get Book book.id = .error (.unreadable detail) := by
  have hget := h.get hrun hu
  cases hread : (Storable.decode (Storable.encode book) : Except _ Book) with
  | ok other =>
    obtain ⟨price, hmake, -⟩ := Book.decode_toJson_iff.mp hread
    exact absurd ⟨price, hmake⟩ hp
  | error e =>
    rw [hread] at hget
    exact ⟨e.message, hget⟩

theorem Store.Accepts.get_book_iff : t.get Book book.id = .ok (some answer) ↔ book.price.Valid := by
  obtain rfl := h.data_eq
  rw [← Price.make_eq_self_iff]
  constructor
  · intro hget
    by_cases hp : answer.data.price.Readable
    · obtain ⟨price, hp⟩ := hp
      rw [h.get_book hrun hu hp] at hget
      have hprice : price = answer.data.price := congrArg (·.data.price) (Option.some.inj (Except.ok.inj hget))
      rwa [hprice] at hp
    · obtain ⟨detail, hfail⟩ := h.get_unreadable hrun hu hp
      rw [hget] at hfail
      cases hfail
  · exact fun hp => h.get_book hrun hu hp

theorem Store.Accepts.givenBack_book : book.GivenBack answer t := by
  obtain ⟨row, hr, hbody, hm⟩ := h.row
  have hrow : t.row? "books" book.id = some row := (hrun.row?_eq hu).trans hr
  have htext : row.text = book.toJson.toText := congrArg Json.Value.toText hbody
  exact {
    text := ⟨row, hrow, hm, htext ▸ Book.decodeText_toJson_self_iff⟩
    told := fun hb => ⟨row, hrow, by rw [Row.Told, htext, Book.parse?_toText hb, hbody]; rfl⟩
    same := fun _ => h.get_book_iff hrun hu
    made := fun _ _ => h.get_book hrun hu
    refused := fun _ => h.get_unreadable hrun hu }

end

/-! ## Whole collections -/

section

variable {α : Type} [Storable α] {s : Store}
  (hunder : ∀ row ∈ s.rows, row.isUnder (Storable.collection α) = true ↔ row.collection = Storable.collection α)

include hunder

/-- A search reads every row, also those that it does not find. -/
theorem Store.decodes_of_find {p : α → Bool} {found : List (Stored α)} (h : s.find p = .ok found) : s.Decodes α := by
  intro row hm hc
  obtain ⟨all, hall, -⟩ := except_bind_eq_ok.mp h
  refine exists_mapM_iff.mp ⟨all, hall⟩ row ?_
  rw [inOrder, List.mem_mergeSort, List.mem_filter]
  exact ⟨hm, (hunder row hm).mpr hc⟩

/-- Every row is on a page that is long enough. -/
theorem Store.decodes_of_list (h : ∀ page, ∃ answer, s.list α page = .ok answer) : s.Decodes α := by
  intro row hm hc
  obtain ⟨answer, hanswer⟩ := h ⟨0, (s.byLastWrite (Storable.collection α)).length⟩
  obtain ⟨all, hall, -⟩ := except_bind_eq_ok.mp hanswer
  refine exists_mapM_iff.mp ⟨all, hall⟩ row ?_
  simp only [Window.slice, Window.offset, Nat.zero_mul, Nat.zero_min, List.drop_zero, List.take_length]
  rw [byLastWrite, List.mem_mergeSort, inOrder, List.mem_mergeSort, List.mem_filter]
  exact ⟨hm, (hunder row hm).mpr hc⟩

end

section

variable {log : List Record} {s : Store} (h : History log s)

include h

theorem History.decodes_book_iff (ho : Only Book log) :
    s.Decodes Book ↔ ∀ book : Book, Entry.of book ∈ live log → book.price.Readable := by
  have hreadable (book : Book) :
      (∃ other : Book, Storable.decode (Entry.of book).body = .ok other) ↔ book.price.Readable := by
    show (∃ other, Book.decode book.toJson = .ok other) ↔ _
    simp [Book.decode_toJson_iff, Price.Readable]
  rw [Store.decodes_iff, entries_eq_live h]
  constructor
  · exact fun hall book hbook => (hreadable book).mp (hall _ hbook rfl)
  · intro hall e he hc
    obtain ⟨r, hr, hre⟩ := exists_of_live he
    obtain ⟨book, rfl⟩ := ho r hr e hre hc
    exact (hreadable book).mpr (hall book he)

def PricesReadBack (log : List Record) : Prop := ∀ book : Book, Entry.of book ∈ live log → book.price.ReadsBack

theorem History.told_author (ho : Only Author log) : ∀ row ∈ s.rows, row.collection = "authors" → row.Told := by
  intro row hm hc
  obtain ⟨-, author, ha⟩ := h.exists_value ho hm hc
  have hbody : row.body = author.toJson := congrArg Entry.body ha
  rw [Row.Told, Row.text, hbody]
  exact author.parse?_toText

theorem History.told_book (ho : Only Book log) (hback : PricesReadBack log) :
    ∀ row ∈ s.rows, row.collection = "books" → row.Told := by
  intro row hm hc
  obtain ⟨hlive, book, hb⟩ := h.exists_value ho hm hc
  have hbody : row.body = book.toJson := congrArg Entry.body hb
  rw [Row.Told, Row.text, hbody]
  exact Book.parse?_toText (hback book (hb ▸ hlive))

variable (hp : Plain log)

include hp

theorem History.find_book_iff (ho : Only Book log) (p : Book → Bool) :
    (∃ found, s.find p = .ok found) ↔ ∀ book : Book, Entry.of book ∈ live log → book.price.Readable := by
  rw [← h.decodes_book_iff ho]
  exact ⟨fun ⟨_, hfound⟩ => Store.decodes_of_find (h.under hp (by decide)) hfound,
    fun hd => (h.legible_book hp ho hd).answers.find p⟩

theorem History.list_book_iff (ho : Only Book log) :
    (∀ page, ∃ answer, s.list Book page = .ok answer) ↔
      ∀ book : Book, Entry.of book ∈ live log → book.price.Readable := by
  rw [← h.decodes_book_iff ho]
  exact ⟨Store.decodes_of_list (h.under hp (by decide)), fun hd => (h.legible_book hp ho hd).answers.list⟩

end

/-- The reads of all authors are answered, from texts that are read as the JSON of the rows. -/
structure Store.AuthorsGivenBack (s : Store) : Prop where
  told : ∀ row ∈ s.rows, row.collection = "authors" → row.Told
  find : ∀ p : Author → Bool, ∃ found, s.find p = .ok found
  list : ∀ page, ∃ answer, s.list Author page = .ok answer

/-- The reads of all books are answered, from texts that are read as the JSON of the rows, just if no price of a book that
is there is refused. -/
structure Store.BooksGivenBack (s : Store) (log : List Record) : Prop where
  told : ∀ row ∈ s.rows, row.collection = "books" → row.Told
  find : ∀ p : Book → Bool,
    (∃ found, s.find p = .ok found) ↔ ∀ book : Book, Entry.of book ∈ live log → book.price.Readable
  list : (∀ page, ∃ answer, s.list Book page = .ok answer) ↔
    ∀ book : Book, Entry.of book ∈ live log → book.price.Readable

def debt : Book := ⟨⟨5⟩, "Debt", [], [], ⟨Float.ofInt (-1), "EUR"⟩⟩

/-- The store takes the book in and answers it. From then on it cannot be read, nor can the books as a whole. -/
theorem a_debt_is_accepted_and_cannot_be_read :
    let s := Store.empty.adding 1 debt
    let refused : StoreFault := .unreadable "Price amount must be a non-negative number"
    Store.empty.insert 1 debt = .ok (⟨debt, ⟨1, 1, 0⟩⟩, s) ∧
      s.get Book debt.id = .error refused ∧
      s.find (fun _ : Book => true) = .error refused ∧
      s.list Book ⟨0, 20⟩ = .error refused := by
  intro s refused
  have hread : (Row.fresh debt 1 0).read (α := Book) = .error refused := rfl
  have hin : s.inOrder "books" = [Row.fresh debt 1 0] := List.mergeSort_singleton _
  have hby : s.byLastWrite "books" = [Row.fresh debt 1 0] := by
    rw [Store.byLastWrite, hin, List.mergeSort_singleton]
  have hall : [Row.fresh debt 1 0].mapM (Row.read (α := Book)) = .error refused := by
    rw [List.mapM_cons, hread]
    rfl
  refine ⟨rfl, rfl, ?_, ?_⟩
  · show (s.inOrder "books").mapM Row.read >>= _ = _
    rw [hin, hall]
    rfl
  · show (Window.slice ⟨0, 20⟩ (s.byLastWrite "books")).mapM Row.read >>= _ = _
    rw [hby]
    show [Row.fresh debt 1 0].mapM Row.read >>= _ = _
    rw [hall]
    rfl

/-- Any author that the store accepts comes back with the same data and metadata until its row is written again, and so
does any book with a valid price that reads back. A book with another price that reads back comes back with the price
that its own makes, or cannot be read if that is refused. After any run the reads of all authors are answered, and those
of all books, if their prices read back, just if none of them is refused. -/
theorem authors_and_valid_books_read_back :
    (∀ (s s' t : Store) (now : Nat) (author : Author) (answer : Stored Author) (log : List Record),
      s.Accepts now author answer s' → Run s' log t → Untouched log "authors" author.id →
        answer.data = author ∧ author.GivenBack answer t) ∧
    (∀ (s s' t : Store) (now : Nat) (book : Book) (answer : Stored Book) (log : List Record),
      s.Accepts now book answer s' → Run s' log t → Untouched log "books" book.id →
        answer.data = book ∧ book.GivenBack answer t) ∧
    ∀ (log : List Record) (s : Store), History log s → Plain log →
      (Only Author log → s.AuthorsGivenBack) ∧ (Only Book log → PricesReadBack log → s.BooksGivenBack log) := by
  refine ⟨fun s s' t now author answer log h hrun hu => ⟨h.data_eq, h.givenBack_author hrun hu⟩,
    fun s s' t now book answer log h hrun hu => ⟨h.data_eq, h.givenBack_book hrun hu⟩,
    fun log s h hp => ⟨fun ho => ?_, fun ho hback => ?_⟩⟩
  · have hanswers := (h.legible_author hp ho).answers
    exact ⟨h.told_author ho, hanswers.find, hanswers.list⟩
  · exact ⟨h.told_book ho hback, h.find_book_iff hp ho, h.list_book_iff hp ho⟩

def grace : Author := ⟨⟨6⟩, "Grace"⟩

/-- A book by Grace, with its currency in small letters. -/
def pence : Book := ⟨⟨7⟩, "Pence", [grace.id], [], ⟨Float.ofInt 5, "gbp"⟩⟩

theorem pence_readsBack : pence.price.ReadsBack := Price.readsBack_iff.mpr fun _ => by decide +kernel

/-- Grace comes back as she is, and the book with its currency in capitals. -/
theorem grace_and_her_pence_read_back :
    let s := Store.empty.adding 1 grace
    let t := s.adding 2 pence
    let log := [recordOf (.insert pence) 2 s, recordOf (.insert grace) 1 .empty]
    Store.empty.Accepts 1 grace ⟨grace, ⟨1, 1, 0⟩⟩ s ∧ Run s [recordOf (.insert pence) 2 s] t ∧
      Untouched [recordOf (.insert pence) 2 s] "authors" grace.id ∧ grace.GivenBack ⟨grace, ⟨1, 1, 0⟩⟩ t ∧
      s.Accepts 2 pence ⟨pence, ⟨2, 2, 0⟩⟩ t ∧ Run t [] t ∧ Untouched [] "books" pence.id ∧
      pence.GivenBack ⟨pence, ⟨2, 2, 0⟩⟩ t ∧ ¬ pence.price.Valid ∧
      t.get Book pence.id = .ok (some ⟨{ pence with price := ⟨Float.ofInt 5, "GBP"⟩ }, ⟨2, 2, 0⟩⟩) ∧
      History log t ∧ Plain log ∧ Only Author log ∧ t.AuthorsGivenBack ∧
      Only Book log ∧ PricesReadBack log ∧ t.BooksGivenBack log ∧ ∃ answer, t.list Book ⟨0, 20⟩ = .ok answer := by
  intro s t log
  obtain ⟨hauthors, hbooks, hcollections⟩ := authors_and_valid_books_read_back
  have haccepts : Store.empty.Accepts 1 grace ⟨grace, ⟨1, 1, 0⟩⟩ s := .insert rfl
  have hrun : Run s [recordOf (.insert pence) 2 s] t := .call (.insert pence) 2 .stay
  have hu : Untouched [recordOf (.insert pence) 2 s] "authors" grace.id := by
    intro r hr verb
    obtain rfl := List.mem_singleton.mp hr
    cases verb <;> rfl
  have haccepts' : s.Accepts 2 pence ⟨pence, ⟨2, 2, 0⟩⟩ t := .insert rfl
  have hu' : Untouched [] "books" pence.id := List.forall_mem_nil _
  have hgrace := (hauthors _ s t 1 grace _ _ haccepts hrun hu).2
  have hpence := (hbooks s t t 2 pence ⟨pence, ⟨2, 2, 0⟩⟩ [] haccepts' .stay hu').2
  have hinvalid : ¬ pence.price.Valid := fun hvalid => absurd hvalid.capitals (by decide)
  have h : History log t := (History.start.call (.insert grace) 1).call (.insert pence) 2
  have hp : Plain log := by unfold Plain; decide
  have hoauthors : Only Author log := (Only.nil.insert 1 .empty grace).elsewhere 2 s (by decide)
  have hobooks : Only Book log := (Only.nil.elsewhere 1 .empty (by decide)).insert 2 s pence
  -- the only book that is there is written as this one is
  have honly : ∀ book : Book, Entry.of book ∈ live log → book.toJson = pence.toJson := by
    intro book hbook
    rcases List.mem_cons.mp hbook with heq | hbook
    · exact congrArg Entry.body heq
    · have hcollection : "books" = "authors" := congrArg Entry.collection (List.mem_singleton.mp hbook)
      exact absurd hcollection (by decide)
  have hback : PricesReadBack log := by
    intro book hbook
    have hbody := honly book hbook
    simp only [Book.toJson, Price.toJson, Json.Value.record.injEq, List.cons.injEq, Prod.mk.injEq, true_and,
      and_true] at hbody
    obtain ⟨-, -, -, -, hamount, -⟩ := hbody
    rw [Price.ReadsBack, hamount]
    exact pence_readsBack
  have hreadable : ∀ book : Book, Entry.of book ∈ live log → book.price.Readable := by
    intro book hbook
    have hdecode : Book.decode book.toJson = .ok { pence with price := ⟨Float.ofInt 5, "GBP"⟩ } := by
      rw [honly book hbook]
      rfl
    obtain ⟨price, hprice, -⟩ := Book.decode_toJson_iff.mp hdecode
    exact ⟨price, hprice⟩
  have hall := (hcollections log t h hp).2 hobooks hback
  exact ⟨haccepts, hrun, hu, hgrace, haccepts', .stay, hu', hpence, hinvalid, hpence.made pence_readsBack _ rfl, h, hp,
    hoauthors, (hcollections log t h hp).1 hoauthors, hobooks, hback, hall, hall.list.mpr hreadable _⟩

end Bookshop
