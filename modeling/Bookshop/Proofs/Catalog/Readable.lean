/-
  Bookshop.Proofs.Catalog.Readable — what is stored is in normal form, and can always be read.

  What a full write of a book leaves in its row is told by its request alone (`Change.ensures_written`). An
  operation is `Faultless` if it changes nothing and is stopped by no fault of the store but an outage; in a
  store all of whose rows are legible, every inquiry is (`Inquiry.faultless`).

  - `stored_resources_stay_readable`: all of this for every store that the catalog can come to.
-/

import Bookshop.Proofs.Catalog.Guarded
import Bookshop.Proofs.Catalog.Shown

namespace Bookshop

open CatalogM

/-! ## What is written -/

section

variable {α : Type} [Storable α] {p : Store → Prop} {a : α} {expected : Int}

theorem CatalogM.Ensures.and {β : Type} {m : CatalogM β} {q r : β → Store → Prop} (hq : m.Ensures p q)
    (hr : m.Ensures p r) : m.Ensures p fun b s => q b s ∧ r b s :=
  fun s t b hs hb => ⟨hq s t b hs hb, hr s t b hs hb⟩

theorem ensures_data_insert (q : α → Prop) (h : ∀ store, p store → q a) :
    (call (StoreM.insert a)).Ensures p fun row _ => q row.data := by
  refine ensures_attempt fun now store answer store' hs hi => ?_
  obtain ⟨_, -, -, rfl⟩ := Store.row?_of_insert hi
  exact h store hs

theorem ensures_data_update (q : α → Prop) (h : ∀ store, p store → q a) :
    (call (StoreM.update a expected)).Ensures p fun row _ => q row.data := by
  refine ensures_attempt fun now store answer store' hs hu => ?_
  obtain ⟨_, -, -, rfl⟩ := Store.row?_of_update hu
  exact h store hs

end

namespace Books

variable {p : Store → Prop} {request : Book.Request}

theorem ensures_data_create (id : Uuid) :
    (create id request).Ensures p fun row _ => request.toBook id = .ok row.data := by
  have hbook : (decided (request.toBook id)).Ensures p fun book _ => request.toBook id = .ok book :=
    ensures_decided fun _ _ _ hb => hb
  exact hbook.bind fun book => ensures_data_insert (request.toBook id = .ok ·) fun _ hb => hb

theorem ensures_data_update (id : Uuid) (expected : Int) :
    (update id expected request).Ensures Store.Sound fun row _ => request.toBook id = .ok row.data := by
  have hcurrent : (CatalogM.require Book id).Ensures Store.Sound fun current _ => current.id = id :=
    CatalogM.ensures_require fun _ _ hs hget => (hs.of_get books_kind hget).2
  refine hcurrent.bind fun current => ?_
  have hbook : (decided (request.toBook current.id)).Ensures (fun _ => current.id = id)
      fun book _ => request.toBook id = .ok book := by
    refine ensures_decided fun _ _ hid hb => ?_
    rw [← hid]
    exact hb
  exact hbook.bind fun book => Bookshop.ensures_data_update (request.toBook id = .ok ·) fun _ hb => hb

theorem ensures_data_put (id : Uuid) (pre : Preconditions) :
    (put id pre request).Ensures Store.Sound fun placed _ => request.toBook id = .ok placed.row.data := by
  rw [put_eq]
  exact ensures_placing (q := fun row _ => request.toBook id = .ok row.data) (ensures_data_create id)
    fun expected => ensures_data_update id expected

end Books

/-- The answer is the row at this place, and holds what the request asks for. -/
def Answer.Wrote (id : Uuid) (request : Book.Request) (answer : Answer) (s : Store) : Prop :=
  ∃ row : Stored Book, answer = .book row ∧ s.get Book id = .ok (some row) ∧ request.toBook id = .ok row.data

theorem wrote_of_has {id : Uuid} {request : Book.Request} {row : Stored Book} {s : Store}
    (h : s.Has row ∧ request.toBook id = .ok row.data) : (Answer.book row).Wrote id request s := by
  obtain ⟨-, hdata⟩ := Book.Request.toBook_eq_ok.mp h.2
  have hid : row.id = id := congrArg Book.id hdata
  refine ⟨row, rfl, ?_, h.2⟩
  rw [← hid]
  exact h.1

namespace Change

/-- The place and the request of a change that writes a whole book. -/
def book? : Change → Option (Uuid × Book.Request)
  | createBook id request | updateBook id _ request | putBook id _ request => some (id, request)
  | _ => none

theorem ensures_written {change : Change} (hd : change.Decoded) {id : Uuid} {request : Book.Request}
    (hb : change.book? = some (id, request)) : change.run.Ensures Store.Sound (Answer.Wrote id request) := by
  have written {m : CatalogM (Stored Book)}
      (hm : m.Ensures Store.Sound fun row s => s.Has row ∧ request.toBook id = .ok row.data) :
      (do return Answer.book (← m)).Ensures Store.Sound (Answer.Wrote id request) :=
    hm.bind fun row => ensures_pure fun _ h => wrote_of_has h
  cases change <;> cases hb <;> obtain ⟨v, hv⟩ := hd
  case createBook =>
    exact written ((Books.ensures_create (fun _ _ => Book.Request.valid_of_decode hv) id).and
      (Books.ensures_data_create id))
  case updateBook expected =>
    exact written ((Books.ensures_update (fun _ _ => Book.Request.valid_of_decode hv) id expected).and
      (Books.ensures_data_update id expected))
  case putBook pre =>
    have hput := (Books.ensures_put (Book.Request.valid_of_decode hv) id pre).and (Books.ensures_data_put id pre)
    exact hput.bind fun placed => ensures_pure fun _ h => wrote_of_has h

end Change

/-! ## What is asked -/

/-- In this session the store does not do every call, and this is what it answers instead. -/
def Session.Met (s : Session) (fault : StoreFault) : Prop :=
  ∃ n call outage, s.outages n call = some outage ∧ Failure.ofFault outage = .store fault

theorem Session.Quiet.not_met {s : Session} (h : s.Quiet) (fault : StoreFault) : ¬ s.Met fault := by
  rintro ⟨n, call, outage, ho, -⟩
  rw [h.outages_eq] at ho
  cases ho

namespace CatalogM

/-- In a store of which `p` holds, the operation changes nothing, and no fault of the store but an outage stops it. -/
def Faultless {β : Type} (p : Store → Prop) (m : CatalogM β) : Prop :=
  ∀ s : Session, p s.store → (m.on s).2.store = s.store ∧ (m.on s).2.outages = s.outages ∧
    ∀ fault, (m.on s).1 = .error (.store fault) → s.Met fault

variable {β γ : Type} {p : Store → Prop}

theorem faultless_pure (b : β) : Faultless p (pure b) := by
  intro s _
  refine ⟨rfl, rfl, fun fault h => ?_⟩
  cases h

theorem faultless_decided {result : Except Failure β} (h : ∀ fault, result ≠ .error (.store fault)) :
    (decided result).Faultless p :=
  fun _ _ => ⟨rfl, rfl, fun fault hr => absurd hr (h fault)⟩

theorem Faultless.bind {m : CatalogM β} {f : β → CatalogM γ} (hm : m.Faultless p) (hf : ∀ b, (f b).Faultless p) :
    Faultless p (m >>= f) := by
  intro s hs
  obtain ⟨hstore, houtages, herror⟩ := hm s hs
  rw [on_bind]
  cases hon : m.on s with
  | mk result t =>
    rw [hon] at hstore houtages herror
    cases result with
    | error e => exact ⟨hstore, houtages, fun fault h => herror fault (by cases h; rfl)⟩
    | ok b =>
      obtain ⟨hstore', houtages', herror'⟩ := hf b t (by rw [hstore]; exact hs)
      refine ⟨hstore'.trans hstore, houtages'.trans houtages, fun fault h => ?_⟩
      obtain ⟨n, c, outage, ho, hfault⟩ := herror' fault h
      exact ⟨n, c, outage, by rw [← houtages]; exact ho, hfault⟩

theorem faultless_ask {c : Call} {read : Store → Except StoreFault β} (h : ∀ store, p store → ∃ b, read store = .ok b) :
    (call (c.ask read)).Faultless p := by
  intro s hs
  obtain ⟨b, hb⟩ := h s.store hs
  rw [on_ask]
  cases ho : s.outages s.calls c with
  | some outage =>
    refine ⟨rfl, rfl, fun fault hf => ?_⟩
    exact ⟨s.calls, c, outage, ho, Except.error.inj hf⟩
  | none =>
    refine ⟨rfl, rfl, fun fault hf => ?_⟩
    rw [hb] at hf
    cases hf

theorem faultless_require {α : Type} [Storable α] (h : ∀ store, p store → store.Answers α) (id : Uuid) :
    (require α id).Faultless p := by
  refine (faultless_ask fun store hs => (h store hs).get id).bind fun found => ?_
  cases found with
  | some row => exact faultless_pure row
  | none => exact fun _ _ => ⟨rfl, rfl, fun fault hf => by cases hf⟩

end CatalogM

theorem mapM_ne_store {β γ : Type} {f : β → Except Failure γ} (h : ∀ b fault, f b ≠ .error (.store fault)) (bs : List β)
    (fault : StoreFault) : bs.mapM f ≠ .error (.store fault) := by
  induction bs with
  | nil => exact fun h => by cases h
  | cons b bs ih =>
    rw [List.mapM_cons]
    cases hb : f b with
    | error e =>
      intro he
      have hfail : f b = .error (.store fault) := hb.trans (by cases he; rfl)
      exact h b fault hfail
    | ok c =>
      cases hbs : bs.mapM f with
      | error e =>
        intro he
        have hfail : bs.mapM f = .error (.store fault) := hbs.trans (by cases he; rfl)
        exact ih hfail
      | ok cs => exact fun he => by cases he

theorem Genre.parse_ne_store (raw : String) (fault : StoreFault) : Genre.parse raw ≠ .error (.store fault) := by
  unfold parse
  dsimp only
  split
  · exact fun h => by cases h
  · exact fun h => by cases h

/-- Everything that clients read can be read. -/
structure Store.AnswersAll (s : Store) : Prop where
  authors : s.Answers Author
  books : s.Answers Book

theorem Store.Sound.answersAll {s : Store} (h : s.Sound) : s.AnswersAll :=
  ⟨(h.legible authors_kind).answers, (h.legible books_kind).answers⟩

section

variable {p : Store → Prop} (h : ∀ store, p store → store.AnswersAll)

include h

theorem Authors.faultless_findAll (ids : List Uuid) : (findAll ids).Faultless p := by
  cases ids with
  | nil => exact faultless_pure []
  | cons id ids => exact faultless_ask fun store hs => (h store hs).authors.getMany _

namespace Card

theorem faultless_resolve (books : List (Stored Book)) (embed : Embed) : (resolve books embed).Faultless p := by
  unfold resolve
  split
  · exact Authors.faultless_findAll h _
  · exact faultless_pure []

theorem faultless_require (id : Uuid) (embed : Embed) : (Card.require id embed).Faultless p :=
  (CatalogM.faultless_require (fun store hs => (h store hs).books) id).bind fun _ =>
    (faultless_resolve h _ embed).bind fun _ => faultless_pure _

theorem faultless_list (page : Window) (embed : Embed) : (Card.list page embed).Faultless p :=
  (faultless_ask fun store hs => (h store hs).books.list page).bind fun _ =>
    (faultless_resolve h _ embed).bind fun _ => faultless_pure _

end Card

namespace Search

omit h in
theorem Criterion.ofItem_ne_store (hasScore : Bool) (item : List Char) (fault : StoreFault) :
    ofItem hasScore item ≠ .error (.store fault) := by
  unfold ofItem
  dsimp only
  split
  · exact fun h => by cases h
  · split
    · exact fun h => by cases h
    · exact fun h => by cases h

omit h in
theorem Criterion.parseList_ne_store (hasScore : Bool) (raw : Option String) (fault : StoreFault) :
    parseList hasScore raw ≠ .error (.store fault) := by
  unfold parseList
  cases raw with
  | none => exact fun h => by cases h
  | some text =>
    dsimp only
    split
    · exact fun h => by cases h
    · exact mapM_ne_store (ofItem_ne_store hasScore) _ fault

theorem faultless_execute (plan : Plan) (criteria : List Criterion) (page : Window) :
    (execute plan criteria page).Faultless p :=
  (faultless_ask fun store hs => (h store hs).books.find _).bind fun _ =>
    (faultless_ask fun store hs => (h store hs).authors.getMany _).bind fun _ => faultless_pure _

theorem faultless_search (profile : Profile) (request : Request) : (search profile request).Faultless p := by
  have hgenres : ∀ fault, parseGenres request.genres ≠ .error (.store fault) :=
    fun fault => mapM_ne_store (fun code => Genre.parse_ne_store _) _ fault
  refine (faultless_decided hgenres).bind fun genres => ?_
  exact (faultless_decided (Criterion.parseList_ne_store _ _)).bind fun criteria => faultless_execute h _ criteria _

end Search

theorem Inquiry.faultless (inquiry : Inquiry) : inquiry.run.Faultless p := by
  have hauthors : ∀ store, p store → store.Answers Author := fun store hs => (h store hs).authors
  have hbooks : ∀ store, p store → store.Answers Book := fun store hs => (h store hs).books
  cases inquiry with
  | author id => exact (CatalogM.faultless_require hauthors id).bind fun _ => faultless_pure _
  | authors page => exact (faultless_ask fun store hs => (hauthors store hs).list page).bind fun _ => faultless_pure _
  | authorsOf ids => exact (Authors.faultless_findAll h ids).bind fun _ => faultless_pure _
  | book id => exact (CatalogM.faultless_require hbooks id).bind fun _ => faultless_pure _
  | books page => exact (faultless_ask fun store hs => (hbooks store hs).list page).bind fun _ => faultless_pure _
  | booksBy id => exact (faultless_ask fun store hs => (hbooks store hs).find _).bind fun _ => faultless_pure _
  | card id embed => exact (Card.faultless_require h id embed).bind fun _ => faultless_pure _
  | cards page embed => exact (Card.faultless_list h page embed).bind fun _ => faultless_pure _
  | search profile request => exact (Search.faultless_search h profile request).bind fun _ => faultless_pure _

end

/-! ## Every store that the catalog can come to -/

/-- The row holds an author with a trimmed name that is not blank, and reads as this author. -/
def Row.ReadsAuthor (row : Row) : Prop :=
  row.collection = "authors" ∧ ∃ author : Stored Author, row.read = .ok author ∧ author.id = row.id ∧ author.data.Normal

/-- The row holds a book in normal form, whose genres have different codes and whose currency is of capitals, and reads
as this book. -/
def Row.ReadsBook (row : Row) : Prop :=
  row.collection = "books" ∧ ∃ book : Stored Book, row.read = .ok book ∧ book.id = row.id ∧ book.data.Normal ∧
    (book.data.genres.map Genre.code).Nodup ∧ book.data.price.currency.toList.all Char.isUpper = true

theorem Row.Sound.reads {row : Row} (h : row.Sound) : row.ReadsAuthor ∨ row.ReadsBook := by
  cases h with
  | author author normal holds =>
    exact .inl ⟨holds.collection, ⟨author, row.metadata⟩, holds.read author.decode_toJson, holds.id.symm, normal⟩
  | book book normal holds =>
    exact .inr ⟨holds.collection, ⟨book, row.metadata⟩, holds.read (Book.decode_toJson normal.price), holds.id.symm,
      normal, Genre.nodup_codes normal.genres, normal.price.capitals⟩

/-- Every row is that of an author or a book in normal form. A full write of a book that succeeds leaves the title
trimmed and the lists of the request without repeats. Every read of the store is answered, whatever is asked, and a
client who asks for anything meets no fault of the store but that of a call which was not done. Amounts are taken to
read back from the text of a row (`Row.read`). -/
theorem stored_resources_stay_readable {s : Session} (h : Reachable s.store) :
    (∀ row ∈ s.store.rows, row.ReadsAuthor ∨ row.ReadsBook) ∧
    (∀ (change : Change) (id : Uuid) (request : Book.Request) (answer : Answer) (t : Session),
      change.Decoded → change.book? = some (id, request) → change.run.on s = (.ok answer, t) →
      ∃ row : Stored Book, answer = .book row ∧ t.store.get Book id = .ok (some row) ∧
        row.data =
          ⟨id, Text.trim request.title, request.authors.eraseDups, request.genres.eraseDups, request.price⟩) ∧
    s.store.Answers Author ∧ s.store.Answers Book ∧
    ∀ (inquiry : Inquiry) (fault : StoreFault), (inquiry.run.on s).1 = .error (.store fault) → s.Met fault := by
  have hs : s.store.Sound := h.sound
  have hall : s.store.AnswersAll := hs.answersAll
  refine ⟨fun row hm => (hs.rows row hm).reads, fun change id request answer t hd hb hrun => ?_, hall.authors, hall.books,
    fun inquiry => ?_⟩
  · obtain ⟨row, rfl, hget, hbook⟩ := Change.ensures_written hd hb s t answer hs hrun
    refine ⟨row, rfl, hget, ?_⟩
    rw [(Book.Request.toBook_eq_ok.mp hbook).2, distinct_eq_eraseDups, distinct_eq_eraseDups]
  · exact (inquiry.faultless (fun _ hs => hs.answersAll) s hs).2.2

/-- A request with blanks around its title, an author twice and a genre twice. -/
def untidyDiary : Book.Request := ⟨" Diary ", [ada, ⟨9⟩, ada], [.fiction, .fiction], notes.price⟩

theorem the_diary_is_stored_tidy :
    let create := Change.createBook ⟨4⟩ untidyDiary
    (∃ row : Stored Book, (create.run.on quietLibrary).2.store.get Book ⟨4⟩ = .ok (some row) ∧
      row.data = ⟨⟨4⟩, "Diary", [ada, ⟨9⟩], [.fiction], notes.price⟩) ∧
    ∀ (inquiry : Inquiry) (fault : StoreFault), (inquiry.run.on quietLibrary).1 ≠ .error (.store fault) := by
  intro create
  obtain ⟨-, hwritten, -, -, hasked⟩ := stored_resources_stay_readable (s := quietLibrary) reachable_library
  have hquiet : quietLibrary.Quiet := rfl
  refine ⟨?_, fun inquiry fault hfault => hquiet.not_met fault (hasked inquiry fault hfault)⟩
  obtain ⟨row, -, hget, hdata⟩ := hwritten create ⟨4⟩ untidyDiary _ _ ⟨untidyDiary.toJson, rfl⟩ rfl rfl
  exact ⟨row, hget, hdata⟩

end Bookshop
