/-
  Bookshop.Proofs.Catalog.Shown — the rows that clients are shown.

  An operation is a change or an inquiry. A change shows the row that it has written, an inquiry all the rows
  that it answers (`Operation.run`). Whatever a client is shown is a row of the store at that moment
  (`Operation.shows_what_is_there`).
-/

import Bookshop.Proofs.Catalog.Inquiries
import Bookshop.Proofs.Catalog.Reachable

namespace Bookshop

open CatalogM

/-! ## Operations -/

inductive Operation where
  | change (change : Change)
  | inquiry (inquiry : Inquiry)

namespace Operation

def Decoded : Operation → Prop
  | change c => c.Decoded
  | inquiry _ => True

def run : Operation → CatalogM (List Shown)
  | change c => do return (← c.run).shown
  | inquiry i => i.run

end Operation

/-! ## Rows of the store -/

/-- The row is in the store, just as it is here. -/
def Store.Has {α : Type} [Storable α] (s : Store) (row : Stored α) : Prop := s.get α row.id = .ok (some row)

theorem Store.Has.eq {α : Type} [Storable α] {s : Store} {x x' : Stored α} (h' : s.Has x') (hid : x'.id = x.id)
    (h : s.Has x) : x' = x := by
  rw [Store.Has, hid] at h'
  have heq : Except.ok (some x') = Except.ok (some x) := h'.symm.trans h
  cases heq
  rfl

def Shown.IsIn (s : Store) : Shown → Prop
  | author row => s.Has row
  | book row => s.Has row

def AllIn (rows : List Shown) (s : Store) : Prop := ∀ a ∈ rows, a.IsIn s

theorem allIn_singleton {a : Shown} {s : Store} : AllIn [a] s ↔ a.IsIn s := by
  simp [AllIn]

theorem allIn_authors {rows : List (Stored Author)} {s : Store} (h : ∀ row ∈ rows, s.Has row) :
    AllIn (rows.map .author) s := by
  intro a ha
  obtain ⟨row, hrow, rfl⟩ := List.mem_map.mp ha
  exact h row hrow

theorem allIn_books {rows : List (Stored Book)} {s : Store} (h : ∀ row ∈ rows, s.Has row) :
    AllIn (rows.map .book) s := by
  intro a ha
  obtain ⟨row, hrow, rfl⟩ := List.mem_map.mp ha
  exact h row hrow

/-! ## Changes -/

section

variable {α : Type} [Storable α]

theorem ensures_require {N : α → Prop} (hk : Kind α N) (id : Uuid) :
    (require α id).Ensures Store.Sound fun row s => s.Sound ∧ N row.data ∧ s.Has row := by
  refine CatalogM.ensures_require fun store row hs hget => ?_
  obtain ⟨hn, hid⟩ := hs.of_get hk hget
  exact ⟨hs, hn, by rw [Store.Has, hid]; exact hget⟩

theorem ensures_call_insert {p : Store → Prop} {a : α}
    (hd : ∀ store, p store → Storable.decode (Storable.encode a) = .ok a) :
    (call (StoreM.insert a)).Ensures p fun row s => s.Has row := by
  refine ensures_attempt fun now store answer store' hs hi => ?_
  obtain ⟨row, hr, hholds, rfl⟩ := Store.row?_of_insert hi
  exact Store.get_eq_some.mpr ⟨row, hr, hholds.read (hd store hs)⟩

theorem ensures_call_update {p : Store → Prop} {a : α} {expected : Int}
    (hd : ∀ store, p store → Storable.decode (Storable.encode a) = .ok a) :
    (call (StoreM.update a expected)).Ensures p fun row s => s.Has row := by
  refine ensures_attempt fun now store answer store' hs hu => ?_
  obtain ⟨row, hr, hholds, rfl⟩ := Store.row?_of_update hu
  exact Store.get_eq_some.mpr ⟨row, hr, hholds.read (hd store hs)⟩

end

namespace Books

variable {p : Store → Prop} {request : Book.Request}

theorem ensures_toBook (hp : ∀ store, p store → request.price.Valid) (id : Uuid) :
    (decided (request.toBook id)).Ensures p fun book _ => book.price.Valid :=
  ensures_decided fun store _ hs hb => (Book.Request.normal_toBook (hp store hs) hb).price

theorem ensures_create (hp : ∀ store, p store → request.price.Valid) (id : Uuid) :
    (create id request).Ensures p fun row s => s.Has row :=
  (ensures_toBook hp id).bind fun _ => ensures_call_insert fun _ hv => Book.decode_toJson hv

theorem ensures_update (hp : ∀ store, p store → request.price.Valid) (id : Uuid) (expected : Int) :
    (update id expected request).Ensures p fun row s => s.Has row :=
  ensures_require_same.bind fun _ => (ensures_toBook hp _).bind fun _ =>
    ensures_call_update fun _ hv => Book.decode_toJson hv

theorem ensures_put (hp : request.price.Valid) (id : Uuid) (pre : Preconditions) :
    (put id pre request).Ensures p fun placed s => s.Has placed.row := by
  rw [put_eq]
  exact ensures_placing (ensures_create (fun _ _ => hp) id) (ensures_update (fun _ _ => hp) id)

theorem ensures_patch {patch : Book.Patch} (hp : patch.Priced) (id : Uuid) (pre : Preconditions) :
    (Books.patch id pre patch).Ensures Store.Sound fun row s => s.Has row := by
  rw [patch_eq]
  have hrequire : (CatalogM.require Book id).Ensures Store.Sound fun row _ => row.data.Normal :=
    CatalogM.ensures_require fun _ _ hs hget => (hs.of_get books_kind hget).1
  exact ensures_patching hrequire fun current expected =>
    ensures_update (fun _ hn => hp.valid_merge hn.price) id expected

end Books

namespace Authors

variable {p : Store → Prop}

theorem ensures_create (id : Uuid) (request : Author.Request) :
    (create id request).Ensures p fun row s => s.Has row := by
  have hname : (decided request.checkedName).Ensures p fun _ => p := ensures_decided fun _ _ hs _ => hs
  exact hname.bind fun name => ensures_call_insert fun _ _ => Author.decode_toJson _

theorem ensures_update (id : Uuid) (expected : Int) (request : Author.Request) :
    (update id expected request).Ensures p fun row s => s.Has row :=
  ensures_require_same.bind fun _ => ensures_call_update fun _ _ => Author.decode_toJson _

theorem ensures_put (id : Uuid) (pre : Preconditions) (request : Author.Request) :
    (put id pre request).Ensures p fun placed s => s.Has placed.row := by
  rw [put_eq]
  exact ensures_placing (ensures_create id request) fun expected => ensures_update id expected request

theorem ensures_patch (id : Uuid) (pre : Preconditions) (patch : Author.Patch) :
    (Authors.patch id pre patch).Ensures p fun row s => s.Has row := by
  rw [patch_eq]
  exact ensures_patching ensures_require_same fun current expected => ensures_update id expected _

end Authors

theorem Change.ensures {change : Change} (hd : change.Decoded) :
    change.run.Ensures Store.Sound fun answer : Answer => AllIn answer.shown := by
  have author {m : CatalogM (Stored Author)} (hm : m.Ensures Store.Sound fun row s => s.Has row) :
      (do return Answer.author (← m)).Ensures Store.Sound fun answer : Answer => AllIn answer.shown :=
    hm.bind fun _ => ensures_pure fun _ h => allIn_singleton.mpr h
  have book {m : CatalogM (Stored Book)} (hm : m.Ensures Store.Sound fun row s => s.Has row) :
      (do return Answer.book (← m)).Ensures Store.Sound fun answer : Answer => AllIn answer.shown :=
    hm.bind fun _ => ensures_pure fun _ h => allIn_singleton.mpr h
  have gone (m : CatalogM Unit) :
      (do m; return Answer.gone).Ensures Store.Sound fun answer : Answer => AllIn answer.shown :=
    (ensures_true m).bind fun _ => ensures_pure fun _ _ a ha => absurd ha List.not_mem_nil
  cases change with
  | createAuthor id request => exact author (Authors.ensures_create id request)
  | updateAuthor id e request => exact author (Authors.ensures_update id e request)
  | deleteAuthor id e => exact gone _
  | putAuthor id p request =>
    exact (Authors.ensures_put id p request).bind fun _ => ensures_pure fun _ h => allIn_singleton.mpr h
  | patchAuthor id p patch => exact author (Authors.ensures_patch id p patch)
  | deleteAuthorGuarded id p => exact gone _
  | createBook id request =>
    obtain ⟨v, hv⟩ := hd
    exact book (Books.ensures_create (fun _ _ => Book.Request.valid_of_decode hv) id)
  | updateBook id e request =>
    obtain ⟨v, hv⟩ := hd
    exact book (Books.ensures_update (fun _ _ => Book.Request.valid_of_decode hv) id e)
  | deleteBook id e => exact gone _
  | putBook id p request =>
    obtain ⟨v, hv⟩ := hd
    exact (Books.ensures_put (Book.Request.valid_of_decode hv) id p).bind fun _ =>
      ensures_pure fun _ h => allIn_singleton.mpr h
  | patchBook id p patch =>
    obtain ⟨v, hv⟩ := hd
    exact book (Books.ensures_patch (Book.Patch.priced_of_decode hv) id p)
  | deleteBookGuarded id p => exact gone _

/-! ## Inquiries -/

section

variable {α : Type} [Storable α] {N : α → Prop} (hk : Kind α N)

include hk

theorem ensures_list (page : Window) :
    (call (StoreM.list α page)).Ensures Store.Sound fun answer s => s.Sound ∧ ∀ row ∈ answer.content, s.Has row :=
  ensures_ask fun _ _ hs hl => ⟨hs, hs.of_list hk hl⟩

theorem ensures_find (f : α → Bool) :
    (call (StoreM.find f)).Ensures Store.Sound fun found s => s.Sound ∧ ∀ row ∈ found, s.Has row := by
  refine ensures_ask fun store found hs hf => ⟨hs, fun row hrow => ?_⟩
  obtain ⟨all, hall, -, hmem⟩ := hs.find hk f
  rw [hall] at hf
  cases hf
  exact ((hmem row).mp hrow).2

end

theorem Authors.ensures_findAll {p : Store → Prop} (hp : ∀ store, p store → store.Sound) (ids : List Uuid) :
    (findAll ids).Ensures p fun found s => p s ∧ ∀ row ∈ found, s.Has row := by
  cases ids with
  | nil => exact ensures_pure fun _ hs => ⟨hs, fun _ h => absurd h List.not_mem_nil⟩
  | cons id ids => exact ensures_ask fun _ _ hs hg => ⟨hs, (hp _ hs).of_getMany authors_kind hg⟩

namespace Card

variable {s : Store} {found : List (Stored Author)}

theorem mem_of_mem_credited {book : Book} {row : Stored Author} (h : row ∈ credited found book) : row ∈ found := by
  obtain ⟨id, -, hf⟩ := List.mem_filterMap.mp h
  exact List.mem_of_find?_eq_some hf

/-- A card shows its book, and no author but those that were found. -/
theorem allIn_make (embed : Embed) {book : Stored Book} (hb : s.Has book) (hf : ∀ row ∈ found, s.Has row) :
    AllIn (make found embed book).shown s := by
  intro a ha
  unfold make at ha
  split at ha
  · next first rest _ hc =>
    rcases List.mem_cons.mp ha with rfl | ha
    · exact hb
    · obtain ⟨row, hrow, rfl⟩ := List.mem_map.mp ha
      exact hf row (mem_of_mem_credited (hc ▸ hrow))
  · obtain rfl := List.mem_singleton.mp ha
    exact hb

theorem ensures_resolve {p : Store → Prop} (hp : ∀ store, p store → store.Sound) (books : List (Stored Book))
    (embed : Embed) : (resolve books embed).Ensures p fun found s => p s ∧ ∀ row ∈ found, s.Has row := by
  unfold resolve
  split
  · exact Authors.ensures_findAll hp _
  · exact ensures_pure fun _ hs => ⟨hs, fun _ h => absurd h List.not_mem_nil⟩

theorem ensures_require (id : Uuid) (embed : Embed) :
    (Card.require id embed).Ensures Store.Sound fun card => AllIn card.shown := by
  refine (Bookshop.ensures_require books_kind id).bind fun book => ?_
  refine (ensures_resolve (fun _ hs => hs.1) [book] embed).bind fun found => ?_
  exact ensures_pure fun _ ⟨⟨_, _, hb⟩, hf⟩ => allIn_make embed hb hf

theorem ensures_list (page : Window) (embed : Embed) :
    (Card.list page embed).Ensures Store.Sound fun cards => AllIn (cards.content.flatMap Card.shown) := by
  refine (Bookshop.ensures_list books_kind page).bind fun books => ?_
  refine (ensures_resolve (fun _ hs => hs.1) books.content embed).bind fun found => ?_
  refine ensures_pure fun store ⟨⟨_, hb⟩, hf⟩ a ha => ?_
  obtain ⟨card, hcard, ha⟩ := List.mem_flatMap.mp ha
  obtain ⟨book, hbook, rfl⟩ := List.mem_map.mp hcard
  exact allIn_make embed (hb book hbook) hf a ha

end Card

namespace Search

theorem book_of_find? {plan : Plan} {names : List String} {book : Stored Book} {found : Found}
    (h : plan.find? names book = some found) : found.book = book := by
  unfold Plan.find? at h
  dsimp only at h
  split at h
  · cases h
    rfl
  · cases h

theorem ensures_execute (plan : Plan) (criteria : List Criterion) (page : Window) :
    (execute plan criteria page).Ensures Store.Sound fun found s => ∀ f ∈ found.content, s.Has f.book := by
  refine (ensures_find books_kind fun _ => true).bind fun books => ?_
  have hauthors : (call (StoreM.getMany Author (Card.authorIds books))).Ensures
      (fun s => s.Sound ∧ ∀ row ∈ books, s.Has row) fun _ s => ∀ row ∈ books, s.Has row :=
    ensures_ask fun _ _ hs _ => hs.2
  refine hauthors.bind fun authors => ensures_pure fun store hb f hf => ?_
  have hsorted := List.mem_of_mem_drop (List.mem_of_mem_take hf)
  rw [sortBy, List.mem_mergeSort] at hsorted
  obtain ⟨book, hbook, hfind⟩ := List.mem_filterMap.mp hsorted
  rw [book_of_find? hfind]
  exact hb book hbook

theorem ensures_search (profile : Profile) (request : Request) :
    (search profile request).Ensures Store.Sound fun found s => ∀ f ∈ found.content, s.Has f.book := by
  have hgenres : (decided (parseGenres request.genres)).Ensures Store.Sound fun _ => Store.Sound :=
    ensures_decided fun _ _ hs _ => hs
  have hcriteria (plan : Plan) :
      (decided (Criterion.parseList plan.hasScore request.sort)).Ensures Store.Sound fun _ => Store.Sound :=
    ensures_decided fun _ _ hs _ => hs
  exact hgenres.bind fun genres => (hcriteria _).bind fun criteria => ensures_execute _ criteria request.page

end Search

theorem Inquiry.ensures (inquiry : Inquiry) : inquiry.run.Ensures Store.Sound AllIn := by
  cases inquiry with
  | author id =>
    exact (ensures_require authors_kind id).bind fun _ => ensures_pure fun _ h => allIn_singleton.mpr h.2.2
  | authors page => exact (ensures_list authors_kind page).bind fun _ => ensures_pure fun _ h => allIn_authors h.2
  | authorsOf ids =>
    exact (Authors.ensures_findAll (fun _ hs => hs) ids).bind fun _ => ensures_pure fun _ h => allIn_authors h.2
  | book id => exact (ensures_require books_kind id).bind fun _ => ensures_pure fun _ h => allIn_singleton.mpr h.2.2
  | books page => exact (ensures_list books_kind page).bind fun _ => ensures_pure fun _ h => allIn_books h.2
  | booksBy id =>
    exact (ensures_find books_kind fun book => book.credits id).bind fun _ => ensures_pure fun _ h => allIn_books h.2
  | card id embed => exact (Card.ensures_require id embed).bind fun _ => ensures_pure fun _ h => h
  | cards page embed => exact (Card.ensures_list page embed).bind fun _ => ensures_pure fun _ h => h
  | search profile request =>
    refine (Search.ensures_search profile request).bind fun found => ensures_pure fun store h a ha => ?_
    obtain ⟨f, hf, rfl⟩ := List.mem_map.mp ha
    exact h f hf

/-! ## All operations -/

/-- Whatever an operation shows is in the store that it leaves. -/
theorem Operation.shows_what_is_there {operation : Operation} (hd : operation.Decoded) :
    operation.run.Ensures Store.Sound AllIn := by
  cases operation with
  | change c => exact (Change.ensures hd).bind fun _ => ensures_pure fun _ h => h
  | inquiry i => exact i.ensures

end Bookshop
