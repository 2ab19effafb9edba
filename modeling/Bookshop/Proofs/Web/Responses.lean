/-
  Bookshop.Proofs.Web.Responses — a response shows the row that is stored, and its tag can be used.

  What an action on one author or book answers is a row that the store has when the action ends, under the
  identifier of the path (`ensures_action`). A write that carries the tag of the row which is there is settled
  by its payload alone (`settled_action`).

  - `responses_show_stored_rows`: over every run of requests, the tag and the body of each answer are those of
    the row that is then read on its own, and the tag lets every later write of the row through, as long as
    the row is as it was shown.
-/

import Bookshop.Proofs.Catalog.Cards
import Bookshop.Proofs.Catalog.Granted
import Bookshop.Proofs.Catalog.Readable
import Bookshop.Proofs.Web.Requests

namespace Bookshop

open CatalogM

/-! ## Identifiers of what is written -/

namespace Authors

variable {p : Store → Prop}

theorem ensures_id_create (id : Uuid) (request : Author.Request) :
    (create id request).Ensures p fun row _ => row.id = id :=
  ensures_of_decided fun _ _ => ensures_data_insert (fun author : Author => author.id = id) fun _ _ => rfl

theorem ensures_id_update (id : Uuid) (expected : Int) (request : Author.Request) :
    (update id expected request).Ensures p fun row _ => row.id = id :=
  (ensures_true _).bind fun _ => ensures_data_update (fun author : Author => author.id = id) fun _ _ => rfl

theorem ensures_id_put (id : Uuid) (pre : Preconditions) (request : Author.Request) :
    (put id pre request).Ensures p fun placed _ => placed.row.id = id := by
  rw [put_eq]
  exact ensures_placing (q := fun row _ => row.id = id) (ensures_id_create id request)
    fun expected => ensures_id_update id expected request

theorem ensures_id_patch (id : Uuid) (pre : Preconditions) (patch : Author.Patch) :
    (Authors.patch id pre patch).Ensures p fun row _ => row.id = id := by
  rw [patch_eq]
  exact ensures_patching (ensures_true _) fun _ expected => ensures_id_update id expected _

end Authors

namespace Books

variable {request : Book.Request}

theorem id_of_toBook {id : Uuid} {book : Book} (h : request.toBook id = .ok book) : book.id = id := by
  rw [(Book.Request.toBook_eq_ok.mp h).2]

theorem ensures_id_put (id : Uuid) (pre : Preconditions) :
    (put id pre request).Ensures Store.Sound fun placed _ => placed.row.id = id := by
  intro s t placed hs hput
  exact id_of_toBook (ensures_data_put id pre s t placed hs hput)

theorem ensures_id_patch (id : Uuid) (pre : Preconditions) (patch : Book.Patch) :
    (Books.patch id pre patch).Ensures Store.Sound fun row _ => row.id = id := by
  rw [patch_eq]
  refine ensures_patching (q := fun _ => Store.Sound) ensures_require_same fun current expected s t row hs hrow => ?_
  exact id_of_toBook (ensures_data_update id expected s t row hs hrow)

end Books

/-- The fields of a row as clients see them: those of its value, and the metadata. -/
def Shown.members : Shown → List (String × Json.Value)
  | author row => row.data.toJson.members ++ [("metadata", row.metadata.toJson)]
  | book row => row.data.toJson.members ++ [("metadata", row.metadata.toJson)]

theorem Shown.exists_author {a : Shown} (h : a.collection = "authors") : ∃ row, a = author row := by
  cases a with
  | author row => exact ⟨row, rfl⟩
  | book row => exact absurd (show "books" = "authors" from h) (by decide)

theorem Shown.exists_book {a : Shown} (h : a.collection = "books") : ∃ row, a = book row := by
  cases a with
  | author row => exact absurd (show "authors" = "books" from h) (by decide)
  | book row => exact ⟨row, rfl⟩

theorem Shown.IsIn.congr {a : Shown} {s t : Store} (h : a.IsIn s)
    (hr : t.row? a.collection a.id = s.row? a.collection a.id) : a.IsIn t := by
  cases a with
  | author row => exact (Store.get_congr (α := Author) hr).trans h
  | book row => exact (Store.get_congr (α := Book) hr).trans h

def Shown.question : Shown → Inquiry
  | author row => .author row.id
  | book row => .book row.id

theorem Shown.IsIn.on_question {a : Shown} {s : Session} (h : a.IsIn s.store) (hq : s.Quiet) :
    (a.question.run.on s).1 = .ok [a] := by
  cases a with
  | author row =>
    rw [question, Inquiry.run, on_map, Authors.require, on_require_found (hq.outages_eq _ _) h]
    rfl
  | book row =>
    rw [question, Inquiry.run, on_map, Books.require, on_require_found (hq.outages_eq _ _) h]
    rfl

namespace Web

/-! ## What a response shows -/

/-- The response has the tag of the row, and its body is the text of a record with the fields of the row; besides them
there may only be what is embedded. -/
structure Response.Shows (response : Response) (a : Shown) : Prop where
  tag : response.etag = some (EntityTag.generate a.id a.version)
  body : ∃ more, (∀ m ∈ more, m.1 = "_embedded") ∧ response.body = (Json.Value.record (a.members ++ more)).toText

/-- If a row is answered, it is the one that the store has at this place. -/
def Response.ShowsStored (collection raw : String) (response : Response) (s : Store) : Prop :=
  response.status = 200 ∨ response.status = 201 →
    ∃ (id : Uuid) (a : Shown), readId raw = .ok id ∧ a.collection = collection ∧ a.id = id ∧ a.IsIn s ∧ response.Shows a

theorem shows_author (status : Nat) (row : Stored Author) : (rowResponse status row).Shows (.author row) :=
  ⟨rfl, [], by simp, rfl⟩

theorem shows_book (status : Nat) (row : Stored Book) : (rowResponse status row).Shows (.book row) :=
  ⟨rfl, [], by simp, rfl⟩

theorem shows_put_author (path : String) (placed : Placed (Stored Author)) :
    (putResponse path placed).Shows (.author placed.row) := by
  cases placed with
  | created row => exact ⟨(shows_author 201 row).tag, (shows_author 201 row).body⟩
  | replaced row => exact shows_author 200 row

theorem shows_put_book (path : String) (placed : Placed (Stored Book)) :
    (putResponse path placed).Shows (.book placed.row) := by
  cases placed with
  | created row => exact ⟨(shows_book 201 row).tag, (shows_book 201 row).body⟩
  | replaced row => exact shows_book 200 row

/-- A card with the tag of its book, for those who do not have it already. -/
def Response.ofCard (pre : Preconditions) (card : Card) : Response :=
  if pre.alreadyHas card.book.tag then .notModified card.book.tag
  else { Response.ofJson 200 card.toJson with etag := some card.book.tag }

theorem shows_card (card : Card) : Response.Shows { Response.ofJson 200 card.toJson with etag := some card.book.tag }
    (.book card.book) := by
  obtain ⟨book, authors⟩ := card
  cases authors with
  | none => exact ⟨rfl, [], by simp, rfl⟩
  | some authors =>
    exact ⟨rfl, [("_embedded", .record [("authors", .list (authors.map Stored.toJson))])], by simp, rfl⟩

theorem showsStored_notModified {collection raw : String} {tag : EntityTag} {s : Store} :
    (Response.notModified tag).ShowsStored collection raw s := by
  rintro (h | h) <;> cases h

/-! ## Actions on one row -/

/-- The collection and the identifier, as it is written in the path, of a route to one row. -/
def Route.place? : Route → Option (String × String)
  | author raw => some ("authors", raw)
  | book raw => some ("books", raw)
  | _ => none

theorem Route.place?_eq_some {route : Route} {collection raw : String} (h : route.place? = some (collection, raw)) :
    route = author raw ∧ collection = "authors" ∨ route = book raw ∧ collection = "books" := by
  cases route <;> cases h
  case author => exact .inl ⟨rfl, rfl⟩
  case book => exact .inr ⟨rfl, rfl⟩

section

variable {settings : Settings} {target : Target} {request : Request} {action : CatalogM Response} {raw : String}

theorem action_author (h : (Route.author raw).action? settings target request = some action) :
    request.method = "GET" ∧ action = getAuthor raw request.preconditions ∨
    request.method = "PUT" ∧ action = putAuthor raw request.preconditions request.body ∨
    request.method = "PATCH" ∧ action = patchAuthor raw request.preconditions request.body ∨
    request.method = "DELETE" ∧ action = deleteAuthor raw request.preconditions := by
  unfold Route.action? at h
  dsimp only at h
  split at h
  case h_3 he hm =>
    cases he
    exact .inl ⟨hm, (Option.some.inj h).symm⟩
  case h_4 he hm =>
    cases he
    exact .inr (.inl ⟨hm, (Option.some.inj h).symm⟩)
  case h_5 he hm =>
    cases he
    exact .inr (.inr (.inl ⟨hm, (Option.some.inj h).symm⟩))
  case h_6 he hm =>
    cases he
    exact .inr (.inr (.inr ⟨hm, (Option.some.inj h).symm⟩))
  case h_13 => cases h
  all_goals next he _ => cases he

theorem action_book (h : (Route.book raw).action? settings target request = some action) :
    request.method = "GET" ∧ action = getBook raw target request.preconditions ∨
    request.method = "PUT" ∧ action = putBook raw request.preconditions request.body ∨
    request.method = "PATCH" ∧ action = patchBook raw request.preconditions request.body ∨
    request.method = "DELETE" ∧ action = deleteBook raw request.preconditions := by
  unfold Route.action? at h
  dsimp only at h
  split at h
  case h_8 he hm =>
    cases he
    exact .inl ⟨hm, (Option.some.inj h).symm⟩
  case h_9 he hm =>
    cases he
    exact .inr (.inl ⟨hm, (Option.some.inj h).symm⟩)
  case h_10 he hm =>
    cases he
    exact .inr (.inr (.inl ⟨hm, (Option.some.inj h).symm⟩))
  case h_11 he hm =>
    cases he
    exact .inr (.inr (.inr ⟨hm, (Option.some.inj h).symm⟩))
  case h_13 => cases h
  all_goals next he _ => cases he

end

section

variable {raw : String} {pre : Preconditions} {body : String}

theorem ensures_getAuthor : (getAuthor raw pre).Ensures Store.Sound (Response.ShowsStored "authors" raw) := by
  refine ensures_of_decided fun id hid => ?_
  have hrow : (Authors.require id).Ensures Store.Sound fun row s => row.id = id ∧ s.Has row := by
    intro s t row hs hr
    obtain ⟨-, -, hhas⟩ := Bookshop.ensures_require authors_kind id s t row hs hr
    exact ⟨(hs.of_get authors_kind (of_on_require hr).1).2, hhas⟩
  refine hrow.bind fun row => ?_
  split
  · exact ensures_pure fun _ _ => showsStored_notModified
  · exact ensures_pure fun _ h _ => ⟨id, .author row, hid, rfl, h.1, h.2, shows_author 200 row⟩

theorem ensures_putAuthor : (putAuthor raw pre body).Ensures Store.Sound (Response.ShowsStored "authors" raw) := by
  refine ensures_of_decided fun id hid => ensures_of_decided fun request _ => ?_
  refine ((Authors.ensures_put id pre request).and (Authors.ensures_id_put id pre request)).bind fun placed => ?_
  exact ensures_pure fun _ h _ => ⟨id, .author placed.row, hid, rfl, h.2, h.1, shows_put_author _ placed⟩

theorem ensures_patchAuthor : (patchAuthor raw pre body).Ensures Store.Sound (Response.ShowsStored "authors" raw) := by
  refine ensures_of_decided fun id hid => ensures_of_decided fun patch _ => ?_
  refine ((Authors.ensures_patch id pre patch).and (Authors.ensures_id_patch id pre patch)).bind fun row => ?_
  exact ensures_pure fun _ h _ => ⟨id, .author row, hid, rfl, h.2, h.1, shows_author 200 row⟩

theorem getBook_eq (target : Target) : getBook raw target pre = (do
    let embed ← decided target.embed
    let id ← decided (readId raw)
    return .ofCard pre (← Card.require id embed) : CatalogM Response) := by
  unfold getBook Response.ofCard
  refine bind_congr fun embed => bind_congr fun id => bind_congr fun card => ?_
  split <;> rfl

theorem ensures_getBook_card (target : Target) :
    (getBook raw target pre).Ensures Store.Sound fun response s => s.Sound ∧
      ∃ embed id book, target.embed = .ok embed ∧ readId raw = .ok id ∧ s.get Book id = .ok (some book) ∧
        response = .ofCard pre (s.cardOf embed book) := by
  rw [getBook_eq]
  refine ensures_of_decided fun embed hembed => ensures_of_decided fun id hid => ?_
  have hcard := (Card.ensures_require_cardOf id embed).and (Card.readOnly_require id embed).ensures
  refine hcard.bind fun card => ensures_pure fun s h => ?_
  obtain ⟨⟨book, hget, rfl⟩, hs⟩ := h
  exact ⟨hs, embed, id, book, hembed, hid, hget, rfl⟩

theorem on_getBook {target : Target} {embed : Embed} (hembed : target.embed = .ok embed) {id : Uuid}
    (hid : readId raw = .ok id) {s : Session} (hs : s.store.Sound) (hq : s.Quiet) {book : Stored Book}
    (hget : s.store.get Book id = .ok (some book)) :
    ((getBook raw target pre).on s).1 = .ok (.ofCard pre (s.store.cardOf embed book)) := by
  have hdecided : (decided target.embed).on s = (.ok embed, s) := by rw [on_decided, hembed]
  have hread : (decided (readId raw)).on s = (.ok id, s) := by rw [on_decided, hid]
  rw [getBook_eq, on_bind_ok hdecided, on_bind_ok hread, on_map, Card.on_require (hs.legible authors_kind) hq hget]
  rfl

theorem ensures_getBook (target : Target) :
    (getBook raw target pre).Ensures Store.Sound (Response.ShowsStored "books" raw) := by
  intro s t response hs hresponse
  obtain ⟨ht, embed, id, book, -, hid, hget, rfl⟩ := ensures_getBook_card target s t response hs hresponse
  unfold Response.ofCard
  split
  · exact showsStored_notModified
  · intro _
    have hrow : book.id = id := (ht.of_get books_kind hget).2
    have hhas : t.store.Has book := by
      rw [Store.Has, hrow]
      exact hget
    have hshows := shows_card (t.store.cardOf embed book)
    rw [Store.book_cardOf] at hshows ⊢
    exact ⟨id, .book book, hid, rfl, hrow, hhas, hshows⟩

theorem ensures_putBook : (putBook raw pre body).Ensures Store.Sound (Response.ShowsStored "books" raw) := by
  refine ensures_of_decided fun id hid => ensures_of_decided fun request hbody => ?_
  obtain ⟨v, hv⟩ := exists_of_readBody hbody
  have hput := Books.ensures_put (p := Store.Sound) (Book.Request.valid_of_decode hv) id pre
  refine (hput.and (Books.ensures_id_put id pre)).bind fun placed => ?_
  exact ensures_pure fun _ h _ => ⟨id, .book placed.row, hid, rfl, h.2, h.1, shows_put_book _ placed⟩

theorem ensures_patchBook : (patchBook raw pre body).Ensures Store.Sound (Response.ShowsStored "books" raw) := by
  refine ensures_of_decided fun id hid => ensures_of_decided fun patch hbody => ?_
  obtain ⟨v, hv⟩ := exists_of_readBody hbody
  have hpatch := Books.ensures_patch (Book.Patch.priced_of_decode hv) id pre
  refine (hpatch.and (Books.ensures_id_patch id pre patch)).bind fun row => ?_
  exact ensures_pure fun _ h _ => ⟨id, .book row, hid, rfl, h.2, h.1, shows_book 200 row⟩

theorem ensures_gone {collection : String} {m : Uuid → CatalogM Unit} :
    (do
      let id ← decided (readId raw)
      m id
      return { status := 204 } : CatalogM Response).Ensures Store.Sound (Response.ShowsStored collection raw) := by
  refine ensures_of_decided fun id _ => (ensures_true _).bind fun _ => ensures_pure fun _ _ => ?_
  rintro (h | h) <;> cases h

end

/-- What an action on one row shows is the row that the store has when the action ends. -/
theorem ensures_action {settings : Settings} {route : Route} {target : Target} {request : Request}
    {action : CatalogM Response} (h : route.action? settings target request = some action) {collection raw : String}
    (hp : route.place? = some (collection, raw)) :
    action.Ensures Store.Sound (Response.ShowsStored collection raw) := by
  rcases Route.place?_eq_some hp with ⟨rfl, rfl⟩ | ⟨rfl, rfl⟩
  · rcases action_author h with ⟨-, rfl⟩ | ⟨-, rfl⟩ | ⟨-, rfl⟩ | ⟨-, rfl⟩
    · exact ensures_getAuthor
    · exact ensures_putAuthor
    · exact ensures_patchAuthor
    · exact ensures_gone
  · rcases action_book h with ⟨-, rfl⟩ | ⟨-, rfl⟩ | ⟨-, rfl⟩ | ⟨-, rfl⟩
    · exact ensures_getBook target
    · exact ensures_putBook
    · exact ensures_patchBook
    · exact ensures_gone

/-! ## Writes that nothing but their payload can stop -/

/-- What is wrong with the payload of a write. It does not matter which row the write is for. -/
def Route.payload (route : Route) (request : Request) : Except Failure Unit :=
  match route, request.method with
  | .author _, "PUT" => readBody Author.Request.decode request.body >>= fun _ => .ok ()
  | .author _, "PATCH" => readBody Author.Patch.decode request.body >>= fun patch =>
    if patch.isEmpty then .error .emptyPatch else .ok ()
  | .book _, "PUT" => readBody Book.Request.decode request.body >>= fun book =>
    if Text.isBlankText book.title then .error .blankTitle else .ok ()
  | .book _, "PATCH" => readBody Book.Patch.decode request.body >>= fun patch =>
    if patch.isEmpty then .error .emptyPatch else .ok ()
  | _, _ => .ok ()

/-- A payload with something wrong is refused for just that. With any other the write is done, and answered with this
status, or it gives an author a name that is taken. -/
def Response.SettledBy (response : Response) (payload : Except Failure Unit) (status : Nat) (named : Prop) : Prop :=
  match payload with
  | .error failure => response = .ofFailure failure
  | .ok _ => response.status = status ∨ named ∧ ∃ noun, response = .ofFailure (.nameTaken noun)

section

variable {status : Nat} {named : Prop}

theorem Response.SettledBy.imp {response : Response} {payload : Except Failure Unit}
    (h : response.SettledBy payload status named) {named' : Prop} (hn : named → named') :
    response.SettledBy payload status named' := by
  unfold SettledBy at h ⊢
  cases payload with
  | error failure => exact h
  | ok _ => exact h.imp_right fun h => ⟨hn h.1, h.2⟩

theorem settledBy_if {wrong : Bool} {failure : Failure} {response : Response}
    (ht : wrong = true → response = .ofFailure failure) (hf : wrong = false → response.SettledBy (.ok ()) status named) :
    response.SettledBy (if wrong then .error failure else .ok ()) status named := by
  cases wrong with
  | true => exact ht rfl
  | false => exact hf rfl

variable {s : Session} {raw body : String} {id : Uuid} (hid : readId raw = .ok id)

include hid

theorem settledBy_body {α β : Type} {decode : Json.Decoder α} {check : α → Except Failure Unit}
    {m : Uuid → α → CatalogM β} {respond : β → Response}
    (h : ∀ a, (Response.ofAnswer (((m id a).on s).1.map respond)).SettledBy (check a) status named) :
    (Response.ofAnswer ((do
      let id ← decided (readId raw)
      let a ← decided (readBody decode body)
      return respond (← m id a) : CatalogM Response).on s).1).SettledBy (readBody decode body >>= check) status named := by
  have hread : (decided (readId raw)).on s = (.ok id, s) := by rw [on_decided, hid]
  rw [on_bind_ok hread]
  cases hb : readBody decode body with
  | error failure =>
    have hbody : (decided (.error failure : Except Failure α)).on s = (.error failure, s) := on_decided _ s
    rw [on_bind_error hbody]
    rfl
  | ok a =>
    have hbody : (decided (.ok a : Except Failure α)).on s = (.ok a, s) := on_decided _ s
    rw [on_bind_ok hbody, on_map]
    exact h a

end

section

variable {s : Session} (hs : s.store.Sound) (hq : s.Quiet) {raw body : String} {pre : Preconditions}
  (hn : pre.ifNoneMatch = none)

include hq

section

variable {row : Stored Author} (hrow : s.store.Has row) (hg : pre.Granted row.id row.version)
  (hid : readId raw = .ok row.id)

include hrow hg hid

include hs hn in
theorem settled_putAuthor : (Response.ofAnswer ((putAuthor raw pre body).on s).1).SettledBy
    (readBody Author.Request.decode body >>= fun _ => .ok ()) 200 True := by
  refine settledBy_body hid fun request => ?_
  have hnew : pre.ifNoneMatch.map Text.trim ≠ some "*" := by simp [hn]
  rw [Authors.put_eq, on_placing_granted hq hrow hg hnew]
  rcases Authors.passes_update (s := s.called) hs hq hrow request with ⟨written, h⟩ | ⟨noun, h⟩
  · rw [h]
    exact .inl rfl
  · rw [h]
    exact .inr ⟨trivial, noun, rfl⟩

include hs in
theorem settled_patchAuthor : (Response.ofAnswer ((patchAuthor raw pre body).on s).1).SettledBy
    (readBody Author.Patch.decode body >>= fun patch => if patch.isEmpty then .error .emptyPatch else .ok ()) 200 True := by
  refine settledBy_body hid fun patch => ?_
  rw [Authors.patch_eq, on_patching_granted hq hrow hg]
  refine settledBy_if (fun he => ?_) fun he => ?_
  · rw [if_pos he]
    rfl
  · rw [if_neg (by simp [he])]
    rcases Authors.passes_update (s := s.called) hs hq hrow (patch.merge row.data) with ⟨written, h⟩ | ⟨noun, h⟩
    · rw [h]
      exact .inl rfl
    · rw [h]
      exact .inr ⟨trivial, noun, rfl⟩

theorem status_deleteAuthor : (Response.ofAnswer ((deleteAuthor raw pre).on s).1).status = 204 := by
  have hread : (decided (readId raw)).on s = (.ok row.id, s) := by rw [on_decided, hid]
  rw [deleteAuthor, on_bind_ok hread, on_map, Authors.on_deleteGuarded_granted hq hrow hg]
  rfl

end

section

variable {row : Stored Book} (hrow : s.store.Has row) (hg : pre.Granted row.id row.version)
  (hid : readId raw = .ok row.id)

include hrow hg hid

include hs hn in
theorem settled_putBook : (Response.ofAnswer ((putBook raw pre body).on s).1).SettledBy
    (readBody Book.Request.decode body >>= fun book => if Text.isBlankText book.title then .error .blankTitle else .ok ())
    200 False := by
  refine settledBy_body hid fun request => ?_
  have hnew : pre.ifNoneMatch.map Text.trim ≠ some "*" := by simp [hn]
  rw [Books.put_eq, on_placing_granted hq hrow hg hnew]
  refine settledBy_if (fun ht => ?_) fun ht => ?_
  · rw [Books.on_update_untitled (s := s.called) hq hrow ht]
    rfl
  · obtain ⟨written, h⟩ := Books.on_update_titled (s := s.called) hs hq hrow ht
    rw [h]
    exact .inl rfl

include hs in
theorem settled_patchBook : (Response.ofAnswer ((patchBook raw pre body).on s).1).SettledBy
    (readBody Book.Patch.decode body >>= fun patch => if patch.isEmpty then .error .emptyPatch else .ok ()) 200 False := by
  refine settledBy_body hid fun patch => ?_
  rw [Books.patch_eq, on_patching_granted hq hrow hg]
  refine settledBy_if (fun he => ?_) fun he => ?_
  · rw [if_pos he]
    rfl
  · have htitle := (hs.of_get books_kind hrow).1.titled_merge patch
    obtain ⟨written, h⟩ := Books.on_update_titled (s := s.called) hs hq hrow htitle
    rw [if_neg (by simp [he]), h]
    exact .inl rfl

theorem status_deleteBook : (Response.ofAnswer ((deleteBook raw pre).on s).1).status = 204 := by
  have hread : (decided (readId raw)).on s = (.ok row.id, s) := by rw [on_decided, hid]
  rw [deleteBook, on_bind_ok hread, on_map, Books.on_deleteGuarded_granted hq hrow hg]
  rfl

end

include hs in
/-- A write whose headers name the row that is there is settled by its payload. -/
theorem settled_action {settings : Settings} {route : Route} {target : Target} {request : Request}
    {action : CatalogM Response} (h : route.action? settings target request = some action)
    (hm : request.method = "PUT" ∨ request.method = "PATCH" ∨ request.method = "DELETE") {a : Shown}
    (hp : route.place? = some (a.collection, raw)) (hin : a.IsIn s.store) (hid : readId raw = .ok a.id)
    (hg : request.preconditions.Granted a.id a.version) (hn : request.preconditions.ifNoneMatch = none) :
    (Response.ofAnswer (action.on s).1).SettledBy (route.payload request) (if request.method = "DELETE" then 204 else 200)
      (a.collection = "authors" ∧ request.method ≠ "DELETE") := by
  have hget : request.method ≠ "GET" := by
    rcases hm with hm | hm | hm <;> rw [hm] <;> decide
  unfold Route.payload
  rcases Route.place?_eq_some hp with ⟨rfl, hcollection⟩ | ⟨rfl, hcollection⟩
  · obtain ⟨row, rfl⟩ := Shown.exists_author hcollection
    rcases action_author h with ⟨hmethod, rfl⟩ | ⟨hmethod, rfl⟩ | ⟨hmethod, rfl⟩ | ⟨hmethod, rfl⟩
    · exact absurd hmethod hget
    · rw [hmethod]
      exact (settled_putAuthor hs hq hn hin hg hid).imp fun _ => ⟨rfl, by decide⟩
    · rw [hmethod]
      exact (settled_patchAuthor hs hq hin hg hid).imp fun _ => ⟨rfl, by decide⟩
    · rw [hmethod]
      exact .inl (status_deleteAuthor hq hin hg hid)
  · obtain ⟨row, rfl⟩ := Shown.exists_book hcollection
    rcases action_book h with ⟨hmethod, rfl⟩ | ⟨hmethod, rfl⟩ | ⟨hmethod, rfl⟩ | ⟨hmethod, rfl⟩
    · exact absurd hmethod hget
    · rw [hmethod]
      exact (settled_putBook hs hq hn hin hg hid).imp False.elim
    · rw [hmethod]
      exact (settled_patchBook hs hq hin hg hid).imp False.elim
    · rw [hmethod]
      exact .inl (status_deleteBook hq hin hg hid)

end

/-! ## Every run -/

theorem exists_action (settings : Settings) (target : Target) {route : Route} {request : Request} {collection raw : String}
    (hp : route.place? = some (collection, raw)) (hm : request.method = "GET" ∨ request.method = "PUT" ∨
      request.method = "PATCH" ∨ request.method = "DELETE") :
    ∃ action, route.action? settings target request = some action := by
  unfold Route.action?
  rcases Route.place?_eq_some hp with ⟨rfl, -⟩ | ⟨rfl, -⟩
  · rcases hm with hm | hm | hm | hm <;> rw [hm] <;> exact ⟨_, rfl⟩
  · rcases hm with hm | hm | hm | hm <;> rw [hm] <;> exact ⟨_, rfl⟩

/-- The request is for the row at this place, by its path. -/
structure Request.IsFor (request : Request) (route : Route) (collection : String) (id : Uuid) : Prop where
  leads : Route.ofSegments? (Target.parse request.uri).segments = some route
  place : ∃ raw, route.place? = some (collection, raw) ∧ readId raw = .ok id

/-- Each answer with a row shows the row that is stored when the request is done: its tag and its body are those of the
row that is then read on its own, if amounts read back from the text of a row (`Row.read`). And as long as the row at
this place is the same, every write of it that carries the tag is settled by its payload. -/
theorem responses_show_stored_rows {settings : Settings} {s : Session} (h : Served settings s.store) {request : Request}
    (hm : request.method = "GET" ∨ request.method = "PUT" ∨ request.method = "PATCH") {route : Route}
    (hr : Route.ofSegments? (Target.parse request.uri).segments = some route) {collection raw : String}
    (hp : route.place? = some (collection, raw)) {response : Response} {s' : Session}
    (hrun : (respond settings request).run s = (response, s'))
    (hstatus : response.status = 200 ∨ response.status = 201) :
    ∃ (id : Uuid) (a : Shown), readId raw = .ok id ∧ a.collection = collection ∧ a.id = id ∧ response.Shows a ∧
      (∀ u : Session, u.Quiet → u.store = s'.store → (a.question.run.on u).1 = .ok [a]) ∧
      ∀ (u : Session) (write : Request) (route' : Route), Served settings u.store → u.Quiet →
        u.store.row? collection id = s'.store.row? collection id → write.IsFor route' collection id →
        write.method = "PUT" ∨ write.method = "PATCH" ∨ write.method = "DELETE" →
        (∃ tag, response.etag = some tag ∧ write.preconditions.Carry tag) →
        ((respond settings write).run u).1.SettledBy (route'.payload write) (if write.method = "DELETE" then 204 else 200)
          (collection = "authors" ∧ write.method ≠ "DELETE") := by
  have hhead : request.method ≠ "HEAD" := by
    rcases hm with hm | hm | hm <;> rw [hm] <;> decide
  obtain ⟨action, ha⟩ := exists_action settings (Target.parse request.uri) hp
    (hm.imp_right fun h => h.imp_right .inl)
  have hanswer := on_action_of_status hhead hr ha hrun (by omega)
  obtain ⟨id, a, hid, hcollection, rfl, hin, hshows⟩ :=
    ensures_action ha hp s s' response h.reachable.sound hanswer hstatus
  refine ⟨a.id, a, hid, hcollection, rfl, hshows, fun u hq hu => ?_,
    fun u write route' hserved hq hrow hfor hmethod hcarry => ?_⟩
  · refine Shown.IsIn.on_question ?_ hq
    rw [hu]
    exact hin
  · obtain ⟨tag, htag, hcarry⟩ := hcarry
    have hsame : tag = EntityTag.generate a.id a.version := Option.some.inj (htag.symm.trans hshows.tag)
    rw [hsame] at hcarry
    obtain ⟨raw', hplace, hraw⟩ := hfor.place
    have hwrite : write.method ≠ "HEAD" := by
      rcases hmethod with hm | hm | hm <;> rw [hm] <;> decide
    obtain ⟨update, hupdate⟩ := exists_action settings (Target.parse write.uri) hplace (.inr hmethod)
    rw [on_respond hwrite hfor.leads hupdate]
    rw [← hcollection] at hplace hrow ⊢
    exact settled_action hserved.reachable.sound hq hupdate hmethod hplace (hin.congr hrow) hraw
      hcarry.granted hcarry.alone

/-! ## Ada comes and goes -/

def putAda : Request :=
  ⟨"PUT", "/api/authors/00000000-0000-0000-0000-000000000001", [("If-None-Match", "*")], "[\"Ada\"]"⟩

def adaAtFirst : Stored Author := ⟨⟨ada, "Ada"⟩, ⟨1, 1, 0⟩⟩

theorem route_ada : Route.ofSegments? (Target.parse putAda.uri).segments =
    some (.author "00000000-0000-0000-0000-000000000001") := by decide +kernel

theorem readId_ada : readId "00000000-0000-0000-0000-000000000001" = .ok ada := rfl

theorem respond_putAda : (respond {} putAda).run beginning =
    (putResponse "/api/authors/" (.created adaAtFirst), beginning.after [.createAuthor ada ⟨"Ada"⟩]) := by
  have hbody : readBody Author.Request.decode putAda.body = .ok ⟨"Ada"⟩ := readBody_eq_ok.mpr (by decide +kernel)
  have hpre : putAda.preconditions = .forNew := by decide +kernel
  rw [on_respond (by decide) route_ada rfl, hpre, putAuthor, readId_ada, hbody]
  rfl

/-- The tag of the answer lets the client delete her. -/
theorem the_tag_of_ada_lets_her_go :
    let created := (respond {} putAda).run beginning
    let delete : Request := ⟨"DELETE", putAda.uri, [("If-Match", (EntityTag.generate ada 0).text)], ""⟩
    created.1.status = 201 ∧ ((respond {} delete).run created.2).1.status = 204 := by
  intro created delete
  have hcreated : created = _ := respond_putAda
  have hserved : Served {} created.2.store := Served.after (s := beginning) .start putAda
  have hcarry : delete.preconditions.Carry (EntityTag.generate ada 0) := by
    rw [preconditions_of_ifMatch]
    exact Preconditions.carry_tag ada 0
  rw [hcreated] at hserved ⊢
  obtain ⟨id, a, hraw, -, -, -, -, hwrites⟩ :=
    responses_show_stored_rows (s := beginning) .start (.inr (.inl rfl)) route_ada rfl respond_putAda (.inr rfl)
  obtain rfl : ada = id := Except.ok.inj (readId_ada.symm.trans hraw)
  have hsettled := hwrites _ delete _ hserved rfl rfl ⟨route_ada, _, rfl, readId_ada⟩ (.inr (.inr rfl)) ⟨_, rfl, hcarry⟩
  rcases hsettled with hdone | ⟨⟨-, hmethod⟩, -⟩
  · exact ⟨rfl, hdone⟩
  · exact absurd rfl hmethod

end Web

end Bookshop
