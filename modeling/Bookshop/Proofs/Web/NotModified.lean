/-
  Bookshop.Proofs.Web.NotModified — what a reader may keep who is told that nothing has changed.

  The tag of a card is that of its book. So a reader who asks again with the tag, and is answered 304, has the
  book as it is; but the authors beside it have rows and versions of their own.

  - `not_modified_keeps_the_book`: the answer that the reader was spared has the same tag and the same book,
    and is the same altogether if the authors are not wanted or have not changed.
  - `a_tag_tells_nothing_of_the_authors`: Ada takes another name, and who has seen her beside the notes is told
    that nothing has changed.
-/

import Bookshop.Proofs.Web.Responses

namespace Bookshop.Web

open CatalogM

/-! ## Cards -/

section

variable {pre : Preconditions} {card : Card}

theorem ofCard_of_new (h : ¬ pre.alreadyHas card.book.tag = true) :
    Response.ofCard pre card = { Response.ofJson 200 card.toJson with etag := some card.book.tag } := by
  rw [Response.ofCard, if_neg h]

theorem ofCard_of_ok (h : (Response.ofCard pre card).status = 200) :
    Response.ofCard pre card = { Response.ofJson 200 card.toJson with etag := some card.book.tag } := by
  unfold Response.ofCard at h ⊢
  split at h
  · cases h
  · next hnew => rw [if_neg hnew]

theorem alreadyHas_of_notModified (h : (Response.ofCard pre card).status = 304) :
    pre.alreadyHas card.book.tag = true := by
  unfold Response.ofCard at h
  split at h
  · next hhas => exact hhas
  · cases h

end

/-! ## Asking again -/

def get (uri : String) (headers : List (String × String)) : Request := ⟨"GET", uri, headers, ""⟩

def having (tag : EntityTag) : List (String × String) := [("If-None-Match", tag.text)]

theorem ofCard_get (uri : String) (card : Card) : Response.ofCard (get uri []).preconditions card =
    { Response.ofJson 200 card.toJson with etag := some card.book.tag } :=
  ofCard_of_new Bool.false_ne_true

theorem alreadyHas_having (uri : String) (row row' : Stored Book) :
    (get uri (having row.tag)).preconditions.alreadyHas row'.tag = true ↔ row'.tag = row.tag := by
  rw [get, having, Stored.tag, Stored.tag, preconditions_of_ifNoneMatch, Preconditions.alreadyHas,
    EntityTag.isMatchedBy_tag]

theorem ofCard_having (uri : String) (card : Card) :
    Response.ofCard (get uri (having card.book.tag)).preconditions card = .notModified card.book.tag := by
  rw [Response.ofCard, if_pos ((alreadyHas_having uri card.book card.book).mpr rfl)]

section

variable {settings : Settings} {uri : String} {headers : List (String × String)} {raw : String}
  (hr : Route.ofSegments? (Target.parse uri).segments = some (.book raw)) {s : Session}

include hr

section

variable (hs : s.store.Sound) (hq : s.Quiet) {embed : Embed} (hembed : (Target.parse uri).embed = .ok embed) {id : Uuid}
  (hid : readId raw = .ok id) {book : Stored Book} (hget : s.store.get Book id = .ok (some book))

include hs hq hembed hid hget

theorem respond_getBook :
    ((respond settings (get uri headers)).run s).1 =
      .ofCard (get uri headers).preconditions (s.store.cardOf embed book) := by
  have ha : (Route.book raw).action? settings (Target.parse uri) (get uri headers) =
      some (getBook raw (Target.parse uri) (get uri headers).preconditions) := rfl
  have hm : (get uri headers).method ≠ "HEAD" := show "GET" ≠ "HEAD" by decide
  rw [on_respond hm hr ha, on_getBook hembed hid hs hq hget]
  rfl

theorem respond_get : ((respond settings (get uri [])).run s).1 =
    { Response.ofJson 200 (s.store.cardOf embed book).toJson with etag := some book.tag } := by
  rw [respond_getBook hr hs hq hembed hid hget, ofCard_get, Store.book_cardOf]

theorem respond_having : ((respond settings (get uri (having book.tag))).run s).1 = .notModified book.tag := by
  have hcard := ofCard_having uri (s.store.cardOf embed book)
  rw [Store.book_cardOf] at hcard
  rw [respond_getBook hr hs hq hembed hid hget, hcard]

end

/-- An answer below 400 is the card of a book of the store, which is as it was. -/
theorem card_of_respond (hs : s.store.Sound) {response : Response} {s' : Session}
    (hrun : (respond settings (get uri headers)).run s = (response, s')) (hstatus : response.status < 400) :
    s'.store = s.store ∧ ∃ embed id book, (Target.parse uri).embed = .ok embed ∧ readId raw = .ok id ∧
      s.store.get Book id = .ok (some book) ∧
      response = .ofCard (get uri headers).preconditions (s.store.cardOf embed book) := by
  have ha : (Route.book raw).action? settings (Target.parse uri) (get uri headers) =
      some (getBook raw (Target.parse uri) (get uri headers).preconditions) := rfl
  have hm : (get uri headers).method ≠ "HEAD" := show "GET" ≠ "HEAD" by decide
  have hon := on_action_of_status hm hr ha hrun hstatus
  have hstore : s'.store = s.store := by
    have hsame := readOnly_getBook raw (Target.parse uri) (get uri headers).preconditions s
    rw [hon] at hsame
    exact hsame
  obtain ⟨-, hcard⟩ := ensures_getBook_card (Target.parse uri) s s' response hs hon
  rw [hstore] at hcard
  exact ⟨hstore, hcard⟩

/-- A reader who has a row, and is answered 304, has the tag of the book that is there. -/
theorem tag_of_notModified (hs : s.store.Sound) {id : Uuid} (hid : readId raw = .ok id) {row : Stored Book}
    {response : Response} {s' : Session} (hrun : (respond settings (get uri (having row.tag))).run s = (response, s'))
    (hstatus : response.status = 304) : ∃ now, s.store.get Book id = .ok (some now) ∧ now.tag = row.tag := by
  obtain ⟨-, embed, _, now, -, hraw, hnow, rfl⟩ := card_of_respond hr hs hrun (by omega)
  obtain rfl := Except.ok.inj (hid.symm.trans hraw)
  have hhas := alreadyHas_of_notModified hstatus
  rw [Store.book_cardOf, alreadyHas_having] at hhas
  exact ⟨now, hnow, hhas⟩

end

/-- A reader has seen a book with its tag. Later in the run, the book having been there all the time, the reader is
told that what has this tag has not changed. Then the answer to who does not have the tag is the card of the same book,
with the same tag; and it is the same text if the authors are not wanted, or are as they were. Amounts are taken to read
back from the text of a row (`Row.read`). -/
theorem not_modified_keeps_the_book {settings : Settings} {s s' u u' w w' : Session} (h : Served settings s.store)
    {uri raw : String} (hr : Route.ofSegments? (Target.parse uri).segments = some (.book raw)) {id : Uuid}
    (hid : readId raw = .ok id) {headers : List (String × String)} {first again fresh : Response} {tag : EntityTag}
    (hfirst : (respond settings (get uri headers)).run s = (first, s')) (hstatus : first.status = 200)
    (htag : first.etag = some tag)
    (hrun : Requests settings (fun v => v.row? "books" id ≠ none) s'.store u.store)
    (hagain : (respond settings (get uri (having tag))).run u = (again, u')) (hstatus' : again.status = 304)
    (hx : ∀ old new, s'.store.row? "books" id = some old → u.store.row? "books" id = some new →
      EntityTag.NoCollision (EntityTag.subject id new.metadata.version) (EntityTag.subject id old.metadata.version))
    (hq : w.Quiet) (hw : w.store = u.store) (hfresh : (respond settings (get uri [])).run w = (fresh, w')) :
    ∃ embed book, (Target.parse uri).embed = .ok embed ∧ s'.store.get Book id = .ok (some book) ∧
      u.store.get Book id = .ok (some book) ∧ first.body = (s'.store.cardOf embed book).toJson.toText ∧
      fresh = { Response.ofJson 200 (u.store.cardOf embed book).toJson with etag := some tag } ∧
      ((embed.authors = true → ∀ author ∈ book.data.authors,
        u.store.found? Author author = s'.store.found? Author author) → fresh.body = first.body) := by
  have hsound : s.store.Sound := h.reachable.sound
  obtain ⟨hsame, embed, _, book, hembed, hraw, hget, rfl⟩ := card_of_respond hr hsound hfirst (by omega)
  obtain rfl := Except.ok.inj (hid.symm.trans hraw)
  rw [← hsame] at hsound hget hstatus htag ⊢
  -- the first answer tells the tag of the book
  rw [ofCard_of_ok hstatus] at htag ⊢
  rw [Store.book_cardOf] at htag
  obtain rfl : book.tag = tag := Option.some.inj htag
  -- the second tells that the book that is there then has this tag, so it is at this version, and as it was
  obtain ⟨old, (hold : s'.store.row? "books" id = some old), hversion⟩ := Store.row?_of_get hget
  obtain ⟨hmean, -⟩ := hrun.meanwhile (by rw [hold]; simp)
  have hu : u.store.Sound := hmean.sound hsound
  obtain ⟨now, hnow, hsametag⟩ := tag_of_notModified hr hu hid hagain hstatus'
  obtain ⟨new, (hnew : u.store.row? "books" id = some new), hversion'⟩ := Store.row?_of_get hnow
  rw [Stored.tag, Stored.tag, (hsound.of_get books_kind hget).2, (hu.of_get books_kind hnow).2, ← hversion, ← hversion',
    EntityTag.generate_inj (hx old new hold hnew)] at hsametag
  have hstill : u.store.get Book id = .ok (some book) := hmean.current hsound hget hnew (hsametag.2.trans hversion)
  have hplain : fresh = _ := (congrArg Prod.fst hfresh).symm.trans
    (respond_get hr (by rw [hw]; exact hu) hq hembed hid (by rw [hw]; exact hstill))
  rw [hw] at hplain
  refine ⟨embed, book, hembed, hget, hstill, rfl, hplain, fun hauthors => ?_⟩
  rw [hplain, Store.cardOf_congr hauthors]

/-! ## Ada takes another name -/

def notesOfAda : Book := { notes with authors := [ada] }

def theNotes : Stored Book := ⟨notesOfAda, ⟨2, 2, 0⟩⟩

def shelf : Session := beginning.after [.createAuthor ada ⟨"Ada"⟩, .createBook notes.id notesOfAda.likewise]

def lovelace : Author := ⟨ada, "Ada Lovelace"⟩

def lovelaceLater : Stored Author := ⟨lovelace, ⟨1, 3, 1⟩⟩

def renamedShelf : Session :=
  { shelf with calls := shelf.calls + 3, store := shelf.store.replacing (shelf.clock (shelf.calls + 2)) lovelace }

def putNotes : Request :=
  ⟨"PUT", "/api/books/00000000-0000-0000-0000-000000000002", [("If-None-Match", "*")],
    "[\"Notes\", [\"00000000-0000-0000-0000-000000000001\"], [], 5]"⟩

/-- The tag that Ada had at first lets her be renamed. -/
def renameAda : Request := ⟨"PATCH", putAda.uri, [("If-Match", adaAtFirst.tag.text)], "[\"Ada Lovelace\"]"⟩

def withAuthors : String := putNotes.uri ++ "?embed=authors"

theorem route_notes : Route.ofSegments? (Target.parse putNotes.uri).segments =
    some (.book "00000000-0000-0000-0000-000000000002") := by decide +kernel

theorem route_withAuthors : Route.ofSegments? (Target.parse withAuthors).segments =
    some (.book "00000000-0000-0000-0000-000000000002") := by decide +kernel

theorem readId_notes : readId "00000000-0000-0000-0000-000000000002" = .ok notes.id := rfl

theorem respond_putNotes : (respond {} putNotes).run (beginning.after [.createAuthor ada ⟨"Ada"⟩]) =
    (putResponse "/api/books/" (.created theNotes), shelf) := by
  have hbody : readBody Book.Request.decode putNotes.body = .ok notesOfAda.likewise :=
    readBody_eq_ok.mpr (by decide +kernel)
  have hpre : putNotes.preconditions = .forNew := by decide +kernel
  rw [on_respond (by decide) route_notes rfl, hpre, putBook, readId_notes, hbody]
  rfl

theorem served_shelf : Served {} shelf.store := by
  have hada : Served {} _ := Served.after (s := beginning) .start putAda
  rw [respond_putAda] at hada
  have hnotes := Served.after hada putNotes
  rw [respond_putNotes] at hnotes
  exact hnotes

theorem respond_renameAda : ∃ response, (respond {} renameAda).run shelf = (response, renamedShelf) := by
  have hbody : readBody Author.Patch.decode renameAda.body = .ok ⟨some "Ada Lovelace"⟩ :=
    readBody_eq_ok.mpr (by decide +kernel)
  have hroute : Route.ofSegments? (Target.parse renameAda.uri).segments =
      some (.author "00000000-0000-0000-0000-000000000001") := route_ada
  have hpre : renameAda.preconditions = { ifMatch := some adaAtFirst.tag.text } := preconditions_of_ifMatch _ _ _ ada 0
  have hquiet : shelf.Quiet := rfl
  have hget : shelf.store.get Author ada = .ok (some adaAtFirst) := rfl
  have hpatch : (Authors.patch ada { ifMatch := some adaAtFirst.tag.text } ⟨some "Ada Lovelace"⟩).on shelf =
      (.ok lovelaceLater, renamedShelf) := by
    rw [Authors.patch, on_bind_ok (on_guarded_of_tag hquiet hget rfl)]
    rfl
  have hread : (decided (readId "00000000-0000-0000-0000-000000000001")).on shelf = (.ok ada, shelf) := rfl
  have hdecided : (decided (readBody Author.Patch.decode renameAda.body)).on shelf =
      (.ok ⟨some "Ada Lovelace"⟩, shelf) := by rw [on_decided, hbody]
  rw [on_respond (by decide) hroute rfl, hpre, patchAuthor, on_bind_ok hread, on_bind_ok hdecided, on_bind_ok hpatch]
  exact ⟨_, rfl⟩

theorem served_renamedShelf : Served {} renamedShelf.store := by
  have hrenamed := Served.after served_shelf renameAda
  obtain ⟨response, hrun⟩ := respond_renameAda
  rw [hrun] at hrenamed
  exact hrenamed

/-- Ada is renamed between two reads, and the notes are there all the time. -/
theorem requests_renameAda :
    Requests {} (fun v => v.row? "books" notes.id ≠ none) shelf.store renamedShelf.store := by
  obtain ⟨response, hrun⟩ := respond_renameAda
  have hthere : renamedShelf.store.row? "books" notes.id ≠ none := by
    intro h
    cases h
  have hnext : Requests {} (fun v => v.row? "books" notes.id ≠ none) shelf.store
      ((respond {} renameAda).run shelf).2.store := .next renameAda .start (by rw [hrun]; exact hthere)
  rw [hrun] at hnext
  exact hnext

theorem get_theNotes : shelf.store.get Book notes.id = .ok (some theNotes) := rfl

theorem get_theNotes_later : renamedShelf.store.get Book notes.id = .ok (some theNotes) := rfl

section

variable {uri : String} {embed : Embed}
  (hr : Route.ofSegments? (Target.parse uri).segments = some (.book "00000000-0000-0000-0000-000000000002"))
  (hembed : (Target.parse uri).embed = .ok embed)

include hr hembed

theorem respond_get_shelf : ((respond {} (get uri [])).run shelf).1 =
    { Response.ofJson 200 (shelf.store.cardOf embed theNotes).toJson with etag := some theNotes.tag } :=
  respond_get hr served_shelf.reachable.sound (show shelf.Quiet from rfl) hembed readId_notes get_theNotes

theorem store_get_shelf : ((respond {} (get uri [])).run shelf).2.store = shelf.store := by
  have hok : ((respond {} (get uri [])).run shelf).1.status < 400 := by
    rw [respond_get_shelf hr hembed]
    exact show 200 < 400 by decide
  exact (card_of_respond hr served_shelf.reachable.sound (Prod.eta _).symm hok).1

theorem respond_having_renamedShelf :
    ((respond {} (get uri (having theNotes.tag))).run renamedShelf).1 = .notModified theNotes.tag :=
  respond_having hr served_renamedShelf.reachable.sound (show renamedShelf.Quiet from rfl) hembed readId_notes
    get_theNotes_later

end

/-- Who reads the notes without their authors may keep them when Ada is renamed. -/
theorem the_notes_are_as_they_were :
    let first := (respond {} (get putNotes.uri [])).run shelf
    let again := (respond {} (get putNotes.uri (having theNotes.tag))).run renamedShelf
    let fresh := (respond {} (get putNotes.uri [])).run renamedShelf
    again.1.status = 304 ∧ fresh.1.body = first.1.body := by
  have hembed : (Target.parse putNotes.uri).embed = .ok ⟨false⟩ := rfl
  have hquiet : renamedShelf.Quiet := rfl
  have hstore := store_get_shelf route_notes hembed
  have hok : ((respond {} (get putNotes.uri [])).run shelf).1.status = 200 := by
    rw [respond_get_shelf route_notes hembed]
    rfl
  have htag : ((respond {} (get putNotes.uri [])).run shelf).1.etag = some theNotes.tag := by
    rw [respond_get_shelf route_notes hembed]
  have hkept : ((respond {} (get putNotes.uri (having theNotes.tag))).run renamedShelf).1.status = 304 := by
    rw [respond_having_renamedShelf route_notes hembed]
    rfl
  have hx : ∀ old new, shelf.store.row? "books" notes.id = some old →
      renamedShelf.store.row? "books" notes.id = some new → EntityTag.NoCollision
        (EntityTag.subject notes.id new.metadata.version) (EntityTag.subject notes.id old.metadata.version) := by
    intro old new hold hnew
    cases hold
    cases hnew
    exact fun _ => rfl
  obtain ⟨embed, book, hembed', -, -, -, -, hsame⟩ := not_modified_keeps_the_book served_shelf route_notes readId_notes
    (Prod.eta _).symm hok htag (by rw [hstore]; exact requests_renameAda) (Prod.eta _).symm hkept
    (by rw [hstore]; exact hx) hquiet rfl (Prod.eta _).symm
  obtain rfl := Except.ok.inj (hembed.symm.trans hembed')
  exact ⟨hkept, hsame fun hwanted => absurd hwanted Bool.false_ne_true⟩

/-- Ada is renamed, and who has seen her beside the notes is told that nothing has changed. -/
theorem a_tag_tells_nothing_of_the_authors :
    let first := (respond {} (get withAuthors [])).run shelf
    let again := (respond {} (get withAuthors (having theNotes.tag))).run renamedShelf
    let fresh := (respond {} (get withAuthors [])).run renamedShelf
    Served {} shelf.store ∧ first.1.status = 200 ∧ first.1.etag = some theNotes.tag ∧
      Requests {} (fun v => v.row? "books" notes.id ≠ none) first.2.store renamedShelf.store ∧
      again.1.status = 304 ∧ fresh.1.status = 200 ∧ fresh.1.body ≠ first.1.body := by
  have hembed : (Target.parse withAuthors).embed = .ok ⟨true⟩ := rfl
  have hquiet : renamedShelf.Quiet := rfl
  have hbefore : shelf.store.cardOf ⟨true⟩ theNotes = ⟨theNotes, some [adaAtFirst]⟩ := rfl
  have hafter : renamedShelf.store.cardOf ⟨true⟩ theNotes = ⟨theNotes, some [lovelaceLater]⟩ := rfl
  have hchars : (Card.toJson ⟨theNotes, some [lovelaceLater]⟩).write ≠
      (Card.toJson ⟨theNotes, some [adaAtFirst]⟩).write := by decide +kernel
  dsimp only
  rw [store_get_shelf route_withAuthors hembed, respond_get_shelf route_withAuthors hembed,
    respond_having_renamedShelf route_withAuthors hembed,
    respond_get route_withAuthors served_renamedShelf.reachable.sound hquiet hembed readId_notes get_theNotes_later,
    hbefore, hafter]
  exact ⟨served_shelf, rfl, rfl, requests_renameAda, rfl, rfl, fun h => hchars (String.ofList_inj.mp h)⟩

end Bookshop.Web
