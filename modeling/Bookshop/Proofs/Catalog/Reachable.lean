/-
  Bookshop.Proofs.Catalog.Reachable — the stores that the catalog can come to.

  A store is reachable if it is left by any number of changes in a row, each with a request that was read
  from JSON, in a session with any outages and any clock; reading changes nothing and is left out.

  All that a change does to the store it does by atomic writes of values in normal form. So whatever such
  writes keep of sound stores (`KeptBy`), each change keeps, whether it fails or not (`Change.keeps`); and a
  change makes only writes of the kinds that it is for (`Change.verbs`). Every reachable store is sound
  (`Reachable.sound`).
-/

import Bookshop.Proofs.Catalog.Changes
import Bookshop.Proofs.Catalog.Sound
import Bookshop.Proofs.Store.History

namespace Bookshop

open CatalogM

/-- The request or patch of the change was read from JSON. -/
def Change.Decoded : Change → Prop
  | createAuthor _ request | updateAuthor _ _ request | putAuthor _ _ request =>
    ∃ v, Author.Request.decode v = .ok request
  | patchAuthor _ _ patch => ∃ v, Author.Patch.decode v = .ok patch
  | createBook _ request | updateBook _ _ request | putBook _ _ request => ∃ v, Book.Request.decode v = .ok request
  | patchBook _ _ patch => ∃ v, Book.Patch.decode v = .ok patch
  | deleteAuthor .. | deleteAuthorGuarded .. | deleteBook .. | deleteBookGuarded .. => True

inductive Reachable : Store → Prop
  | empty : Reachable Store.empty
  | change {s : Session} {change : Change} : Reachable s.store → change.Decoded → Reachable (change.run.on s).2.store

def Session.after (s : Session) (changes : List Change) : Session :=
  changes.foldl (fun s change => (change.run.on s).2) s

theorem Reachable.after {s : Session} {changes : List Change} (h : Reachable s.store)
    (hd : ∀ change ∈ changes, change.Decoded) : Reachable (s.after changes).store := by
  induction changes generalizing s with
  | nil => exact h
  | cons change rest ih =>
    obtain ⟨hc, hrest⟩ := List.forall_mem_cons.mp hd
    exact ih (Reachable.change h hc) hrest

/-! ## Single calls -/

/-- A value that is written is an author or a book in normal form. -/
def Write.Proper : Write → Prop
  | insert a => ∀ row : Row, row.Holds a → row.Sound
  | update a _ => ∀ row : Row, row.Holds a → row.Sound
  | delete .. => True

/-- Proper writes of these kinds keep what `p` says of a sound store. -/
structure KeptBy (verbs : List Verb) (p : Store → Prop) : Prop where
  sound : ∀ s, p s → s.Sound
  step : ∀ {w : Write} {now : Nat} {s s' : Store} {m : Option Metadata},
    w.verb ∈ verbs → w.Proper → p s → w.attempt now s = .ok (m, s') → p s'

theorem keptBy_sound (verbs : List Verb) : KeptBy verbs Store.Sound := by
  refine ⟨fun _ hs => hs, fun {w now s s' m} _ hw hs h => ?_⟩
  cases w with
  | insert a => obtain ⟨hn, -, rfl⟩ := attempt_insert h; exact hs.adding hw hn now
  | update a expected => obtain ⟨_, -, -, -, rfl⟩ := attempt_update h; exact hs.replacing hw now
  | delete α id expected => obtain ⟨_, -, -, -, rfl⟩ := attempt_delete h; exact hs.removing _ id

/-- Whether it fails or not, the operation keeps what `p` says of the store. -/
abbrev CatalogM.Preserves {α : Type} (m : CatalogM α) (p : Store → Prop) : Prop := m.Keeps p (fun _ => True)

section

variable {verbs : List Verb} {p : Store → Prop} {α : Type} [Storable α] {a : α} {id : Uuid} {expected : Int}

theorem KeptBy.call_insert (h : KeptBy verbs p) (hv : .insert ∈ verbs) (ha : ∀ row : Row, row.Holds a → row.Sound) :
    (call (StoreM.insert a)).Preserves p := by
  refine keeps_attempt fun now store answer store' hs hi => ⟨?_, trivial⟩
  exact h.step (w := .insert a) hv ha hs (by rw [Write.attempt, hi]; rfl)

theorem KeptBy.call_update (h : KeptBy verbs p) (hv : .update ∈ verbs) (ha : ∀ row : Row, row.Holds a → row.Sound) :
    (call (StoreM.update a expected)).Preserves p := by
  refine keeps_attempt fun now store answer store' hs hu => ⟨?_, trivial⟩
  exact h.step (w := .update a expected) hv ha hs (by rw [Write.attempt, hu]; rfl)

theorem KeptBy.call_delete (h : KeptBy verbs p) (hv : .delete ∈ verbs) :
    (call (StoreM.delete α id expected)).Preserves p := by
  refine keeps_attempt fun now store _ store' hs hd => ⟨?_, trivial⟩
  obtain ⟨t, ht, he⟩ := except_map_eq_ok.mp hd
  cases he
  have ha : (Write.delete α id expected).attempt now store = .ok (none, store') := by rw [Write.attempt, ht]; rfl
  exact h.step (w := .delete α id expected) hv trivial hs ha

theorem KeptBy.require (h : KeptBy verbs p) {N : α → Prop} (hk : Kind α N) (id : Uuid) :
    (require α id).Keeps p (fun current => N current.data) :=
  CatalogM.keeps_require fun store _ hs hf => ((h.sound store hs).of_get hk hf).1

end

/-! ## Books -/

section

variable {verbs : List Verb} {p : Store → Prop} (h : KeptBy verbs p)

include h

namespace Books

theorem keeps_create (hi : .insert ∈ verbs) {request : Book.Request} (hp : request.price.Valid) (id : Uuid) :
    (create id request).Preserves p :=
  (keeps_decided fun _ hb => hb).bind fun book hb =>
    h.call_insert hi fun _ => .book book (Book.Request.normal_toBook hp hb)

theorem keeps_update (hu : .update ∈ verbs) {request : Book.Request} (hp : request.price.Valid) (id : Uuid)
    (expected : Int) : (update id expected request).Preserves p :=
  (readOnly_require id).keeps.andThen fun _ => (keeps_decided fun _ hb => hb).bind fun book hb =>
    h.call_update hu fun _ => .book book (Book.Request.normal_toBook hp hb)

theorem keeps_put (hi : .insert ∈ verbs) (hu : .update ∈ verbs) {request : Book.Request} (hp : request.price.Valid)
    (id : Uuid) (pre : Preconditions) : (put id pre request).Preserves p := by
  rw [put_eq]
  exact keeps_placing (keeps_create h hi hp id) (keeps_update h hu hp id)

theorem keeps_patch (hu : .update ∈ verbs) {patch : Book.Patch} (hp : patch.Priced) (id : Uuid) (pre : Preconditions) :
    (Books.patch id pre patch).Preserves p := by
  rw [patch_eq]
  exact keeps_patching (h.require books_kind id) fun _ expected hc =>
    keeps_update h hu (hp.valid_merge hc.price) id expected

theorem keeps_deleteGuarded (hd : .delete ∈ verbs) (id : Uuid) (pre : Preconditions) :
    (deleteGuarded id pre).Preserves p :=
  (readOnly_guarded id pre).keeps.andThen fun (_, _) => h.call_delete hd

end Books

/-! ## Authors -/

namespace Authors

theorem keeps_create (hi : .insert ∈ verbs) (id : Uuid) (request : Author.Request) :
    (create id request).Preserves p :=
  (keeps_decided fun _ hn => hn).bind fun name hn =>
    h.call_insert hi fun _ => .author ⟨id, name⟩ (Author.normal_of_checkedName hn id)

omit h in
/-- A blank name keeps the one there is, which is in normal form already. -/
theorem normal_renamed {current : Author} (hc : current.Normal) (request : Author.Request) (id : Uuid) :
    (Author.mk id (renamed request current)).Normal := by
  unfold renamed
  cases hn : request.checkedName with
  | ok name => exact Author.normal_of_checkedName hn id
  | error f => exact ⟨hc.trimmed, hc.named⟩

theorem keeps_update (hu : .update ∈ verbs) (id : Uuid) (expected : Int) (request : Author.Request) :
    (update id expected request).Preserves p :=
  (h.require authors_kind id).bind fun _ hc =>
    h.call_update hu fun _ => .author _ (normal_renamed hc request id)

theorem keeps_removeCredit (hu : .update ∈ verbs) (author : Uuid) {book : Stored Book} (hb : book.data.Normal) :
    (removeCredit author book).Preserves p :=
  (Books.keeps_update h hu hb.price book.id book.version).andThen fun _ => keeps_pure trivial

theorem keeps_removeCredits (hu : .update ∈ verbs) (author : Uuid) {books : List (Stored Book)}
    (hn : ∀ book ∈ books, book.data.Normal) : (removeCredits author books).Preserves p := by
  induction books with
  | nil => exact keeps_pure trivial
  | cons book rest ih =>
    obtain ⟨hb, hrest⟩ := List.forall_mem_cons.mp hn
    exact ((keeps_removeCredit h hu author hb).tryCatch fun _ => keeps_pure trivial).andThen fun _ => ih hrest

theorem keeps_byAuthor (author : Uuid) :
    (Books.byAuthor author).Keeps p (fun found => ∀ book ∈ found, book.data.Normal) := by
  apply keeps_ask
  intro store found hs hf book hm
  obtain ⟨all, hall, -, hmem⟩ := (h.sound store hs).find books_kind (fun book => book.credits author)
  rw [hall] at hf
  cases hf
  exact ((h.sound store hs).of_get books_kind ((hmem book).mp hm).2).1

theorem keeps_delete (hu : .update ∈ verbs) (hd : .delete ∈ verbs) (id : Uuid) (expected : Int) :
    (delete id expected).Preserves p :=
  (h.call_delete hd).andThen fun _ =>
    ((keeps_byAuthor h id).tryCatch fun _ => keeps_pure (by simp)).bind fun _ hb => keeps_removeCredits h hu id hb

theorem keeps_put (hi : .insert ∈ verbs) (hu : .update ∈ verbs) (id : Uuid) (pre : Preconditions)
    (request : Author.Request) : (put id pre request).Preserves p := by
  rw [put_eq]
  exact keeps_placing (keeps_create h hi id request) fun expected => keeps_update h hu id expected request

theorem keeps_patch (hu : .update ∈ verbs) (id : Uuid) (pre : Preconditions) (patch : Author.Patch) :
    (Authors.patch id pre patch).Preserves p := by
  rw [patch_eq]
  exact keeps_patching (h.require authors_kind id) fun _ expected _ => keeps_update h hu id expected _

theorem keeps_deleteGuarded (hu : .update ∈ verbs) (hd : .delete ∈ verbs) (id : Uuid) (pre : Preconditions) :
    (deleteGuarded id pre).Preserves p :=
  (readOnly_guarded id pre).keeps.andThen fun (_, expected) => keeps_delete h hu hd id expected

end Authors

end

/-! ## Changes -/

def Change.verbs : Change → List Verb
  | createAuthor .. | createBook .. => [.insert]
  | putAuthor .. | putBook .. => [.insert, .update]
  | updateAuthor .. | patchAuthor .. | updateBook .. | patchBook .. => [.update]
  | deleteAuthor .. | deleteAuthorGuarded .. => [.update, .delete]
  | deleteBook .. | deleteBookGuarded .. => [.delete]

theorem Change.keeps {change : Change} (hd : change.Decoded) {p : Store → Prop} (h : KeptBy change.verbs p) :
    change.run.Preserves p := by
  have done {α : Type} {m : CatalogM α} (hm : m.Preserves p) (answer : α → Answer) :
      Preserves (do return answer (← m)) p := hm.andThen fun _ => keeps_pure trivial
  cases change with
  | createAuthor id request => exact done (Authors.keeps_create h (by simp [verbs]) id request) _
  | updateAuthor id e request => exact done (Authors.keeps_update h (by simp [verbs]) id e request) _
  | deleteAuthor id e => exact done (Authors.keeps_delete h (by simp [verbs]) (by simp [verbs]) id e) _
  | putAuthor id p request => exact done (Authors.keeps_put h (by simp [verbs]) (by simp [verbs]) id p request) _
  | patchAuthor id p patch => exact done (Authors.keeps_patch h (by simp [verbs]) id p patch) _
  | deleteAuthorGuarded id p => exact done (Authors.keeps_deleteGuarded h (by simp [verbs]) (by simp [verbs]) id p) _
  | createBook id request =>
    obtain ⟨v, hv⟩ := hd
    exact done (Books.keeps_create h (by simp [verbs]) (Book.Request.valid_of_decode hv) id) _
  | updateBook id e request =>
    obtain ⟨v, hv⟩ := hd
    exact done (Books.keeps_update h (by simp [verbs]) (Book.Request.valid_of_decode hv) id e) _
  | deleteBook id e => exact done (h.call_delete (α := Book) (by simp [verbs])) _
  | putBook id p request =>
    obtain ⟨v, hv⟩ := hd
    exact done (Books.keeps_put h (by simp [verbs]) (by simp [verbs]) (Book.Request.valid_of_decode hv) id p) _
  | patchBook id p patch =>
    obtain ⟨v, hv⟩ := hd
    exact done (Books.keeps_patch h (by simp [verbs]) (Book.Patch.priced_of_decode hv) id p) _
  | deleteBookGuarded id p => exact done (Books.keeps_deleteGuarded h (by simp [verbs]) id p) _

theorem Reachable.sound {s : Store} (h : Reachable s) : s.Sound := by
  induction h with
  | empty => exact Store.Sound.empty
  | change _ hd ih => exact (Change.keeps hd (keptBy_sound _) _ ih).1

end Bookshop
