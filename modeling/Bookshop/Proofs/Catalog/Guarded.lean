/-
  Bookshop.Proofs.Catalog.Guarded — writes that are gated on the headers of a request.

  Where nothing fails but what the store itself refuses, a conditional write of a row that is there is settled
  by the `If-Match` header alone (`DecidedBy`): it goes through if the header grants it
  (`Preconditions.Granted`), is refused as unconditional without one, and as stale otherwise. Every such write
  first settles its version (`decidedBy_guarded`), and is then stopped by nothing but another version or a
  natural key that is taken (`Gated`).
-/

import Bookshop.Proofs.Catalog.Cascade
import Bookshop.Proofs.Catalog.IfMatch

namespace Bookshop

open CatalogM

/-! ## Quiet sessions -/

def Session.Quiet (s : Session) : Prop := s.outages = Session.noOutages

theorem Session.Quiet.outages_eq {s : Session} (h : s.Quiet) (n : Nat) (call : Call) : s.outages n call = none := by
  rw [h, Session.noOutages]

theorem Session.Quiet.called {s : Session} (h : s.Quiet) : s.called.Quiet := h

/-! ## Answers -/

section

variable {β γ : Type}

/-- The answer is not about headers or versions: the write was done, or its natural key is taken. -/
def Passes (answer : Except Failure β) : Prop := (∃ b, answer = .ok b) ∨ ∃ noun, answer = .error (.nameTaken noun)

def Denies (kind : Failure.Kind) (answer : Except Failure β) : Prop := ∃ f, answer = .error f ∧ f.kind = kind

/-- The answer of a write that asserts a version, on a row that is at another or at the same. -/
structure Gated (asserted actual : Int) (answer : Except Failure β) : Prop where
  current : asserted = actual → Passes answer
  stale : asserted ≠ actual → Denies .preconditionFailed answer

/-- The answer of a write on a row at a version, as the headers of the request settle it. -/
structure DecidedBy (p : Preconditions) (id : Uuid) (version : Int) (answer : Except Failure β) : Prop where
  passes : Passes answer ↔ p.Granted id version
  required : ¬ p.HasIfMatch → Denies .preconditionRequired answer
  failed : p.HasIfMatch → ¬ p.Granted id version → Denies .preconditionFailed answer

theorem Denies.not_passes {kind : Failure.Kind} {answer : Except Failure β} (h : Denies kind answer)
    (hk : kind ≠ .conflict) : ¬ Passes answer := by
  obtain ⟨f, rfl, rfl⟩ := h
  rintro (⟨b, hb⟩ | ⟨noun, hn⟩)
  · cases hb
  · cases hn
    exact hk rfl

theorem Passes.map {answer : Except Failure β} (h : Passes answer) (g : β → γ) : Passes (answer.map g) := by
  rcases h with ⟨b, rfl⟩ | ⟨noun, rfl⟩
  · exact .inl ⟨g b, rfl⟩
  · exact .inr ⟨noun, rfl⟩

theorem Denies.map {kind : Failure.Kind} {answer : Except Failure β} (h : Denies kind answer) (g : β → γ) :
    Denies kind (answer.map g) := by
  obtain ⟨f, rfl, hf⟩ := h
  exact ⟨f, rfl, hf⟩

theorem Gated.map {n v : Int} {answer : Except Failure β} (h : Gated n v answer) (g : β → γ) :
    Gated n v (answer.map g) :=
  ⟨fun hv => (h.current hv).map g, fun hv => (h.stale hv).map g⟩

theorem decidedBy_of {p : Preconditions} {id : Uuid} {version : Int} {answer : Except Failure β}
    (hg : p.Granted id version → Passes answer) (hr : ¬ p.HasIfMatch → Denies .preconditionRequired answer)
    (hf : p.HasIfMatch → ¬ p.Granted id version → Denies .preconditionFailed answer) :
    DecidedBy p id version answer := by
  refine ⟨⟨fun hp => ?_, hg⟩, hr, hf⟩
  by_contra hn
  by_cases hi : p.HasIfMatch
  · exact (hf hi hn).not_passes (by decide) hp
  · exact (hr hi).not_passes (by decide) hp

theorem DecidedBy.map {p : Preconditions} {id : Uuid} {version : Int} {answer : Except Failure β}
    (h : DecidedBy p id version answer) (g : β → γ) : DecidedBy p id version (answer.map g) :=
  decidedBy_of (fun hg => (h.passes.mpr hg).map g) (fun hi => (h.required hi).map g) (fun hi hn => (h.failed hi hn).map g)

theorem on_map (m : CatalogM β) (g : β → γ) (s : Session) :
    ((do return g (← m) : CatalogM γ).on s).1 = (m.on s).1.map g := by
  rw [on_bind]
  cases m.on s with
  | mk result s' => cases result <;> rfl

end

/-! ## Settling the version -/

section

variable {α β : Type} [Storable α] {N : α → Prop} {s : Session} {p : Preconditions} {id : Uuid} {row : Row}

theorem on_guarded {current : Stored α} (hq : s.Quiet) (hget : s.store.get α id = .ok (some current)) :
    (guarded α id p).on s = ((p.gateVersion current).map (fun n => (current, n)), s.called) := by
  have hr : (require α id).on s = (.ok current, s.called) := on_require_found (hq.outages_eq _ _) hget
  rw [guarded, on_bind_ok hr]
  cases hg : p.gateVersion current with
  | error f => rfl
  | ok n => rfl

theorem decidedBy_guarded (hs : s.store.Sound) (hq : s.Quiet) (hk : Kind α N)
    (hr : s.store.row? (Storable.collection α) id = some row) {k : Stored α × Int → CatalogM β}
    (hg : ∀ current n, N current.data → Gated n row.metadata.version ((k (current, n)).on s.called).1) :
    DecidedBy p id row.metadata.version ((guarded α id p >>= k).on s).1 := by
  obtain ⟨current, hn, rfl, hv, hget⟩ := hs.current hk hr
  have hrun := on_guarded (p := p) hq hget
  rw [← hv] at hg ⊢
  by_cases hi : p.HasIfMatch
  · rcases Preconditions.gateVersion_of_header hi current with ⟨n, hok, hiff⟩ | ⟨f, hf, hkind, hnot⟩
    · rw [hok] at hrun
      rw [on_bind_ok hrun]
      exact decidedBy_of (fun h => (hg current n hn).current (hiff.mpr h)) (fun h => absurd hi h)
        (fun _ h => (hg current n hn).stale fun hv => h (hiff.mp hv))
    · rw [hf] at hrun
      rw [on_bind_error hrun]
      exact decidedBy_of (fun h => absurd h hnot) (fun h => absurd hi h) (fun _ _ => ⟨f, rfl, hkind⟩)
  · rw [Preconditions.gateVersion_of_absent hi] at hrun
    rw [on_bind_error hrun]
    exact decidedBy_of (fun h => absurd h.hasIfMatch hi) (fun _ => ⟨_, rfl, rfl⟩) (fun h => absurd h hi)

/-- A PUT that does not ask for a new row settles whether there is a header first. -/
theorem decidedBy_placing (hs : s.store.Sound) (hq : s.Quiet) (hk : Kind α N)
    (hr : s.store.row? (Storable.collection α) id = some row) (hn : p.ifNoneMatch.map Text.trim ≠ some "*")
    {create : CatalogM (Stored α)} {update : Int → CatalogM (Stored α)}
    (hu : ∀ n, Gated n row.metadata.version ((update n).on s.called).1) :
    DecidedBy p id row.metadata.version ((placing id p create update).on s).1 := by
  by_cases hi : p.HasIfMatch
  · have hp : (decided p.purpose).on s = (.ok .replace, s) := by
      rw [on_decided, Preconditions.purpose_of_header hi hn]
    rw [placing, on_bind_ok hp]
    apply decidedBy_guarded hs hq hk hr
    intro current n _
    rw [on_map]
    exact (hu n).map _
  · have hp : (decided p.purpose).on s = (.error .ifMatchRequired, s) := by
      rw [on_decided, Preconditions.purpose_of_absent hi hn]
    rw [placing, on_bind_error hp]
    exact decidedBy_of (fun h => absurd h.hasIfMatch hi) (fun _ => ⟨_, rfl, rfl⟩) (fun h => absurd h hi)

theorem decidedBy_patching (hs : s.store.Sound) (hq : s.Quiet) (hk : Kind α N)
    (hr : s.store.row? (Storable.collection α) id = some row) {isEmpty : Bool} (he : isEmpty = false)
    {update : Stored α → Int → CatalogM β}
    (hu : ∀ current n, N current.data → Gated n row.metadata.version ((update current n).on s.called).1) :
    DecidedBy p id row.metadata.version ((patching id p isEmpty update).on s).1 := by
  subst he
  exact decidedBy_guarded hs hq hk hr hu

/-! ## Gated writes -/

theorem gated_call_update {a : α} (hq : s.Quiet)
    (hr : s.store.row? (Storable.collection α) (Storable.id a) = some row) (n : Int) :
    Gated n row.metadata.version ((call (StoreM.update a n)).on s).1 := by
  constructor
  · intro hv
    rcases Store.update_of_current hr hv.symm (s.clock s.calls) with ⟨x, hx⟩ | ⟨key, hx⟩
    · have h : (call (StoreM.update a n)).on s = _ := on_attempt_done (hq.outages_eq _ _) hx
      rw [h]
      exact .inl ⟨_, rfl⟩
    · have h : (call (StoreM.update a n)).on s = _ := on_attempt_refused (hq.outages_eq _ _) hx
      rw [h]
      exact .inr ⟨_, rfl⟩
  · intro hv
    have h : (call (StoreM.update a n)).on s = _ :=
      on_attempt_refused (hq.outages_eq _ _) (Store.update_of_stale hr hv.symm _)
    rw [h]
    exact ⟨_, rfl, rfl⟩

theorem gated_call_delete (hq : s.Quiet) (hr : s.store.row? (Storable.collection α) id = some row) (n : Int) :
    Gated n row.metadata.version ((call (StoreM.delete α id n)).on s).1 := by
  constructor
  · intro hv
    have hd := Store.delete_eq_ok.mpr ⟨⟨row, hr, hv.symm⟩, rfl⟩
    have h : (call (StoreM.delete α id n)).on s = _ := on_attempt_done (hq.outages_eq _ _) (by rw [hd]; rfl)
    rw [h]
    exact .inl ⟨_, rfl⟩
  · intro hv
    have h : (call (StoreM.delete α id n)).on s = _ :=
      on_attempt_refused (hq.outages_eq _ _) (by rw [Store.delete_of_stale hr hv.symm]; rfl)
    rw [h]
    exact ⟨_, rfl, rfl⟩

end

/-! ## Books -/

namespace Books

variable {s : Session} {p : Preconditions} {id : Uuid} {row : Row}

theorem gated_update (hs : s.store.Sound) (hq : s.Quiet) (hr : s.store.row? "books" id = some row)
    {request : Book.Request} (ht : Text.isBlankText request.title = false) (n : Int) :
    Gated n row.metadata.version ((update id n request).on s).1 := by
  obtain ⟨current, -, rfl, hv, hget⟩ := hs.current books_kind hr
  obtain ⟨written, hw, hid⟩ := Book.Request.exists_toBook ht current.data.id
  have hd : (decided (request.toBook current.data.id)).on s.called = (.ok written, s.called) := by rw [on_decided, hw]
  have hrun : (update current.id n request).on s = _ :=
    (on_bind_ok (on_require_found (hq.outages_eq _ _) hget)).trans (on_bind_ok hd)
  have hr' : s.called.store.row? "books" written.id = some row := by rw [hid]; exact hr
  rw [hrun]
  exact gated_call_update (a := written) hq.called hr' n

theorem decidedBy_put (hs : s.store.Sound) (hq : s.Quiet) (hr : s.store.row? "books" id = some row)
    (hn : p.ifNoneMatch.map Text.trim ≠ some "*") {request : Book.Request}
    (ht : Text.isBlankText request.title = false) : DecidedBy p id row.metadata.version ((put id p request).on s).1 := by
  rw [put_eq]
  exact decidedBy_placing hs hq books_kind hr hn fun n => gated_update (s := s.called) hs hq hr ht n

theorem decidedBy_patch (hs : s.store.Sound) (hq : s.Quiet) (hr : s.store.row? "books" id = some row)
    {patch : Book.Patch} (he : patch.isEmpty = false) :
    DecidedBy p id row.metadata.version ((Books.patch id p patch).on s).1 := by
  rw [patch_eq]
  exact decidedBy_patching hs hq books_kind hr he fun current n hb =>
    gated_update (s := s.called) hs hq hr (hb.titled_merge patch) n

theorem decidedBy_deleteGuarded (hs : s.store.Sound) (hq : s.Quiet) (hr : s.store.row? "books" id = some row) :
    DecidedBy p id row.metadata.version ((deleteGuarded id p).on s).1 :=
  decidedBy_guarded hs hq books_kind hr fun _ n _ => gated_call_delete (α := Book) (s := s.called) hq hr n

end Books

/-! ## Authors -/

namespace Authors

variable {s : Session} {p : Preconditions} {id : Uuid} {row : Row}

theorem gated_update (hs : s.store.Sound) (hq : s.Quiet) (hr : s.store.row? "authors" id = some row)
    (request : Author.Request) (n : Int) : Gated n row.metadata.version ((update id n request).on s).1 := by
  obtain ⟨current, -, rfl, hv, hget⟩ := hs.current authors_kind hr
  have hrun : (update current.id n request).on s = _ := on_bind_ok (on_require_found (hq.outages_eq _ _) hget)
  rw [hrun]
  exact gated_call_update (a := Author.mk current.id (renamed request current.data)) hq.called hr n

theorem gated_delete (hq : s.Quiet) (hr : s.store.row? "authors" id = some row) (n : Int) :
    Gated n row.metadata.version ((delete id n).on s).1 := by
  refine ⟨fun hv => .inl ⟨(), ?_⟩, fun hv => ?_⟩
  · exact (on_delete_ok_iff id n s).mpr ⟨hq.outages_eq _ _, row, hr, hv.symm⟩
  · have h : (delete id n).on s = _ :=
      on_bind_error (on_attempt_refused (hq.outages_eq _ _) (by rw [Store.delete_of_stale hr hv.symm]; rfl))
    rw [h]
    exact ⟨_, rfl, rfl⟩

theorem decidedBy_put (hs : s.store.Sound) (hq : s.Quiet) (hr : s.store.row? "authors" id = some row)
    (hn : p.ifNoneMatch.map Text.trim ≠ some "*") (request : Author.Request) :
    DecidedBy p id row.metadata.version ((put id p request).on s).1 := by
  rw [put_eq]
  exact decidedBy_placing hs hq authors_kind hr hn fun n => gated_update (s := s.called) hs hq hr request n

theorem decidedBy_patch (hs : s.store.Sound) (hq : s.Quiet) (hr : s.store.row? "authors" id = some row)
    {patch : Author.Patch} (he : patch.isEmpty = false) :
    DecidedBy p id row.metadata.version ((Authors.patch id p patch).on s).1 := by
  rw [patch_eq]
  exact decidedBy_patching hs hq authors_kind hr he fun _ n _ => gated_update (s := s.called) hs hq hr _ n

theorem decidedBy_deleteGuarded (hs : s.store.Sound) (hq : s.Quiet) (hr : s.store.row? "authors" id = some row) :
    DecidedBy p id row.metadata.version ((deleteGuarded id p).on s).1 :=
  decidedBy_guarded hs hq authors_kind hr fun _ n _ => gated_delete (s := s.called) hq hr n

end Authors

/-! ## Guarded changes -/

namespace Change

/-- The collection, the identifier and the headers of a change that is settled by its headers. -/
def guard? : Change → Option (String × Uuid × Preconditions)
  | putAuthor id p _ | patchAuthor id p _ | deleteAuthorGuarded id p => some ("authors", id, p)
  | putBook id p _ | patchBook id p _ | deleteBookGuarded id p => some ("books", id, p)
  | createAuthor .. | updateAuthor .. | deleteAuthor .. | createBook .. | updateBook .. | deleteBook .. => none

/-- The request has a title, or the patch something to change. -/
def Valid : Change → Prop
  | putBook _ _ request => Text.isBlankText request.title = false
  | patchAuthor _ _ patch => patch.isEmpty = false
  | patchBook _ _ patch => patch.isEmpty = false
  | _ => True

end Change

theorem guarded_write_is_decided_by_its_headers {s : Session} (h : Reachable s.store) (hq : s.Quiet) {change : Change}
    (hv : change.Valid) {collection : String} {id : Uuid} {p : Preconditions}
    (hg : change.guard? = some (collection, id, p)) (hn : p.ifNoneMatch.map Text.trim ≠ some "*") {row : Row}
    (hr : s.store.row? collection id = some row) : DecidedBy p id row.metadata.version (change.run.on s).1 := by
  cases change <;> cases hg <;> rw [Change.run, on_map]
  case putAuthor request => exact (Authors.decidedBy_put h.sound hq hr hn request).map _
  case patchAuthor patch => exact (Authors.decidedBy_patch h.sound hq hr hv).map _
  case deleteAuthorGuarded => exact (Authors.decidedBy_deleteGuarded h.sound hq hr).map _
  case putBook request => exact (Books.decidedBy_put h.sound hq hr hn hv).map _
  case patchBook patch => exact (Books.decidedBy_patch h.sound hq hr hv).map _
  case deleteBookGuarded => exact (Books.decidedBy_deleteGuarded h.sound hq hr).map _

/-! ## The notes are renamed -/

def quietLibrary : Session := { library with outages := Session.noOutages }

/-- Headers that list the wildcard, and a tag that tells the version of the notes. -/
def byVersion : Preconditions := { ifMatch := some "*, \"00000000-0000-0000-0000-000000000002:0\"" }

theorem granted_byVersion : byVersion.Granted notes.id 0 := by
  refine ⟨_, rfl, by decide, ⟨EntityTag.wildcard, by decide, .inl rfl⟩, .inl ?_⟩
  refine ⟨[EntityTag.wildcard], _, [], rfl, ⟨['0'], EntityTag.standsFor_iff.mpr ⟨by decide, by decide⟩, by decide⟩, ?_⟩
  rintro other ho n ⟨_, hstands, _⟩
  exact (EntityTag.standsFor_iff.mp hstands).1 (List.mem_singleton.mp ho)

theorem notes_are_renamed :
    Passes ((Change.patchBook notes.id byVersion ⟨some "Diary", none, none, none⟩).run.on quietLibrary).1 := by
  obtain ⟨row, hr, hv⟩ : ∃ row, quietLibrary.store.row? "books" notes.id = some row ∧ row.metadata.version = 0 :=
    ⟨_, rfl, rfl⟩
  have hvalid : (Change.patchBook notes.id byVersion ⟨some "Diary", none, none, none⟩).Valid := by
    unfold Change.Valid
    decide
  have h := guarded_write_is_decided_by_its_headers (s := quietLibrary) reachable_library rfl hvalid rfl (by decide) hr
  rw [hv] at h
  exact h.passes.mpr granted_byVersion

end Bookshop
