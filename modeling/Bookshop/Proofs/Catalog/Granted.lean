/-
  Bookshop.Proofs.Catalog.Granted — a write that its headers grant can fail by its payload alone.

  Where nothing fails but what the store itself refuses, and the headers grant a write of the row that is
  there, a PUT comes to an update at the version of the row (`on_placing_granted`), and so does a PATCH that
  sets something (`on_patching_granted`). Such an update is done unless a title is blank or a name is taken
  (`Authors.passes_update`, `Books.passes_update`), and a deletion is done.
-/

import Bookshop.Proofs.Catalog.Guarded
import Bookshop.Proofs.Catalog.Tags

namespace Bookshop

open CatalogM

/-! ## Headers that are granted -/

/-- The headers list this tag among digests in `If-Match`, in any of the forms that stand for it, and there is no
`If-None-Match`. -/
structure Preconditions.Carry (pre : Preconditions) (tag : EntityTag) : Prop where
  alone : pre.ifNoneMatch = none
  listed : ∃ header, pre.ifMatch = some header ∧ EntityTag.Digests header ∧
    ∃ item ∈ EntityTag.items header, EntityTag.StandsFor item tag.text.toList

theorem Preconditions.Carry.granted {pre : Preconditions} {id : Uuid} {version : Int}
    (h : pre.Carry (EntityTag.generate id version)) : pre.Granted id version := by
  obtain ⟨header, hheader, hdigests, hlisted⟩ := h.listed
  exact granted_of_digests hheader hdigests hlisted

theorem Preconditions.carry_tag (id : Uuid) (version : Int) :
    Preconditions.Carry { ifMatch := some (EntityTag.generate id version).text } (EntityTag.generate id version) := by
  refine ⟨rfl, _, rfl, fun item hitem => ?_, ?_⟩
  · rw [EntityTag.items_of_tag, List.mem_singleton] at hitem
    obtain ⟨digest, htext⟩ := EntityTag.text_generate id version
    rw [hitem]
    exact ⟨digest, EntityTag.standsFor_tag.mpr htext⟩
  · rw [EntityTag.items_of_tag]
    exact ⟨_, List.mem_singleton.mpr rfl, EntityTag.standsFor_tag.mpr rfl⟩

section

variable {α β : Type} [Storable α] {s : Session} {pre : Preconditions} {id : Uuid} {row : Stored α}
  (hq : s.Quiet) (hget : s.store.get α id = .ok (some row)) (hg : pre.Granted row.id row.version)

include hq hget hg

theorem on_guarded_granted : (guarded α id pre).on s = (.ok (row, row.version), s.called) := by
  rw [on_guarded hq hget, Preconditions.gateVersion_of_granted hg]
  rfl

theorem on_placing_granted (hn : pre.ifNoneMatch.map Text.trim ≠ some "*") (create : CatalogM (Stored α))
    (update : Int → CatalogM (Stored α)) :
    ((placing id pre create update).on s).1 = ((update row.version).on s.called).1.map .replaced := by
  have hpurpose : (decided pre.purpose).on s = (.ok .replace, s) := by
    rw [on_decided, Preconditions.purpose_of_header hg.hasIfMatch hn]
  have hrun : (placing id pre create update).on s = _ :=
    (on_bind_ok hpurpose).trans (on_bind_ok (on_guarded_granted hq hget hg))
  rw [hrun, on_map]

theorem on_patching_granted (isEmpty : Bool) (update : Stored α → Int → CatalogM β) :
    ((patching id pre isEmpty update).on s).1 =
      if isEmpty then .error .emptyPatch else ((update row row.version).on s.called).1 := by
  have hrun : (patching id pre isEmpty update).on s = _ := on_bind_ok (on_guarded_granted hq hget hg)
  rw [hrun]
  cases isEmpty <;> rfl

end

/-! ## Updates at the version of the row -/

namespace Authors

variable {s : Session} {pre : Preconditions} {id : Uuid} {row : Stored Author}

theorem passes_update (hs : s.store.Sound) (hq : s.Quiet) (hget : s.store.get Author id = .ok (some row))
    (request : Author.Request) : Passes ((update id row.version request).on s).1 := by
  obtain ⟨there, hr, hv⟩ := Store.row?_of_get hget
  exact (gated_update hs hq hr request row.version).current hv.symm

theorem on_deleteGuarded_granted (hq : s.Quiet) (hget : s.store.get Author id = .ok (some row))
    (hg : pre.Granted row.id row.version) : ((deleteGuarded id pre).on s).1 = .ok () := by
  obtain ⟨there, hr, hv⟩ := Store.row?_of_get hget
  have hrun : (deleteGuarded id pre).on s = _ := on_bind_ok (on_guarded_granted hq hget hg)
  rw [hrun]
  exact (on_delete_ok_iff id row.version s.called).mpr ⟨hq.outages_eq _ _, there, hr, hv⟩

end Authors

namespace Books

variable {s : Session} {pre : Preconditions} {id : Uuid} {row : Stored Book} {request : Book.Request}

/-- No other book can be in the way of one. -/
theorem on_update_titled (hs : s.store.Sound) (hq : s.Quiet) (hget : s.store.get Book id = .ok (some row))
    (ht : Text.isBlankText request.title = false) : ∃ written, ((update id row.version request).on s).1 = .ok written := by
  obtain rfl : row.id = id := (hs.of_get books_kind hget).2
  obtain ⟨book, hbook, hid⟩ := Book.Request.exists_toBook ht row.id
  obtain ⟨written, hwritten⟩ := Store.update_book hget book hid (s.clock (s.calls + 1))
  have hd : (decided (request.toBook row.id)).on s.called = (.ok book, s.called) := by rw [on_decided, hbook]
  have hrun : (update row.id row.version request).on s = _ :=
    (on_bind_ok (on_require_found (hq.outages_eq _ _) hget)).trans (on_bind_ok hd)
  have hcall : (call (StoreM.update book row.version)).on s.called = _ :=
    on_attempt_done (hq.called.outages_eq _ _) hwritten
  rw [hrun, hcall]
  exact ⟨written, rfl⟩

theorem on_update_untitled (hq : s.Quiet) (hget : s.store.get Book id = .ok (some row))
    (ht : Text.isBlankText request.title = true) (n : Int) : ((update id n request).on s).1 = .error .blankTitle := by
  have hrun : (update id n request).on s = _ := on_bind_ok (on_require_found (hq.outages_eq _ _) hget)
  have hbook : (decided (request.toBook row.id)).on s.called = (.error .blankTitle, s.called) := by
    rw [on_decided, Book.Request.toBook, if_pos ht]
  rw [hrun, on_bind_error hbook]

theorem on_deleteGuarded_granted (hq : s.Quiet) (hget : s.store.get Book id = .ok (some row))
    (hg : pre.Granted row.id row.version) : ((deleteGuarded id pre).on s).1 = .ok () := by
  obtain ⟨there, hr, hv⟩ := Store.row?_of_get hget
  have hdelete := Store.delete_eq_ok.mpr ⟨⟨there, hr, hv⟩, rfl⟩
  have hrun : (deleteGuarded id pre).on s = _ := on_bind_ok (on_guarded_granted hq hget hg)
  rw [hrun]
  have hcall : (delete id row.version).on s.called = _ :=
    on_attempt_done (hq.called.outages_eq _ _) (by rw [Session.called_store, hdelete]; rfl)
  rw [hcall]

end Books

end Bookshop
