/-
  Bookshop.Proofs.Catalog.Changes — what clients may ask the catalog to change, and that a change which
  fails has changed nothing.

  Each operation reads, decides, and then makes one call that writes; so a failure is found before that
  call or is its refusal. The deletion of an author makes further calls after its first one, and none of
  them can make it fail (`Authors.sure_removeCredits`).
-/

import Bookshop.Catalog.Authors
import Bookshop.Proofs.Catalog.Calls

namespace Bookshop

open CatalogM

/-! ## Changes -/

inductive Change where
  | createAuthor (id : Uuid) (request : Author.Request)
  | updateAuthor (id : Uuid) (expected : Int) (request : Author.Request)
  | deleteAuthor (id : Uuid) (expected : Int)
  | putAuthor (id : Uuid) (preconditions : Preconditions) (request : Author.Request)
  | patchAuthor (id : Uuid) (preconditions : Preconditions) (patch : Author.Patch)
  | deleteAuthorGuarded (id : Uuid) (preconditions : Preconditions)
  | createBook (id : Uuid) (request : Book.Request)
  | updateBook (id : Uuid) (expected : Int) (request : Book.Request)
  | deleteBook (id : Uuid) (expected : Int)
  | putBook (id : Uuid) (preconditions : Preconditions) (request : Book.Request)
  | patchBook (id : Uuid) (preconditions : Preconditions) (patch : Book.Patch)
  | deleteBookGuarded (id : Uuid) (preconditions : Preconditions)

/-- What a change answers: the row it wrote, or that a row is gone. -/
inductive Answer where
  | author (row : Stored Author)
  | book (row : Stored Book)
  | gone

def Change.run : Change → CatalogM Answer
  | createAuthor id request => do return .author (← Authors.create id request)
  | updateAuthor id expected request => do return .author (← Authors.update id expected request)
  | deleteAuthor id expected => do Authors.delete id expected; return .gone
  | putAuthor id preconditions request => do return .author (← Authors.put id preconditions request).row
  | patchAuthor id preconditions patch => do return .author (← Authors.patch id preconditions patch)
  | deleteAuthorGuarded id preconditions => do Authors.deleteGuarded id preconditions; return .gone
  | createBook id request => do return .book (← Books.create id request)
  | updateBook id expected request => do return .book (← Books.update id expected request)
  | deleteBook id expected => do Books.delete id expected; return .gone
  | putBook id preconditions request => do return .book (← Books.put id preconditions request).row
  | patchBook id preconditions patch => do return .book (← Books.patch id preconditions patch)
  | deleteBookGuarded id preconditions => do Books.deleteGuarded id preconditions; return .gone

/-! ## Books -/

namespace Books

theorem allOrNothing_create (id : Uuid) (request : Book.Request) : (create id request).AllOrNothing :=
  (readOnly_decided _).bind_allOrNothing fun _ => allOrNothing_attempt _ _

theorem allOrNothing_update (id : Uuid) (expected : Int) (request : Book.Request) :
    (update id expected request).AllOrNothing :=
  (readOnly_require id).bind_allOrNothing fun _ =>
    (readOnly_decided _).bind_allOrNothing fun _ => allOrNothing_attempt _ _

theorem allOrNothing_delete (id : Uuid) (expected : Int) : (delete id expected).AllOrNothing :=
  allOrNothing_attempt _ _

theorem put_eq (id : Uuid) (p : Preconditions) (request : Book.Request) :
    put id p request = placing id p (create id request) (update id · request) := rfl

theorem patch_eq (id : Uuid) (p : Preconditions) (patch : Book.Patch) :
    Books.patch id p patch =
      patching id p patch.isEmpty (fun current expected => update id expected (patch.merge current.data)) := rfl

theorem allOrNothing_put (id : Uuid) (p : Preconditions) (request : Book.Request) :
    (put id p request).AllOrNothing := by
  rw [put_eq]
  exact allOrNothing_placing (allOrNothing_create id request) fun expected => allOrNothing_update id expected request

theorem allOrNothing_patch (id : Uuid) (p : Preconditions) (patch : Book.Patch) :
    (Books.patch id p patch).AllOrNothing := by
  rw [patch_eq]
  exact allOrNothing_patching fun _ expected => allOrNothing_update id expected _

theorem allOrNothing_deleteGuarded (id : Uuid) (p : Preconditions) : (deleteGuarded id p).AllOrNothing :=
  (readOnly_guarded id p).bind_allOrNothing fun (_, expected) => allOrNothing_delete id expected

end Books

/-! ## Authors -/

namespace Authors

theorem allOrNothing_create (id : Uuid) (request : Author.Request) : (create id request).AllOrNothing :=
  (readOnly_decided _).bind_allOrNothing fun _ => allOrNothing_attempt _ _

theorem allOrNothing_update (id : Uuid) (expected : Int) (request : Author.Request) :
    (update id expected request).AllOrNothing :=
  (readOnly_require id).bind_allOrNothing fun _ => allOrNothing_attempt _ _

/-- Taking an author from the credits of books leaves out what fails, and so never fails itself. -/
theorem sure_removeCredits (author : Uuid) (books : List (Stored Book)) : (removeCredits author books).Sure := by
  induction books with
  | nil => exact sure_pure ()
  | cons book rest ih => exact (sure_tryCatch _ fun _ => sure_pure ()).bind fun _ => ih

theorem allOrNothing_delete (id : Uuid) (expected : Int) : (delete id expected).AllOrNothing := by
  refine (allOrNothing_attempt _ _).bind_sure fun _ => ?_
  exact (sure_tryCatch _ fun _ => sure_pure []).bind fun books => sure_removeCredits id books

theorem put_eq (id : Uuid) (p : Preconditions) (request : Author.Request) :
    put id p request = placing id p (create id request) (update id · request) := rfl

theorem patch_eq (id : Uuid) (p : Preconditions) (patch : Author.Patch) :
    Authors.patch id p patch =
      patching id p patch.isEmpty (fun current expected => update id expected (patch.merge current.data)) := rfl

theorem allOrNothing_put (id : Uuid) (p : Preconditions) (request : Author.Request) :
    (put id p request).AllOrNothing := by
  rw [put_eq]
  exact allOrNothing_placing (allOrNothing_create id request) fun expected => allOrNothing_update id expected request

theorem allOrNothing_patch (id : Uuid) (p : Preconditions) (patch : Author.Patch) :
    (Authors.patch id p patch).AllOrNothing := by
  rw [patch_eq]
  exact allOrNothing_patching fun _ expected => allOrNothing_update id expected _

theorem allOrNothing_deleteGuarded (id : Uuid) (p : Preconditions) : (deleteGuarded id p).AllOrNothing :=
  (readOnly_guarded id p).bind_allOrNothing fun (_, expected) => allOrNothing_delete id expected

end Authors

theorem Change.allOrNothing (change : Change) : change.run.AllOrNothing := by
  cases change with
  | createAuthor id request => exact (Authors.allOrNothing_create id request).bind_sure fun _ => sure_pure _
  | updateAuthor id e request => exact (Authors.allOrNothing_update id e request).bind_sure fun _ => sure_pure _
  | deleteAuthor id e => exact (Authors.allOrNothing_delete id e).bind_sure fun _ => sure_pure _
  | putAuthor id p request => exact (Authors.allOrNothing_put id p request).bind_sure fun _ => sure_pure _
  | patchAuthor id p patch => exact (Authors.allOrNothing_patch id p patch).bind_sure fun _ => sure_pure _
  | deleteAuthorGuarded id p => exact (Authors.allOrNothing_deleteGuarded id p).bind_sure fun _ => sure_pure _
  | createBook id request => exact (Books.allOrNothing_create id request).bind_sure fun _ => sure_pure _
  | updateBook id e request => exact (Books.allOrNothing_update id e request).bind_sure fun _ => sure_pure _
  | deleteBook id e => exact (Books.allOrNothing_delete id e).bind_sure fun _ => sure_pure _
  | putBook id p request => exact (Books.allOrNothing_put id p request).bind_sure fun _ => sure_pure _
  | patchBook id p patch => exact (Books.allOrNothing_patch id p patch).bind_sure fun _ => sure_pure _
  | deleteBookGuarded id p => exact (Books.allOrNothing_deleteGuarded id p).bind_sure fun _ => sure_pure _

end Bookshop
