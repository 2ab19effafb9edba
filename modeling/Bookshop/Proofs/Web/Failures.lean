/-
  Bookshop.Proofs.Web.Failures — a request that is answered with an error has changed nothing.

  An action that succeeds answers a status below 400, and one that fails has changed nothing
  (`action_proper`); so a status of 400 or more is that of a failed action, of a path that leads nowhere, or
  of a method that a route does not know (`respondTo_cases`), and in none of these has the store changed.
-/

import Bookshop.Proofs.Catalog.Inquiries
import Bookshop.Web.Routes

namespace Bookshop

open CatalogM

/-! ## Actions -/

namespace Web

theorem readOnly_getAuthor (raw : String) (p : Preconditions) : (getAuthor raw p).ReadOnly := by
  refine (readOnly_decided _).bind fun id => (readOnly_require id).bind fun author => ?_
  split <;> exact readOnly_pure _

theorem readOnly_getBook (raw : String) (target : Target) (p : Preconditions) : (getBook raw target p).ReadOnly := by
  refine (readOnly_decided _).bind fun embed => (readOnly_decided _).bind fun id => ?_
  apply (Card.readOnly_require id embed).bind
  intro card
  split <;> exact readOnly_pure _

theorem readOnly_listAuthors (settings : Settings) (target : Target) : (listAuthors settings target).ReadOnly :=
  (readOnly_decided _).bind fun _ => (readOnly_ask _ _).bind fun _ => readOnly_pure _

theorem readOnly_listBooks (settings : Settings) (target : Target) : (listBooks settings target).ReadOnly :=
  (readOnly_decided _).bind fun _ => (readOnly_decided _).bind fun _ =>
    (Card.readOnly_list _ _).bind fun _ => readOnly_pure _

theorem readOnly_searchBooks (settings : Settings) (target : Target) : (searchBooks settings target).ReadOnly :=
  (readOnly_decided _).bind fun _ => (Search.readOnly_search _ _).bind fun _ => readOnly_pure _

theorem allOrNothing_putAuthor (raw : String) (p : Preconditions) (body : String) :
    (putAuthor raw p body).AllOrNothing :=
  (readOnly_decided _).bind_allOrNothing fun id => (readOnly_decided _).bind_allOrNothing fun request =>
    (Authors.allOrNothing_put id p request).bind_sure fun _ => sure_pure _

theorem allOrNothing_patchAuthor (raw : String) (p : Preconditions) (body : String) :
    (patchAuthor raw p body).AllOrNothing :=
  (readOnly_decided _).bind_allOrNothing fun id => (readOnly_decided _).bind_allOrNothing fun patch =>
    (Authors.allOrNothing_patch id p patch).bind_sure fun _ => sure_pure _

theorem allOrNothing_deleteAuthor (raw : String) (p : Preconditions) : (deleteAuthor raw p).AllOrNothing :=
  (readOnly_decided _).bind_allOrNothing fun id =>
    (Authors.allOrNothing_deleteGuarded id p).bind_sure fun _ => sure_pure _

theorem allOrNothing_putBook (raw : String) (p : Preconditions) (body : String) :
    (putBook raw p body).AllOrNothing :=
  (readOnly_decided _).bind_allOrNothing fun id => (readOnly_decided _).bind_allOrNothing fun request =>
    (Books.allOrNothing_put id p request).bind_sure fun _ => sure_pure _

theorem allOrNothing_patchBook (raw : String) (p : Preconditions) (body : String) :
    (patchBook raw p body).AllOrNothing :=
  (readOnly_decided _).bind_allOrNothing fun id => (readOnly_decided _).bind_allOrNothing fun patch =>
    (Books.allOrNothing_patch id p patch).bind_sure fun _ => sure_pure _

theorem allOrNothing_deleteBook (raw : String) (p : Preconditions) : (deleteBook raw p).AllOrNothing :=
  (readOnly_decided _).bind_allOrNothing fun id =>
    (Books.allOrNothing_deleteGuarded id p).bind_sure fun _ => sure_pure _

theorem status_putResponse {α : Type} [Storable α] (path : String) (placed : Placed (Stored α)) :
    (putResponse path placed).status < 400 := by
  cases placed with
  | created row => exact (by decide : 201 < 400)
  | replaced row => exact (by decide : 200 < 400)

theorem status_getAuthor (raw : String) (p : Preconditions) : (getAuthor raw p).Yields (·.status < 400) := by
  refine Yields.bind fun id => Yields.bind fun author => ?_
  split
  · exact yields_pure (by decide : 304 < 400)
  · exact yields_pure (by decide : 200 < 400)

theorem status_getBook (raw : String) (target : Target) (p : Preconditions) :
    (getBook raw target p).Yields (·.status < 400) := by
  refine Yields.bind fun embed => Yields.bind fun id => Yields.bind fun card => ?_
  split
  · exact yields_pure (by decide : 304 < 400)
  · exact yields_pure (by decide : 200 < 400)

/-- An action that fails has changed nothing, and one that succeeds answers a status below 400. -/
theorem action_proper {settings : Settings} {route : Route} {target : Target} {request : Request}
    {action : CatalogM Response} (h : route.action? settings target request = some action) :
    action.AllOrNothing ∧ action.Yields (·.status < 400) := by
  unfold Route.action? at h
  dsimp only at h
  have ok : (200 : Nat) < 400 := by decide
  have gone : (204 : Nat) < 400 := by decide
  split at h
  · obtain rfl := Option.some.inj h
    exact ⟨(readOnly_pure _).allOrNothing, yields_pure ok⟩
  · obtain rfl := Option.some.inj h
    exact ⟨(readOnly_listAuthors settings target).allOrNothing, .bind fun _ => .bind fun _ => yields_pure ok⟩
  · obtain rfl := Option.some.inj h
    exact ⟨(readOnly_getAuthor _ _).allOrNothing, status_getAuthor _ _⟩
  · obtain rfl := Option.some.inj h
    exact ⟨allOrNothing_putAuthor _ _ _,
      .bind fun _ => .bind fun _ => .bind fun placed => yields_pure (status_putResponse _ placed)⟩
  · obtain rfl := Option.some.inj h
    exact ⟨allOrNothing_patchAuthor _ _ _, .bind fun _ => .bind fun _ => .bind fun _ => yields_pure ok⟩
  · obtain rfl := Option.some.inj h
    exact ⟨allOrNothing_deleteAuthor _ _, .bind fun _ => .bind fun _ => yields_pure gone⟩
  · obtain rfl := Option.some.inj h
    exact ⟨(readOnly_listBooks settings target).allOrNothing,
      .bind fun _ => .bind fun _ => .bind fun _ => yields_pure ok⟩
  · obtain rfl := Option.some.inj h
    exact ⟨(readOnly_getBook _ target _).allOrNothing, status_getBook _ target _⟩
  · obtain rfl := Option.some.inj h
    exact ⟨allOrNothing_putBook _ _ _,
      .bind fun _ => .bind fun _ => .bind fun placed => yields_pure (status_putResponse _ placed)⟩
  · obtain rfl := Option.some.inj h
    exact ⟨allOrNothing_patchBook _ _ _, .bind fun _ => .bind fun _ => .bind fun _ => yields_pure ok⟩
  · obtain rfl := Option.some.inj h
    exact ⟨allOrNothing_deleteBook _ _, .bind fun _ => .bind fun _ => yields_pure gone⟩
  · obtain rfl := Option.some.inj h
    exact ⟨(readOnly_searchBooks settings target).allOrNothing, .bind fun _ => .bind fun _ => yields_pure ok⟩
  · cases h

/-! ## Responses -/

/-- A path that leads nowhere, or a method that its route does not know, touches nothing. -/
theorem respondTo_cases (settings : Settings) (request : Request) (s : Session) :
    ((respondTo settings request).run s).2 = s ∨
      ∃ (route : Route) (action : CatalogM Response),
        route.action? settings (Target.parse request.uri) request = some action ∧
        (respondTo settings request).run s = match action.on s with
          | (.ok response, s') => (response, s')
          | (.error failure, s') => (Response.ofFailure failure, s') := by
  unfold respondTo
  dsimp only
  split
  · exact Or.inl rfl
  · rename_i route _
    split
    · exact Or.inl rfl
    · rename_i action ha
      refine Or.inr ⟨route, action, ha, ?_⟩
      simp only [CatalogM.on, bind, StateT.bind, StateT.run, ExceptT.run]
      rcases action s with ⟨result, s'⟩
      cases result <;> rfl

theorem respondTo_failed {settings : Settings} {request : Request} {s : Session}
    (h : 400 ≤ ((respondTo settings request).run s).1.status) :
    ((respondTo settings request).run s).2.store = s.store := by
  rcases respondTo_cases settings request s with hs | ⟨route, action, ha, hrun⟩
  · rw [hs]
  · obtain ⟨hall, hstatus⟩ := action_proper ha
    rw [hrun] at h ⊢
    cases hon : action.on s with
    | mk result s' =>
      have hs' : (action.on s).2 = s' := by rw [hon]
      have hr : (action.on s).1 = result := by rw [hon]
      rw [hon] at h
      cases result with
      | ok response =>
        have := hstatus s response hr
        simp only at h
        omega
      | error failure =>
        have := hall s failure hr
        rwa [hs'] at this

/-- A change that fails, whatever calls of the store fail under it, leaves the store as it was: its rows
with their bodies, metadata, natural keys and serials, the next serial, and the time of the last write. So
does a request that is answered with a status of 400 or more. -/
theorem failure_changes_nothing :
    (∀ (change : Change) (s : Session) (failure : Failure),
      (change.run.on s).1 = .error failure → (change.run.on s).2.store = s.store) ∧
    ∀ (settings : Settings) (request : Request) (s : Session),
      400 ≤ ((respond settings request).run s).1.status → ((respond settings request).run s).2.store = s.store := by
  refine ⟨fun change => change.allOrNothing, fun settings request s h => ?_⟩
  unfold respond at h ⊢
  split
  · rename_i hm
    rw [if_pos hm] at h
    exact respondTo_failed h
  · rename_i hm
    rw [if_neg hm] at h
    exact respondTo_failed h

/-- An update that expects the wrong version, and a deletion without `If-Match`. -/
theorem refused_writes_change_nothing :
    let s : Session := { Session.start Session.noOutages with store := Store.empty.adding 5 (Author.mk ⟨7⟩ "Ursula") }
    let change := Change.updateAuthor ⟨7⟩ 3 ⟨"Ursula K."⟩
    let request : Request := ⟨"DELETE", "/api/authors/00000000-0000-0000-0000-000000000007", [], ""⟩
    (change.run.on s).1 = .error (.versionMismatch 3 0) ∧ (change.run.on s).2.store = s.store ∧
      400 ≤ ((respond {} request).run s).1.status ∧ ((respond {} request).run s).2.store = s.store := by
  intro s change request
  have hc : (change.run.on s).1 = .error (.versionMismatch 3 0) := rfl
  have hr : 400 ≤ ((respond {} request).run s).1.status := by decide
  exact ⟨hc, failure_changes_nothing.1 change s _ hc, hr, failure_changes_nothing.2 {} request s hr⟩

end Web

end Bookshop
