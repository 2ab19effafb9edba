/-
  Bookshop.Proofs.Web.Requests — runs of requests.

  A request that meets an action is answered with what the action comes to (`on_respond`). It leaves the store
  as it is, or does to it what one change of the catalog does, with a body that was decoded (`request_changes`).
  So a run of requests (`Requests`) from the empty store passes through stores that the catalog can come to
  (`Served.reachable`), and where a row is there at every moment of a run, it is not created again
  (`Requests.meanwhile`).
-/

import Bookshop.Proofs.Catalog.Tags
import Bookshop.Proofs.Web.Failures

namespace Bookshop.Web

open CatalogM

/-! ## One request -/

def Response.ofAnswer : Except Failure Response → Response
  | .ok response => response
  | .error failure => .ofFailure failure

theorem respondTo_action {settings : Settings} {request : Request} {route : Route} {action : CatalogM Response}
    (hr : Route.ofSegments? (Target.parse request.uri).segments = some route)
    (ha : route.action? settings (Target.parse request.uri) request = some action) (s : Session) :
    (respondTo settings request).run s = (Response.ofAnswer (action.on s).1, (action.on s).2) := by
  unfold respondTo
  dsimp only
  rw [hr]
  dsimp only
  rw [ha]
  simp only [CatalogM.on, bind, StateT.bind, StateT.run, ExceptT.run]
  rcases action s with ⟨result, s'⟩
  cases result <;> rfl

theorem respond_eq {settings : Settings} {request : Request} (hm : request.method ≠ "HEAD") (s : Session) :
    (respond settings request).run s = (respondTo settings request).run s := by
  rw [respond, if_neg hm]

/-- A request whose path and method lead to an action is answered with what the action comes to. -/
theorem on_respond {settings : Settings} {request : Request} (hm : request.method ≠ "HEAD") {route : Route}
    {action : CatalogM Response} (hr : Route.ofSegments? (Target.parse request.uri).segments = some route)
    (ha : route.action? settings (Target.parse request.uri) request = some action) (s : Session) :
    (respond settings request).run s = (Response.ofAnswer (action.on s).1, (action.on s).2) :=
  (respond_eq hm s).trans (respondTo_action hr ha s)

theorem respond_session (settings : Settings) (request : Request) (s : Session) :
    ∃ request' : Request, ((respond settings request).run s).2 = ((respondTo settings request').run s).2 := by
  unfold respond
  split
  · exact ⟨{ request with method := "GET" }, rfl⟩
  · exact ⟨request, rfl⟩

theorem status_ofFailure (failure : Failure) : 400 ≤ (Response.ofFailure failure).status := by
  have hkind : ∀ kind : Failure.Kind, 400 ≤ kind.status := by
    intro kind
    cases kind <;> decide
  exact hkind failure.kind

/-- A status below 400 is that of an action that was done. -/
theorem on_action_of_status {settings : Settings} {request : Request} (hm : request.method ≠ "HEAD") {route : Route}
    {action : CatalogM Response} (hr : Route.ofSegments? (Target.parse request.uri).segments = some route)
    (ha : route.action? settings (Target.parse request.uri) request = some action) {s s' : Session} {response : Response}
    (hrun : (respond settings request).run s = (response, s')) (hstatus : response.status < 400) :
    action.on s = (.ok response, s') := by
  obtain ⟨hresponse, rfl⟩ := Prod.mk.inj (hrun.symm.trans (on_respond hm hr ha s))
  refine Prod.ext ?_ rfl
  cases hresult : (action.on s).1 with
  | ok answer =>
    rw [hresult] at hresponse
    rw [hresponse]
    rfl
  | error failure =>
    rw [hresult] at hresponse
    rw [hresponse] at hstatus
    exact absurd (status_ofFailure failure) (Nat.not_le.mpr hstatus)

/-! ## Tags in headers -/

theorem isHeaderText_tag (id : Uuid) (v : Int) : isHeaderText (EntityTag.generate id v).text = true := by
  obtain ⟨digest, htext⟩ := EntityTag.text_generate id v
  have hdigits : ∀ d : Fin 16, 0x20 ≤ (Text.hexDigit d).toNat ∧ (Text.hexDigit d).toNat ≤ 0x7E := by decide
  have hrange : ∀ c ∈ EntityTag.enquote digest.hex, 0x20 ≤ c.toNat ∧ c.toNat ≤ 0x7E :=
    EntityTag.forall_mem_enquote (by decide) (digest.forall_mem_hex hdigits)
  rw [isHeaderText, htext, List.all_eq_true]
  intro c hc
  simp [hrange c hc]

theorem preconditions_of_ifMatch (method uri body : String) (id : Uuid) (v : Int) :
    Request.preconditions ⟨method, uri, [("If-Match", (EntityTag.generate id v).text)], body⟩ =
      { ifMatch := some (EntityTag.generate id v).text } := by
  have hname : Text.lowerAscii "If-Match" = "if-match" := by decide
  simp [Request.preconditions, Request.header?, hname, isHeaderText_tag]

theorem preconditions_of_ifNoneMatch (method uri body : String) (id : Uuid) (v : Int) :
    Request.preconditions ⟨method, uri, [("If-None-Match", (EntityTag.generate id v).text)], body⟩ =
      { ifNoneMatch := some (EntityTag.generate id v).text } := by
  have hname : Text.lowerAscii "If-None-Match" = "if-none-match" := by decide
  simp [Request.preconditions, Request.header?, hname, isHeaderText_tag]

/-! ## Changes -/

/-- In any session, the operation leaves the store as it is, or leaves what a change with a decoded body leaves. -/
def Performs {α : Type} (m : CatalogM α) : Prop :=
  ∀ s : Session, (m.on s).2.store = s.store ∨
    ∃ change : Change, change.Decoded ∧ (m.on s).2.store = (change.run.on s).2.store

section

variable {α β : Type}

theorem performs_readOnly {m : CatalogM α} (h : m.ReadOnly) : Performs m := fun s => .inl (h s)

theorem performs_decided {result : Except Failure α} {f : α → CatalogM β} (hf : ∀ a, result = .ok a → Performs (f a)) :
    Performs (decided result >>= f) := by
  intro s
  rw [on_bind, on_decided]
  cases result with
  | error e => exact .inl rfl
  | ok a => exact hf a rfl s

/-- What is answered to a change makes no difference to the store. -/
theorem performs_change (change : Change) (hd : change.Decoded) {m : CatalogM α} {answer : α → Answer}
    (hrun : change.run = do return answer (← m)) (respond : α → β) : Performs (do return respond (← m)) := by
  intro s
  refine .inr ⟨change, hd, ?_⟩
  rw [hrun, on_map_session, on_map_session]

theorem readBody_eq_ok {decode : Json.Decoder α} {body : String} {a : α} :
    readBody decode body = .ok a ↔ (Json.decodeText decode body).toOption = some a := by
  unfold readBody
  cases Json.decodeText decode body with
  | error e => simp [Except.mapError, Except.toOption]
  | ok b => simp [Except.mapError, Except.toOption]

theorem exists_of_readBody {decode : Json.Decoder α} {body : String} {a : α} (h : readBody decode body = .ok a) :
    ∃ v, decode v = .ok a := by
  have hbody := readBody_eq_ok.mp h
  unfold Json.decodeText at hbody
  cases hp : Json.parse? body with
  | none =>
    rw [hp] at hbody
    cases hbody
  | some v =>
    rw [hp] at hbody
    dsimp only at hbody
    cases hd : decode v with
    | error e =>
      rw [hd] at hbody
      cases hbody
    | ok b =>
      rw [hd] at hbody
      cases hbody
      exact ⟨v, hd⟩

end

theorem performs_action {settings : Settings} {route : Route} {target : Target} {request : Request}
    {action : CatalogM Response} (h : route.action? settings target request = some action) : Performs action := by
  unfold Route.action? at h
  dsimp only at h
  split at h
  · obtain rfl := Option.some.inj h
    exact performs_readOnly (readOnly_pure _)
  · obtain rfl := Option.some.inj h
    exact performs_readOnly (readOnly_listAuthors settings target)
  · obtain rfl := Option.some.inj h
    exact performs_readOnly (readOnly_getAuthor _ _)
  · obtain rfl := Option.some.inj h
    exact performs_decided fun id _ => performs_decided fun body hb =>
      performs_change (.putAuthor id request.preconditions body) (exists_of_readBody hb) rfl _
  · obtain rfl := Option.some.inj h
    exact performs_decided fun id _ => performs_decided fun body hb =>
      performs_change (.patchAuthor id request.preconditions body) (exists_of_readBody hb) rfl _
  · obtain rfl := Option.some.inj h
    exact performs_decided fun id _ =>
      performs_change (.deleteAuthorGuarded id request.preconditions) trivial rfl fun _ => _
  · obtain rfl := Option.some.inj h
    exact performs_readOnly (readOnly_listBooks settings target)
  · obtain rfl := Option.some.inj h
    exact performs_readOnly (readOnly_getBook _ target _)
  · obtain rfl := Option.some.inj h
    exact performs_decided fun id _ => performs_decided fun body hb =>
      performs_change (.putBook id request.preconditions body) (exists_of_readBody hb) rfl _
  · obtain rfl := Option.some.inj h
    exact performs_decided fun id _ => performs_decided fun body hb =>
      performs_change (.patchBook id request.preconditions body) (exists_of_readBody hb) rfl _
  · obtain rfl := Option.some.inj h
    exact performs_decided fun id _ =>
      performs_change (.deleteBookGuarded id request.preconditions) trivial rfl fun _ => _
  · obtain rfl := Option.some.inj h
    exact performs_readOnly (readOnly_searchBooks settings target)
  · cases h

/-- Whatever a request is, it leaves the store as it is, or does to it what one change does. -/
theorem request_changes (settings : Settings) (request : Request) (s : Session) :
    ((respond settings request).run s).2.store = s.store ∨
      ∃ change : Change, change.Decoded ∧ ((respond settings request).run s).2.store = (change.run.on s).2.store := by
  obtain ⟨request', hsession⟩ := respond_session settings request s
  rw [hsession]
  rcases respondTo_cases settings request' s with hs | ⟨route, action, ha, hrun⟩
  · rw [hs]
    exact .inl rfl
  · have hon : ((respondTo settings request').run s).2 = (action.on s).2 := by
      rw [hrun]
      rcases action.on s with ⟨result, s'⟩
      cases result <;> rfl
    rw [hon]
    exact performs_action ha s

/-! ## Runs -/

/-- From one store to a later one by requests in a row, each in a session with any outages and any clock, through
stores of which `p` holds. -/
inductive Requests (settings : Settings) (p : Store → Prop) (s : Store) : Store → Prop
  | start : Requests settings p s s
  | next {t : Session} (request : Request) : Requests settings p s t.store →
      p ((respond settings request).run t).2.store →
      Requests settings p s ((respond settings request).run t).2.store

/-- A store that some run of requests leaves. -/
def Served (settings : Settings) (s : Store) : Prop := Requests settings (fun _ => True) .empty s

variable {settings : Settings} {s t : Store}

theorem Served.after {s : Session} (h : Served settings s.store) (request : Request) :
    Served settings ((respond settings request).run s).2.store :=
  Requests.next request h trivial

theorem Served.reachable (h : Served settings s) : Reachable s := by
  induction h with
  | start => exact .empty
  | @next t request _ _ ih =>
    rcases request_changes settings request t with hs | ⟨change, hd, hs⟩
    · rw [hs]
      exact ih
    · rw [hs]
      exact .change ih hd

/-- A row that is there at every moment of a run is not created again in it. -/
theorem Requests.meanwhile {collection : String} {id : Uuid}
    (h : Requests settings (fun u => u.row? collection id ≠ none) s t) (hs : s.row? collection id ≠ none) :
    Meanwhile collection id s t ∧ t.row? collection id ≠ none := by
  induction h with
  | start => exact ⟨.start, hs⟩
  | @next u request _ hp ih =>
    obtain ⟨hmean, hthere⟩ := ih
    rcases request_changes settings request u with hu | ⟨change, hd, hu⟩
    · rw [hu]
      exact ⟨hmean, hthere⟩
    · rw [hu] at hp ⊢
      exact ⟨.change hmean hd fun hc => hthere hc.1, hp⟩

end Bookshop.Web
