/-
  Bookshop.Proofs.Catalog.Calls — operations of the catalog, run in a session (see
  `Bookshop.Catalog.Operation`).

  `CatalogM.on` runs an operation. Its laws say what a sequence, a caught failure and a call of the store
  come to; later proofs use these and never open the monad. On top of them stand the properties that are
  put together along an operation: it only reads (`ReadOnly`), it never fails (`Sure`), what it answers
  (`Yields`), it changes nothing if it fails (`AllOrNothing`), it keeps what holds of the store (`Keeps`),
  and what an answer says of the store that is left (`Ensures`). Authors and books are placed and patched
  in one way (`placing`, `patching`), so what holds of that way is shown once for both.
-/

import Bookshop.Catalog.Operation

namespace Bookshop

def Session.called (s : Session) : Session := { s with calls := s.calls + 1 }

@[simp] theorem Session.called_store (s : Session) : s.called.store = s.store := rfl
@[simp] theorem Session.called_outages (s : Session) : s.called.outages = s.outages := rfl
@[simp] theorem Session.called_calls (s : Session) : s.called.calls = s.calls + 1 := rfl
@[simp] theorem Session.called_clock (s : Session) : s.called.clock = s.clock := rfl

namespace CatalogM

variable {α β : Type}

/-- What an operation answers in a session, and the session after it. -/
def on (m : CatalogM α) (s : Session) : Except Failure α × Session := m.run.run s

/-! ## Running -/

@[simp] theorem on_pure (a : α) (s : Session) : on (pure a) s = (.ok a, s) := rfl

@[simp] theorem on_throw (f : Failure) (s : Session) : on (throw f : CatalogM α) s = (.error f, s) := rfl

@[simp] theorem on_decided (result : Except Failure α) (s : Session) : (decided result).on s = (result, s) := rfl

theorem on_bind (m : CatalogM α) (f : α → CatalogM β) (s : Session) :
    on (m >>= f) s = match m.on s with
      | (.ok a, s') => (f a).on s'
      | (.error e, s') => (.error e, s') := by
  simp only [on, bind, ExceptT.bind, ExceptT.mk, ExceptT.bindCont, StateT.bind, ExceptT.run, StateT.run]
  cases m s with
  | mk result s' => cases result <;> rfl

theorem on_bind_ok {m : CatalogM α} {f : α → CatalogM β} {s s' : Session} {a : α} (h : m.on s = (.ok a, s')) :
    on (m >>= f) s = (f a).on s' := by
  rw [on_bind, h]

theorem on_bind_error {m : CatalogM α} {f : α → CatalogM β} {s s' : Session} {e : Failure}
    (h : m.on s = (.error e, s')) : on (m >>= f) s = (.error e, s') := by
  rw [on_bind, h]

theorem on_bind_eq_ok {m : CatalogM α} {f : α → CatalogM β} {s t : Session} {b : β} :
    on (m >>= f) s = (.ok b, t) ↔ ∃ a u, m.on s = (.ok a, u) ∧ (f a).on u = (.ok b, t) := by
  rw [on_bind]
  cases m.on s with
  | mk result u =>
    cases result with
    | error e => simp
    | ok a =>
      constructor
      · intro h
        exact ⟨a, u, rfl, h⟩
      · rintro ⟨_, _, he, h⟩
        cases he
        exact h

theorem on_tryCatch (m : CatalogM α) (handle : Failure → CatalogM α) (s : Session) :
    on (tryCatch m handle) s = match m.on s with
      | (.ok a, s') => (.ok a, s')
      | (.error e, s') => (handle e).on s' := by
  simp only [on, tryCatch, tryCatchThe, MonadExceptOf.tryCatch, ExceptT.tryCatch, ExceptT.mk, bind, StateT.bind, ExceptT.run,
    StateT.run]
  cases m s with
  | mk result s' => cases result <;> rfl

/-- A call of the store is met by an outage, or it is done at the time that the clock shows. -/
theorem on_attempt (call : Call) (run : Nat → Store → Except StoreFault (α × Store)) (s : Session) :
    (CatalogM.call (call.attempt run)).on s = match s.outages s.calls call with
      | some fault => (.error (.ofFault fault), s.called)
      | none => match run (s.clock s.calls) s.store with
        | .ok (a, store) => (.ok a, { s.called with store })
        | .error fault => (.error (.ofFault fault), s.called) := by
  have hrun : (CatalogM.call (call.attempt run)).on s =
      (((call.attempt run) s).1.mapError .ofFault, ((call.attempt run) s).2) := rfl
  rw [hrun, Call.attempt]
  cases s.outages s.calls call with
  | some fault => rfl
  | none =>
    dsimp only
    cases run (s.clock s.calls) s.store with
    | ok x => rfl
    | error fault => rfl

section

variable {call : Call} {run : Nat → Store → Except StoreFault (α × Store)} {s : Session}

theorem on_attempt_outage {fault : StoreFault} (ho : s.outages s.calls call = some fault) :
    (CatalogM.call (call.attempt run)).on s = (.error (.ofFault fault), s.called) := by
  rw [on_attempt, ho]

theorem on_attempt_done {a : α} {store : Store} (ho : s.outages s.calls call = none)
    (hr : run (s.clock s.calls) s.store = .ok (a, store)) :
    (CatalogM.call (call.attempt run)).on s = (.ok a, { s.called with store }) := by
  rw [on_attempt, ho]
  simp only [hr]

theorem on_attempt_refused {fault : StoreFault} (ho : s.outages s.calls call = none)
    (hr : run (s.clock s.calls) s.store = .error fault) :
    (CatalogM.call (call.attempt run)).on s = (.error (.ofFault fault), s.called) := by
  rw [on_attempt, ho]
  simp only [hr]

theorem of_on_attempt {a : α} {t : Session} (h : (CatalogM.call (call.attempt run)).on s = (.ok a, t)) :
    ∃ store, run (s.clock s.calls) s.store = .ok (a, store) ∧ t = { s.called with store } := by
  rw [on_attempt] at h
  split at h
  · cases h
  · split at h
    · next hr =>
      cases h
      exact ⟨_, hr, rfl⟩
    · cases h

end

theorem on_ask (call : Call) (read : Store → Except StoreFault α) (s : Session) :
    (CatalogM.call (call.ask read)).on s = match s.outages s.calls call with
      | some fault => (.error (.ofFault fault), s.called)
      | none => ((read s.store).mapError .ofFault, s.called) := by
  rw [Call.ask, on_attempt]
  cases s.outages s.calls call with
  | some fault => rfl
  | none =>
    dsimp only
    cases read s.store with
    | ok a => rfl
    | error fault => rfl

theorem on_require [Storable α] (id : Uuid) (s : Session) :
    (require α id).on s = match s.outages s.calls (.get (Storable.collection α) id) with
      | some fault => (.error (.ofFault fault), s.called)
      | none => match s.store.get α id with
        | .ok (some row) => (.ok row, s.called)
        | .ok none => (.error (.missing (Failure.nounOf (Storable.collection α)) id), s.called)
        | .error fault => (.error (.ofFault fault), s.called) := by
  rw [require, on_bind, StoreM.get, on_ask]
  cases s.outages s.calls (.get (Storable.collection α) id) with
  | some fault => rfl
  | none =>
    cases s.store.get α id with
    | error fault => rfl
    | ok found => cases found <;> rfl

theorem on_require_outage [Storable α] {id : Uuid} {s : Session} {fault : StoreFault}
    (ho : s.outages s.calls (.get (Storable.collection α) id) = some fault) :
    (require α id).on s = (.error (.ofFault fault), s.called) := by
  rw [on_require, ho]

theorem on_require_found [Storable α] {id : Uuid} {s : Session} {row : Stored α}
    (ho : s.outages s.calls (.get (Storable.collection α) id) = none) (hg : s.store.get α id = .ok (some row)) :
    (require α id).on s = (.ok row, s.called) := by
  rw [on_require, ho, hg]

theorem of_on_require [Storable α] {id : Uuid} {s t : Session} {row : Stored α}
    (h : (require α id).on s = (.ok row, t)) : s.store.get α id = .ok (some row) ∧ t = s.called := by
  rw [on_require] at h
  split at h
  · cases h
  · split at h
    · next hg =>
      cases h
      exact ⟨hg, rfl⟩
    · cases h
    · cases h

theorem of_on_guarded [Storable α] {id : Uuid} {pre : Preconditions} {s t : Session} {current : Stored α} {expected : Int}
    (h : (guarded α id pre).on s = (.ok (current, expected), t)) :
    s.store.get α id = .ok (some current) ∧ pre.gateVersion current = .ok expected ∧ t = s.called := by
  obtain ⟨row, u, hrequire, hgate⟩ := on_bind_eq_ok.mp h
  obtain ⟨hget, rfl⟩ := of_on_require hrequire
  obtain ⟨n, w, hdecided, hfound⟩ := on_bind_eq_ok.mp hgate
  obtain ⟨hn, rfl⟩ := Prod.mk.inj ((on_decided _ _).symm.trans hdecided)
  cases hfound
  exact ⟨hget, hn, rfl⟩

theorem on_map_session (m : CatalogM α) (g : α → β) (s : Session) :
    ((do return g (← m) : CatalogM β).on s).2 = (m.on s).2 := by
  rw [on_bind]
  cases m.on s with
  | mk result s' => cases result <;> rfl

/-! ## Placing and patching -/

section

variable [Storable α]

/-- A PUT: the headers ask for a new row, or they settle the version on which the one there is replaced. -/
def placing (id : Uuid) (pre : Preconditions) (create : CatalogM (Stored α)) (update : Int → CatalogM (Stored α)) :
    CatalogM (Placed (Stored α)) := do
  match ← decided pre.purpose with
  | .create => return .created (← create)
  | .replace =>
    let (_, expected) ← guarded α id pre
    return .replaced (← update expected)

/-- A PATCH: the headers settle the version on which the row is written again, unless the patch sets nothing. -/
def patching (id : Uuid) (pre : Preconditions) (isEmpty : Bool) (update : Stored α → Int → CatalogM β) :
    CatalogM β := do
  let (current, expected) ← guarded α id pre
  if isEmpty then throw .emptyPatch
  update current expected

end

/-! ## Operations that only read -/

def ReadOnly (m : CatalogM α) : Prop := ∀ s, (m.on s).2.store = s.store

theorem readOnly_pure (a : α) : ReadOnly (pure a) := fun _ => rfl

theorem readOnly_throw (f : Failure) : ReadOnly (throw f : CatalogM α) := fun _ => rfl

theorem readOnly_decided (result : Except Failure α) : (decided result).ReadOnly := fun _ => rfl

theorem ReadOnly.bind {m : CatalogM α} {f : α → CatalogM β} (hm : m.ReadOnly) (hf : ∀ a, (f a).ReadOnly) :
    ReadOnly (m >>= f) := by
  intro s
  have h := hm s
  rw [on_bind]
  cases hs : m.on s with
  | mk result s' =>
    rw [hs] at h
    cases result with
    | error e => exact h
    | ok a => exact (hf a s').trans h

theorem readOnly_ask (call : Call) (read : Store → Except StoreFault α) : (CatalogM.call (call.ask read)).ReadOnly := by
  intro s
  rw [on_ask]
  split <;> rfl

theorem readOnly_require [Storable α] (id : Uuid) : (require α id).ReadOnly := by
  apply (readOnly_ask _ _).bind
  intro found
  cases found with
  | some row => exact readOnly_pure row
  | none => exact readOnly_throw _

theorem readOnly_guarded [Storable α] (id : Uuid) (p : Preconditions) : (guarded α id p).ReadOnly :=
  (readOnly_require id).bind fun _ => (readOnly_decided _).bind fun _ => readOnly_pure _

/-! ## Operations that never fail -/

def Sure (m : CatalogM α) : Prop := ∀ s, ∃ a, (m.on s).1 = .ok a

theorem sure_pure (a : α) : Sure (pure a) := fun _ => ⟨a, rfl⟩

theorem Sure.bind {m : CatalogM α} {f : α → CatalogM β} (hm : m.Sure) (hf : ∀ a, (f a).Sure) : Sure (m >>= f) := by
  intro s
  obtain ⟨a, ha⟩ := hm s
  rw [on_bind_ok (Prod.ext ha rfl)]
  exact hf a _

/-- What is caught by something that never fails never fails. -/
theorem sure_tryCatch (m : CatalogM α) {handle : Failure → CatalogM α} (hh : ∀ f, (handle f).Sure) :
    Sure (tryCatch m handle) := by
  intro s
  rw [on_tryCatch]
  split
  · exact ⟨_, rfl⟩
  · exact hh _ _

/-! ## What operations answer -/

def Yields (p : α → Prop) (m : CatalogM α) : Prop := ∀ s a, (m.on s).1 = .ok a → p a

theorem yields_pure {p : α → Prop} {a : α} (h : p a) : Yields p (pure a) := by
  intro s b hb
  cases hb
  exact h

theorem Yields.bind {p : β → Prop} {m : CatalogM α} {f : α → CatalogM β} (hf : ∀ a, (f a).Yields p) :
    Yields p (m >>= f) := by
  intro s b hb
  rw [on_bind] at hb
  split at hb
  · exact hf _ _ b hb
  · cases hb

/-! ## Operations that change nothing if they fail -/

def AllOrNothing (m : CatalogM α) : Prop := ∀ s f, (m.on s).1 = .error f → (m.on s).2.store = s.store

theorem ReadOnly.allOrNothing {m : CatalogM α} (h : m.ReadOnly) : m.AllOrNothing := fun s _ _ => h s

theorem allOrNothing_attempt (call : Call) (run : Nat → Store → Except StoreFault (α × Store)) :
    (CatalogM.call (call.attempt run)).AllOrNothing := by
  intro s f
  rw [on_attempt]
  split
  · exact fun _ => rfl
  · split
    · intro h; cases h
    · exact fun _ => rfl

theorem ReadOnly.bind_allOrNothing {m : CatalogM α} {f : α → CatalogM β} (hm : m.ReadOnly)
    (hf : ∀ a, (f a).AllOrNothing) : AllOrNothing (m >>= f) := by
  intro s e
  have h := hm s
  rw [on_bind]
  cases hs : m.on s with
  | mk result s' =>
    rw [hs] at h
    cases result with
    | error e => exact fun _ => h
    | ok a => exact fun he => (hf a s' e he).trans h

/-- What comes after the write must not fail. -/
theorem AllOrNothing.bind_sure {m : CatalogM α} {f : α → CatalogM β} (hm : m.AllOrNothing) (hf : ∀ a, (f a).Sure) :
    AllOrNothing (m >>= f) := by
  intro s e
  have h := hm s
  rw [on_bind]
  cases hs : m.on s with
  | mk result s' =>
    rw [hs] at h
    cases result with
    | error e => exact fun _ => h e rfl
    | ok a =>
      intro he
      obtain ⟨b, hb⟩ := hf a s'
      rw [show ((f a).on s').1 = .error e from he] at hb
      cases hb

section

variable [Storable α] {id : Uuid} {pre : Preconditions}

theorem allOrNothing_placing {create : CatalogM (Stored α)} {update : Int → CatalogM (Stored α)}
    (hc : create.AllOrNothing) (hu : ∀ expected, (update expected).AllOrNothing) :
    (placing id pre create update).AllOrNothing := by
  apply (readOnly_decided _).bind_allOrNothing
  intro purpose
  cases purpose with
  | create => exact hc.bind_sure fun _ => sure_pure _
  | replace =>
    apply (readOnly_guarded id pre).bind_allOrNothing
    rintro ⟨_, expected⟩
    exact (hu expected).bind_sure fun _ => sure_pure _

theorem allOrNothing_patching {isEmpty : Bool} {update : Stored α → Int → CatalogM β}
    (hu : ∀ current expected, (update current expected).AllOrNothing) :
    (patching id pre isEmpty update).AllOrNothing := by
  apply (readOnly_guarded id pre).bind_allOrNothing
  rintro ⟨current, expected⟩
  dsimp only
  split
  · exact (readOnly_throw _).bind_allOrNothing fun _ => hu current expected
  · exact hu current expected

end

/-! ## What operations keep -/

/-- Whether it fails or not, `m` keeps what `p` says of the store; and if it holds, `q` holds of the answer. -/
def Keeps (p : Store → Prop) (q : α → Prop) (m : CatalogM α) : Prop :=
  ∀ s, p s.store → p (m.on s).2.store ∧ ∀ a, (m.on s).1 = .ok a → q a

variable {p : Store → Prop} {q : α → Prop} {r : β → Prop}

theorem keeps_pure {a : α} (h : q a) : Keeps p q (pure a) := by
  intro s hs
  refine ⟨hs, fun b hb => ?_⟩
  cases hb
  exact h

theorem keeps_throw (f : Failure) : Keeps p q (throw f) := fun _ hs => ⟨hs, fun _ h => by cases h⟩

theorem keeps_decided {result : Except Failure α} (h : ∀ a, result = .ok a → q a) : Keeps p q (decided result) :=
  fun _ hs => ⟨hs, h⟩

theorem Keeps.bind {m : CatalogM α} {f : α → CatalogM β} (hm : m.Keeps p q) (hf : ∀ a, q a → (f a).Keeps p r) :
    Keeps p r (m >>= f) := by
  intro s hs
  obtain ⟨hp, hq⟩ := hm s hs
  rw [on_bind]
  cases h : m.on s with
  | mk result s' =>
    rw [h] at hp hq
    cases result with
    | error e => exact ⟨hp, fun _ h => by cases h⟩
    | ok a => exact hf a (hq a rfl) s' hp

theorem Keeps.tryCatch {m : CatalogM α} {handle : Failure → CatalogM α} (hm : m.Keeps p q)
    (hh : ∀ f, (handle f).Keeps p q) : Keeps p q (tryCatch m handle) := by
  intro s hs
  obtain ⟨hp, hq⟩ := hm s hs
  rw [on_tryCatch]
  cases h : m.on s with
  | mk result s' =>
    rw [h] at hp hq
    cases result with
    | error e => exact hh e s' hp
    | ok a => exact ⟨hp, fun b hb => hq b hb⟩

theorem keeps_attempt {call : Call} {run : Nat → Store → Except StoreFault (α × Store)}
    (h : ∀ now store a store', p store → run now store = .ok (a, store') → p store' ∧ q a) :
    Keeps p q (CatalogM.call (call.attempt run)) := by
  intro s hs
  rw [on_attempt]
  cases s.outages s.calls call with
  | some fault => exact ⟨hs, fun _ h => by cases h⟩
  | none =>
    dsimp only
    cases hr : run (s.clock s.calls) s.store with
    | error fault => exact ⟨hs, fun _ h => by cases h⟩
    | ok x =>
      obtain ⟨hp, hq⟩ := h _ _ x.1 x.2 hs hr
      refine ⟨hp, fun b hb => ?_⟩
      cases hb
      exact hq

theorem keeps_ask {call : Call} {read : Store → Except StoreFault α}
    (h : ∀ store a, p store → read store = .ok a → q a) : Keeps p q (CatalogM.call (call.ask read)) := by
  apply keeps_attempt
  intro now store a store' hs hr
  cases hd : read store with
  | error fault => simp [hd, Except.map] at hr
  | ok b =>
    simp only [hd, Except.map, Except.ok.injEq, Prod.mk.injEq] at hr
    obtain ⟨rfl, rfl⟩ := hr
    exact ⟨hs, h store b hs hd⟩

/-- The answer is not looked at. -/
theorem Keeps.andThen {m : CatalogM α} {f : α → CatalogM β} (hm : m.Keeps p q) (hf : ∀ a, (f a).Keeps p r) :
    Keeps p r (m >>= f) :=
  hm.bind fun a _ => hf a

theorem ReadOnly.keeps {m : CatalogM α} (hm : m.ReadOnly) : m.Keeps p (fun _ => True) := by
  intro s hs
  refine ⟨?_, fun _ _ => trivial⟩
  rw [hm s]
  exact hs

theorem keeps_require [Storable α] {q : Stored α → Prop} {id : Uuid}
    (h : ∀ store found, p store → store.get α id = .ok (some found) → q found) : (require α id).Keeps p q := by
  have hget : Keeps p (fun found => ∀ a, found = some a → q a) (call (StoreM.get α id)) := by
    refine keeps_ask fun store found hs hf a ha => h store a hs ?_
    rw [hf, ha]
  apply hget.bind
  intro found hfound
  cases found with
  | some row => exact keeps_pure (hfound row rfl)
  | none => exact keeps_throw _

section

variable [Storable α] {id : Uuid} {pre : Preconditions}

theorem keeps_placing {create : CatalogM (Stored α)} {update : Int → CatalogM (Stored α)}
    (hc : create.Keeps p (fun _ => True)) (hu : ∀ expected, (update expected).Keeps p (fun _ => True)) :
    (placing id pre create update).Keeps p (fun _ => True) := by
  apply (readOnly_decided _).keeps.andThen
  intro purpose
  cases purpose with
  | create => exact hc.andThen fun _ => keeps_pure trivial
  | replace =>
    apply (readOnly_guarded id pre).keeps.andThen
    rintro ⟨_, expected⟩
    exact (hu expected).andThen fun _ => keeps_pure trivial

theorem keeps_patching {q : Stored α → Prop} {isEmpty : Bool} {update : Stored α → Int → CatalogM β}
    (hq : (require α id).Keeps p q) (hu : ∀ current expected, q current → (update current expected).Keeps p r) :
    (patching id pre isEmpty update).Keeps p r := by
  have hg : (guarded α id pre).Keeps p (fun x => q x.1) :=
    hq.bind fun _ hc => (readOnly_decided _).keeps.andThen fun _ => keeps_pure hc
  apply hg.bind
  rintro ⟨current, expected⟩ hc
  dsimp only
  split
  · exact (readOnly_throw _).keeps.andThen fun _ => hu current expected hc
  · exact hu current expected hc

end

/-! ## What answers say of the store -/

/-- If it is answered in a store of which `p` holds, then `r` holds of the answer and of the store that is left. -/
def Ensures (p : Store → Prop) (r : α → Store → Prop) (m : CatalogM α) : Prop :=
  ∀ s t a, p s.store → m.on s = (.ok a, t) → r a t.store

section

variable {p : Store → Prop} {q : α → Store → Prop} {r : β → Store → Prop}

theorem ensures_pure {a : α} (h : ∀ store, p store → q a store) : Ensures p q (pure a) := by
  intro s t b hs hb
  cases hb
  exact h s.store hs

theorem ensures_true (m : CatalogM α) : m.Ensures p fun _ _ => True := fun _ _ _ _ _ => trivial

theorem ensures_decided {result : Except Failure α} (h : ∀ store a, p store → result = .ok a → q a store) :
    Ensures p q (decided result) := by
  intro s t a hs ha
  obtain ⟨hresult, rfl⟩ := Prod.mk.inj ((on_decided result s).symm.trans ha)
  exact h s.store a hs hresult

theorem Ensures.bind {m : CatalogM α} {f : α → CatalogM β} (hm : m.Ensures p q) (hf : ∀ a, (f a).Ensures (q a) r) :
    Ensures p r (m >>= f) := by
  intro s t b hs hb
  obtain ⟨a, u, ha, hb⟩ := on_bind_eq_ok.mp hb
  exact hf a u t b (hm s u a hs ha) hb

/-- What comes after may count on what is decided first. -/
theorem ensures_of_decided {result : Except Failure α} {f : α → CatalogM β}
    (hf : ∀ a, result = .ok a → (f a).Ensures p r) : Ensures p r (decided result >>= f) := by
  intro s t b hs hb
  obtain ⟨a, u, ha, hb⟩ := on_bind_eq_ok.mp hb
  obtain ⟨hresult, rfl⟩ := Prod.mk.inj ((on_decided result s).symm.trans ha)
  exact hf a hresult s t b hs hb

theorem ReadOnly.ensures {m : CatalogM α} (hm : m.ReadOnly) : m.Ensures p fun _ => p := by
  intro s t a hs ha
  have hstore := hm s
  rw [ha] at hstore
  rw [show t.store = s.store from hstore]
  exact hs

theorem ensures_attempt {call : Call} {run : Nat → Store → Except StoreFault (α × Store)}
    (h : ∀ now store a store', p store → run now store = .ok (a, store') → q a store') :
    Ensures p q (CatalogM.call (call.attempt run)) := by
  intro s t a hs ha
  obtain ⟨store, hr, rfl⟩ := of_on_attempt ha
  exact h _ s.store a store hs hr

theorem ensures_ask {call : Call} {read : Store → Except StoreFault α}
    (h : ∀ store a, p store → read store = .ok a → q a store) : Ensures p q (CatalogM.call (call.ask read)) := by
  apply ensures_attempt
  intro now store a store' hs hr
  cases hd : read store with
  | error fault => simp [hd, Except.map] at hr
  | ok b =>
    simp only [hd, Except.map, Except.ok.injEq, Prod.mk.injEq] at hr
    obtain ⟨rfl, rfl⟩ := hr
    exact h store b hs hd

theorem ensures_require [Storable α] {q : Stored α → Store → Prop} {id : Uuid}
    (h : ∀ store row, p store → store.get α id = .ok (some row) → q row store) : (require α id).Ensures p q := by
  intro s t row hs hr
  obtain ⟨hget, rfl⟩ := of_on_require hr
  exact h s.store row hs hget

variable [Storable α] {id : Uuid} {pre : Preconditions}

theorem ensures_require_same : (require α id).Ensures p fun _ => p := ensures_require fun _ _ hs _ => hs

theorem ensures_guarded {q : Stored α → Store → Prop} (hq : (require α id).Ensures p q) :
    (guarded α id pre).Ensures p fun found => q found.1 :=
  hq.bind fun _ => (ensures_decided fun _ _ hc _ => hc).bind fun _ => ensures_pure fun _ hc => hc

theorem ensures_placing {q : Stored α → Store → Prop} {create : CatalogM (Stored α)}
    {update : Int → CatalogM (Stored α)} (hc : create.Ensures p q) (hu : ∀ expected, (update expected).Ensures p q) :
    (placing id pre create update).Ensures p fun placed => q placed.row := by
  have hpurpose : (decided pre.purpose).Ensures p fun _ => p := ensures_decided fun _ _ hs _ => hs
  refine hpurpose.bind fun purpose => ?_
  cases purpose with
  | create => exact hc.bind fun _ => ensures_pure fun _ h => h
  | replace =>
    refine (ensures_guarded ensures_require_same).bind ?_
    rintro ⟨_, expected⟩
    exact (hu expected).bind fun _ => ensures_pure fun _ h => h

theorem ensures_patching {q : Stored α → Store → Prop} {isEmpty : Bool} {update : Stored α → Int → CatalogM β}
    (hq : (require α id).Ensures p q) (hu : ∀ current expected, (update current expected).Ensures (q current) r) :
    (patching id pre isEmpty update).Ensures p r := by
  refine (ensures_guarded hq).bind ?_
  rintro ⟨current, expected⟩
  cases isEmpty with
  | true => exact fun _ _ _ _ h => by cases h
  | false => exact hu current expected

end

end CatalogM

end Bookshop
