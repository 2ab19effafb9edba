/-
  Bookshop.Proofs.Store.History — runs of the store: atomic writes, issued by anyone in any order, on
  resources of any types.

  A history is a log of calls with their answers, newest first, and the store that they leave. Every
  moment of a run is a history (`History.earlier`), so what is said of histories is said of every moment of
  every run. A lifetime of a row is the part of a log since the row was inserted, up to its deletion if
  there is one.

  - `alive`: while a row lives, its version counts its updates, and every version below has been used up
    by at most one call.
  - `no_lost_update`: of the calls that expect one version, at most one succeeds; a call that expects
    another version than the row has is refused; updates are later and later.
-/

import Bookshop.Proofs.Store.Rows
import Bookshop.ShelfLabel

namespace Bookshop

/-! ## Calls that write -/

inductive Write : Type 1 where
  | insert {α : Type} [Storable α] (a : α)
  | update {α : Type} [Storable α] (a : α) (expected : Int)
  | delete (α : Type) [Storable α] (id : Uuid) (expected : Int)

inductive Verb where
  | insert
  | update
  | delete
  deriving DecidableEq, Repr

namespace Write

def verb : Write → Verb
  | insert _ => .insert
  | update .. => .update
  | delete .. => .delete

def collection : Write → String
  | @insert α _ _ => Storable.collection α
  | @update α _ _ _ => Storable.collection α
  | @delete α _ _ _ => Storable.collection α

def id : Write → Uuid
  | insert a => Storable.id a
  | update a _ => Storable.id a
  | delete _ id _ => id

def expected? : Write → Option Int
  | insert _ => none
  | update _ expected => some expected
  | delete _ _ expected => some expected

/-- The metadata that a call answers, none for a deletion, and the store after it. -/
def attempt (now : Nat) (s : Store) : Write → Except StoreFault (Option Metadata × Store)
  | insert a => (s.insert now a).map (fun (row, s) => (some row.metadata, s))
  | update a expected => (s.update now a expected).map (fun (row, s) => (some row.metadata, s))
  | delete α id expected => (s.delete α id expected).map (fun s => (none, s))

def after (now : Nat) (s : Store) (w : Write) : Store :=
  match w.attempt now s with
  | .ok (_, s) => s
  | .error _ => s

end Write

/-! ## Histories -/

structure Record : Type 1 where
  write : Write
  answer : Except StoreFault (Option Metadata)

/-- Did the call succeed in doing this to this row? -/
def Record.did (verb : Verb) (collection : String) (id : Uuid) (r : Record) : Bool :=
  r.write.verb = verb && r.write.collection = collection && r.write.id = id && r.answer.isOk

/-- Did the call succeed on this row by expecting this version? -/
def Record.won (collection : String) (id : Uuid) (expected : Int) (r : Record) : Bool :=
  r.write.expected? = some expected && r.write.collection = collection && r.write.id = id && r.answer.isOk

/-- The record of a call on a store. -/
def recordOf (w : Write) (now : Nat) (s : Store) : Record := ⟨w, (w.attempt now s).map (·.1)⟩

inductive History : List Record → Store → Prop
  | start : History [] Store.empty
  | call {log : List Record} {s : Store} (w : Write) (now : Nat) : History log s →
      History (recordOf w now s :: log) (w.after now s)

/-- Every earlier moment of a run is a history too. -/
theorem History.earlier {later log : List Record} {s : Store} (h : History (later ++ log) s) : ∃ t, History log t := by
  induction later generalizing s with
  | nil => exact ⟨s, h⟩
  | cons r later ih =>
    cases h with
    | call w now h => exact ih h

/-- `life` is what a log holds since `birth` inserted the row; only its newest call may have deleted it. -/
structure Lifetime (collection : String) (id : Uuid) (log life : List Record) (birth : Record) : Prop where
  since : ∃ before, log = life ++ birth :: before
  born : birth.did .insert collection id = true
  unended : ∀ r ∈ life.tail, r.did .delete collection id = false

/-! ## One call -/

section

variable {s s' : Store} {w : Write} {now : Nat} {m : Option Metadata}

theorem attempt_insert {α : Type} [Storable α] {a : α} (h : (Write.insert a).attempt now s = .ok (m, s')) :
    s.row? (Storable.collection α) (Storable.id a) = none ∧
      m = some (Row.fresh a (s.tick now) s.nextSerial).metadata ∧ s' = s.adding now a := by
  simp only [Write.attempt] at h
  cases hi : s.insert now a with
  | error f => simp [hi, Except.map] at h
  | ok x =>
    obtain ⟨row, t⟩ := x
    obtain ⟨hn, -, rfl, rfl⟩ := Store.insert_eq_ok.mp hi
    simp only [hi, Except.map, Except.ok.injEq, Prod.mk.injEq] at h
    exact ⟨hn, h.1.symm, h.2.symm⟩

theorem attempt_update {α : Type} [Storable α] {a : α} {expected : Int}
    (h : (Write.update a expected).attempt now s = .ok (m, s')) :
    ∃ row, s.row? (Storable.collection α) (Storable.id a) = some row ∧ row.metadata.version = expected ∧
      m = some (row.renewed a (s.tick now)).metadata ∧ s' = s.replacing now a := by
  simp only [Write.attempt] at h
  cases hu : s.update now a expected with
  | error f => simp [hu, Except.map] at h
  | ok x =>
    obtain ⟨answer, t⟩ := x
    obtain ⟨row, hr, hv, -, rfl, rfl⟩ := Store.update_eq_ok.mp hu
    simp only [hu, Except.map, Except.ok.injEq, Prod.mk.injEq] at h
    exact ⟨row, hr, hv, h.1.symm, h.2.symm⟩

theorem attempt_delete {α : Type} [Storable α] {id : Uuid} {expected : Int}
    (h : (Write.delete α id expected).attempt now s = .ok (m, s')) :
    ∃ row, s.row? (Storable.collection α) id = some row ∧ row.metadata.version = expected ∧
      m = none ∧ s' = s.removing (Storable.collection α) id := by
  simp only [Write.attempt] at h
  cases hd : s.delete α id expected with
  | error f => simp [hd, Except.map] at h
  | ok t =>
    obtain ⟨⟨row, hr, hv⟩, rfl⟩ := Store.delete_eq_ok.mp hd
    simp only [hd, Except.map, Except.ok.injEq, Prod.mk.injEq] at h
    exact ⟨row, hr, hv, h.1.symm, h.2.symm⟩

theorem attempt_elsewhere {collection : String} {id : Uuid} (h : w.attempt now s = .ok (m, s'))
    (hne : ¬ (w.collection = collection ∧ w.id = id)) : s'.row? collection id = s.row? collection id := by
  cases w with
  | insert a => obtain ⟨-, -, rfl⟩ := attempt_insert h; rw [Store.row?_adding]; exact if_neg hne
  | update a e => obtain ⟨_, -, -, -, rfl⟩ := attempt_update h; rw [Store.row?_replacing]; exact if_neg hne
  | delete α i e => obtain ⟨_, -, -, -, rfl⟩ := attempt_delete h; rw [Store.row?_removing]; exact if_neg hne

theorem attempt_new (h : w.attempt now s = .ok (m, s')) (hv : w.verb = .insert) :
    ∃ row, s'.row? w.collection w.id = some row ∧ m = some row.metadata ∧ row.metadata.version = 0 := by
  cases w with
  | insert a =>
    obtain ⟨-, rfl, rfl⟩ := attempt_insert h
    exact ⟨_, s.row?_adding_self now a, rfl, rfl⟩
  | update a e => cases hv
  | delete α i e => cases hv

/-- A call on a row that is there succeeds only by expecting its version. It takes the row to the next
version, or away. -/
theorem attempt_there {row : Row} (hr : s.row? w.collection w.id = some row) (h : w.attempt now s = .ok (m, s')) :
    w.expected? = some row.metadata.version ∧
      ((w.verb = .update ∧ ∃ row', s'.row? w.collection w.id = some row' ∧ m = some row'.metadata ∧
          row'.metadata = ⟨row.metadata.created, s.tick now, row.metadata.version + 1⟩) ∨
        w.verb = .delete) := by
  cases w with
  | insert a =>
    obtain ⟨hn, -, -⟩ := attempt_insert h
    rw [show s.row? (Storable.collection _) (Storable.id a) = some row from hr] at hn
    cases hn
  | update a e =>
    obtain ⟨old, ho, rfl, rfl, rfl⟩ := attempt_update h
    obtain rfl : old = row := Option.some.inj (ho.symm.trans hr)
    exact ⟨rfl, Or.inl ⟨rfl, old.renewed a (s.tick now), Store.row?_replacing_self hr now, rfl, rfl⟩⟩
  | delete α i e =>
    obtain ⟨old, ho, rfl, -, -⟩ := attempt_delete h
    obtain rfl : old = row := Option.some.inj (ho.symm.trans hr)
    exact ⟨rfl, Or.inr rfl⟩

theorem attempt_row (h : w.attempt now s = .ok (m, s')) (collection : String) (id : Uuid) :
    s'.row? collection id = s.row? collection id ∨
      (w.verb = .insert ∧ s.row? collection id = none) ∨
      (w.verb = .update ∧ ∃ old new, s.row? collection id = some old ∧ s'.row? collection id = some new ∧
        new.metadata.version = old.metadata.version + 1) ∨
      (w.verb = .delete ∧ s'.row? collection id = none) := by
  by_cases hat : w.collection = collection ∧ w.id = id
  · obtain ⟨rfl, rfl⟩ := hat
    refine .inr ?_
    cases w with
    | insert a =>
      obtain ⟨hn, -, -⟩ := attempt_insert h
      exact .inl ⟨rfl, hn⟩
    | update a e =>
      obtain ⟨old, ho, -, -, rfl⟩ := attempt_update h
      exact .inr (.inl ⟨rfl, old, old.renewed a (s.tick now), ho, Store.row?_replacing_self ho now, rfl⟩)
    | delete α i e =>
      obtain ⟨_, -, -, -, rfl⟩ := attempt_delete h
      exact .inr (.inr ⟨rfl, s.row?_removing_self _ _⟩)
  · exact .inl (attempt_elsewhere h hat)

theorem timely_attempt (ht : s.Timely) (h : w.attempt now s = .ok (m, s')) : s'.Timely := by
  cases w with
  | insert a => obtain ⟨-, -, rfl⟩ := attempt_insert h; exact ht.adding now a
  | update a e => obtain ⟨_, -, -, -, rfl⟩ := attempt_update h; exact ht.replacing now a
  | delete α i e => obtain ⟨_, -, -, -, rfl⟩ := attempt_delete h; exact ht.removing _ _

end

/-! ## The newest record -/

section

variable {s : Store} {w : Write} {now : Nat} {collection : String} {id : Uuid}

theorem did_iff {verb : Verb} : (recordOf w now s).did verb collection id = true ↔
    w.verb = verb ∧ w.collection = collection ∧ w.id = id ∧ ∃ m s', w.attempt now s = .ok (m, s') := by
  cases h : w.attempt now s with
  | error f => simp [Record.did, recordOf, h, Except.map, Except.isOk, Except.toBool]
  | ok x => obtain ⟨m, s'⟩ := x; simp [Record.did, recordOf, h, Except.map, Except.isOk, Except.toBool, and_assoc]

theorem won_iff {expected : Int} : (recordOf w now s).won collection id expected = true ↔
    w.expected? = some expected ∧ w.collection = collection ∧ w.id = id ∧ ∃ m s', w.attempt now s = .ok (m, s') := by
  cases h : w.attempt now s with
  | error f => simp [Record.won, recordOf, h, Except.map, Except.isOk, Except.toBool]
  | ok x => obtain ⟨m, s'⟩ := x; simp [Record.won, recordOf, h, Except.map, Except.isOk, Except.toBool, and_assoc]

end

theorem after_elsewhere {s : Store} {w : Write} {now : Nat} {collection : String} {id : Uuid}
    (h : ¬ (w.collection = collection ∧ w.id = id ∧ ∃ m s', w.attempt now s = .ok (m, s'))) :
    (w.after now s).row? collection id = s.row? collection id := by
  unfold Write.after
  split
  · rename_i m s' ha
    exact attempt_elsewhere ha fun ⟨hc, hi⟩ => h ⟨hc, hi, m, s', ha⟩
  · rfl

theorem History.timely {log : List Record} {s : Store} (h : History log s) : s.Timely := by
  induction h with
  | start => exact Store.timely_empty
  | @call log s w now _ ih =>
    unfold Write.after
    split
    · exact timely_attempt ih ‹_›
    · exact ih

/-! ## A row while it lives -/

/-- What the calls of its life so far have made of a row. -/
structure Kept (collection : String) (id : Uuid) (life : List Record) (born : Metadata) (row : Row) : Prop where
  version : row.metadata.version = life.countP (Record.did .update collection id)
  created : row.metadata.created = born.created
  once : ∀ expected, life.countP (Record.won collection id expected) ≤ 1
  /-- No call has won by a version that is still to come, nor by the present one. -/
  unclaimed : ∀ expected, row.metadata.version ≤ expected → life.countP (Record.won collection id expected) = 0

section

variable {collection : String} {id : Uuid} {life : List Record} {born : Metadata} {row row' : Row} {r : Record}

theorem Kept.skip (k : Kept collection id life born row) (hu : r.did .update collection id = false)
    (hw : ∀ expected, r.won collection id expected = false) : Kept collection id (r :: life) born row := by
  refine ⟨?_, k.created, fun e => ?_, fun e he => ?_⟩
  · rw [List.countP_cons, hu]; exact k.version
  · rw [List.countP_cons, hw]; exact k.once e
  · rw [List.countP_cons, hw]; exact k.unclaimed e he

theorem Kept.next (k : Kept collection id life born row) {time : Nat} (hu : r.did .update collection id = true)
    (hw : ∀ expected, r.won collection id expected = true → expected = row.metadata.version)
    (hm : row'.metadata = ⟨row.metadata.created, time, row.metadata.version + 1⟩) :
    Kept collection id (r :: life) born row' := by
  have hv : row'.metadata.version = row.metadata.version + 1 := by rw [hm]
  refine ⟨?_, ?_, fun e => ?_, fun e he => ?_⟩
  · rw [List.countP_cons, hu, hv, k.version]; rfl
  · rw [hm]; exact k.created
  · rw [List.countP_cons]
    split
    · have := k.unclaimed e (Int.le_of_eq (hw e ‹_›).symm)
      omega
    · exact k.once e
  · rw [List.countP_cons, if_neg (fun h => ?_), k.unclaimed e (by omega)]
    have := hw e h
    omega

end

/-- A row whose last insertion was followed by no deletion is there, as its life has made it. -/
theorem alive {collection : String} {id : Uuid} {log : List Record} {s : Store} (h : History log s) :
    ∀ {life : List Record} {birth : Record} {before : List Record}, log = life ++ birth :: before →
      birth.did .insert collection id = true → (∀ r ∈ life, r.did .delete collection id = false) →
      ∃ born row, birth.answer = .ok (some born) ∧ born.version = 0 ∧ s.row? collection id = some row ∧
        Kept collection id life born row := by
  induction h with
  | start => intro life birth before hlog; cases life <;> cases hlog
  | @call log s w now h ih =>
    intro life birth before hlog hborn hlives
    cases life with
    | nil =>
      obtain ⟨rfl, rfl⟩ := List.cons.inj hlog
      obtain ⟨hv, rfl, rfl, m, s', ha⟩ := did_iff.mp hborn
      obtain ⟨row, hr, rfl, h0⟩ := attempt_new ha hv
      refine ⟨row.metadata, row, by simp [recordOf, ha, Except.map], h0, by simpa [Write.after, ha] using hr, ?_⟩
      exact ⟨by simpa using h0, rfl, fun _ => by simp, fun _ _ => by simp⟩
    | cons r life =>
      obtain ⟨rfl, rfl⟩ := List.cons.inj hlog
      obtain ⟨born, row, hb, h0, hr, k⟩ := ih rfl hborn (fun r hm => hlives r (List.mem_cons_of_mem _ hm))
      by_cases hit : w.collection = collection ∧ w.id = id ∧ ∃ m s', w.attempt now s = .ok (m, s')
      · obtain ⟨rfl, rfl, m, s', ha⟩ := hit
        obtain ⟨hexp, ⟨hv, row', hr', -, hm⟩ | hv⟩ := attempt_there hr ha
        · refine ⟨born, row', hb, h0, by simpa [Write.after, ha] using hr', k.next ?_ (fun e he => ?_) hm⟩
          · exact did_iff.mpr ⟨hv, rfl, rfl, m, s', ha⟩
          · exact Option.some.inj ((won_iff.mp he).1.symm.trans hexp)
        · have hdel := hlives _ List.mem_cons_self
          rw [did_iff.mpr ⟨hv, rfl, rfl, m, s', ha⟩] at hdel
          cases hdel
      · refine ⟨born, row, hb, h0, (after_elsewhere hit).trans hr, k.skip ?_ fun e => ?_⟩
        · exact Bool.eq_false_iff.mpr fun hd => hit (did_iff.mp hd).2
        · exact Bool.eq_false_iff.mpr fun hd => hit (won_iff.mp hd).2

/-! ## No lost update -/

section

variable {collection : String} {id : Uuid} {log life : List Record} {birth : Record} {s : Store}

/-- Before its newest call a lifetime had no deletion in it, so the row was alive then. -/
theorem Lifetime.before_newest {r : Record} (h : History log s) (hl : Lifetime collection id log (r :: life) birth) :
    ∃ w now t born row, r = recordOf w now t ∧ birth.answer = .ok (some born) ∧ born.version = 0 ∧
      t.row? collection id = some row ∧ Kept collection id life born row := by
  obtain ⟨before, rfl⟩ := hl.since
  cases h with
  | @call log t w now h =>
    obtain ⟨born, row, hb, h0, hr, k⟩ := alive h rfl hl.born hl.unended
    exact ⟨w, now, t, born, row, rfl, hb, h0, hr, k⟩

theorem Lifetime.born_at_zero (h : History log s) (hl : Lifetime collection id log life birth) :
    ∃ born, birth.answer = .ok (some born) ∧ born.version = 0 := by
  cases life with
  | nil =>
    obtain ⟨before, hlog⟩ := hl.since
    obtain ⟨born, _, hb, h0, -, -⟩ := alive h hlog hl.born (fun _ hr => by cases hr)
    exact ⟨born, hb, h0⟩
  | cons r life =>
    obtain ⟨_, _, _, born, _, -, hb, h0, -, -⟩ := hl.before_newest h
    exact ⟨born, hb, h0⟩

/-- Of the calls of a lifetime, its end included, at most one succeeds by expecting a given version. -/
theorem Lifetime.won_once (h : History log s) (hl : Lifetime collection id log life birth) (expected : Int) :
    life.countP (Record.won collection id expected) ≤ 1 := by
  cases life with
  | nil => simp
  | cons r life =>
    obtain ⟨w, now, t, born, row, rfl, -, -, hr, k⟩ := hl.before_newest h
    rw [List.countP_cons]
    split
    · rename_i hw
      obtain ⟨he, rfl, rfl, m, s', ha⟩ := won_iff.mp hw
      have hv : row.metadata.version = expected := Option.some.inj ((attempt_there hr ha).1.symm.trans he)
      have := k.unclaimed expected (Int.le_of_eq hv)
      omega
    · exact k.once expected

/-- What a call that succeeds on a row has expected of it, and what an update makes of it. -/
structure Write.Follows (w : Write) (row : Row) (m : Option Metadata) (s' : Store) : Prop where
  expected : w.expected? = some row.metadata.version
  update : w.verb = .update → ∃ row', s'.row? w.collection w.id = some row' ∧ m = some row'.metadata ∧ row'.id = w.id ∧
    row'.metadata.created = row.metadata.created ∧ row.metadata.updated < row'.metadata.updated

theorem follows_of_attempt {w : Write} {row : Row} {now : Nat} {m : Option Metadata} {s' : Store} (h : History log s)
    (hr : s.row? w.collection w.id = some row) (ha : w.attempt now s = .ok (m, s')) : w.Follows row m s' := by
  obtain ⟨he, hcase⟩ := attempt_there hr ha
  refine ⟨he, fun hv => ?_⟩
  rcases hcase with ⟨-, row', hr', rfl, hm⟩ | hd
  · refine ⟨row', hr', rfl, (Store.row?_some hr').2.2, by rw [hm], ?_⟩
    rw [hm]
    exact h.timely.lt_tick (Store.row?_some hr).1 now
  · rw [hv] at hd
    cases hd

/-- A row at a moment of its life: what it was born with and what the calls of its life made of it, and what any
call that comes next must expect. -/
structure LivesOn (collection : String) (id : Uuid) (life : List Record) (born : Metadata) (s : Store) (row : Row) :
    Prop where
  found : s.row? collection id = some row
  same : row.id = id
  created : row.metadata.created = born.created
  version : row.metadata.version = life.countP (Record.did .update collection id)
  next : ∀ (w : Write) (now : Nat) (m : Option Metadata) (s' : Store), w.collection = collection → w.id = id →
    w.attempt now s = .ok (m, s') → w.Follows row m s'

/-- No update of a lifetime is lost. -/
structure NoneLost (collection : String) (id : Uuid) (life : List Record) (birth : Record) (s : Store) : Prop where
  lives : ∃ born, birth.answer = .ok (some born) ∧ born.version = 0 ∧
    ((∀ r ∈ life, r.did .delete collection id = false) → ∃ row, LivesOn collection id life born s row)
  /-- Two calls that expect the same version do not both succeed, the call that ends the lifetime included. -/
  once : ∀ expected, life.countP (Record.won collection id expected) ≤ 1

/-- A row begins at version 0. At any moment of its life its version is the number of its updates, its
identifier and time of creation are those it began with, and whatever call comes next succeeds on it only
by expecting that version; an update then takes it to a later time. Of all the calls of its life that
expect one version, at most one succeeds. -/
theorem no_lost_update (h : History log s) (hl : Lifetime collection id log life birth) :
    NoneLost collection id life birth s := by
  obtain ⟨born, hb, h0⟩ := hl.born_at_zero h
  refine ⟨⟨born, hb, h0, fun hlives => ?_⟩, hl.won_once h⟩
  obtain ⟨before, hlog⟩ := hl.since
  obtain ⟨born', row, hb', -, hr, k⟩ := alive h hlog hl.born hlives
  obtain rfl : born' = born := by
    rw [hb] at hb'
    cases hb'
    rfl
  refine ⟨row, hr, (Store.row?_some hr).2.2, k.created, k.version, fun w now m s' hc hi ha => ?_⟩
  subst hc hi
  exact follows_of_attempt h hr ha

end

/-- Two writers start from version 0 of a label: the second is refused, and the label is at version 1. -/
theorem two_writers_of_a_label :
    let label : ShelfLabel := ⟨⟨7⟩, "poetry"⟩
    let s1 := (Write.insert label).after 5 .empty
    let s2 := (Write.update label 0).after 3 s1
    let s3 := (Write.update label 0).after 9 s2
    let birth := recordOf (.insert label) 5 .empty
    let life := [recordOf (.update label 0) 9 s2, recordOf (.update label 0) 3 s1]
    History (life ++ [birth]) s3 ∧ Lifetime "shelf_labels" ⟨7⟩ (life ++ [birth]) life birth ∧
      (∃ row, s3.row? "shelf_labels" ⟨7⟩ = some row ∧ row.metadata.version = 1) ∧
      life.countP (Record.won "shelf_labels" ⟨7⟩ 0) ≤ 1 := by
  intro label s1 s2 s3 birth life
  have h : History (life ++ [birth]) s3 := ((History.start.call _ 5).call _ 3).call _ 9
  have hl : Lifetime "shelf_labels" ⟨7⟩ (life ++ [birth]) life birth := ⟨⟨[], rfl⟩, by decide, by decide⟩
  have hkept := no_lost_update h hl
  obtain ⟨born, -, -, hlives⟩ := hkept.lives
  obtain ⟨row, hrow⟩ := hlives (by decide)
  exact ⟨h, hl, ⟨row, hrow.found, hrow.version⟩, hkept.once 0⟩

end Bookshop
