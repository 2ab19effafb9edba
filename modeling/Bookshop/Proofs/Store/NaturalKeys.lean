/-
  Bookshop.Proofs.Store.NaturalKeys — no two rows of a collection share a natural key.

  The key of a row is kept beside its value and not computed again, so it could fall behind. `live` says from
  a log alone which values a run has left, as an entry of what each puts into its row; `entries_eq_live`:
  the rows of the store are those entries, so every key kept is that of the value written last.

  - `apart_live`: the entries of a run are pairwise at different places, with different keys in a collection.
  - `natural_keys_are_current`: all of this, and a write is refused for its key just if another live value of
    the collection has that key now.
-/

import Bookshop.Proofs.Store.History
import Bookshop.Author
import Mathlib.Data.List.Pairwise

namespace Bookshop

/-! ## Entries -/

/-- What a value puts into its row. -/
structure Entry where
  collection : String
  id : Uuid
  body : Json.Value
  naturalKey : Option String

namespace Entry

def of {α : Type} [Storable α] (a : α) : Entry :=
  ⟨Storable.collection α, Storable.id a, Storable.encode a, Storable.naturalKey a⟩

def isAt (collection : String) (id : Uuid) (e : Entry) : Bool := e.collection == collection && e.id == id

@[simp] theorem isAt_iff {e : Entry} {collection : String} {id : Uuid} :
    e.isAt collection id = true ↔ e.collection = collection ∧ e.id = id := by
  simp [isAt]

/-- Two entries of one collection have different identifiers, and no natural key in common. -/
def Apart (e f : Entry) : Prop :=
  e.collection = f.collection → e.id ≠ f.id ∧ ∀ key, e.naturalKey = some key → f.naturalKey ≠ some key

end Entry

def Row.entry (row : Row) : Entry := ⟨row.collection, row.id, row.body, row.naturalKey⟩

theorem Row.entry_renewed {α : Type} [Storable α] {row : Row} {a : α}
    (h : row.isAt (Storable.collection α) (Storable.id a) = true) (time : Nat) :
    (row.renewed a time).entry = Entry.of a := by
  obtain ⟨hc, hi⟩ := Row.isAt_iff.mp h
  simp [Row.entry, Row.renewed, Entry.of, hc, hi]

def Store.entries (s : Store) : List Entry := s.rows.map Row.entry

/-! ## Live values -/

def Write.entry? : Write → Option Entry
  | insert a => some (Entry.of a)
  | update a _ => some (Entry.of a)
  | delete .. => none

theorem Write.collection_of_entry? {w : Write} {e : Entry} (h : w.entry? = some e) : e.collection = w.collection := by
  cases w with
  | insert a => cases h; rfl
  | update a expected => cases h; rfl
  | delete α id expected => cases h

/-- The entries after a call that is done. -/
def Write.act : Write → List Entry → List Entry
  | insert a, entries => Entry.of a :: entries
  | @update α _ a _, entries => entries.map fun e => if e.isAt (Storable.collection α) (Storable.id a) then Entry.of a else e
  | delete α id _, entries => entries.filter fun e => !e.isAt (Storable.collection α) id

/-- The entries of the values that are there after a log. -/
def live : List Record → List Entry
  | [] => []
  | r :: log => if r.answer.isOk then r.write.act (live log) else live log

theorem Write.mem_act {w : Write} {entries : List Entry} {e : Entry} (h : e ∈ w.act entries) :
    e ∈ entries ∨ w.entry? = some e := by
  cases w with
  | insert a => exact (List.mem_cons.mp h).symm.imp_right fun he => congrArg some he.symm
  | update a expected =>
    obtain ⟨f, hf, rfl⟩ := List.mem_map.mp h
    split
    · exact .inr rfl
    · exact .inl hf
  | delete α id expected => exact .inl (List.mem_filter.mp h).1

theorem exists_of_live {log : List Record} {e : Entry} (h : e ∈ live log) : ∃ r ∈ log, r.write.entry? = some e := by
  induction log with
  | nil => cases h
  | cons r log ih =>
    have hrest : e ∈ live log → ∃ r' ∈ r :: log, r'.write.entry? = some e := fun h =>
      (ih h).imp fun r' hr' => ⟨List.mem_cons_of_mem r hr'.1, hr'.2⟩
    unfold live at h
    split at h
    · exact (Write.mem_act h).elim hrest fun hr => ⟨r, List.mem_cons_self, hr⟩
    · exact hrest h

theorem entries_of_attempt {s s' : Store} {w : Write} {now : Nat} {m : Option Metadata}
    (h : w.attempt now s = .ok (m, s')) : s'.entries = w.act s.entries := by
  cases w with
  | insert a =>
    obtain ⟨-, -, rfl⟩ := attempt_insert h
    rfl
  | @update α _ a expected =>
    obtain ⟨_, -, -, -, rfl⟩ := attempt_update h
    simp only [Store.entries, Store.replacing, Write.act, List.map_map]
    refine List.map_congr_left fun row _ => ?_
    show Row.entry (if row.isAt (Storable.collection α) (Storable.id a) then row.renewed a (s.tick now) else row) =
      if row.isAt (Storable.collection α) (Storable.id a) then Entry.of a else row.entry
    by_cases hat : row.isAt (Storable.collection α) (Storable.id a) = true
    · rw [if_pos hat, if_pos hat, Row.entry_renewed hat]
    · rw [if_neg hat, if_neg hat]
  | delete α id expected =>
    obtain ⟨_, -, -, -, rfl⟩ := attempt_delete h
    simp only [Store.entries, Store.removing, Write.act, List.filter_map]
    rfl

theorem entries_eq_live {log : List Record} {s : Store} (h : History log s) : s.entries = live log := by
  induction h with
  | start => rfl
  | @call log s w now _ ih =>
    unfold Write.after live
    cases ha : w.attempt now s with
    | error f => simpa [recordOf, ha, Except.map, Except.isOk, Except.toBool] using ih
    | ok x =>
      obtain ⟨m, s'⟩ := x
      rw [if_pos (by simp [recordOf, ha, Except.map, Except.isOk, Except.toBool])]
      exact (entries_of_attempt ha).trans (congrArg w.act ih)

/-! ## Keys that are taken -/

/-- No collection of the log has a colon in its name. -/
def Plain (log : List Record) : Prop := ∀ r ∈ log, ':' ∉ r.write.collection.toList

section

variable {α : Type} [Storable α]

/-- Another value of the collection has the natural key of `a`. -/
def Clashes (entries : List Entry) (a : α) : Prop :=
  ∃ e ∈ entries, e.collection = Storable.collection α ∧ e.id ≠ Storable.id a ∧
    ∃ key, Storable.naturalKey a = some key ∧ e.naturalKey = some key

/-- The call is refused because the natural key of `a` is taken. -/
def KeyRefused {β : Type} (a : α) (answer : Except StoreFault β) : Prop :=
  ∃ key, Storable.naturalKey a = some key ∧ answer = .error (.keyTaken (Storable.collection α) key)

theorem keyTaken_iff {s : Store} (hs : ∀ e ∈ s.entries, ':' ∉ e.collection.toList)
    (hc : ':' ∉ (Storable.collection α).toList) (a : α) :
    s.keyTaken (Storable.collection α) (Storable.naturalKey a) (Storable.id a) = true ↔ Clashes s.entries a := by
  have hrow : ∀ row ∈ s.rows, row.isUnder (Storable.collection α) = true ↔ row.collection = Storable.collection α :=
    fun row hm => Row.isUnder_iff hc (hs row.entry (List.mem_map_of_mem hm))
  simp only [Store.keyTaken, List.any_eq_true, Bool.and_eq_true, Bool.not_eq_true', Bool.eq_false_iff, ne_eq,
    Row.isAt_iff, beq_iff_eq, Option.isSome_iff_exists]
  constructor
  · rintro ⟨row, hm, ⟨⟨⟨key, hkey⟩, hu⟩, hn⟩, hk⟩
    have hat := (hrow row hm).mp hu
    exact ⟨row.entry, List.mem_map_of_mem hm, hat, fun hi => hn ⟨hat, hi⟩, key, hkey, hk.trans hkey⟩
  · rintro ⟨e, he, hat, hi, key, hkey, hk⟩
    obtain ⟨row, hm, rfl⟩ := List.mem_map.mp he
    exact ⟨row, hm, ⟨⟨⟨key, hkey⟩, (hrow row hm).mpr hat⟩, fun h => hi h.2⟩, hk.trans hkey.symm⟩

variable {s : Store} {a : α} {row : Row}

theorem exists_of_keyTaken {key : Option String} {collection : String} {id : Uuid}
    (h : s.keyTaken collection key id = true) : ∃ k, key = some k := by
  cases key with
  | none => simp at h
  | some k => exact ⟨k, rfl⟩

theorem refused_or_done {β : Type} {answer : Except StoreFault β} {x : β}
    (h : answer =
      if s.keyTaken (Storable.collection α) (Storable.naturalKey a) (Storable.id a) then
        .error (.keyTaken (Storable.collection α) ((Storable.naturalKey a).getD ""))
      else .ok x) :
    (KeyRefused a answer ↔
      s.keyTaken (Storable.collection α) (Storable.naturalKey a) (Storable.id a) = true) ∧
    ((∃ x, answer = .ok x) ↔
      ¬ s.keyTaken (Storable.collection α) (Storable.naturalKey a) (Storable.id a) = true) := by
  subst h
  by_cases hk : s.keyTaken (Storable.collection α) (Storable.naturalKey a) (Storable.id a) = true
  · obtain ⟨key, hkey⟩ := exists_of_keyTaken hk
    rw [hkey] at hk
    simp [KeyRefused, hkey, hk]
  · simp [KeyRefused, hk]

theorem insert_of_free (hn : s.row? (Storable.collection α) (Storable.id a) = none) (now : Nat) :
    (KeyRefused a (s.insert now a) ↔
      s.keyTaken (Storable.collection α) (Storable.naturalKey a) (Storable.id a) = true) ∧
    ((∃ x, s.insert now a = .ok x) ↔
      ¬ s.keyTaken (Storable.collection α) (Storable.naturalKey a) (Storable.id a) = true) :=
  refused_or_done (by simp only [Store.insert, hn]; rfl)

theorem update_of_matching (hr : s.row? (Storable.collection α) (Storable.id a) = some row) (now : Nat) :
    (KeyRefused a (s.update now a row.metadata.version) ↔
      s.keyTaken (Storable.collection α) (Storable.naturalKey a) (Storable.id a) = true) ∧
    ((∃ x, s.update now a row.metadata.version = .ok x) ↔
      ¬ s.keyTaken (Storable.collection α) (Storable.naturalKey a) (Storable.id a) = true) :=
  refused_or_done (by simp only [Store.update, hr, ne_eq, not_true_eq_false, if_false]; rfl)

theorem Entry.apart_of_not_clashes {entries : List Entry} (h : ¬ Clashes entries a) {e : Entry} (he : e ∈ entries)
    (hi : e.collection = Storable.collection α → e.id ≠ Storable.id a) : (Entry.of a).Apart e := by
  intro hc
  refine ⟨fun heq => hi hc.symm heq.symm, fun key hkey hk => h ⟨e, he, hc.symm, hi hc.symm, key, hkey, hk⟩⟩

end

theorem Entry.Apart.symm {e f : Entry} (h : e.Apart f) : f.Apart e := by
  intro hc
  obtain ⟨hi, hk⟩ := h hc.symm
  exact ⟨fun he => hi he.symm, fun key hf he => hk key he hf⟩

instance : Std.Symm Entry.Apart := ⟨fun _ _ => Entry.Apart.symm⟩

/-! ## One call -/

theorem not_clashes_of_insert {α : Type} [Storable α] {s s' : Store} {a : α} {now : Nat} {m : Option Metadata}
    (hs : ∀ e ∈ s.entries, ':' ∉ e.collection.toList) (hc : ':' ∉ (Storable.collection α).toList)
    (h : (Write.insert a).attempt now s = .ok (m, s')) : ¬ Clashes s.entries a := by
  simp only [Write.attempt] at h
  cases hi : s.insert now a with
  | error f => simp [hi, Except.map] at h
  | ok x =>
    obtain ⟨-, hk, -⟩ := Store.insert_eq_ok.mp hi
    rw [← keyTaken_iff hs hc a, hk]
    exact Bool.false_ne_true

theorem not_clashes_of_update {α : Type} [Storable α] {s s' : Store} {a : α} {expected : Int} {now : Nat}
    {m : Option Metadata} (hs : ∀ e ∈ s.entries, ':' ∉ e.collection.toList)
    (hc : ':' ∉ (Storable.collection α).toList) (h : (Write.update a expected).attempt now s = .ok (m, s')) :
    ¬ Clashes s.entries a := by
  simp only [Write.attempt] at h
  cases hu : s.update now a expected with
  | error f => simp [hu, Except.map] at h
  | ok x =>
    obtain ⟨_, -, -, hk, -⟩ := Store.update_eq_ok.mp hu
    rw [← keyTaken_iff hs hc a, hk]
    exact Bool.false_ne_true

/-- A call that is done leaves entries that are apart, where it found such. -/
theorem apart_of_attempt {s s' : Store} {w : Write} {now : Nat} {m : Option Metadata}
    (hs : ∀ e ∈ s.entries, ':' ∉ e.collection.toList) (hw : ':' ∉ w.collection.toList)
    (h : w.attempt now s = .ok (m, s')) (hp : s.entries.Pairwise Entry.Apart) : s'.entries.Pairwise Entry.Apart := by
  rw [entries_of_attempt h]
  cases w with
  | insert a =>
    have hfree := not_clashes_of_insert hs hw h
    obtain ⟨hn, -, -⟩ := attempt_insert h
    refine List.pairwise_cons.mpr ⟨fun e he => Entry.apart_of_not_clashes hfree he fun hc hi => ?_, hp⟩
    obtain ⟨row, hm, rfl⟩ := List.mem_map.mp he
    exact Store.row?_none hn row hm ⟨hc, hi⟩
  | @update α _ a expected =>
    have hfree := not_clashes_of_update hs hw h
    refine List.pairwise_map.mpr (hp.imp_of_mem fun {e f} he hf hef => ?_)
    -- of two entries at most one is at the place of `a`
    by_cases hae : e.isAt (Storable.collection α) (Storable.id a) = true
    · have hfa : ¬ f.isAt (Storable.collection α) (Storable.id a) = true := by
        intro hfa
        obtain ⟨⟨hec, hei⟩, hfc, hfi⟩ := And.intro (Entry.isAt_iff.mp hae) (Entry.isAt_iff.mp hfa)
        exact (hef (hec.trans hfc.symm)).1 (hei.trans hfi.symm)
      rw [if_pos hae, if_neg hfa]
      exact Entry.apart_of_not_clashes hfree hf fun hc hi => hfa (Entry.isAt_iff.mpr ⟨hc, hi⟩)
    · rw [if_neg hae]
      by_cases hfa : f.isAt (Storable.collection α) (Storable.id a) = true
      · rw [if_pos hfa]
        exact (Entry.apart_of_not_clashes hfree he fun hc hi => hae (Entry.isAt_iff.mpr ⟨hc, hi⟩)).symm
      · rw [if_neg hfa]
        exact hef
  | delete α id expected => exact hp.filter _

/-! ## Runs -/

theorem plain_live {log : List Record} (h : Plain log) : ∀ e ∈ live log, ':' ∉ e.collection.toList := by
  intro e he
  obtain ⟨r, hr, hre⟩ := exists_of_live he
  rw [Write.collection_of_entry? hre]
  exact h r hr

theorem apart_live {log : List Record} {s : Store} (h : History log s) (hp : Plain log) :
    (live log).Pairwise Entry.Apart := by
  rw [← entries_eq_live h]
  induction h with
  | start => exact List.Pairwise.nil
  | @call log s w now h ih =>
    obtain ⟨hw, hlog⟩ := List.forall_mem_cons.mp hp
    unfold Write.after
    cases ha : w.attempt now s with
    | error f => exact ih hlog
    | ok x => exact apart_of_attempt (entries_eq_live h ▸ plain_live hlog) hw ha (ih hlog)

/-- What a log puts into the collection of `α` are values of `α`. -/
def Only (α : Type) [Storable α] (log : List Record) : Prop :=
  ∀ r ∈ log, ∀ e, r.write.entry? = some e → e.collection = Storable.collection α → ∃ a : α, e = Entry.of a

namespace Only

variable {α : Type} [Storable α] {log : List Record}

theorem nil : Only α [] := fun _ hr => absurd hr List.not_mem_nil

section

variable (h : Only α log) (now : Nat) (s : Store)

include h

theorem insert (a : α) : Only α (recordOf (.insert a) now s :: log) :=
  List.forall_mem_cons.mpr ⟨fun _ he _ => ⟨a, (Option.some.inj he).symm⟩, h⟩

theorem update (a : α) (expected : Int) : Only α (recordOf (.update a expected) now s :: log) :=
  List.forall_mem_cons.mpr ⟨fun _ he _ => ⟨a, (Option.some.inj he).symm⟩, h⟩

theorem delete (β : Type) [Storable β] (id : Uuid) (expected : Int) :
    Only α (recordOf (.delete β id expected) now s :: log) :=
  List.forall_mem_cons.mpr ⟨fun _ he _ => absurd he (Option.some_ne_none _).symm, h⟩

theorem elsewhere {w : Write} (hne : w.collection ≠ Storable.collection α) : Only α (recordOf w now s :: log) :=
  List.forall_mem_cons.mpr ⟨fun _ he hc => absurd ((Write.collection_of_entry? he).symm.trans hc) hne, h⟩

end

end Only

theorem History.exists_value {α : Type} [Storable α] {log : List Record} {s : Store} (h : History log s)
    (ho : Only α log) {row : Row} (hm : row ∈ s.rows) (hc : row.collection = Storable.collection α) :
    row.entry ∈ live log ∧ ∃ a : α, row.entry = Entry.of a := by
  have hlive : row.entry ∈ live log := entries_eq_live h ▸ List.mem_map_of_mem hm
  obtain ⟨r, hr, hre⟩ := exists_of_live hlive
  exact ⟨hlive, ho r hr row.entry hre hc⟩

/-- What is read is the value written last, where values read back as what they were. -/
theorem mem_live_of_get {α : Type} [Storable α] {log : List Record} {s : Store} (h : History log s)
    (ho : Only α log) (hd : ∀ a : α, Storable.decode (Storable.encode a) = .ok a) {id : Uuid} {x : Stored α}
    (hx : s.get α id = .ok (some x)) : Entry.of x.data ∈ live log ∧ x.id = id := by
  unfold Store.get at hx
  cases hr : s.row? (Storable.collection α) id with
  | none => simp [hr] at hx
  | some row =>
    obtain ⟨hm, hc, hi⟩ := Store.row?_some hr
    obtain ⟨hlive, a, ha⟩ := h.exists_value ho hm hc
    have hbody : row.body = Storable.encode a := congrArg Entry.body ha
    have hid : row.id = Storable.id a := congrArg Entry.id ha
    simp only [hr, Row.read, hbody, hd, Except.map, Except.ok.injEq, Option.some.injEq] at hx
    subst hx
    exact ⟨ha ▸ hlive, hid.symm.trans hi⟩

/-- After any run, the rows are those of the values written last, at different places and with different natural keys
in a collection; so are the values that are read. An insertion under a free identifier and an update at the right
version are refused for the natural key just if another value of the collection has it now, and are done otherwise. -/
theorem natural_keys_are_current {log : List Record} {s : Store} (h : History log s) (hp : Plain log) :
    s.rows.map Row.entry = live log ∧ (live log).Pairwise Entry.Apart ∧
      (∀ {α : Type} [Storable α], Only α log → (∀ a : α, Storable.decode (Storable.encode a) = .ok a) →
        ∀ (id id' : Uuid) (x y : Stored α), s.get α id = .ok (some x) → s.get α id' = .ok (some y) → id ≠ id' →
          ∀ key, Storable.naturalKey x.data = some key → Storable.naturalKey y.data ≠ some key) ∧
      ∀ {α : Type} [Storable α] (a : α) (now : Nat), ':' ∉ (Storable.collection α).toList →
        (s.row? (Storable.collection α) (Storable.id a) = none →
          (KeyRefused a (s.insert now a) ↔ Clashes (live log) a) ∧
          ((∃ x, s.insert now a = .ok x) ↔ ¬ Clashes (live log) a)) ∧
        (∀ row, s.row? (Storable.collection α) (Storable.id a) = some row →
          (KeyRefused a (s.update now a row.metadata.version) ↔ Clashes (live log) a) ∧
          ((∃ x, s.update now a row.metadata.version = .ok x) ↔ ¬ Clashes (live log) a)) := by
  have hs : s.entries = live log := entries_eq_live h
  have hapart := apart_live h hp
  refine ⟨hs, hapart, fun {α} _ ho hd id id' x y hx hy hne => ?_, fun {α} _ a now hc => ?_⟩
  · obtain ⟨hxl, rfl⟩ := mem_live_of_get h ho hd hx
    obtain ⟨hyl, rfl⟩ := mem_live_of_get h ho hd hy
    have hxy : Entry.of x.data ≠ Entry.of y.data := fun he => hne (congrArg Entry.id he)
    exact (hapart.forall hxl hyl hxy rfl).2
  · rw [← hs, ← keyTaken_iff (hs ▸ plain_live hp) hc a]
    exact ⟨fun hn => insert_of_free hn now, fun row hr => update_of_matching hr now⟩

/-- A name that an author has given up is free at once, and her new one is taken. -/
theorem ursula_becomes_ann :
    let s1 := (Write.insert (Author.mk ⟨7⟩ "Ursula")).after 5 .empty
    let s2 := (Write.update (Author.mk ⟨7⟩ "Ann") 0).after 5 s1
    let log := [recordOf (.update (Author.mk ⟨7⟩ "Ann") 0) 5 s1, recordOf (.insert (Author.mk ⟨7⟩ "Ursula")) 5 .empty]
    History log s2 ∧ Plain log ∧ (∃ x, s2.insert 5 (Author.mk ⟨8⟩ "Ursula") = .ok x) ∧
      KeyRefused (Author.mk ⟨8⟩ " ANN") (s2.insert 5 (Author.mk ⟨8⟩ " ANN")) := by
  intro s1 s2 log
  have h : History log s2 := (History.start.call _ 5).call _ 5
  have hp : Plain log := by unfold Plain; decide
  obtain ⟨-, -, -, hcalls⟩ := natural_keys_are_current h hp
  have hlive : live log = [Entry.of (Author.mk ⟨7⟩ "Ann")] := rfl
  rw [hlive] at hcalls
  refine ⟨h, hp, ((hcalls (Author.mk ⟨8⟩ "Ursula") 5 (by decide)).1 rfl).2.mpr ?_,
    ((hcalls (Author.mk ⟨8⟩ " ANN") 5 (by decide)).1 rfl).1.mpr ?_⟩
  · rintro ⟨e, he, -, -, key, hkey, hk⟩
    obtain rfl := List.mem_singleton.mp he
    have hann : Text.lowercase (Text.trim "Ann") = key := Option.some.inj hk
    have hursula : Text.lowercase (Text.trim "Ursula") = key := Option.some.inj hkey
    exact absurd (hann.trans hursula.symm) (by decide)
  · exact ⟨_, List.mem_singleton.mpr rfl, rfl, by decide, "ann", by decide, by decide⟩

end Bookshop
