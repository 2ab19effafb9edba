/-
  Bookshop.Proofs.Store.Reads — all reads of a collection tell of the same rows, in two orders.

  Which rows there are after a run, and in which orders, is said by the log alone (`lineUp`): each call that is done
  puts its identifier at the end or takes it out. A serial number is greatest in the row that was inserted last, and a
  time in the row that was written last (`marks_serial`, `marks_updated`); so one argument, call by call, shows that
  the serial numbers ascend along one of the orders, and the times along the other (`History.linedUp`). A search sorts
  the rows by the first and a list by the second, and there is only one way to do so (`LinedUp.map_id_eq`).

  - `reads_agree`: after any run, a search of everything finds each row of the collection once, in the order of
    insertion; the pages of a list are the same rows in the order of their last writes; single reads and reads of
    several identifiers are looked up among them; and a write to another collection changes none of this.
-/

import Bookshop.Proofs.Search.Pages
import Bookshop.Proofs.Store.Legible

namespace Bookshop

/-! ## Orders of a log -/

/-- The identifiers of a collection after a call that is done. These calls put theirs at the end, and a deletion takes
it out. -/
def Write.lineUp (ends : List Verb) (w : Write) (ids : List Uuid) : List Uuid :=
  if w.verb = .delete then ids.filter (· ≠ w.id)
  else if w.verb ∈ ends then ids.filter (· ≠ w.id) ++ [w.id]
  else ids

/-- The identifiers of a collection after a log. -/
def lineUp (ends : List Verb) (collection : String) : List Record → List Uuid
  | [] => []
  | r :: log =>
    if r.answer.isOk ∧ r.write.collection = collection then r.write.lineUp ends (lineUp ends collection log)
    else lineUp ends collection log

/-- In the order of insertion: an update moves nothing, and what is inserted again goes last. -/
def inserted (collection : String) (log : List Record) : List Uuid := lineUp [.insert] collection log

/-- In the order of the last write: an update moves to the end as well. -/
def lastWritten (collection : String) (log : List Record) : List Uuid := lineUp [.insert, .update] collection log

/-! ## Keys along an order -/

/-- The keys ascend along the identifiers that have one. -/
def Ascending (key : Uuid → Option Nat) (ids : List Uuid) : Prop :=
  ids.Pairwise fun id id' => ∀ n n', key id = some n → key id' = some n' → n < n'

/-- The identifiers are those that have a key, and the keys ascend. -/
structure LinedUp (key : Uuid → Option Nat) (ids : List Uuid) : Prop where
  mem : ∀ id, id ∈ ids ↔ (key id).isSome
  ascending : Ascending key ids

section

variable {key : Uuid → Option Nat} {ids : List Uuid} {id : Uuid} {n : Nat}

theorem Ascending.others (h : Ascending key ids) (new : Option Nat) :
    Ascending (Function.update key id new) (ids.filter (· ≠ id)) := by
  refine (List.Pairwise.filter _ h).imp_of_mem fun {a b} ha hb hab => ?_
  rw [Function.update_of_ne (by simpa using (List.mem_filter.mp ha).2),
    Function.update_of_ne (by simpa using (List.mem_filter.mp hb).2)]
  exact hab

namespace LinedUp

theorem without (h : LinedUp key ids) (id : Uuid) : LinedUp (Function.update key id none) (ids.filter (· ≠ id)) := by
  refine ⟨fun other => ?_, h.ascending.others none⟩
  by_cases he : other = id
  · simp [he]
  · simp [he, h.mem]

theorem atEnd (h : LinedUp key ids) (hlast : ∀ other m, key other = some m → m < n) :
    LinedUp (Function.update key id (some n)) (ids.filter (· ≠ id) ++ [id]) := by
  constructor
  · intro other
    by_cases he : other = id
    · simp [he]
    · simp [he, h.mem]
  · refine List.pairwise_append.mpr
      ⟨h.ascending.others (some n), List.pairwise_singleton _ _, fun a ha b hb m m' hm hm' => ?_⟩
    obtain rfl := List.mem_singleton.mp hb
    rw [Function.update_of_ne (by simpa using (List.mem_filter.mp ha).2)] at hm
    rw [Function.update_self] at hm'
    cases hm'
    exact hlast a m hm

theorem nodup (h : LinedUp key ids) : ids.Nodup := by
  refine h.ascending.imp_of_mem fun {a b} ha _ hab => ?_
  rintro rfl
  obtain ⟨n, hn⟩ := Option.isSome_iff_exists.mp ((h.mem a).mp ha)
  exact Nat.lt_irrefl n (hab n n hn hn)

theorem eq_of_key (h : LinedUp key ids) {a b : Uuid} (ha : key a = some n) (hb : key b = some n) : a = b := by
  let Differ (a b : Uuid) : Prop := ∀ n, key a = some n → key b ≠ some n
  have hsymm : Std.Symm Differ := ⟨fun a b hab n hb ha => hab n ha hb⟩
  have hdiffer : ids.Pairwise Differ := h.ascending.imp fun hab n ha hb => Nat.lt_irrefl n (hab n n ha hb)
  by_contra hne
  exact hdiffer.forall ((h.mem a).mpr (by simp [ha])) ((h.mem b).mpr (by simp [hb])) hne n ha hb

theorem eq_of_sorted (h : LinedUp key ids) {ids' : List Uuid} (hn : ids'.Nodup)
    (hmem : ∀ id, id ∈ ids' ↔ (key id).isSome)
    (hle : ids'.Pairwise fun id id' => ∀ n n', key id = some n → key id' = some n' → n ≤ n') : ids' = ids := by
  have hsame : ids'.Perm ids := (List.perm_ext_iff_of_nodup hn h.nodup).mpr fun id => (hmem id).trans (h.mem id).symm
  have hle' : ids.Pairwise fun id id' => ∀ n n', key id = some n → key id' = some n' → n ≤ n' :=
    h.ascending.imp fun hlt n n' hn hn' => Nat.le_of_lt (hlt n n' hn hn')
  refine hsame.eq_of_pairwise (fun a b ha hb hab hba => ?_) hle hle'
  obtain ⟨n, hn⟩ := Option.isSome_iff_exists.mp ((hmem a).mp ha)
  obtain ⟨m, hm⟩ := Option.isSome_iff_exists.mp ((h.mem b).mp hb)
  obtain rfl : n = m := Nat.le_antisymm (hab n m hn hm) (hba m n hm hn)
  exact h.eq_of_key hn hm

end LinedUp

end

/-! ## Serial numbers and times -/

/-- The keys of the rows of a collection, by their identifiers. -/
def Store.keys (s : Store) (key : Row → Nat) (collection : String) (id : Uuid) : Option Nat :=
  (s.row? collection id).map key

/-- A key that is greatest in the row that one of these calls has left last, and that no other call changes. -/
structure Marks (ends : List Verb) (key : Row → Nat) : Prop where
  last : ∀ {w : Write} {now : Nat} {s s' : Store} {m : Option Metadata}, s.Numbered → s.Timely →
    w.attempt now s = .ok (m, s') → w.verb ∈ ends →
    ∃ new, s'.row? w.collection w.id = some new ∧ ∀ row ∈ s.rows, key row < key new
  kept : ∀ {w : Write} {now : Nat} {s s' : Store} {m : Option Metadata}, w.attempt now s = .ok (m, s') →
    w.verb ∉ ends → w.verb ≠ .delete → s'.keys key w.collection w.id = s.keys key w.collection w.id

theorem marks_serial : Marks [.insert] Row.serial := by
  refine ⟨fun {w now s s' m} hn _ ha hv => ?_, fun {w now s s' m} ha hv hd => ?_⟩
  · cases w with
    | insert a =>
      obtain ⟨-, -, rfl⟩ := attempt_insert ha
      exact ⟨_, s.row?_adding_self now a, hn.below⟩
    | update a expected => exact absurd hv (by simp [Write.verb])
    | delete α id expected => exact absurd hv (by simp [Write.verb])
  · cases w with
    | insert a => exact absurd (List.mem_singleton.mpr rfl) hv
    | update a expected =>
      obtain ⟨row, hr, -, -, rfl⟩ := attempt_update ha
      have hr' := Store.row?_replacing_self hr now
      exact (congrArg (Option.map Row.serial) hr').trans (congrArg (Option.map Row.serial) hr).symm
    | delete α id expected => exact absurd rfl hd

theorem marks_updated : Marks [.insert, .update] (·.metadata.updated) := by
  refine ⟨fun {w now s s' m} _ ht ha hv => ?_, fun {w now s s' m} ha hv hd => ?_⟩
  · cases w with
    | insert a =>
      obtain ⟨-, -, rfl⟩ := attempt_insert ha
      exact ⟨_, s.row?_adding_self now a, fun row hrow => ht.lt_tick hrow now⟩
    | update a expected =>
      obtain ⟨row, hr, -, -, rfl⟩ := attempt_update ha
      exact ⟨_, Store.row?_replacing_self hr now, fun row hrow => ht.lt_tick hrow now⟩
    | delete α id expected => exact absurd hv (by simp [Write.verb])
  · cases w with
    | insert a => exact absurd (by simp [Write.verb]) hv
    | update a expected => exact absurd (by simp [Write.verb]) hv
    | delete α id expected => exact absurd rfl hd

section

variable {ends : List Verb} {key : Row → Nat} {collection : String} {ids : List Uuid} (hk : Marks ends key)

include hk

theorem LinedUp.attempt {w : Write} {now : Nat} {s s' : Store} {m : Option Metadata}
    (h : LinedUp (s.keys key w.collection) ids) (hn : s.Numbered) (ht : s.Timely)
    (ha : w.attempt now s = .ok (m, s')) : LinedUp (s'.keys key w.collection) (w.lineUp ends ids) := by
  have hothers : ∀ other, other ≠ w.id → s'.keys key w.collection other = s.keys key w.collection other :=
    fun other hne => congrArg (Option.map key) (attempt_elsewhere ha fun he => hne he.2.symm)
  have hupdate {n : Option Nat} (hid : s'.keys key w.collection w.id = n) :
      s'.keys key w.collection = Function.update (s.keys key w.collection) w.id n := by
    funext other
    by_cases he : other = w.id
    · rw [he, Function.update_self, hid]
    · rw [Function.update_of_ne he, hothers other he]
  rw [Write.lineUp]
  split
  · next hv =>
    have hgone : s'.row? w.collection w.id = none := by
      cases w with
      | insert a => cases hv
      | update a expected => cases hv
      | delete α id expected =>
        obtain ⟨_, -, -, -, rfl⟩ := attempt_delete ha
        exact s.row?_removing_self _ _
    rw [hupdate (congrArg (Option.map key) hgone)]
    exact h.without w.id
  · next hv =>
    split
    · next he =>
      obtain ⟨new, hnew, hlast⟩ := hk.last hn ht ha he
      rw [hupdate (congrArg (Option.map key) hnew)]
      refine h.atEnd fun other n hother => ?_
      obtain ⟨row, hr, rfl⟩ := Option.map_eq_some_iff.mp hother
      exact hlast row (Store.row?_some hr).1
    · next he =>
      rw [hupdate (hk.kept ha he hv), Function.update_eq_self]
      exact h

theorem History.linedUp {log : List Record} {s : Store} (h : History log s) (collection : String) :
    LinedUp (s.keys key collection) (lineUp ends collection log) := by
  induction h with
  | start => exact ⟨fun id => by simp [lineUp, Store.keys, Store.row?, Store.empty], .nil⟩
  | @call log s w now h ih =>
    rw [lineUp, Write.after]
    cases ha : w.attempt now s with
    | error f =>
      have hrefused : ¬ ((recordOf w now s).answer.isOk ∧ (recordOf w now s).write.collection = collection) := by
        simp [recordOf, ha, Except.map, Except.isOk, Except.toBool]
      rw [if_neg hrefused]
      exact ih
    | ok answer =>
      obtain ⟨m, s'⟩ := answer
      have hdone : (recordOf w now s).answer.isOk := by simp [recordOf, ha, Except.map, Except.isOk, Except.toBool]
      by_cases hc : w.collection = collection
      · subst hc
        rw [if_pos ⟨hdone, rfl⟩]
        exact ih.attempt hk h.numbered h.timely ha
      · have hsame : s'.keys key collection = s.keys key collection :=
          funext fun id => congrArg (Option.map key) (attempt_elsewhere ha fun he => hc he.1)
        rw [if_neg fun he => hc he.2]
        simp only [hsame]
        exact ih

end

/-! ## Reads -/

section

variable {α : Type} [Storable α] {s : Store}

/-- The rows of a collection, sorted by a key, are in the order along which the key ascends. -/
theorem LinedUp.map_id_eq {key : Row → Nat} {ids : List Uuid} (hl : LinedUp (s.keys key (Storable.collection α)) ids)
    (h : s.Legible α) {rows : List Row} (hsame : rows.Perm (s.inOrder (Storable.collection α)))
    (hle : rows.Pairwise fun a b => key a ≤ key b) : rows.map Row.id = ids := by
  have hat : ∀ row ∈ rows, s.keys key (Storable.collection α) row.id = some (key row) := by
    intro row hrow
    obtain ⟨hm, hc⟩ := h.mem_inOrder.mp (hsame.mem_iff.mp hrow)
    rw [Store.keys, ← hc, Store.row?_of_mem h.apart hm, Option.map_some]
  refine hl.eq_of_sorted ((hsame.map _).nodup_iff.mpr h.nodup_inOrder) (fun id => ?_) ?_
  · constructor
    · intro hid
      obtain ⟨row, hrow, rfl⟩ := List.mem_map.mp hid
      rw [hat row hrow]
      rfl
    · intro hid
      obtain ⟨row, hr⟩ := Option.isSome_iff_exists.mp (Option.isSome_map.symm.trans hid)
      obtain ⟨hm, hc, rfl⟩ := Store.row?_some hr
      exact List.mem_map_of_mem (hsame.mem_iff.mpr (h.mem_inOrder.mpr ⟨hm, hc⟩))
  · refine List.pairwise_map.mpr (hle.imp_of_mem fun {a b} ha hb hab n n' hn hn' => ?_)
    rw [hat a ha] at hn
    rw [hat b hb] at hn'
    cases hn
    cases hn'
    exact hab

theorem Store.Legible.get_eq (h : s.Legible α) {found : List (Stored α)}
    (hmem : ∀ a, a ∈ found ↔ s.get α a.id = .ok (some a)) (id : Uuid) :
    s.get α id = .ok (found.find? (·.id == id)) := by
  have hone : ∀ a ∈ found, a.id = id → s.get α id = .ok (some a) := by
    rintro a ha rfl
    exact (hmem a).mp ha
  cases hf : found.find? (·.id == id) with
  | some a => exact hone a (List.mem_of_find?_eq_some hf) (by simpa using List.find?_some hf)
  | none =>
    obtain ⟨there, hget⟩ := h.answers.get id
    cases there with
    | none => exact hget
    | some a =>
      have hid := h.id_of_get hget
      have hne : ∀ a ∈ found, a.id ≠ id := by simpa using hf
      exact absurd hid (hne a ((hmem a).mpr (hid ▸ hget)))

theorem Store.getMany_eq {look : Uuid → Option (Stored α)} (hget : ∀ id, s.get α id = .ok (look id)) (ids : List Uuid) :
    s.getMany α ids = .ok (ids.filterMap look) := by
  induction ids with
  | nil => rfl
  | cons id ids ih =>
    have hid := hget id
    rw [getMany] at ih ⊢
    rw [get] at hid
    cases hr : s.row? (Storable.collection α) id with
    | none =>
      rw [hr] at hid
      rw [List.filterMap_cons_none hr, List.filterMap_cons_none (Except.ok.inj hid).symm]
      exact ih
    | some row =>
      rw [hr] at hid
      obtain ⟨a, ha, hlook⟩ := except_map_eq_ok.mp hid
      rw [List.filterMap_cons_some hr, List.filterMap_cons_some hlook.symm, List.mapM_cons, ha, ih]
      rfl

theorem Store.list_eq {listed : List (Stored α)}
    (hl : (s.byLastWrite (Storable.collection α)).mapM Row.read = .ok listed) (page : Window) :
    s.list α page = .ok (page.apply listed) := by
  have hall := mapM_eq_ok.mp hl
  have hslice : (page.slice (s.byLastWrite (Storable.collection α))).mapM Row.read = .ok (page.slice listed) :=
    mapM_eq_ok.mpr (List.forall₂_take _ (List.forall₂_drop _ hall))
  refine except_bind_eq_ok.mpr ⟨_, hslice, ?_⟩
  rw [hall.length_eq]
  rfl

theorem Store.find_all {all : List (Stored α)} (h : (s.inOrder (Storable.collection α)).mapM Row.read = .ok all) :
    s.find (fun _ : α => true) = .ok all := by
  simp [find, h, bind, Except.bind, pure, Except.pure]

end

/-- What every read of the collection answers, if a search of everything and a list of everything answer this. -/
structure Store.ReadsAs {α : Type} [Storable α] (s : Store) (found listed : List (Stored α)) : Prop where
  find : s.find (fun _ : α => true) = .ok found
  get : ∀ id, s.get α id = .ok (found.find? (·.id == id))
  getMany : ∀ ids, s.getMany α ids = .ok (ids.filterMap fun id => found.find? (·.id == id))
  list : ∀ size, 1 ≤ size → ∃ pages : Nat → Page (Stored α),
    (∀ k, s.list α ⟨k, size⟩ = .ok (pages k)) ∧
    (∀ n, listed.length ⌈/⌉ size ≤ n → (List.range n).flatMap (fun k => (pages k).content) = listed) ∧
    ∀ k, (pages k).info.totalElements = found.length

/-- Every read of the type answers the same in both stores. -/
structure Store.SameReads (α : Type) [Storable α] (s s' : Store) : Prop where
  get : ∀ id, s'.get α id = s.get α id
  getMany : ∀ ids, s'.getMany α ids = s.getMany α ids
  find : ∀ p : α → Bool, s'.find p = s.find p
  list : ∀ page, s'.list α page = s.list α page

/-! ## Writes to other collections -/

theorem under_elsewhere {w : Write} {now : Nat} {s s' : Store} {m : Option Metadata} {collection : String}
    (ha : w.attempt now s = .ok (m, s')) (hne : w.collection ≠ collection) (hw : ':' ∉ w.collection.toList)
    (hc : ':' ∉ collection.toList) :
    s'.rows.filter (Row.isUnder collection) = s.rows.filter (Row.isUnder collection) := by
  have hother : ∀ row : Row, row.collection = w.collection → row.isUnder collection = false := by
    intro row hrow
    rw [Bool.eq_false_iff, ne_eq, Row.isUnder_iff hc (hrow ▸ hw), hrow]
    exact hne
  cases w with
  | insert a =>
    obtain ⟨-, -, rfl⟩ := attempt_insert ha
    exact List.filter_cons_of_neg (by rw [hother _ rfl]; exact Bool.false_ne_true)
  | @update α _ a expected =>
    obtain ⟨_, -, -, -, rfl⟩ := attempt_update ha
    let renew (row : Row) : Row :=
      if row.isAt (Storable.collection α) (Storable.id a) then row.renewed a (s.tick now) else row
    have hunder : Row.isUnder collection ∘ renew = Row.isUnder collection := by
      funext row
      simp only [renew, Function.comp_apply]
      split <;> rfl
    have hsame : ∀ row ∈ s.rows.filter (Row.isUnder collection), renew row = row := by
      intro row hm
      refine if_neg fun hat => ?_
      have hnot := hother row (Row.isAt_iff.mp hat).1
      rw [(List.mem_filter.mp hm).2] at hnot
      cases hnot
    show (s.rows.map renew).filter (Row.isUnder collection) = s.rows.filter (Row.isUnder collection)
    rw [List.filter_map, hunder, List.map_congr_left hsame, List.map_id']
  | delete α id expected =>
    obtain ⟨_, -, -, -, rfl⟩ := attempt_delete ha
    rw [Store.removing, List.filter_filter]
    refine List.filter_congr fun row _ => ?_
    cases hat : row.isAt (Storable.collection α) id with
    | false => simp
    | true => simp [hother row (Row.isAt_iff.mp hat).1]

theorem sameReads_elsewhere {α : Type} [Storable α] (s : Store) (now : Nat) {w : Write}
    (hne : w.collection ≠ Storable.collection α) (hw : ':' ∉ w.collection.toList)
    (hc : ':' ∉ (Storable.collection α).toList) : s.SameReads α (w.after now s) := by
  rw [Write.after]
  cases ha : w.attempt now s with
  | error f => exact ⟨fun _ => rfl, fun _ => rfl, fun _ => rfl, fun _ => rfl⟩
  | ok answer =>
    obtain ⟨m, s'⟩ := answer
    have hunder := under_elsewhere ha hne hw hc
    have hrow : s'.row? (Storable.collection α) = s.row? (Storable.collection α) :=
      funext fun id => attempt_elsewhere ha fun he => hne he.1
    have horder : s'.inOrder (Storable.collection α) = s.inOrder (Storable.collection α) := by
      rw [Store.inOrder, Store.inOrder, hunder]
    constructor
    · exact fun id => Store.get_congr (congrFun hrow id)
    · intro ids
      rw [Store.getMany, Store.getMany, hrow]
    · intro p
      rw [Store.find, Store.find, horder]
    · intro page
      rw [Store.list, Store.list, Store.byLastWrite, Store.byLastWrite, horder]

/-! ## Agreement -/

/-- What is found is what the values written last read back as. -/
theorem History.found_iff {α : Type} [Storable α] {log : List Record} {s : Store} (h : History log s)
    (hl : s.Legible α) {found : List (Stored α)} (hmem : ∀ a, a ∈ found ↔ s.get α a.id = .ok (some a)) (id : Uuid)
    (data : α) : (∃ a ∈ found, a.id = id ∧ a.data = data) ↔
      ∃ e ∈ live log, e.isAt (Storable.collection α) id = true ∧ Storable.decode e.body = .ok data := by
  rw [← entries_eq_live h]
  constructor
  · rintro ⟨a, ha, rfl, rfl⟩
    obtain ⟨row, hr, hread⟩ := Store.get_eq_some.mp ((hmem a).mp ha)
    obtain ⟨hm, hat⟩ := Store.row?_some hr
    exact ⟨row.entry, List.mem_map_of_mem hm, Entry.isAt_iff.mpr hat, Row.decode_of_read hread⟩
  · rintro ⟨e, he, hat, hdata⟩
    obtain ⟨row, hm, rfl⟩ := List.mem_map.mp he
    obtain ⟨hc, rfl⟩ := Entry.isAt_iff.mp hat
    obtain ⟨a, ha, hid⟩ := hl.reads row hm hc
    refine ⟨a, (hmem a).mpr ?_, hid, Except.ok.inj ((Row.decode_of_read ha).symm.trans hdata)⟩
    rw [hid]
    exact hl.get_of_mem hm hc ha

/-- After any run that puts values of one type into the collection and leaves rows that decode: a search of everything
finds the values written last, each once and as inserted; the list has the same rows as last written; the other reads
look up what the search found; and a write to another collection changes none of them. -/
theorem reads_agree {α : Type} [Storable α] {log : List Record} {s : Store} (h : History log s) (hp : Plain log)
    (ho : Only α log) (hc : ':' ∉ (Storable.collection α).toList)
    (hid : ∀ a b : α, Storable.decode (Storable.encode a) = .ok b → Storable.id b = Storable.id a)
    (hd : s.Decodes α) (hfit : s.rows.length < UInt64.size) :
    ∃ found listed : List (Stored α), s.ReadsAs found listed ∧
      found.map Stored.id = inserted (Storable.collection α) log ∧
      (inserted (Storable.collection α) log).Nodup ∧
      listed.map Stored.id = lastWritten (Storable.collection α) log ∧
      listed.Perm found ∧
      (∀ id (data : α), (∃ a ∈ found, a.id = id ∧ a.data = data) ↔
        ∃ e ∈ live log, e.isAt (Storable.collection α) id = true ∧ Storable.decode e.body = .ok data) ∧
      ∀ (w : Write) (now : Nat), w.collection ≠ Storable.collection α → ':' ∉ w.collection.toList →
        s.SameReads α (w.after now s) := by
  have hl := h.legible hp ho hc hid hd
  have hserials := h.linedUp marks_serial (Storable.collection α)
  have htimes := h.linedUp marks_updated (Storable.collection α)
  have hsame : (s.byLastWrite (Storable.collection α)).Perm (s.inOrder (Storable.collection α)) := List.mergeSort_perm _ _
  have hreads : ∀ row ∈ s.inOrder (Storable.collection α), ∃ a : Stored α, row.read = .ok a ∧ a.id = row.id :=
    fun row hm => hl.reads row (hl.mem_inOrder.mp hm).1 (hl.mem_inOrder.mp hm).2
  obtain ⟨found, hfound, hids, -⟩ := Store.exists_mapM_read _ hreads
  obtain ⟨listed, hlisted, hids', -⟩ := Store.exists_mapM_read _ fun row hm => hreads row (hsame.mem_iff.mp hm)
  rw [hserials.map_id_eq hl (.refl _) (s.pairwise_inOrder _)] at hids
  rw [htimes.map_id_eq hl hsame (s.pairwise_byLastWrite _)] at hids'
  have hfind := Store.find_all hfound
  have hmem : ∀ a, a ∈ found ↔ s.get α a.id = .ok (some a) := by
    obtain ⟨found', hfind', -, hmem⟩ := hl.find fun _ => true
    obtain rfl : found' = found := Except.ok.inj (hfind'.symm.trans hfind)
    simpa using hmem
  have hget := hl.get_eq hmem
  have hperm : listed.Perm found := by
    refine (List.perm_ext_iff_of_nodup ?_ ?_).mpr fun a => ?_
    · exact List.Nodup.of_map _ (hids' ▸ htimes.nodup)
    · exact List.Nodup.of_map _ (hids ▸ hserials.nodup)
    · rw [mem_of_mapM hlisted, mem_of_mapM hfound]
      simp only [hsame.mem_iff]
  have hshort : listed.length < UInt64.size := by
    have hrows := s.length_inOrder_le (Storable.collection α)
    rw [hperm.length_eq, ← (mapM_eq_ok.mp hfound).length_eq]
    omega
  refine ⟨found, listed, ⟨hfind, hget, Store.getMany_eq hget, fun size hsize => ?_⟩, hids, hserials.nodup, hids',
    hperm, h.found_iff hl hmem, fun w now hne hw => sameReads_elsewhere s now hne hw hc⟩
  refine ⟨fun k => Window.apply ⟨k, size⟩ listed, fun k => Store.list_eq hlisted ⟨k, size⟩, fun n hn => ?_, fun _ => ?_⟩
  · exact Window.flatMap_slice_all hshort hsize hn
  · exact hperm.length_eq

/-- Three names were put in; the first was then spelled out, and the second taken out and put in again. A label that has
the identifier of the second author is somewhere else. -/
theorem the_authors_are_read_in_two_orders :
    let s1 := (Write.insert (Author.mk ⟨1⟩ "A. Lovelace")).after 5 .empty
    let s2 := (Write.insert (Author.mk ⟨2⟩ "Ann")).after 5 s1
    let s3 := (Write.insert (Author.mk ⟨3⟩ "Ursula")).after 5 s2
    let s4 := (Write.update (Author.mk ⟨1⟩ "Ada Lovelace") 0).after 5 s3
    let s5 := (Write.delete Author ⟨2⟩ 0).after 5 s4
    let s6 := (Write.insert (Author.mk ⟨2⟩ "Ann")).after 5 s5
    let s7 := (Write.insert (ShelfLabel.mk ⟨2⟩ "poetry")).after 5 s6
    let s8 := (Write.update (Author.mk ⟨3⟩ "Ursula Le Guin") 0).after 5 s7
    let log := [recordOf (.update (Author.mk ⟨3⟩ "Ursula Le Guin") 0) 5 s7,
      recordOf (.insert (ShelfLabel.mk ⟨2⟩ "poetry")) 5 s6, recordOf (.insert (Author.mk ⟨2⟩ "Ann")) 5 s5,
      recordOf (.delete Author ⟨2⟩ 0) 5 s4, recordOf (.update (Author.mk ⟨1⟩ "Ada Lovelace") 0) 5 s3,
      recordOf (.insert (Author.mk ⟨3⟩ "Ursula")) 5 s2, recordOf (.insert (Author.mk ⟨2⟩ "Ann")) 5 s1,
      recordOf (.insert (Author.mk ⟨1⟩ "A. Lovelace")) 5 .empty]
    History log s8 ∧ Plain log ∧ Only Author log ∧ s8.Decodes Author ∧ s8.rows.length < UInt64.size ∧
      ∃ found listed : List (Stored Author), s8.ReadsAs found listed ∧
        found.map Stored.id = [⟨1⟩, ⟨3⟩, ⟨2⟩] ∧ listed.map Stored.id = [⟨1⟩, ⟨2⟩, ⟨3⟩] := by
  intro s1 s2 s3 s4 s5 s6 s7 s8 log
  have h : History log s8 :=
    (((((((History.start.call _ 5).call _ 5).call _ 5).call _ 5).call _ 5).call _ 5).call _ 5).call _ 5
  have hp : Plain log := by unfold Plain; decide
  have ho : Only Author log :=
    (((((((Only.nil.insert 5 _ _).insert 5 _ _).insert 5 _ _).update 5 _ _ 0).delete 5 _ Author _ 0).insert 5 _ _).elsewhere
      5 _ (by decide)).update 5 _ _ 0
  have hd : s8.Decodes Author := h.decodes ho Author.decode_toJson
  have hfit : s8.rows.length < UInt64.size := by decide +kernel
  have hinserted : inserted (Storable.collection Author) log = [⟨1⟩, ⟨3⟩, ⟨2⟩] := by decide +kernel
  have hwritten : lastWritten (Storable.collection Author) log = [⟨1⟩, ⟨2⟩, ⟨3⟩] := by decide +kernel
  obtain ⟨found, listed, hreads, hfound, -, hlisted, -⟩ :=
    reads_agree h hp ho (by decide) (fun _ _ => Author.id_of_decode_toJson) hd hfit
  exact ⟨h, hp, ho, hd, hfit, found, listed, hreads, hfound.trans hinserted, hlisted.trans hwritten⟩

end Bookshop
