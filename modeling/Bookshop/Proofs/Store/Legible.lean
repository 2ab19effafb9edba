/-
  Bookshop.Proofs.Store.Legible — stores of which all rows of one kind can be read.

  A store is legible for a type if every row of the type's collection reads as a value with the identifier of
  the row, no two rows are at one place, and the keys of the collection are told from all others. In such a
  store every read of the type is answered (`Legible.answers`), whatever else the store holds, and answers
  what is read at single places: a search finds each row that satisfies its condition once (`Legible.find`), in
  the order of insertion (`Legible.pairwise_insertedBefore`), and a page and the rows of several identifiers
  hold nothing else (`Legible.of_list`, `Legible.of_getMany`, `Legible.find?_getMany`).

  Any run of the store that writes nothing else into the collection leaves a store that is legible, if only its
  rows decode (`History.legible`), as they do where values read back as what they were (`History.decodes`).
-/

import Bookshop.Proofs.Resources.Normal
import Bookshop.Proofs.Store.NaturalKeys

namespace Bookshop

/-! ## Places -/

def Row.place (row : Row) : String × Uuid := (row.collection, row.id)

namespace Store

variable {α : Type} [Storable α] {s s' : Store}

theorem get_eq_some {id : Uuid} {found : Stored α} :
    s.get α id = .ok (some found) ↔ ∃ row, s.row? (Storable.collection α) id = some row ∧ row.read = .ok found := by
  unfold get
  cases s.row? (Storable.collection α) id with
  | none => simp
  | some row => simp [except_map_eq_ok]

theorem row?_of_get {id : Uuid} {found : Stored α} (h : s.get α id = .ok (some found)) :
    ∃ row, s.row? (Storable.collection α) id = some row ∧ row.metadata.version = found.version := by
  obtain ⟨row, hr, hread⟩ := get_eq_some.mp h
  exact ⟨row, hr, congrArg Metadata.version (Row.metadata_of_read hread).symm⟩

theorem get_congr {id : Uuid}
    (h : s'.row? (Storable.collection α) id = s.row? (Storable.collection α) id) : s'.get α id = s.get α id := by
  rw [get, get, h]

theorem row?_of_mem (h : (s.rows.map Row.place).Nodup) {row : Row} (hm : row ∈ s.rows) :
    s.row? row.collection row.id = some row := by
  cases hf : s.row? row.collection row.id with
  | none => exact absurd ⟨rfl, rfl⟩ (row?_none hf row hm)
  | some other =>
    obtain ⟨ho, hc, hi⟩ := row?_some hf
    rw [List.inj_on_of_nodup_map h ho hm (Prod.ext hc hi)]

theorem exists_mapM_read (rows : List Row) (h : ∀ row ∈ rows, ∃ a : Stored α, row.read = .ok a ∧ a.id = row.id) :
    ∃ all : List (Stored α), rows.mapM Row.read = .ok all ∧ all.map Stored.id = rows.map Row.id ∧
      ∀ a, a ∈ all ↔ ∃ row ∈ rows, row.read = .ok a := by
  induction rows with
  | nil => exact ⟨[], rfl, rfl, by simp⟩
  | cons row rows ih =>
    obtain ⟨a, ha, hid⟩ := h row List.mem_cons_self
    obtain ⟨all, hall, hids, hmem⟩ := ih fun other ho => h other (List.mem_cons_of_mem row ho)
    refine ⟨a :: all, ?_, by rw [List.map_cons, List.map_cons, hid, hids], fun b => ?_⟩
    · rw [List.mapM_cons, ha, hall]
      rfl
    · simp [ha, hmem, eq_comm]

/-! ## Legible stores -/

/-- No two rows are at one place. The rows whose key begins with the name of the collection are those of the collection,
and each of them can be read, under its own identifier. -/
structure Legible (α : Type) [Storable α] (s : Store) : Prop where
  under : ∀ row ∈ s.rows, row.isUnder (Storable.collection α) = true ↔ row.collection = Storable.collection α
  apart : (s.rows.map Row.place).Nodup
  reads : ∀ row ∈ s.rows, row.collection = Storable.collection α → ∃ a : Stored α, row.read = .ok a ∧ a.id = row.id

/-- Every row of the type's collection can be read. -/
def Decodes (α : Type) [Storable α] (s : Store) : Prop :=
  ∀ row ∈ s.rows, row.collection = Storable.collection α → ∃ a : Stored α, row.read = .ok a

theorem decodes_iff : s.Decodes α ↔
    ∀ e ∈ s.entries, e.collection = Storable.collection α → ∃ a : α, Storable.decode e.body = .ok a := by
  simp only [entries, List.forall_mem_map]
  refine forall₂_congr fun row _ => imp_congr_right fun _ => ?_
  constructor
  · intro h
    obtain ⟨a, ha⟩ := h
    exact ⟨a.data, Row.decode_of_read ha⟩
  · intro h
    obtain ⟨a, ha⟩ := h
    refine ⟨⟨a, row.metadata⟩, ?_⟩
    rw [Row.read, show Storable.decode row.body = .ok a from ha]

/-- The serials tell the rows apart, and the next one is free. -/
structure Numbered (s : Store) : Prop where
  below : ∀ row ∈ s.rows, row.serial < s.nextSerial
  apart : (s.rows.map Row.serial).Nodup

/-- The row of one identifier was inserted before that of the other. -/
def InsertedBefore (s : Store) (collection : String) (id id' : Uuid) : Prop :=
  ∃ row row', s.row? collection id = some row ∧ s.row? collection id' = some row' ∧ row.serial < row'.serial

/-- What is read at a place, if there is something and it can be read. -/
def found? (s : Store) (α : Type) [Storable α] (id : Uuid) : Option (Stored α) :=
  match s.get α id with
  | .ok found => found
  | .error _ => none

theorem found?_eq_some {id : Uuid} {a : Stored α} : s.found? α id = some a ↔ s.get α id = .ok (some a) := by
  unfold found?
  cases s.get α id with
  | ok found => simp
  | error fault => simp

theorem length_inOrder_le (s : Store) (collection : String) : (s.inOrder collection).length ≤ s.rows.length := by
  rw [inOrder, List.length_mergeSort]
  exact List.length_filter_le _ _

theorem pairwise_inOrder (s : Store) (collection : String) :
    (s.inOrder collection).Pairwise fun a b => a.serial ≤ b.serial := by
  refine (List.pairwise_mergeSort ?_ ?_ _).imp fun hab => by simpa using hab
  · intro a b c hab hbc
    simp only [decide_eq_true_eq] at hab hbc ⊢
    omega
  · intro a b
    simp only [Bool.or_eq_true, decide_eq_true_eq]
    omega

theorem pairwise_byLastWrite (s : Store) (collection : String) :
    (s.byLastWrite collection).Pairwise fun a b => a.metadata.updated ≤ b.metadata.updated := by
  refine (List.pairwise_mergeSort ?_ ?_ _).imp fun {a b} hab => ?_
  · intro a b c hab hbc
    simp only [Row.writtenBefore, Bool.or_eq_true, Bool.and_eq_true, decide_eq_true_eq, beq_iff_eq] at hab hbc ⊢
    omega
  · intro a b
    simp only [Row.writtenBefore, Bool.or_eq_true, Bool.and_eq_true, decide_eq_true_eq, beq_iff_eq]
    omega
  · simp only [Row.writtenBefore, Bool.or_eq_true, Bool.and_eq_true, decide_eq_true_eq, beq_iff_eq] at hab
    omega

/-- Every read of the type is answered. -/
structure Answers (α : Type) [Storable α] (s : Store) : Prop where
  get : ∀ id, ∃ found, s.get α id = .ok found
  getMany : ∀ ids, ∃ found, s.getMany α ids = .ok found
  find : ∀ p : α → Bool, ∃ found, s.find p = .ok found
  list : ∀ page, ∃ answer, s.list α page = .ok answer

namespace Legible

variable (h : s.Legible α)

include h

theorem mem_inOrder {row : Row} :
    row ∈ s.inOrder (Storable.collection α) ↔ row ∈ s.rows ∧ row.collection = Storable.collection α := by
  rw [inOrder, List.mem_mergeSort, List.mem_filter, and_congr_right_iff]
  exact fun hm => h.under row hm

theorem mem_byLastWrite {row : Row} :
    row ∈ s.byLastWrite (Storable.collection α) ↔ row ∈ s.rows ∧ row.collection = Storable.collection α := by
  rw [byLastWrite, List.mem_mergeSort]
  exact h.mem_inOrder

theorem nodup_inOrder : ((s.inOrder (Storable.collection α)).map Row.id).Nodup := by
  have hp : ((s.inOrder (Storable.collection α)).map Row.place).Nodup :=
    ((List.mergeSort_perm _ _).map _).nodup_iff.mpr (h.apart.sublist (List.filter_sublist.map _))
  have he : (s.inOrder (Storable.collection α)).map Row.place =
      ((s.inOrder (Storable.collection α)).map Row.id).map (Prod.mk (Storable.collection α)) := by
    rw [List.map_map]
    exact List.map_congr_left fun row hm => Prod.ext (h.mem_inOrder.mp hm).2 rfl
  exact List.Nodup.of_map _ (he ▸ hp)

theorem get_of_mem {row : Row} (hm : row ∈ s.rows) (hc : row.collection = Storable.collection α) {a : Stored α}
    (ha : row.read = .ok a) : s.get α row.id = .ok (some a) :=
  get_eq_some.mpr ⟨row, hc ▸ row?_of_mem h.apart hm, ha⟩

theorem id_of_get {id : Uuid} {found : Stored α} (hg : s.get α id = .ok (some found)) : found.id = id := by
  obtain ⟨row, hr, hread⟩ := get_eq_some.mp hg
  obtain ⟨hm, hc, rfl⟩ := row?_some hr
  obtain ⟨a, ha, hid⟩ := h.reads row hm hc
  rw [hread] at ha
  cases ha
  exact hid

theorem of_mapM_read {rows : List Row} (hm : ∀ row ∈ rows, row ∈ s.rows ∧ row.collection = Storable.collection α)
    {all : List (Stored α)} (hall : rows.mapM Row.read = .ok all) : ∀ a ∈ all, s.get α a.id = .ok (some a) := by
  obtain ⟨all', hall', -, hmem⟩ := exists_mapM_read _ fun row hrow => h.reads row (hm row hrow).1 (hm row hrow).2
  obtain rfl : all' = all := Except.ok.inj (hall'.symm.trans hall)
  intro a ha
  obtain ⟨row, hrow, hr⟩ := (hmem a).mp ha
  have hget : s.get α row.id = .ok (some a) := h.get_of_mem (hm row hrow).1 (hm row hrow).2 hr
  rw [h.id_of_get hget]
  exact hget

theorem mem_of_mem_slice {page : Window} {row : Row}
    (hrow : row ∈ page.slice (s.byLastWrite (Storable.collection α))) :
    row ∈ s.rows ∧ row.collection = Storable.collection α :=
  h.mem_byLastWrite.mp (List.mem_of_mem_drop (List.mem_of_mem_take hrow))

omit h in
theorem mem_of_mem_rows {ids : List Uuid} {row : Row}
    (hrow : row ∈ ids.filterMap (s.row? (Storable.collection α))) :
    row ∈ s.rows ∧ row.collection = Storable.collection α := by
  obtain ⟨id, -, hr⟩ := List.mem_filterMap.mp hrow
  exact ⟨(row?_some hr).1, (row?_some hr).2.1⟩

theorem of_list {page : Window} {answer : Page (Stored α)} (hl : s.list α page = .ok answer) :
    ∀ a ∈ answer.content, s.get α a.id = .ok (some a) := by
  obtain ⟨content, hc, hp⟩ := except_bind_eq_ok.mp hl
  cases hp
  exact h.of_mapM_read (fun _ hrow => h.mem_of_mem_slice hrow) hc

theorem of_getMany {ids : List Uuid} {all : List (Stored α)} (hg : s.getMany α ids = .ok all) :
    ∀ a ∈ all, s.get α a.id = .ok (some a) :=
  h.of_mapM_read (fun _ hrow => mem_of_mem_rows hrow) hg

/-- A search finds everything of its kind that satisfies `p`, in the order of the rows and as it is read on its own. -/
theorem find (p : α → Bool) :
    ∃ found : List (Stored α), s.find p = .ok found ∧
      (found.map Stored.id).Sublist ((s.inOrder (Storable.collection α)).map Row.id) ∧
      ∀ a : Stored α, a ∈ found ↔ p a.data = true ∧ s.get α a.id = .ok (some a) := by
  have hrow : ∀ row ∈ s.inOrder (Storable.collection α), ∃ a : Stored α, row.read = .ok a ∧ a.id = row.id := by
    intro row hm
    obtain ⟨hm, hc⟩ := h.mem_inOrder.mp hm
    exact h.reads row hm hc
  obtain ⟨all, hall, hids, hmem⟩ := exists_mapM_read _ hrow
  refine ⟨all.filter (fun a => p a.data), ?_, ?_, fun a => ?_⟩
  · simp [Store.find, hall, bind, Except.bind, pure, Except.pure]
  · rw [← hids]
    exact List.filter_sublist.map _
  · rw [List.mem_filter, and_comm, hmem, and_congr_right_iff]
    intro _
    rw [get_eq_some]
    constructor
    · rintro ⟨row, hm, ha⟩
      obtain ⟨b, hb, hid⟩ := hrow row hm
      obtain ⟨hm, hc⟩ := h.mem_inOrder.mp hm
      rw [hb] at ha
      cases ha
      exact ⟨row, by rw [hid, ← hc, row?_of_mem h.apart hm], hb⟩
    · rintro ⟨row, hr, ha⟩
      obtain ⟨hm, hc, -⟩ := row?_some hr
      exact ⟨row, h.mem_inOrder.mpr ⟨hm, hc⟩, ha⟩

theorem answers : s.Answers α := by
  constructor
  · intro id
    unfold Store.get
    cases hr : s.row? (Storable.collection α) id with
    | none => exact ⟨none, rfl⟩
    | some row =>
      obtain ⟨hm, hc, -⟩ := row?_some hr
      obtain ⟨a, ha, -⟩ := h.reads row hm hc
      refine ⟨some a, ?_⟩
      show row.read.map some = .ok (some a)
      rw [ha]
      rfl
  · intro ids
    obtain ⟨all, hall, -, -⟩ := exists_mapM_read (ids.filterMap (s.row? (Storable.collection α))) fun row hrow =>
      h.reads row (mem_of_mem_rows hrow).1 (mem_of_mem_rows hrow).2
    exact ⟨all, hall⟩
  · intro p
    obtain ⟨found, hfound, -, -⟩ := h.find p
    exact ⟨found, hfound⟩
  · intro page
    obtain ⟨all, hall, -, -⟩ := exists_mapM_read (page.slice (s.byLastWrite (Storable.collection α)))
      fun row hrow => h.reads row (h.mem_of_mem_slice hrow).1 (h.mem_of_mem_slice hrow).2
    exact ⟨_, except_bind_eq_ok.mpr ⟨all, hall, rfl⟩⟩

theorem find?_getMany {ids : List Uuid} {all : List (Stored α)} (hg : s.getMany α ids = .ok all) {id : Uuid}
    (hid : id ∈ ids) : all.find? (·.id == id) = s.found? α id := by
  have hread : ∀ a ∈ all, a.id = id → s.found? α id = some a := by
    rintro a ha rfl
    exact found?_eq_some.mpr (h.of_getMany hg a ha)
  cases hf : all.find? (·.id == id) with
  | some a =>
    have hat : a.id = id := by simpa using List.find?_some hf
    exact (hread a (List.mem_of_find?_eq_some hf) hat).symm
  | none =>
    cases hfound : s.found? α id with
    | none => rfl
    | some a =>
      obtain ⟨row, hr, ha⟩ := get_eq_some.mp (found?_eq_some.mp hfound)
      obtain ⟨all', hall', -, hmem⟩ := exists_mapM_read (ids.filterMap (s.row? (Storable.collection α)))
        fun row hrow => h.reads row (mem_of_mem_rows hrow).1 (mem_of_mem_rows hrow).2
      obtain rfl : all' = all := Except.ok.inj (hall'.symm.trans hg)
      have hm : a ∈ all' := (hmem a).mpr ⟨row, List.mem_filterMap.mpr ⟨id, hid, hr⟩, ha⟩
      have hat : a.id = id := h.id_of_get (found?_eq_some.mp hfound)
      exact absurd hat (by simpa using List.find?_eq_none.mp hf a hm)

theorem pairwise_insertedBefore (hn : s.Numbered) :
    ((s.inOrder (Storable.collection α)).map Row.id).Pairwise (s.InsertedBefore (Storable.collection α)) := by
  have hle := s.pairwise_inOrder (Storable.collection α)
  have hne : (s.inOrder (Storable.collection α)).Pairwise fun a b => a.serial ≠ b.serial := by
    have hserials : ((s.inOrder (Storable.collection α)).map Row.serial).Nodup :=
      ((List.mergeSort_perm _ _).map _).nodup_iff.mpr (hn.apart.sublist (List.filter_sublist.map _))
    exact List.pairwise_map.mp hserials
  refine List.pairwise_map.mpr ((hle.and hne).imp_of_mem fun {a b} ha hb hab => ?_)
  obtain ⟨hma, hca⟩ := h.mem_inOrder.mp ha
  obtain ⟨hmb, hcb⟩ := h.mem_inOrder.mp hb
  exact ⟨a, b, hca ▸ row?_of_mem h.apart hma, hcb ▸ row?_of_mem h.apart hmb, Nat.lt_of_le_of_ne hab.1 hab.2⟩

end Legible

/-! ## After any run -/

theorem numbered_empty : empty.Numbered := ⟨fun _ hm => absurd hm List.not_mem_nil, List.nodup_nil⟩

theorem Numbered.attempt {w : Write} {now : Nat} {m : Option Metadata} (h : s.Numbered)
    (ha : w.attempt now s = .ok (m, s')) : s'.Numbered := by
  cases w with
  | insert a =>
    obtain ⟨-, -, rfl⟩ := attempt_insert ha
    constructor
    · intro row hm
      rcases List.mem_cons.mp hm with rfl | hm
      · exact Nat.lt_succ_self _
      · exact Nat.lt_succ_of_lt (h.below row hm)
    · refine List.nodup_cons.mpr ⟨fun hm => ?_, h.apart⟩
      obtain ⟨row, hm, hserial⟩ := List.mem_map.mp hm
      exact absurd hserial (Nat.ne_of_lt (h.below row hm))
  | @update α _ a expected =>
    obtain ⟨_, -, -, -, rfl⟩ := attempt_update ha
    -- a renewed row keeps its serial
    have hserial : ∀ row : Row,
        (if row.isAt (Storable.collection α) (Storable.id a) then row.renewed a (s.tick now) else row).serial =
          row.serial := by
      intro row
      split <;> rfl
    constructor
    · intro row hm
      obtain ⟨old, ho, rfl⟩ := List.mem_map.mp hm
      rw [hserial]
      exact h.below old ho
    · rw [replacing, List.map_map]
      have hsame := List.map_congr_left (l := s.rows) fun row _ => hserial row
      exact hsame ▸ h.apart
  | delete α id expected =>
    obtain ⟨_, -, -, -, rfl⟩ := attempt_delete ha
    exact ⟨fun row hm => h.below row (List.mem_filter.mp hm).1, h.apart.sublist (List.filter_sublist.map _)⟩

end Store

theorem History.numbered {log : List Record} {s : Store} (h : History log s) : s.Numbered := by
  induction h with
  | start => exact Store.numbered_empty
  | @call log s w now _ ih =>
    unfold Write.after
    split
    · next ha => exact ih.attempt ha
    · exact ih

theorem History.apart {log : List Record} {s : Store} (h : History log s) (hp : Plain log) :
    (s.rows.map Row.place).Nodup := by
  have hentries : s.entries.Pairwise Entry.Apart := by
    rw [entries_eq_live h]
    exact apart_live h hp
  refine List.pairwise_map.mpr ((List.pairwise_map.mp hentries).imp fun {a b} hab heq => ?_)
  obtain ⟨hc, hi⟩ := Prod.mk.inj heq
  exact (hab hc).1 hi

theorem Store.decodes_empty {α : Type} [Storable α] : Store.empty.Decodes α := fun _ hm => absurd hm List.not_mem_nil

namespace Store.Decodes

variable {α : Type} [Storable α] {s : Store} (h : s.Decodes α) (now : Nat)

include h

/-- Rows decode after a call if they did before, and if what the call writes decodes. -/
theorem after {w : Write} (hw : ∀ e, w.entry? = some e → e.collection = Storable.collection α →
    ∃ a : α, Storable.decode e.body = .ok a) : (w.after now s).Decodes α := by
  unfold Write.after
  split
  · next ha =>
    rw [decodes_iff] at h ⊢
    intro e he
    rw [entries_of_attempt ha] at he
    exact (Write.mem_act he).elim (h e) (hw e)
  · exact h

theorem insert {a b : α} (hd : Storable.decode (Storable.encode a) = .ok b) :
    ((Write.insert a).after now s).Decodes α := by
  refine h.after now fun e he _ => ⟨b, ?_⟩
  cases he
  exact hd

theorem elsewhere {w : Write} (hne : w.collection ≠ Storable.collection α) : (w.after now s).Decodes α :=
  h.after now fun _ he hc => absurd ((Write.collection_of_entry? he).symm.trans hc) hne

end Store.Decodes

/-- Every row decodes if values read back as what they were. -/
theorem History.decodes {α : Type} [Storable α] {log : List Record} {s : Store} (h : History log s) (ho : Only α log)
    (hd : ∀ a : α, Storable.decode (Storable.encode a) = .ok a) : s.Decodes α := by
  intro row hm hc
  obtain ⟨-, a, ha⟩ := h.exists_value ho hm hc
  have hbody : row.body = Storable.encode a := congrArg Entry.body ha
  refine ⟨⟨a, row.metadata⟩, ?_⟩
  rw [Row.read, hbody, hd]

/-- The rows whose key begins with the name of a collection are those of the collection. -/
theorem History.under {log : List Record} {s : Store} (h : History log s) (hp : Plain log) {collection : String}
    (hc : ':' ∉ collection.toList) :
    ∀ row ∈ s.rows, row.isUnder collection = true ↔ row.collection = collection :=
  fun row hm => Row.isUnder_iff hc (plain_live hp row.entry (entries_eq_live h ▸ List.mem_map_of_mem hm))

/-- Rows that decode make a store legible, as long as a value keeps its identifier when it is written and read. -/
theorem History.legible {α : Type} [Storable α] {log : List Record} {s : Store} (h : History log s) (hp : Plain log)
    (ho : Only α log) (hc : ':' ∉ (Storable.collection α).toList)
    (hid : ∀ a b : α, Storable.decode (Storable.encode a) = .ok b → Storable.id b = Storable.id a)
    (hd : s.Decodes α) : s.Legible α := by
  refine ⟨h.under hp hc, h.apart hp, fun row hm hat => ?_⟩
  obtain ⟨b, hb⟩ := hd row hm hat
  obtain ⟨-, a, ha⟩ := h.exists_value ho hm hat
  have hbody : row.body = Storable.encode a := congrArg Entry.body ha
  have hrow : row.id = Storable.id a := congrArg Entry.id ha
  have hdata := Row.decode_of_read hb
  rw [hbody] at hdata
  refine ⟨b, hb, ?_⟩
  rw [Stored.id, hrow]
  exact hid a b.data hdata

theorem History.legible_book {log : List Record} {s : Store} (h : History log s) (hp : Plain log) (ho : Only Book log)
    (hd : s.Decodes Book) : s.Legible Book :=
  h.legible hp ho (by decide) (fun _ _ => Book.id_of_decode_toJson) hd

theorem History.legible_author {log : List Record} {s : Store} (h : History log s) (hp : Plain log)
    (ho : Only Author log) : s.Legible Author :=
  h.legible hp ho (by decide) (fun _ _ => Author.id_of_decode_toJson) (h.decodes ho Author.decode_toJson)

end Bookshop
