/-
  Bookshop.Proofs.Store.Rows — what each atomic write does to the rows (see `Bookshop.Store.Table`).

  `insert`, `update` and `delete` are taken apart once (`insert_eq_ok`, `update_eq_ok`, `delete_eq_ok`):
  when they succeed, what they answer, and which store they leave. What that store holds at each
  identifier is said by `row?_adding`, `row?_replacing` and `row?_removing`; nothing later unfolds them.
-/

import Bookshop.Store.Table

namespace Bookshop

/-! ## Rows -/

@[simp] theorem Row.isAt_iff {row : Row} {collection : String} {id : Uuid} :
    row.isAt collection id = true ↔ row.collection = collection ∧ row.id = id := by
  simp [Row.isAt]

/-- Up to its first colon, a key is told by its start. -/
theorem colon_prefix_iff {name other rest : List Char} (hn : ':' ∉ name) (ho : ':' ∉ other) :
    name ++ [':'] <+: other ++ ':' :: rest ↔ other = name := by
  induction name generalizing other with
  | nil =>
    cases other with
    | nil => simp
    | cons d ds => simpa using List.ne_of_not_mem_cons ho
  | cons c cs ih =>
    cases other with
    | nil =>
      have hne : c ≠ ':' := (List.ne_of_not_mem_cons hn).symm
      simp [hne]
    | cons d ds =>
      simp only [List.cons_append, List.cons_prefix_cons, List.cons.injEq, eq_comm (a := d),
        ih (List.not_mem_of_not_mem_cons hn) (List.not_mem_of_not_mem_cons ho)]

theorem Row.isUnder_iff {row : Row} {collection : String} (hc : ':' ∉ collection.toList)
    (hr : ':' ∉ row.collection.toList) : row.isUnder collection = true ↔ row.collection = collection := by
  rw [isUnder, List.isPrefixOf_iff_prefix, key, colon_prefix_iff hc hr, String.toList_inj]

theorem Row.metadata_of_read {α : Type} [Storable α] {row : Row} {a : Stored α} (h : row.read = .ok a) :
    a.metadata = row.metadata := by
  unfold read at h
  split at h
  · cases h; rfl
  · cases h

theorem Row.decode_of_read {α : Type} [Storable α] {row : Row} {a : Stored α} (h : row.read = .ok a) :
    Storable.decode row.body = .ok a.data := by
  unfold read at h
  split at h
  · next hd =>
    cases h
    exact hd
  · cases h

namespace Store

variable {α : Type} [Storable α]

@[simp] theorem keyTaken_none (s : Store) (collection : String) (id : Uuid) : s.keyTaken collection none id = false := by
  simp [keyTaken]

theorem row?_some {s : Store} {collection : String} {id : Uuid} {row : Row} (h : s.row? collection id = some row) :
    row ∈ s.rows ∧ row.collection = collection ∧ row.id = id :=
  ⟨List.mem_of_find?_eq_some h, Row.isAt_iff.mp (List.find?_some h)⟩

theorem row?_none {s : Store} {collection : String} {id : Uuid} (h : s.row? collection id = none) :
    ∀ row ∈ s.rows, ¬ (row.collection = collection ∧ row.id = id) := by
  intro row hm hat
  exact List.find?_eq_none.mp h row hm (Row.isAt_iff.mpr hat)

/-! ## The rows after a write -/

theorem row?_adding (s : Store) (now : Nat) (a : α) (collection : String) (id : Uuid) :
    (s.adding now a).row? collection id =
      if Storable.collection α = collection ∧ Storable.id a = id then some (Row.fresh a (s.tick now) s.nextSerial)
      else s.row? collection id := by
  simp only [adding, row?, List.find?_cons]
  by_cases hat : Storable.collection α = collection ∧ Storable.id a = id
  · have hf : (Row.fresh a (s.tick now) s.nextSerial).isAt collection id = true := Row.isAt_iff.mpr hat
    rw [if_pos hat, hf]
  · have hf : (Row.fresh a (s.tick now) s.nextSerial).isAt collection id = false :=
      Bool.eq_false_iff.mpr (fun h => hat (Row.isAt_iff.mp h))
    rw [if_neg hat, hf]

theorem row?_adding_self (s : Store) (now : Nat) (a : α) :
    (s.adding now a).row? (Storable.collection α) (Storable.id a) = some (Row.fresh a (s.tick now) s.nextSerial) :=
  (s.row?_adding now a _ _).trans (if_pos ⟨rfl, rfl⟩)

theorem row?_replacing (s : Store) (now : Nat) (a : α) (collection : String) (id : Uuid) :
    (s.replacing now a).row? collection id =
      if Storable.collection α = collection ∧ Storable.id a = id then
        (s.row? collection id).map (·.renewed a (s.tick now))
      else s.row? collection id := by
  simp only [replacing, row?, List.find?_map]
  -- a renewed row stays where it was, so the first row at an identifier is the renewed first one
  have hp : (Row.isAt collection id ∘ fun row : Row =>
      if row.isAt (Storable.collection α) (Storable.id a) then row.renewed a (s.tick now) else row) =
      Row.isAt collection id := by
    funext row
    simp only [Function.comp_apply]
    split <;> rfl
  rw [hp]
  cases hf : s.rows.find? (Row.isAt collection id) with
  | none => simp
  | some row =>
    obtain ⟨rfl, rfl⟩ := Row.isAt_iff.mp (List.find?_some hf)
    simp only [Option.map_some, Row.isAt_iff, eq_comm (a := row.collection), eq_comm (a := row.id), apply_ite some]

theorem row?_replacing_self {s : Store} {a : α} {row : Row}
    (hr : s.row? (Storable.collection α) (Storable.id a) = some row) (now : Nat) :
    (s.replacing now a).row? (Storable.collection α) (Storable.id a) = some (row.renewed a (s.tick now)) := by
  rw [row?_replacing, if_pos ⟨rfl, rfl⟩, hr, Option.map_some]

theorem row?_removing (s : Store) (collection collection' : String) (id id' : Uuid) :
    (s.removing collection id).row? collection' id' =
      if collection = collection' ∧ id = id' then none else s.row? collection' id' := by
  simp only [removing, row?, List.find?_filter]
  by_cases hat : collection = collection' ∧ id = id'
  · obtain ⟨rfl, rfl⟩ := hat
    rw [if_pos ⟨rfl, rfl⟩]
    apply List.find?_eq_none.mpr
    intro row _
    cases row.isAt collection id <;> simp
  · rw [if_neg hat]
    congr 1
    funext row
    by_cases hr : row.isAt collection' id' = true
    · obtain ⟨rfl, rfl⟩ := Row.isAt_iff.mp hr
      have hn : row.isAt collection id = false :=
        Bool.eq_false_iff.mpr (fun h => hat ((Row.isAt_iff.mp h).imp Eq.symm Eq.symm))
      simp [hr, hn]
    · simp [hr]

theorem row?_removing_self (s : Store) (collection : String) (id : Uuid) :
    (s.removing collection id).row? collection id = none :=
  (s.row?_removing collection collection id id).trans (if_pos ⟨rfl, rfl⟩)

/-! ## When a write succeeds -/

theorem insert_eq_ok {s s' : Store} {now : Nat} {a : α} {answer : Stored α} :
    s.insert now a = .ok (answer, s') ↔
      s.row? (Storable.collection α) (Storable.id a) = none ∧
      s.keyTaken (Storable.collection α) (Storable.naturalKey a) (Storable.id a) = false ∧
      answer = ⟨a, (Row.fresh a (s.tick now) s.nextSerial).metadata⟩ ∧ s' = s.adding now a := by
  cases hr : s.row? (Storable.collection α) (Storable.id a) with
  | some row => simp [insert, hr]
  | none =>
    by_cases hk : s.keyTaken (Storable.collection α) (Storable.naturalKey a) (Storable.id a) = true
    · simp [insert, hr, hk]
    · simp only [insert, hr, hk]
      simp [eq_comm]

theorem update_eq_ok {s s' : Store} {now : Nat} {a : α} {expected : Int} {answer : Stored α} :
    s.update now a expected = .ok (answer, s') ↔
      ∃ row, s.row? (Storable.collection α) (Storable.id a) = some row ∧ row.metadata.version = expected ∧
        s.keyTaken (Storable.collection α) (Storable.naturalKey a) (Storable.id a) = false ∧
        answer = ⟨a, (row.renewed a (s.tick now)).metadata⟩ ∧ s' = s.replacing now a := by
  cases hr : s.row? (Storable.collection α) (Storable.id a) with
  | none => simp [update, hr]
  | some row =>
    by_cases hv : row.metadata.version = expected
    · by_cases hk : s.keyTaken (Storable.collection α) (Storable.naturalKey a) (Storable.id a) = true
      · simp [update, hr, hv, hk]
      · simp only [update, hr, hv, hk]
        simp [hv, eq_comm]
    · simp [update, hr, hv]

theorem delete_eq_ok {s s' : Store} {id : Uuid} {expected : Int} :
    s.delete α id expected = .ok s' ↔
      (∃ row, s.row? (Storable.collection α) id = some row ∧ row.metadata.version = expected) ∧
        s' = s.removing (Storable.collection α) id := by
  cases hr : s.row? (Storable.collection α) id with
  | none => simp [delete, hr]
  | some row =>
    by_cases hv : row.metadata.version = expected
    · simp [delete, hr, hv, eq_comm (a := s')]
    · simp [delete, hr, hv]

/-! ## When a row is there -/

section

variable {s : Store} {a : α} {id : Uuid} {expected : Int} {row : Row}

theorem update_of_stale (hr : s.row? (Storable.collection α) (Storable.id a) = some row)
    (hv : row.metadata.version ≠ expected) (now : Nat) :
    s.update now a expected =
      .error (.versionConflict (Storable.collection α) (Storable.id a) expected row.metadata.version) := by
  simp [update, hr, hv]

/-- At its version, a row is written unless its natural key is taken. -/
theorem update_of_current (hr : s.row? (Storable.collection α) (Storable.id a) = some row)
    (hv : row.metadata.version = expected) (now : Nat) :
    (∃ x, s.update now a expected = .ok x) ∨
      ∃ key, s.update now a expected = .error (.keyTaken (Storable.collection α) key) := by
  by_cases hk : s.keyTaken (Storable.collection α) (Storable.naturalKey a) (Storable.id a) = true
  · exact .inr ⟨(Storable.naturalKey a).getD "", by simp [update, hr, hv, hk]⟩
  · exact .inl ⟨_, update_eq_ok.mpr ⟨row, hr, hv, by simpa using hk, rfl, rfl⟩⟩

theorem delete_of_stale (hr : s.row? (Storable.collection α) id = some row) (hv : row.metadata.version ≠ expected) :
    s.delete α id expected = .error (.versionConflict (Storable.collection α) id expected row.metadata.version) := by
  simp [delete, hr, hv]

end

/-! ## Times -/

/-- No row was written after the last write. -/
def Timely (s : Store) : Prop :=
  ∀ row ∈ s.rows, ∃ last, s.lastTime = some last ∧ row.metadata.updated ≤ last

theorem lt_tick {s : Store} {last : Nat} (h : s.lastTime = some last) (now : Nat) : last < s.tick now := by
  simp only [tick, h]
  split <;> omega

theorem Timely.lt_tick {s : Store} (h : s.Timely) {row : Row} (hr : row ∈ s.rows) (now : Nat) :
    row.metadata.updated < s.tick now := by
  obtain ⟨last, hl, hle⟩ := h row hr
  exact Nat.lt_of_le_of_lt hle (Store.lt_tick hl now)

theorem timely_empty : empty.Timely := by
  intro row hr
  cases hr

theorem Timely.adding {s : Store} (h : s.Timely) (now : Nat) (a : α) : (s.adding now a).Timely := by
  intro row hr
  refine ⟨s.tick now, rfl, ?_⟩
  rcases List.mem_cons.mp hr with rfl | hr
  · exact Nat.le_refl _
  · exact Nat.le_of_lt (h.lt_tick hr now)

theorem Timely.replacing {s : Store} (h : s.Timely) (now : Nat) (a : α) : (s.replacing now a).Timely := by
  intro row hr
  refine ⟨s.tick now, rfl, ?_⟩
  obtain ⟨old, ho, rfl⟩ := List.mem_map.mp hr
  split
  · exact Nat.le_refl _
  · exact Nat.le_of_lt (h.lt_tick ho now)

theorem Timely.removing {s : Store} (h : s.Timely) (collection : String) (id : Uuid) :
    (s.removing collection id).Timely :=
  fun row hr => h row ((List.mem_filter.mp hr).1)

end Store

end Bookshop
