/-
  Bookshop.Proofs.Catalog.Sound — what the rows of the catalog hold.

  In a sound store every row holds an author or a book in normal form, written as the store writes it, and
  no two rows are at one place. The writes keep a store sound (`Store.Sound.adding`, `.replacing`, `.removing`).
  In a sound store every row can be read (`Store.Sound.value`), and the store is legible for authors and for
  books alike (`Kind`, `Store.Sound.legible`), so a search finds what is there exactly once (`Store.Sound.find`).
-/

import Bookshop.Proofs.Store.Legible

namespace Bookshop

/-! ## Rows -/

/-- The row is one for this value. -/
structure Row.Holds {α : Type} [Storable α] (row : Row) (a : α) : Prop where
  collection : row.collection = Storable.collection α
  id : row.id = Storable.id a
  body : row.body = Storable.encode a
  naturalKey : row.naturalKey = Storable.naturalKey a

inductive Row.Sound (row : Row) : Prop
  | author (author : Author) (normal : author.Normal) (holds : row.Holds author)
  | book (book : Book) (normal : book.Normal) (holds : row.Holds book)

namespace Row

variable {α : Type} [Storable α] {row : Row} {a : α}

theorem holds_fresh (a : α) (time serial : Nat) : (Row.fresh a time serial).Holds a := ⟨rfl, rfl, rfl, rfl⟩

theorem holds_renewed (h : row.isAt (Storable.collection α) (Storable.id a) = true) (time : Nat) :
    (row.renewed a time).Holds a := by
  obtain ⟨hc, hi⟩ := isAt_iff.mp h
  exact ⟨hc, hi, rfl, rfl⟩

theorem Holds.read (h : row.Holds a) (hd : Storable.decode (Storable.encode a) = .ok a) :
    row.read = .ok ⟨a, row.metadata⟩ := by
  rw [Row.read, h.body, hd]

/-- The two kinds of rows are told apart by their keys. -/
theorem Sound.isUnder_iff (h : row.Sound) {collection : String} (hc : ':' ∉ collection.toList) :
    row.isUnder collection = true ↔ row.collection = collection := by
  refine Row.isUnder_iff hc ?_
  cases h with
  | author author _ holds => rw [holds.collection]; decide
  | book book _ holds => rw [holds.collection]; decide

end Row

/-! ## Kinds of rows -/

/-- A type is a kind of rows with this normal form: what a sound row of its collection holds is a value of the type in
that form, which reads back as it was written. -/
structure Kind (α : Type) [Storable α] (N : α → Prop) : Prop where
  plain : ':' ∉ (Storable.collection α).toList
  holds : ∀ row : Row, row.Sound → row.collection = Storable.collection α →
    ∃ a : α, N a ∧ row.Holds a ∧ Storable.decode (Storable.encode a) = .ok a

theorem authors_kind : Kind Author Author.Normal := by
  refine ⟨by decide, fun row h hc => ?_⟩
  cases h with
  | author author normal holds => exact ⟨author, normal, holds, author.decode_toJson⟩
  | book book _ holds => exact absurd (hc.symm.trans holds.collection) (by decide)

theorem books_kind : Kind Book Book.Normal := by
  refine ⟨by decide, fun row h hc => ?_⟩
  cases h with
  | author author _ holds => exact absurd (hc.symm.trans holds.collection) (by decide)
  | book book normal holds => exact ⟨book, normal, holds, Book.decode_toJson normal.price⟩

/-! ## Sound stores -/

namespace Store

section

variable {α : Type} [Storable α] {s s' : Store} {a : α} {now : Nat} {answer : Stored α}

theorem row?_of_insert (h : s.insert now a = .ok (answer, s')) :
    ∃ row, s'.row? (Storable.collection α) (Storable.id a) = some row ∧ row.Holds a ∧ answer = ⟨a, row.metadata⟩ := by
  obtain ⟨-, -, rfl, rfl⟩ := insert_eq_ok.mp h
  exact ⟨_, s.row?_adding_self now a, Row.holds_fresh a _ _, rfl⟩

theorem row?_of_update {expected : Int} (h : s.update now a expected = .ok (answer, s')) :
    ∃ row, s'.row? (Storable.collection α) (Storable.id a) = some row ∧ row.Holds a ∧ answer = ⟨a, row.metadata⟩ := by
  obtain ⟨row, hr, -, -, rfl, rfl⟩ := update_eq_ok.mp h
  have hat : row.isAt (Storable.collection α) (Storable.id a) = true := Row.isAt_iff.mpr (row?_some hr).2
  exact ⟨_, row?_replacing_self hr now, Row.holds_renewed hat (s.tick now), rfl⟩

end

structure Sound (s : Store) : Prop where
  rows : ∀ row ∈ s.rows, row.Sound
  apart : (s.rows.map Row.place).Nodup

namespace Sound

variable {α : Type} [Storable α] {N : α → Prop} {s s' : Store}

theorem empty : Store.empty.Sound := ⟨fun _ h => (List.not_mem_nil h).elim, List.nodup_nil⟩

theorem adding (h : s.Sound) {a : α} (ha : ∀ row : Row, row.Holds a → row.Sound)
    (hn : s.row? (Storable.collection α) (Storable.id a) = none) (now : Nat) : (s.adding now a).Sound := by
  refine ⟨fun row hm => ?_, List.nodup_cons.mpr ⟨fun hp => ?_, h.apart⟩⟩
  · rcases List.mem_cons.mp hm with rfl | hm
    · exact ha _ (Row.holds_fresh a _ _)
    · exact h.rows row hm
  · obtain ⟨row, hm, hat⟩ := List.mem_map.mp hp
    exact row?_none hn row hm (Prod.mk.inj hat)

theorem replacing (h : s.Sound) {a : α} (ha : ∀ row : Row, row.Holds a → row.Sound) (now : Nat) :
    (s.replacing now a).Sound := by
  constructor
  · intro row hm
    obtain ⟨old, ho, rfl⟩ := List.mem_map.mp hm
    split
    · next hat => exact ha _ (Row.holds_renewed hat _)
    · exact h.rows old ho
  · -- a renewed row stays at its place
    rw [Store.replacing, List.map_map, List.map_congr_left]
    · exact h.apart
    · intro row _
      simp only [Function.comp_apply]
      split <;> rfl

theorem removing (h : s.Sound) (collection : String) (id : Uuid) : (s.removing collection id).Sound :=
  ⟨fun row hm => h.rows row (List.mem_filter.mp hm).1, h.apart.sublist (List.filter_sublist.map _)⟩

/-! ## Reads -/

theorem value (h : s.Sound) (hk : Kind α N) {id : Uuid} {row : Row}
    (hr : s.row? (Storable.collection α) id = some row) :
    ∃ a : α, N a ∧ Storable.id a = id ∧ row.read = .ok ⟨a, row.metadata⟩ := by
  obtain ⟨hm, hc, rfl⟩ := row?_some hr
  obtain ⟨a, hn, holds, hd⟩ := hk.holds row (h.rows row hm) hc
  exact ⟨a, hn, holds.id.symm, holds.read hd⟩

theorem current (h : s.Sound) (hk : Kind α N) {id : Uuid} {row : Row}
    (hr : s.row? (Storable.collection α) id = some row) :
    ∃ current : Stored α, N current.data ∧ current.id = id ∧ current.version = row.metadata.version ∧
      s.get α current.id = .ok (some current) := by
  obtain ⟨a, hn, rfl, hread⟩ := h.value hk hr
  exact ⟨⟨a, row.metadata⟩, hn, rfl, rfl, get_eq_some.mpr ⟨row, hr, hread⟩⟩

theorem of_get (h : s.Sound) (hk : Kind α N) {id : Uuid} {found : Stored α}
    (hg : s.get α id = .ok (some found)) : N found.data ∧ found.id = id := by
  obtain ⟨row, hr, hread⟩ := get_eq_some.mp hg
  obtain ⟨a, hn, hid, ha⟩ := h.value hk hr
  rw [hread] at ha
  cases ha
  exact ⟨hn, hid⟩

theorem legible (h : s.Sound) (hk : Kind α N) : s.Legible α := by
  refine ⟨fun row hm => (h.rows row hm).isUnder_iff hk.plain, h.apart, fun row hm hc => ?_⟩
  obtain ⟨a, -, hid, ha⟩ := h.value hk (hc ▸ row?_of_mem h.apart hm)
  exact ⟨⟨a, row.metadata⟩, ha, hid⟩

theorem of_list (h : s.Sound) (hk : Kind α N) {page : Window} {answer : Page (Stored α)}
    (hl : s.list α page = .ok answer) : ∀ a ∈ answer.content, s.get α a.id = .ok (some a) :=
  (h.legible hk).of_list hl

theorem of_getMany (h : s.Sound) (hk : Kind α N) {ids : List Uuid} {all : List (Stored α)}
    (hg : s.getMany α ids = .ok all) : ∀ a ∈ all, s.get α a.id = .ok (some a) :=
  (h.legible hk).of_getMany hg

/-- A search finds everything of its kind that satisfies `p`, once and as it is read on its own. -/
theorem find (h : s.Sound) (hk : Kind α N) (p : α → Bool) :
    ∃ found : List (Stored α), s.find p = .ok found ∧ (found.map Stored.id).Nodup ∧
      ∀ a : Stored α, a ∈ found ↔ p a.data = true ∧ s.get α a.id = .ok (some a) := by
  obtain ⟨found, hf, hsub, hmem⟩ := (h.legible hk).find p
  exact ⟨found, hf, (h.legible hk).nodup_inOrder.sublist hsub, hmem⟩

end Sound

end Store

end Bookshop
