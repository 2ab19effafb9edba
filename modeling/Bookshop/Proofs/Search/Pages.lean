/-
  Bookshop.Proofs.Search.Pages — the pages of a result, one after the other.

  No result is so long that an offset would come to its limit before the end of the result
  (`Window.slice_eq`). So the first pages together are the beginning of the result
  (`Window.flatMap_slice`), and there is something on a page just if its number is below that of all pages
  (`Window.slice_ne_nil_iff`).
-/

import Bookshop.Paging
import Mathlib.Algebra.Order.Floor.Div

namespace Bookshop.Window

variable {α : Type} {items : List α}

/-- At the limit of the offsets there is nothing left to skip. -/
theorem slice_eq (h : items.length < UInt64.size) (k size : Nat) :
    slice ⟨k, size⟩ items = (items.drop (k * size)).take size := by
  rw [slice]
  by_cases hk : k * size ≤ offsetLimit
  · rw [offset, Nat.min_eq_left hk]
  · have hoffset : offset ⟨k, size⟩ = offsetLimit := Nat.min_eq_right (Nat.le_of_not_le hk)
    have hlimit : items.length ≤ offsetLimit := by
      unfold offsetLimit
      omega
    have hfar : items.length ≤ k * size := Nat.le_trans hlimit (Nat.le_of_not_le hk)
    rw [hoffset, List.drop_eq_nil_of_le hlimit, List.drop_eq_nil_of_le hfar]

theorem flatMap_slice (h : items.length < UInt64.size) (size n : Nat) :
    (List.range n).flatMap (fun k => slice ⟨k, size⟩ items) = items.take (n * size) := by
  induction n with
  | zero => simp
  | succ n ih =>
    rw [List.range_succ, List.flatMap_append, ih, List.flatMap_singleton, slice_eq h, Nat.succ_mul, List.take_add]

theorem slice_ne_nil_iff (h : items.length < UInt64.size) {k size : Nat} (hs : 1 ≤ size) :
    slice ⟨k, size⟩ items ≠ [] ↔ k < items.length ⌈/⌉ size := by
  have hlen : (slice ⟨k, size⟩ items).length = min size (items.length - k * size) := by
    rw [slice_eq h, List.length_take, List.length_drop]
  have hceil : k < items.length ⌈/⌉ size ↔ k * size < items.length := by
    rw [← not_le, ceilDiv_le_iff_le_mul (by omega), not_le, Nat.mul_comm]
  rw [hceil, ← List.length_pos_iff, hlen]
  omega

/-- The last page there is ends with the last item. -/
theorem flatMap_slice_all (h : items.length < UInt64.size) {size n : Nat} (hs : 1 ≤ size)
    (hn : items.length ⌈/⌉ size ≤ n) : (List.range n).flatMap (fun k => slice ⟨k, size⟩ items) = items := by
  rw [flatMap_slice h, List.take_of_length_le]
  rw [Nat.mul_comm]
  exact (ceilDiv_le_iff_le_mul (by omega)).mp hn

/-- Whatever the size of a page, the items are those that are on some page. -/
theorem exists_mem_slice_iff (h : items.length < UInt64.size) {size : Nat} (hs : 1 ≤ size) {item : α} :
    (∃ k, item ∈ slice ⟨k, size⟩ items) ↔ item ∈ items := by
  constructor
  · rintro ⟨k, hk⟩
    exact List.mem_of_mem_drop (List.mem_of_mem_take hk)
  · intro hm
    rw [← flatMap_slice_all h hs (Nat.le_refl _)] at hm
    obtain ⟨k, -, hk⟩ := List.mem_flatMap.mp hm
    exact ⟨k, hk⟩

theorem totalPages_apply (window : Window) (items : List α) :
    (window.apply items).info.totalPages = items.length ⌈/⌉ window.size :=
  (Nat.ceilDiv_eq_add_pred_div _ _).symm

end Bookshop.Window
