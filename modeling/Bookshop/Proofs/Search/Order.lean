/-
  Bookshop.Proofs.Search.Order — how results are sorted.

  Every property orders the books that were found in one line, in which books may tie: books compare the
  other way round if they change places, and what is not after a book is not after those that come after it
  (`Std.TransCmp`). Directions and further criteria keep it so. Hence sorting by any criteria loses and adds
  nothing, puts no book after a later one, and leaves books that tie in the order they had (`sorts_sortBy`).
-/

import Bookshop.Proofs.Resources.Normal
import Bookshop.Search.Order
import Mathlib.Order.Compare

namespace Bookshop.Search

/-! ## Reading a sort text -/

theorem Property.exists_ofName? {b : Bool} {name : List Char} {p : Property} (h : ofName? b name = some p) (b' : Bool) :
    ∃ p', ofName? b' name = some p' := by
  rw [← Option.isSome_iff_exists, ofName?, List.lookup_isSome_iff]
  have hsome : (ofName? b name).isSome = true := by simp [h]
  rw [ofName?, List.lookup_isSome_iff] at hsome
  simpa using hsome

theorem Criterion.exists_ofItem {b : Bool} {item : List Char} {c : Criterion} (h : ofItem b item = .ok c) (b' : Bool) :
    ∃ c', ofItem b' item = .ok c' := by
  simp only [ofItem] at h ⊢
  split at h
  · cases h
  · next hne =>
    rw [if_neg hne]
    split at h
    · next p hp =>
      obtain ⟨p', hp'⟩ := Property.exists_ofName? hp b'
      exact ⟨_, by rw [hp']⟩
    · cases h

/-- Whether a sort text can be read does not depend on whether there are scores. -/
theorem Criterion.exists_parseList {b : Bool} {sort : Option String} {criteria : List Criterion}
    (h : parseList b sort = .ok criteria) (b' : Bool) : ∃ criteria', parseList b' sort = .ok criteria' := by
  cases sort with
  | none => exact ⟨_, rfl⟩
  | some text =>
    rw [parseList] at h ⊢
    split at h
    · next hblank => exact ⟨_, if_pos hblank⟩
    · next hblank =>
      rw [if_neg hblank]
      refine exists_mapM_iff.mpr fun item hitem => ?_
      obtain ⟨c, hc⟩ := exists_mapM_iff.mp ⟨criteria, h⟩ item hitem
      exact exists_ofItem hc b'

/-! ## Comparing -/

instance : Std.OrientedCmp compareMissingLast where
  eq_swap := by
    rintro (_ | a) (_ | b)
    · rfl
    · rfl
    · rfl
    · exact Std.OrientedOrd.eq_swap

instance : Std.TransCmp compareMissingLast where
  isLE_trans := by
    rintro (_ | a) (_ | b) (_ | c) hab hbc
    -- what comes after a missing value is missing, and a present one is before every missing one
    · rfl
    · cases hbc
    · rfl
    · cases hab
    · rfl
    · cases hbc
    · rfl
    · exact Std.TransOrd.isLE_trans hab hbc

/-- Things are compared by a key of theirs. -/
theorem transCmp_key {α κ : Type} (key : α → κ) (cmp : κ → κ → Ordering) [Std.TransCmp cmp] :
    Std.TransCmp fun a b => cmp (key a) (key b) where
  eq_swap := Std.OrientedCmp.eq_swap
  isLE_trans := Std.TransCmp.isLE_trans

theorem transCmp_swap {α : Type} (cmp : α → α → Ordering) [Std.TransCmp cmp] :
    Std.TransCmp fun a b => (cmp a b).swap := by
  have hswap : (fun a b => (cmp a b).swap) = fun a b => cmp b a := by
    funext a b
    exact Std.OrientedCmp.eq_swap.symm
  rw [hswap]
  exact { eq_swap := Std.OrientedCmp.eq_swap, isLE_trans := fun hab hbc => Std.TransCmp.isLE_trans hbc hab }

instance (property : Property) : Std.TransCmp property.compare := by
  cases property with
  | title => exact transCmp_key (fun f : Found => Text.lowercase f.book.data.title) Ord.compare
  | author => exact transCmp_key Found.firstAuthor? compareMissingLast
  | genre => exact transCmp_key Found.firstGenre? compareMissingLast
  | price => exact transCmp_key (fun f : Found => floatRank f.book.data.price.amount) Ord.compare
  | created => exact transCmp_key (fun f : Found => f.book.metadata.created) Ord.compare
  | updated => exact transCmp_key (fun f : Found => f.book.metadata.updated) Ord.compare
  | rank => exact transCmp_key (fun f : Found => floatRank f.score) Ord.compare
  | constant => exact { eq_swap := rfl, isLE_trans := fun _ _ => rfl }

instance (criterion : Criterion) : Std.TransCmp criterion.compare := by
  obtain ⟨property, direction⟩ := criterion
  cases direction with
  | ascending => exact inferInstanceAs (Std.TransCmp property.compare)
  | descending => exact transCmp_swap property.compare

theorem compareBy_cons (criterion : Criterion) (rest : List Criterion) :
    compareBy (criterion :: rest) = compareLex criterion.compare (compareBy rest) := rfl

instance (criteria : List Criterion) : Std.TransCmp (compareBy criteria) := by
  induction criteria with
  | nil => exact { eq_swap := rfl, isLE_trans := fun _ _ => rfl }
  | cons criterion rest ih =>
    rw [compareBy_cons]
    infer_instance

/-! ## Sorting -/

/-- The list is the other one, sorted by the criteria, with books that tie in the order they had. -/
structure Sorts (criteria : List Criterion) (found sorted : List Found) : Prop where
  perm : sorted.Perm found
  ordered : sorted.Pairwise fun f g => compareBy criteria f g ≠ .gt
  stable : ∀ f g, [f, g].Sublist found → compareBy criteria f g = .eq → [f, g].Sublist sorted

section

variable {α : Type} (cmp : α → α → Ordering) [Std.TransCmp cmp]

theorem notAfter_trans (a b c : α) (hab : (cmp a b != .gt) = true) (hbc : (cmp b c != .gt) = true) :
    (cmp a c != .gt) = true := by
  rw [bne_iff_ne, ne_eq, ← Ordering.isLE_iff_ne_gt] at hab hbc ⊢
  exact Std.TransCmp.isLE_trans hab hbc

theorem notAfter_total (a b : α) : (cmp a b != .gt || cmp b a != .gt) = true := by
  have hswap : cmp b a = (cmp a b).swap := Std.OrientedCmp.eq_swap
  rw [hswap]
  cases cmp a b <;> rfl

end

theorem sorts_sortBy (criteria : List Criterion) (found : List Found) :
    Sorts criteria found (sortBy criteria found) := by
  have htrans := notAfter_trans (compareBy criteria)
  have htotal := notAfter_total (compareBy criteria)
  refine ⟨List.mergeSort_perm _ _, ?_, fun f g hfg htie => ?_⟩
  · exact (List.pairwise_mergeSort htrans htotal found).imp fun hab => bne_iff_ne.mp hab
  · exact List.pair_sublist_mergeSort htrans htotal (by rw [htie]; rfl) hfg

end Bookshop.Search
