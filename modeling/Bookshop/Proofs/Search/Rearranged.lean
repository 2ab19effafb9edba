/-
  Bookshop.Proofs.Search.Rearranged — a query means the same in whatever order its parts are written.

  Matching and covering ask whether some alternative has a property that depends on its clauses, not on their
  order (`Rearranged.exists_iff`). The hits are the same up to their order, and sorting brings them into one
  order, because hits that tie are equal: at one position stands one term with one weight (`eq_of_ties`). So the
  scores of the covers are computed of the same numbers in the same order, and the sum is the same to the last
  bit, without any law about adding floats.

  - `order_of_parts_is_immaterial`: for every index that was built of texts, queries that differ by the order of
    their alternatives and of the clauses in them match alike and have the same rank.
-/

import Bookshop.Proofs.Search.Covers
import Bookshop.Proofs.Search.Positions

namespace Bookshop.Search

/-- The alternatives of the one query are those of the other in some order, each with its clauses in some order. -/
def Query.Rearranged (q q' : Query) : Prop :=
  ∃ middle, List.Forall₂ List.Perm q.alternatives middle ∧ middle.Perm q'.alternatives

/-! ## Lists that are related item by item -/

section

variable {α β : Type} {R : α → α → Prop} {as bs : List α}

theorem exists_of_forall₂_left (h : List.Forall₂ R as bs) {a : α} (ha : a ∈ as) : ∃ b ∈ bs, R a b := by
  induction h with
  | nil => cases ha
  | cons hr _ ih =>
    rcases List.mem_cons.mp ha with rfl | ha
    · exact ⟨_, List.mem_cons_self, hr⟩
    · obtain ⟨b, hb, hr⟩ := ih ha
      exact ⟨b, List.mem_cons_of_mem _ hb, hr⟩

theorem flatMap_perm_of_forall₂ {f : α → List β} (h : List.Forall₂ R as bs)
    (hf : ∀ a b, R a b → (f a).Perm (f b)) : (as.flatMap f).Perm (bs.flatMap f) := by
  induction h with
  | nil => exact .nil
  | cons hr _ ih =>
    rw [List.flatMap_cons, List.flatMap_cons]
    exact (hf _ _ hr).append ih

end

/-! ## Hits that tie -/

theorem Clause.exists_posting {clause : Clause} {index : Index} {hit : Hit} (h : hit ∈ clause.hits index) :
    ∃ p ∈ index.postings, p.position = hit.first ∧ p.weight = hit.weight := by
  unfold hits at h
  split at h
  · cases h
  · obtain ⟨p, hp, rfl⟩ := List.mem_map.mp h
    exact ⟨p, List.mem_of_mem_filter (List.mem_of_mem_filter hp), rfl, rfl⟩

theorem eq_of_ties {index : Index} (h : index.Ordered) {q q' : Query} {a b : Hit} (ha : a ∈ q.hits index)
    (hb : b ∈ q'.hits index) (hab : a.le b = true) (hba : b.le a = true) : a = b := by
  obtain ⟨-, -, _, -, -, ha⟩ := Query.mem_hits.mp ha
  obtain ⟨-, -, _, -, -, hb⟩ := Query.mem_hits.mp hb
  obtain ⟨p, hp, hpf, hpw⟩ := Clause.exists_posting ha
  obtain ⟨p', hp', hpf', hpw'⟩ := Clause.exists_posting hb
  simp only [Hit.le, Bool.or_eq_true, Bool.and_eq_true, decide_eq_true_eq, beq_iff_eq] at hab hba
  have hfirst : a.first = b.first := by omega
  have hlast : a.last = b.last := by omega
  obtain rfl : p = p' := h.eq_of_position hp hp' (by omega)
  have hweight : a.weight = b.weight := hpw.symm.trans hpw'
  cases a
  cases b
  rw [Hit.mk.injEq]
  exact ⟨hfirst, hlast, hweight⟩

namespace Query

/-- The hits that are sorted, alternative by alternative and clause by clause. -/
theorem flatten_needs (q : Query) (index : Index) :
    (q.needs index).flatten.flatten =
      q.alternatives.flatMap fun alt => (alt.filter (!·.negated)).flatMap (·.hits index) := by
  have hdrop : ∀ needs : List (List (List Hit)), (needs.filter (fun alt => !alt.isEmpty)).flatten = needs.flatten := by
    intro needs
    induction needs with
    | nil => rfl
    | cons need needs ih => cases need <;> simp [ih]
  rw [needs, hdrop]
  induction q.alternatives with
  | nil => rfl
  | cons alt alts ih => simp [ih, List.flatMap_def]

end Query

namespace Query.Rearranged

variable {q q' : Query} (h : q.Rearranged q')

include h

/-! ## What does not depend on the order -/

/-- What some alternative is, whatever the order of its clauses, some alternative is after the rearrangement. -/
theorem exists_iff {P : List Clause → Prop} (hP : ∀ alt alt' : List Clause, alt.Perm alt' → (P alt ↔ P alt')) :
    (∃ alt ∈ q.alternatives, P alt) ↔ ∃ alt ∈ q'.alternatives, P alt := by
  obtain ⟨middle, hclauses, halts⟩ := h
  constructor
  · rintro ⟨alt, ha, hp⟩
    obtain ⟨alt', ha', hperm⟩ := exists_of_forall₂_left hclauses ha
    exact ⟨alt', halts.mem_iff.mp ha', (hP alt alt' hperm).mp hp⟩
  · rintro ⟨alt', ha', hp⟩
    obtain ⟨alt, ha, hperm⟩ := exists_of_forall₂_left hclauses.flip (halts.mem_iff.mpr ha')
    exact ⟨alt, ha, (hP alt alt' hperm).mpr hp⟩

theorem matchesIn_eq (index : Index) : q'.matchesIn index = q.matchesIn index := by
  rw [Bool.eq_iff_iff, matchesIn, matchesIn, List.any_eq_true, List.any_eq_true]
  exact (h.exists_iff fun alt alt' hperm => by rw [hperm.all_eq]).symm

theorem covers_iff (index : Index) (range : Cover) : q.Covers index range ↔ q'.Covers index range := by
  refine h.exists_iff fun alt alt' hperm => ?_
  simp only [hperm.mem_iff]

theorem minimal_iff (index : Index) (range : Cover) : q.Minimal index range ↔ q'.Minimal index range := by
  constructor
  · rintro ⟨hc, hleast⟩
    exact ⟨(h.covers_iff index range).mp hc, fun inner hw hi => hleast inner hw ((h.covers_iff index inner).mpr hi)⟩
  · rintro ⟨hc, hleast⟩
    exact ⟨(h.covers_iff index range).mpr hc, fun inner hw hi => hleast inner hw ((h.covers_iff index inner).mp hi)⟩

theorem hits_perm (index : Index) : (q.needs index).flatten.flatten.Perm (q'.needs index).flatten.flatten := by
  obtain ⟨middle, hclauses, halts⟩ := h
  rw [flatten_needs, flatten_needs]
  refine (flatMap_perm_of_forall₂ hclauses fun alt alt' hperm => ?_).trans (halts.flatMap_right _)
  exact (hperm.filter _).flatMap_right _

theorem hits_eq {index : Index} (ho : index.Ordered) : q.hits index = q'.hits index := by
  have hperm : (q.hits index).Perm (q'.hits index) :=
    (List.mergeSort_perm _ _).trans ((h.hits_perm index).trans (List.mergeSort_perm _ _).symm)
  exact hperm.eq_of_pairwise (fun a b ha hb hab hba => eq_of_ties ho ha hb hab hba) (q.pairwise_hits index)
    (q'.pairwise_hits index)

theorem rank_eq {index : Index} (ho : index.Ordered) : q'.rank index = q.rank index := by
  obtain ⟨ranges, hlists, hrank⟩ := q.exists_lists index
  obtain ⟨ranges', hlists', hrank'⟩ := q'.exists_lists index
  rw [hrank, hrank', h.hits_eq ho, hlists.eq hlists' (h.minimal_iff index)]

end Query.Rearranged

/-- Of any query, and any texts that were appended to an empty index. -/
theorem order_of_parts_is_immaterial {q q' : Query} (h : q.Rearranged q') (passages : List Passage) :
    q'.matchesIn (Index.ofPassages passages) = q.matchesIn (Index.ofPassages passages) ∧
      q'.rank (Index.ofPassages passages) = q.rank (Index.ofPassages passages) :=
  ⟨h.matchesIn_eq _, h.rank_eq (Index.ordered_ofPassages passages)⟩

/-- Words, a phrase and a word that must not occur, and the same from the other end. -/
theorem dune_from_either_end :
    let q := Query.parse "spice dune -vampires or \"frank herbert\"" .english
    let q' := Query.parse "\"frank herbert\" or -vampires dune spice" .english
    let index := Index.ofPassages [⟨"Dune: the spice of dunes", .a, .english⟩, ⟨"Frank Herbert", .b, .english⟩]
    q.Rearranged q' ∧ q'.matchesIn index = q.matchesIn index ∧ q'.rank index = q.rank index := by
  intro q q' index
  have hq : q.alternatives = [[⟨false, [(0, "spice")]⟩, ⟨false, [(0, "dune")]⟩, ⟨true, [(0, "vampire")]⟩],
      [⟨false, [(0, "frank"), (1, "herbert")]⟩]] := by decide
  have hq' : q'.alternatives = [[⟨false, [(0, "frank"), (1, "herbert")]⟩],
      [⟨true, [(0, "vampire")]⟩, ⟨false, [(0, "dune")]⟩, ⟨false, [(0, "spice")]⟩]] := by decide
  have h : q.Rearranged q' := by
    refine ⟨q'.alternatives.reverse, ?_, List.reverse_perm _⟩
    rw [hq, hq']
    exact .cons (by decide) (.cons (by decide) .nil)
  exact ⟨h, order_of_parts_is_immaterial h _⟩

end Bookshop.Search
