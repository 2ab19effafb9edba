/-
  Bookshop.Proofs.Search.Covers — the covers that rank a text are the minimal ones.

  A range of positions covers a query if some alternative that asks for a clause has a hit of each such clause
  inside the range (`Query.Covers`), and it is minimal if no other range inside it covers. A minimal range begins
  where a hit begins and ends where a hit ends, because a range that does not can be made shorter by one position
  and still holds the same hits (`exists_end`, `exists_beginning`).

  One round of `coversFrom` takes the smallest end, then the largest beginning. That range is minimal, and no
  minimal range that begins at or behind the start of the round begins before it (`round`): so a round neither
  skips a minimal range nor reports another one. The run of all rounds then lists the minimal ranges, each once,
  by their beginnings (`mem_coversFrom`, `pairwise_coversFrom`).

  - `rank_sums_the_minimal_covers`: for every query and every index, the rank is the sum of the scores of the
    minimal covers in the order of their beginnings; it is 0.0 where nothing covers, and clauses that must not
    occur have no part in it.
-/

import Bookshop.Proofs.Resources.Normal
import Bookshop.Search.Cover

namespace Bookshop.Search

/-! ## Covering a query -/

/-- Some alternative asks for a clause, and each clause it asks for has a hit inside the range. -/
def Query.Covers (q : Query) (index : Index) (range : Cover) : Prop :=
  ∃ alt ∈ q.alternatives, (∃ clause ∈ alt, clause.negated = false) ∧
    ∀ clause ∈ alt, clause.negated = false → ∃ hit ∈ clause.hits index, hit.inside range = true

/-- The range lies inside the other one. -/
structure Cover.Within (inner outer : Cover) : Prop where
  first : outer.first ≤ inner.first
  last : inner.last ≤ outer.last

theorem Cover.Within.antisymm {a b : Cover} (h : a.Within b) (h' : b.Within a) : a = b := by
  cases a
  cases b
  rw [Cover.mk.injEq]
  exact ⟨Nat.le_antisymm h'.first h.first, Nat.le_antisymm h.last h'.last⟩

/-- A range that covers, with no other such range inside it. -/
structure Query.Minimal (q : Query) (index : Index) (range : Cover) : Prop where
  covers : q.Covers index range
  least : ∀ inner : Cover, inner.Within range → q.Covers index inner → inner = range

/-- All hits of the clauses that a query asks for, in order. -/
def Query.hits (q : Query) (index : Index) : List Hit := orderedHits (q.needs index)

/-- The query with the clauses that it asks for alone; alternatives without any are left out. -/
def Query.asked (q : Query) : Query :=
  ⟨(q.alternatives.map (·.filter (!·.negated))).filter (fun alt => !alt.isEmpty)⟩

/-! ## Hits -/

@[simp] theorem Hit.inside_iff {hit : Hit} {range : Cover} :
    hit.inside range = true ↔ range.first ≤ hit.first ∧ hit.last ≤ range.last := by
  simp [Hit.inside]

theorem Clause.first_le_last {clause : Clause} {index : Index} {hit : Hit} (h : hit ∈ clause.hits index) :
    hit.first ≤ hit.last := by
  unfold Clause.hits at h
  split at h
  · cases h
  · obtain ⟨p, -, rfl⟩ := List.mem_map.mp h
    exact Nat.le_add_right _ _

theorem Query.mem_needs {q : Query} {index : Index} {need : List (List Hit)} :
    need ∈ q.needs index ↔ ∃ alt ∈ q.alternatives, (∃ clause ∈ alt, clause.negated = false) ∧
      need = (alt.filter (!·.negated)).map (·.hits index) := by
  have hne : ∀ alt : List Clause, ((alt.filter (!·.negated)).map (·.hits index)).isEmpty = false ↔
      ∃ clause ∈ alt, clause.negated = false := by
    intro alt
    rw [List.isEmpty_map]
    simp [List.filter_eq_nil_iff]
  rw [needs, List.mem_filter, List.mem_map, Bool.not_eq_true']
  constructor
  · rintro ⟨⟨alt, ha, rfl⟩, hask⟩
    exact ⟨alt, ha, (hne alt).mp hask, rfl⟩
  · rintro ⟨alt, ha, hask, rfl⟩
    exact ⟨⟨alt, ha, rfl⟩, (hne alt).mpr hask⟩

theorem Query.mem_hits {q : Query} {index : Index} {hit : Hit} :
    hit ∈ q.hits index ↔ ∃ alt ∈ q.alternatives, ∃ clause ∈ alt, clause.negated = false ∧ hit ∈ clause.hits index := by
  rw [hits, orderedHits, List.mem_mergeSort, List.mem_flatten]
  constructor
  · rintro ⟨of, hof, hm⟩
    obtain ⟨need, hneed, hof⟩ := List.mem_flatten.mp hof
    obtain ⟨alt, ha, -, rfl⟩ := mem_needs.mp hneed
    obtain ⟨clause, hc, rfl⟩ := List.mem_map.mp hof
    obtain ⟨hc, hn⟩ := List.mem_filter.mp hc
    exact ⟨alt, ha, clause, hc, by simpa using hn, hm⟩
  · rintro ⟨alt, ha, clause, hc, hn, hm⟩
    have hof : clause.hits index ∈ (alt.filter (!·.negated)).map (·.hits index) :=
      List.mem_map_of_mem (List.mem_filter.mpr ⟨hc, by simp [hn]⟩)
    exact ⟨_, List.mem_flatten.mpr ⟨_, mem_needs.mpr ⟨alt, ha, ⟨clause, hc, hn⟩, rfl⟩, hof⟩, hm⟩

theorem Hit.le_trans {a b c : Hit} (hab : a.le b = true) (hbc : b.le c = true) : a.le c = true := by
  simp only [Hit.le, Bool.or_eq_true, Bool.and_eq_true, decide_eq_true_eq, beq_iff_eq] at *
  omega

theorem Hit.le_total (a b : Hit) : (a.le b || b.le a) = true := by
  simp only [Hit.le, Bool.or_eq_true, Bool.and_eq_true, decide_eq_true_eq, beq_iff_eq]
  omega

theorem Query.pairwise_hits (q : Query) (index : Index) : (q.hits index).Pairwise (fun a b => a.le b = true) := by
  apply List.pairwise_mergeSort
  · intro a b c hab hbc
    exact Hit.le_trans hab hbc
  · exact Hit.le_total

section

variable {q : Query} {index : Index} {range : Cover}

/-! ## Ranges that cover -/

theorem covers_iff : covers (q.needs index) range = true ↔ q.Covers index range := by
  simp only [covers, List.any_eq_true, List.all_eq_true, Query.mem_needs, Query.Covers]
  constructor
  · rintro ⟨_, ⟨alt, ha, hask, rfl⟩, hall⟩
    refine ⟨alt, ha, hask, fun clause hc hn => hall _ ?_⟩
    exact List.mem_map_of_mem (List.mem_filter.mpr ⟨hc, by simp [hn]⟩)
  · rintro ⟨alt, ha, hask, hall⟩
    refine ⟨_, ⟨alt, ha, hask, rfl⟩, fun of hof => ?_⟩
    obtain ⟨clause, hc, rfl⟩ := List.mem_map.mp hof
    obtain ⟨hc, hn⟩ := List.mem_filter.mp hc
    exact hall clause hc (by simpa using hn)

/-- What covers depends on the hits inside the range alone. -/
theorem Query.Covers.imp {outer : Cover} (h : q.Covers index range)
    (hin : ∀ hit ∈ q.hits index, hit.inside range = true → hit.inside outer = true) : q.Covers index outer := by
  obtain ⟨alt, ha, hask, hall⟩ := h
  refine ⟨alt, ha, hask, fun clause hc hn => ?_⟩
  obtain ⟨hit, hm, hi⟩ := hall clause hc hn
  exact ⟨hit, hm, hin hit (mem_hits.mpr ⟨alt, ha, clause, hc, hn, hm⟩) hi⟩

theorem Query.Covers.mono {outer : Cover} (h : q.Covers index range) (hw : range.Within outer) :
    q.Covers index outer := by
  refine h.imp fun hit _ hi => ?_
  have hf := hw.first
  have hl := hw.last
  rw [Hit.inside_iff] at hi ⊢
  omega

theorem Query.Covers.exists_hit (h : q.Covers index range) :
    ∃ hit ∈ q.hits index, range.first ≤ hit.first ∧ hit.first ≤ hit.last ∧ hit.last ≤ range.last := by
  obtain ⟨alt, ha, ⟨clause, hc, hn⟩, hall⟩ := h
  obtain ⟨hit, hm, hi⟩ := hall clause hc hn
  obtain ⟨hf, hl⟩ := Hit.inside_iff.mp hi
  exact ⟨hit, mem_hits.mpr ⟨alt, ha, clause, hc, hn, hm⟩, hf, Clause.first_le_last hm, hl⟩

theorem Query.Covers.first_le_last (h : q.Covers index range) : range.first ≤ range.last := by
  obtain ⟨hit, -, h1, h2, h3⟩ := h.exists_hit
  omega

/-- A range that covers can be cut to one that ends where a hit ends. -/
theorem Query.Covers.exists_end {start last : Nat} (h : q.Covers index ⟨start, last⟩) :
    ∃ hit ∈ q.hits index, hit.last ≤ last ∧ q.Covers index ⟨start, hit.last⟩ := by
  induction last with
  | zero =>
    obtain ⟨hit, hm, -, -, hl⟩ := h.exists_hit
    have h0 : hit.last = 0 := Nat.le_zero.mp hl
    exact ⟨hit, hm, hl, by rw [h0]; exact h⟩
  | succ last ih =>
    by_cases he : ∃ hit ∈ q.hits index, hit.last = last + 1
    · obtain ⟨hit, hm, he⟩ := he
      exact ⟨hit, hm, Nat.le_of_eq he, by rw [he]; exact h⟩
    · have hshort : q.Covers index ⟨start, last⟩ := by
        refine h.imp fun hit hm hi => ?_
        have hne : hit.last ≠ last + 1 := fun hl => he ⟨hit, hm, hl⟩
        simp only [Hit.inside_iff] at hi ⊢
        omega
      obtain ⟨hit, hm, hl, hc⟩ := ih hshort
      exact ⟨hit, hm, by omega, hc⟩

theorem Query.Covers.exists_beginning {start last : Nat} (h : q.Covers index ⟨start, last⟩) :
    ∃ hit ∈ q.hits index, start ≤ hit.first ∧ q.Covers index ⟨hit.first, last⟩ := by
  -- by the number of positions that are left
  induction hn : last - start generalizing start with
  | zero =>
    obtain ⟨hit, hm, h1, h2, h3⟩ := h.exists_hit
    have hf : hit.first = start := by simp only at h1 h3; omega
    exact ⟨hit, hm, h1, by rw [hf]; exact h⟩
  | succ n ih =>
    by_cases he : ∃ hit ∈ q.hits index, hit.first = start
    · obtain ⟨hit, hm, he⟩ := he
      exact ⟨hit, hm, Nat.le_of_eq he.symm, by rw [he]; exact h⟩
    · have hshort : q.Covers index ⟨start + 1, last⟩ := by
        refine h.imp fun hit hm hi => ?_
        have hne : hit.first ≠ start := fun hf => he ⟨hit, hm, hf⟩
        simp only [Hit.inside_iff] at hi ⊢
        omega
      obtain ⟨hit, hm, hf, hc⟩ := ih hshort (by omega)
      exact ⟨hit, hm, by omega, hc⟩

theorem Query.Minimal.exists_hit (h : q.Minimal index range) : ∃ hit ∈ q.hits index, hit.first = range.first := by
  obtain ⟨hit, hm, hf, hc⟩ := h.covers.exists_beginning
  have hw : Cover.Within ⟨hit.first, range.last⟩ range := ⟨hf, Nat.le_refl _⟩
  exact ⟨hit, hm, congrArg Cover.first (h.least _ hw hc)⟩

/-! ## One round -/

/-- In a sorted list, the first item found is the least of those that could be. -/
theorem le_of_find? {r : Nat → Nat → Prop} [Std.Refl r] {l : List Nat} (hl : l.Pairwise r) {p : Nat → Bool} {a : Nat}
    (ha : l.find? p = some a) {b : Nat} (hb : b ∈ l) (hp : p b = true) : r a b := by
  obtain ⟨-, before, after, rfl, hbefore⟩ := List.find?_eq_some_iff_append.mp ha
  have hafter := (List.pairwise_cons.mp (List.pairwise_append.mp hl).2.1).1
  rcases List.mem_append.mp hb with hb | hb
  · have := hbefore b hb
    simp [hp] at this
  · rcases List.mem_cons.mp hb with rfl | hb
    · exact Std.Refl.refl _
    · exact hafter b hb

theorem mem_orderedEnds {hits : List Hit} {last : Nat} : last ∈ orderedEnds hits ↔ ∃ hit ∈ hits, hit.last = last := by
  rw [orderedEnds, List.mem_mergeSort, mem_distinct, List.mem_map]

theorem pairwise_orderedEnds (hits : List Hit) : (orderedEnds hits).Pairwise (· ≤ ·) :=
  List.pairwise_mergeSort' (· ≤ ·) _

/-- The end that a round finds is the smallest of all covers that begin at its start. -/
theorem firstEnd?_eq_some {start last : Nat} (h : firstEnd? (q.needs index) (q.hits index) start = some last) :
    q.Covers index ⟨start, last⟩ ∧ ∀ other, q.Covers index ⟨start, other⟩ → last ≤ other := by
  have hp := List.find?_some h
  simp only [Bool.and_eq_true, decide_eq_true_eq, covers_iff] at hp
  refine ⟨hp.2, fun other ho => ?_⟩
  obtain ⟨hit, hm, hl, hc⟩ := ho.exists_end
  have hle : last ≤ hit.last := by
    refine le_of_find? (pairwise_orderedEnds _) h (mem_orderedEnds.mpr ⟨hit, hm, rfl⟩) ?_
    simp only [Bool.and_eq_true, decide_eq_true_eq, covers_iff]
    exact ⟨hc.first_le_last, hc⟩
  omega

theorem firstEnd?_eq_none {start : Nat} (h : firstEnd? (q.needs index) (q.hits index) start = none) (last : Nat) :
    ¬ q.Covers index ⟨start, last⟩ := by
  intro hc
  obtain ⟨hit, hm, -, hc⟩ := hc.exists_end
  refine List.find?_eq_none.mp h hit.last (mem_orderedEnds.mpr ⟨hit, hm, rfl⟩) ?_
  simp only [Bool.and_eq_true, decide_eq_true_eq, covers_iff]
  exact ⟨hc.first_le_last, hc⟩

/-- The beginning that a round finds is the largest of all covers that end there. -/
theorem lastBeginning?_eq_some {start last first : Nat}
    (h : lastBeginning? (q.needs index) (q.hits index) start last = some first) :
    start ≤ first ∧ q.Covers index ⟨first, last⟩ ∧ ∀ other, start ≤ other → q.Covers index ⟨other, last⟩ → other ≤ first := by
  have hp := List.find?_some h
  simp only [Bool.and_eq_true, decide_eq_true_eq, covers_iff] at hp
  have hsorted : ((q.hits index).reverse.map (·.first)).Pairwise (· ≥ ·) := by
    rw [List.pairwise_map, List.pairwise_reverse]
    refine (q.pairwise_hits index).imp fun {a b} hab => ?_
    simp only [Hit.le, Bool.or_eq_true, Bool.and_eq_true, decide_eq_true_eq, beq_iff_eq] at hab
    omega
  refine ⟨hp.1.1, hp.2, fun other ho hc => ?_⟩
  obtain ⟨hit, hm, hf, hc⟩ := hc.exists_beginning
  have hge : first ≥ hit.first := by
    refine le_of_find? hsorted h (List.mem_map_of_mem (List.mem_reverse.mpr hm)) ?_
    simp only [Bool.and_eq_true, decide_eq_true_eq, covers_iff]
    exact ⟨⟨by omega, hc.first_le_last⟩, hc⟩
  omega

theorem lastBeginning?_ne_none {start last : Nat} (h : q.Covers index ⟨start, last⟩) :
    lastBeginning? (q.needs index) (q.hits index) start last ≠ none := by
  intro hnone
  obtain ⟨hit, hm, hf, hc⟩ := h.exists_beginning
  refine List.find?_eq_none.mp hnone hit.first (List.mem_map_of_mem (List.mem_reverse.mpr hm)) ?_
  simp only [Bool.and_eq_true, decide_eq_true_eq, covers_iff]
  exact ⟨⟨hf, hc.first_le_last⟩, hc⟩

/-- A round finds a minimal range, and no minimal range between its start and the beginning of that one. -/
theorem round {start last first : Nat} (he : firstEnd? (q.needs index) (q.hits index) start = some last)
    (hb : lastBeginning? (q.needs index) (q.hits index) start last = some first) :
    start ≤ first ∧ q.Minimal index ⟨first, last⟩ ∧
      ∀ range, q.Minimal index range → start ≤ range.first → range = ⟨first, last⟩ ∨ first + 1 ≤ range.first := by
  obtain ⟨-, hend⟩ := firstEnd?_eq_some he
  obtain ⟨hstart, hcovers, hbeginning⟩ := lastBeginning?_eq_some hb
  refine ⟨hstart, ⟨hcovers, fun inner hw hc => ?_⟩, fun range hmin hs => ?_⟩
  · -- an inner cover ends no earlier, so it ends there, and then begins no later
    obtain ⟨i, j⟩ := inner
    obtain ⟨hi, hj⟩ := hw
    simp only at hi hj
    have hlast : last ≤ j := hend j (hc.mono ⟨by simp only; omega, Nat.le_refl _⟩)
    obtain rfl : j = last := by omega
    have hfirst : i ≤ first := hbeginning i (by omega) hc
    obtain rfl : i = first := by omega
    rfl
  · obtain ⟨i, j⟩ := range
    simp only at hs ⊢
    by_cases hi : i ≤ first
    · have hlast : last ≤ j := hend j (hmin.covers.mono ⟨hs, Nat.le_refl _⟩)
      exact .inl (hmin.least ⟨first, last⟩ ⟨hi, hlast⟩ hcovers).symm
    · exact .inr (by omega)

/-! ## All rounds -/

theorem mem_coversFrom (start : Nat) :
    range ∈ coversFrom (q.needs index) (q.hits index) start ↔ q.Minimal index range ∧ start ≤ range.first := by
  fun_induction coversFrom (q.needs index) (q.hits index) start with
  | case1 start he =>
    simp only [List.not_mem_nil, false_iff, not_and]
    intro hmin hs
    have hw : range.Within ⟨start, range.last⟩ := ⟨hs, Nat.le_refl _⟩
    exact firstEnd?_eq_none he range.last (hmin.covers.mono hw)
  | case2 start last he hb => exact absurd hb (lastBeginning?_ne_none (firstEnd?_eq_some he).1)
  | case3 start last he first hb _ ih =>
    obtain ⟨hs, hmin, hnext⟩ := round he hb
    rw [List.mem_cons, ih]
    constructor
    · rintro (rfl | ⟨hr, hf⟩)
      · exact ⟨hmin, hs⟩
      · exact ⟨hr, by omega⟩
    · rintro ⟨hr, hf⟩
      exact (hnext range hr hf).imp_right fun hf => ⟨hr, hf⟩

theorem pairwise_coversFrom (start : Nat) :
    (coversFrom (q.needs index) (q.hits index) start).Pairwise (fun a b => a.first < b.first) := by
  fun_induction coversFrom (q.needs index) (q.hits index) start with
  | case1 => exact .nil
  | case2 => exact .nil
  | case3 start last he first hb _ ih =>
    refine .cons (fun range hr => ?_) ih
    exact ((mem_coversFrom (first + 1)).mp hr).2

end

/-! ## The rank -/

/-- The ranges, in the order of their beginnings, are the minimal ones. -/
structure Query.Lists (q : Query) (index : Index) (ranges : List Cover) : Prop where
  ascending : ranges.Pairwise (fun a b => a.first < b.first)
  mem : ∀ range, range ∈ ranges ↔ q.Minimal index range

def scoreSum (hits : List Hit) (ranges : List Cover) : Float :=
  ranges.foldl (fun sum range => sum + coverScore hits range) 0.0

theorem Query.first_le_of_hits {q : Query} {index : Index} {head : Hit} {rest : List Hit}
    (h : q.hits index = head :: rest) : ∀ hit ∈ q.hits index, head.first ≤ hit.first := by
  have hp := q.pairwise_hits index
  rw [h] at hp ⊢
  intro hit hm
  rcases List.mem_cons.mp hm with rfl | hm
  · exact Nat.le_refl _
  · have hle := (List.pairwise_cons.mp hp).1 hit hm
    simp only [Hit.le, Bool.or_eq_true, Bool.and_eq_true, decide_eq_true_eq, beq_iff_eq] at hle
    omega

theorem Query.exists_lists (q : Query) (index : Index) :
    ∃ ranges, q.Lists index ranges ∧ q.rank index = scoreSum (q.hits index) ranges := by
  cases hh : q.hits index with
  | nil =>
    refine ⟨[], ⟨.nil, fun range => ?_⟩, ?_⟩
    · simp only [List.not_mem_nil, false_iff]
      intro hmin
      obtain ⟨hit, hm, -⟩ := hmin.exists_hit
      rw [hh] at hm
      cases hm
    · have hh : orderedHits (q.needs index) = [] := hh
      simp [rank, hh, scoreSum]
  | cons head rest =>
    refine ⟨coversFrom (q.needs index) (q.hits index) head.first, ⟨pairwise_coversFrom _, fun range => ?_⟩, ?_⟩
    · rw [mem_coversFrom, and_iff_left_iff_imp]
      intro hmin
      obtain ⟨hit, hm, hf⟩ := hmin.exists_hit
      rw [← hf]
      exact first_le_of_hits hh hit hm
    · have hh' : orderedHits (q.needs index) = head :: rest := hh
      simp only [rank, hh', hh, scoreSum]

/-- There is one such list. -/
theorem Query.Lists.eq {q q' : Query} {index index' : Index} {ranges ranges' : List Cover} (h : q.Lists index ranges)
    (h' : q'.Lists index' ranges') (hmin : ∀ range, q.Minimal index range ↔ q'.Minimal index' range) :
    ranges = ranges' := by
  have hnd : ∀ {l : List Cover}, l.Pairwise (fun a b => a.first < b.first) → l.Nodup := by
    intro l hl
    exact hl.imp fun hlt he => Nat.ne_of_lt hlt (congrArg Cover.first he)
  have hperm : ranges.Perm ranges' := by
    refine (List.perm_ext_iff_of_nodup (hnd h.ascending) (hnd h'.ascending)).mpr fun range => ?_
    rw [h.mem, h'.mem, hmin]
  refine hperm.eq_of_pairwise (fun a b _ _ hab hba => ?_) h.ascending h'.ascending
  exact absurd hab (Nat.lt_asymm hba)

theorem Query.needs_asked (q : Query) (index : Index) : q.asked.needs index = q.needs index := by
  simp only [needs, asked, List.filter_map, List.map_map, List.filter_filter, Function.comp_def, List.isEmpty_map,
    Bool.and_self]

theorem Query.rank_asked (q : Query) (index : Index) : q.asked.rank index = q.rank index := by
  rw [rank, rank, needs_asked]

/-- For every query and every index. -/
theorem rank_sums_the_minimal_covers (q : Query) (index : Index) :
    (∃ ranges, q.Lists index ranges ∧ q.rank index = scoreSum (q.hits index) ranges) ∧
      ((∀ range, ¬ q.Covers index range) → q.rank index = 0.0) ∧
      ∀ other : Query, other.asked = q.asked → other.rank index = q.rank index := by
  obtain ⟨ranges, hlists, hrank⟩ := q.exists_lists index
  refine ⟨⟨ranges, hlists, hrank⟩, fun hnone => ?_, fun other ho => ?_⟩
  · have hnil : ranges = [] := by
      refine List.eq_nil_iff_forall_not_mem.mpr fun range hr => ?_
      exact hnone range ((hlists.mem range).mp hr).covers
    rw [hrank, hnil]
    rfl
  · rw [← other.rank_asked, ho, q.rank_asked]

/-! ## A title of three words -/

/-- If the covers are the ranges around one range, then that one is the minimal cover. -/
theorem Query.lists_singleton {q : Query} {index : Index} {range : Cover}
    (h : ∀ outer, q.Covers index outer ↔ range.Within outer) : q.Lists index [range] := by
  refine ⟨List.pairwise_singleton _ _, fun other => ?_⟩
  have hrange : q.Covers index range := (h range).mpr ⟨Nat.le_refl _, Nat.le_refl _⟩
  rw [List.mem_singleton]
  constructor
  · rintro rfl
    exact ⟨hrange, fun inner hin hc => hin.antisymm ((h inner).mp hc)⟩
  · intro hmin
    exact (hmin.least range ((h other).mp hmin.covers) hrange).symm

/-- Both words make one cover, with one position free between them. Where a word is missing nothing covers, and
words that must not occur change no rank. -/
theorem two_of_three_words :
    let index := Index.ofText "Domain Driven Design" .a .simple
    let q := Query.parse "domain design" .simple
    let cautious := Query.parse "domain design -driven" .simple
    let missing := Query.parse "domain patterns -driven" .simple
    q.Lists index [⟨0, 2⟩] ∧ q.rank index = 0.5 ∧ cautious.asked = q.asked ∧ cautious.rank index = q.rank index ∧
      (∀ range, ¬ missing.Covers index range) ∧ missing.rank index = 0.0 := by
  intro index q cautious missing
  have hlists : q.Lists index [⟨0, 2⟩] := by
    refine Query.lists_singleton fun outer => ?_
    have hq : q.alternatives = [[⟨false, [(0, "domain")]⟩, ⟨false, [(0, "design")]⟩]] := by decide
    have hdomain : (Clause.mk false [(0, "domain")]).hits index = [⟨0, 0, .a⟩] := by decide
    have hdesign : (Clause.mk false [(0, "design")]).hits index = [⟨2, 2, .a⟩] := by decide
    have hc : q.Covers index outer ↔ outer.first ≤ 0 ∧ (outer.first ≤ 2 ∧ 2 ≤ outer.last) := by
      simp [Query.Covers, hq, hdomain, hdesign]
    rw [hc]
    constructor
    · rintro ⟨hfirst, -, hlast⟩
      exact ⟨hfirst, hlast⟩
    · rintro ⟨hfirst, hlast⟩
      exact ⟨hfirst, Nat.le_trans hfirst (Nat.zero_le 2), hlast⟩
  have hhits : q.hits index = [⟨0, 0, .a⟩, ⟨2, 2, .a⟩] := by
    have hneeds : q.needs index = [[[⟨0, 0, .a⟩], [⟨2, 2, .a⟩]]] := by decide
    rw [Query.hits, orderedHits, hneeds]
    exact List.mergeSort_of_pairwise (by decide)
  have hasked : cautious.asked = q.asked := by decide
  have hnone : ∀ range, ¬ missing.Covers index range := by
    rintro range ⟨alt, ha, -, hall⟩
    have halt : alt = [⟨false, [(0, "domain")]⟩, ⟨false, [(0, "patterns")]⟩, ⟨true, [(0, "driven")]⟩] := by
      have hq : missing.alternatives =
          [[⟨false, [(0, "domain")]⟩, ⟨false, [(0, "patterns")]⟩, ⟨true, [(0, "driven")]⟩]] := by decide
      rw [hq] at ha
      exact List.mem_singleton.mp ha
    have hnohit : (Clause.mk false [(0, "patterns")]).hits index = [] := by decide
    obtain ⟨hit, hm, -⟩ := hall ⟨false, [(0, "patterns")]⟩ (by simp [halt]) rfl
    rw [hnohit] at hm
    cases hm
  obtain ⟨⟨ranges, hranges, hsum⟩, -, hnegated⟩ := rank_sums_the_minimal_covers q index
  obtain ⟨-, hzero, -⟩ := rank_sums_the_minimal_covers missing index
  have hrank : q.rank index = 0.5 := by
    rw [hsum, hranges.eq hlists (fun _ => Iff.rfl), hhits]
    -- two weights of 1.0, and one free position
    decide +kernel
  exact ⟨hlists, hrank, hasked, hnegated cautious hasked, hnone, hzero hnone⟩

end Bookshop.Search
