/-
  Bookshop.Proofs.Search.Rounds — the rounds by which covers are found, and what their scores divide by.

  A round takes the smallest end of a cover that begins at its start, then the largest beginning of a cover with
  that end (`Query.Round`); the next round starts behind that beginning. Where an end is found, the range from the
  start to that end covers, so a beginning is found as well (`Query.exists_round`), and it is not before the start.
  So the loop has one way out, a round without an end (`Query.Loop`), and the covers of a run are told apart by the
  hits that they begin with (`Query.length_coversFrom_le`).

  A range that covers has a hit inside it. Hits may overlap and are as long as their clauses, but those inside the
  range take up positions of the range only (`length_occupied_le`), and the inverse weights of one hit or more add
  up to a float above zero, however they are rounded (`inverses_pos`).

  - `every_round_advances`: for every text of a query and all texts that are indexed, each round that finds an end
    finds a range from its start on with a score that can be computed, and the loop ends, with one score for each
    beginning of a hit at most. All its positions stay below the number of words that were indexed.
-/

import Bookshop.Proofs.Decimal.Positive
import Bookshop.Proofs.Search.Appends
import Bookshop.Proofs.Search.Covers

namespace Bookshop.Search

/-! ## Positions that are taken -/

theorem mem_occupied {hits : List Hit} {position : Nat} :
    position ∈ occupied hits ↔ ∃ hit ∈ hits, hit.first ≤ position ∧ position ≤ hit.last := by
  simp only [occupied, mem_distinct, List.mem_flatMap, List.mem_range'_1]
  constructor
  · rintro ⟨hit, hm, hf, hl⟩
    exact ⟨hit, hm, hf, by omega⟩
  · rintro ⟨hit, hm, hf, hl⟩
    exact ⟨hit, hm, hf, by omega⟩

theorem occupied_ne_nil {hits : List Hit} {hit : Hit} (hm : hit ∈ hits) (h : hit.first ≤ hit.last) :
    occupied hits ≠ [] :=
  List.ne_nil_of_mem (mem_occupied.mpr ⟨hit, hm, Nat.le_refl _, h⟩)

theorem length_occupied_le {hits : List Hit} {range : Cover} (h : ∀ hit ∈ hits, hit.inside range = true) :
    (occupied hits).length ≤ range.last + 1 - range.first := by
  have hsub : occupied hits ⊆ List.range' range.first (range.last + 1 - range.first) := by
    intro position hp
    obtain ⟨hit, hm, hf, hl⟩ := mem_occupied.mp hp
    have hin := Hit.inside_iff.mp (h hit hm)
    rw [List.mem_range'_1]
    omega
  have hle := ((nodup_distinct _).subperm hsub).length_le
  rwa [List.length_range'] at hle

/-! ## Hits lie in the texts -/

/-- The clause of a piece has terms, and distances are counted from the first of them. -/
theorem Piece.terms_of_clause? {piece : Piece} {profile : Profile} {clause : Clause}
    (h : piece.clause? profile = some clause) : ∃ head rest, clause.terms = (0, head) :: rest := by
  unfold clause? at h
  split at h
  · cases h
  · cases h
    simp

theorem Query.exists_terms {text : String} {profile : Profile} {alt : List Clause} {clause : Clause}
    (ha : alt ∈ (parse text profile).alternatives) (hc : clause ∈ alt) :
    ∃ head rest, clause.terms = (0, head) :: rest := by
  obtain ⟨ha, -⟩ := List.mem_filter.mp ha
  obtain ⟨ps, -, rfl⟩ := List.mem_map.mp ha
  obtain ⟨piece, -, hp⟩ := List.mem_filterMap.mp hc
  exact Piece.terms_of_clause? hp

theorem Clause.exists_last {clause : Clause} {index : Index} {head : String} {rest : List (Nat × String)}
    (ht : clause.terms = (0, head) :: rest) {hit : Hit} (h : hit ∈ clause.hits index) :
    ∃ p ∈ index.postings, p.position = hit.last := by
  rw [hits, ht] at h
  obtain ⟨p, hp, rfl⟩ := List.mem_map.mp h
  obtain ⟨hplace, hrest⟩ : p ∈ index.places head ∧ _ := List.mem_filter.mp hp
  rcases List.eq_nil_or_concat rest with rfl | ⟨before, t, rfl⟩
  · have hspan : clause.span = 0 := by simp [span, ht]
    exact ⟨p, List.mem_of_mem_filter hplace, by simp only [hspan, Nat.add_zero]⟩
  · have hspan : clause.span = t.1 := by simp [span, ht, List.getLast?_cons]
    have hat := List.all_eq_true.mp hrest t (by simp)
    obtain ⟨p', hp', -, hpos⟩ := Index.hasAt_iff.mp hat
    exact ⟨p', hp', by simp only [hspan, hpos]⟩

theorem Query.last_lt {text : String} {profile : Profile} {passages : List Passage} {hit : Hit}
    (h : hit ∈ (parse text profile).hits (Index.ofPassages passages)) :
    hit.last < (passages.map Passage.length).sum := by
  obtain ⟨alt, ha, clause, hc, -, hm⟩ := mem_hits.mp h
  obtain ⟨head, rest, ht⟩ := exists_terms ha hc
  obtain ⟨p, hp, hpos⟩ := Clause.exists_last ht hm
  have hbelow := (Index.ordered_ofPassages passages).below p hp
  have hnext := Index.next_ofPassages_le passages
  omega

/-! ## What a score divides by -/

/-- The sum of the inverse weights. The number of the hits divided by it is the harmonic mean of their weights. -/
def inverses (hits : List Hit) : Float := hits.foldl (fun sum hit => sum + 1.0 / hit.weight.value) 0.0

theorem Weight.inverse_pos (weight : Weight) : 0.0 < 1.0 / weight.value := by
  cases weight <;> decide

theorem inverses_pos {hits : List Hit} (h : hits ≠ []) : 0.0 < inverses hits := by
  have hrun : ∀ (rest : List Hit) (sum : Float), 0.0 < sum →
      0.0 < rest.foldl (fun sum hit => sum + 1.0 / hit.weight.value) sum := by
    intro rest
    induction rest with
    | nil => exact fun _ hs => hs
    | cons hit rest ih => exact fun sum hs => ih _ (Decimal.add_pos hs hit.weight.inverse_pos)
  cases hits with
  | nil => exact absurd rfl h
  | cons hit rest =>
    -- the sum begins at zero, which is not positive, so the first hit stands apart
    have hfirst : 0.0 < 0.0 + 1.0 / hit.weight.value := by cases hit.weight <;> decide
    exact hrun rest _ hfirst

theorem one_add_ofNat_pos (n : Nat) : 0.0 < 1.0 + Float.ofNat n := by
  rcases Nat.eq_zero_or_pos n with rfl | hn
  · decide
  · exact Decimal.add_pos (by decide) (Decimal.ofNat_pos hn)

namespace Cover

def hitsIn (range : Cover) (hits : List Hit) : List Hit := hits.filter (·.inside range)

def taken (range : Cover) (hits : List Hit) : Nat := (occupied (range.hitsIn hits)).length

def free (range : Cover) (hits : List Hit) : Nat := range.last - range.first + 1 - range.taken hits

/-- The score of the range can be computed: there is something to take the mean of, the positions that are taken
are subtracted from no fewer, and what is divided by is above zero. -/
structure HasScore (range : Cover) (hits : List Hit) : Prop where
  score : coverScore hits range =
    Float.ofNat (range.hitsIn hits).length / inverses (range.hitsIn hits) / (1.0 + Float.ofNat (range.free hits))
  hitsIn_ne_nil : range.hitsIn hits ≠ []
  taken_pos : 1 ≤ range.taken hits
  taken_le : range.taken hits ≤ range.last - range.first + 1
  free_add_taken : range.free hits + range.taken hits + range.first = range.last + 1
  inverses_pos : 0.0 < inverses (range.hitsIn hits)
  noise_pos : 0.0 < 1.0 + Float.ofNat (range.free hits)

end Cover

section

variable {q : Query} {index : Index} {start : Nat} {range : Cover} {ranges : List Cover}

theorem Query.Covers.hasScore (h : q.Covers index range) : range.HasScore (q.hits index) := by
  obtain ⟨hit, hm, hf, hfl, hl⟩ := h.exists_hit
  have hin : hit ∈ range.hitsIn (q.hits index) := List.mem_filter.mpr ⟨hm, Hit.inside_iff.mpr ⟨hf, hl⟩⟩
  have hpos : 1 ≤ range.taken (q.hits index) := List.length_pos_of_ne_nil (occupied_ne_nil hin hfl)
  have hle : range.taken (q.hits index) ≤ range.last + 1 - range.first :=
    length_occupied_le fun hit hm => (List.mem_filter.mp hm).2
  have hfree : range.free (q.hits index) = range.last - range.first + 1 - range.taken (q.hits index) := rfl
  exact {
    score := rfl
    hitsIn_ne_nil := List.ne_nil_of_mem hin
    taken_pos := hpos
    taken_le := by omega
    free_add_taken := by omega
    inverses_pos := Search.inverses_pos (List.ne_nil_of_mem hin)
    noise_pos := one_add_ofNat_pos _ }

/-! ## One round -/

/-- A round that starts at `start` finds the range: its end first, then its beginning. -/
structure Query.Round (q : Query) (index : Index) (start : Nat) (range : Cover) : Prop where
  last : firstEnd? (q.needs index) (q.hits index) start = some range.last
  first : lastBeginning? (q.needs index) (q.hits index) start range.last = some range.first

theorem Query.exists_round {last : Nat} (h : firstEnd? (q.needs index) (q.hits index) start = some last) :
    ∃ range, q.Round index start range ∧ range.last = last := by
  have hne := lastBeginning?_ne_none (firstEnd?_eq_some h).1
  obtain ⟨first, hfirst⟩ := Option.ne_none_iff_exists'.mp hne
  exact ⟨⟨first, last⟩, ⟨h, hfirst⟩, rfl⟩

namespace Query.Round

variable (h : q.Round index start range)

include h

theorem start_le : start ≤ range.first := (lastBeginning?_eq_some h.first).1

theorem covers : q.Covers index range := (lastBeginning?_eq_some h.first).2.1

theorem exists_last : ∃ hit ∈ q.hits index, hit.last = range.last :=
  mem_orderedEnds.mp (List.mem_of_find?_eq_some h.last)

theorem coversFrom_eq :
    coversFrom (q.needs index) (q.hits index) start =
      range :: coversFrom (q.needs index) (q.hits index) (range.first + 1) := by
  rw [coversFrom, h.last]
  dsimp only
  split
  case h_1 hnone =>
    rw [h.first] at hnone
    cases hnone
  case h_2 first hfirst =>
    rw [h.first] at hfirst
    cases hfirst
    rfl

end Query.Round

/-! ## The loop -/

/-- A run of the loop from `start` on: rounds, each behind the beginning that the one before found, until one finds
no end. -/
inductive Query.Loop (q : Query) (index : Index) : Nat → List Cover → Prop
  | done {start : Nat} : firstEnd? (q.needs index) (q.hits index) start = none → Loop q index start []
  | round {start : Nat} {range : Cover} {ranges : List Cover} : q.Round index start range →
      Loop q index (range.first + 1) ranges → Loop q index start (range :: ranges)

/-- From every start there is one run, and it finds the covers. -/
theorem Query.loop_iff : q.Loop index start ranges ↔ ranges = coversFrom (q.needs index) (q.hits index) start := by
  constructor
  · intro h
    induction h with
    | done he => rw [coversFrom, he]
    | round hr _ ih => rw [hr.coversFrom_eq, ih]
  · rintro rfl
    fun_induction coversFrom (q.needs index) (q.hits index) start with
    | case1 start he => exact .done he
    | case2 start last he hb => exact absurd hb (lastBeginning?_ne_none (firstEnd?_eq_some he).1)
    | case3 start last he first hb _ ih => exact .round ⟨he, hb⟩ ih

/-- Each round begins with a hit, and no two with hits of one beginning. -/
theorem Query.length_coversFrom_le (q : Query) (index : Index) (start : Nat) :
    (coversFrom (q.needs index) (q.hits index) start).length ≤ (distinct ((q.hits index).map (·.first))).length := by
  have hnodup : ((coversFrom (q.needs index) (q.hits index) start).map (·.first)).Nodup :=
    List.pairwise_map.mpr ((pairwise_coversFrom start).imp fun hlt => Nat.ne_of_lt hlt)
  have hsub : (coversFrom (q.needs index) (q.hits index) start).map (·.first) ⊆
      distinct ((q.hits index).map (·.first)) := by
    intro first hf
    obtain ⟨range, hr, rfl⟩ := List.mem_map.mp hf
    obtain ⟨hit, hm, hf⟩ := ((mem_coversFrom start).mp hr).1.exists_hit
    exact mem_distinct.mpr (List.mem_map.mpr ⟨hit, hm, hf⟩)
  have hle := (hnodup.subperm hsub).length_le
  rwa [List.length_map] at hle

theorem Query.rank_eq {head : Hit} {rest : List Hit} (h : q.hits index = head :: rest) :
    q.rank index = scoreSum (q.hits index) (coversFrom (q.needs index) (q.hits index) head.first) := by
  have hh : orderedHits (q.needs index) = head :: rest := h
  simp only [rank, hh, h, scoreSum]

end

/-- Of any text of a query, and any texts that were appended to an empty index. -/
theorem every_round_advances (text : String) (profile : Profile) (passages : List Passage) :
    let q := Query.parse text profile
    let index := Index.ofPassages passages
    let hits := q.hits index
    (∀ start last, firstEnd? (q.needs index) hits start = some last →
        ∃ range, q.Round index start range ∧ range.last = last) ∧
      (∀ start range, q.Round index start range →
        start ≤ range.first ∧ range.first ≤ range.last ∧ range.last < (passages.map Passage.length).sum ∧
          range.HasScore hits) ∧
      ∀ head rest, hits = head :: rest →
        ∃ ranges, (∀ run, q.Loop index head.first run ↔ run = ranges) ∧ q.rank index = scoreSum hits ranges ∧
          ranges.Pairwise (fun a b => a.first < b.first) ∧
          ranges.length ≤ (distinct (hits.map (·.first))).length := by
  intro q index hits
  refine ⟨fun start last h => Query.exists_round h, fun start range h => ?_, fun head rest h => ?_⟩
  · obtain ⟨hit, hm, hl⟩ := h.exists_last
    have hlt : hit.last < (passages.map Passage.length).sum := Query.last_lt hm
    exact ⟨h.start_le, h.covers.first_le_last, hl ▸ hlt, h.covers.hasScore⟩
  · exact ⟨coversFrom (q.needs index) hits head.first, fun run => Query.loop_iff, Query.rank_eq h,
      pairwise_coversFrom _, q.length_coversFrom_le index _⟩

/-- Of two phrases whose hits overlap, one of them across two texts. -/
theorem new_york_new_york :
    let q := Query.parse "\"new york\" \"york new\"" .simple
    let index := Index.ofPassages [⟨"New York", .a, .simple⟩, ⟨"New York", .c, .simple⟩]
    let hits := q.hits index
    hits = [⟨0, 1, .a⟩, ⟨1, 2, .a⟩, ⟨2, 3, .c⟩] ∧
      (∃ range, q.Round index 1 range ∧ range.last = 3 ∧ 1 ≤ range.first ∧ range.HasScore hits) ∧
      ∃ ranges, q.Loop index 0 ranges ∧ q.rank index = scoreSum hits ranges ∧ ranges.length ≤ 3 := by
  intro q index hits
  have hhits : hits = [⟨0, 1, .a⟩, ⟨1, 2, .a⟩, ⟨2, 3, .c⟩] := by
    subst hits index q
    cbv
  have hend : firstEnd? (q.needs index) hits 1 = some 3 := by
    subst hits index q
    cbv
  obtain ⟨hfound, hround, hloop⟩ := every_round_advances "\"new york\" \"york new\"" .simple
    [⟨"New York", .a, .simple⟩, ⟨"New York", .c, .simple⟩]
  obtain ⟨range, hr, hlast⟩ := hfound 1 3 hend
  obtain ⟨hstart, -, -, hscore⟩ := hround 1 range hr
  obtain ⟨ranges, hrun, hrank, -, hlength⟩ := hloop _ _ hhits
  have hthree : (distinct (hits.map (·.first))).length = 3 := by
    rw [hhits]
    decide
  exact ⟨hhits, ⟨range, hr, hlast, hstart, hscore⟩, ranges, (hrun ranges).mpr rfl, hrank, hthree ▸ hlength⟩

end Bookshop.Search
