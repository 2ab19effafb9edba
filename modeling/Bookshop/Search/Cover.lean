/-
  Bookshop.Search.Cover — how well a query fits an index: cover density.

  A cover is a range of positions in which some alternative holds, each of its clauses with a hit
  inside the range; clauses that must not occur take no part. Starting from the first hit, `coversFrom`
  takes the smallest end that makes a cover, then the largest beginning, and goes on behind that
  beginning, so the covers it finds have no cover inside them. Each adds the harmonic mean of the
  weights of the hits inside it, less for positions that no hit takes up.
-/

import Bookshop.Search.Query

namespace Bookshop.Search

structure Cover where
  first : Nat
  last : Nat
  deriving DecidableEq, Repr

def Hit.inside (hit : Hit) (range : Cover) : Bool := range.first ≤ hit.first && hit.last ≤ range.last

def Hit.le (a b : Hit) : Bool := a.first < b.first || (a.first == b.first && a.last ≤ b.last)

/-- The hits of the clauses of each alternative that must occur; alternatives without such clauses
are left out. -/
def Query.needs (q : Query) (index : Index) : List (List (List Hit)) :=
  (q.alternatives.map (fun alt => (alt.filter (!·.negated)).map (·.hits index))).filter (fun alt => !alt.isEmpty)

/-- Do all clauses of some alternative have a hit inside the range? -/
def covers (needs : List (List (List Hit))) (range : Cover) : Bool :=
  needs.any (fun alt => alt.all (fun hits => hits.any (·.inside range)))

def orderedHits (needs : List (List (List Hit))) : List Hit := needs.flatten.flatten.mergeSort Hit.le

def orderedEnds (hits : List Hit) : List Nat := (distinct (hits.map (·.last))).mergeSort (· ≤ ·)

/-- The smallest end of a cover that begins at `start`. -/
def firstEnd? (needs : List (List (List Hit))) (hits : List Hit) (start : Nat) : Option Nat :=
  (orderedEnds hits).find? (fun last => start ≤ last && covers needs ⟨start, last⟩)

/-- The largest beginning, from `start` on, of a cover that ends at `last`. -/
def lastBeginning? (needs : List (List (List Hit))) (hits : List Hit) (start last : Nat) : Option Nat :=
  (hits.reverse.map (·.first)).find? (fun first => start ≤ first && first ≤ last && covers needs ⟨first, last⟩)

theorem lastBeginning?_spec {needs : List (List (List Hit))} {hits : List Hit} {start last first : Nat}
    (h : lastBeginning? needs hits start last = some first) :
    start ≤ first ∧ ∃ hit ∈ hits, hit.first = first := by
  have hp := List.find?_some h
  have hm := List.mem_of_find?_eq_some h
  simp only [Bool.and_eq_true, decide_eq_true_eq] at hp
  simp only [List.mem_map, List.mem_reverse] at hm
  exact ⟨hp.1.1, hm⟩

/-- The hits that begin at `start` or later grow fewer when `start` passes the beginning of one. -/
theorem countP_first_lt {hits : List Hit} {start first : Nat} (hle : start ≤ first)
    (h : ∃ hit ∈ hits, hit.first = first) :
    hits.countP (fun hit => first + 1 ≤ hit.first) < hits.countP (fun hit => start ≤ hit.first) := by
  obtain ⟨hit, hm, rfl⟩ := h
  induction hits with
  | nil => cases hm
  | cons a rest ih =>
    have hmono : rest.countP (fun x => hit.first + 1 ≤ x.first) ≤ rest.countP (fun x => start ≤ x.first) :=
      List.countP_mono_left (fun x _ hx => by simp only [decide_eq_true_eq] at hx ⊢; omega)
    simp only [List.countP_cons, decide_eq_true_eq]
    rcases List.mem_cons.mp hm with rfl | hm
    · rw [if_neg (by omega), if_pos hle]; omega
    · have := ih hm
      split <;> split <;> omega

/-- The covers from `start` on that have no cover inside them, in order. -/
def coversFrom (needs : List (List (List Hit))) (hits : List Hit) (start : Nat) : List Cover :=
  match firstEnd? needs hits start with
  | none => []
  | some last =>
    match h : lastBeginning? needs hits start last with
    | none => []
    | some first =>
      have := countP_first_lt (lastBeginning?_spec h).1 (lastBeginning?_spec h).2
      ⟨first, last⟩ :: coversFrom needs hits (first + 1)
  termination_by hits.countP (fun hit => start ≤ hit.first)

def occupied (hits : List Hit) : List Nat :=
  distinct (hits.flatMap (fun hit => List.range' hit.first (hit.last + 1 - hit.first)))

/-- What a cover adds: the harmonic mean of the weights of the hits inside it, divided by one more than
the number of positions that they leave free. -/
def coverScore (hits : List Hit) (range : Cover) : Float :=
  let inside := hits.filter (·.inside range)
  let noise := range.last - range.first + 1 - (occupied inside).length
  let inverse := inside.foldl (fun sum hit => sum + 1.0 / hit.weight.value) 0.0
  Float.ofNat inside.length / inverse / (1.0 + Float.ofNat noise)

def Query.rank (q : Query) (index : Index) : Float :=
  let needs := q.needs index
  let hits := orderedHits needs
  match hits with
  | [] => 0.0
  | hit :: _ => (coversFrom needs hits hit.first).foldl (fun sum range => sum + coverScore hits range) 0.0

end Bookshop.Search
