/-
  Bookshop.Proofs.Search.Positions — where the terms of an index stand.

  Texts are appended one after the other. Within a text the positions of the lexemes ascend, with gaps for the
  words that are dropped, and a text begins behind all positions that were taken before it. So in an index that
  was built of texts no two terms stand at one position, whatever the texts, their weights and their profiles
  (`ordered_ofPassages`); in particular there is one weight at a position (`Index.Ordered.eq_of_position`).
-/

import Bookshop.Search.Index
import Mathlib.Data.List.Nodup

namespace Bookshop.Search

/-! ## The lexemes of a text -/

theorem Profile.le_position {profile : Profile} {start : Nat} {ws : List (List Char)} {l : Lexeme}
    (h : l ∈ profile.lexemesFrom start ws) : start ≤ l.position := by
  induction ws generalizing start with
  | nil => cases h
  | cons w ws ih =>
    simp only [lexemesFrom] at h
    split at h
    · rcases List.mem_cons.mp h with rfl | h
      · exact Nat.le_refl _
      · exact Nat.le_of_succ_le (ih h)
    · exact Nat.le_of_succ_le (ih h)

theorem Profile.pairwise_lexemesFrom (profile : Profile) (start : Nat) (ws : List (List Char)) :
    (profile.lexemesFrom start ws).Pairwise (fun l m => l.position < m.position) := by
  induction ws generalizing start with
  | nil => exact .nil
  | cons w ws ih =>
    simp only [lexemesFrom]
    split
    · exact .cons (fun l hl => le_position hl) (ih (start + 1))
    · exact ih (start + 1)

/-! ## Building an index -/

/-- A text to be appended, with its weight. -/
structure Passage where
  text : String
  weight : Weight
  profile : Profile

def Index.ofPassages (passages : List Passage) : Index :=
  passages.foldl (fun index passage => index.append passage.text passage.weight passage.profile) .empty

namespace Index

/-- The terms stand at ascending positions, and the next text goes behind them. -/
structure Ordered (index : Index) : Prop where
  ascending : index.postings.Pairwise (fun p p' => p.position < p'.position)
  below : ∀ p ∈ index.postings, p.position < index.next

def added (index : Index) (text : String) (weight : Weight) (profile : Profile) : List Posting :=
  (profile.lexemes text).map fun l => ⟨l.term, index.next + l.position, weight⟩

theorem postings_append (index : Index) (text : String) (weight : Weight) (profile : Profile) :
    (index.append text weight profile).postings = index.postings ++ index.added text weight profile := rfl

theorem next_of_foldl (postings : List Posting) (next : Nat) :
    next ≤ postings.foldl (fun n p => max n (p.position + 1)) next ∧
      ∀ p ∈ postings, p.position < postings.foldl (fun n p => max n (p.position + 1)) next := by
  induction postings generalizing next with
  | nil => simp
  | cons p postings ih =>
    obtain ⟨hle, hlt⟩ := ih (max next (p.position + 1))
    simp only [List.foldl_cons]
    refine ⟨by omega, fun p' hp' => ?_⟩
    rcases List.mem_cons.mp hp' with rfl | hp'
    · omega
    · exact hlt p' hp'

theorem ordered_empty : empty.Ordered := ⟨.nil, fun _ hp => nomatch hp⟩

theorem Ordered.append {index : Index} (h : index.Ordered) (text : String) (weight : Weight) (profile : Profile) :
    (index.append text weight profile).Ordered := by
  obtain ⟨hle, hlt⟩ := next_of_foldl (index.added text weight profile) index.next
  have hnew : ∀ p ∈ index.added text weight profile, index.next ≤ p.position := by
    intro p hp
    obtain ⟨l, -, rfl⟩ := List.mem_map.mp hp
    exact Nat.le_add_right _ _
  constructor
  · rw [postings_append, List.pairwise_append]
    refine ⟨h.ascending, ?_, fun p hp p' hp' => ?_⟩
    · rw [added, List.pairwise_map]
      exact (profile.pairwise_lexemesFrom 0 _).imp fun hlt => Nat.add_lt_add_left hlt _
    · have hold := h.below p hp
      have hnew := hnew p' hp'
      omega
  · intro p hp
    show p.position < (index.added text weight profile).foldl (fun n p => max n (p.position + 1)) index.next
    rw [postings_append] at hp
    rcases List.mem_append.mp hp with hp | hp
    · have hold := h.below p hp
      omega
    · exact hlt p hp

theorem ordered_ofPassages (passages : List Passage) : (ofPassages passages).Ordered := by
  have hrun : ∀ index : Index, index.Ordered →
      (passages.foldl (fun index passage => index.append passage.text passage.weight passage.profile) index).Ordered := by
    induction passages with
    | nil => exact fun index h => h
    | cons passage passages ih => exact fun index h => ih _ (h.append _ _ _)
  exact hrun empty ordered_empty

theorem Ordered.eq_of_position {index : Index} (h : index.Ordered) {p p' : Posting} (hp : p ∈ index.postings)
    (hp' : p' ∈ index.postings) (he : p.position = p'.position) : p = p' := by
  have hnodup : (index.postings.map (·.position)).Nodup :=
    List.pairwise_map.mpr (h.ascending.imp fun hlt => Nat.ne_of_lt hlt)
  exact List.inj_on_of_nodup_map hnodup hp hp' he

end Index

end Bookshop.Search
