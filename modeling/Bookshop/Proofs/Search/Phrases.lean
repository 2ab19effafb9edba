/-
  Bookshop.Proofs.Search.Phrases — a phrase in quotes matches where its lexemes stand at their distances.

  A phrase is one piece of a query, and its clause asks for the lexemes of the phrase at their distances from the
  first of them. In the index of one text, the lexemes of the text stand at their own positions. So the phrase
  matches just if it has lexemes, and some shift puts each of them on a lexeme of the text
  (`matchesIn_phrase_iff`). Dropped words are not compared, but the positions that they use up are part of the
  distances. The plain profile drops none, and what can be shifted so are the words that stand side by side in the
  text (`exists_lands_simple_iff`).
-/

import Bookshop.Proofs.Search.Parsing
import Bookshop.Proofs.Search.Positions

namespace Bookshop.Search

/-! ## Where lexemes stand -/

theorem Profile.lexemesFrom_cons (profile : Profile) (start : Nat) (word : List Char) (ws : List (List Char)) :
    profile.lexemesFrom start (word :: ws) =
      ((profile.normalize word).map (fun term => Lexeme.mk term start)).toList ++ profile.lexemesFrom (start + 1) ws := by
  rw [lexemesFrom]
  cases profile.normalize word <;> rfl

/-- A lexeme is the normal form of a word, and stands where the word stands. -/
theorem Profile.mem_lexemesFrom_iff {profile : Profile} {start : Nat} {ws : List (List Char)} {l : Lexeme} :
    l ∈ profile.lexemesFrom start ws ↔
      ∃ (i : Nat) (word : List Char), ws[i]? = some word ∧ profile.normalize word = some l.term ∧
        l.position = start + i := by
  induction ws generalizing start with
  | nil => simp [lexemesFrom]
  | cons w ws ih =>
    rw [lexemesFrom_cons, List.mem_append, ih]
    constructor
    · rintro (hl | ⟨i, word, hi, hn, hpos⟩)
      · obtain ⟨term, hn, rfl⟩ := by simpa using hl
        exact ⟨0, w, rfl, hn, rfl⟩
      · exact ⟨i + 1, word, hi, hn, by omega⟩
    · rintro ⟨i, word, hi, hn, hpos⟩
      cases i with
      | zero =>
        obtain rfl : w = word := by simpa using hi
        obtain ⟨term, position⟩ := l
        obtain rfl : position = start := hpos
        exact .inl (by simp [hn])
      | succ i => exact .inr ⟨i, word, hi, hn, by omega⟩

theorem Profile.lexemesFrom_simple_ne_nil {start : Nat} {ws : List (List Char)} :
    Profile.simple.lexemesFrom start ws ≠ [] ↔ ws ≠ [] := by
  cases ws <;> simp [lexemesFrom, normalize]

theorem Profile.first_le_position {profile : Profile} {text : String} {first : Lexeme} {rest : List Lexeme}
    (h : profile.lexemes text = first :: rest) {l : Lexeme} (hl : l ∈ rest) : first.position ≤ l.position := by
  have hsorted := profile.pairwise_lexemesFrom 0 (words text.toList)
  rw [← lexemes, h, List.pairwise_cons] at hsorted
  exact Nat.le_of_lt (hsorted.1 l hl)

/-- The shift puts each lexeme of the phrase on one of the text. -/
def Lands (shift : Int) (phrase text : List Lexeme) : Prop :=
  ∀ l ∈ phrase, ∃ m ∈ text, m.term = l.term ∧ (m.position : Int) = l.position + shift

/-- The plain profile drops no words, so what can be shifted into the text are words that stand side by side in it. -/
theorem exists_lands_simple_iff {phrase text : List (List Char)} :
    (∃ shift, Lands shift (Profile.simple.lexemesFrom 0 phrase) (Profile.simple.lexemesFrom 0 text)) ↔
      phrase <:+: text := by
  rw [List.infix_iff_getElem?]
  constructor
  · rintro ⟨shift, h⟩
    have hword : ∀ (i : Nat) (hi : i < phrase.length), ∃ j : Nat, text[j]? = some phrase[i] ∧ (j : Int) = i + shift := by
      intro i hi
      have hl : ⟨String.ofList phrase[i], i⟩ ∈ Profile.simple.lexemesFrom 0 phrase :=
        Profile.mem_lexemesFrom_iff.mpr ⟨i, phrase[i], List.getElem?_eq_getElem hi, rfl, by simp⟩
      obtain ⟨m, hm, hterm, hpos⟩ := h _ hl
      obtain ⟨j, word, hj, hn, hmj⟩ := Profile.mem_lexemesFrom_iff.mp hm
      have hofList : String.ofList word = String.ofList phrase[i] := (Option.some.inj hn).trans hterm
      have hsame : word = phrase[i] := by simpa using congrArg String.toList hofList
      exact ⟨j, hsame ▸ hj, by simp at hpos hmj; omega⟩
    by_cases hne : phrase.length = 0
    · exact ⟨0, by omega, fun i hi => by omega⟩
    -- The first word tells where the others are.
    obtain ⟨k, -, hk⟩ := hword 0 (by omega)
    have hat : ∀ (i : Nat) (hi : i < phrase.length), text[i + k]? = some phrase[i] := by
      intro i hi
      obtain ⟨j, hj, hjk⟩ := hword i hi
      obtain rfl : j = i + k := by omega
      exact hj
    refine ⟨k, ?_, hat⟩
    have hlast := (List.getElem?_eq_some_iff.mp (hat (phrase.length - 1) (by omega))).1
    omega
  · rintro ⟨k, -, hat⟩
    refine ⟨k, fun l hl => ?_⟩
    obtain ⟨i, word, hi, hn, hpos⟩ := Profile.mem_lexemesFrom_iff.mp hl
    obtain ⟨hlt, rfl⟩ := List.getElem?_eq_some_iff.mp hi
    refine ⟨⟨l.term, i + k⟩, Profile.mem_lexemesFrom_iff.mpr ⟨i + k, phrase[i], hat i hlt, hn, by simp⟩, rfl, ?_⟩
    simp only [hpos]
    omega

/-! ## Phrases on the index of a text -/

theorem Index.hasAt_iff {index : Index} {term : String} {position : Nat} :
    index.hasAt term position = true ↔ ∃ p ∈ index.postings, p.term = term ∧ p.position = position := by
  simp [hasAt]

theorem Clause.occursIn_iff {negated : Bool} {distance : Nat} {head : String} {rest : List (Nat × String)}
    {index : Index} :
    (Clause.mk negated ((distance, head) :: rest)).occursIn index = true ↔
      ∃ p ∈ index.postings, p.term = head ∧ ∀ t ∈ rest, index.hasAt t.2 (p.position + t.1) = true := by
  simp [occursIn, hits, Index.places, and_comm]

theorem Index.mem_ofText_iff {text : String} {weight : Weight} {profile : Profile} {p : Posting} :
    p ∈ (ofText text weight profile).postings ↔ ∃ l ∈ profile.lexemes text, Posting.mk l.term l.position weight = p := by
  simp [ofText, append, empty]

theorem Index.hasAt_ofText_iff {text : String} {weight : Weight} {profile : Profile} {term : String} {position : Nat} :
    (ofText text weight profile).hasAt term position = true ↔
      ∃ m ∈ profile.lexemes text, m.term = term ∧ m.position = position := by
  simp only [hasAt_iff, mem_ofText_iff]
  constructor
  · rintro ⟨_, ⟨m, hm, rfl⟩, hterm, hpos⟩
    exact ⟨m, hm, hterm, hpos⟩
  · rintro ⟨m, hm, hterm, hpos⟩
    exact ⟨_, ⟨m, hm, rfl⟩, hterm, hpos⟩

theorem occursIn_ofText_iff {first : Lexeme} {rest : List Lexeme} (hfirst : ∀ l ∈ rest, first.position ≤ l.position)
    (text : String) (weight : Weight) (profile : Profile) :
    (Clause.mk false ((first :: rest).map (fun l => (l.position - first.position, l.term)))).occursIn
        (Index.ofText text weight profile) = true ↔
      ∃ shift, Lands shift (first :: rest) (profile.lexemes text) := by
  rw [List.map_cons, Clause.occursIn_iff]
  simp only [List.forall_mem_map, Index.hasAt_ofText_iff]
  constructor
  · rintro ⟨p, hp, hterm, hrest⟩
    obtain ⟨m, hm, rfl⟩ := Index.mem_ofText_iff.mp hp
    refine ⟨m.position - first.position, List.forall_mem_cons.mpr ⟨⟨m, hm, hterm, by omega⟩, fun l hl => ?_⟩⟩
    obtain ⟨m', hm', hterm', hpos'⟩ := hrest l hl
    have hle := hfirst l hl
    exact ⟨m', hm', hterm', by simp only at hpos'; omega⟩
  · rintro ⟨shift, h⟩
    obtain ⟨⟨m, hm, hterm, hpos⟩, hrest⟩ := List.forall_mem_cons.mp h
    refine ⟨_, Index.mem_ofText_iff.mpr ⟨m, hm, rfl⟩, hterm, fun l hl => ?_⟩
    obtain ⟨m', hm', hterm', hpos'⟩ := hrest l hl
    have hle := hfirst l hl
    exact ⟨m', hm', hterm', by simp only; omega⟩

/-! ## Phrases in quotes -/

def inQuotes (phrase : String) : String := "\"" ++ phrase ++ "\""

theorem toList_inQuotes (phrase : String) : (inQuotes phrase).toList = '"' :: (phrase.toList ++ ['"']) := by
  simp [inQuotes]

theorem parse_inQuotes {phrase : String} (h : '"' ∉ phrase.toList) (profile : Profile) :
    Query.parse (inQuotes phrase) profile = Query.ofPieces [⟨false, true, phrase.toList⟩] profile := by
  rw [Query.parse, toList_inQuotes, pieces_phrase h]

theorem matchesIn_phrase_iff {phrase : String} (h : '"' ∉ phrase.toList) (profile : Profile) (text : String)
    (weight : Weight) :
    (Query.parse (inQuotes phrase) profile).matchesIn (Index.ofText text weight profile) = true ↔
      profile.lexemes phrase ≠ [] ∧ ∃ shift, Lands shift (profile.lexemes phrase) (profile.lexemes text) := by
  have hor : Piece.isOr ⟨false, true, phrase.toList⟩ = false := by simp [Piece.isOr]
  rw [parse_inQuotes h]
  rcases hl : profile.lexemes phrase with _ | ⟨first, rest⟩
  · have hc : Piece.clause? ⟨false, true, phrase.toList⟩ profile = none := by simp [Piece.clause?, hl]
    simp [Query.matchesIn, Query.alternatives_of_piece hor, hc]
  · have hc : Piece.clause? ⟨false, true, phrase.toList⟩ profile =
        some ⟨false, (first :: rest).map (fun l => (l.position - first.position, l.term))⟩ := by
      simp [Piece.clause?, hl]
    rw [Query.matchesIn_of_piece hor hc, Clause.holds, bne_iff_ne, ne_eq, Bool.not_eq_false,
      occursIn_ofText_iff (fun l hm => Profile.first_le_position hl hm)]
    simp

end Bookshop.Search
