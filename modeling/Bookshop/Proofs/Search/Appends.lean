/-
  Bookshop.Proofs.Search.Appends — what an index holds of the texts that were appended to it.

  A text is appended at a base, behind all that was there (`Index.exists_append`). So the postings of a run of
  appends are those of its texts, each moved by its base, one after the other (`Index.exists_bases`), and every
  append leaves what was there as it was. Under the plain profile every word of a text stands in the index and the
  next base comes right behind the last one, so two texts are appended like one text with a space between them
  (`Index.sites_append_simple`). A stop word at the end of a text is not counted by the next base, so under the
  English profile they are not.

  - `index_is_faithful`: of any texts, weights and profiles, the index holds at each position one term with one
    weight at most, the places of a term ascend, and no lexeme of a text is lost, doubled or moved against the others.
    No position reaches the number of the words, so positions fit in as many bits as that number does.
-/

import Bookshop.Proofs.Search.Collapsed
import Bookshop.Proofs.Search.Phrases

namespace Bookshop.Search

/-! ## Lexemes and their places in a text -/

namespace Profile

theorem lexemesFrom_append (profile : Profile) (start : Nat) (ws vs : List (List Char)) :
    profile.lexemesFrom start (ws ++ vs) =
      profile.lexemesFrom start ws ++ profile.lexemesFrom (start + ws.length) vs := by
  induction ws generalizing start with
  | nil => rfl
  | cons w ws ih =>
    rw [List.cons_append, lexemesFrom_cons, lexemesFrom_cons, ih, List.append_assoc, List.length_cons,
      Nat.add_assoc, Nat.add_comm 1]

theorem lexemesFrom_add (profile : Profile) (base start : Nat) (ws : List (List Char)) :
    profile.lexemesFrom (base + start) ws =
      (profile.lexemesFrom start ws).map fun l => ⟨l.term, base + l.position⟩ := by
  induction ws generalizing start with
  | nil => rfl
  | cons w ws ih =>
    rw [lexemesFrom_cons, lexemesFrom_cons, List.map_append, ← ih, Nat.add_assoc]
    cases profile.normalize w <;> rfl

theorem position_lt {profile : Profile} {start : Nat} {ws : List (List Char)} {l : Lexeme}
    (h : l ∈ profile.lexemesFrom start ws) : l.position < start + ws.length := by
  obtain ⟨i, word, hi, -, hpos⟩ := mem_lexemesFrom_iff.mp h
  have hlt := (List.getElem?_eq_some_iff.mp hi).1
  omega

end Profile

/-! ## One append -/

def Passage.postings (passage : Passage) (base : Nat) : List Posting :=
  (passage.profile.lexemes passage.text).map fun l => ⟨l.term, base + l.position, passage.weight⟩

/-- How many words a text has, those that are dropped among them. -/
def Passage.length (passage : Passage) : Nat := (words passage.text.toList).length

namespace Index

theorem ofPassages_concat (passages : List Passage) (passage : Passage) :
    ofPassages (passages ++ [passage]) = (ofPassages passages).append passage.text passage.weight passage.profile :=
  List.foldl_concat _ _ _ _

theorem places_append (index : Index) (text : String) (weight : Weight) (profile : Profile) (term : String) :
    (index.append text weight profile).places term =
      index.places term ++ (index.added text weight profile).filter (·.term == term) :=
  List.filter_append _ _

theorem postings_concat (passages : List Passage) (passage : Passage) :
    (ofPassages (passages ++ [passage])).postings =
      (ofPassages passages).postings ++ passage.postings (ofPassages passages).next := by
  rw [ofPassages_concat, postings_append]
  rfl

theorem foldl_le {postings : List Posting} {next bound : Nat} (hn : next ≤ bound)
    (h : ∀ p ∈ postings, p.position < bound) :
    postings.foldl (fun n p => max n (p.position + 1)) next ≤ bound := by
  induction postings generalizing next with
  | nil => exact hn
  | cons p postings ih =>
    obtain ⟨hp, hpostings⟩ := List.forall_mem_cons.mp h
    exact ih (Nat.max_le.mpr ⟨hn, hp⟩) hpostings

/-- A text takes as many positions as it has words, at most. -/
theorem next_append_le (index : Index) (passage : Passage) :
    (index.append passage.text passage.weight passage.profile).next ≤ index.next + passage.length := by
  refine foldl_le (Nat.le_add_right _ _) fun p hp => ?_
  obtain ⟨l, hl, rfl⟩ := List.mem_map.mp hp
  have hlt := Profile.position_lt hl
  simp only [Passage.length]
  omega

theorem next_append_simple (index : Index) (text : String) (weight : Weight) :
    (index.append text weight .simple).next = index.next + (words text.toList).length := by
  have hmost := index.next_append_le ⟨text, weight, .simple⟩
  obtain ⟨hle, hlt⟩ := next_of_foldl (index.added text weight .simple) index.next
  refine Nat.le_antisymm hmost ?_
  cases hw : words text.toList with
  | nil => exact hle
  | cons w ws =>
    -- the last word is a lexeme, so its position is taken
    have hlast : ⟨String.ofList ((w :: ws)[ws.length]), ws.length⟩ ∈ Profile.simple.lexemes text :=
      Profile.mem_lexemesFrom_iff.mpr ⟨ws.length, _, by rw [hw]; exact List.getElem?_eq_getElem (by simp), rfl, by simp⟩
    exact hlt _ (List.mem_map_of_mem hlast)

/-! ## A run of appends -/

/-- The postings of texts that begin at these bases. -/
def parts (passages : List Passage) (bases : List Nat) : List (List Posting) :=
  List.zipWith Passage.postings passages bases

theorem exists_bases (passages : List Passage) :
    ∃ bases : List Nat, bases.length = passages.length ∧ (ofPassages passages).postings = (parts passages bases).flatten := by
  induction passages using List.reverseRecOn with
  | nil => exact ⟨[], rfl, rfl⟩
  | append_singleton passages passage ih =>
    obtain ⟨bases, hlen, hpostings⟩ := ih
    refine ⟨bases ++ [(ofPassages passages).next], by simp [hlen], ?_⟩
    rw [postings_concat, hpostings, parts, parts, List.zipWith_append hlen.symm]
    simp

theorem next_ofPassages_le (passages : List Passage) :
    (ofPassages passages).next ≤ (passages.map Passage.length).sum := by
  induction passages using List.reverseRecOn with
  | nil => exact Nat.le_refl 0
  | append_singleton passages passage ih =>
    have hnext := (ofPassages passages).next_append_le passage
    rw [ofPassages_concat, List.map_append, List.sum_append, List.map_singleton, List.sum_singleton]
    omega

/-- Which term stands where. -/
def sites (index : Index) : List (String × Nat) := index.postings.map fun p => (p.term, p.position)

theorem sites_append (index : Index) (text : String) (weight : Weight) (profile : Profile) :
    (index.append text weight profile).sites =
      index.sites ++ (profile.lexemes text).map fun l => (l.term, index.next + l.position) := by
  rw [sites, postings_append, List.map_append, added, List.map_map]
  rfl

/-- Under the plain profile, texts that are appended one after the other are one text with a space between them. -/
theorem sites_append_simple (index : Index) (first second : String) (weight weight' weight'' : Weight) :
    ((index.append first weight .simple).append second weight' .simple).sites =
      (index.append (first ++ " " ++ second) weight'' .simple).sites := by
  have hwords : words (first ++ " " ++ second).toList = words first.toList ++ words second.toList := by
    have hcut := words_append_blank (c := ' ') (by decide) first.toList second.toList
    simpa using hcut
  have hmove := Profile.simple.lexemesFrom_add (words first.toList).length 0 (words second.toList)
  rw [Nat.add_zero] at hmove
  rw [sites_append, sites_append, sites_append, next_append_simple, List.append_assoc, Profile.lexemes, Profile.lexemes,
    Profile.lexemes, hwords, Profile.lexemesFrom_append, Nat.zero_add, hmove, List.map_append, List.map_map]
  simp only [Function.comp_def, Nat.add_assoc]

end Index

/-- What an index holds of the passages that were appended to it. -/
structure Index.Faithful (index : Index) (passages : List Passage) : Prop where
  one : ∀ p ∈ index.postings, ∀ p' ∈ index.postings, p.position = p'.position → p.term = p'.term ∧ p.weight = p'.weight
  ascending : ∀ term, (index.places term).Pairwise fun p p' => p.position < p'.position
  /-- Each passage stands at one base, and behind those before it. -/
  bases : ∃ bases : List Nat, bases.length = passages.length ∧
    (Index.parts passages bases).Pairwise (fun part part' => ∀ p ∈ part, ∀ p' ∈ part', p.position < p'.position) ∧
    ∀ term, index.places term = (Index.parts passages bases).flatMap (·.filter (·.term == term))
  /-- One more passage leaves what is there as it is. -/
  append : ∀ passage : Passage, ∃ base, (∀ p ∈ index.postings, p.position < base) ∧
    ∀ term, (Index.ofPassages (passages ++ [passage])).places term =
      index.places term ++ (passage.postings base).filter (·.term == term)
  bounded : ∀ p ∈ index.postings, p.position < (passages.map Passage.length).sum
  plain : ∀ (first second : String) (weight weight' weight'' : Weight),
    ((index.append first weight .simple).append second weight' .simple).sites =
      (index.append (first ++ " " ++ second) weight'' .simple).sites

theorem index_is_faithful (passages : List Passage) : (Index.ofPassages passages).Faithful passages where
  one := by
    intro p hp p' hp' hpos
    obtain rfl := (Index.ordered_ofPassages passages).eq_of_position hp hp' hpos
    exact ⟨rfl, rfl⟩
  ascending := fun _ => (Index.ordered_ofPassages passages).ascending.filter _
  bases := by
    obtain ⟨bases, hlen, hpostings⟩ := Index.exists_bases passages
    have hascending := (Index.ordered_ofPassages passages).ascending
    rw [hpostings, List.pairwise_flatten] at hascending
    refine ⟨bases, hlen, hascending.2, fun term => ?_⟩
    rw [Index.places, hpostings, List.filter_flatten, List.flatMap_def]
  append := by
    refine fun passage => ⟨_, (Index.ordered_ofPassages passages).below, fun term => ?_⟩
    rw [Index.ofPassages_concat, Index.places_append]
    rfl
  bounded := fun p hp =>
    Nat.lt_of_lt_of_le ((Index.ordered_ofPassages passages).below p hp) (Index.next_ofPassages_le passages)
  plain := (Index.ofPassages passages).sites_append_simple

/-- Of a title that ends in a dropped word, and a text of dropped words only. -/
theorem frank_herbert_comes_after_the_spice :
    let passages := [Passage.mk "Dune: the spice of" .a .english, ⟨"of the", .c, .english⟩]
    let spice := Posting.mk "spice" 2 .a
    spice ∈ (Index.ofPassages passages).postings ∧
      (∀ p ∈ (Index.ofPassages passages).postings, p.position = 2 → p.term = "spice" ∧ p.weight = .a) ∧
      ∃ base, 2 < base ∧
        (Index.ofPassages (passages ++ [⟨"Frank Herbert", .b, .simple⟩])).places "herbert" = [⟨"herbert", base + 1, .b⟩] := by
  intro passages spice
  have hmem : spice ∈ (Index.ofPassages passages).postings := by decide
  have hfaithful := index_is_faithful passages
  obtain ⟨base, hbase, hplaces⟩ := hfaithful.append ⟨"Frank Herbert", .b, .simple⟩
  refine ⟨hmem, fun p hp hpos => hfaithful.one p hp spice hmem hpos, base, hbase spice hmem, ?_⟩
  have hbefore : (Index.ofPassages passages).places "herbert" = [] := by decide
  have hlexemes : Profile.simple.lexemes "Frank Herbert" = [⟨"frank", 0⟩, ⟨"herbert", 1⟩] := by decide
  rw [hplaces, hbefore, Passage.postings, hlexemes]
  simp

end Bookshop.Search
