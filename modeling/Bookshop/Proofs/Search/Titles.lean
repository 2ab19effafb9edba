/-
  Bookshop.Proofs.Search.Titles — every book is found by its title in quotes.

  A title with lexemes is itself a place where its phrase matches, with the shift zero. A filter is tidied before
  it is read, but that collapses blanks only. So a search with the title in quotes as the only filter finds the
  book, and whatever the order of the results and the size of a page, the book is on some page (`title_is_found`).

  - `phrases_match_side_by_side`: on the index of one text, a phrase matches just if it has lexemes, and a shift
    puts all of them on lexemes of the text; under the plain profile, just if it has words, and they stand side by
    side in the text; and every book is found by its title.
-/

import Bookshop.Proofs.Search.Collapsed
import Bookshop.Proofs.Search.Phrases
import Bookshop.Proofs.Search.Results

namespace Bookshop

open CatalogM Search

/-! ## The filter on a title -/

namespace Search

/-- A search by a title in quotes, and nothing else. -/
def Request.byTitle (title : String) (sort : Option String) (page : Window) : Request :=
  ⟨some (inQuotes title), none, none, [], sort, page⟩

def Plan.byTitle (profile : Profile) (title : String) : Plan :=
  ⟨profile, [.matching .title 0], [⟨.title, 0⟩], [.text (Text.collapse (inQuotes title))]⟩

theorem tidy_inQuotes (title : String) : tidy (some (inQuotes title)) = some (Text.collapse (inQuotes title)) := by
  have hne : Text.collapse (inQuotes title) ≠ "" := by
    intro he
    have htext := congrArg String.toList he
    rw [Text.toList_collapse, toList_inQuotes, Text.collapseList_keep (by decide)] at htext
    cases htext
  simp [tidy, hne]

theorem Plan.ofFilters_inQuotes (profile : Profile) (title : String) :
    ofFilters profile ⟨some (inQuotes title), none, none, []⟩ = byTitle profile title := by
  simp only [ofFilters, filterText, tidy_inQuotes]
  rfl

theorem Plan.byTitle_holds {profile : Profile} {book : Book} (hq : '"' ∉ book.title.toList)
    (hl : profile.lexemes book.title ≠ []) (names : List String) :
    ∀ condition ∈ (byTitle profile book.title).conditions,
      (byTitle profile book.title).Holds book (.build book names profile) condition := by
  intro condition hc
  obtain rfl := List.mem_singleton.mp hc
  refine ⟨Text.collapse (inQuotes book.title), rfl, ?_⟩
  rw [show (byTitle profile book.title).profile = profile from rfl, Query.parse_collapse]
  exact (matchesIn_phrase_iff hq profile book.title .a).mpr ⟨hl, 0, fun l hm => ⟨l, hm, rfl, by omega⟩⟩

end Search

/-! ## Finding a book -/

theorem on_search_byTitle (profile : Profile) (title : String) {sort : Option String} {criteria : List Criterion}
    (hs : Criterion.parseList true sort = .ok criteria) (page : Window) (t : Session) :
    (search profile (.byTitle title sort page)).on t = (execute (.byTitle profile title) criteria page).on t := by
  have hgenres : parseGenres (Request.byTitle title sort page).genres = .ok [] := rfl
  exact on_search hgenres (Plan.ofFilters_inQuotes profile title) hs t

theorem title_is_found {s : Store} (hb : s.Legible Book) (ha : s.Legible Author) (hfit : s.rows.length < UInt64.size)
    {profile : Profile} {book : Stored Book} (hhas : s.Has book) (hq : '"' ∉ book.data.title.toList)
    (hl : profile.lexemes book.data.title ≠ []) {sort : Option String} {criteria : List Criterion}
    (hs : Criterion.parseList true sort = .ok criteria) {size : Nat} (hsize : 1 ≤ size) :
    ∃ number, ∀ t : Session, t.Quiet → t.store = s →
      ∃ page, ((search profile (.byTitle book.data.title sort ⟨number, size⟩)).on t).1 = .ok page ∧
        ∃ f ∈ page.content, f.book = book := by
  let plan := Plan.byTitle profile book.data.title
  obtain ⟨pages, hanswered, hpages⟩ := exists_pages hb ha hfit plan criteria hsize
  obtain ⟨f, hmatch, hbook⟩ := Store.exists_matches_iff.mpr ⟨hhas, Plan.byTitle_holds hq hl (s.namesOf book.data)⟩
  obtain ⟨number, hin⟩ := (hpages f).mpr hmatch
  refine ⟨number, fun t hquiet ht => ⟨pages number, ?_, f, hin, hbook⟩⟩
  rw [on_search_byTitle profile book.data.title hs]
  exact hanswered t number hquiet ht

theorem phrases_match_side_by_side (profile : Profile) :
    (∀ (phrase text : String) (weight : Weight), '"' ∉ phrase.toList →
      ((Query.parse (inQuotes phrase) profile).matchesIn (Index.ofText text weight profile) = true ↔
        profile.lexemes phrase ≠ [] ∧ ∃ shift, Lands shift (profile.lexemes phrase) (profile.lexemes text)) ∧
      ((Query.parse (inQuotes phrase) .simple).matchesIn (Index.ofText text weight .simple) = true ↔
        words phrase.toList ≠ [] ∧ words phrase.toList <:+: words text.toList)) ∧
      ∀ {log : List Record} {s : Store}, History log s → Plain log → Only Book log → Only Author log →
        s.Decodes Book → s.Decodes Author → s.rows.length < UInt64.size →
        ∀ book : Stored Book, s.Has book → '"' ∉ book.data.title.toList → profile.lexemes book.data.title ≠ [] →
        ∀ (sort : Option String) (criteria : List Criterion), Criterion.parseList true sort = .ok criteria →
        ∀ size : Nat, 1 ≤ size →
          ∃ number, ∀ t : Session, t.Quiet → t.store = s →
            ∃ page, ((search profile (.byTitle book.data.title sort ⟨number, size⟩)).on t).1 = .ok page ∧
              ∃ f ∈ page.content, f.book = book := by
  refine ⟨fun phrase text weight hq => ⟨matchesIn_phrase_iff hq profile text weight, ?_⟩, ?_⟩
  · rw [matchesIn_phrase_iff hq, Profile.lexemes, Profile.lexemes, exists_lands_simple_iff,
      Profile.lexemesFrom_simple_ne_nil]
  · intro log s h hp hbooks hauthors hb ha hfit book hhas hq hl sort criteria hs size hsize
    have hlb : s.Legible Book := h.legible hp hbooks (by decide) (fun _ _ => Book.id_of_decode_toJson) hb
    have hla : s.Legible Author := h.legible hp hauthors (by decide) (fun _ _ => Author.id_of_decode_toJson) ha
    exact title_is_found hlb hla hfit hhas hq hl hs hsize

/-! ## The war of the worlds -/

def worlds : Book := { notes with title := "The War  of the Worlds" }

/-- The dropped words of the phrase must be as many as those of the text, but need not be the same. -/
theorem war_of_the_worlds :
    let s := (Write.insert worlds).after 1 .empty
    let log := [recordOf (.insert worlds) 1 .empty]
    '"' ∉ "war of the worlds".toList ∧
      (Query.parse (inQuotes "war of the worlds") .english).matchesIn (.ofText "A war in a world" .a .english) = true ∧
      (Query.parse (inQuotes "war of the worlds") .english).matchesIn (.ofText "A war of worlds" .a .english) = false ∧
      History log s ∧ Plain log ∧ Only Book log ∧ Only Author log ∧ s.Decodes Book ∧ s.Decodes Author ∧
      s.rows.length < UInt64.size ∧ s.Has ⟨worlds, ⟨1, 1, 0⟩⟩ ∧ '"' ∉ worlds.title.toList ∧
      Profile.english.lexemes worlds.title ≠ [] ∧
      ∃ number, ∀ t : Session, t.Quiet → t.store = s →
        ∃ page, ((search .english (.byTitle worlds.title none ⟨number, 20⟩)).on t).1 = .ok page ∧
          ∃ f ∈ page.content, f.book = ⟨worlds, ⟨1, 1, 0⟩⟩ := by
  intro s log
  have h : History log s := History.start.call _ 1
  have hp : Plain log := by unfold Plain; decide
  have hbooks : Only Book log := by
    intro r hr e he hc
    obtain rfl := List.mem_singleton.mp hr
    exact ⟨worlds, (Option.some.inj he).symm⟩
  have hauthors : Only Author log := by
    intro r hr e he hc
    obtain rfl := List.mem_singleton.mp hr
    cases he
    exact absurd hc (by decide)
  have hrows : s.rows = [Row.fresh worlds 1 0] := rfl
  have hb : s.Decodes Book := by
    intro row hm hc
    rw [hrows] at hm
    obtain rfl := List.mem_singleton.mp hm
    exact ⟨⟨worlds, ⟨1, 1, 0⟩⟩, rfl⟩
  have ha : s.Decodes Author := by
    intro row hm hc
    rw [hrows] at hm
    obtain rfl := List.mem_singleton.mp hm
    exact absurd hc (by decide)
  have hfit : s.rows.length < UInt64.size := by decide
  have hq : '"' ∉ "war of the worlds".toList := by decide
  have hq' : '"' ∉ worlds.title.toList := by decide
  have hl : Profile.english.lexemes worlds.title ≠ [] := by decide
  have hhas : s.Has ⟨worlds, ⟨1, 1, 0⟩⟩ := rfl
  obtain ⟨hphrases, htitles⟩ := phrases_match_side_by_side .english
  have hlands : Lands 1 (Profile.english.lexemes "war of the worlds") (Profile.english.lexemes "A war in a world") := by
    unfold Lands
    decide
  have hmatch := (hphrases "war of the worlds" "A war in a world" .a hq).1.mpr ⟨by decide, 1, hlands⟩
  have hfound := htitles h hp hbooks hauthors hb ha hfit _ hhas hq' hl none (Criterion.usual true) rfl 20 (by decide)
  exact ⟨hq, hmatch, by decide, h, hp, hbooks, hauthors, hb, ha, hfit, hhas, hq', hl, hfound⟩

end Bookshop
