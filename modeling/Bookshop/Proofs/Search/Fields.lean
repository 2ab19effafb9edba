/-
  Bookshop.Proofs.Search.Fields — searching everything finds what searching one field finds.

  In the index of everything the fields stand one after the other. So what stands in the index of one field stands
  there too, all of it farther on by one shift (`BookIndex.field_embeds`): the position at which the field was
  appended. A clause asks for terms at distances, and a shift keeps distances (`Clause.occursIn_of_embeds`). So a
  query without negated clauses that matches a field matches everything (`Query.matchesIn_of_embeds`). With a negated
  clause it may not: the term that must not occur may stand in another field.

  - `everything_has_what_a_field_has`: so it is with every book under every profile; and of every store whose rows
    decode, the pages of the search by the text have all books that are on a page of the search by the same text as
    title or as author.
-/

import Bookshop.Proofs.Search.Phrases
import Bookshop.Proofs.Search.Planning

namespace Bookshop

open CatalogM

namespace Search

/-! ## One index in another -/

/-- All that stands in the part stands in the whole, farther on by the shift. -/
def Index.EmbedsAt (shift : Nat) (part whole : Index) : Prop :=
  ∀ p ∈ part.postings, ∃ p' ∈ whole.postings, p'.term = p.term ∧ p'.position = p.position + shift

namespace Index

theorem embeds_self (index : Index) : EmbedsAt 0 index index := fun p hp => ⟨p, hp, rfl, rfl⟩

theorem embeds_append (index : Index) (text : String) (weight : Weight) (profile : Profile) :
    EmbedsAt index.next (ofText text weight profile) (index.append text weight profile) := by
  intro p hp
  obtain ⟨l, hl, rfl⟩ := mem_ofText_iff.mp hp
  refine ⟨⟨l.term, index.next + l.position, weight⟩, ?_, rfl, Nat.add_comm _ _⟩
  rw [postings_append]
  exact List.mem_append_right _ (List.mem_map.mpr ⟨l, hl, rfl⟩)

theorem EmbedsAt.append {shift : Nat} {part whole : Index} (h : EmbedsAt shift part whole) (text : String)
    (weight : Weight) (profile : Profile) : EmbedsAt shift part (whole.append text weight profile) := by
  intro p hp
  obtain ⟨p', hp', hsame⟩ := h p hp
  rw [postings_append]
  exact ⟨p', List.mem_append_left _ hp', hsame⟩

theorem EmbedsAt.hasAt {shift : Nat} {part whole : Index} (h : EmbedsAt shift part whole) {term : String}
    {position : Nat} (hat : part.hasAt term position = true) : whole.hasAt term (position + shift) = true := by
  obtain ⟨p, hp, rfl, rfl⟩ := hasAt_iff.mp hat
  obtain ⟨p', hp', hterm, hpos⟩ := h p hp
  exact hasAt_iff.mpr ⟨p', hp', hterm, hpos⟩

end Index

theorem BookIndex.field_embeds (book : Book) (names : List String) (profile : Profile) (field : Field) :
    ∃ shift, Index.EmbedsAt shift ((build book names profile).field field) (build book names profile).all := by
  cases field with
  | title => exact ⟨_, ((Index.embeds_append .empty book.title .a profile).append _ .b profile).append _ .c profile⟩
  | authors => exact ⟨_, (Index.embeds_append _ (joined names) .b profile).append _ .c profile⟩
  | all => exact ⟨0, Index.embeds_self _⟩

/-! ## Queries without negated clauses -/

/-- Nothing is asked to be absent. -/
def Query.Positive (q : Query) : Prop := ∀ alt ∈ q.alternatives, ∀ clause ∈ alt, clause.negated = false

section

variable {shift : Nat} {part whole : Index} (h : Index.EmbedsAt shift part whole)

include h

theorem Clause.occursIn_of_embeds {clause : Clause} (ho : clause.occursIn part = true) :
    clause.occursIn whole = true := by
  obtain ⟨negated, terms⟩ := clause
  cases terms with
  | nil => cases ho
  | cons first rest =>
    obtain ⟨distance, head⟩ := first
    obtain ⟨p, hp, rfl, hrest⟩ := Clause.occursIn_iff.mp ho
    obtain ⟨p', hp', hterm, hpos⟩ := h p hp
    refine Clause.occursIn_iff.mpr ⟨p', hp', hterm, fun t ht => ?_⟩
    have hat := h.hasAt (hrest t ht)
    rwa [Nat.add_right_comm, ← hpos] at hat

theorem Query.matchesIn_of_embeds {q : Query} (hpos : q.Positive) (hm : q.matchesIn part = true) :
    q.matchesIn whole = true := by
  obtain ⟨alt, halt, hall⟩ := List.any_eq_true.mp hm
  refine List.any_eq_true.mpr ⟨alt, halt, List.all_eq_true.mpr fun clause hc => ?_⟩
  have hclause := List.all_eq_true.mp hall clause hc
  rw [Clause.holds, hpos alt halt clause hc, bne_iff_ne, ne_eq, Bool.not_eq_false] at hclause ⊢
  exact Clause.occursIn_of_embeds h hclause

end

/-! ## Searching by one filter -/

/-- A search by a text in one field, and nothing else. -/
def Request.inField (field : Field) (text : String) (sort : Option String) (page : Window) : Request :=
  { title := if field = .title then some text else none
    author := if field = .authors then some text else none
    text := if field = .all then some text else none
    genres := []
    sort, page }

/-- The plan of such a search. A blank text is no filter. -/
def Plan.inField (profile : Profile) (field : Field) (text : String) : Plan :=
  (empty profile).filterText field (some text)

theorem Plan.ofFilters_inField (profile : Profile) (field : Field) (text : String) (sort : Option String) (page : Window) :
    ofFilters profile ⟨(Request.inField field text sort page).title, (Request.inField field text sort page).author,
      (Request.inField field text sort page).text, []⟩ = .inField profile field text := by
  have hnone (plan : Plan) (other : Field) : plan.filterText other none = plan := rfl
  have hgenres (plan : Plan) : plan.filterGenres [] = plan := rfl
  cases field <;> simp [ofFilters, Request.inField, Plan.inField, hnone, hgenres]

theorem Plan.hasScore_inField (profile : Profile) (field : Field) (text : String) :
    (Plan.inField profile field text).hasScore = (tidy (some text)).isSome := by
  rw [Plan.inField, filterText]
  cases tidy (some text) <;> rfl

theorem Plan.holds_inField_iff (profile : Profile) (field : Field) (text : String) (book : Book) (index : BookIndex) :
    (∀ condition ∈ (Plan.inField profile field text).conditions, (Plan.inField profile field text).Holds book index condition) ↔
      (tidy (some text) = none ∨ (Query.parse text profile).matchesIn (index.field field) = true) := by
  have hparse := parse_tidy text profile
  rw [Plan.inField, filterText]
  cases ht : tidy (some text) with
  | none => simp [empty]
  | some tidied =>
    rw [ht] at hparse
    simp [empty, Holds, hparse]

@[simp] theorem Plan.profile_inField (profile : Profile) (field : Field) (text : String) :
    (Plan.inField profile field text).profile = profile := by
  rw [Plan.inField, filterText]
  cases tidy (some text) <;> rfl

end Search

open Search

theorem on_search_inField (profile : Profile) (field : Field) {text : String} {sort : Option String}
    {criteria : List Criterion} (hs : Criterion.parseList (tidy (some text)).isSome sort = .ok criteria)
    (page : Window) (t : Session) :
    (search profile (.inField field text sort page)).on t =
      (execute (.inField profile field text) criteria page).on t := by
  have hgenres : parseGenres (Request.inField field text sort page).genres = .ok [] := rfl
  have hcriteria : Criterion.parseList (Plan.inField profile field text).hasScore sort = .ok criteria := by
    rw [Plan.hasScore_inField, hs]
  exact on_search hgenres (Plan.ofFilters_inField profile field text sort page) hcriteria t

/-- A book that matches in one field matches in everything. -/
theorem Store.exists_matches_all {s : Store} {profile : Profile} {field : Field} {text : String}
    (hpos : (Query.parse text profile).Positive) {f : Found} (hm : s.Matches (.inField profile field text) f) :
    ∃ f', s.Matches (.inField profile .all text) f' ∧ f'.book = f.book := by
  have hholds := hm.holds
  rw [Plan.holds_inField_iff, indexOf, Plan.profile_inField] at hholds
  rw [exists_matches_iff, Plan.holds_inField_iff, indexOf, Plan.profile_inField]
  obtain ⟨shift, hembeds⟩ := BookIndex.field_embeds f.book.data (s.namesOf f.book.data) profile field
  exact ⟨hm.present, hholds.imp_right (Query.matchesIn_of_embeds hembeds hpos)⟩

theorem everything_has_what_a_field_has (profile : Profile) :
    (∀ (book : Book) (names : List String) (q : Query), q.Positive → ∀ field : Field,
      q.matchesIn ((BookIndex.build book names profile).field field) = true →
        q.matchesIn (BookIndex.build book names profile).all = true) ∧
      ∀ {log : List Record} {s : Store}, History log s → Plain log → Only Book log → Only Author log →
        s.Decodes Book → s.Decodes Author → s.rows.length < UInt64.size →
        ∀ text : String, (Query.parse text profile).Positive →
        ∀ (sort : Option String) (criteria : List Criterion), Criterion.parseList true sort = .ok criteria →
        ∀ size : Nat, 1 ≤ size →
          ∃ pages : Field → Nat → Page Found,
            (∀ t : Session, t.Quiet → t.store = s → ∀ field number,
              ((search profile (.inField field text sort ⟨number, size⟩)).on t).1 = .ok (pages field number)) ∧
            ∀ field number, ∀ f ∈ (pages field number).content,
              ∃ number', ∃ f' ∈ (pages .all number').content, f'.book = f.book := by
  constructor
  · intro book names q hpos field hm
    obtain ⟨shift, hembeds⟩ := BookIndex.field_embeds book names profile field
    exact Query.matchesIn_of_embeds hembeds hpos hm
  · intro log s h hp hbooks hauthors hb ha hfit text hpos sort criteria hs size hsize
    have hlb : s.Legible Book := h.legible hp hbooks (by decide) (fun _ _ => Book.id_of_decode_toJson) hb
    have hla : s.Legible Author := h.legible hp hauthors (by decide) (fun _ _ => Author.id_of_decode_toJson) ha
    obtain ⟨criteria, hs⟩ := Criterion.exists_parseList hs (tidy (some text)).isSome
    have hpages (field : Field) := exists_pages hlb hla hfit (.inField profile field text) criteria hsize
    choose pages hanswered hmem using hpages
    refine ⟨pages, fun t hquiet ht field number => ?_, fun field number f hf => ?_⟩
    · rw [on_search_inField profile field hs]
      exact hanswered field t number hquiet ht
    · obtain ⟨f', hm, hbook⟩ := Store.exists_matches_all hpos ((hmem field f).mp ⟨number, hf⟩)
      obtain ⟨number', hin⟩ := (hmem .all f').mpr hm
      exact ⟨number', f', hin, hbook⟩

/-! ## The notes of Ada Lovelace -/

def lovelace : Author := ⟨ada, "Ada Lovelace"⟩

/-- Her name is a phrase in the second field, and stands behind the title in the index of everything. -/
theorem ada_lovelace_is_in_everything :
    let text := "\"ada lovelace\""
    let index := BookIndex.build notes ["Ada Lovelace"] .english
    let s1 := (Write.insert lovelace).after 1 .empty
    let s := (Write.insert notes).after 1 s1
    let log := [recordOf (.insert notes) 1 s1, recordOf (.insert lovelace) 1 .empty]
    (Query.parse text .english).Positive ∧ (Query.parse text .english).matchesIn index.authors = true ∧
      (Query.parse text .english).matchesIn index.all = true ∧
      History log s ∧ Plain log ∧ Only Book log ∧ Only Author log ∧ s.Decodes Book ∧ s.Decodes Author ∧
      s.rows.length < UInt64.size ∧
      ∃ pages : Field → Nat → Page Found,
        (∀ t : Session, t.Quiet → t.store = s → ∀ field number,
          ((search .english (.inField field text none ⟨number, 1⟩)).on t).1 = .ok (pages field number)) ∧
        ∀ field number, ∀ f ∈ (pages field number).content,
          ∃ number', ∃ f' ∈ (pages .all number').content, f'.book = f.book := by
  intro text index s1 s log
  have hpos : (Query.parse text .english).Positive := by
    unfold Query.Positive
    decide
  have hauthor : (Query.parse text .english).matchesIn index.authors = true := by decide
  have h : History log s := (History.start.call _ 1).call _ 1
  have hp : Plain log := by unfold Plain; decide
  have hbooks : Only Book log := (Only.nil.elsewhere 1 _ (by decide)).insert 1 _ notes
  have hauthors : Only Author log := (Only.nil.insert 1 _ lovelace).elsewhere 1 _ (by decide)
  have hb : s.Decodes Book := by
    refine List.forall_mem_cons.mpr ⟨fun _ => ⟨⟨notes, ⟨2, 2, 0⟩⟩, rfl⟩, ?_⟩
    exact List.forall_mem_singleton.mpr fun hc => absurd hc (by decide)
  have ha : s.Decodes Author := h.decodes hauthors Author.decode_toJson
  have hfit : s.rows.length < UInt64.size := by decide
  obtain ⟨hindex, hstore⟩ := everything_has_what_a_field_has .english
  have hall := hindex notes ["Ada Lovelace"] (Query.parse text .english) hpos .authors hauthor
  exact ⟨hpos, hauthor, hall, h, hp, hbooks, hauthors, hb, ha, hfit,
    hstore h hp hbooks hauthors hb ha hfit text hpos none (Criterion.usual true) rfl 1 (by decide)⟩

end Bookshop
