/-
  Bookshop.Proofs.Search.Planning — planning a search loses nothing of what it means.

  There are many ways to write one request: a text with other blanks, a set of genres in another order, in another
  case, at once or one by one (`Request.Rewrites`). Tidying a text keeps its query (`Query.parse_collapse`), and
  texts with the same runs become one text (`tidy_congr`). Genres that are written in two ways are read as lists with
  the same members (`exists_parseGenres`), and plans that differ in nothing else find the same books with the same
  scores (`Plan.Alike.find?`).

  - `planning_loses_no_meaning`: the query of a text is the query of the tidied text, and empty if there is none; and
    in every session, a request has the same answer in whatever way it is written.
-/

import Bookshop.Proofs.Search.Collapsed
import Bookshop.Proofs.Search.Results

namespace Bookshop

open CatalogM

/-! ## Genres as they are written -/

namespace Genre

/-- The entry is the code of the genre, in any case and between any blanks. -/
def IsWrittenAs (genre : Genre) (entry : List Char) : Prop :=
  ∃ before code after : List Char, entry = before ++ code ++ after ∧ (∀ c ∈ before, Text.isBlank c = true) ∧
    (∀ c ∈ after, Text.isBlank c = true) ∧ code.map Char.toUpper = genre.code.toList

def entries (raw : List String) : List (List Char) := raw.flatMap fun value => Text.splitWhere (· == ',') value.toList

/-- The entries are the codes of these genres, each at least once, and blanks. -/
structure AreWrittenAs (genres : Set Genre) (raw : List String) : Prop where
  only : ∀ entry ∈ entries raw, (∀ c ∈ entry, Text.isBlank c = true) ∨ ∃ genre ∈ genres, genre.IsWrittenAs entry
  all : ∀ genre ∈ genres, ∃ entry ∈ entries raw, genre.IsWrittenAs entry

theorem isBlank_of_mem_code (genre : Genre) : ∀ c ∈ genre.code.toList, Text.isBlank c = false := by
  have hall : genre.code.toList.all (fun c => !Text.isBlank c) = true := by cases genre <;> rfl
  simpa using hall

theorem parse_code (genre : Genre) {code : List Char} (hb : ∀ c ∈ code, Text.isBlank c = false)
    (h : code.map Char.toUpper = genre.code.toList) : parse (String.ofList code) = .ok genre := by
  have htrim : Text.trim (String.ofList code) = String.ofList code := Text.trim_of_no_blank (by simpa using hb)
  have hupper : Text.upperAscii (String.ofList code) = genre.code := by
    rw [Text.upperAscii, String.toList_ofList, h, String.ofList_toList]
  rw [parse, htrim, hupper]
  cases genre <;> rfl

theorem IsWrittenAs.parse {genre : Genre} {entry : List Char} (h : genre.IsWrittenAs entry) :
    Text.trimList entry ≠ [] ∧ Genre.parse (String.ofList (Text.trimList entry)) = .ok genre := by
  obtain ⟨before, code, after, rfl, hbefore, hafter, hcode⟩ := h
  have hb : ∀ c ∈ code, Text.isBlank c = false := by
    intro c hc
    rw [Bool.eq_false_iff]
    intro hblank
    have hup : c.toUpper ∈ genre.code.toList := hcode ▸ List.mem_map_of_mem hc
    rw [Text.toUpper_of_isBlank hblank] at hup
    exact absurd hblank (by simp [isBlank_of_mem_code genre c hup])
  rw [Text.trimList_between hbefore hafter, Text.trimList_of_no_blank hb]
  refine ⟨?_, parse_code genre hb hcode⟩
  rintro rfl
  revert hcode
  cases genre <;> decide

end Genre

namespace Search

theorem mem_codes {raw : List String} {code : List Char} :
    code ∈ raw.flatMap (fun value => Text.commaItems value.toList) ↔
      ∃ entry ∈ Genre.entries raw, Text.trimList entry = code ∧ code ≠ [] := by
  simp only [List.mem_flatMap, Text.commaItems, List.mem_filter, List.mem_map, Genre.entries]
  constructor
  · rintro ⟨value, hv, ⟨entry, he, rfl⟩, hne⟩
    exact ⟨entry, ⟨value, hv, he⟩, rfl, by simpa using hne⟩
  · rintro ⟨entry, ⟨value, hv, he⟩, rfl, hne⟩
    exact ⟨value, hv, ⟨entry, he, rfl⟩, by simpa using hne⟩

/-- Genres that are written down are read, and nothing else is. -/
theorem exists_parseGenres {genres : Set Genre} {raw : List String} (h : Genre.AreWrittenAs genres raw) :
    ∃ found, parseGenres raw = .ok found ∧ ∀ genre, genre ∈ found ↔ genre ∈ genres := by
  have hcodes : ∀ code ∈ raw.flatMap (fun value => Text.commaItems value.toList),
      ∃ genre ∈ genres, Genre.parse (String.ofList code) = .ok genre := by
    intro code hcode
    obtain ⟨entry, he, rfl, hne⟩ := mem_codes.mp hcode
    rcases h.only entry he with hblank | ⟨genre, hg, hw⟩
    · exact absurd (Text.trimList_eq_nil_iff.mpr (List.all_eq_true.mpr hblank)) hne
    · exact ⟨genre, hg, hw.parse.2⟩
  obtain ⟨found, hfound⟩ := exists_mapM_iff.mpr fun code hcode => (hcodes code hcode).imp fun _ hg => hg.2
  refine ⟨found, hfound, fun genre => (mem_of_mapM hfound).trans ?_⟩
  constructor
  · rintro ⟨code, hcode, hp⟩
    obtain ⟨other, ho, hother⟩ := hcodes code hcode
    cases hp.symm.trans hother
    exact ho
  · intro hg
    obtain ⟨entry, he, hw⟩ := h.all genre hg
    exact ⟨_, mem_codes.mpr ⟨entry, he, rfl, hw.parse.1⟩, hw.parse.2⟩

/-! ## Plans that ask the same -/

/-- The operands hold the same text, or genres with the same members. -/
inductive Operand.Alike : Operand → Operand → Prop
  | text (query : String) : Alike (.text query) (.text query)
  | genres {as bs : List Genre} : (∀ genre, genre ∈ as ↔ genre ∈ bs) → Alike (.genres as) (.genres bs)

/-- The plans differ at most in how their genres stand. -/
structure Plan.Alike (plan plan' : Plan) : Prop where
  profile : plan'.profile = plan.profile
  conditions : plan'.conditions = plan.conditions
  scoreTerms : plan'.scoreTerms = plan.scoreTerms
  operands : List.Forall₂ Operand.Alike plan.operands plan'.operands

theorem Operand.Alike.refl (operand : Operand) : Operand.Alike operand operand := by
  cases operand with
  | text query => exact .text query
  | genres codes => exact .genres fun _ => Iff.rfl

namespace Plan

theorem Alike.refl (plan : Plan) : plan.Alike plan :=
  ⟨rfl, rfl, rfl, List.forall₂_same.mpr fun operand _ => .refl operand⟩

theorem alike_filterGenres (plan : Plan) {as bs : List Genre} (h : ∀ genre, genre ∈ as ↔ genre ∈ bs) :
    (plan.filterGenres as).Alike (plan.filterGenres bs) := by
  have hempty : bs.isEmpty = as.isEmpty := by
    rw [Bool.eq_iff_iff, List.isEmpty_iff, List.isEmpty_iff, List.eq_nil_iff_forall_not_mem,
      List.eq_nil_iff_forall_not_mem]
    simp only [h]
  rw [filterGenres, filterGenres, hempty]
  split
  · exact .refl plan
  · have hlast : Operand.Alike (.genres (distinct as)) (.genres (distinct bs)) :=
      .genres fun genre => by rw [mem_distinct, mem_distinct, h]
    exact ⟨rfl, rfl, rfl, List.rel_append (Alike.refl plan).operands (.cons hlast .nil)⟩

namespace Alike

variable {plan plan' : Plan} (h : plan.Alike plan')

include h

theorem operand (i : Nat) : Option.Rel Operand.Alike plan.operands[i]? plan'.operands[i]? := by
  obtain ⟨hlen, hall⟩ := List.forall₂_iff_get.mp h.operands
  by_cases hi : i < plan.operands.length
  · rw [List.getElem?_eq_getElem hi, List.getElem?_eq_getElem (hlen ▸ hi)]
    exact .some (hall i hi (hlen ▸ hi))
  · rw [List.getElem?_eq_none (Nat.le_of_not_lt hi), List.getElem?_eq_none (hlen ▸ Nat.le_of_not_lt hi)]
    exact .none

theorem query? (i : Nat) : plan'.query? i = plan.query? i := by
  have hi := h.operand i
  rw [Plan.query?, Plan.query?, h.profile]
  generalize plan.operands[i]? = o, plan'.operands[i]? = o' at hi ⊢
  cases hi with
  | none => rfl
  | some ho => cases ho <;> rfl

theorem satisfies (book : Book) (index : BookIndex) (condition : Condition) :
    plan'.satisfies book index condition = plan.satisfies book index condition := by
  cases condition with
  | matching field i => rw [Plan.satisfies, Plan.satisfies, h.query?]
  | genreIn i =>
    have hi := h.operand i
    rw [Plan.satisfies, Plan.satisfies]
    generalize plan.operands[i]? = o, plan'.operands[i]? = o' at hi ⊢
    cases hi with
    | none => rfl
    | some ho =>
      cases ho with
      | text query => rfl
      | @genres as bs hsame =>
        have hcontains : bs.contains = as.contains := by
          funext genre
          rw [Bool.eq_iff_iff, List.contains_iff_mem, List.contains_iff_mem, hsame]
        simp only [hcontains]

theorem find? (names : List String) (book : Stored Book) : plan'.find? names book = plan.find? names book := by
  have haccepts (index : BookIndex) : plan'.accepts book.data index = plan.accepts book.data index := by
    rw [Plan.accepts, Plan.accepts, h.conditions]
    exact congrArg plan.conditions.all (funext (h.satisfies book.data index))
  have hscore (index : BookIndex) : plan'.score index = plan.score index := by
    simp only [Plan.score, h.scoreTerms, h.query?]
  simp only [Plan.find?, h.profile, haccepts, hscore]

theorem execute (criteria : List Criterion) (page : Window) :
    Search.execute plan' criteria page = Search.execute plan criteria page := by
  simp only [Search.execute, h.find?]

theorem hasScore : plan'.hasScore = plan.hasScore := by rw [Plan.hasScore, Plan.hasScore, h.scoreTerms]

end Alike

end Plan

/-! ## Tidy texts -/

theorem tidy_eq_none {raw : String} : tidy (some raw) = none ↔ Text.collapse raw = "" := by simp [tidy]

theorem tidy_eq_some {raw text : String} : tidy (some raw) = some text ↔ Text.collapse raw = text ∧ text ≠ "" := by
  simp [tidy]

/-- A text is the query that it is when it is tidy, and no query if nothing is left of it. -/
theorem parse_tidy (raw : String) (profile : Profile) :
    match tidy (some raw) with
    | none => Query.parse raw profile = ⟨[]⟩
    | some text => Query.parse text profile = Query.parse raw profile := by
  split
  · next hnone =>
    rw [← Query.parse_collapse, tidy_eq_none.mp hnone]
    rfl
  · next text hsome =>
    rw [← (tidy_eq_some.mp hsome).1]
    exact Query.parse_collapse raw profile

/-! ## Texts with the same runs -/

/-- A filter that is left out is as good as a blank one. -/
def SameRuns (raw raw' : Option String) : Prop :=
  ∃ runs, Text.HasRuns (raw.getD "").toList runs ∧ Text.HasRuns (raw'.getD "").toList runs

theorem tidy_getD (raw : Option String) : tidy (some (raw.getD "")) = tidy raw := by
  cases raw <;> rfl

theorem tidy_congr {raw raw' : Option String} (h : SameRuns raw raw') : tidy raw' = tidy raw := by
  obtain ⟨runs, hr, hr'⟩ := h
  have hcollapse : Text.collapse (raw'.getD "") = Text.collapse (raw.getD "") := by
    rw [Text.collapse, Text.collapse, hr.blankSeparated_eq, hr'.blankSeparated_eq]
  rw [← tidy_getD raw', ← tidy_getD raw, tidy, tidy, Option.map_some, Option.map_some, hcollapse]

/-! ## Requests that are written in another way -/

/-- The request in another spelling: other blanks in its texts, and other writings of the same genres. -/
structure Request.Rewrites (r r' : Request) : Prop where
  title : SameRuns r.title r'.title
  author : SameRuns r.author r'.author
  text : SameRuns r.text r'.text
  genres : ∃ genres : Set Genre, Genre.AreWrittenAs genres r.genres ∧ Genre.AreWrittenAs genres r'.genres
  sort : r'.sort = r.sort
  page : r'.page = r.page

theorem search_congr {r r' : Request} (h : r.Rewrites r') (profile : Profile) :
    search profile r' = search profile r := by
  obtain ⟨genres, hg, hg'⟩ := h.genres
  obtain ⟨found, hfound, hmem⟩ := exists_parseGenres hg
  obtain ⟨found', hfound', hmem'⟩ := exists_parseGenres hg'
  have halike := Plan.alike_filterGenres
    ((((Plan.empty profile).filterText .title r.title).filterText .authors r.author).filterText .all r.text)
    fun genre => (hmem genre).trans (hmem' genre).symm
  have hplan : (Plan.ofFilters profile ⟨r.title, r.author, r.text, found⟩).Alike
      (Plan.ofFilters profile ⟨r'.title, r'.author, r'.text, found'⟩) := by
    simp only [Plan.ofFilters, Plan.filterText, tidy_congr h.title, tidy_congr h.author, tidy_congr h.text]
    exact halike
  rw [search_eq hfound, search_eq hfound', h.sort, h.page]
  simp only [hplan.hasScore, hplan.execute]

end Search

open Search

theorem planning_loses_no_meaning (profile : Profile) :
    (∀ raw : String, match tidy (some raw) with
      | none => Query.parse raw profile = ⟨[]⟩
      | some text => Query.parse text profile = Query.parse raw profile) ∧
    ∀ r r' : Request, r.Rewrites r' → ∀ s : Session, (search profile r').on s = (search profile r).on s := by
  exact ⟨fun raw => parse_tidy raw profile, fun r r' h s => by rw [search_congr h]⟩

/-! ## Tales of war -/

def talesOfWar : Request := ⟨some " \"The  War\"\t", none, none, ["fantasy, MYSTERY", " "], none, ⟨0, 20⟩⟩

/-- The same request from a client that writes other blanks, and names the genres one by one. -/
def talesOfWarAgain : Request :=
  ⟨some "\"The\nWar\"", some " ", none, ["Mystery", "FANTASY,,fantasy"], none, ⟨0, 20⟩⟩

theorem tales_of_war_are_asked_again :
    talesOfWar.Rewrites talesOfWarAgain ∧
      ∀ s : Session, (search .english talesOfWarAgain).on s = (search .english talesOfWar).on s := by
  have hcode (genre : Genre) (code : List Char) (h : code.map Char.toUpper = genre.code.toList) :
      genre.IsWrittenAs code := ⟨[], code, [], by simp, by simp, by simp, h⟩
  have hspaced : Genre.mystery.IsWrittenAs " MYSTERY".toList :=
    ⟨[' '], "MYSTERY".toList, [], rfl, List.all_eq_true.mp rfl, List.forall_mem_nil _, rfl⟩
  have he : Genre.entries talesOfWar.genres = ["fantasy".toList, " MYSTERY".toList, " ".toList] := rfl
  have he' : Genre.entries talesOfWarAgain.genres = ["Mystery".toList, "FANTASY".toList, [], "fantasy".toList] := rfl
  have hg : Genre.AreWrittenAs {.fantasy, .mystery} talesOfWar.genres := by
    constructor
    · rw [he]
      intro entry hm
      simp only [List.mem_cons, List.not_mem_nil, or_false] at hm
      rcases hm with rfl | rfl | rfl
      · exact .inr ⟨.fantasy, by simp, hcode .fantasy _ rfl⟩
      · exact .inr ⟨.mystery, by simp, hspaced⟩
      · exact .inl (List.all_eq_true.mp rfl)
    · rw [he]
      rintro genre (rfl | rfl)
      · exact ⟨"fantasy".toList, by simp, hcode .fantasy _ rfl⟩
      · exact ⟨" MYSTERY".toList, by simp, hspaced⟩
  have hg' : Genre.AreWrittenAs {.fantasy, .mystery} talesOfWarAgain.genres := by
    constructor
    · rw [he']
      intro entry hm
      simp only [List.mem_cons, List.not_mem_nil, or_false] at hm
      rcases hm with rfl | rfl | rfl | rfl
      · exact .inr ⟨.mystery, by simp, hcode .mystery _ rfl⟩
      · exact .inr ⟨.fantasy, by simp, hcode .fantasy _ rfl⟩
      · exact .inl (List.all_eq_true.mp rfl)
      · exact .inr ⟨.fantasy, by simp, hcode .fantasy _ rfl⟩
    · rw [he']
      rintro genre (rfl | rfl)
      · exact ⟨"fantasy".toList, by simp, hcode .fantasy _ rfl⟩
      · exact ⟨"Mystery".toList, by simp, hcode .mystery _ rfl⟩
  have hrewrites : talesOfWar.Rewrites talesOfWarAgain :=
    { title := ⟨_, Text.hasRuns_iff.mpr rfl, Text.hasRuns_iff.mpr (by decide)⟩
      author := ⟨[], Text.hasRuns_iff.mpr rfl, Text.hasRuns_iff.mpr (by decide)⟩
      text := ⟨[], Text.hasRuns_iff.mpr rfl, Text.hasRuns_iff.mpr rfl⟩
      genres := ⟨_, hg, hg'⟩
      sort := rfl
      page := rfl }
  exact ⟨hrewrites, (planning_loses_no_meaning .english).2 _ _ hrewrites⟩

end Bookshop
