/-
  Bookshop.Proofs.Search.Collapsed — collapsing the blanks of a text does not change the query that it is.

  A query takes two things from a piece: whether it is `or`, and its clause (`Piece.gist`). A clause is made of
  words, and blanks cut words. So it does not matter which blank stands in a text, nor how many stand in a row,
  nor whether some stand at its end: between pieces they only end what is in progress, and within a phrase they
  only cut its words (`Mode.gists_blank`, `Mode.gists_blanks`, `Mode.gists_end`). A collapsed text differs from
  the text in nothing else (`Mode.gists_follow`), so both are one query (`Query.parse_collapse`).
-/

import Bookshop.Proofs.Search.Parsing

namespace Bookshop.Search

/-! ## Words and blanks -/

/-- The ranges of the blanks are apart from those of the word characters. -/
theorem isWordChar_of_isBlank {c : Char} (h : Text.isBlank c = true) : Text.isWordChar c = false := by
  have hapart : ∀ r ∈ Text.blanks.ranges, ∀ r' ∈ Text.wordRanges.ranges, r.2 < r'.1 ∨ r'.2 < r.1 := by decide +kernel
  obtain ⟨r, hr, hlo, hhi⟩ := Text.Ranges.has_iff_exists.mp h
  rw [Bool.eq_false_iff]
  intro hw
  obtain ⟨r', hr', hlo', hhi'⟩ := Text.Ranges.has_iff_exists.mp hw
  have hrr := hapart r hr r' hr'
  omega

theorem words_append_blank {c : Char} (hc : Text.isBlank c = true) (as bs : List Char) :
    words (as ++ c :: bs) = words as ++ words bs := by
  have hcut : (!Text.isWordChar c) = true := by
    rw [isWordChar_of_isBlank hc]
    rfl
  have hfields := Text.fieldsWhere_append_cons (p := fun c => !Text.isWordChar c) hcut as bs
  rw [words, hfields, List.map_append, words, words]

theorem words_cons_blank {c : Char} (hc : Text.isBlank c = true) (cs : List Char) : words (c :: cs) = words cs :=
  words_append_blank hc [] cs

/-! ## What a query takes from its pieces -/

/-- Whether a piece is `or`, and its clause. -/
def Piece.gist (profile : Profile) (piece : Piece) : Bool × Option Clause := (piece.isOr, piece.clause? profile)

theorem Query.ofPieces_congr {profile : Profile} {ps ps' : List Piece}
    (h : ps.map (Piece.gist profile) = ps'.map (Piece.gist profile)) : ofPieces ps profile = ofPieces ps' profile := by
  have hgist (ps : List Piece) : (Text.splitWhere Piece.isOr ps).map (·.filterMap (·.clause? profile)) =
      (Text.splitWhere Prod.fst (ps.map (Piece.gist profile))).map (·.filterMap Prod.snd) := by
    have hsplit := Text.splitWhere_map (Piece.gist profile) Prod.fst ps
    rw [hsplit, List.map_map]
    simp only [Function.comp_def, List.filterMap_map]
    rfl
  rw [ofPieces, ofPieces, hgist, hgist, h]

/-- Of the text of a phrase, only its words count. -/
theorem Piece.gist_phrase {profile : Profile} (negated : Bool) {text text' : List Char} (h : words text = words text') :
    gist profile ⟨negated, true, text⟩ = gist profile ⟨negated, true, text'⟩ := by
  simp [gist, isOr, clause?, Profile.lexemes, h]

namespace Mode

variable (profile : Profile)

def gists (mode : Mode) (cs : List Char) : List (Bool × Option Clause) := (mode.scan cs).map (Piece.gist profile)

theorem gists_cons (mode : Mode) (c : Char) (cs : List Char) :
    mode.gists profile (c :: cs) =
      (mode.step c).1.toList.map (Piece.gist profile) ++ (mode.step c).2.gists profile cs := by
  rw [gists, scan_cons, List.map_append]
  rfl

theorem gists_outside {mode : Mode} (h : mode.isPhrase = false) {c : Char} (hc : Text.isBlank c = true)
    (cs : List Char) :
    mode.gists profile (c :: cs) = mode.finish.map (Piece.gist profile) ++ between.gists profile cs := by
  rw [gists, scan_blank h hc, List.map_append]
  rfl

/-- Within a phrase, a blank is part of it. -/
theorem gists_within (negated : Bool) (done : List Char) {c : Char} (hc : Text.isBlank c = true) (cs : List Char) :
    (inPhrase negated done).gists profile (c :: cs) = (inPhrase negated (c :: done)).gists profile cs := by
  rw [gists_cons]
  simp only [step, if_neg (ne_quote_of_isBlank hc), Option.toList_none, List.map_nil, List.nil_append]

/-- Two phrases in progress come to the same if they have the same words, however they go on. -/
theorem gists_inPhrase (negated : Bool) {done done' : List Char}
    (h : ∀ rest, words (done.reverse ++ rest) = words (done'.reverse ++ rest)) (cs : List Char) :
    (inPhrase negated done).gists profile cs = (inPhrase negated done').gists profile cs := by
  have hnow : words done.reverse = words done'.reverse := by simpa using h []
  induction cs generalizing done done' with
  | nil => simp [gists, scan_nil, finish, Piece.gist_phrase negated hnow]
  | cons c cs ih =>
    rw [gists_cons, gists_cons]
    by_cases hc : c = '"'
    · simp [step, hc, Piece.gist_phrase negated hnow]
    · have hnext : ∀ rest, words ((c :: done).reverse ++ rest) = words ((c :: done').reverse ++ rest) := by
        intro rest
        simpa using h (c :: rest)
      simp only [step, if_neg hc, Option.toList_none, List.map_nil, List.nil_append]
      exact ih hnext (by simpa using hnext [])

variable {profile} {c d : Char} (hc : Text.isBlank c = true) (hd : Text.isBlank d = true)

include hc

theorem gists_end (mode : Mode) : mode.gists profile [c] = mode.gists profile [] := by
  cases hm : mode.isPhrase with
  | false =>
    rw [gists_outside profile hm hc, gists, scan_nil]
    simp [gists, scan_nil, finish]
  | true =>
    cases mode with
    | inPhrase negated done =>
      have hwords : words (c :: done).reverse = words done.reverse := by
        rw [List.reverse_cons, words_append_blank hc]
        exact List.append_nil _
      rw [gists_within profile negated done hc, gists, gists, scan_nil, scan_nil]
      exact congrArg ([·]) (Piece.gist_phrase negated hwords)
    | _ => cases hm

include hd

/-- One blank is as good as another. -/
theorem gists_blank (mode : Mode) (cs : List Char) : mode.gists profile (c :: cs) = mode.gists profile (d :: cs) := by
  cases hm : mode.isPhrase with
  | false => rw [gists_outside profile hm hc, gists_outside profile hm hd]
  | true =>
    cases mode with
    | inPhrase negated done =>
      rw [gists_within profile negated done hc, gists_within profile negated done hd]
      refine gists_inPhrase profile negated (fun rest => ?_) cs
      simp only [List.reverse_cons, List.append_assoc, List.singleton_append, words_append_blank hc, words_append_blank hd]
    | _ => cases hm

/-- Two blanks are as good as one. -/
theorem gists_blanks (mode : Mode) (cs : List Char) :
    mode.gists profile (c :: d :: cs) = mode.gists profile (d :: cs) := by
  cases hm : mode.isPhrase with
  | false =>
    rw [gists_outside profile hm hc, gists_outside profile rfl hd, gists_outside profile hm hd]
    rfl
  | true =>
    cases mode with
    | inPhrase negated done =>
      rw [gists_within profile negated done hc, gists_within profile negated _ hd, gists_within profile negated done hd]
      refine gists_inPhrase profile negated (fun rest => ?_) cs
      simp only [List.reverse_cons, List.append_assoc, List.cons_append, List.nil_append,
        words_append_blank hc, words_append_blank hd, words_cons_blank hd]
    | _ => cases hm

end Mode

/-! ## Collapsed texts -/

variable {profile : Profile}

theorem Mode.gists_follow (mode : Mode) (cs : List Char) : mode.gists profile (Text.follow cs) = mode.gists profile cs := by
  induction cs generalizing mode with
  | nil => rfl
  | cons c cs ih =>
    by_cases hc : Text.isBlank c = true
    · -- What a blank becomes depends on what stands behind it.
      rcases cs with _ | ⟨d, cs⟩
      · rw [gists_end hc, Text.follow_blank hc]
        rfl
      by_cases hd : Text.isBlank d = true
      · rw [Text.follow_blanks hc hd, ih, gists_blanks hc hd]
      · rw [Text.follow_space hc (by simpa using hd), gists_cons, ih, ← gists_cons, gists_blank (d := ' ') hc (by decide)]
    · rw [Text.follow_keep (by simpa using hc), gists_cons, ih, ← gists_cons]

theorem gists_collapseList (cs : List Char) :
    Mode.between.gists profile (Text.collapseList cs) = Mode.between.gists profile cs := by
  induction cs with
  | nil => rfl
  | cons c cs ih =>
    by_cases hc : Text.isBlank c = true
    · rw [Text.collapseList_blank hc, ih, Mode.gists_outside profile rfl hc]
      rfl
    · rw [Text.collapseList_keep (by simpa using hc), Mode.gists_cons, Mode.gists_follow, ← Mode.gists_cons]

theorem Query.parse_collapse (text : String) (profile : Profile) :
    parse (Text.collapse text) profile = parse text profile := by
  refine ofPieces_congr ?_
  rw [Text.toList_collapse]
  exact gists_collapseList text.toList

end Bookshop.Search
