/-
  Bookshop.Proofs.Search.Parsing — the operators of a query put the meanings of its parts together.

  What one character can do to the scanner is said once, in eight rules (`Mode.Rule`). From them comes what is
  known of the text behind the scanner in each mode (`Mode.Reached`): it is in a phrase just if the number of
  quotes is odd, and a word without a dash began where a word can begin.

  Scanning one text after another is scanning the second from the mode in which the first left the scanner
  (`Mode.scan_append`). So behind a text with an even number of quotes a blank ends whatever is in progress, and
  what follows has the pieces that it has on its own (`Mode.scan_append_blank`). The piece `or` then cuts the
  pieces in two (`Query.alternatives_append_or`), and a text that does not say `or` has no such piece
  (`not_isOr_of_not_saysOr`), so that all its clauses are in one alternative.

  - `operators_compose`: the alternatives of `a or b` are those of `a`, then those of `b`; the clauses of `a b`
    are those of `a`, then those of `b`, if neither says `or`; and `-t` matches where `t` does not.
-/

import Bookshop.Proofs.Text.Splitting
import Bookshop.Search.Query

namespace Bookshop.Search

/-! ## One character -/

/-- A character that goes on with the word in progress: neither a blank nor a quote. -/
def isPlain (c : Char) : Bool := !Text.isBlank c && c != '"'

theorem isPlain_iff {c : Char} : isPlain c = true ↔ Text.isBlank c = false ∧ c ≠ '"' := by
  simp [isPlain]

theorem isPlain_eq_false_iff {c : Char} : isPlain c = false ↔ Text.isBlank c = true ∨ c = '"' := by
  rw [← Bool.not_eq_true, isPlain_iff, not_and_or, Bool.not_eq_false, not_not]

theorem ne_quote_of_isBlank {c : Char} (h : Text.isBlank c = true) : c ≠ '"' := by
  rintro rfl
  exact absurd h (by decide)

namespace Mode

def isPhrase : Mode → Bool
  | .inPhrase _ _ => true
  | _ => false

/-- What a character does: the piece that it ends, if it ends one, and the mode behind it. -/
inductive Rule : Mode → Char → Option Piece → Mode → Prop where
  | blank {mode : Mode} {c : Char} : mode.isPhrase = false → Text.isBlank c = true →
      Rule mode c mode.finish.head? .between
  | quote {mode : Mode} : mode.isPhrase = false → Rule mode '"' mode.finish.head? (.inPhrase (mode == .afterDash) [])
  | dash : Rule .between '-' none .afterDash
  | first {c : Char} : isPlain c = true → c ≠ '-' → Rule .between c none (.inWord false [c])
  | firstNegated {c : Char} : isPlain c = true → Rule .afterDash c none (.inWord true [c])
  | more {negated : Bool} {done : List Char} {c : Char} : isPlain c = true →
      Rule (.inWord negated done) c none (.inWord negated (c :: done))
  | close {negated : Bool} {done : List Char} :
      Rule (.inPhrase negated done) '"' (some ⟨negated, true, done.reverse⟩) .between
  | within {negated : Bool} {done : List Char} {c : Char} : c ≠ '"' →
      Rule (.inPhrase negated done) c none (.inPhrase negated (c :: done))

theorem rule_step (mode : Mode) (c : Char) : Rule mode c (mode.step c).1 (mode.step c).2 := by
  have hplain : ¬ Text.isBlank c = true → ¬ c = '"' → isPlain c = true := by
    intro hb hq
    exact isPlain_iff.mpr ⟨Bool.eq_false_iff.mpr hb, hq⟩
  cases mode with
  | between =>
    by_cases hb : Text.isBlank c = true
    · simp only [step, if_pos hb]
      exact .blank rfl hb
    by_cases hd : c = '-'
    · simp only [step, if_neg hb, if_pos hd]
      exact hd ▸ .dash
    by_cases hq : c = '"'
    · simp only [step, if_neg hb, if_neg hd, if_pos hq]
      exact hq ▸ .quote rfl
    · simp only [step, if_neg hb, if_neg hd, if_neg hq]
      exact .first (hplain hb hq) hd
  | afterDash =>
    by_cases hb : Text.isBlank c = true
    · simp only [step, if_pos hb]
      exact .blank rfl hb
    by_cases hq : c = '"'
    · simp only [step, if_neg hb, if_pos hq]
      exact hq ▸ .quote rfl
    · simp only [step, if_neg hb, if_neg hq]
      exact .firstNegated (hplain hb hq)
  | inWord negated done =>
    by_cases hb : Text.isBlank c = true
    · simp only [step, if_pos hb]
      exact .blank rfl hb
    by_cases hq : c = '"'
    · simp only [step, if_neg hb, if_pos hq]
      exact hq ▸ .quote rfl
    · simp only [step, if_neg hb, if_neg hq]
      exact .more (hplain hb hq)
  | inPhrase negated done =>
    by_cases hq : c = '"'
    · simp only [step, if_pos hq]
      exact hq ▸ .close
    · simp only [step, if_neg hq]
      exact .within hq

theorem rule_of_step {mode next : Mode} {c : Char} {piece? : Option Piece} (h : mode.step c = (piece?, next)) :
    Rule mode c piece? next := by
  have hr := mode.rule_step c
  rwa [h] at hr

/-- Behind a blank or quote that ends no word and begins no phrase, the scanner stands between pieces. -/
theorem Rule.next_between {mode next : Mode} {c : Char} {piece? : Option Piece} (hr : Rule mode c piece? next)
    (hc : isPlain c = false) (hdash : c ≠ '-') (hout : next.isPhrase = false) : next = .between := by
  cases hr with
  | blank _ _ => rfl
  | close => rfl
  | quote _ => cases hout
  | within _ => cases hout
  | dash => exact absurd rfl hdash
  | first hp _ | firstNegated hp | more hp =>
    rw [hc] at hp
    cases hp

/-! ## Scanning one text after another -/

/-- The pieces that end within a text. -/
def ended : Mode → List Char → List Piece
  | _, [] => []
  | mode, c :: cs => (mode.step c).1.toList ++ (mode.step c).2.ended cs

/-- The mode in which a text leaves the scanner. -/
def after (mode : Mode) (cs : List Char) : Mode := cs.foldl (fun mode c => (mode.step c).2) mode

theorem scan_nil (mode : Mode) : mode.scan [] = mode.finish := by
  cases mode <;> rfl

theorem scan_cons (mode : Mode) (c : Char) (cs : List Char) :
    mode.scan (c :: cs) = (mode.step c).1.toList ++ (mode.step c).2.scan cs := by
  rw [scan]
  rcases mode.step c with ⟨_ | piece, next⟩
  · rfl
  · rfl

theorem scan_append (mode : Mode) (as bs : List Char) :
    mode.scan (as ++ bs) = mode.ended as ++ (mode.after as).scan bs := by
  induction as generalizing mode with
  | nil => rfl
  | cons a as ih =>
    rw [List.cons_append, scan_cons, ih, ended, List.append_assoc]
    rfl

theorem scan_eq (mode : Mode) (cs : List Char) : mode.scan cs = mode.ended cs ++ (mode.after cs).finish := by
  have h := mode.scan_append cs []
  rwa [List.append_nil, scan_nil] at h

theorem scan_blank {mode : Mode} (h : mode.isPhrase = false) {c : Char} (hc : Text.isBlank c = true) (cs : List Char) :
    mode.scan (c :: cs) = mode.finish ++ between.scan cs := by
  rw [scan_cons]
  cases mode with
  | inPhrase negated done => cases h
  | _ => simp [step, hc, finish]

end Mode

/-! ## What was read before a mode -/

/-- Behind this text a word can begin: all phrases are closed, and no word is in progress. -/
structure Boundary (before : List Char) : Prop where
  even : Even (before.count '"')
  ends : ∀ c, before.getLast? = some c → isPlain c = false

theorem boundary_nil : Boundary [] := ⟨by simp, fun _ h => nomatch h⟩

theorem Boundary.concat {before : List Char} {c : Char} (he : Even ((before ++ [c]).count '"'))
    (hc : isPlain c = false) : Boundary (before ++ [c]) := by
  refine ⟨he, fun d hd => ?_⟩
  have hcd : c = d := by simpa using hd
  exact hcd ▸ hc

theorem even_concat_iff (seen : List Char) (c : Char) :
    Even ((seen ++ [c]).count '"') ↔ (Even (seen.count '"') ↔ c ≠ '"') := by
  by_cases hq : c = '"'
  · simp [hq, List.count_append, Nat.even_add_one]
  · simp [hq, List.count_append]

namespace Mode

/-- What is known of the text behind the scanner in this mode. -/
def Reached (seen : List Char) : Mode → Prop
  | .between => Boundary seen
  | .afterDash => Even (seen.count '"')
  | .inWord negated done =>
    Even (seen.count '"') ∧ (negated = false → ∃ before, seen = before ++ done.reverse ∧ Boundary before)
  | .inPhrase _ _ => ¬ Even (seen.count '"')

theorem reached_nil : between.Reached [] := boundary_nil

variable {mode next : Mode} {seen : List Char} {c : Char} {piece? : Option Piece}

theorem Reached.even_iff (h : mode.Reached seen) : Even (seen.count '"') ↔ mode.isPhrase = false := by
  cases mode with
  | between => exact iff_of_true h.even rfl
  | afterDash => exact iff_of_true h rfl
  | inWord negated done => exact iff_of_true h.1 rfl
  | inPhrase negated done => exact iff_of_false h (by simp [isPhrase])

theorem Reached.step (h : mode.Reached seen) (hr : Rule mode c piece? next) : next.Reached (seen ++ [c]) := by
  have heven := h.even_iff
  have hsnoc := even_concat_iff seen c
  cases hr with
  | blank hout hc =>
    have hq := ne_quote_of_isBlank hc
    exact .concat (by tauto) (isPlain_eq_false_iff.mpr (.inl hc))
  | quote hout =>
    show ¬ Even _
    tauto
  | dash => exact hsnoc.mpr (iff_of_true h.even (by decide))
  | first hc _ => exact ⟨hsnoc.mpr (iff_of_true h.even (isPlain_iff.mp hc).2), fun _ => ⟨seen, rfl, h⟩⟩
  | firstNegated hc => exact ⟨hsnoc.mpr (iff_of_true h (isPlain_iff.mp hc).2), fun hn => nomatch hn⟩
  | more hc =>
    refine ⟨hsnoc.mpr (iff_of_true h.1 (isPlain_iff.mp hc).2), fun hn => ?_⟩
    obtain ⟨before, rfl, hbefore⟩ := h.2 hn
    exact ⟨before, by simp, hbefore⟩
  | close => exact .concat (hsnoc.mpr (iff_of_false h (by simp))) (by decide)
  | within hc =>
    show ¬ Even _
    rw [hsnoc]
    exact fun hi => h (hi.mpr hc)

theorem Reached.after (h : mode.Reached seen) (cs : List Char) : (mode.after cs).Reached (seen ++ cs) := by
  induction cs generalizing mode seen with
  | nil => simpa [Mode.after] using h
  | cons c cs ih =>
    have hstep := ih (h.step (mode.rule_step c))
    rwa [List.append_assoc] at hstep

/-- Behind an even number of quotes, a blank ends whatever is in progress. -/
theorem scan_append_blank {as : List Char} (h : Even (as.count '"')) {c : Char} (hc : Text.isBlank c = true)
    (bs : List Char) : between.scan (as ++ c :: bs) = between.scan as ++ between.scan bs := by
  have hreached : (between.after as).Reached as := reached_nil.after as
  have hout : (between.after as).isPhrase = false := hreached.even_iff.mp h
  rw [scan_append, scan_blank hout hc, scan_eq between as, List.append_assoc]

end Mode

/-! ## Words and phrases -/

namespace Mode

theorem scan_inPhrase {cs : List Char} (h : '"' ∉ cs) (negated : Bool) (done rest : List Char) :
    (inPhrase negated done).scan (cs ++ '"' :: rest) = ⟨negated, true, done.reverse ++ cs⟩ :: between.scan rest := by
  induction cs generalizing done with
  | nil => simp [scan_cons, step]
  | cons c cs ih =>
    obtain ⟨hc, hcs⟩ : c ≠ '"' ∧ '"' ∉ cs := by
      rw [List.mem_cons, not_or] at h
      exact ⟨Ne.symm h.1, h.2⟩
    rw [List.cons_append, scan_cons]
    simp only [step, if_neg hc, Option.toList_none, List.nil_append]
    rw [ih hcs]
    simp

theorem scan_inWord {cs : List Char} (h : ∀ c ∈ cs, isPlain c = true) (negated : Bool) (done rest : List Char) :
    (inWord negated done).scan (cs ++ rest) = (inWord negated (cs.reverse ++ done)).scan rest := by
  induction cs generalizing done with
  | nil => rfl
  | cons c cs ih =>
    obtain ⟨hc, hcs⟩ := List.forall_mem_cons.mp h
    obtain ⟨hb, hq⟩ := isPlain_iff.mp hc
    rw [List.cons_append, scan_cons]
    simp only [step, hb, if_neg hq, Bool.false_eq_true, if_false, Option.toList_none, List.nil_append]
    rw [ih hcs]
    simp

theorem isPlain_of_isAlpha {c : Char} (h : c.isAlpha = true) : isPlain c = true ∧ c ≠ '-' := by
  obtain ⟨hlo, -⟩ := Text.toNat_of_isAlpha h
  refine ⟨isPlain_iff.mpr ⟨Text.isBlank_of_isAlpha h, ?_⟩, ?_⟩
  · rintro rfl
    exact absurd hlo (by decide)
  · rintro rfl
    exact absurd hlo (by decide)

/-- A word of letters that ends before a blank or quote, or with the text, is a piece. -/
theorem mem_scan_word {cs rest : List Char} (hne : cs ≠ []) (h : ∀ c ∈ cs, c.isAlpha = true)
    (hrest : ∀ c, rest.head? = some c → isPlain c = false) :
    ⟨false, false, cs⟩ ∈ between.scan (cs ++ rest) := by
  obtain ⟨c, cs, rfl⟩ := List.exists_cons_of_ne_nil hne
  obtain ⟨hc, hcs⟩ := List.forall_mem_cons.mp h
  obtain ⟨hplain, hdash⟩ := isPlain_of_isAlpha hc
  obtain ⟨hb, hq⟩ := isPlain_iff.mp hplain
  have hfirst : between.step c = (none, inWord false [c]) := by simp [step, hb, hdash, hq]
  rw [List.cons_append, scan_cons, hfirst, scan_inWord fun d hd => (isPlain_of_isAlpha (hcs d hd)).1]
  refine List.mem_append_right _ ?_
  cases rest with
  | nil => simp [scan_nil, finish]
  | cons d rest =>
    rw [scan_cons]
    refine List.mem_append_left _ ?_
    rcases isPlain_eq_false_iff.mp (hrest d rfl) with hd | rfl
    · simp [step, hd]
    · simp [step, Text.isBlank, Text.blanks, Text.Ranges.has, Text.isInAny]

end Mode

/-! ## The word `or` -/

/-- The text has the word `or` in some ASCII case, outside of quotes and with no dash in front. -/
def SaysOr (cs : List Char) : Prop :=
  ∃ before word rest, cs = before ++ word ++ rest ∧ word.map Char.toLower = ['o', 'r'] ∧ Boundary before ∧
    ∀ c, rest.head? = some c → isPlain c = false

theorem Piece.isOr_iff {piece : Piece} :
    piece.isOr = true ↔ piece.negated = false ∧ piece.quoted = false ∧ piece.text.map Char.toLower = ['o', 'r'] := by
  simp [isOr, and_assoc]

theorem Mode.Reached.saysOr {mode : Mode} {seen rest : List Char} (h : mode.Reached seen) {piece : Piece}
    (hm : piece ∈ mode.finish) (hor : piece.isOr = true)
    (hrest : ∀ c, rest.head? = some c → isPlain c = false) : SaysOr (seen ++ rest) := by
  obtain ⟨hneg, hquoted, htext⟩ := Piece.isOr_iff.mp hor
  cases mode with
  | between => cases hm
  | afterDash => cases hm
  | inWord negated done =>
    obtain rfl := List.mem_singleton.mp hm
    obtain ⟨before, rfl, hbefore⟩ := h.2 hneg
    exact ⟨before, done.reverse, rest, rfl, htext, hbefore, hrest⟩
  | inPhrase negated done =>
    obtain rfl := List.mem_singleton.mp hm
    cases hquoted

theorem Mode.saysOr_of_mem_scan {mode : Mode} {seen : List Char} (h : mode.Reached seen) {rest : List Char}
    {piece : Piece} (hm : piece ∈ mode.scan rest) (hor : piece.isOr = true) : SaysOr (seen ++ rest) := by
  induction rest generalizing mode seen with
  | nil =>
    rw [scan_nil] at hm
    exact h.saysOr hm hor (fun c hc => nomatch hc)
  | cons c rest ih =>
    rcases hstep : mode.step c with ⟨piece?, next⟩
    have hr := rule_of_step hstep
    rw [scan_cons, hstep, List.mem_append] at hm
    rcases hm with hm | hm
    · -- The piece ends at `c`, which is a blank or a quote.
      cases hr with
      | blank _ hc => exact h.saysOr (List.mem_of_head? (by simpa using hm)) hor (by simp [isPlain, hc])
      | quote _ => exact h.saysOr (List.mem_of_head? (by simpa using hm)) hor (by simp [isPlain])
      | close =>
        obtain rfl := by simpa using hm
        simp [Piece.isOr] at hor
      | _ => cases hm
    · have hnext := ih (h.step hr) hm
      rwa [List.append_assoc] at hnext

theorem Boundary.after_eq {before : List Char} (h : Boundary before) : Mode.between.after before = .between := by
  rcases List.eq_nil_or_concat before with rfl | ⟨init, c, rfl⟩
  · rfl
  rw [List.concat_eq_append] at h ⊢
  have hreached : (Mode.between.after (init ++ [c])).Reached (init ++ [c]) := Mode.reached_nil.after (init ++ [c])
  have hout : (Mode.between.after (init ++ [c])).isPhrase = false := hreached.even_iff.mp h.even
  have hc : isPlain c = false := h.ends c (by simp)
  have hdash : c ≠ '-' := by
    rintro rfl
    exact absurd hc (by decide)
  have hlast : Mode.between.after (init ++ [c]) = ((Mode.between.after init).step c).2 := by
    simp [Mode.after]
  rw [hlast] at hout ⊢
  exact ((Mode.between.after init).rule_step c).next_between hc hdash hout

/-- A text says `or` just if one of its pieces is `or`. -/
theorem saysOr_iff {cs : List Char} : SaysOr cs ↔ ∃ piece ∈ pieces cs, piece.isOr = true := by
  constructor
  · rintro ⟨before, word, rest, rfl, hword, hbefore, hrest⟩
    refine ⟨⟨false, false, word⟩, ?_, Piece.isOr_iff.mpr ⟨rfl, rfl, hword⟩⟩
    have hletters : ∀ c ∈ word, c.isAlpha = true := by
      intro c hc
      have hlow : c.toLower ∈ ['o', 'r'] := hword ▸ List.mem_map_of_mem hc
      rw [← Char.isAlpha_toLower_eq_isAlpha]
      rcases List.mem_pair.mp hlow with h | h <;> rw [h] <;> rfl
    rw [pieces, List.append_assoc, Mode.scan_append, hbefore.after_eq]
    refine List.mem_append_right _ (Mode.mem_scan_word ?_ hletters hrest)
    rintro rfl
    cases hword
  · rintro ⟨piece, hm, hor⟩
    exact Mode.saysOr_of_mem_scan Mode.reached_nil hm hor

theorem not_isOr_of_not_saysOr {cs : List Char} (h : ¬ SaysOr cs) : ∀ piece ∈ pieces cs, piece.isOr = false := by
  intro piece hm
  rw [Bool.eq_false_iff]
  exact fun hor => h (saysOr_iff.mpr ⟨piece, hm, hor⟩)

theorem pieces_phrase {cs : List Char} (h : '"' ∉ cs) : pieces ('"' :: (cs ++ ['"'])) = [⟨false, true, cs⟩] := by
  have hquote : Mode.between.step '"' = (none, .inPhrase false []) := rfl
  rw [pieces, Mode.scan_cons, hquote, Mode.scan_inPhrase h]
  simp [Mode.scan_nil, Mode.finish]

/-- What a dash can be put in front of: a closed phrase, or a word that is not `or`. -/
inductive IsAtom : List Char → Prop where
  | phrase (cs : List Char) (hq : '"' ∉ cs) : IsAtom ('"' :: (cs ++ ['"']))
  | word (c : Char) (cs : List Char) (hdash : c ≠ '-') (hplain : ∀ d ∈ c :: cs, isPlain d = true)
      (hor : (c :: cs).map Char.toLower ≠ ['o', 'r']) : IsAtom (c :: cs)

theorem IsAtom.exists_piece {cs : List Char} (h : IsAtom cs) : ∃ quoted text,
    pieces cs = [⟨false, quoted, text⟩] ∧ pieces ('-' :: cs) = [⟨true, quoted, text⟩] ∧
      Piece.isOr ⟨false, quoted, text⟩ = false := by
  have hdash : Text.isBlank '-' = false := by decide
  have hquote : Text.isBlank '"' = false := by decide
  cases h with
  | phrase cs hq =>
    refine ⟨true, cs, pieces_phrase hq, ?_, by simp [Piece.isOr]⟩
    · rw [pieces, Mode.scan_cons, Mode.scan_cons]
      simp [Mode.step, hdash, hquote, Mode.scan_inPhrase hq, Mode.scan_nil, Mode.finish]
  | word c cs hne hplain hor =>
    obtain ⟨hc, hcs⟩ := List.forall_mem_cons.mp hplain
    obtain ⟨hb, hq⟩ := isPlain_iff.mp hc
    have hword (negated : Bool) : (Mode.inWord negated [c]).scan cs = [⟨negated, false, c :: cs⟩] := by
      have hscan := Mode.scan_inWord hcs negated [c] []
      rw [List.append_nil] at hscan
      simp [hscan, Mode.scan_nil, Mode.finish]
    refine ⟨false, c :: cs, ?_, ?_, by simpa [Piece.isOr] using hor⟩
    · rw [pieces, Mode.scan_cons]
      simp [Mode.step, hb, hq, hne, hword]
    · rw [pieces, Mode.scan_cons, Mode.scan_cons]
      simp [Mode.step, hdash, hb, hq, hword]

/-! ## From pieces to alternatives -/

namespace Query

variable {profile : Profile}

theorem alternatives_append_or {piece : Piece} (h : piece.isOr = true) (ps ps' : List Piece) :
    (ofPieces (ps ++ piece :: ps') profile).alternatives =
      (ofPieces ps profile).alternatives ++ (ofPieces ps' profile).alternatives := by
  simp only [ofPieces, Text.splitWhere_append_cons h, List.map_append, List.filter_append]

/-- Without `or`, all clauses are in one alternative, which is left out if there are none. -/
theorem alternatives_of_no_or {ps : List Piece} (h : ∀ piece ∈ ps, piece.isOr = false) :
    (ofPieces ps profile).alternatives =
      [ps.filterMap (·.clause? profile)].filter (fun alt => !alt.isEmpty) := by
  rw [ofPieces, Text.splitWhere_of_none h]
  rfl

theorem flatten_alternatives {ps : List Piece} (h : ∀ piece ∈ ps, piece.isOr = false) :
    (ofPieces ps profile).alternatives.flatten = ps.filterMap (·.clause? profile) := by
  rw [alternatives_of_no_or h]
  cases ps.filterMap (·.clause? profile) <;> simp

theorem length_alternatives_le {ps : List Piece} (h : ∀ piece ∈ ps, piece.isOr = false) :
    (ofPieces ps profile).alternatives.length ≤ 1 := by
  rw [alternatives_of_no_or h]
  exact List.length_filter_le _ _

theorem matchesIn_append {q q1 q2 : Query} (h : q.alternatives = q1.alternatives ++ q2.alternatives) (index : Index) :
    q.matchesIn index = (q1.matchesIn index || q2.matchesIn index) := by
  rw [matchesIn, h, List.any_append]
  rfl

end Query

/-- Whether a piece has a clause, and with which terms, does not depend on the dash. -/
theorem Piece.clause?_cases (quoted : Bool) (text : List Char) (profile : Profile) :
    (∀ negated, Piece.clause? ⟨negated, quoted, text⟩ profile = none) ∨
      ∃ terms, ∀ negated, Piece.clause? ⟨negated, quoted, text⟩ profile = some ⟨negated, terms⟩ := by
  simp only [clause?]
  cases profile.lexemes (String.ofList text) with
  | nil => exact .inl fun _ => rfl
  | cons first rest => exact .inr ⟨_, fun _ => rfl⟩

theorem Clause.holds_negated (terms : List (Nat × String)) (index : Index) :
    (Clause.mk true terms).holds index = !(Clause.mk false terms).holds index := by
  have hsame : (Clause.mk true terms).occursIn index = (Clause.mk false terms).occursIn index := rfl
  rw [holds, holds, hsame]
  cases (Clause.mk false terms).occursIn index <;> rfl

theorem Query.alternatives_of_piece {piece : Piece} (hor : piece.isOr = false) (profile : Profile) :
    (Query.ofPieces [piece] profile).alternatives = ((piece.clause? profile).map ([·])).toList := by
  rw [alternatives_of_no_or (by simpa using hor), List.filterMap_cons]
  cases piece.clause? profile <;> rfl

theorem Query.matchesIn_of_piece {piece : Piece} {profile : Profile} {clause : Clause} (hor : piece.isOr = false)
    (hc : piece.clause? profile = some clause) (index : Index) :
    (Query.ofPieces [piece] profile).matchesIn index = clause.holds index := by
  simp [matchesIn, alternatives_of_piece hor, hc]

/-! ## The operators -/

theorem pieces_append_blank {as : List Char} (h : Even (as.count '"')) (bs : List Char) :
    pieces (as ++ ' ' :: bs) = pieces as ++ pieces bs :=
  Mode.scan_append_blank h (by decide) bs

theorem pieces_or {as : List Char} (h : Even (as.count '"')) (bs : List Char) :
    pieces (as ++ " or ".toList ++ bs) = pieces as ++ ⟨false, false, ['o', 'r']⟩ :: pieces bs := by
  have htext : as ++ " or ".toList ++ bs = as ++ ' ' :: (['o', 'r'] ++ ' ' :: bs) := by simp
  have hword : pieces ['o', 'r'] = [⟨false, false, ['o', 'r']⟩] := by decide
  rw [htext, pieces_append_blank h, pieces_append_blank (by decide), hword]
  rfl

theorem Query.matchesIn_dash {t : String} (ht : IsAtom t.toList) {profile : Profile}
    (hne : (Query.parse t profile).isEmpty = false) (index : Index) :
    (Query.parse ("-" ++ t) profile).matchesIn index = !(Query.parse t profile).matchesIn index := by
  obtain ⟨quoted, text, hpieces, hdash, hor⟩ := ht.exists_piece
  have hplain : Query.parse t profile = ofPieces [⟨false, quoted, text⟩] profile := by rw [Query.parse, hpieces]
  have hnegated : Query.parse ("-" ++ t) profile = ofPieces [⟨true, quoted, text⟩] profile := by
    have htext : ("-" ++ t).toList = '-' :: t.toList := by simp
    rw [Query.parse, htext, hdash]
  rcases Piece.clause?_cases quoted text profile with hnone | ⟨terms, hsome⟩
  · have halt : (Query.parse t profile).alternatives = [] := by
      rw [hplain, alternatives_of_piece hor, hnone]
      rfl
    simp [isEmpty, halt] at hne
  · rw [hplain, hnegated, matchesIn_of_piece hor (hsome false), matchesIn_of_piece (by simp [Piece.isOr]) (hsome true)]
    exact Clause.holds_negated terms index

theorem operators_compose (profile : Profile) :
    (∀ a b : String, Even (a.toList.count '"') →
      (Query.parse (a ++ " or " ++ b) profile).alternatives =
          (Query.parse a profile).alternatives ++ (Query.parse b profile).alternatives ∧
        (∀ index, (Query.parse (a ++ " or " ++ b) profile).matchesIn index =
          ((Query.parse a profile).matchesIn index || (Query.parse b profile).matchesIn index)) ∧
        (¬ SaysOr a.toList → ¬ SaysOr b.toList →
          (Query.parse (a ++ " " ++ b) profile).alternatives.length ≤ 1 ∧
            (Query.parse (a ++ " " ++ b) profile).alternatives.flatten =
              (Query.parse a profile).alternatives.flatten ++ (Query.parse b profile).alternatives.flatten)) ∧
      ∀ t : String, IsAtom t.toList → (Query.parse t profile).isEmpty = false →
        ∀ index, (Query.parse ("-" ++ t) profile).matchesIn index = !(Query.parse t profile).matchesIn index := by
  refine ⟨fun a b heven => ?_, fun t ht hne index => Query.matchesIn_dash ht hne index⟩
  have hor : (Query.parse (a ++ " or " ++ b) profile).alternatives =
      (Query.parse a profile).alternatives ++ (Query.parse b profile).alternatives := by
    rw [Query.parse, String.toList_append, String.toList_append, pieces_or heven]
    exact Query.alternatives_append_or (by decide) _ _
  refine ⟨hor, fun index => Query.matchesIn_append hor index, fun ha hb => ?_⟩
  have hall : ∀ piece ∈ pieces a.toList ++ pieces b.toList, piece.isOr = false := by
    intro piece hm
    rcases List.mem_append.mp hm with hm | hm
    · exact not_isOr_of_not_saysOr ha piece hm
    · exact not_isOr_of_not_saysOr hb piece hm
  have hparse : Query.parse (a ++ " " ++ b) profile = Query.ofPieces (pieces a.toList ++ pieces b.toList) profile := by
    have htext : (a ++ " " ++ b).toList = a.toList ++ ' ' :: b.toList := by simp
    rw [Query.parse, htext, pieces_append_blank heven]
  refine ⟨?_, ?_⟩
  · rw [hparse]
    exact Query.length_alternatives_le hall
  · rw [hparse, Query.flatten_alternatives hall, List.filterMap_append, Query.parse, Query.parse,
      Query.flatten_alternatives (not_isOr_of_not_saysOr ha), Query.flatten_alternatives (not_isOr_of_not_saysOr hb)]

/-- The word and the phrase are asked for together, then one or the other, then without the phrase. -/
theorem spice_and_desert_wars :
    let q (text : String) := Query.parse text .simple
    Even ("spice".toList.count '"') ∧ ¬ SaysOr "spice".toList ∧ ¬ SaysOr "\"desert war\"".toList ∧
      IsAtom "\"desert war\"".toList ∧ (q "\"desert war\"").isEmpty = false ∧
      (q "spice or \"desert war\"").alternatives = [[⟨false, [(0, "spice")]⟩], [⟨false, [(0, "desert"), (1, "war")]⟩]] ∧
      (q "spice \"desert war\"").alternatives.flatten =
        [⟨false, [(0, "spice")]⟩, ⟨false, [(0, "desert"), (1, "war")]⟩] ∧
      (q "-\"desert war\"").matchesIn (Index.ofText "The war in the desert" .a .simple) = true := by
  intro q
  have heven : Even ("spice".toList.count '"') := by decide
  have hno {cs : List Char} : 'o' ∉ cs.map Char.toLower → ¬ SaysOr cs := by
    rintro hm ⟨before, word, rest, rfl, hword, -⟩
    exact hm (by simp [hword])
  have hspice : ¬ SaysOr "spice".toList := hno (by decide)
  have hwar : ¬ SaysOr "\"desert war\"".toList := hno (by decide)
  have hatom : IsAtom "\"desert war\"".toList := .phrase "desert war".toList (by decide)
  have hne : (q "\"desert war\"").isEmpty = false := by decide
  obtain ⟨hparts, hdash⟩ := operators_compose .simple
  obtain ⟨hor, -, hand⟩ := hparts "spice" "\"desert war\"" heven
  refine ⟨heven, hspice, hwar, hatom, hne, ?_, ?_, ?_⟩
  · exact hor.trans (by decide)
  · exact (hand hspice hwar).2.trans (by decide)
  · exact (hdash _ hatom hne _).trans (by decide)

end Bookshop.Search
