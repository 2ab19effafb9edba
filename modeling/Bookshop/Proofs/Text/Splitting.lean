/-
  Bookshop.Proofs.Text.Splitting — cutting a text, and collapsing its blanks (see `Bookshop.Text.Blank`).

  A text that is put together with a cut between its parts is cut into the pieces of the parts
  (`splitWhere_append_cons`), and lists of items that are put together with commas are one list of their items
  (`commaItems_intercalate`). A text has one list of runs of characters that are not blank (`HasRuns`), and it is
  found by cutting at the blanks (`hasRuns_iff`). Collapsing a text keeps its characters one by one, except that of
  the blanks in a row one space is kept, and none at the ends (`collapseList_blank`, `collapseList_keep` with the
  rules of `follow`).
-/

import Bookshop.Proofs.Text.Trimming

namespace Bookshop.Text

/-! ## Cuts -/

section

variable {α : Type} {p : α → Bool}

theorem splitWhere_cut {c : α} (hc : p c = true) (cs : List α) : splitWhere p (c :: cs) = [] :: splitWhere p cs := by
  rw [splitWhere, if_pos hc]

theorem splitWhere_keep {c : α} (hc : p c = false) {cs piece : List α} {rest : List (List α)}
    (h : splitWhere p cs = piece :: rest) : splitWhere p (c :: cs) = (c :: piece) :: rest := by
  simp [splitWhere, hc, h]

theorem exists_splitWhere (p : α → Bool) (cs : List α) : ∃ piece rest, splitWhere p cs = piece :: rest :=
  List.exists_cons_of_ne_nil (splitWhere_ne_nil p cs)

theorem splitWhere_append_cons {c : α} (hc : p c = true) (as bs : List α) :
    splitWhere p (as ++ c :: bs) = splitWhere p as ++ splitWhere p bs := by
  induction as with
  | nil => exact splitWhere_cut hc bs
  | cons a as ih =>
    cases ha : p a with
    | true =>
      rw [List.cons_append, splitWhere_cut ha, splitWhere_cut ha, ih]
      rfl
    | false =>
      obtain ⟨piece, rest, hs⟩ := exists_splitWhere p as
      rw [hs, List.cons_append] at ih
      rw [List.cons_append, splitWhere_keep ha ih, splitWhere_keep ha hs]
      rfl

theorem splitWhere_map {β : Type} (f : β → α) (p : α → Bool) (bs : List β) :
    splitWhere p (bs.map f) = (splitWhere (fun b => p (f b)) bs).map (List.map f) := by
  induction bs with
  | nil => rfl
  | cons b bs ih =>
    obtain ⟨piece, rest, hs⟩ := exists_splitWhere (fun b => p (f b)) bs
    rw [hs, List.map_cons] at ih
    rw [List.map_cons, splitWhere, splitWhere, ih, hs]
    cases p (f b) <;> rfl

@[simp] theorem fieldsWhere_nil : fieldsWhere p [] = [] := rfl

theorem fieldsWhere_cut {c : α} (hc : p c = true) (cs : List α) : fieldsWhere p (c :: cs) = fieldsWhere p cs := by
  rw [fieldsWhere, splitWhere_cut hc]
  rfl

theorem fieldsWhere_append_cons {c : α} (hc : p c = true) (as bs : List α) :
    fieldsWhere p (as ++ c :: bs) = fieldsWhere p as ++ fieldsWhere p bs := by
  rw [fieldsWhere, splitWhere_append_cons hc, List.filter_append]
  rfl

end

/-! ## Lists of items -/

theorem trimList_of_mem_commaItems {cs item : List Char} (h : item ∈ commaItems cs) :
    trimList item = item ∧ item ≠ [] := by
  obtain ⟨hmem, hne⟩ := List.mem_filter.mp h
  obtain ⟨piece, -, rfl⟩ := List.mem_map.mp hmem
  exact ⟨trimList_trimList piece, by simpa using hne⟩

theorem commaItems_append_comma (as bs : List Char) : commaItems (as ++ ',' :: bs) = commaItems as ++ commaItems bs := by
  rw [commaItems, splitWhere_append_cons rfl, List.map_append, List.filter_append]
  rfl

/-- Blanks in front of a list go to its first piece, and are trimmed there. -/
theorem commaItems_blanks_append {gap : List Char} (h : ∀ c ∈ gap, isBlank c = true) (cs : List Char) :
    commaItems (gap ++ cs) = commaItems cs := by
  induction gap with
  | nil => rfl
  | cons c gap ih =>
    obtain ⟨hc, hgap⟩ := List.forall_mem_cons.mp h
    have hcomma : (c == ',') = false := by
      rw [beq_eq_false_iff_ne]
      rintro rfl
      exact absurd hc (by decide)
    obtain ⟨piece, rest, hs⟩ := exists_splitWhere (· == ',') (gap ++ cs)
    have hone : ∀ d ∈ [c], isBlank d = true := by simpa using hc
    have htrim := trimList_between hone (List.forall_mem_nil _) piece
    rw [List.append_nil, List.singleton_append] at htrim
    rw [← ih hgap, commaItems, List.cons_append, splitWhere_keep (p := (· == ',')) hcomma hs, commaItems, hs,
      List.map_cons, htrim, List.map_cons]

theorem commaItems_of_blank {gap : List Char} (h : ∀ c ∈ gap, isBlank c = true) : commaItems gap = [] := by
  have hgap := commaItems_blanks_append h []
  rwa [List.append_nil] at hgap

/-- Lists with a comma between them, and maybe blanks after it, are one list. -/
theorem commaItems_intercalate {gap : List Char} (h : ∀ c ∈ gap, isBlank c = true) (lists : List (List Char)) :
    commaItems ((',' :: gap).intercalate lists) = lists.flatMap commaItems := by
  induction lists with
  | nil => rfl
  | cons list lists ih =>
    cases lists with
    | nil => simp
    | cons next lists =>
      rw [List.intercalate_cons_cons, List.flatMap_cons, List.append_assoc, List.cons_append, commaItems_append_comma,
        commaItems_blanks_append h, ih]

/-! ## Runs -/

/-- The text consists of these runs of characters that are not blank, with blanks between them. There may be blanks at
both ends too. -/
inductive HasRuns : List Char → List (List Char) → Prop
  | blank {gap : List Char} : (∀ c ∈ gap, isBlank c = true) → HasRuns gap []
  | run {gap run rest : List Char} {runs : List (List Char)} : (∀ c ∈ gap, isBlank c = true) → run ≠ [] →
      (∀ c ∈ run, isBlank c = false) → (∀ c, rest.head? = some c → isBlank c = true) → HasRuns rest runs →
      HasRuns (gap ++ run ++ rest) (run :: runs)

theorem blankSeparated_gap {gap : List Char} (h : ∀ c ∈ gap, isBlank c = true) (cs : List Char) :
    blankSeparated (gap ++ cs) = blankSeparated cs := by
  induction gap with
  | nil => rfl
  | cons c gap ih =>
    obtain ⟨hc, hgap⟩ := List.forall_mem_cons.mp h
    rw [List.cons_append, blankSeparated, fieldsWhere_cut hc]
    exact ih hgap

theorem blankSeparated_run {run rest : List Char} (hne : run ≠ []) (h : ∀ c ∈ run, isBlank c = false)
    (hrest : ∀ c, rest.head? = some c → isBlank c = true) :
    blankSeparated (run ++ rest) = run :: blankSeparated rest := by
  have hrun : blankSeparated run = [run] := by
    rw [blankSeparated, fieldsWhere, splitWhere_of_none h]
    simp [hne]
  cases rest with
  | nil =>
    rw [List.append_nil, hrun]
    rfl
  | cons c rest =>
    have hc := hrest c rfl
    rw [blankSeparated, fieldsWhere_append_cons hc, ← blankSeparated, hrun, blankSeparated, fieldsWhere_cut hc]
    rfl

theorem HasRuns.blankSeparated_eq {cs : List Char} {runs : List (List Char)} (h : HasRuns cs runs) :
    blankSeparated cs = runs := by
  induction h with
  | @blank gap hgap =>
    have hcut := blankSeparated_gap hgap []
    rwa [List.append_nil] at hcut
  | run hgap hne hrun hrest _ ih =>
    rw [List.append_assoc, blankSeparated_gap hgap, blankSeparated_run hne hrun hrest, ih]

/-- Every text has a list of runs: a blank goes to the gap before the first run, and another character begins a run, or
goes to the run that is begun behind it. -/
theorem exists_hasRuns (cs : List Char) : ∃ runs, HasRuns cs runs := by
  induction cs with
  | nil => exact ⟨[], .blank (List.forall_mem_nil _)⟩
  | cons c cs ih =>
    obtain ⟨runs, h⟩ := ih
    cases hc : isBlank c with
    | true =>
      cases h with
      | blank hgap => exact ⟨[], .blank (List.forall_mem_cons.mpr ⟨hc, hgap⟩)⟩
      | @run gap run rest runs hgap hne hrun hrest h =>
        have hmore : HasRuns (c :: gap ++ run ++ rest) (run :: runs) :=
          .run (List.forall_mem_cons.mpr ⟨hc, hgap⟩) hne hrun hrest h
        exact ⟨_, hmore⟩
    | false =>
      have hone : ∀ d ∈ [c], isBlank d = false := by simpa using hc
      have hbegin : (∀ d, cs.head? = some d → isBlank d = true) → HasRuns ([] ++ [c] ++ cs) ([c] :: runs) := fun hcs =>
        .run (List.forall_mem_nil _) (List.cons_ne_nil c []) hone hcs h
      cases h with
      | blank hgap => exact ⟨_, hbegin fun d hd => hgap d (List.mem_of_mem_head? hd)⟩
      | @run gap run rest runs hgap hne hrun hrest h =>
        cases gap with
        | nil =>
          have hlonger : HasRuns ([] ++ c :: run ++ rest) ((c :: run) :: runs) :=
            .run hgap (List.cons_ne_nil c run) (List.forall_mem_cons.mpr ⟨hc, hrun⟩) hrest h
          exact ⟨_, hlonger⟩
        | cons g gap =>
          refine ⟨_, hbegin fun d hd => ?_⟩
          cases hd
          exact hgap g List.mem_cons_self

theorem hasRuns_iff {cs : List Char} {runs : List (List Char)} : HasRuns cs runs ↔ blankSeparated cs = runs := by
  refine ⟨HasRuns.blankSeparated_eq, ?_⟩
  rintro rfl
  obtain ⟨runs, h⟩ := exists_hasRuns cs
  rwa [h.blankSeparated_eq]

/-! ## Collapsed texts -/

/-- The characters of a text with its blanks collapsed. -/
def collapseList (cs : List Char) : List Char := [' '].intercalate (blankSeparated cs)

theorem toList_collapse (s : String) : (collapse s).toList = collapseList s.toList := by
  rw [collapse, String.toList_ofList, collapseList]

def spaced (pieces : List (List Char)) : List Char := pieces.flatMap (' ' :: ·)

/-- What is left of the rest of a text, behind a character that is kept. -/
def follow (cs : List Char) : List Char :=
  match splitWhere isBlank cs with
  | [] => []
  | piece :: rest => piece ++ spaced (rest.filter (fun piece => !piece.isEmpty))

theorem intercalate_space (piece : List Char) (rest : List (List Char)) :
    [' '].intercalate (piece :: rest) = piece ++ spaced rest := by
  induction rest generalizing piece with
  | nil => simp [spaced, List.intercalate]
  | cons next rest ih =>
    have hn := ih next
    simp only [List.intercalate, List.intersperse_cons_cons, List.flatten_cons] at hn ⊢
    rw [hn]
    simp [spaced]

theorem follow_keep {c : Char} (hc : isBlank c = false) (cs : List Char) : follow (c :: cs) = c :: follow cs := by
  obtain ⟨piece, rest, hs⟩ := exists_splitWhere isBlank cs
  rw [follow, splitWhere_keep hc hs, follow, hs]
  rfl

theorem follow_blank {c : Char} (hc : isBlank c = true) (cs : List Char) :
    follow (c :: cs) = spaced (blankSeparated cs) := by
  rw [follow, splitWhere_cut hc]
  rfl

theorem collapseList_blank {c : Char} (hc : isBlank c = true) (cs : List Char) :
    collapseList (c :: cs) = collapseList cs := by
  rw [collapseList, blankSeparated, fieldsWhere_cut hc]
  rfl

theorem blankSeparated_keep {c : Char} (hc : isBlank c = false) {cs piece : List Char} {rest : List (List Char)}
    (hs : splitWhere isBlank cs = piece :: rest) :
    blankSeparated (c :: cs) = (c :: piece) :: rest.filter (fun piece => !piece.isEmpty) := by
  rw [blankSeparated, fieldsWhere, splitWhere_keep hc hs]
  rfl

theorem collapseList_keep {c : Char} (hc : isBlank c = false) (cs : List Char) :
    collapseList (c :: cs) = c :: follow cs := by
  obtain ⟨piece, rest, hs⟩ := exists_splitWhere isBlank cs
  rw [collapseList, blankSeparated_keep hc hs, intercalate_space, follow, hs]
  rfl

/-- Of two blanks in a row, one is dropped. -/
theorem follow_blanks {c d : Char} (hc : isBlank c = true) (hd : isBlank d = true) (cs : List Char) :
    follow (c :: d :: cs) = follow (d :: cs) := by
  rw [follow_blank hc, follow_blank hd, blankSeparated, fieldsWhere_cut hd]
  rfl

/-- A blank between characters that are kept becomes a space. -/
theorem follow_space {c d : Char} (hc : isBlank c = true) (hd : isBlank d = false) (cs : List Char) :
    follow (c :: d :: cs) = ' ' :: follow (d :: cs) := by
  obtain ⟨piece, rest, hs⟩ := exists_splitWhere isBlank cs
  rw [follow_blank hc, blankSeparated_keep hd hs, follow_keep hd, follow, hs]
  simp [spaced]

end Bookshop.Text
