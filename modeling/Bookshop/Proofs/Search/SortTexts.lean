/-
  Bookshop.Proofs.Search.SortTexts — which sort texts are accepted, and what they ask for.

  The grammar is told without regard to how a text is read: an item asks for a criterion if it is the mark of the
  direction, blanks, and the name of the property in any case of its letters (`Criterion.Asks`). An item is
  read as a criterion just if it asks for it (`Criterion.ofItem_eq_ok_iff`), and the failure of any other item names
  its property part, or all of it if there is none (`Criterion.ofItem_eq_error`). Items do not mix: names have
  neither commas nor blanks, so the items of spellings with commas between them are the spellings, trimmed
  (`Criterion.commaItems_listed`).

  - `sort_texts_follow_the_grammar`: a blank text asks for the usual order; any other is accepted just if each of its
    items asks for a criterion, and asks for these in their order; the first item that does not is the one that is
    reported; and however criteria are spelled, the text is read as these criteria.
-/

import Bookshop.Proofs.Search.Order
import Bookshop.Proofs.Text.Splitting

namespace Bookshop.Search

/-! ## The grammar -/

/-- What clients call a property. -/
def Property.clientName : Property → String
  | .title => "title"
  | .author => "author"
  | .genre => "genre"
  | .price => "price"
  | .created => "createdAt"
  | .updated => "updatedAt"
  | .rank => "score"
  | .constant => "score"

/-- The score orders books only where there are scores. -/
def Property.fits (hasScore : Bool) : Property → Bool
  | .rank => hasScore
  | .constant => !hasScore
  | _ => true

/-- The text is the name of the property, in any ASCII case. -/
def Property.IsNamed (property : Property) (name : List Char) : Prop :=
  name.map Char.toLower = property.clientName.toList.map Char.toLower

instance (property : Property) (name : List Char) : Decidable (property.IsNamed name) := inferInstanceAs (Decidable (_ = _))

def Direction.mark : Direction → List Char
  | .ascending => []
  | .descending => ['-']

namespace Criterion

/-- The item is the mark of the direction, blanks, and the name of the property. -/
def Asks (hasScore : Bool) (item : List Char) (criterion : Criterion) : Prop :=
  criterion.property.fits hasScore = true ∧
    ∃ blanks name, item = criterion.direction.mark ++ blanks ++ name ∧ (∀ c ∈ blanks, Text.isBlank c = true) ∧
      criterion.property.IsNamed name

/-- What should name a property in an item: all of it, or what stands behind its mark. -/
inductive IsPropertyPart : List Char → List Char → Prop
  | whole {item : List Char} (h : item.head? ≠ some '-') : IsPropertyPart item item
  | behindMark (rest : List Char) : IsPropertyPart ('-' :: rest) (Text.trimList rest)

/-- The failure is about the first of the items that ask for nothing. It names the property part of the item, or the
item if that is empty. -/
def Blames (hasScore : Bool) (items : List (List Char)) (failure : Failure) : Prop :=
  ∃ before item after part, items = before ++ item :: after ∧
    (∀ earlier ∈ before, ∃ criterion, Asks hasScore earlier criterion) ∧ (¬ ∃ criterion, Asks hasScore item criterion) ∧
    IsPropertyPart item part ∧ failure.kind = .badRequest ∧
    failure.message =
      if part = [] then "Sort token '" ++ String.ofList item ++ "' must name a property"
      else "Unsupported sort property: " ++ String.ofList part

def write (criterion : Criterion) : List Char := criterion.direction.mark ++ criterion.property.clientName.toList

def listed (spellings : List (List Char)) : String := String.ofList ([','].intercalate spellings)

end Criterion

/-! ## Names -/

namespace Property

theorem ofName?_eq_some_iff {hasScore : Bool} {name : List Char} {property : Property} :
    ofName? hasScore name = some property ↔ property.fits hasScore = true ∧ property.IsNamed name := by
  unfold ofName? IsNamed
  constructor
  · intro h
    obtain ⟨before, after, happ, -⟩ := List.lookup_eq_some_iff.mp h
    have hmem : (String.ofList (name.map Char.toLower), property) ∈ before ++ (_, property) :: after :=
      List.mem_append_right _ List.mem_cons_self
    rw [← happ] at hmem
    simp only [List.mem_cons, Prod.mk.injEq, List.not_mem_nil, or_false, ← String.toList_inj, String.toList_ofList] at hmem
    rcases hmem with ⟨hname, rfl⟩ | ⟨hname, rfl⟩ | ⟨hname, rfl⟩ | ⟨hname, rfl⟩ | ⟨hname, rfl⟩ | ⟨hname, rfl⟩ | ⟨hname, rfl⟩
    iterate 6 exact ⟨rfl, hname.trans (by decide)⟩
    cases hasScore <;> exact ⟨rfl, hname.trans (by decide)⟩
  · rintro ⟨hfits, hname⟩
    rw [hname]
    revert hfits
    cases property <;> cases hasScore <;> decide

theorem IsNamed.isAlpha {property : Property} {name : List Char} (h : property.IsNamed name) :
    ∀ c ∈ name, c.toLower.isAlpha = true := by
  have hall : (property.clientName.toList.map Char.toLower).all Char.isAlpha = true := by cases property <;> decide
  rw [← h] at hall
  simpa using hall

theorem IsNamed.ne_nil {property : Property} {name : List Char} (h : property.IsNamed name) : name ≠ [] := by
  rintro rfl
  revert h
  cases property <;> decide

theorem IsNamed.isBlank {property : Property} {name : List Char} (h : property.IsNamed name) :
    ∀ c ∈ name, Text.isBlank c = false := by
  intro c hc
  rw [Bool.eq_false_iff]
  intro hb
  have halpha := h.isAlpha c hc
  rw [Text.toLower_of_isBlank hb] at halpha
  exact absurd hb (by simp [Text.isBlank_of_isAlpha halpha])

theorem IsNamed.not_mem {property : Property} {name : List Char} (h : property.IsNamed name) {c : Char}
    (hc : c.toLower.isAlpha = false) : c ∉ name := by
  intro hmem
  rw [h.isAlpha c hmem] at hc
  cases hc

end Property

/-! ## Items -/

namespace Criterion

section

variable {hasScore : Bool} {item : List Char} {criterion : Criterion}

theorem splitItem_of_bare (h : item.head? ≠ some '-') : splitItem item = (.ascending, item) := by
  unfold splitItem
  split
  · exact absurd rfl h
  · rfl

theorem Asks.splitItem_trimList (h : Asks hasScore item criterion) :
    ∃ name, splitItem (Text.trimList item) = (criterion.direction, name) ∧ criterion.property.IsNamed name := by
  obtain ⟨-, blanks, name, rfl, hblanks, hname⟩ := h
  have hbare : Text.trimList (blanks ++ name) = name := by
    have hbetween := Text.trimList_between hblanks (List.forall_mem_nil _) name
    rwa [List.append_nil, Text.trimList_of_no_blank hname.isBlank] at hbetween
  refine ⟨name, ?_, hname⟩
  cases criterion.direction with
  | ascending =>
    have hhead : name.head? ≠ some '-' := fun hh => hname.not_mem (by decide) (List.mem_of_mem_head? hh)
    rw [Direction.mark, List.nil_append, hbare, splitItem_of_bare hhead]
  | descending =>
    have hend : Text.trimEnd name = name := Text.trimEnd_of_trimList (Text.trimList_of_no_blank hname.isBlank)
    have hself : Text.trimList ('-' :: (blanks ++ name)) = '-' :: (blanks ++ name) :=
      (Text.trimEnd_append_eq_self_iff hname.ne_nil ('-' :: blanks)).mpr hend
    rw [Direction.mark, List.append_assoc, List.singleton_append, hself, splitItem, hbare]

theorem Asks.ofItem_trimList (h : Asks hasScore item criterion) :
    ofItem hasScore (Text.trimList item) = .ok criterion := by
  obtain ⟨name, hsplit, hname⟩ := h.splitItem_trimList
  have hread : Property.ofName? hasScore name = some criterion.property := Property.ofName?_eq_some_iff.mpr ⟨h.1, hname⟩
  simp [ofItem, hsplit, hname.ne_nil, hread]

/-- There are no commas in a spelling. -/
theorem Asks.commaItems_eq (h : Asks hasScore item criterion) : Text.commaItems item = [Text.trimList item] := by
  apply Text.commaItems_of_no_comma
  · intro he
    obtain ⟨name, hsplit, hname⟩ := h.splitItem_trimList
    rw [he] at hsplit
    exact hname.ne_nil (Prod.mk.inj hsplit).2.symm
  · obtain ⟨-, blanks, name, rfl, hblanks, hname⟩ := h
    have hblank : ',' ∉ blanks := fun hc => absurd (hblanks _ hc) (by decide)
    have hmark : ',' ∉ criterion.direction.mark := by cases criterion.direction <;> decide
    simp [hblank, hmark, hname.not_mem (c := ',') (by decide)]

theorem asks_of_ofItem (ht : Text.trimList item = item) (h : ofItem hasScore item = .ok criterion) :
    Asks hasScore item criterion := by
  unfold ofItem at h
  split at h
  next direction name hsplit =>
  split at h
  · cases h
  · next hne =>
    split at h
    · next property hp =>
      cases h
      obtain ⟨hfits, hname⟩ := Property.ofName?_eq_some_iff.mp hp
      refine ⟨hfits, ?_⟩
      unfold splitItem at hsplit
      split at hsplit
      · next rest =>
        cases hsplit
        -- what is left of the rest is behind its first blanks, for at its end there are none
        have hrest : rest.takeWhile Text.isBlank ++ Text.trimStart rest = rest := List.takeWhile_append_dropWhile
        have hstart : Text.trimStart rest ≠ [] := by
          intro he
          rw [Text.trimList, he] at hne
          exact hne rfl
        have hend := Text.trimEnd_of_trimList ht
        rw [← hrest, ← List.cons_append, Text.trimEnd_append_eq_self_iff hstart] at hend
        refine ⟨rest.takeWhile Text.isBlank, Text.trimStart rest, ?_, fun c hc => List.mem_takeWhile_imp hc, ?_⟩
        · rw [Direction.mark, List.append_assoc, hrest]
          rfl
        · rwa [Text.trimList, hend] at hname
      · cases hsplit
        exact ⟨[], item, rfl, List.forall_mem_nil _, hname⟩
    · cases h

theorem ofItem_eq_ok_iff (ht : Text.trimList item = item) : ofItem hasScore item = .ok criterion ↔ Asks hasScore item criterion := by
  refine ⟨asks_of_ofItem ht, fun h => ?_⟩
  have hread := h.ofItem_trimList
  rwa [ht] at hread

theorem ofItem_eq_error {failure : Failure} (h : ofItem hasScore item = .error failure) :
    ∃ part, IsPropertyPart item part ∧
      failure = if part = [] then .sortWithoutProperty (.ofList item) else .unknownSortProperty (.ofList part) := by
  have hpart : IsPropertyPart item (splitItem item).2 := by
    unfold splitItem
    split
    · exact .behindMark _
    · next hbare => exact .whole fun hh => (List.head?_eq_some_iff.mp hh).elim hbare
  refine ⟨_, hpart, ?_⟩
  unfold ofItem at h
  dsimp only at h
  split at h
  · next hempty =>
    cases h
    rw [if_pos (List.isEmpty_iff.mp hempty)]
  · next hempty =>
    split at h
    · cases h
    · cases h
      rw [if_neg (by simpa using hempty)]

end

/-! ## Texts -/

section

variable {hasScore : Bool} {text : String} {criteria : List Criterion} {spellings : List (List Char)}

theorem parseList_eq (h : Text.isBlankText text = false) :
    parseList hasScore (some text) = (Text.commaItems text.toList).mapM (ofItem hasScore) := by
  rw [parseList, h, if_neg Bool.false_ne_true]

/-- Items are trimmed, so each is read as what it asks for. -/
theorem ofItem_eq_ok_iff_of_mem {cs item : List Char} (h : item ∈ Text.commaItems cs) {criterion : Criterion} :
    ofItem hasScore item = .ok criterion ↔ Asks hasScore item criterion :=
  ofItem_eq_ok_iff (Text.trimList_of_mem_commaItems h).1

theorem parseList_eq_ok_iff (h : Text.isBlankText text = false) :
    parseList hasScore (some text) = .ok criteria ↔
      List.Forall₂ (Asks hasScore) (Text.commaItems text.toList) criteria := by
  have hitems : ∀ item ∈ Text.commaItems text.toList, ∀ criterion,
      ofItem hasScore item = .ok criterion ↔ Asks hasScore item criterion := fun _ hm _ => ofItem_eq_ok_iff_of_mem hm
  rw [parseList_eq h, mapM_eq_ok]
  generalize Text.commaItems text.toList = items at hitems
  induction items generalizing criteria with
  | nil => simp
  | cons item items ih =>
    obtain ⟨hitem, hrest⟩ := List.forall_mem_cons.mp hitems
    simp only [List.forall₂_cons_left_iff, hitem, ih hrest]

theorem exists_parseList_iff (h : Text.isBlankText text = false) :
    (∃ criteria, parseList hasScore (some text) = .ok criteria) ↔
      ∀ token ∈ Text.commaItems text.toList, ∃ criterion, Asks hasScore token criterion := by
  rw [parseList_eq h, exists_mapM_iff]
  exact forall₂_congr fun token hm => exists_congr fun _ => ofItem_eq_ok_iff_of_mem hm

theorem blames_of_parseList {failure : Failure} (h : Text.isBlankText text = false)
    (hanswer : parseList hasScore (some text) = .error failure) :
    Blames hasScore (Text.commaItems text.toList) failure := by
  rw [parseList_eq h] at hanswer
  obtain ⟨before, item, after, happ, hbefore, hitem⟩ := exists_of_mapM_eq_error hanswer
  obtain ⟨part, hpart, hfailure⟩ := ofItem_eq_error hitem
  have hmem : ∀ i ∈ before ++ item :: after, i ∈ Text.commaItems text.toList := fun i hi => happ ▸ hi
  refine ⟨before, item, after, part, happ, fun earlier he => ?_, ?_, hpart, ?_, ?_⟩
  · obtain ⟨criterion, hok⟩ := hbefore earlier he
    exact ⟨criterion, (ofItem_eq_ok_iff_of_mem (hmem _ (List.mem_append_left _ he))).mp hok⟩
  · rintro ⟨criterion, hasks⟩
    rw [← ofItem_eq_ok_iff_of_mem (hmem _ (by simp)), hitem] at hasks
    cases hasks
  all_goals
    rw [hfailure]
    split <;> rfl

theorem commaItems_listed (h : List.Forall₂ (Asks hasScore) spellings criteria) :
    Text.commaItems (listed spellings).toList = spellings.map Text.trimList := by
  rw [listed, String.toList_ofList, Text.commaItems_intercalate (List.forall_mem_nil _)]
  induction h with
  | nil => rfl
  | cons hasks _ ih => rw [List.flatMap_cons, hasks.commaItems_eq, ih, List.singleton_append, List.map_cons]

/-- However criteria are spelled, they are read. -/
theorem parseList_listed (hne : criteria ≠ []) (h : List.Forall₂ (Asks hasScore) spellings criteria) :
    parseList hasScore (some (listed spellings)) = .ok criteria := by
  have hitems := commaItems_listed h
  have hblank : Text.isBlankText (listed spellings) = false := by
    rw [Bool.eq_false_iff]
    intro hb
    rw [Text.commaItems_of_blank (List.all_eq_true.mp hb), eq_comm, List.map_eq_nil_iff] at hitems
    rw [hitems, List.forall₂_nil_left_iff] at h
    exact hne h
  rw [parseList_eq hblank, hitems, mapM_eq_ok, List.forall₂_map_left_iff]
  exact h.imp fun _ _ hasks => hasks.ofItem_trimList

theorem asks_write {criterion : Criterion} (h : criterion.property.fits hasScore = true) :
    Asks hasScore criterion.write criterion :=
  ⟨h, [], criterion.property.clientName.toList, by rw [write, List.append_nil], List.forall_mem_nil _, rfl⟩

end

end Criterion

theorem sort_texts_follow_the_grammar (hasScore : Bool) :
    (∀ raw : Option String, (∀ text, raw = some text → Text.isBlankText text = true) →
      Criterion.parseList hasScore raw = .ok [⟨.score hasScore, .descending⟩, ⟨.updated, .descending⟩]) ∧
      (∀ text : String, Text.isBlankText text = false →
        let tokens := Text.commaItems text.toList
        let answer := Criterion.parseList hasScore (some text)
        ((∃ criteria, answer = .ok criteria) ↔ ∀ token ∈ tokens, ∃ criterion, Criterion.Asks hasScore token criterion) ∧
          (∀ criteria, answer = .ok criteria ↔ List.Forall₂ (Criterion.Asks hasScore) tokens criteria) ∧
          ((¬ ∀ token ∈ tokens, ∃ criterion, Criterion.Asks hasScore token criterion) →
            ∃ failure, answer = .error failure ∧ Criterion.Blames hasScore tokens failure)) ∧
      (∀ (criteria : List Criterion) (spellings : List (List Char)), criteria ≠ [] →
        List.Forall₂ (Criterion.Asks hasScore) spellings criteria →
        Criterion.parseList hasScore (some (Criterion.listed spellings)) = .ok criteria) ∧
      ∀ criteria : List Criterion, criteria ≠ [] → (∀ criterion ∈ criteria, criterion.property.fits hasScore = true) →
        Criterion.parseList hasScore (some (Criterion.listed (criteria.map Criterion.write))) = .ok criteria := by
  refine ⟨fun raw hraw => ?_, fun text hblank => ?_, ?_, fun criteria hne hfits => ?_⟩
  · cases raw with
    | none => rfl
    | some text => exact if_pos (hraw text rfl)
  · have haccepted : (∃ criteria, Criterion.parseList hasScore (some text) = .ok criteria) ↔ _ :=
      Criterion.exists_parseList_iff hblank
    refine ⟨haccepted, fun criteria => Criterion.parseList_eq_ok_iff hblank, fun hbad => ?_⟩
    cases hanswer : Criterion.parseList hasScore (some text) with
    | ok criteria => exact absurd (haccepted.mp ⟨criteria, hanswer⟩) hbad
    | error failure => exact ⟨failure, rfl, Criterion.blames_of_parseList hblank hanswer⟩
  · exact fun criteria spellings hne h => Criterion.parseList_listed hne h
  · apply Criterion.parseList_listed hne
    rw [List.forall₂_map_left_iff, List.forall₂_same]
    exact fun criterion hm => Criterion.asks_write (hfits criterion hm)

/-- A text in mixed case with an empty item, one with two marks in a row, and criteria in their plain spelling. -/
theorem best_and_newest_first :
    let best : Criterion := ⟨.rank, .descending⟩
    let newest : Criterion := ⟨.created, .descending⟩
    (∀ text, none = some text → Text.isBlankText text = true) ∧
      Criterion.parseList true none = .ok [best, ⟨.updated, .descending⟩] ∧
      Text.isBlankText "-Score,, -  createdat" = false ∧
      List.Forall₂ (Criterion.Asks true) (Text.commaItems "-Score,, -  createdat".toList) [best, newest] ∧
      Criterion.parseList true (some "-Score,, -  createdat") = .ok [best, newest] ∧
      Text.isBlankText "title,--price,-" = false ∧
      (∃ failure, Criterion.parseList true (some "title,--price,-") = .error failure ∧
        Criterion.Blames true (Text.commaItems "title,--price,-".toList) failure) ∧
      (∀ criterion ∈ [best, newest], criterion.property.fits true = true) ∧
      Criterion.parseList true (some (Criterion.listed ["- score".toList, "-CREATEDAT".toList])) = .ok [best, newest] ∧
      Criterion.parseList true (some (Criterion.listed ([best, newest].map Criterion.write))) = .ok [best, newest] := by
  intro best newest
  obtain ⟨husual, htext, hspelled, hwritten⟩ := sort_texts_follow_the_grammar true
  have hnone : ∀ text, none = some text → Text.isBlankText text = true := fun _ h => nomatch h
  have hgood : Text.isBlankText "-Score,, -  createdat" = false := by decide
  have hbad : Text.isBlankText "title,--price,-" = false := by decide
  have hitems : Text.commaItems "-Score,, -  createdat".toList = ["-Score".toList, "-  createdat".toList] := by decide
  have hasks : List.Forall₂ (Criterion.Asks true) (Text.commaItems "-Score,, -  createdat".toList) [best, newest] := by
    rw [hitems]
    exact .cons ⟨rfl, [], "Score".toList, rfl, List.forall_mem_nil _, by decide⟩
      (.cons ⟨rfl, [' ', ' '], "createdat".toList, rfl, List.all_eq_true.mp (by decide), by decide⟩ .nil)
  have hrefused : ¬ ∀ token ∈ Text.commaItems "title,--price,-".toList, ∃ criterion, Criterion.Asks true token criterion := by
    intro hall
    obtain ⟨criterion, h⟩ := hall "--price".toList (by decide)
    cases h.ofItem_trimList
  have hfits : ∀ criterion ∈ [best, newest], criterion.property.fits true = true := by decide
  have hspellings : List.Forall₂ (Criterion.Asks true) ["- score".toList, "-CREATEDAT".toList] [best, newest] :=
    .cons ⟨rfl, [' '], "score".toList, rfl, List.all_eq_true.mp (by decide), by decide⟩
      (.cons ⟨rfl, [], "CREATEDAT".toList, rfl, List.forall_mem_nil _, by decide⟩ .nil)
  exact ⟨hnone, husual none hnone, hgood, hasks, ((htext _ hgood).2.1 _).mpr hasks, hbad, (htext _ hbad).2.2 hrefused, hfits,
    hspelled _ _ (by decide) hspellings, hwritten _ (by decide) hfits⟩

end Bookshop.Search
