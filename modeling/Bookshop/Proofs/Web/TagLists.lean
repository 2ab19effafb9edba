/-
  Bookshop.Proofs.Web.TagLists — headers that list several tags.

  All that is read from a header is read from its items. Two headers with a comma between them have the items of
  the first and then those of the second (`EntityTag.allItems_append`), and so it is with the lines of a request that
  can be read. However the items are divided among them, they come to the same (`tag_lists_are_read_item_by_item`).

  A line with a character that is not ASCII is left out with all its items (`isHeaderText`):
  `an_unreadable_tag_hides_its_line` sends a tag behind such an item, and in a line of its own.
-/

import Bookshop.Proofs.Web.Requests
import Bookshop.Proofs.Text.Numerals
import Bookshop.Proofs.Text.Splitting

namespace Bookshop

namespace EntityTag

/-! ## Two lists in one header -/

/-- The items of a header, if there is one. All that is read from a header comes from them. -/
def allItems (header : Option String) : List (List Char) := header.toList.flatMap items

theorem isMatchedBy_eq (tag : EntityTag) (header : Option String) :
    tag.isMatchedBy header = ((allItems header).map candidate).any (fun c => c == wildcard || c == tag.text.toList) := by
  cases header with
  | none => rfl
  | some h => simp only [allItems, Option.toList_some, List.flatMap_singleton, isMatchedBy, candidates, items]

theorem isListedBy_eq (tag : EntityTag) (header : Option String) :
    tag.isListedBy header = ((allItems header).map candidate).any (· == tag.text.toList) := by
  cases header with
  | none => rfl
  | some h => simp only [allItems, Option.toList_some, List.flatMap_singleton, isListedBy, candidates, items]

theorem assertedVersion?_eq_allItems (header : Option String) (id : Uuid) :
    assertedVersion? header id =
      (((allItems header).map candidate).filter (· != wildcard)).findSome? (versionIn? id) := by
  cases header with
  | none => rfl
  | some h => simp only [allItems, Option.toList_some, List.flatMap_singleton, assertedVersion?, candidates, items]

theorem items_intercalate (lines : List String) : items (", ".intercalate lines) = lines.flatMap items := by
  have hgap : ∀ c ∈ [' '], Text.isBlank c = true := List.all_eq_true.mp (by decide)
  have hlist : (", ".intercalate lines).toList = [',', ' '].intercalate (lines.map String.toList) :=
    String.toList_intercalate
  rw [items, hlist, Text.commaItems_intercalate hgap, List.flatMap_map]
  rfl

section

variable (h₁ h₂ : String)

theorem allItems_append : allItems (some (h₁ ++ ", " ++ h₂)) = allItems (some h₁) ++ allItems (some h₂) := by
  have h := items_intercalate [h₁, h₂]
  simpa [allItems, String.intercalate_cons_cons] using h

theorem isMatchedBy_append (tag : EntityTag) : tag.isMatchedBy (some (h₁ ++ ", " ++ h₂)) =
    (tag.isMatchedBy (some h₁) || tag.isMatchedBy (some h₂)) := by
  rw [isMatchedBy_eq, allItems_append, List.map_append, List.any_append, ← isMatchedBy_eq, ← isMatchedBy_eq]

theorem isListedBy_append (tag : EntityTag) : tag.isListedBy (some (h₁ ++ ", " ++ h₂)) =
    (tag.isListedBy (some h₁) || tag.isListedBy (some h₂)) := by
  rw [isListedBy_eq, allItems_append, List.map_append, List.any_append, ← isListedBy_eq, ← isListedBy_eq]

theorem assertedVersion?_append (id : Uuid) : assertedVersion? (some (h₁ ++ ", " ++ h₂)) id =
    (assertedVersion? (some h₁) id).or (assertedVersion? (some h₂) id) := by
  rw [assertedVersion?_eq_allItems, allItems_append, List.map_append, List.filter_append, List.findSome?_append,
    ← assertedVersion?_eq_allItems, ← assertedVersion?_eq_allItems]

end

theorem isMatchedBy_iff_isListedBy {tag : EntityTag} (ht : tag.text.toList ≠ wildcard) (header : String) :
    tag.isMatchedBy (some header) = true ↔ tag.isListedBy (some header) = true ∨
      ∃ piece ∈ Text.splitWhere (· == ',') header.toList, Text.trimList piece = wildcard := by
  have hwild : wildcard ∈ items header ↔
      ∃ piece ∈ Text.splitWhere (· == ',') header.toList, Text.trimList piece = wildcard := by
    rw [items, Text.commaItems, List.mem_filter, List.mem_map]
    exact and_iff_left rfl
  rw [isMatchedBy_iff, isListedBy_iff ht, ← hwild]
  constructor
  · rintro ⟨item, hitem, rfl | hstands⟩
    · exact .inr hitem
    · exact .inl ⟨item, hitem, hstands⟩
  · rintro (⟨item, hitem, hstands⟩ | hitem)
    · exact ⟨item, hitem, .inr hstands⟩
    · exact ⟨wildcard, hitem, .inl rfl⟩

/-! ## Tags that tell their version -/

/-- A way to write the tag `"<text>"` in a header: with a mark of a weak tag or without, in quotes or bare. -/
def spell (weak quoted : Bool) (text : List Char) : List Char :=
  (if weak then ['W', '/'] else []) ++ if quoted then enquote text else text

theorem standsFor_spell {text : List Char} (hs : text ≠ wildcard) (hq : text.head? ≠ some '"')
    (hw : ¬ ['W', '/'] <+: text) (weak quoted : Bool) : StandsFor (spell weak quoted text) (enquote text) := by
  cases weak <;> cases quoted
  · exact .bare hs hq hw
  · exact .quoted _
  · exact .weakBare hq
  · exact .weak _

variable {id id' : Uuid} {n : Int}

/-- An identifier begins with a digit of the lower case, and so does what a digest is taken of. -/
theorem standsFor_spell_subject (id : Uuid) (n : Int) (weak quoted : Bool) :
    StandsFor (spell weak quoted (subject id n).toList) (enquote (subject id n).toList) := by
  have hfirst : ∀ c, (subject id n).toList.head? = some c → c ≠ 'W' ∧ c ≠ '*' ∧ c ≠ '"' := by
    intro c hc
    rw [toList_subject] at hc
    exact Uuid.of_head?_write_append (p := fun c => c ≠ 'W' ∧ c ≠ '*' ∧ c ≠ '"') (by decide) (by decide) hc
  refine standsFor_spell ?_ ?_ ?_ weak quoted
  · intro h
    exact (hfirst '*' (by rw [h]; rfl)).2.1 rfl
  · intro h
    exact (hfirst '"' h).2.2 rfl
  · rintro ⟨rest, h⟩
    exact (hfirst 'W' (by rw [← h]; rfl)).1 rfl

theorem asserts_spell_iff (hlow : -0x8000000000000000 ≤ n) (hhigh : n < 0x8000000000000000) (weak quoted : Bool) {m : Int} :
    Asserts (spell weak quoted (subject id n).toList) id' m ↔ id' = id ∧ m = n := by
  have hstands := standsFor_spell_subject id n weak quoted
  have hread := Text.readSigned?_toString hlow hhigh
  constructor
  · rintro ⟨digits, hstands', hdigits⟩
    have hcand := (standsFor_iff.mp hstands).2.symm.trans (standsFor_iff.mp hstands').2
    have htext := congrArg unquote hcand
    rw [unquote_enquote, unquote_enquote, toList_subject] at htext
    obtain ⟨rfl, rfl⟩ := write_append_inj htext
    exact ⟨rfl, Option.some.inj (hdigits.symm.trans hread)⟩
  · rintro ⟨rfl, rfl⟩
    rw [toList_subject] at hstands ⊢
    exact ⟨_, hstands, hread⟩

theorem plain_of_mem_subject {c : Char} (h : c ∈ (subject id n).toList) : Text.Plain c := by
  rw [toList_subject] at h
  rcases List.mem_append.mp h with h | h
  · exact id.forall_mem_write (p := Text.Plain) (by decide) (by decide) c h
  · rcases List.mem_cons.mp h with rfl | h
    · decide
    · rcases Text.of_mem_toString h with rfl | hdigit
      · decide
      · refine ⟨?_, Text.isBlank_of_isDigit hdigit⟩
        rintro rfl
        exact absurd hdigit (by decide)

theorem plain_of_mem_spell {weak quoted : Bool} {text : List Char} (h : ∀ c ∈ text, Text.Plain c) :
    ∀ c ∈ spell weak quoted text, Text.Plain c := by
  rw [spell, List.forall_mem_append]
  constructor
  · cases weak with
    | false => exact List.forall_mem_nil _
    | true => exact List.forall_mem_cons.mpr ⟨by decide, List.forall_mem_singleton.mpr (by decide)⟩
  · cases quoted with
    | false => exact h
    | true => exact forall_mem_enquote (by decide) h

theorem assertedVersion?_spell (hlow : -0x8000000000000000 ≤ n) (hhigh : n < 0x8000000000000000) (weak quoted : Bool)
    {before after : List Char} (hb : ∀ c ∈ before, Text.isBlank c = true) (ha : ∀ c ∈ after, Text.isBlank c = true) :
    assertedVersion? (some (String.ofList (before ++ spell weak quoted (subject id n).toList ++ after))) id' =
      if id' = id then some n else none := by
  have htext : (subject id n).toList ≠ [] := by simp [toList_subject]
  have hne : spell weak quoted (subject id n).toList ≠ [] := by
    cases weak <;> cases quoted <;> simp [spell, enquote, htext]
  have hitems := Text.commaItems_between hne (plain_of_mem_spell fun c => plain_of_mem_subject) hb ha
  refine Option.ext fun m => ?_
  rw [assertedVersion?_eq, items, String.toList_ofList, hitems, List.findSome?_singleton, ← asserts_iff,
    asserts_spell_iff hlow hhigh]
  split
  · next hid => simp [hid, eq_comm]
  · next hid => simp [hid]

end EntityTag

/-! ## Preconditions -/

namespace Preconditions

open EntityTag

variable {α : Type} [Storable α] {p p' : Preconditions}

theorem exists_header (h : allItems p.ifMatch ≠ []) :
    ∃ header, p.ifMatch = some header ∧ Text.isBlankText header = false := by
  cases hp : p.ifMatch with
  | none => exact absurd (by rw [hp]; rfl) h
  | some header =>
    refine ⟨header, rfl, Bool.eq_false_iff.mpr fun hb => h ?_⟩
    rw [hp, allItems, Option.toList_some, List.flatMap_singleton, items_of_blank hb]

theorem gateVersion_congr (h : allItems p.ifMatch = allItems p'.ifMatch) (hne : allItems p.ifMatch ≠ []) (row : Stored α) :
    p.gateVersion row = p'.gateVersion row := by
  obtain ⟨header, hp, hb⟩ := exists_header hne
  obtain ⟨header', hp', hb'⟩ := exists_header (h ▸ hne)
  rw [gateVersion_eq hp hb, gateVersion_eq hp' hb', ← hp, ← hp', isMatchedBy_eq, isListedBy_eq,
    assertedVersion?_eq_allItems, h, ← isMatchedBy_eq, ← isListedBy_eq, ← assertedVersion?_eq_allItems]

theorem exists_gateVersion_eq_error (h : allItems p.ifMatch = []) (row : Stored α) : ∃ f, p.gateVersion row = .error f := by
  by_cases hheader : p.HasIfMatch
  · obtain ⟨header, hp, hb⟩ := hheader
    refine ⟨_, (gateVersion_eq hp hb row).trans (if_neg ?_)⟩
    rw [← hp, isMatchedBy_eq, h]
    exact Bool.false_ne_true
  · exact ⟨_, gateVersion_of_absent hheader row⟩

theorem alreadyHas_congr (h : allItems p.ifNoneMatch = allItems p'.ifNoneMatch) (tag : EntityTag) :
    p.alreadyHas tag = p'.alreadyHas tag := by
  rw [alreadyHas, alreadyHas, isMatchedBy_eq, h, ← isMatchedBy_eq]

end Preconditions

/-! ## Lines of a request -/

namespace Web

open EntityTag

/-- The lines of a header, in their order. -/
def Request.lines (request : Request) (name : String) : List String :=
  (request.headers.filter (fun h => Text.lowerAscii h.1 == name)).map (·.2)

/-- The items that a request lists under a name, in the lines that can be read. -/
def Request.listed (request : Request) (name : String) : List (List Char) :=
  ((request.lines name).filter isHeaderText).flatMap items

variable {request request' : Request} {name : String}

theorem Request.header?_eq_lines (request : Request) (name : String) :
    request.header? name = if (request.lines name).filter isHeaderText = [] then none
      else some (", ".intercalate ((request.lines name).filter isHeaderText)) := by
  have hvalues : (request.headers.filter (fun h => Text.lowerAscii h.1 == name && isHeaderText h.2)).map (·.2) =
      (request.lines name).filter isHeaderText := by
    rw [Request.lines, List.filter_map, List.filter_filter]
    simp only [Function.comp_apply, Bool.and_comm]
  rw [Request.header?, hvalues]
  cases (request.lines name).filter isHeaderText <;> rfl

theorem Request.header?_of_readable (h : ∀ line ∈ request.lines name, isHeaderText line = true) :
    request.header? name = if request.lines name = [] then none else some (", ".intercalate (request.lines name)) := by
  rw [Request.header?_eq_lines, List.filter_eq_self.mpr h]

theorem Request.allItems_header? (request : Request) (name : String) :
    allItems (request.header? name) = request.listed name := by
  rw [Request.header?_eq_lines, Request.listed]
  split
  · next hnil => rw [hnil]; rfl
  · rw [allItems, Option.toList_some, List.flatMap_singleton, items_intercalate]

theorem isHeaderText_append (a b : String) : isHeaderText (a ++ b) = (isHeaderText a && isHeaderText b) := by
  rw [isHeaderText, String.toList_append, List.all_append]
  rfl

theorem isHeaderText_intercalate {lines : List String} (h : ∀ line ∈ lines, isHeaderText line = true) :
    isHeaderText (", ".intercalate lines) = true := by
  induction lines with
  | nil => rfl
  | cons line lines ih =>
    obtain ⟨hline, hlines⟩ := List.forall_mem_cons.mp h
    cases lines with
    | nil => simpa using hline
    | cons next lines =>
      have hcomma : isHeaderText ", " = true := by decide
      rw [String.intercalate_cons_cons, isHeaderText_append, isHeaderText_append, hline, hcomma, ih hlines]
      rfl

theorem Request.header?_at_once (h : ∀ line ∈ request.lines name, isHeaderText line = true)
    (hne : request.lines name ≠ []) (honce : request'.lines name = [", ".intercalate (request.lines name)]) :
    request'.header? name = request.header? name := by
  have hline : ∀ line ∈ request'.lines name, isHeaderText line = true := by
    rw [honce, List.forall_mem_singleton]
    exact isHeaderText_intercalate h
  rw [header?_of_readable hline, header?_of_readable h, honce, if_neg hne, if_neg (List.cons_ne_nil _ _),
    String.intercalate_singleton]

/-! ## Requests with several lines -/

/-- A request that sends these lines both as `If-Match` and as `If-None-Match`. -/
def sending (lines : List String) : Request :=
  ⟨"PATCH", "/api/books/2", lines.flatMap fun line => [("If-Match", line), ("If-None-Match", line)], ""⟩

theorem lines_sending (lines : List String) :
    (sending lines).lines "if-match" = lines ∧ (sending lines).lines "if-none-match" = lines := by
  have hmatch : Text.lowerAscii "If-Match" = "if-match" := by decide
  have hnone : Text.lowerAscii "If-None-Match" = "if-none-match" := by decide
  induction lines with
  | nil => exact ⟨rfl, rfl⟩
  | cons line lines ih =>
    simp only [Request.lines, sending] at ih
    simp [Request.lines, sending, hmatch, hnone, ih.1, ih.2]

theorem listed_sending {lines : List String} (h : ∀ line ∈ lines, isHeaderText line = true) :
    (sending lines).listed "if-match" = lines.flatMap items ∧
      (sending lines).listed "if-none-match" = lines.flatMap items := by
  obtain ⟨hmatch, hnone⟩ := lines_sending lines
  rw [Request.listed, Request.listed, hmatch, hnone, List.filter_eq_self.mpr h]
  exact ⟨rfl, rfl⟩

/-- Two headers are read as if their lists stood in one. -/
structure ReadInTurn (h₁ h₂ : String) (tag : EntityTag) (id : Uuid) : Prop where
  matched : tag.isMatchedBy (some (h₁ ++ ", " ++ h₂)) = (tag.isMatchedBy (some h₁) || tag.isMatchedBy (some h₂))
  listed : tag.isListedBy (some (h₁ ++ ", " ++ h₂)) = (tag.isListedBy (some h₁) || tag.isListedBy (some h₂))
  asserted : assertedVersion? (some (h₁ ++ ", " ++ h₂)) id =
    (assertedVersion? (some h₁) id).or (assertedVersion? (some h₂) id)

/-- What the tags of a row tell: each names itself, and only one that is put together from the version tells it,
however it is written. -/
structure TagsTell (id : Uuid) : Prop where
  matched : ∀ (header : String) (v : Int), (generate id v).isMatchedBy (some header) = true ↔
    (generate id v).isListedBy (some header) = true ∨
      ∃ piece ∈ Text.splitWhere (· == ',') header.toList, Text.trimList piece = wildcard
  spelled : ∀ (id' : Uuid) (n : Int), -0x8000000000000000 ≤ n → n < 0x8000000000000000 → ∀ (weak quoted : Bool)
    (before after : List Char), (∀ c ∈ before, Text.isBlank c = true) → (∀ c ∈ after, Text.isBlank c = true) →
    assertedVersion? (some (String.ofList (before ++ spell weak quoted (subject id n).toList ++ after))) id' =
      if id' = id then some n else none
  digest : ∀ (id' : Uuid) (v : Int), assertedVersion? (some (generate id v).text) id' = none

/-- Two requests are taken alike as far as their readable lines have the same items. -/
structure TakenAlike (request request' : Request) : Prop where
  /-- Where there are no items, both are refused, though maybe for different reasons. -/
  gate : request.listed "if-match" = request'.listed "if-match" → ∀ (α : Type) [Storable α] (row : Stored α),
    (request.preconditions.gateVersion row).toOption = (request'.preconditions.gateVersion row).toOption ∧
    (request.listed "if-match" ≠ [] →
      request.preconditions.gateVersion row = request'.preconditions.gateVersion row)
  has : request.listed "if-none-match" = request'.listed "if-none-match" →
    ∀ tag : EntityTag, request.preconditions.alreadyHas tag = request'.preconditions.alreadyHas tag
  /-- Lines that are put together by the client make no difference at all. -/
  atOnce : ∀ name : String, (∀ line ∈ request.lines name, isHeaderText line = true) → request.lines name ≠ [] →
    request'.lines name = [", ".intercalate (request.lines name)] → request'.header? name = request.header? name

theorem taken_alike (request request' : Request) : TakenAlike request request' where
  gate := by
    intro h α _ row
    have hitems : allItems request.preconditions.ifMatch = request.listed "if-match" := request.allItems_header? _
    have hitems' : allItems request'.preconditions.ifMatch = request.listed "if-match" :=
      (request'.allItems_header? _).trans h.symm
    have hsame : request.listed "if-match" ≠ [] →
        request.preconditions.gateVersion row = request'.preconditions.gateVersion row := fun hne =>
      Preconditions.gateVersion_congr (hitems.trans hitems'.symm) (hitems ▸ hne) row
    refine ⟨?_, hsame⟩
    by_cases hne : request.listed "if-match" = []
    · obtain ⟨f, hf⟩ := Preconditions.exists_gateVersion_eq_error (hitems.trans hne) row
      obtain ⟨f', hf'⟩ := Preconditions.exists_gateVersion_eq_error (hitems'.trans hne) row
      rw [hf, hf']
      rfl
    · rw [hsame hne]
  has := by
    intro h tag
    have hitems : allItems request.preconditions.ifNoneMatch = allItems request'.preconditions.ifNoneMatch :=
      (request.allItems_header? _).trans (h.trans (request'.allItems_header? _).symm)
    exact Preconditions.alreadyHas_congr hitems tag
  atOnce := fun _ h hne honce => Request.header?_at_once h hne honce

/-- For all headers, tags, rows and requests. -/
theorem tag_lists_are_read_item_by_item :
    (∀ h₁ h₂ tag id, ReadInTurn h₁ h₂ tag id) ∧ (∀ id, TagsTell id) ∧
      ∀ request request', TakenAlike request request' := by
  refine ⟨fun h₁ h₂ tag id => ?_, fun id => ?_, taken_alike⟩
  · exact ⟨isMatchedBy_append h₁ h₂ tag, isListedBy_append h₁ h₂ tag, assertedVersion?_append h₁ h₂ id⟩
  · refine ⟨fun header v => isMatchedBy_iff_isListedBy (text_generate_ne_wildcard id v) header, ?_, ?_⟩
    · intro id' n hlow hhigh weak quoted before after hb ha
      exact assertedVersion?_spell hlow hhigh weak quoted hb ha
    · exact fun id' v => assertedVersion?_tag

/-- The notes are asked for by two tags, of which the second is theirs, in two lines and in one. -/
theorem the_tag_of_the_notes_comes_second :
    let tag := notesAtFirst.tag
    let lines := [(generate notes.id 5).text, tag.text]
    let spread := sending lines
    let atOnce := sending [", ".intercalate lines]
    let spelled := [' '] ++ spell true true (subject notes.id (-0x8000000000000000)).toList ++ ['\t']
    (∀ line ∈ spread.lines "if-match", isHeaderText line = true) ∧ spread.lines "if-match" ≠ [] ∧
      atOnce.lines "if-match" = [", ".intercalate (spread.lines "if-match")] ∧
      atOnce.header? "if-match" = spread.header? "if-match" ∧
      atOnce.listed "if-match" = spread.listed "if-match" ∧ atOnce.listed "if-match" ≠ [] ∧
      atOnce.preconditions.gateVersion notesAtFirst = spread.preconditions.gateVersion notesAtFirst ∧
      atOnce.listed "if-none-match" = spread.listed "if-none-match" ∧
      atOnce.preconditions.alreadyHas tag = spread.preconditions.alreadyHas tag ∧
      tag.isMatchedBy (some ((generate notes.id 5).text ++ ", " ++ tag.text)) = true ∧
      (∀ c ∈ [' '], Text.isBlank c = true) ∧ (∀ c ∈ ['\t'], Text.isBlank c = true) ∧
      assertedVersion? (some (String.ofList spelled)) notes.id = some (-0x8000000000000000) ∧
      assertedVersion? (some (String.ofList spelled)) ada = none := by
  intro tag lines spread atOnce spelled
  obtain ⟨hturn, htell, halike⟩ := tag_lists_are_read_item_by_item
  have hlines : ∀ line ∈ lines, isHeaderText line = true :=
    List.forall_mem_cons.mpr ⟨isHeaderText_tag _ _, List.forall_mem_singleton.mpr (isHeaderText_tag _ _)⟩
  have hreadable : ∀ line ∈ spread.lines "if-match", isHeaderText line = true := by rwa [(lines_sending lines).1]
  have hsome : spread.lines "if-match" ≠ [] := by
    rw [(lines_sending lines).1]
    exact List.cons_ne_nil _ _
  have hjoined : atOnce.lines "if-match" = [", ".intercalate (spread.lines "if-match")] := by
    rw [(lines_sending lines).1, (lines_sending [", ".intercalate lines]).1]
  obtain ⟨hmatch, hnone⟩ := listed_sending hlines
  obtain ⟨hmatch', hnone'⟩ := listed_sending (List.forall_mem_singleton.mpr (isHeaderText_intercalate hlines))
  rw [List.flatMap_singleton, items_intercalate] at hmatch' hnone'
  have hlisted : atOnce.listed "if-match" ≠ [] := by
    rw [hmatch', List.flatMap_cons, items_of_tag]
    exact List.cons_ne_nil _ _
  have hspace : ∀ c ∈ [' '], Text.isBlank c = true := List.all_eq_true.mp (by decide)
  have htab : ∀ c ∈ ['\t'], Text.isBlank c = true := List.all_eq_true.mp (by decide)
  have hsame : atOnce.listed "if-match" = spread.listed "if-match" := hmatch'.trans hmatch.symm
  have hsame' : atOnce.listed "if-none-match" = spread.listed "if-none-match" := hnone'.trans hnone.symm
  refine ⟨hreadable, hsome, hjoined, (halike spread atOnce).atOnce "if-match" hreadable hsome hjoined, hsame, hlisted,
    ((halike atOnce spread).gate hsame Book notesAtFirst).2 hlisted, hsame', (halike atOnce spread).has hsame' tag, ?_,
    hspace, htab, ?_, ?_⟩
  · rw [(hturn _ _ tag ada).matched, Bool.or_eq_true]
    exact .inr (isMatchedBy_tag.mpr rfl)
  · exact (htell notes.id).spelled notes.id _ (by decide) (by decide) true true [' '] ['\t'] hspace htab
  · exact (htell notes.id).spelled ada _ (by decide) (by decide) true true [' '] ['\t'] hspace htab

/-! ## Lines that cannot be read -/

/-- A tag that is not ASCII, and beside it that of the notes. In one line neither is read; in two lines the second is. -/
theorem an_unreadable_tag_hides_its_line :
    let tag := notesAtFirst.tag
    let spread := (sending ["\"é\"", tag.text]).preconditions
    let atOnce := (sending [", ".intercalate ["\"é\"", tag.text]]).preconditions
    spread.gateVersion notesAtFirst = .ok 0 ∧ spread.alreadyHas tag = true ∧
      atOnce.gateVersion notesAtFirst = .error .ifMatchRequired ∧ atOnce.alreadyHas tag = false := by
  intro tag spread atOnce
  have hother : isHeaderText "\"é\"" = false := by decide
  have htag : isHeaderText tag.text = true := isHeaderText_tag notes.id 0
  have hboth : isHeaderText (", ".intercalate ["\"é\"", tag.text]) = false := by
    rw [String.intercalate_cons_cons, isHeaderText_append, isHeaderText_append, hother]
    rfl
  have hspread : spread = ⟨some tag.text, some tag.text⟩ := by
    simp [spread, Request.preconditions, Request.header?_eq_lines, lines_sending, hother, htag]
  have honce : atOnce = ⟨none, none⟩ := by
    simp only [atOnce, Request.preconditions, Request.header?_eq_lines, lines_sending, List.filter_cons, hboth]
    rfl
  have hgate : spread.gateVersion notesAtFirst = .ok 0 :=
    (Preconditions.gateVersion_of_tag (by rw [hspread]; rfl) notesAtFirst).trans (if_pos rfl)
  refine ⟨hgate, ?_, ?_, ?_⟩
  · rw [hspread]
    exact isMatchedBy_tag.mpr rfl
  · rw [honce]
    rfl
  · rw [honce]
    rfl

end Web

end Bookshop
