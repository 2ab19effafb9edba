/-
  Bookshop.Proofs.Catalog.IfMatch — what an `If-Match` header says of a row.

  The items of a header are told apart by what is written in them (`StandsFor`, `Asserts`), without regard to
  how they are read. `Grants` says when a header lets a write of a row through: an item names the row, and
  the version that the header asserts is that of the row. `gateVersion` settles it in three steps; what they
  come to is `gateVersion_of_header` and `gateVersion_of_absent`.
-/

import Bookshop.Preconditions
import Bookshop.Proofs.Resources.RoundTrip

namespace Bookshop

namespace EntityTag

/-! ## Items of a header -/

/-- The tag in quotes that an item stands for: it loses one mark of a weak tag, and gets quotes if it does not begin
with one. -/
inductive StandsFor : List Char → List Char → Prop
  | quoted (rest : List Char) : StandsFor ('"' :: rest) ('"' :: rest)
  | bare {item : List Char} (hs : item ≠ wildcard) (hq : item.head? ≠ some '"') (hw : ¬ ['W', '/'] <+: item) :
      StandsFor item (enquote item)
  | weak (rest : List Char) : StandsFor ('W' :: '/' :: '"' :: rest) ('"' :: rest)
  | weakBare {rest : List Char} (hq : rest.head? ≠ some '"') : StandsFor ('W' :: '/' :: rest) (enquote rest)

/-- The item is of the form `"<id>:<version>"`, up to its mark and its quotes. -/
def Asserts (item : List Char) (id : Uuid) (version : Int) : Prop :=
  ∃ digits, StandsFor item (enquote (id.write ++ ':' :: digits)) ∧ Text.readSigned? digits = some version

/-- Of the items that assert a version of `id`, the first asserts this one. -/
def FirstAsserts (items : List (List Char)) (id : Uuid) (version : Int) : Prop :=
  ∃ before item rest, items = before ++ item :: rest ∧ Asserts item id version ∧
    ∀ other ∈ before, ∀ n, ¬ Asserts other id n

theorem withoutWeakMark_eq_self {item : List Char} (h : ¬ ['W', '/'] <+: item) : withoutWeakMark item = item := by
  rw [withoutWeakMark.eq_def]
  split
  · next rest => exact absurd ⟨rest, rfl⟩ h
  · rfl

theorem candidate_of_quoted (rest : List Char) : candidate ('"' :: rest) = '"' :: rest := rfl

theorem candidate_of_bare {item : List Char} (hs : item ≠ wildcard) (hq : item.head? ≠ some '"')
    (hw : ¬ ['W', '/'] <+: item) : candidate item = enquote item := by
  rw [candidate, if_neg hs, withoutWeakMark_eq_self hw, if_neg hq]

theorem candidate_of_weak (rest : List Char) :
    candidate ('W' :: '/' :: rest) = if rest.head? = some '"' then rest else enquote rest := rfl

theorem standsFor_iff {item cand : List Char} : StandsFor item cand ↔ item ≠ wildcard ∧ candidate item = cand := by
  constructor
  · intro h
    cases h with
    | quoted rest => exact ⟨by simp [wildcard], candidate_of_quoted rest⟩
    | bare hs hq hw => exact ⟨hs, candidate_of_bare hs hq hw⟩
    | weak rest => exact ⟨by simp [wildcard], rfl⟩
    | weakBare hq => exact ⟨by simp [wildcard], by rw [candidate_of_weak, if_neg hq]⟩
  · rintro ⟨hs, rfl⟩
    by_cases hw : ['W', '/'] <+: item
    · obtain ⟨rest, rfl⟩ := hw
      rw [List.cons_append, List.cons_append, List.nil_append, candidate_of_weak]
      split
      · next hq =>
        obtain ⟨rest, rfl⟩ := List.head?_eq_some_iff.mp hq
        exact .weak rest
      · next hq => exact .weakBare hq
    · by_cases hq : item.head? = some '"'
      · obtain ⟨rest, rfl⟩ := List.head?_eq_some_iff.mp hq
        exact .quoted rest
      · rw [candidate_of_bare hs hq hw]
        exact .bare hs hq hw

theorem StandsFor.head? {item cand : List Char} (h : StandsFor item cand) : cand.head? = some '"' := by
  cases h <;> rfl

theorem candidate_eq_wildcard_iff {item : List Char} : candidate item = wildcard ↔ item = wildcard := by
  refine ⟨fun h => ?_, fun h => by rw [h, candidate, if_pos rfl]⟩
  by_contra hs
  have hq := (standsFor_iff.mpr ⟨hs, h⟩).head?
  revert hq
  decide

/-! ## Versions in a tag -/

theorem unquote_enquote (cs : List Char) : unquote (enquote cs) = cs := by
  rw [unquote, if_pos ⟨by simp [enquote], rfl, List.getLast?_concat⟩]
  simp [enquote]

theorem forall_mem_enquote {p : Char → Prop} (hq : p '"') {cs : List Char} (h : ∀ c ∈ cs, p c) : ∀ c ∈ enquote cs, p c := by
  rw [enquote, List.cons_append, List.forall_mem_cons, List.forall_mem_append, List.forall_mem_singleton]
  exact ⟨hq, h, hq⟩

theorem eq_enquote_of_unquote {cand cs : List Char} (hc : cand.head? = some '"') (hcs : cs.head? ≠ some '"')
    (h : unquote cand = cs) : cand = enquote cs := by
  unfold unquote at h
  split at h
  · next hu =>
    obtain ⟨hlen, -, hlast⟩ := hu
    obtain ⟨rest, rfl⟩ := List.head?_eq_some_iff.mp hc
    cases rest with
    | nil => simp at hlen
    | cons c rest =>
      rw [List.getLast?_cons_cons] at hlast
      rw [enquote, ← h, List.tail_cons, List.cons_append, List.dropLast_append_getLast? _ hlast]
  · exact absurd (h ▸ hc) hcs

theorem head?_write_append (id : Uuid) (rest : List Char) : (id.write ++ rest).head? ≠ some '"' := fun h =>
  Uuid.of_head?_write_append (p := (· ≠ '"')) (by decide) (by decide) h rfl

theorem versionIn?_eq_some_iff {cand : List Char} (hc : cand.head? = some '"') {id : Uuid} {n : Int} :
    versionIn? id cand = some n ↔
      ∃ digits, cand = enquote (id.write ++ ':' :: digits) ∧ Text.readSigned? digits = some n := by
  simp only [versionIn?, Option.bind_eq_bind, Option.bind_eq_some_iff, List.isPrefixOf?_eq_some_iff_append_eq,
    List.append_assoc, List.cons_append, List.nil_append]
  refine exists_congr fun digits => and_congr_left fun _ => ⟨fun h => ?_, fun h => ?_⟩
  · exact eq_enquote_of_unquote hc (head?_write_append id _) h.symm
  · rw [h, unquote_enquote]

theorem versionIn?_candidate {item : List Char} (hs : item ≠ wildcard) {id : Uuid} {n : Int} :
    versionIn? id (candidate item) = some n ↔ Asserts item id n := by
  rw [versionIn?_eq_some_iff (standsFor_iff.mpr ⟨hs, rfl⟩).head?, Asserts]
  simp only [standsFor_iff, hs, ne_eq, not_false_eq_true, true_and]

/-! ## Headers -/

def items (header : String) : List (List Char) := Text.commaItems header.toList

theorem isMatchedBy_iff {tag : EntityTag} {header : String} :
    tag.isMatchedBy (some header) = true ↔
      ∃ item ∈ items header, item = wildcard ∨ StandsFor item tag.text.toList := by
  simp only [isMatchedBy, candidates, List.any_map, List.any_eq_true, Function.comp_apply, Bool.or_eq_true, beq_iff_eq,
    candidate_eq_wildcard_iff, items]
  refine exists_congr fun item => and_congr_right fun _ => ?_
  rw [standsFor_iff]
  tauto

theorem isListedBy_iff {tag : EntityTag} {header : String} (ht : tag.text.toList ≠ wildcard) :
    tag.isListedBy (some header) = true ↔ ∃ item ∈ items header, StandsFor item tag.text.toList := by
  simp only [isListedBy, candidates, List.any_map, List.any_eq_true, Function.comp_apply, beq_iff_eq, items]
  refine exists_congr fun item => and_congr_right fun _ => ?_
  rw [standsFor_iff, iff_and_self]
  rintro hc rfl
  exact ht (hc.symm.trans (candidate_eq_wildcard_iff.mpr rfl))

/-- The items are read in their order, and the wildcard asserts no version. -/
theorem assertedVersion?_eq (header : String) (id : Uuid) :
    assertedVersion? (some header) id =
      (items header).findSome? (fun item => if item = wildcard then none else versionIn? id (candidate item)) := by
  simp only [assertedVersion?, candidates, items]
  generalize Text.commaItems header.toList = its
  induction its with
  | nil => simp
  | cons item rest ih =>
    rw [List.map_cons, List.filter_cons, List.findSome?_cons]
    by_cases hs : item = wildcard
    · rw [if_pos hs, candidate_eq_wildcard_iff.mpr hs, bne_self_eq_false, if_neg Bool.false_ne_true, ih]
    · have hc : (candidate item != wildcard) = true := bne_iff_ne.mpr fun hc => hs (candidate_eq_wildcard_iff.mp hc)
      rw [if_neg hs, hc, if_pos rfl, List.findSome?_cons, ih]

theorem asserts_iff {item : List Char} {id : Uuid} {n : Int} :
    Asserts item id n ↔ (if item = wildcard then none else versionIn? id (candidate item)) = some n := by
  by_cases hs : item = wildcard
  · rw [if_pos hs]
    refine ⟨fun ⟨_, hstands, _⟩ => absurd hs (standsFor_iff.mp hstands).1, fun h => by cases h⟩
  · rw [if_neg hs, versionIn?_candidate hs]

theorem assertedVersion?_eq_some_iff {header : String} {id : Uuid} {n : Int} :
    assertedVersion? (some header) id = some n ↔ FirstAsserts (items header) id n := by
  rw [assertedVersion?_eq, List.findSome?_eq_some_iff, FirstAsserts]
  simp only [asserts_iff, ← Option.eq_none_iff_forall_ne_some]

theorem assertedVersion?_eq_none_iff {header : String} {id : Uuid} :
    assertedVersion? (some header) id = none ↔ ∀ item ∈ items header, ∀ n, ¬ Asserts item id n := by
  rw [assertedVersion?_eq, List.findSome?_eq_none_iff]
  simp only [asserts_iff, ← Option.eq_none_iff_forall_ne_some]

/-- The header lets a write through on a row at this version: an item names the row, and the first version that it
asserts is that of the row. A header that asserts no version must name the row by its own tag. -/
structure Grants (header : String) (id : Uuid) (version : Int) : Prop where
  named : ∃ item ∈ items header, item = wildcard ∨ StandsFor item (generate id version).text.toList
  current : FirstAsserts (items header) id version ∨
    (∀ item ∈ items header, ∀ n, ¬ Asserts item id n) ∧
      ∃ item ∈ items header, StandsFor item (generate id version).text.toList

theorem text_generate_ne_wildcard (id : Uuid) (version : Int) : (generate id version).text.toList ≠ wildcard := by
  rw [generate, String.toList_ofList]
  simp [enquote, wildcard]

section

variable {header : String} {id : Uuid} {version : Int}

theorem grants_iff_of_asserted {n : Int} (ha : assertedVersion? (some header) id = some n) :
    Grants header id version ↔ (generate id version).isMatchedBy (some header) = true ∧ n = version := by
  rw [isMatchedBy_iff]
  constructor
  · intro h
    refine ⟨h.named, ?_⟩
    rcases h.current with hv | ⟨hnone, -⟩
    · rw [← assertedVersion?_eq_some_iff, ha] at hv
      exact Option.some.inj hv
    · rw [← assertedVersion?_eq_none_iff, ha] at hnone
      cases hnone
  · rintro ⟨hnamed, rfl⟩
    exact ⟨hnamed, .inl (assertedVersion?_eq_some_iff.mp ha)⟩

theorem grants_iff_of_unasserted (ha : assertedVersion? (some header) id = none) :
    Grants header id version ↔ (generate id version).isMatchedBy (some header) = true ∧
      (generate id version).isListedBy (some header) = true := by
  rw [isMatchedBy_iff, isListedBy_iff (text_generate_ne_wildcard id version)]
  constructor
  · intro h
    refine ⟨h.named, ?_⟩
    rcases h.current with hv | ⟨-, hitem⟩
    · rw [← assertedVersion?_eq_some_iff, ha] at hv
      cases hv
    · exact hitem
  · rintro ⟨hnamed, hitem⟩
    exact ⟨hnamed, .inr ⟨assertedVersion?_eq_none_iff.mp ha, hitem⟩⟩

end

end EntityTag

namespace Preconditions

open EntityTag

def HasIfMatch (p : Preconditions) : Prop := ∃ header, p.ifMatch = some header ∧ Text.isBlankText header = false

def Granted (p : Preconditions) (id : Uuid) (version : Int) : Prop :=
  ∃ header, p.ifMatch = some header ∧ Text.isBlankText header = false ∧ Grants header id version

theorem Granted.hasIfMatch {p : Preconditions} {id : Uuid} {version : Int} (h : p.Granted id version) : p.HasIfMatch := by
  obtain ⟨header, hp, hb, -⟩ := h
  exact ⟨header, hp, hb⟩

theorem requireIfMatch_of_header {p : Preconditions} {header : String} (hp : p.ifMatch = some header)
    (hb : Text.isBlankText header = false) : p.requireIfMatch = .ok header := by
  simp [requireIfMatch, hp, hb]

theorem requireIfMatch_of_absent {p : Preconditions} (h : ¬ p.HasIfMatch) :
    p.requireIfMatch = .error .ifMatchRequired := by
  unfold requireIfMatch
  cases hp : p.ifMatch with
  | none => rfl
  | some header =>
    dsimp only
    rw [if_pos]
    by_contra hb
    exact h ⟨header, hp, by simpa using hb⟩

theorem purpose_of_header {p : Preconditions} (h : p.HasIfMatch) (hn : p.ifNoneMatch.map Text.trim ≠ some "*") :
    p.purpose = .ok .replace := by
  obtain ⟨header, hp, hb⟩ := h
  rw [purpose, if_neg hn, requireIfMatch_of_header hp hb]
  rfl

theorem purpose_of_absent {p : Preconditions} (h : ¬ p.HasIfMatch) (hn : p.ifNoneMatch.map Text.trim ≠ some "*") :
    p.purpose = .error .ifMatchRequired := by
  rw [purpose, if_neg hn, requireIfMatch_of_absent h]
  rfl

variable {α : Type} [Storable α]

theorem gateVersion_of_absent {p : Preconditions} (h : ¬ p.HasIfMatch) (row : Stored α) :
    p.gateVersion row = .error .ifMatchRequired := by
  rw [gateVersion, requireIfMatch_of_absent h]
  rfl

/-- A header that names the row tells the version it asserts, or else that of the row if it lists its tag. -/
theorem gateVersion_eq {p : Preconditions} {header : String} (hp : p.ifMatch = some header)
    (hb : Text.isBlankText header = false) (row : Stored α) :
    p.gateVersion row = if row.tag.isMatchedBy (some header) then
      match assertedVersion? (some header) row.id with
        | some version => .ok version
        | none => if row.tag.isListedBy (some header) then .ok row.version else .error .ifMatchWithoutVersion
      else .error .ifMatchStale := by
  rw [gateVersion, requireIfMatch_of_header hp hb]
  simp only [bind, Except.bind]
  cases row.tag.isMatchedBy (some header) <;> rfl

/-- With a header, either a version comes out of it, which is that of the row just if the header grants the write; or
the header is refused, and does not grant it. -/
theorem gateVersion_of_header {p : Preconditions} (h : p.HasIfMatch) (row : Stored α) :
    (∃ n, p.gateVersion row = .ok n ∧ (n = row.version ↔ p.Granted row.id row.version)) ∨
      ∃ f, p.gateVersion row = .error f ∧ f.kind = .preconditionFailed ∧ ¬ p.Granted row.id row.version := by
  obtain ⟨header, hp, hb⟩ := h
  have hgranted : p.Granted row.id row.version ↔ Grants header row.id row.version := by
    simp [Granted, hp, hb]
  rw [hgranted, gateVersion_eq hp hb]
  by_cases hm : row.tag.isMatchedBy (some header) = true
  · rw [if_pos hm]
    cases ha : assertedVersion? (some header) row.id with
    | some n =>
      refine .inl ⟨n, rfl, ?_⟩
      rw [grants_iff_of_asserted ha]
      exact (and_iff_right hm).symm
    | none =>
      dsimp only
      rw [grants_iff_of_unasserted ha]
      by_cases hl : row.tag.isListedBy (some header) = true
      · rw [if_pos hl]
        exact .inl ⟨_, rfl, fun _ => ⟨hm, hl⟩, fun _ => rfl⟩
      · rw [if_neg hl]
        exact .inr ⟨_, rfl, rfl, fun h => hl h.2⟩
  · rw [if_neg hm]
    exact .inr ⟨_, rfl, rfl, fun h => hm (isMatchedBy_iff.mpr h.named)⟩

end Preconditions

end Bookshop
