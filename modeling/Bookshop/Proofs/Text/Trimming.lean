/-
  Bookshop.Proofs.Text.Trimming — trimmed texts (see `Bookshop.Text.Blank`), and letters in upper case.

  A text that was trimmed once stays as it is when it is trimmed again, so what is kept in trimmed form can
  be read and written back any number of times.
-/

import Bookshop.Text.Blank
import Bookshop.Text.Lowercase
import Mathlib

namespace Bookshop.Text

/-! ## Trimming twice -/

theorem trimEnd_eq (cs : List Char) : trimEnd cs = cs.rdropWhile isBlank := rfl

theorem trimEnd_trimEnd (cs : List Char) : trimEnd (trimEnd cs) = trimEnd cs := by
  simp only [trimEnd_eq]
  exact List.rdropWhile_idempotent isBlank cs

/-- What is dropped at the end leaves the start as it was. -/
theorem trimStart_trimEnd {cs : List Char} (h : trimStart cs = cs) : trimStart (trimEnd cs) = trimEnd cs := by
  rw [trimStart, List.dropWhile_eq_self_iff] at *
  intro hl
  have hp : trimEnd cs <+: cs := List.rdropWhile_prefix isBlank cs
  rw [hp.getElem hl]
  exact h (Nat.lt_of_lt_of_le hl hp.length_le)

theorem trimStart_trimStart (cs : List Char) : trimStart (trimStart cs) = trimStart cs :=
  List.dropWhile_idempotent isBlank cs

theorem trimList_trimList (cs : List Char) : trimList (trimList cs) = trimList cs := by
  have hs : trimStart (trimEnd (trimStart cs)) = trimEnd (trimStart cs) := trimStart_trimEnd (trimStart_trimStart cs)
  rw [trimList, trimList, hs, trimEnd_trimEnd]

@[simp] theorem trim_trim (s : String) : trim (trim s) = trim s := by
  rw [trim, toList_trim, trimList_trimList, trim]

theorem trimEnd_of_trimList {cs : List Char} (h : trimList cs = cs) : trimEnd cs = cs := by
  rw [← h, trimList, trimEnd_trimEnd]

/-! ## Blanks at the ends -/

/-- Whether there are blanks at the end does not depend on what stands before the end. -/
theorem trimEnd_append_eq_self_iff {cs : List Char} (hne : cs ≠ []) (before : List Char) :
    trimEnd (before ++ cs) = before ++ cs ↔ trimEnd cs = cs := by
  simp only [trimEnd_eq, List.rdropWhile_eq_self_iff]
  rw [forall_prop_of_true (List.append_ne_nil_of_right_ne_nil before hne), forall_prop_of_true hne,
    List.getLast_append_of_ne_nil _ hne]

theorem trimEnd_append_blanks {after : List Char} (ha : ∀ c ∈ after, isBlank c = true) (cs : List Char) :
    trimEnd (cs ++ after) = trimEnd cs := by
  rw [trimEnd, List.reverse_append, List.dropWhile_append_of_pos (by simpa using ha), trimEnd]

theorem trimList_between {before after : List Char} (hb : ∀ c ∈ before, isBlank c = true)
    (ha : ∀ c ∈ after, isBlank c = true) (cs : List Char) : trimList (before ++ cs ++ after) = trimList cs := by
  rw [trimList, trimStart, List.append_assoc, List.dropWhile_append_of_pos hb, List.dropWhile_append, trimList, trimStart]
  split
  · next he =>
    rw [List.isEmpty_iff.mp he, List.dropWhile_eq_nil_iff.mpr ha]
  · exact trimEnd_append_blanks ha _

/-! ## Blank texts -/

theorem isBlankText_iff {s : String} : isBlankText s = true ↔ trimList s.toList = [] :=
  trimList_eq_nil_iff.symm

@[simp] theorem isBlankText_trim (s : String) : isBlankText (trim s) = isBlankText s := by
  rw [Bool.eq_iff_iff, isBlankText_iff, isBlankText_iff, toList_trim, trimList_trimList]

theorem trimList_of_no_blank {cs : List Char} (h : ∀ c ∈ cs, isBlank c = false) : trimList cs = cs := by
  have hs : trimStart cs = cs := by
    cases cs with
    | nil => rfl
    | cons c cs => simp [trimStart, h c List.mem_cons_self]
  have he : trimEnd cs = cs := by
    rw [trimEnd_eq, List.rdropWhile_eq_self_iff]
    intro hl
    simp [h _ (List.getLast_mem hl)]
  rw [trimList, hs, he]

theorem trim_of_no_blank {s : String} (h : ∀ c ∈ s.toList, isBlank c = false) : trim s = s := by
  rw [trim, trimList_of_no_blank h, String.ofList_toList]

/-! ## Lists of one item -/

theorem splitWhere_of_none {α : Type} {p : α → Bool} {cs : List α} (h : ∀ c ∈ cs, p c = false) :
    splitWhere p cs = [cs] := by
  induction cs with
  | nil => rfl
  | cons c cs ih =>
    obtain ⟨hc, hcs⟩ := List.forall_mem_cons.mp h
    simp [splitWhere, hc, ih hcs]

theorem commaItems_of_no_comma {cs : List Char} (hn : trimList cs ≠ []) (hc : ',' ∉ cs) :
    commaItems cs = [trimList cs] := by
  have hcomma : ∀ c ∈ cs, (c == ',') = false := fun c hm => beq_eq_false_iff_ne.mpr fun he => hc (he ▸ hm)
  rw [commaItems, splitWhere_of_none hcomma, List.map_singleton]
  simp [hn]

/-- A character that is neither cut at nor trimmed. -/
def Plain (c : Char) : Prop := c ≠ ',' ∧ isBlank c = false

instance (c : Char) : Decidable (Plain c) := inferInstanceAs (Decidable (_ ∧ _))

theorem commaItems_between {item before after : List Char} (hne : item ≠ []) (hitem : ∀ c ∈ item, Plain c)
    (hb : ∀ c ∈ before, isBlank c = true) (ha : ∀ c ∈ after, isBlank c = true) :
    commaItems (before ++ item ++ after) = [item] := by
  have htrim : trimList (before ++ item ++ after) = item := by
    rw [trimList_between hb ha, trimList_of_no_blank fun c hc => (hitem c hc).2]
  have hcomma : ',' ∉ before ++ item ++ after := by
    have hnot : isBlank ',' ≠ true := by decide
    simp only [List.mem_append, not_or]
    exact ⟨⟨fun h => hnot (hb ',' h), fun h => (hitem ',' h).1 rfl⟩, fun h => hnot (ha ',' h)⟩
  rw [commaItems_of_no_comma (by rwa [htrim]) hcomma, htrim]

theorem commaItems_of_plain {item : List Char} (hne : item ≠ []) (hitem : ∀ c ∈ item, Plain c) :
    commaItems item = [item] := by
  have h := commaItems_between hne hitem (List.forall_mem_nil _) (List.forall_mem_nil _)
  rwa [List.nil_append, List.append_nil] at h

/-! ## Letters -/

/-- The code points of the letters lie between those of the blanks. -/
theorem toNat_of_isAlpha {c : Char} (h : c.isAlpha = true) : 0x41 ≤ c.toNat ∧ c.toNat ≤ 0x7A := by
  simp only [Char.isAlpha, Char.isUpper, Char.isLower, Bool.or_eq_true, Bool.and_eq_true, decide_eq_true_eq, ge_iff_le,
    UInt32.le_iff_toNat_le] at h
  have ht : c.toNat = c.val.toNat := rfl
  rcases h with ⟨h1, h2⟩ | ⟨h1, h2⟩ <;> simp at h1 h2 <;> omega

/-- No character between the space and the controls behind ASCII is blank. -/
theorem isBlank_of_visible {c : Char} (hlo : 0x20 < c.toNat) (hhi : c.toNat < 0x85) : isBlank c = false := by
  apply Bool.eq_false_iff.mpr
  intro hb
  obtain ⟨r, hr, h1, h2⟩ := Ranges.has_iff_exists.mp hb
  simp only [blanks, List.mem_cons, List.not_mem_nil, or_false] at hr
  rcases hr with rfl | rfl | rfl | rfl | rfl | rfl | rfl | rfl | rfl | rfl <;> simp at h1 h2 <;> omega

theorem isBlank_of_isAlpha {c : Char} (h : c.isAlpha = true) : isBlank c = false := by
  obtain ⟨hlo, hhi⟩ := toNat_of_isAlpha h
  exact isBlank_of_visible (by omega) (by omega)

theorem isBlank_of_isDigit {c : Char} (h : c.isDigit = true) : isBlank c = false := by
  obtain ⟨hlo, hhi⟩ := Char.isDigit_iff_toNat.mp h
  have hzero : '0'.toNat = 0x30 := rfl
  have hnine : '9'.toNat = 0x39 := rfl
  exact isBlank_of_visible (by omega) (by omega)

theorem toUpper_of_isBlank {c : Char} (h : isBlank c = true) : c.toUpper = c := by
  have hlower : ¬ (c.val ≥ 'a'.val ∧ c.val ≤ 'z'.val) := by
    intro hl
    have hlo : c.isLower = true := by simpa [Char.isLower] using hl
    have ha : c.isAlpha = true := by simp [Char.isAlpha, hlo]
    simp [isBlank_of_isAlpha ha] at h
  rw [Char.toUpper, dif_neg hlower]

theorem toLower_of_isBlank {c : Char} (h : isBlank c = true) : c.toLower = c := by
  have hupper : ¬ (c.val ≥ 'A'.val ∧ c.val ≤ 'Z'.val) := by
    intro hu
    have hup : c.isUpper = true := by simpa [Char.isUpper] using hu
    have ha : c.isAlpha = true := by simp [Char.isAlpha, hup]
    simp [isBlank_of_isAlpha ha] at h
  rw [Char.toLower, dif_neg hupper]

@[simp] theorem upperAscii_upperAscii (s : String) : upperAscii (upperAscii s) = upperAscii s := by
  simp only [upperAscii, String.toList_ofList, List.map_map, Function.comp_def,
    Char.toUpper_toUpper_eq_toUpper]

end Bookshop.Text
