/-
  Bookshop.Proofs.Catalog.Meanwhile — what other clients make of a row while one client is not looking.

  Between two moments other clients make whole changes, and single calls of changes that are under way
  (`Meanwhile`). No change both removes a row and creates it, so what a change leaves of a row is that row
  as it was, or at a later version, or nothing (`Change.onward`). Over any stretch in which the row is not
  created again, a version that is found twice is the same row twice (`Meanwhile.current`).
-/

import Bookshop.Proofs.Catalog.Reachable

namespace Bookshop

/-! ## A row at two moments -/

/-- The place was empty, and is not any more. -/
def Creates (collection : String) (id : Uuid) (s s' : Store) : Prop :=
  s.row? collection id = none ∧ s'.row? collection id ≠ none

/-- The row is the one from before, or at a later version. -/
def Row.From (old new : Row) : Prop := new = old ∨ old.metadata.version < new.metadata.version

/-- If a row is there at both moments, the later one comes from the earlier one. -/
def Onward (collection : String) (id : Uuid) (s s' : Store) : Prop :=
  ∀ old new, s.row? collection id = some old → s'.row? collection id = some new → old.From new

theorem Row.From.trans {a b c : Row} (hab : a.From b) (hbc : b.From c) : a.From c := by
  rcases hab with rfl | hab
  · exact hbc
  · rcases hbc with rfl | hbc
    · exact .inr hab
    · exact .inr (Int.lt_trans hab hbc)

theorem Row.From.le {old new : Row} (h : old.From new) : old.metadata.version ≤ new.metadata.version := by
  rcases h with rfl | h
  · exact Int.le_refl _
  · exact Int.le_of_lt h

theorem Row.From.eq_of_version {old new : Row} (h : old.From new)
    (hv : new.metadata.version = old.metadata.version) : new = old := by
  rcases h with h | h
  · exact h
  · omega

section

variable {collection : String} {id : Uuid} {s t u : Store}

theorem Onward.refl : Onward collection id s s := by
  intro old new ho hn
  exact .inl (Option.some.inj (hn.symm.trans ho))

theorem Onward.trans (hst : Onward collection id s t) (htu : Onward collection id t u)
    (hc : ¬ Creates collection id t u) : Onward collection id s u := by
  intro old new ho hn
  cases hm : t.row? collection id with
  | none => exact absurd ⟨hm, by simp [hn]⟩ hc
  | some row => exact (hst old row ho hm).trans (htu row new hm hn)

theorem onward_after (w : Write) (now : Nat) (s : Store) : Onward collection id s (w.after now s) := by
  unfold Write.after
  split
  · next m s' ha =>
    intro old new ho hn
    rcases attempt_row ha collection id with hsame | ⟨-, hnone⟩ | ⟨-, old', new', ho', hn', hv⟩ | ⟨-, hgone⟩
    · exact .inl (Option.some.inj (hn.symm.trans (hsame.trans ho)))
    · rw [hnone] at ho
      cases ho
    · obtain rfl : old' = old := Option.some.inj (ho'.symm.trans ho)
      obtain rfl : new' = new := Option.some.inj (hn'.symm.trans hn)
      exact .inr (by omega)
    · rw [hgone] at hn
      cases hn
  · exact Onward.refl

/-! ## One change -/

/-- Without deletions, a row that is there stays there, and moves on. -/
theorem keptBy_staying {verbs : List Verb} (hv : .delete ∉ verbs) (collection : String) (id : Uuid) (old : Row) :
    KeptBy verbs fun s => s.Sound ∧ ∃ row, s.row? collection id = some row ∧ old.From row := by
  refine ⟨fun s hs => hs.1, fun {w now s s' m} hw hp hs ha => ⟨(keptBy_sound verbs).step hw hp hs.1 ha, ?_⟩⟩
  obtain ⟨-, row, hr, hfrom⟩ := hs
  rcases attempt_row ha collection id with hsame | ⟨-, hnone⟩ | ⟨-, before, new, hb, hn, hver⟩ | ⟨hd, -⟩
  · exact ⟨row, hsame.trans hr, hfrom⟩
  · rw [hnone] at hr
    cases hr
  · obtain rfl : before = row := Option.some.inj (hb.symm.trans hr)
    exact ⟨new, hn, hfrom.trans (.inr (by omega))⟩
  · exact absurd (hd ▸ hw) hv

theorem keptBy_leaving {verbs : List Verb} (hv : .insert ∉ verbs) (collection : String) (id : Uuid) (old : Row) :
    KeptBy verbs fun s => s.Sound ∧ ∀ row, s.row? collection id = some row → old.From row := by
  refine ⟨fun s hs => hs.1, fun {w now s s' m} hw hp hs ha => ⟨(keptBy_sound verbs).step hw hp hs.1 ha, ?_⟩⟩
  obtain ⟨-, hfrom⟩ := hs
  intro row hr
  rcases attempt_row ha collection id with hsame | ⟨hi, -⟩ | ⟨-, before, new, hb, hn, hver⟩ | ⟨-, hgone⟩
  · exact hfrom row (hsame.symm.trans hr)
  · exact absurd (hi ▸ hw) hv
  · obtain rfl : new = row := Option.some.inj (hn.symm.trans hr)
    exact (hfrom before hb).trans (.inr (by omega))
  · rw [hgone] at hr
    cases hr

theorem Change.insert_not_mem_verbs {change : Change} (h : .delete ∈ change.verbs) : .insert ∉ change.verbs := by
  cases change <;> simp [verbs] at h ⊢

theorem Change.onward {change : Change} (hd : change.Decoded) {s : Session} (hs : s.store.Sound) :
    Onward collection id s.store (change.run.on s).2.store := by
  intro old new ho hn
  -- within a change, the row must not go and come back: one that deletes does not insert, and one that does not
  -- delete never loses the row
  by_cases hv : .delete ∈ change.verbs
  · have hleaving := keptBy_leaving (insert_not_mem_verbs hv) collection id old
    have hbefore : ∀ row, s.store.row? collection id = some row → old.From row :=
      fun row hr => .inl (Option.some.inj (hr.symm.trans ho))
    obtain ⟨⟨-, hafter⟩, -⟩ := Change.keeps hd hleaving s ⟨hs, hbefore⟩
    exact hafter new hn
  · have hstaying := keptBy_staying hv collection id old
    obtain ⟨⟨-, row, hr, hfrom⟩, -⟩ := Change.keeps hd hstaying s ⟨hs, old, ho, .inl rfl⟩
    obtain rfl : row = new := Option.some.inj (hr.symm.trans hn)
    exact hfrom

/-! ## Other clients -/

/-- From one store to a later one, by whole changes and by single calls of changes that are under way, none of which
creates the row at this place. -/
inductive Meanwhile (collection : String) (id : Uuid) (s : Store) : Store → Prop
  | start : Meanwhile collection id s s
  | call {t : Store} (w : Write) (now : Nat) : Meanwhile collection id s t → w.Proper →
      ¬ Creates collection id t (w.after now t) → Meanwhile collection id s (w.after now t)
  | change {t : Session} {change : Change} : Meanwhile collection id s t.store → change.Decoded →
      ¬ Creates collection id t.store (change.run.on t).2.store →
      Meanwhile collection id s (change.run.on t).2.store

namespace Meanwhile

theorem trans (hst : Meanwhile collection id s t) (htu : Meanwhile collection id t u) :
    Meanwhile collection id s u := by
  induction htu with
  | start => exact hst
  | call w now _ hp hc ih => exact .call w now ih hp hc
  | change _ hd hc ih => exact .change ih hd hc

theorem sound (h : Meanwhile collection id s t) (hs : s.Sound) : t.Sound := by
  induction h with
  | start => exact hs
  | @call t w now _ hp _ ih =>
    unfold Write.after
    split
    · next ha => exact (keptBy_sound [w.verb]).step (List.mem_singleton.mpr rfl) hp ih ha
    · exact ih
  | change _ hd _ ih => exact (Change.keeps hd (keptBy_sound _) _ ih).1

theorem onward (h : Meanwhile collection id s t) (hs : s.Sound) : Onward collection id s t := by
  induction h with
  | start => exact Onward.refl
  | @call t w now _ _ hc ih => exact ih.trans (onward_after w now t) hc
  | change hmean hd hc ih => exact ih.trans (Change.onward hd (hmean.sound hs)) hc

variable {α : Type} [Storable α]

theorem version_le (h : Meanwhile (Storable.collection α) id s t) (hs : s.Sound) {found : Stored α}
    (hg : s.get α id = .ok (some found)) {row : Row} (hr : t.row? (Storable.collection α) id = some row) :
    found.version ≤ row.metadata.version := by
  obtain ⟨old, ho, hv⟩ := Store.row?_of_get hg
  rw [← hv]
  exact (h.onward hs old row ho hr).le

theorem current (h : Meanwhile (Storable.collection α) id s t) (hs : s.Sound) {found : Stored α}
    (hg : s.get α id = .ok (some found)) {row : Row} (hr : t.row? (Storable.collection α) id = some row)
    (hv : row.metadata.version = found.version) : t.get α id = .ok (some found) := by
  obtain ⟨old, ho, hread⟩ := Store.get_eq_some.mp hg
  have hold : found.version = old.metadata.version := congrArg Metadata.version (Row.metadata_of_read hread)
  obtain rfl : row = old := (h.onward hs old row ho hr).eq_of_version (hv.trans hold)
  exact Store.get_eq_some.mpr ⟨row, hr, hread⟩

end Meanwhile

end

end Bookshop
