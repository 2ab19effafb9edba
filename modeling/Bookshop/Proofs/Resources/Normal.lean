/-
  Bookshop.Proofs.Resources.Normal — the form in which authors and books are kept.

  A kept name or title is trimmed and not blank, no author or genre of a book stands twice, and a price is
  valid. Every request that was read from JSON leads to that form (`Author.normal_of_checkedName`,
  `Book.Request.normal_toBook`), and a book in it stays in it when an author is taken from its credits
  (`Book.Normal.toBook_uncredited`).
-/

import Bookshop.Proofs.Resources.RoundTrip

namespace Bookshop

/-! ## Each item once -/

section

variable {α : Type} [DecidableEq α]

@[simp] theorem mem_distinct {a : α} {as : List α} : a ∈ distinct as ↔ a ∈ as := by
  induction as with
  | nil => simp [distinct]
  | cons b as ih =>
    simp only [distinct, List.mem_cons, List.mem_filter, ih, decide_eq_true_eq]
    by_cases h : a = b <;> simp [h]

theorem nodup_distinct (as : List α) : (distinct as).Nodup := by
  induction as with
  | nil => exact List.nodup_nil
  | cons a as ih =>
    rw [distinct, List.nodup_cons]
    exact ⟨by simp, ih.filter _⟩

theorem distinct_of_nodup {as : List α} (h : as.Nodup) : distinct as = as := by
  induction as with
  | nil => rfl
  | cons a as ih =>
    obtain ⟨ha, has⟩ := List.nodup_cons.mp h
    rw [distinct, ih has, List.filter_eq_self.mpr]
    intro b hb
    rw [decide_eq_true_eq]
    rintro rfl
    exact ha hb

theorem distinct_filter (p : α → Bool) (as : List α) : distinct (as.filter p) = (distinct as).filter p := by
  induction as with
  | nil => rfl
  | cons a as ih =>
    by_cases hp : p a = true
    · rw [List.filter_cons_of_pos hp, distinct, distinct, ih, List.filter_cons_of_pos hp, List.filter_filter,
        List.filter_filter]
      simp only [Bool.and_comm]
    · rw [List.filter_cons_of_neg hp, ih, distinct, List.filter_cons_of_neg hp, List.filter_filter]
      -- `a` itself does not satisfy `p`, so taking it out changes nothing
      refine List.filter_congr fun b _ => ?_
      by_cases hb : b = a
      · subst hb
        simp [hp]
      · simp [hb]

/-- What stays of an item is its first occurrence: later ones are dropped, and then the rest is treated likewise. -/
theorem distinct_eq_eraseDups (as : List α) : distinct as = as.eraseDups := by
  induction hn : as.length using Nat.strongRecOn generalizing as with
  | ind n ih =>
    cases as with
    | nil => rfl
    | cons a as =>
      have hlt : (as.filter fun b => !b == a).length < n := by
        have := List.length_filter_le (fun b => !b == a) as
        simp only [List.length_cons] at hn
        omega
      rw [List.eraseDups_cons, distinct, ← ih _ hlt _ rfl, distinct_filter]
      simp only [ne_eq, decide_not, Bool.beq_eq_decide_eq]

end

theorem Genre.nodup_codes {genres : List Genre} (h : genres.Nodup) : (genres.map Genre.code).Nodup := by
  refine h.map fun g g' hg => ?_
  revert hg
  cases g <;> cases g' <;> decide

/-! ## Records read -/

theorem except_bind_eq_ok {ε α β : Type} {x : Except ε α} {f : α → Except ε β} {b : β} :
    x >>= f = .ok b ↔ ∃ a, x = .ok a ∧ f a = .ok b := by
  cases x with
  | error e => simp [bind, Except.bind]
  | ok a => simp [bind, Except.bind]

theorem except_map_eq_ok {ε α β : Type} {x : Except ε α} {f : α → β} {b : β} :
    x.map f = .ok b ↔ ∃ a, x = .ok a ∧ f a = b := by
  cases x with
  | error e => simp [Except.map]
  | ok a => simp [Except.map]

section

variable {ε α β : Type} {f : α → Except ε β} {as : List α} {bs : List β}

theorem mapM_eq_ok : as.mapM f = .ok bs ↔ List.Forall₂ (fun a b => f a = .ok b) as bs := by
  induction as generalizing bs with
  | nil =>
    rw [List.forall₂_nil_left_iff, List.mapM_nil]
    exact ⟨fun h => by cases h; rfl, fun h => by rw [h]; rfl⟩
  | cons a as ih =>
    rw [List.mapM_cons, List.forall₂_cons_left_iff, except_bind_eq_ok]
    simp only [except_bind_eq_ok, ih]
    constructor
    · rintro ⟨b, hb, rest, hrest, he⟩
      cases he
      exact ⟨b, rest, hb, hrest, rfl⟩
    · rintro ⟨b, rest, hb, hrest, rfl⟩
      exact ⟨b, hb, rest, hrest, rfl⟩

theorem mem_of_mapM (h : as.mapM f = .ok bs) {b : β} : b ∈ bs ↔ ∃ a ∈ as, f a = .ok b := by
  rw [mapM_eq_ok] at h
  induction h with
  | nil => simp
  | cons hab _ ih => simp [hab, ih, eq_comm]

theorem exists_mapM_iff : (∃ bs, as.mapM f = .ok bs) ↔ ∀ a ∈ as, ∃ b, f a = .ok b := by
  simp only [mapM_eq_ok]
  constructor
  · rintro ⟨bs, h⟩
    induction h with
    | nil => exact List.forall_mem_nil _
    | cons hab _ ih => exact List.forall_mem_cons.mpr ⟨⟨_, hab⟩, ih⟩
  · intro h
    induction as with
    | nil => exact ⟨[], .nil⟩
    | cons a as ih =>
      obtain ⟨⟨b, hb⟩, has⟩ := List.forall_mem_cons.mp h
      obtain ⟨bs, hbs⟩ := ih has
      exact ⟨b :: bs, .cons hb hbs⟩

/-- The first item that fails is the one that is reported. -/
theorem exists_of_mapM_eq_error {e : ε} (h : as.mapM f = .error e) :
    ∃ before a after, as = before ++ a :: after ∧ (∀ a' ∈ before, ∃ b, f a' = .ok b) ∧ f a = .error e := by
  induction as with
  | nil => cases h
  | cons a as ih =>
    rw [List.mapM_cons] at h
    cases ha : f a with
    | error e' =>
      rw [ha] at h
      cases h
      exact ⟨[], a, as, rfl, List.forall_mem_nil _, ha⟩
    | ok b =>
      cases has : as.mapM f with
      | error e' =>
        rw [ha, has] at h
        cases h
        obtain ⟨before, a', after, rfl, hbefore, ha'⟩ := ih has
        exact ⟨a :: before, a', after, rfl, List.forall_mem_cons.mpr ⟨⟨b, ha⟩, hbefore⟩, ha'⟩
      | ok bs =>
        rw [ha, has] at h
        cases h

end

namespace Json.Decode

theorem eq_of_required {α : Type} {missing : Missing} {index : Nat} {name : String} {given : Option α} {a : α}
    (h : required missing index name given = .ok a) : given = some a := by
  cases given with
  | none => cases h
  | some b => cases h; rfl

theorem of_optional {α : Type} {read : Decoder α} {v : Value} {a : α} (h : optional read v = .ok (some a)) :
    read v = .ok a := by
  cases v with
  | null => cases h
  | _ =>
    obtain ⟨b, hb, hab⟩ := except_map_eq_ok.mp h
    cases hab
    exact hb

namespace Layout

variable {δ α : Type} {l : Layout δ α} {p : δ → Prop}

theorem addMembers_keeps (hadd : ∀ field ∈ l.fields, ∀ v d d', p d → field.add v d = .ok d' → p d')
    {members : List (String × Value)} {given : List String} {d d' : δ} (hd : p d)
    (h : l.addMembers given d members = .ok d') : p d' := by
  induction members generalizing given d with
  | nil => cases h; exact hd
  | cons m rest ih =>
    rw [addMembers] at h
    cases hf : l.fields.find? (·.isNamed m.1) with
    | none =>
      rw [hf] at h
      exact ih hd h
    | some field =>
      simp only [hf] at h
      split at h
      · cases h
      · obtain ⟨e, he, h⟩ := except_bind_eq_ok.mp h
        exact ih (hadd field (List.mem_of_find?_eq_some hf) m.2 d e hd he) h

theorem addItems_keeps {fields : List (Field δ)} (hadd : ∀ field ∈ fields, ∀ v d d', p d → field.add v d = .ok d' → p d')
    {items : List Value} {d d' : δ} (hd : p d) (h : addItems fields items d = .ok d') : p d' := by
  induction fields generalizing items d with
  | nil => cases h; exact hd
  | cons field fields ih =>
    cases items with
    | nil => cases h; exact hd
    | cons v rest =>
      rw [addItems] at h
      obtain ⟨e, he, h⟩ := except_bind_eq_ok.mp h
      exact ih (fun f hf => hadd f (List.mem_cons_of_mem field hf)) (hadd field List.mem_cons_self v d e hd he) h

/-- What holds of the blank draft, and of a draft with one more field, holds of the draft put together. -/
theorem exists_draft (hblank : p l.blank) (hadd : ∀ field ∈ l.fields, ∀ v d d', p d → field.add v d = .ok d' → p d')
    {v : Value} {a : α} (h : l.decode v = .ok a) : ∃ missing d, p d ∧ l.build missing d = .ok a := by
  cases v with
  | record members =>
    rw [decode] at h
    obtain ⟨d, hd, hb⟩ := except_bind_eq_ok.mp h
    exact ⟨_, d, addMembers_keeps hadd hblank hd, hb⟩
  | list items =>
    rw [decode] at h
    obtain ⟨d, hd, h⟩ := except_bind_eq_ok.mp h
    obtain ⟨b, hb, h⟩ := except_bind_eq_ok.mp h
    split at h
    · cases h
    · cases h
      exact ⟨_, d, addItems_keeps hadd hblank hd, hb⟩
  | _ => cases h

end Layout

end Json.Decode

/-! ## Authors -/

namespace Author

structure Normal (author : Author) : Prop where
  trimmed : Text.trim author.name = author.name
  named : Text.isBlankText author.name = false

theorem normal_of_checkedName {request : Request} {name : String} (h : request.checkedName = .ok name) (id : Uuid) :
    (Author.mk id name).Normal := by
  unfold Request.checkedName at h
  split at h
  · cases h
  · next hb =>
    cases h
    exact ⟨Text.trim_trim _, by simpa using hb⟩

end Author

/-! ## Books -/

namespace Book

structure Normal (book : Book) : Prop where
  trimmed : Text.trim book.title = book.title
  titled : Text.isBlankText book.title = false
  authors : book.authors.Nodup
  genres : book.genres.Nodup
  price : book.price.Valid

theorem Request.toBook_eq_ok {request : Request} {id : Uuid} {book : Book} :
    request.toBook id = .ok book ↔ Text.isBlankText request.title = false ∧
      book = ⟨id, Text.trim request.title, distinct request.authors, distinct request.genres, request.price⟩ := by
  unfold toBook
  cases Text.isBlankText request.title <;> simp [eq_comm]

theorem Request.exists_toBook {request : Request} (h : Text.isBlankText request.title = false) (id : Uuid) :
    ∃ book, request.toBook id = .ok book ∧ book.id = id :=
  ⟨_, toBook_eq_ok.mpr ⟨h, rfl⟩, rfl⟩

theorem Request.normal_toBook {request : Request} {id : Uuid} {book : Book} (hp : request.price.Valid)
    (h : request.toBook id = .ok book) : book.Normal := by
  obtain ⟨hb, rfl⟩ := toBook_eq_ok.mp h
  exact ⟨Text.trim_trim _, by simpa using hb, nodup_distinct _, nodup_distinct _, hp⟩

/-- Nothing but the credit is taken from a book in normal form. -/
theorem Normal.toBook_uncredited {book : Book} (h : book.Normal) (author : Uuid) :
    (book.uncredited author).toBook book.id = .ok { book with authors := book.authors.filter (· ≠ author) } := by
  rw [Request.toBook_eq_ok]
  refine ⟨h.titled, ?_⟩
  simp only [uncredited, h.trimmed, distinct_of_nodup h.genres, distinct_of_nodup (h.authors.filter _)]

/-- A patch keeps the title there is, or sets one that is not blank. -/
theorem Normal.titled_merge {book : Book} (h : book.Normal) (patch : Patch) :
    Text.isBlankText (patch.merge book).title = false := by
  rw [Patch.merge, Patch.newTitle?]
  cases patch.title with
  | none => exact h.titled
  | some title =>
    dsimp only
    split
    · exact h.titled
    · next hb => simpa using hb

/-! ## Prices that were read -/

def Draft.Priced (d : Draft) : Prop := ∀ price, d.price = some price → price.Valid

def Patch.Priced (patch : Patch) : Prop := ∀ price, patch.price = some price → price.Valid

/-- Whatever field is added, a price that comes in with it was read. -/
theorem Draft.priced_of_add {field : Json.Decode.Field Draft} (hf : field ∈ layout.fields ++ Request.layout.fields) :
    ∀ v d d', d.Priced → field.add v d = .ok d' → Draft.Priced d' := by
  intro v d d' hd h
  simp only [layout, Request.layout, List.mem_append, List.mem_cons, List.not_mem_nil, or_false] at hf
  have hread {price : Price} (hv : Price.decode v = .ok price) : ({ d with price := some price } : Draft).Priced := by
    intro p hp
    cases hp
    exact Price.valid_of_decode hv
  rcases hf with (rfl | rfl | rfl | rfl | rfl) | (rfl | rfl | rfl | rfl) <;>
    obtain ⟨a, ha, h⟩ := except_bind_eq_ok.mp h <;> cases h <;> first | exact hread ha | exact hd

theorem valid_of_decode {v : Json.Value} {book : Book} (h : Book.decode v = .ok book) : book.price.Valid := by
  obtain ⟨missing, d, hd, hb⟩ := Json.Decode.Layout.exists_draft (by simp [layout, Draft.Priced])
    (fun _ hf => Draft.priced_of_add (List.mem_append_left _ hf)) h
  obtain ⟨id, -, hb⟩ := except_bind_eq_ok.mp hb
  obtain ⟨title, -, hb⟩ := except_bind_eq_ok.mp hb
  obtain ⟨authors, -, hb⟩ := except_bind_eq_ok.mp hb
  obtain ⟨genres, -, hb⟩ := except_bind_eq_ok.mp hb
  obtain ⟨price, hp, hb⟩ := except_bind_eq_ok.mp hb
  cases hb
  exact hd price (Json.Decode.eq_of_required hp)

theorem Request.valid_of_decode {v : Json.Value} {request : Request} (h : Request.decode v = .ok request) :
    request.price.Valid := by
  obtain ⟨missing, d, hd, hb⟩ := Json.Decode.Layout.exists_draft (by simp [Request.layout, Draft.Priced])
    (fun _ hf => Draft.priced_of_add (List.mem_append_right _ hf)) h
  obtain ⟨title, -, hb⟩ := except_bind_eq_ok.mp hb
  obtain ⟨price, hp, hb⟩ := except_bind_eq_ok.mp hb
  cases hb
  exact hd price (Json.Decode.eq_of_required hp)

theorem Patch.priced_of_decode {v : Json.Value} {patch : Patch} (h : Patch.decode v = .ok patch) : patch.Priced := by
  have hadd : ∀ field ∈ Patch.layout.fields, ∀ v d d', d.Priced → field.add v d = .ok d' → Patch.Priced d' := by
    intro field hf v d d' hd h
    simp only [Patch.layout, List.mem_cons, List.not_mem_nil, or_false] at hf
    rcases hf with rfl | rfl | rfl | rfl <;> obtain ⟨a, ha, h⟩ := except_bind_eq_ok.mp h <;> cases h
    · exact hd
    · exact hd
    · exact hd
    · intro price hp
      cases hp
      exact Price.valid_of_decode (Json.Decode.of_optional ha)
  obtain ⟨missing, d, hd, hb⟩ := Json.Decode.Layout.exists_draft (by simp [Patch.layout, Patch.Priced]) hadd h
  cases hb
  exact hd

theorem Patch.Priced.valid_merge {patch : Patch} {book : Book} (hp : patch.Priced) (hb : book.price.Valid) :
    (patch.merge book).price.Valid := by
  unfold merge
  dsimp only
  cases h : patch.price with
  | none => exact hb
  | some price => exact hp price h

end Book

end Bookshop
