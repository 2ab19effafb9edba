/-
  Bookshop.Proofs.Catalog.Tags — what a client may conclude from the tag of a row.

  Where the digest does not collide, a tag tells the identifier and the version (`EntityTag.generate_inj`). A
  tag that is sent back as `If-Match` asserts no version and names just the rows that have this tag
  (`Preconditions.gateVersion_of_tag`).

  - `tag_names_one_state`: as long as a row is not created again, whoever sees its tag again sees the same row,
    and a write that is guarded by the tag meets that row.
  - `a_tag_outlives_its_row`: versions begin anew when a row is created again, and the old tag fits the new row.
-/

import Bookshop.Proofs.Catalog.Guarded
import Bookshop.Proofs.Catalog.Meanwhile
import Bookshop.Proofs.Catalog.Shown
import Bookshop.Proofs.Text.Splitting

namespace Bookshop

open CatalogM

/-! ## Digests -/

namespace Sha256

theorem flatMap_hexFixed_inj {ws vs : List UInt32} (hl : ws.length = vs.length)
    (h : ws.flatMap (fun w => Text.hexFixed 8 w.toNat) = vs.flatMap (fun w => Text.hexFixed 8 w.toNat)) : ws = vs := by
  induction ws generalizing vs with
  | nil => exact (List.length_eq_zero_iff.mp hl.symm).symm
  | cons w ws ih =>
    cases vs with
    | nil => cases hl
    | cons v vs =>
      rw [List.flatMap_cons, List.flatMap_cons] at h
      obtain ⟨hw, hws⟩ := List.append_inj h (by simp)
      have hword : w = v := UInt32.toNat_inj.mp (Text.hexFixed_inj w.toNat_lt v.toNat_lt hw)
      rw [hword, ih (Nat.succ.inj hl) hws]

theorem State.hex_inj {s t : State} (h : s.hex = t.hex) : s = t := by
  have hwords : s.words = t.words := flatMap_hexFixed_inj rfl h
  cases s
  cases t
  simpa [words] using hwords

theorem State.forall_mem_hex {p : Char → Prop} (hp : ∀ d : Fin 16, p (Text.hexDigit d)) (s : State) :
    ∀ c ∈ s.hex, p c := by
  intro c hc
  obtain ⟨w, -, hw⟩ := List.mem_flatMap.mp hc
  exact Text.forall_mem_hexFixed hp 8 w.toNat c hw

end Sha256

namespace EntityTag

/-! ## Tags -/

/-- The digest tells two texts apart. -/
def NoCollision (a b : String) : Prop :=
  Sha256.digest a.toUTF8.data.toList = Sha256.digest b.toUTF8.data.toList → a = b

theorem toList_subject (id : Uuid) (v : Int) : (subject id v).toList = id.write ++ ':' :: (toString v).toList := by
  simp [subject, Uuid.toText]

/-- What is in front of the first colon is the identifier. -/
theorem write_append_inj {id id' : Uuid} {rest rest' : List Char} (h : id.write ++ ':' :: rest = id'.write ++ ':' :: rest') :
    id = id' ∧ rest = rest' := by
  obtain ⟨hid, hrest⟩ := List.append_inj h (by rw [Uuid.length_write, Uuid.length_write])
  exact ⟨Uuid.write_inj hid, (List.cons.inj hrest).2⟩

theorem subject_inj {id id' : Uuid} {v v' : Int} (h : subject id v = subject id' v') : id = id' ∧ v = v' := by
  have hl := congrArg String.toList h
  rw [toList_subject, toList_subject] at hl
  obtain ⟨hid, hv⟩ := write_append_inj hl
  exact ⟨hid, Int.repr_inj.mp (String.toList_inj.mp hv)⟩

theorem generate_inj {id id' : Uuid} {v v' : Int} (hx : NoCollision (subject id v) (subject id' v')) :
    generate id v = generate id' v' ↔ id = id' ∧ v = v' := by
  constructor
  · intro h
    have htext := String.ofList_inj.mp (congrArg text h)
    simp only [enquote, List.cons_append, List.cons.injEq, true_and, List.append_cancel_right_eq] at htext
    exact subject_inj (hx (Sha256.State.hex_inj htext))
  · rintro ⟨rfl, rfl⟩
    rfl

/-! ## A tag as a header -/

theorem text_generate (id : Uuid) (v : Int) : ∃ digest : Sha256.State, (generate id v).text.toList = enquote digest.hex :=
  ⟨_, String.toList_ofList⟩

theorem items_of_tag (id : Uuid) (v : Int) : items (generate id v).text = [(generate id v).text.toList] := by
  obtain ⟨digest, htext⟩ := text_generate id v
  have hplain : ∀ c ∈ enquote digest.hex, Text.Plain c :=
    forall_mem_enquote (by decide) (digest.forall_mem_hex (by decide))
  rw [items, htext]
  exact Text.commaItems_of_plain (by simp [enquote]) hplain

theorem standsFor_tag {id : Uuid} {v : Int} {cand : List Char} :
    StandsFor (generate id v).text.toList cand ↔ (generate id v).text.toList = cand := by
  rw [standsFor_iff, and_iff_right (text_generate_ne_wildcard id v)]
  obtain ⟨digest, htext⟩ := text_generate id v
  rw [htext, enquote, List.cons_append, candidate_of_quoted]

/-- A digest in the form of a tag asserts no version: it has no colon in it. -/
theorem not_asserts_of_digest {item : List Char} {digest : Sha256.State} (h : StandsFor item (enquote digest.hex))
    (id : Uuid) (n : Int) : ¬ Asserts item id n := by
  rintro ⟨digits, hstands, -⟩
  have heq := (standsFor_iff.mp h).2.symm.trans (standsFor_iff.mp hstands).2
  simp only [enquote, List.cons_append, List.cons.injEq, true_and, List.append_cancel_right_eq] at heq
  have hcolon : ':' ∈ digest.hex := by rw [heq]; simp
  exact digest.forall_mem_hex (p := (· ≠ ':')) (by decide) ':' hcolon rfl

theorem not_asserts_of_tag (id id' : Uuid) (v n : Int) : ¬ Asserts (generate id v).text.toList id' n := by
  obtain ⟨digest, htext⟩ := text_generate id v
  exact not_asserts_of_digest (standsFor_tag.mpr htext) id' n

variable {id id' : Uuid} {v v' : Int}

theorem isMatchedBy_tag : (generate id' v').isMatchedBy (some (generate id v).text) = true ↔
    generate id' v' = generate id v := by
  rw [isMatchedBy_iff, items_of_tag]
  simp only [List.mem_singleton, exists_eq_left, text_generate_ne_wildcard, false_or, standsFor_tag, String.toList_inj]
  exact ⟨fun h => congrArg EntityTag.mk h.symm, fun h => congrArg text h.symm⟩

theorem isListedBy_tag : (generate id v).isListedBy (some (generate id v).text) = true := by
  rw [isListedBy_iff (text_generate_ne_wildcard id v), items_of_tag]
  exact ⟨_, List.mem_singleton.mpr rfl, standsFor_tag.mpr rfl⟩

theorem assertedVersion?_tag : assertedVersion? (some (generate id v).text) id' = none := by
  rw [assertedVersion?_eq_none_iff, items_of_tag]
  intro item hitem n
  rw [List.mem_singleton.mp hitem]
  exact not_asserts_of_tag id id' v n

theorem isBlankText_tag (id : Uuid) (v : Int) : Text.isBlankText (generate id v).text = false := by
  obtain ⟨digest, htext⟩ := text_generate id v
  rw [Text.isBlankText, htext]
  rfl

end EntityTag

/-! ## Headers that list digests -/

namespace EntityTag

/-- Every item of the header is a digest in the form of a tag: in quotes or bare, marked as weak or not. -/
def Digests (header : String) : Prop := ∀ item ∈ items header, ∃ digest : Sha256.State, StandsFor item (enquote digest.hex)

theorem grants_of_digests {header : String} {id : Uuid} {version : Int} (hd : Digests header)
    (hl : ∃ item ∈ items header, StandsFor item (generate id version).text.toList) : Grants header id version := by
  obtain ⟨item, hitem, hstands⟩ := hl
  refine ⟨⟨item, hitem, .inr hstands⟩, .inr ⟨fun other ho n => ?_, item, hitem, hstands⟩⟩
  obtain ⟨digest, hother⟩ := hd other ho
  exact not_asserts_of_digest hother id n

theorem items_of_blank {header : String} (h : Text.isBlankText header = true) : items header = [] :=
  Text.commaItems_of_blank (List.all_eq_true.mp h)

end EntityTag

theorem Preconditions.granted_of_digests {pre : Preconditions} {header : String} {id : Uuid} {version : Int}
    (hp : pre.ifMatch = some header) (hd : EntityTag.Digests header)
    (hl : ∃ item ∈ EntityTag.items header, EntityTag.StandsFor item (EntityTag.generate id version).text.toList) :
    pre.Granted id version := by
  refine ⟨header, hp, Bool.eq_false_iff.mpr fun hb => ?_, EntityTag.grants_of_digests hd hl⟩
  obtain ⟨item, hitem, -⟩ := hl
  rw [EntityTag.items_of_blank hb] at hitem
  cases hitem

theorem Preconditions.gateVersion_of_granted {α : Type} [Storable α] {pre : Preconditions} {row : Stored α}
    (h : pre.Granted row.id row.version) : pre.gateVersion row = .ok row.version := by
  rcases Preconditions.gateVersion_of_header h.hasIfMatch row with ⟨n, hok, hiff⟩ | ⟨f, -, -, hnot⟩
  · rw [hok, hiff.mpr h]
  · exact absurd h hnot

/-- The header that is the tag of a row settles its version for the rows that have this tag, and for no others. -/
theorem Preconditions.gateVersion_of_tag {α : Type} [Storable α] {pre : Preconditions} {id : Uuid} {v : Int}
    (hp : pre.ifMatch = some (EntityTag.generate id v).text) (row : Stored α) :
    pre.gateVersion row =
      if row.tag = EntityTag.generate id v then .ok row.version else .error .ifMatchStale := by
  rw [gateVersion_eq hp (EntityTag.isBlankText_tag id v), EntityTag.assertedVersion?_tag]
  by_cases htag : row.tag = EntityTag.generate id v
  · rw [if_pos htag, htag, if_pos (EntityTag.isMatchedBy_tag.mpr rfl)]
    exact if_pos EntityTag.isListedBy_tag
  · have hm : ¬ row.tag.isMatchedBy (some (EntityTag.generate id v).text) = true :=
      fun h => htag (EntityTag.isMatchedBy_tag.mp h)
    rw [if_neg htag, if_neg hm]

/-! ## Writes that are guarded by a tag -/

theorem CatalogM.tag_of_guarded {α : Type} [Storable α] {N : α → Prop} (hk : Kind α N) {s t : Session}
    (hs : s.store.Sound) {id id₀ : Uuid} {v₀ : Int} {pre : Preconditions}
    (hp : pre.ifMatch = some (EntityTag.generate id₀ v₀).text) {found : Stored α × Int}
    (h : (guarded α id pre).on s = (.ok found, t)) :
    ∃ row, s.store.row? (Storable.collection α) id = some row ∧
      EntityTag.generate id row.metadata.version = EntityTag.generate id₀ v₀ := by
  obtain ⟨hget, hgate, -⟩ := of_on_guarded h
  obtain ⟨row, hr, hv⟩ := Store.row?_of_get hget
  rw [Preconditions.gateVersion_of_tag hp] at hgate
  split at hgate
  · next htag =>
    have hid : found.1.id = id := (hs.of_get hk hget).2
    rw [Stored.tag, hid, ← hv] at htag
    exact ⟨row, hr, htag⟩
  · cases hgate

theorem CatalogM.guarded_of_placing {α : Type} [Storable α] {s t : Session} {id : Uuid} {pre : Preconditions}
    {create : CatalogM (Stored α)} {update : Int → CatalogM (Stored α)} {placed : Placed (Stored α)}
    (hn : pre.ifNoneMatch.map Text.trim ≠ some "*") (h : (placing id pre create update).on s = (.ok placed, t)) :
    ∃ found u, (guarded α id pre).on s = (.ok found, u) := by
  obtain ⟨purpose, u, hdecided, h⟩ := on_bind_eq_ok.mp h
  obtain ⟨hpurpose, rfl⟩ := Prod.mk.inj ((on_decided _ _).symm.trans hdecided)
  rw [Preconditions.purpose, if_neg hn] at hpurpose
  obtain ⟨_, -, hreplace⟩ := except_bind_eq_ok.mp hpurpose
  cases hreplace
  obtain ⟨found, v, hguarded, -⟩ := on_bind_eq_ok.mp h
  exact ⟨found, v, hguarded⟩

theorem on_guarded_of_tag {α : Type} [Storable α] {s : Session} (hq : s.Quiet) {id : Uuid} {row : Stored α}
    (hget : s.store.get α id = .ok (some row)) {pre : Preconditions} (hp : pre.ifMatch = some row.tag.text) :
    (guarded α id pre).on s = (.ok (row, row.version), s.called) := by
  rw [on_guarded hq hget, Preconditions.gateVersion_of_tag hp, if_pos (by rfl)]
  rfl

theorem Books.on_deleteGuarded_of_tag {s : Session} (hq : s.Quiet) {id : Uuid} {row : Stored Book}
    (hget : s.store.get Book id = .ok (some row)) {pre : Preconditions} (hp : pre.ifMatch = some row.tag.text) :
    (deleteGuarded id pre).on s = (delete id row.version).on s.called :=
  on_bind_ok (on_guarded_of_tag hq hget hp)

/-- A change that its headers settle begins by reading the row that they are about. -/
theorem Change.exists_guarded {change : Change} {collection : String} {id : Uuid} {pre : Preconditions}
    (hg : change.guard? = some (collection, id, pre)) (hn : pre.ifNoneMatch.map Text.trim ≠ some "*") {s t : Session}
    {answer : Answer} (h : change.run.on s = (.ok answer, t)) :
    (collection = Storable.collection Author ∧ ∃ found u, (guarded Author id pre).on s = (.ok found, u)) ∨
      collection = Storable.collection Book ∧ ∃ found u, (guarded Book id pre).on s = (.ok found, u) := by
  cases change <;> cases hg <;> obtain ⟨x, u, hrun, -⟩ := on_bind_eq_ok.mp h
  case putAuthor =>
    rw [Authors.put_eq] at hrun
    exact .inl ⟨rfl, guarded_of_placing hn hrun⟩
  case patchAuthor =>
    obtain ⟨found, v, hguarded, -⟩ := on_bind_eq_ok.mp hrun
    exact .inl ⟨rfl, found, v, hguarded⟩
  case deleteAuthorGuarded =>
    obtain ⟨found, v, hguarded, -⟩ := on_bind_eq_ok.mp hrun
    exact .inl ⟨rfl, found, v, hguarded⟩
  case putBook =>
    rw [Books.put_eq] at hrun
    exact .inr ⟨rfl, guarded_of_placing hn hrun⟩
  case patchBook =>
    obtain ⟨found, v, hguarded, -⟩ := on_bind_eq_ok.mp hrun
    exact .inr ⟨rfl, found, v, hguarded⟩
  case deleteBookGuarded =>
    obtain ⟨found, v, hguarded, -⟩ := on_bind_eq_ok.mp hrun
    exact .inr ⟨rfl, found, v, hguarded⟩

/-! ## Rows that are shown twice -/

/-- A client sees the row among those that the operation shows in this session. -/
structure Operation.Shows (operation : Operation) (s : Session) (a : Shown) : Prop where
  decoded : operation.Decoded
  shown : ∃ rows, (operation.run.on s).1 = .ok rows ∧ a ∈ rows

theorem Operation.Shows.isIn {operation : Operation} {s : Session} {a : Shown} (h : operation.Shows s a)
    (hs : s.store.Sound) : a.IsIn (operation.run.on s).2.store := by
  obtain ⟨rows, hrun, ha⟩ := h.shown
  exact shows_what_is_there h.decoded s _ rows hs (Prod.ext hrun rfl) a ha

namespace Shown

variable {a a' : Shown} {s t : Store}

theorem IsIn.exists_row (h : a.IsIn s) : ∃ row, s.row? a.collection a.id = some row ∧ row.metadata.version = a.version := by
  cases a with
  | author x => exact Store.row?_of_get h
  | book x => exact Store.row?_of_get h

theorem IsIn.meanwhile (h : a.IsIn s) (hs : s.Sound) (hm : Meanwhile a.collection a.id s t) {row : Row}
    (hr : t.row? a.collection a.id = some row) (hv : row.metadata.version = a.version) : a.IsIn t := by
  cases a with
  | author x => exact Meanwhile.current hm hs h hr hv
  | book x => exact Meanwhile.current hm hs h hr hv

theorem IsIn.eq (h : a.IsIn s) (h' : a'.IsIn s) (hc : a'.collection = a.collection) (hid : a'.id = a.id) : a' = a := by
  cases a with
  | author x =>
    cases a' with
    | author x' => exact congrArg author (h'.eq hid h)
    | book x' => exact absurd (show "books" = "authors" from hc) (by decide)
  | book x =>
    cases a' with
    | author x' => exact absurd (show "authors" = "books" from hc) (by decide)
    | book x' => exact congrArg book (h'.eq hid h)

theorem tag_eq (a : Shown) : a.tag = EntityTag.generate a.id a.version := by
  cases a <;> rfl

end Shown

theorem Operation.sound {operation : Operation} (hd : operation.Decoded) {s : Session} (hs : s.store.Sound) :
    (operation.run.on s).2.store.Sound := by
  cases operation with
  | change c =>
    have hsession : ((Operation.change c).run.on s).2 = (c.run.on s).2 := on_map_session c.run Answer.shown s
    rw [hsession]
    exact (Change.keeps hd (keptBy_sound _) s hs).1
  | inquiry i =>
    have hstore : ((Operation.inquiry i).run.on s).2.store = s.store := i.readOnly s
    rw [hstore]
    exact hs

theorem Meanwhile.operation {collection : String} {id : Uuid} {s : Store} {t : Session} {operation : Operation}
    (hm : Meanwhile collection id s t.store) (hd : operation.Decoded)
    (hc : ¬ Creates collection id t.store (operation.run.on t).2.store) :
    Meanwhile collection id s (operation.run.on t).2.store := by
  cases operation with
  | change c =>
    have hsession : ((Operation.change c).run.on t).2 = (c.run.on t).2 := on_map_session c.run Answer.shown t
    rw [hsession] at hc ⊢
    exact .change hm hd hc
  | inquiry i =>
    have hstore : ((Operation.inquiry i).run.on t).2.store = t.store := i.readOnly t
    rw [hstore]
    exact hm

open EntityTag in
/-- A row that a client has seen, and that nobody has created again since: where a row of its collection is shown with
the same tag later, it is that row, just as it was; and a write that is guarded by the tag is only done to that row,
just as it was. The answer to a write shows the value that was written, and a later read what its text is read as: that
their amounts are the same is assumed with `Row.read`. -/
theorem tag_names_one_state {s s' : Session} (h : Reachable s.store) {operation : Operation} {a : Shown}
    (ha : operation.Shows s a) (hm : Meanwhile a.collection a.id (operation.run.on s).2.store s'.store) :
    (∀ (later : Operation) (a' : Shown), later.Shows s' a' →
      ¬ Creates a.collection a.id s'.store (later.run.on s').2.store → a'.collection = a.collection →
      NoCollision (subject a'.id a'.version) (subject a.id a.version) → a'.tag = a.tag → a' = a) ∧
    ∀ (change : Change) (id : Uuid) (pre : Preconditions) (answer : Answer),
      change.guard? = some (a.collection, id, pre) → pre.ifMatch = some a.tag.text →
      pre.ifNoneMatch.map Text.trim ≠ some "*" →
      (∀ row, s'.store.row? a.collection id = some row →
        NoCollision (subject id row.metadata.version) (subject a.id a.version)) →
      (change.run.on s').1 = .ok answer → id = a.id ∧ a.IsIn s'.store := by
  have hsound := Operation.sound ha.decoded h.sound
  have hsound' := hm.sound hsound
  have hshown := ha.isIn h.sound
  refine ⟨fun later a' ha' hc hcol hx htag => ?_, fun change id pre answer hg hp hn hx hok => ?_⟩
  · -- the tag tells the version, and at the version of `a` the store still has `a`
    rw [a.tag_eq, a'.tag_eq, generate_inj hx] at htag
    obtain ⟨hid, hv⟩ := htag
    have hshown' := ha'.isIn hsound'
    obtain ⟨row, hr, hrow⟩ := hshown'.exists_row
    rw [hcol, hid] at hr
    have hstill := hshown.meanwhile hsound (hm.operation ha'.decoded hc) hr (hrow.trans hv)
    exact hstill.eq hshown' hcol hid
  · rw [a.tag_eq] at hp
    -- the write has read a row that carries the tag, and without collisions that is the place and version of `a`
    have hrow : ∃ row, s'.store.row? a.collection id = some row ∧
        generate id row.metadata.version = generate a.id a.version := by
      rcases Change.exists_guarded hg hn (Prod.ext hok rfl) with ⟨hcol, found, u, hguarded⟩ | ⟨hcol, found, u, hguarded⟩
      · rw [hcol]
        exact tag_of_guarded authors_kind hsound' hp hguarded
      · rw [hcol]
        exact tag_of_guarded books_kind hsound' hp hguarded
    obtain ⟨row, hr, htag⟩ := hrow
    obtain ⟨rfl, hv⟩ := (generate_inj (hx row hr)).mp htag
    exact ⟨rfl, hshown.meanwhile hsound hm hr hv⟩

/-! ## The notes and the diary -/

def beginning : Session := Session.start Session.noOutages

/-- The notes as they are shown when they are created. -/
def notesAtFirst : Stored Book := ⟨notes, ⟨1, 1, 0⟩⟩

/-- The headers of a client that has seen the notes when they were created. -/
def byTheirTag : Preconditions := { ifMatch := some notesAtFirst.tag.text }

def diary : Book := { notes with title := "Diary" }

theorem notes_are_shown : (Operation.change (.createBook notes.id notes.likewise)).Shows beginning (.book notesAtFirst) :=
  ⟨⟨notes.likewise.toJson, rfl⟩, _, rfl, List.mem_singleton.mpr rfl⟩

/-- A client deletes the notes by their tag, and they are as it has seen them. -/
theorem notes_are_deleted_by_their_tag :
    let s := ((Operation.change (.createBook notes.id notes.likewise)).run.on beginning).2
    let s' := ((Change.createAuthor ada ⟨"Ada"⟩).run.on s).2
    ((Change.deleteBookGuarded notes.id byTheirTag).run.on s').1 = .ok .gone ∧ s'.store.Has notesAtFirst := by
  intro s s'
  have hm : Meanwhile "books" notes.id s.store s'.store :=
    .change .start ⟨Author.Request.toJson ⟨"Ada"⟩, rfl⟩ fun hc => by cases hc.1
  have hq : s'.Quiet := rfl
  have hget : s'.store.get Book notes.id = .ok (some notesAtFirst) := rfl
  have hp : byTheirTag.ifMatch = some notesAtFirst.tag.text := rfl
  have hdelete := Books.on_deleteGuarded_of_tag hq hget hp
  have hok : ((Change.deleteBookGuarded notes.id byTheirTag).run.on s').1 = .ok .gone := by
    rw [Change.run, on_map, hdelete]
    rfl
  have hx : ∀ row, s'.store.row? "books" notes.id = some row →
      EntityTag.NoCollision (EntityTag.subject notes.id row.metadata.version) (EntityTag.subject notes.id 0) := by
    intro row hr
    cases hr
    exact fun _ => rfl
  obtain ⟨-, hguard⟩ := tag_names_one_state Reachable.empty notes_are_shown hm
  exact ⟨hok, (hguard _ notes.id byTheirTag .gone rfl rfl (by decide) hx hok).2⟩

/-- The diary is created in the place of the notes. It has the tag that the notes had, and a client that has seen the
notes deletes it. -/
theorem a_tag_outlives_its_row :
    let s := beginning.after [.createBook notes.id notes.likewise, .deleteBook notes.id 0]
    let create := Operation.change (.createBook notes.id diary.likewise)
    (Operation.change (.createBook notes.id notes.likewise)).Shows beginning (.book notesAtFirst) ∧
    ∃ row : Stored Book, create.Shows s (.book row) ∧ row.tag = notesAtFirst.tag ∧ row.data ≠ notesAtFirst.data ∧
      ((Change.deleteBookGuarded notes.id byTheirTag).run.on (create.run.on s).2).1 = .ok .gone := by
  intro s create
  have hq : (create.run.on s).2.Quiet := rfl
  have hget : (create.run.on s).2.store.get Book notes.id = .ok (some ⟨diary, ⟨2, 2, 0⟩⟩) := rfl
  have hp : byTheirTag.ifMatch = some (Stored.tag ⟨diary, ⟨2, 2, 0⟩⟩).text := rfl
  have hdelete := Books.on_deleteGuarded_of_tag hq hget hp
  have htitle : diary.title ≠ notes.title := by decide
  refine ⟨notes_are_shown, ⟨diary, ⟨2, 2, 0⟩⟩, ⟨⟨diary.likewise.toJson, rfl⟩, _, rfl, List.mem_singleton.mpr rfl⟩, rfl,
    fun h => htitle (congrArg Book.title h), ?_⟩
  rw [Change.run, on_map, hdelete]
  rfl

end Bookshop
