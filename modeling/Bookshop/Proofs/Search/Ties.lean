/-
  Bookshop.Proofs.Search.Ties — which books tie, and that a sort leaves nothing else open.

  A comparison that puts things in one line lets some of them tie. A sort is stable if its result is in that order and
  whatever ties with any one stands as it stood before (`SortsStably`). Such a result can be told from its first item
  on, so there is one (`eq_of_ties_eq`), whichever algorithm sorts.

  All criteria put the books that were found in one line, whatever their prices and scores are. Floats are compared by
  their bits, and more bits are no number than there are such floats here; so the same is shown of any bits at all
  (`compareByBits`).

  The usual criteria end with the time of the last write, and no two rows of a store were written last at one time,
  whatever the clock shows. So no two books of a store tie under them (`usual_ne_eq`), and there is one order of the
  books that match even for a sort that is not stable.

  - `results_come_in_one_order`: all of this, and the pages of a search in the usual order are those of that one list.
-/

import Bookshop.Proofs.Search.Results
import Bookshop.Proofs.Store.Reads

namespace Bookshop

namespace Search

/-! ## Stable sorts -/

section

variable {α : Type}

/-- A comparison that puts everything in one line, in which some may tie. -/
structure TotalPreorder (cmp : α → α → Ordering) : Prop where
  refl : ∀ a, cmp a a = .eq
  reverse : ∀ a b, cmp b a = (cmp a b).swap
  notAfter_trans : ∀ a b c, cmp a b ≠ .gt → cmp b c ≠ .gt → cmp a c ≠ .gt
  tie_trans : ∀ a b c, cmp a b = .eq → cmp b c = .eq → cmp a c = .eq

/-- The items of a list that tie with one. -/
def ties (cmp : α → α → Ordering) (a : α) (items : List α) : List α := items.filter (fun b => cmp a b == .eq)

/-- The list is the other one in order, and the items that tie with any one stand as they stood there. -/
structure SortsStably (cmp : α → α → Ordering) (items sorted : List α) : Prop where
  ordered : sorted.Pairwise fun a b => cmp a b ≠ .gt
  ties : ∀ a, ties cmp a sorted = ties cmp a items

variable {cmp : α → α → Ordering} {a b : α} {items others sorted : List α}

theorem mem_ties : b ∈ ties cmp a items ↔ b ∈ items ∧ cmp a b = .eq := by
  rw [ties, List.mem_filter, beq_iff_eq]

variable [Std.TransCmp cmp]

theorem totalPreorder_of_transCmp : TotalPreorder cmp where
  refl _ := Std.ReflCmp.compare_self
  reverse _ _ := Std.OrientedCmp.eq_swap
  notAfter_trans a b c hab hbc := by
    rw [← bne_iff_ne] at hab hbc ⊢
    exact notAfter_trans cmp a b c hab hbc
  tie_trans _ _ _ := Std.TransCmp.eq_trans

theorem tie_of_notAfter (hab : cmp a b ≠ .gt) (hba : cmp b a ≠ .gt) : cmp a b = .eq := by
  have hswap : cmp b a = (cmp a b).swap := Std.OrientedCmp.eq_swap
  rw [hswap] at hba
  cases hc : cmp a b with
  | lt => simp [hc] at hba
  | eq => rfl
  | gt => exact absurd hc hab

/-- Everything ties with itself, so lists with the same ties have the same items. -/
theorem mem_of_ties_eq (h : ∀ a, ties cmp a items = ties cmp a others) (ha : a ∈ items) : a ∈ others := by
  have hself : a ∈ ties cmp a items := mem_ties.mpr ⟨ha, Std.ReflCmp.compare_self⟩
  rw [h a] at hself
  exact (mem_ties.mp hself).1

/-- Lists in order that have the same ties are the same. -/
theorem eq_of_ties_eq (hitems : items.Pairwise fun a b => cmp a b ≠ .gt)
    (hothers : others.Pairwise fun a b => cmp a b ≠ .gt) (h : ∀ a, ties cmp a items = ties cmp a others) :
    items = others := by
  have hself (a : α) : cmp a a = .eq := Std.ReflCmp.compare_self
  induction items generalizing others with
  | nil =>
    refine (List.eq_nil_iff_forall_not_mem.mpr fun b hb => ?_).symm
    exact absurd (mem_of_ties_eq (fun a => (h a).symm) hb) List.not_mem_nil
  | cons a items ih =>
    cases others with
    | nil => exact absurd (mem_of_ties_eq h List.mem_cons_self) List.not_mem_nil
    | cons b others =>
      obtain ⟨ha, hitemsRest⟩ := List.pairwise_cons.mp hitems
      obtain ⟨hb, hothersRest⟩ := List.pairwise_cons.mp hothers
      -- each of the first items is in both lists, so neither is after the other
      have hab : cmp a b ≠ .gt := by
        rcases List.mem_cons.mp (mem_of_ties_eq (fun a => (h a).symm) List.mem_cons_self) with rfl | hm
        · simp [hself]
        · exact ha b hm
      have hba : cmp b a ≠ .gt := by
        rcases List.mem_cons.mp (mem_of_ties_eq h List.mem_cons_self) with rfl | hm
        · simp [hself]
        · exact hb a hm
      have hfirst := h a
      rw [ties, ties, List.filter_cons_of_pos (by simp [hself]),
        List.filter_cons_of_pos (by simp [tie_of_notAfter hab hba])] at hfirst
      obtain ⟨rfl, -⟩ := List.cons.inj hfirst
      have hrest : ∀ c, ties cmp c items = ties cmp c others := by
        intro c
        have hc := h c
        simp only [ties, List.filter_cons] at hc
        split at hc
        · exact (List.cons.inj hc).2
        · exact hc
      rw [ih hitemsRest hothersRest hrest]

theorem sortsStably_mergeSort (items : List α) : SortsStably cmp items (items.mergeSort fun a b => cmp a b != .gt) := by
  have htrans := notAfter_trans cmp
  have htotal := notAfter_total cmp
  refine ⟨(List.pairwise_mergeSort htrans htotal items).imp fun hab => bne_iff_ne.mp hab, fun a => ?_⟩
  -- the ties are in order already, so sorting leaves them a part of its result
  have hordered : (ties cmp a items).Pairwise fun b c => (cmp b c != .gt) = true := by
    refine List.pairwise_of_forall_mem_list fun b hb c hc => ?_
    have hba : cmp b a = .eq := by
      rw [(Std.OrientedCmp.eq_swap : cmp b a = (cmp a b).swap), (mem_ties.mp hb).2]
      rfl
    rw [Std.TransCmp.eq_trans hba (mem_ties.mp hc).2]
    rfl
  have hpart : (ties cmp a items).Sublist (items.mergeSort fun a b => cmp a b != .gt) :=
    List.sublist_mergeSort htrans htotal hordered List.filter_sublist
  have hties := hpart.filter fun b => cmp a b == .eq
  rw [ties, List.filter_filter] at hties
  simp only [Bool.and_self] at hties
  exact (hties.eq_of_length ((List.mergeSort_perm items _).symm.filter _).length_eq).symm

/-- There is one stable sort. -/
theorem sortsStably_iff : SortsStably cmp items sorted ↔ sorted = items.mergeSort fun a b => cmp a b != .gt := by
  constructor
  · intro h
    have hsort : SortsStably cmp items (items.mergeSort fun a b => cmp a b != .gt) := sortsStably_mergeSort items
    exact eq_of_ties_eq h.ordered hsort.ordered fun a => (h.ties a).trans (hsort.ties a).symm
  · rintro rfl
    exact sortsStably_mergeSort items

end

/-! ## Any bits -/

/-- A book that was found, with any bits for its price and its score. -/
structure Bits where
  found : Found
  price : UInt64
  score : UInt64

def Found.bits (f : Found) : Bits := ⟨f, f.book.data.price.amount.toBits, f.score.toBits⟩

/-- The place of a float with these bits among all floats. -/
def rankOfBits (bits : UInt64) : Int :=
  if bits.toNat < 0x8000000000000000 then bits.toNat else 0x7FFFFFFFFFFFFFFF - (bits.toNat : Int)

def Property.compareBits (property : Property) (a b : Bits) : Ordering :=
  match property with
  | .price => Ord.compare (rankOfBits a.price) (rankOfBits b.price)
  | .rank => Ord.compare (rankOfBits a.score) (rankOfBits b.score)
  | _ => property.compare a.found b.found

def Criterion.compareBits (criterion : Criterion) (a b : Bits) : Ordering :=
  match criterion.direction with
  | .ascending => criterion.property.compareBits a b
  | .descending => (criterion.property.compareBits a b).swap

def compareByBits : List Criterion → Bits → Bits → Ordering
  | [], _, _ => .eq
  | criterion :: rest, a, b => (criterion.compareBits a b).then (compareByBits rest a b)

theorem compareByBits_bits (criteria : List Criterion) (f g : Found) :
    compareByBits criteria f.bits g.bits = compareBy criteria f g := by
  induction criteria with
  | nil => rfl
  | cons criterion rest ih =>
    obtain ⟨property, direction⟩ := criterion
    have hproperty : property.compareBits f.bits g.bits = property.compare f g := by cases property <;> rfl
    have hcriterion : (Criterion.mk property direction).compareBits f.bits g.bits =
        (Criterion.mk property direction).compare f g := by
      cases direction with
      | ascending => exact hproperty
      | descending => exact congrArg Ordering.swap hproperty
    rw [compareByBits, compareBy, ih, hcriterion]

instance (property : Property) : Std.TransCmp property.compareBits := by
  cases property with
  | price => exact transCmp_key (fun b : Bits => rankOfBits b.price) Ord.compare
  | rank => exact transCmp_key (fun b : Bits => rankOfBits b.score) Ord.compare
  | title => exact transCmp_key Bits.found Property.title.compare
  | author => exact transCmp_key Bits.found Property.author.compare
  | genre => exact transCmp_key Bits.found Property.genre.compare
  | created => exact transCmp_key Bits.found Property.created.compare
  | updated => exact transCmp_key Bits.found Property.updated.compare
  | constant => exact transCmp_key Bits.found Property.constant.compare

instance (criterion : Criterion) : Std.TransCmp criterion.compareBits := by
  obtain ⟨property, direction⟩ := criterion
  cases direction with
  | ascending => exact inferInstanceAs (Std.TransCmp property.compareBits)
  | descending => exact transCmp_swap property.compareBits

instance (criteria : List Criterion) : Std.TransCmp (compareByBits criteria) := by
  induction criteria with
  | nil => exact { eq_swap := rfl, isLE_trans := fun _ _ => rfl }
  | cons criterion rest ih =>
    show Std.TransCmp (compareLex criterion.compareBits (compareByBits rest))
    infer_instance

end Search

open Search

/-! ## The usual order -/

/-- Two books of a store do not tie, since they were not written last at one time. -/
theorem usual_ne_eq {log : List Record} {s : Store} (h : History log s) {id id' : Uuid} {f g : Found}
    (hf : s.get Book id = .ok (some f.book)) (hg : s.get Book id' = .ok (some g.book)) (hne : id ≠ id')
    (hasScore : Bool) : compareBy (Criterion.usual hasScore) f g ≠ .eq := by
  intro htie
  have htime : ∀ {id : Uuid} {book : Stored Book}, s.get Book id = .ok (some book) →
      s.keys (·.metadata.updated) (Storable.collection Book) id = some book.metadata.updated := by
    intro id book hget
    obtain ⟨row, hr, hread⟩ := Store.get_eq_some.mp hget
    rw [Store.keys, hr, Row.metadata_of_read hread, Option.map_some]
  have hsame : f.book.metadata.updated = g.book.metadata.updated := by
    rw [Criterion.usual, compareBy, compareBy, Ordering.then_eq_eq, Ordering.then_eq_eq] at htie
    have hswap : (compare f.book.metadata.updated g.book.metadata.updated).swap = .eq := htie.2.1
    rw [Ordering.swap_eq_eq] at hswap
    exact Nat.compare_eq_eq.mp hswap
  exact hne ((h.linedUp marks_updated _).eq_of_key (hsame ▸ htime hf) (htime hg))

/-- The list has every book that matches, each once, and no book after a later one. -/
structure Store.Arranges (s : Store) (plan : Plan) (criteria : List Criterion) (listed : List Found) : Prop where
  nodup : listed.Nodup
  mem : ∀ f, f ∈ listed ↔ s.Matches plan f
  ordered : listed.Pairwise fun f g => compareBy criteria f g ≠ .gt

theorem Store.Matches.eq {s : Store} {plan : Plan} {f g : Found} (hf : s.Matches plan f) (hg : s.Matches plan g)
    (hid : f.book.id = g.book.id) : f = g := by
  have hbook : f.book = g.book := Store.Has.eq hf.present hid hg.present
  rw [Found.mk.injEq]
  exact ⟨hbook, by rw [hf.names, hg.names, hbook], by rw [hf.score, hg.score, hbook]⟩

theorem Store.Arranges.eq {log : List Record} {s : Store} (h : History log s) {plan : Plan} {hasScore : Bool}
    {listed others : List Found} (hl : s.Arranges plan (Criterion.usual hasScore) listed)
    (ho : s.Arranges plan (Criterion.usual hasScore) others) : others = listed := by
  have hsame : others.Perm listed :=
    (List.perm_ext_iff_of_nodup ho.nodup hl.nodup).mpr fun f => (ho.mem f).trans (hl.mem f).symm
  refine hsame.eq_of_pairwise (fun f g hf hg hfg hgf => ?_) ho.ordered hl.ordered
  have hmf := (ho.mem f).mp hf
  have hmg := (hl.mem g).mp hg
  refine hmf.eq hmg ?_
  by_contra hne
  exact usual_ne_eq h hmf.present hmg.present hne hasScore (tie_of_notAfter hfg hgf)

/-- For any criteria, all books that can be found are in one line, whatever bits their prices and scores have, and there
is one stable sort by them. After any run of the store no two of its books tie under the usual criteria. So if its books
decode, there is one list of the books that match a plan in the usual order, and the pages of a search are the pages of
that list. -/
theorem results_come_in_one_order (criteria : List Criterion) {log : List Record} {s : Store} (h : History log s) :
    TotalPreorder (compareByBits criteria) ∧ TotalPreorder (compareBy criteria) ∧
    (∀ f g : Found, compareByBits criteria f.bits g.bits = compareBy criteria f g) ∧
    (∀ rows sorted others : List Bits, SortsStably (compareByBits criteria) rows sorted →
      SortsStably (compareByBits criteria) rows others → others = sorted) ∧
    (∀ found sorted : List Found, SortsStably (compareBy criteria) found sorted ↔ sorted = sortBy criteria found) ∧
    (∀ (id id' : Uuid) (f g : Found), s.get Book id = .ok (some f.book) → s.get Book id' = .ok (some g.book) →
      id ≠ id' → ∀ hasScore, compareBy (Criterion.usual hasScore) f g ≠ .eq) ∧
    (Plain log → Only Book log → Only Author log → s.Decodes Book →
      ∀ (plan : Plan) (hasScore : Bool), ∃ listed : List Found,
        s.Arranges plan (Criterion.usual hasScore) listed ∧
        (∀ others, s.Arranges plan (Criterion.usual hasScore) others → others = listed) ∧
        ∀ (t : Session) (page : Window), t.Quiet → t.store = s →
          ((execute plan (Criterion.usual hasScore) page).on t).1 = .ok (page.apply listed)) := by
  refine ⟨totalPreorder_of_transCmp, totalPreorder_of_transCmp, compareByBits_bits criteria,
    fun _ _ _ hs ho => (sortsStably_iff.mp ho).trans (sortsStably_iff.mp hs).symm, fun _ _ => sortsStably_iff,
    fun _ _ _ _ hf hg hne hasScore => usual_ne_eq h hf hg hne hasScore, ?_⟩
  intro hp hbooks hauthors hb plan hasScore
  have hlb := h.legible_book hp hbooks hb
  obtain ⟨found, hmem, hsub, hrun⟩ := on_execute hlb (h.legible_author hp hauthors) plan
  have hsorts := sorts_sortBy (Criterion.usual hasScore) found
  have hnodup : found.Nodup := List.Nodup.of_map _ (hlb.nodup_inOrder.sublist hsub)
  have hlisted : s.Arranges plan (Criterion.usual hasScore) (sortBy (Criterion.usual hasScore) found) :=
    ⟨hsorts.perm.nodup_iff.mpr hnodup, fun f => hsorts.perm.mem_iff.trans (hmem f), hsorts.ordered⟩
  exact ⟨_, hlisted, fun _ ho => hlisted.eq h ho, fun t page hq ht => hrun t hq ht _ page⟩

/-- The clock showed one time when two books came in. The second is listed as the newer all the same. -/
theorem two_books_of_one_moment :
    let s1 := (Write.insert notes).after 5 .empty
    let s := (Write.insert letters).after 5 s1
    let log := [recordOf (.insert letters) 5 s1, recordOf (.insert notes) 5 .empty]
    let f : Found := ⟨⟨notes, ⟨5, 5, 0⟩⟩, [], 0.0⟩
    let g : Found := ⟨⟨letters, ⟨6, 6, 0⟩⟩, [], 0.0⟩
    History log s ∧ s.get Book notes.id = .ok (some f.book) ∧ s.get Book letters.id = .ok (some g.book) ∧
      notes.id ≠ letters.id ∧ compareBy (Criterion.usual true) f g ≠ .eq ∧
      Plain log ∧ Only Book log ∧ Only Author log ∧ s.Decodes Book ∧
      ∀ t : Session, t.Quiet → t.store = s →
        ((execute ⟨.simple, [], [], []⟩ (Criterion.usual false) ⟨0, 1⟩).on t).1 = .ok ⟨[g], 2, 2, 1, 1⟩ := by
  intro s1 s log f g
  have h : History log s := (History.start.call _ 5).call _ 5
  have hp : Plain log := by unfold Plain; decide
  have hbooks : Only Book log := (Only.nil.insert 5 _ _).insert 5 _ _
  have hauthors : Only Author log := (Only.nil.elsewhere 5 _ (by decide)).elsewhere 5 _ (by decide)
  have hrows : s.rows = [Row.fresh letters 6 1, Row.fresh notes 5 0] := rfl
  have hb : s.Decodes Book := (Store.decodes_empty.insert 5 rfl).insert 5 rfl
  have hf : s.get Book notes.id = .ok (some f.book) := rfl
  have hg : s.get Book letters.id = .ok (some g.book) := rfl
  have hne : notes.id ≠ letters.id := by decide
  have harranged : s.Arranges ⟨.simple, [], [], []⟩ (Criterion.usual false) [g, f] := by
    have hmg : s.Matches ⟨.simple, [], [], []⟩ g := ⟨hg, fun _ hc => absurd hc List.not_mem_nil, rfl, rfl⟩
    have hmf : s.Matches ⟨.simple, [], [], []⟩ f := ⟨hf, fun _ hc => absurd hc List.not_mem_nil, rfl, rfl⟩
    refine ⟨by decide, fun e => ⟨fun he => ?_, fun hm => ?_⟩, by decide⟩
    · simp only [List.mem_cons, List.not_mem_nil, or_false] at he
      rcases he with rfl | rfl
      · exact hmg
      · exact hmf
    · obtain ⟨row, hr, hread⟩ := Store.get_eq_some.mp hm.present
      have hrow := (Store.row?_some hr).1
      rw [hrows] at hrow
      simp only [List.mem_cons, List.not_mem_nil, or_false] at hrow ⊢
      rcases hrow with rfl | rfl
      · exact .inl (hm.eq hmg (congrArg Stored.id (Except.ok.inj hread).symm))
      · exact .inr (hm.eq hmf (congrArg Stored.id (Except.ok.inj hread).symm))
  obtain ⟨-, -, -, -, -, hstrict, hone⟩ := results_come_in_one_order [] h
  obtain ⟨listed, -, hunique, hpages⟩ := hone hp hbooks hauthors hb ⟨.simple, [], [], []⟩ false
  obtain rfl := hunique _ harranged
  have hpage : Window.apply ⟨0, 1⟩ [g, f] = ⟨[g], 2, 2, 1, 1⟩ := by decide
  refine ⟨h, hf, hg, hne, hstrict _ _ f g hf hg hne true, hp, hbooks, hauthors, hb, fun t hq ht => ?_⟩
  rw [← hpage]
  exact hpages t ⟨0, 1⟩ hq ht

end Bookshop
