/-
  Bookshop.Proofs.Web.ClientPages — the pages that clients ask for, under every accepted setting.

  Settings that were read have a usual page size between 1 and the largest (`Settings.proper_of_read`), so whatever
  a client asks for, there is room for an item on the page and for no more than the largest size allows
  (`Window.size_ofClient`). Offsets are kept within 64 bits, but no result is so long that this shows: a page has
  the items between its bounds, computed without bound (`Window.slice_eq_between`).

  - `client_pages_are_exact`: so it is with every page of every result, and the pages up to the last one there is
    are the result, cut in order.
-/

import Bookshop.Proofs.Resources.Normal
import Bookshop.Proofs.Search.Pages
import Bookshop.Settings

namespace Bookshop

/-! ## Sizes -/

/-- A page of the usual size has room for an item, and is not larger than allowed. -/
structure PageSizes.Proper (sizes : PageSizes) : Prop where
  roomy : 1 ≤ sizes.usual
  allowed : sizes.usual ≤ sizes.largest

namespace Settings

theorem pos_of_pageSize {variableName : String} {value : Option String} {default size : Nat} (hd : 1 ≤ default)
    (h : pageSize variableName value default = .ok size) : 1 ≤ size := by
  unfold pageSize at h
  split at h
  · cases h
    exact hd
  · split at h
    · cases h
      exact Nat.le_add_left 1 _
    · cases h

theorem proper_of_read {lookup : String → Option String} {settings : Settings} (h : read lookup = .ok settings) :
    settings.pageSizes.Proper := by
  obtain ⟨_, -, h⟩ := except_bind_eq_ok.mp h
  obtain ⟨usual, husual, h⟩ := except_bind_eq_ok.mp h
  obtain ⟨largest, -, h⟩ := except_bind_eq_ok.mp h
  split at h
  · cases h
  · next hle =>
    cases h
    exact ⟨pos_of_pageSize (by decide) husual, Nat.le_of_not_lt hle⟩

end Settings

namespace Window

theorem size_ofClient {sizes : PageSizes} (h : sizes.Proper) (number size : Option Int) :
    1 ≤ (ofClient number size sizes).size ∧ (ofClient number size sizes).size ≤ sizes.largest := by
  obtain ⟨hroomy, hallowed⟩ := h
  simp only [ofClient, make]
  split
  · split <;> omega
  · omega

theorem number_ofClient (number size : Option Int) (sizes : PageSizes) :
    ((ofClient number size sizes).number : Int) = max (number.getD 1) 1 - 1 := by
  simp only [ofClient, make]
  omega

/-- Who asks for a page by its number gets the page of that number, of the same size as any other. -/
theorem ofClient_succ (k : Nat) (number size : Option Int) (sizes : PageSizes) :
    ofClient (some (k + 1)) size sizes = make k (ofClient number size sizes).size := by
  have hnumber := number_ofClient (some (k + 1)) size sizes
  have hk : (ofClient (some (k + 1)) size sizes).number = k := by
    rw [Option.getD_some] at hnumber
    omega
  have hsize : max (ofClient number size sizes).size 1 = (ofClient number size sizes).size :=
    Nat.max_eq_left (Nat.le_max_right _ 1)
  rw [make, hsize]
  exact congrArg (fun n => Window.mk n (ofClient number size sizes).size) hk

end Window

/-! ## Items -/

variable {α : Type}

/-- The items at the places from `low` up to, but not with, `high`. -/
def itemsBetween (low high : Int) (items : List α) : List α :=
  (items.zipIdx.filter fun x => low ≤ x.2 ∧ x.2 < high).map Prod.fst

theorem filter_zipIdx (low high start : Nat) (items : List α) :
    ((items.zipIdx start).filter fun x => low ≤ x.2 ∧ x.2 < high).map Prod.fst =
      (items.drop (low - start)).take (high - max low start) := by
  induction items generalizing start with
  | nil => simp
  | cons item items ih =>
    rw [List.zipIdx_cons]
    by_cases hlow : low ≤ start
    · have hdrop : low - start = 0 ∧ low - (start + 1) = 0 := by omega
      by_cases hhigh : start < high
      · have htake : high - max low start = high - max low (start + 1) + 1 := by omega
        rw [List.filter_cons_of_pos (by simp [hlow, hhigh]), List.map_cons, ih, htake, hdrop.1, hdrop.2]
        rfl
      · have htake : high - max low start = 0 ∧ high - max low (start + 1) = 0 := by omega
        rw [List.filter_cons_of_neg (by simp [hhigh]), ih, htake.1, htake.2, List.take_zero, List.take_zero]
    · have hdrop : low - start = low - (start + 1) + 1 := by omega
      have htake : max low start = max low (start + 1) := by omega
      rw [List.filter_cons_of_neg (by simp [hlow]), ih, hdrop, htake, List.drop_succ_cons]

theorem itemsBetween_eq (low high : Nat) (items : List α) :
    itemsBetween low high items = (items.drop low).take (high - low) := by
  have h := filter_zipIdx low high 0 items
  simpa only [itemsBetween, Nat.cast_le, Nat.cast_lt, Nat.sub_zero, Nat.max_eq_left (Nat.zero_le low)] using h

/-- The offset that stays within 64 bits comes to the same as the one that does not. -/
theorem Window.slice_eq_between {items : List α} (h : items.length < UInt64.size) (window : Window) :
    window.slice items = itemsBetween (window.number * window.size) ((window.number + 1) * window.size) items := by
  have hbetween := itemsBetween_eq (window.number * window.size) ((window.number + 1) * window.size) items
  push_cast at hbetween
  rw [hbetween, slice_eq h, Nat.succ_mul, Nat.add_sub_cancel_left]

theorem client_pages_are_exact {lookup : String → Option String} {settings : Settings}
    (h : Settings.read lookup = .ok settings) (number size : Option Int) {items : List α}
    (hfit : items.length < UInt64.size) :
    let window := Window.ofClient number size settings.pageSizes
    let page := window.apply items
    let p : Int := max (number.getD 1) 1
    let s : Int := window.size
    (1 ≤ s ∧ s ≤ settings.pageSizes.largest) ∧ page.content = itemsBetween ((p - 1) * s) (p * s) items ∧
      page.info.number = p ∧ page.info.totalElements = items.length ∧
      page.info.totalPages = items.length ⌈/⌉ window.size ∧
      (∀ k : Nat, Window.ofClient (some (k + 1)) size settings.pageSizes = .make k window.size) ∧
      ((List.range page.info.totalPages).flatMap fun k => ((Window.make k window.size).apply items).content) = items ∧
      ∀ k ≥ page.info.totalPages, ((Window.make k window.size).apply items).content = [] := by
  intro window page p s
  obtain ⟨hroomy, hallowed⟩ := Window.size_ofClient (Settings.proper_of_read h) number size
  have hnumber : (window.number : Int) = p - 1 := Window.number_ofClient number size settings.pageSizes
  have hs : 1 ≤ s ∧ s ≤ settings.pageSizes.largest := ⟨Int.ofNat_le.mpr hroomy, Int.ofNat_le.mpr hallowed⟩
  have htotal : page.info.totalPages = items.length ⌈/⌉ window.size := Window.totalPages_apply window items
  have hmake : ∀ k, Window.make k window.size = ⟨k, window.size⟩ := fun k => by
    rw [Window.make, Nat.max_eq_left hroomy]
  simp only [hmake]
  refine ⟨hs, ?_, ?_, rfl, htotal, fun k => ?_, ?_, fun k hk => ?_⟩
  · have hslice := Window.slice_eq_between hfit window
    rwa [hnumber, Int.sub_add_cancel] at hslice
  · show ((window.number + 1 : Nat) : Int) = p
    omega
  · rw [Window.ofClient_succ k number, hmake]
  · exact Window.flatMap_slice_all hfit hroomy (Nat.le_of_eq htotal.symm)
  · by_contra hne
    rw [htotal] at hk
    exact absurd ((Window.slice_ne_nil_iff hfit hroomy).mp hne) (Nat.not_lt.mpr hk)

/-- The greatest numbers a client can send, under the greatest size that can be set: the offset comes to its limit. -/
theorem the_farthest_page_is_empty :
    let lookup := fun name => if name = "CATALOG_PAGE_SIZE_MAX" then some "18446744073709551615" else none
    let settings : Settings := { pageSizes := ⟨20, 18446744073709551615⟩ }
    let window := Window.ofClient (some 9223372036854775807) (some 9223372036854775807) settings.pageSizes
    Settings.read lookup = .ok settings ∧ ["Notes", "Diary"].length < UInt64.size ∧
      window.offset = Window.offsetLimit ∧ (window.apply ["Notes", "Diary"]).content = [] ∧
      (window.apply ["Notes", "Diary"]).info.totalPages = 1 ∧
      ((Window.make 0 window.size).apply ["Notes", "Diary"]).content = ["Notes", "Diary"] := by
  intro lookup settings window
  have hread : Settings.read lookup = .ok settings := by decide
  have hfit : ["Notes", "Diary"].length < UInt64.size := by decide
  have htotal : (window.apply ["Notes", "Diary"]).info.totalPages = 1 := by decide
  obtain ⟨-, hcontent, -, -, -, -, hall, -⟩ :=
    client_pages_are_exact hread (some 9223372036854775807) (some 9223372036854775807) hfit
  rw [htotal, List.range_one, List.flatMap_singleton] at hall
  exact ⟨hread, hfit, by decide, hcontent, htotal, hall⟩

end Bookshop
