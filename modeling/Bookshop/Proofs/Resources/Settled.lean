/-
  Bookshop.Proofs.Resources.Settled — what has been read once is written in one form, and is read as itself from then on.

  A client may spell one value in many ways: a record or a list of its fields, a price as a bare amount, a currency in
  small letters, another name for a field, a genre with blanks around it, fields that are null, absent or of no meaning.
  Reading settles all of this. What comes out has valid prices only, is written in one way, and that text reads as the
  same value again (`Settles`). Of the numbers it is assumed that they do so, for the amounts that are written.

  - `every_resource_settles`: prices, genres, requests, patches, authors and books.
-/

import Bookshop.Proofs.Resources.Normal
import Bookshop.Proofs.Resources.Written

namespace Bookshop

open Json (Value Decoder decodeText)

/-! ## Settling -/

/-- Any text that reads as a value leads to a text that reads as it again. Every price in the value is valid, with a
currency in capitals. -/
def Settles {α : Type} (decode : Decoder α) (write : α → Value) (prices : α → List Price) : Prop :=
  ∀ text a, decodeText decode text = .ok a →
    (∀ price ∈ prices a, price.Valid ∧ ∀ c ∈ price.currency.toList, 'A' ≤ c ∧ c ≤ 'Z') ∧
    ((∀ price ∈ prices a, price.ReadsBack) → decodeText decode (write a).toText = .ok a)

section

variable {α : Type} {decode : Decoder α} {write : α → Value} {prices : α → List Price}

theorem Price.Valid.isCapital {price : Price} (h : price.Valid) {c : Char} (hc : c ∈ price.currency.toList) :
    'A' ≤ c ∧ c ≤ 'Z' := by
  have hupper := List.all_eq_true.mp h.capitals c hc
  simpa [Char.isUpper, Char.le_def] using hupper

/-- It is enough that what was read has valid prices, that it decodes from its own JSON, and that all numbers in this
read back. -/
theorem settles (hvalid : ∀ v a, decode v = .ok a → ∀ price ∈ prices a, price.Valid)
    (hdecode : ∀ a, (∀ price ∈ prices a, price.Valid) → decode (write a) = .ok a)
    (hwithin : ∀ a, (∀ price ∈ prices a, price.ReadsBack) → (write a).Within Json.Number.ReadsBack Json.depthLimit) :
    Settles decode write prices := by
  intro text a h
  obtain ⟨v, -, hv⟩ := decodeText_eq_ok.mp h
  have hprices := hvalid v a hv
  refine ⟨fun price hp => ⟨hprices price hp, fun c hc => (hprices price hp).isCapital hc⟩, fun hback => ?_⟩
  exact decodeText_eq_ok.mpr ⟨write a, Value.parse?_toText_self (hwithin a hback), hdecode a hprices⟩

theorem settles_unpriced (hdecode : ∀ a, decode (write a) = .ok a)
    (hwithin : ∀ a, (write a).Within Json.Number.ReadsBack Json.depthLimit) : Settles decode write fun _ => [] :=
  settles (fun _ _ _ => List.forall_mem_nil _) (fun a _ => hdecode a) fun a _ => hwithin a

theorem settles_priced {price : α → Price} (hvalid : ∀ v a, decode v = .ok a → (price a).Valid)
    (hdecode : ∀ a, (price a).Valid → decode (write a) = .ok a)
    (hwithin : ∀ a, (price a).ReadsBack → (write a).Within Json.Number.ReadsBack Json.depthLimit) :
    Settles decode write fun a => [price a] := by
  refine settles (fun v a hv => ?_) (fun a hp => ?_) fun a hp => ?_
  · exact List.forall_mem_singleton.mpr (hvalid v a hv)
  · exact hdecode a (List.forall_mem_singleton.mp hp)
  · exact hwithin a (List.forall_mem_singleton.mp hp)

end

/-! ## Every resource -/

def Book.Patch.prices (patch : Book.Patch) : List Price := patch.price.toList

theorem Book.Patch.settles : Settles decode toJson prices := by
  have hset {patch : Patch} {p : Price → Prop} : (∀ price ∈ patch.prices, p price) ↔
      ∀ price, patch.price = some price → p price := by simp [prices]
  refine Bookshop.settles (fun v patch hv => ?_) (fun patch hp => ?_) fun patch hp => ?_
  · exact hset.mpr (priced_of_decode hv)
  · exact decode_toJson (hset.mp hp)
  · exact within_toJson 125 fun price hprice => (hset.mp hp price hprice).number

/-- Every text that reads as a price, a genre, a request, a patch, an author or a book has been settled by that: its
prices are valid and have a currency in capitals, and what is written for the value is read as the value again. -/
theorem every_resource_settles :
    Settles Price.decode Price.toJson (fun price => [price]) ∧
    Settles Genre.decode Genre.toJson (fun _ => []) ∧
    Settles Author.Request.decode Author.Request.toJson (fun _ => []) ∧
    Settles Author.Patch.decode Author.Patch.toJson (fun _ => []) ∧
    Settles Book.Request.decode Book.Request.toJson (fun request => [request.price]) ∧
    Settles Book.Patch.decode Book.Patch.toJson Book.Patch.prices ∧
    Settles Author.decode Author.toJson (fun _ => []) ∧
    Settles Book.decode Book.toJson (fun book => [book.price]) := by
  refine ⟨?_, ?_, ?_, ?_, ?_, Book.Patch.settles, ?_, ?_⟩
  · exact settles_priced (fun _ _ => Price.valid_of_decode) (fun _ => Price.Valid.decode_toJson)
      fun _ hb => Price.within_toJson 126 hb.number
  · exact settles_unpriced Genre.decode_toJson fun genre => genre.within_toJson _
  · exact settles_unpriced Author.Request.decode_toJson (Author.Request.within_toJson 126)
  · exact settles_unpriced Author.Patch.decode_toJson (Author.Patch.within_toJson 126)
  · exact settles_priced (fun _ _ => Book.Request.valid_of_decode) (fun _ => Book.Request.decode_toJson)
      fun _ hb => Book.Request.within_toJson 125 hb.number
  · exact settles_unpriced Author.decode_toJson (Author.within_toJson 126)
  · exact settles_priced (fun _ _ => Book.valid_of_decode) (fun _ => Book.decode_toJson)
      fun _ hb => Book.within_toJson 125 hb.number

def spelled : Value :=
  .record [("pages", .null), ("authorIds", .list []),
    ("price", .record [("currency", .text " usd "), ("amount", .number (.whole 5))])]

/-- It is read as a patch with a settled price, and written with the usual names. -/
theorem the_spelling_is_forgotten :
    let patch : Book.Patch := ⟨none, some [], none, some ⟨Float.ofInt 5, "USD"⟩⟩
    decodeText Book.Patch.decode spelled.toText = .ok patch ∧ (∀ price ∈ patch.prices, price.ReadsBack) ∧
      patch.toJson.toText = "\x7b\"authors\":[],\"price\":\x7b\"amount\":5.0,\"currency\":\"USD\"\x7d\x7d" ∧
      decodeText Book.Patch.decode patch.toJson.toText = .ok patch := by
  intro patch
  have hspelled : spelled.Within Json.Number.ReadsBack Json.depthLimit := by
    have hprice : (Value.record [("currency", .text " usd "), ("amount", .number (.whole 5))]).Within
        Json.Number.ReadsBack 126 :=
      .record (List.forall_mem_cons.mpr ⟨.text 125 _, List.forall_mem_singleton.mpr (.number 125 ⟨rfl, by decide +kernel⟩)⟩)
    refine .record (List.forall_mem_cons.mpr ⟨.null 126, List.forall_mem_cons.mpr ⟨?_, ?_⟩⟩)
    · exact .list (List.forall_mem_nil _)
    · exact List.forall_mem_singleton.mpr hprice
  have hread : decodeText Book.Patch.decode spelled.toText = .ok patch :=
    decodeText_eq_ok.mpr ⟨spelled, Value.parse?_toText_self hspelled, rfl⟩
  have hback : ∀ price ∈ patch.prices, price.ReadsBack :=
    List.forall_mem_singleton.mpr (Price.readsBack_iff.mpr fun _ => by decide +kernel)
  obtain ⟨-, -, -, -, -, hpatch, -⟩ := every_resource_settles
  exact ⟨hread, hback, by decide +kernel, (hpatch _ patch hread).2 hback⟩

end Bookshop
