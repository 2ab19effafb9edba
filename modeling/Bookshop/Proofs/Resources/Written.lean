/-
  Bookshop.Proofs.Resources.Written — what the texts of resources are read as.

  All that a text may change of a resource is the amount of a price (`Price.ReadsBack`). So a book is read from its own
  text with a price made of the amount as it is read (`Book.decodeText_toJson_iff`), and comes back as it was just if its
  price is valid and reads back (`Book.decodeText_toJson_self_iff`). Not every price does (`Price.not_readsBack`).
-/

import Bookshop.Proofs.Json.RoundTrip
import Bookshop.Proofs.Resources.Normal

namespace Bookshop

open Json (Value Number decodeText parse?)

theorem decodeText_eq_ok {α : Type} {decode : Json.Decoder α} {text : String} {a : α} :
    decodeText decode text = .ok a ↔ ∃ v, parse? text = some v ∧ decode v = .ok a := by
  unfold decodeText
  cases parse? text with
  | none => simp
  | some v => simp

/-! ## Amounts -/

/-- The text of an amount is read as that amount. -/
def Price.ReadsBack (price : Price) : Prop :=
  parse? (Value.ofFloat price.amount).toText = some (.ofFloat price.amount)

section

variable {p : Number → Prop} (depth : Nat)

theorem Json.Value.within_ofFloat {x : Float} (h : x.isFinite = true → p (.real x)) : (ofFloat x).Within p depth := by
  unfold ofFloat
  split
  · next hx => exact .number depth (h hx)
  · exact .null depth

namespace Price

theorem readsBack_iff {price : Price} :
    price.ReadsBack ↔
      (price.amount.isFinite = true → (Number.real price.amount).reread? = some (.real price.amount)) := by
  have hwithin := Value.within_ofFloat (p := fun n => n.isFinite = true) Json.depthLimit (x := price.amount) id
  rw [ReadsBack, Value.parse?_toText hwithin, Value.ofFloat]
  split
  · next hf => simp [Value.reread?, hf, Option.map_eq_some_iff]
  · next hf => simp [Value.reread?, hf]

theorem ReadsBack.number {price : Price} (h : price.ReadsBack) (hf : price.amount.isFinite = true) :
    (Number.real price.amount).ReadsBack := ⟨hf, readsBack_iff.mp h hf⟩

theorem not_readsBack : ¬ ReadsBack ⟨0.12000000000000001, "EUR"⟩ := by
  rw [readsBack_iff, Number.reread?_drifts]
  decide +kernel

/-! ## Numbers in resources -/

theorem within_toJson {price : Price} (h : price.amount.isFinite = true → p (.real price.amount)) :
    price.toJson.Within p (depth + 1) := by
  refine .record fun m hm => ?_
  simp only [List.mem_cons, List.not_mem_nil, or_false] at hm
  rcases hm with rfl | rfl
  · exact Value.within_ofFloat depth h
  · exact .text depth price.currency

end Price

theorem Genre.within_toJson (genre : Genre) : genre.toJson.Within p depth := .text depth genre.code

namespace Author

theorem within_toJson (author : Author) : author.toJson.Within p (depth + 1) := by
  refine .record fun m hm => ?_
  simp only [List.mem_cons, List.not_mem_nil, or_false] at hm
  rcases hm with rfl | rfl
  · exact .text depth author.id.toText
  · exact .text depth author.name

theorem Request.within_toJson (request : Request) : request.toJson.Within p (depth + 1) := by
  refine .record fun m hm => ?_
  obtain rfl := List.mem_singleton.mp hm
  exact .text depth request.name

theorem Patch.within_toJson (patch : Patch) : patch.toJson.Within p (depth + 1) := by
  refine .record fun m hm => ?_
  split at hm
  · next name _ =>
    obtain rfl := List.mem_singleton.mp hm
    exact .text depth name
  · cases hm

end Author

namespace Book

theorem within_authorsToJson (authors : List Uuid) : (authorsToJson authors).Within p (depth + 1) := by
  refine .list fun v hv => ?_
  obtain ⟨author, -, rfl⟩ := List.mem_map.mp hv
  exact .text depth author.toText

theorem within_genresToJson (genres : List Genre) : (genresToJson genres).Within p (depth + 1) := by
  refine .list fun v hv => ?_
  obtain ⟨genre, -, rfl⟩ := List.mem_map.mp hv
  exact genre.within_toJson depth

theorem within_toJson {book : Book} (h : book.price.amount.isFinite = true → p (.real book.price.amount)) :
    book.toJson.Within p (depth + 2) := by
  refine .record fun m hm => ?_
  simp only [List.mem_cons, List.not_mem_nil, or_false] at hm
  rcases hm with rfl | rfl | rfl | rfl | rfl
  · exact .text _ book.id.toText
  · exact .text _ book.title
  · exact within_authorsToJson depth book.authors
  · exact within_genresToJson depth book.genres
  · exact Price.within_toJson depth h

theorem Request.within_toJson {request : Request}
    (h : request.price.amount.isFinite = true → p (.real request.price.amount)) :
    request.toJson.Within p (depth + 2) := by
  refine .record fun m hm => ?_
  simp only [List.mem_cons, List.not_mem_nil, or_false] at hm
  rcases hm with rfl | rfl | rfl | rfl
  · exact .text _ request.title
  · exact within_authorsToJson depth request.authors
  · exact within_genresToJson depth request.genres
  · exact Price.within_toJson depth h

theorem mem_member {α : Type} {name : String} {write : α → Value} {a? : Option α} {m : String × Value} :
    m ∈ member name write a? ↔ ∃ a, a? = some a ∧ m = (name, write a) := by
  cases a? <;> simp [member]

theorem Patch.within_toJson {patch : Patch}
    (h : ∀ price, patch.price = some price → price.amount.isFinite = true → p (.real price.amount)) :
    patch.toJson.Within p (depth + 2) := by
  refine .record fun m hm => ?_
  simp only [List.mem_append, mem_member] at hm
  rcases hm with ((⟨title, -, rfl⟩ | ⟨authors, -, rfl⟩) | ⟨genres, -, rfl⟩) | ⟨price, hp, rfl⟩
  · exact .text _ title
  · exact within_authorsToJson depth authors
  · exact within_genresToJson depth genres
  · exact Price.within_toJson depth (h price hp)

end Book

end

/-! ## Resources from their own texts -/

theorem Author.parse?_toText (author : Author) : parse? author.toJson.toText = some author.toJson :=
  Value.parse?_toText_self (author.within_toJson 126)

namespace Book

theorem parse?_toText {book : Book} (h : book.price.ReadsBack) : parse? book.toJson.toText = some book.toJson :=
  Value.parse?_toText_self (within_toJson 125 h.number)

theorem reread?_jsonWith (book : Book) (v : Value) : (book.jsonWith v).reread? = v.reread?.map book.jsonWith := by
  have hauthors := (within_authorsToJson (p := fun n => n.reread? = some n) 0 book.authors).reread?_self
  have hgenres := (within_genresToJson (p := fun n => n.reread? = some n) 0 book.genres).reread?_self
  cases hv : v.reread? <;>
    simp [jsonWith, Value.reread?, Json.rereadMembers?, Uuid.toJson, hauthors, hgenres, hv]

/-- A book is read from its text with a price that is made of the amount as it is read. -/
theorem decodeText_toJson_iff {book other : Book} (hf : book.price.amount.isFinite = true) :
    decodeText decode book.toJson.toText = .ok other ↔
      ∃ n price, (Number.real book.price.amount).reread? = some n ∧
        Price.make n.toFloat (some book.price.currency) = .ok price ∧ other = { book with price } := by
  have hamount : Value.ofFloat book.price.amount = .number (.real book.price.amount) := if_pos hf
  have hparse : parse? book.toJson.toText = (Number.real book.price.amount).reread?.map fun n =>
      book.jsonWith (.record [("amount", .number n), ("currency", .text book.price.currency)]) := by
    rw [Value.parse?_toText (within_toJson (p := fun n => n.isFinite = true) 125 fun h => h),
      show book.toJson = book.jsonWith book.price.toJson from rfl, reread?_jsonWith, Price.toJson, hamount]
    cases hn : (Number.real book.price.amount).reread? <;> simp [Value.reread?, Json.rereadMembers?, hn]
  rw [decodeText_eq_ok, hparse]
  cases (Number.real book.price.amount).reread? with
  | none => simp
  | some n =>
    simp only [Option.map_some, Option.some.injEq, exists_eq_left', decode_jsonWith, Price.decode_record]
    cases hmake : Price.make n.toFloat (some book.price.currency) <;> simp [hmake, Except.mapError, Except.map, eq_comm]

theorem decodeText_toJson_self_iff {book : Book} :
    decodeText decode book.toJson.toText = .ok book ↔ book.price.Valid ∧ book.price.ReadsBack := by
  constructor
  · intro h
    obtain ⟨v, -, hv⟩ := decodeText_eq_ok.mp h
    have hvalid := valid_of_decode hv
    obtain ⟨n, price, hn, hmake, hbook⟩ := (decodeText_toJson_iff hvalid.finite).mp h
    have hprice : book.price = price := congrArg Book.price hbook
    obtain ⟨x, rfl⟩ := Number.exists_real_of_reread? hvalid.finite hn
    have hamount : book.price.amount = x := by rw [hprice, Price.amount_of_make hmake, Number.toFloat]
    refine ⟨hvalid, Price.readsBack_iff.mpr fun _ => ?_⟩
    rw [hn, ← hamount]
  · intro h
    exact decodeText_eq_ok.mpr ⟨book.toJson, parse?_toText h.2, decode_toJson h.1⟩

end Book

end Bookshop
