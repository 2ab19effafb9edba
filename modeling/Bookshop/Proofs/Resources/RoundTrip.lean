/-
  Bookshop.Proofs.Resources.RoundTrip — what is written as JSON reads back as what it was.

  The store keeps values as JSON, so what an operation finds in a row is what an earlier one put there
  only as far as these laws go. They hold of every identifier, genre and author. A price that was written is
  read by `Price.make` like a client's (`Price.decode_toJson_iff`), so of a price, and of a book, they hold if
  it is valid (`Price.Valid`), as every price is that a client got past `Price.make`.
-/

import Bookshop.Author
import Bookshop.Book
import Bookshop.Proofs.Text.Trimming

namespace Bookshop

/-! ## Identifiers -/

namespace Text

theorem readHex?_concat (cs : List Char) (c : Char) :
    readHex? (cs ++ [c]) = (readHex? cs).bind fun n => (hexValue? c).map fun d => 16 * n + d := by
  simp only [readHex?, List.foldlM_append, List.foldlM_cons, List.foldlM_nil, Option.bind_eq_bind, Option.pure_def,
    Option.bind_fun_some]

theorem readHex?_hexFixed (count n : Nat) : readHex? (hexFixed count n) = some (n % 16 ^ count) := by
  induction count generalizing n with
  | zero => simp [readHex?, hexFixed, Nat.mod_one]
  | succ count ih =>
    rw [hexFixed, readHex?_concat, ih, hexValue?_hexDigit (Nat.mod_lt n (by decide))]
    simp only [Option.bind_some, Option.map_some, Option.some.injEq]
    rw [Nat.pow_succ', Nat.mod_mul, Nat.add_comm]

theorem forall_mem_hexFixed {p : Char → Prop} (hp : ∀ d : Fin 16, p (hexDigit d)) (count n : Nat) :
    ∀ c ∈ hexFixed count n, p c := by
  induction count generalizing n with
  | zero => simp [hexFixed]
  | succ count ih =>
    simp only [hexFixed, List.mem_append, List.mem_singleton]
    rintro c (hc | rfl)
    · exact ih _ c hc
    · exact hp ⟨n % 16, Nat.mod_lt n (by decide)⟩

theorem not_mem_hexFixed {c : Char} (hc : ∀ d : Fin 16, c ≠ hexDigit d) (count n : Nat) : c ∉ hexFixed count n :=
  fun h => forall_mem_hexFixed hc count n c h rfl

theorem hexFixed_inj {count n m : Nat} (hn : n < 16 ^ count) (hm : m < 16 ^ count)
    (h : hexFixed count n = hexFixed count m) : n = m := by
  have hread := (readHex?_hexFixed count n).symm.trans ((congrArg readHex? h).trans (readHex?_hexFixed count m))
  rwa [Nat.mod_eq_of_lt hn, Nat.mod_eq_of_lt hm, Option.some.injEq] at hread

end Text

namespace Uuid

theorem length_write (u : Uuid) : u.write.length = 36 := by
  simp [write]

theorem groups_append {α : Type} (d : List α) :
    d.take 8 ++ ((d.drop 8).take 4 ++ ((d.drop 12).take 4 ++ ((d.drop 16).take 4 ++ d.drop 20))) = d := by
  have h (i j : Nat) : (d.drop i).take j ++ d.drop (i + j) = d.drop i := by
    rw [← List.drop_drop, List.take_append_drop]
  rw [h 16 4, h 12 4, h 8 4, List.take_append_drop]

theorem filter_write (u : Uuid) : u.write.filter (· != '-') = Text.hexFixed 32 u.value.toNat := by
  have hd : '-' ∉ Text.hexFixed 32 u.value.toNat := Text.not_mem_hexFixed (by decide) _ _
  simp only [write]
  generalize Text.hexFixed 32 u.value.toNat = d at hd ⊢
  have keep {cs : List Char} (h : cs ⊆ d) : cs.filter (· != '-') = cs := by
    apply List.filter_eq_self.mpr
    intro c hc
    rw [bne_iff_ne]
    rintro rfl
    exact hd (h hc)
  have hgroup (i j : Nat) : (d.drop i).take j ⊆ d := fun c hc => List.mem_of_mem_drop (List.mem_of_mem_take hc)
  simp only [List.filter_append, List.filter_cons, bne_self_eq_false, Bool.false_eq_true, if_false]
  rw [keep (List.take_subset 8 d), keep (hgroup 8 4), keep (hgroup 12 4), keep (hgroup 16 4), keep (List.drop_subset 20 d)]
  simpa only [List.append_assoc] using groups_append d

theorem hyphens_write (u : Uuid) : [8, 13, 18, 23].all (fun i => u.write[i]? == some '-') = true := by
  simp [write]

theorem readHyphenated?_write (u : Uuid) : readHyphenated? u.write = some u := by
  rw [readHyphenated?, if_pos ⟨length_write u, hyphens_write u⟩, filter_write, readPlain?,
    if_pos (Text.length_hexFixed 32 _), Text.readHex?_hexFixed]
  have hv : u.value.toNat % 16 ^ 32 = u.value.toNat := Nat.mod_eq_of_lt u.value.isLt
  rw [hv, Option.map_some, BitVec.ofNat_toNat, BitVec.setWidth_eq]

@[simp] theorem parse?_toText (u : Uuid) : parse? u.toText = some u := by
  have hl := length_write u
  rw [parse?, toText, String.toList_ofList, readList?, hl]
  exact readHyphenated?_write u

theorem write_inj {u v : Uuid} (h : u.write = v.write) : u = v := by
  have hread := readHyphenated?_write u
  rw [h, readHyphenated?_write] at hread
  exact (Option.some.inj hread).symm

/-- What is written consists of digits and hyphens. -/
theorem forall_mem_write {p : Char → Prop} (hp : ∀ d : Fin 16, p (Text.hexDigit d)) (hhyphen : p '-') (u : Uuid) :
    ∀ c ∈ u.write, p c := by
  intro c hc
  by_cases h : c = '-'
  · rwa [h]
  · have hdigit : c ∈ u.write.filter (· != '-') := List.mem_filter.mpr ⟨hc, bne_iff_ne.mpr h⟩
    rw [filter_write] at hdigit
    exact Text.forall_mem_hexFixed hp 32 _ c hdigit

theorem of_head?_write_append {p : Char → Prop} (hp : ∀ d : Fin 16, p (Text.hexDigit d)) (hhyphen : p '-') {u : Uuid}
    {rest : List Char} {c : Char} (h : (u.write ++ rest).head? = some c) : p c := by
  have hne : u.write ≠ [] := List.ne_nil_of_length_pos (by rw [length_write]; decide)
  rw [List.head?_append_of_ne_nil _ hne] at h
  exact forall_mem_write hp hhyphen u c (List.mem_of_mem_head? h)

@[simp] theorem decode_toJson (u : Uuid) : decode u.toJson = .ok u := by
  simp [toJson, decode]

end Uuid

/-! ## Genres -/

@[simp] theorem Genre.decode_toJson (genre : Genre) : Genre.decode genre.toJson = .ok genre := by
  cases genre <;> rfl

/-! ## Prices -/

structure Price.Valid (price : Price) : Prop where
  finite : price.amount.isFinite = true
  positive : ¬ price.amount < 0
  three : price.currency.toList.length = 3
  letters : price.currency.toList.all Char.isAlpha = true
  upper : Text.upperAscii price.currency = price.currency

namespace Price

variable {amount : Float} {currency : Option String} {price : Price}

theorem valid_of_make (h : make amount currency = .ok price) : price.Valid := by
  unfold make at h
  split at h
  · cases h
  · next hb =>
    simp only [Bool.or_eq_true, Bool.not_eq_true', decide_eq_true_eq, not_or, Bool.not_eq_false] at hb
    dsimp only at h
    split at h
    · next hl =>
      cases h
      exact ⟨hb.1, hb.2, hl.1, hl.2, Text.upperAscii_upperAscii _⟩
    · cases h

theorem amount_of_make (h : make amount currency = .ok price) : price.amount = amount := by
  unfold make at h
  split at h
  · cases h
  · dsimp only at h
    split at h
    · cases h
      rfl
    · cases h

namespace Valid

/-- There is nothing about the currency of a valid price that reading would change. -/
theorem currencyOr_eq (h : price.Valid) : currencyOr (some price.currency) = price.currency := by
  have hb : ∀ c ∈ price.currency.toList, Text.isBlank c = false := fun c hc =>
    Text.isBlank_of_isAlpha (List.all_eq_true.mp h.letters c hc)
  have hn : Text.isBlankText price.currency = false := by
    apply Bool.eq_false_iff.mpr
    intro hall
    have h0 : price.currency.toList = [] := by
      rw [← Text.trimList_of_no_blank hb, ← Text.isBlankText_iff, hall]
    have := h.three
    simp [h0] at this
  simp only [currencyOr, hn, Bool.false_eq_true, if_false, Text.trim_of_no_blank hb]

theorem capitals (h : price.Valid) : price.currency.toList.all Char.isUpper = true := by
  rw [List.all_eq_true]
  intro c hc
  have hupper : price.currency.toList.map Char.toUpper = price.currency.toList.map id := by
    have hu := congrArg String.toList h.upper
    rw [Text.upperAscii, String.toList_ofList] at hu
    rw [hu, List.map_id]
  have hcu : c.toUpper = c := List.map_inj_left.mp hupper c hc
  rw [← hcu, Char.isUpper_toUpper_eq_isAlpha]
  exact List.all_eq_true.mp h.letters c hc

theorem make_eq (h : price.Valid) : make price.amount (some price.currency) = .ok price := by
  have ha : ¬ (!price.amount.isFinite || decide (price.amount < 0)) = true := by simp [h.finite, h.positive]
  simp only [make, if_neg ha, h.currencyOr_eq, h.upper, if_pos (And.intro h.three h.letters)]

end Valid

theorem make_eq_self_iff : make price.amount (some price.currency) = .ok price ↔ price.Valid :=
  ⟨valid_of_make, Valid.make_eq⟩

theorem decode_record (n : Json.Number) (currency : String) :
    decode (.record [("amount", .number n), ("currency", .text currency)]) =
      (make n.toFloat (some currency)).mapError (fun failure => .refused failure.message) := by
  simp [decode, readInput?, valuesOf]

theorem decode_toJson_iff {other : Price} :
    decode price.toJson = .ok other ↔ make price.amount (some price.currency) = .ok other := by
  cases hf : price.amount.isFinite with
  | true =>
    have hamount : Json.Value.ofFloat price.amount = .number (.real price.amount) := if_pos hf
    rw [toJson, hamount, decode_record, Json.Number.toFloat]
    cases make price.amount (some price.currency) <;> simp [Except.mapError]
  | false =>
    -- an amount that is not finite is written as null, which is no amount
    have hread : ∃ reason, decode price.toJson = .error (.refused reason) := by
      simp [toJson, Json.Value.ofFloat, hf, decode, readInput?, valuesOf]
    obtain ⟨reason, hread⟩ := hread
    simp [hread, make, hf]

theorem Valid.decode_toJson (h : price.Valid) : Price.decode price.toJson = .ok price :=
  decode_toJson_iff.mpr h.make_eq

theorem valid_of_decode {v : Json.Value} (h : decode v = .ok price) : price.Valid := by
  rw [decode] at h
  split at h
  · cases h
  · next input _ =>
    cases hm : make input.amount input.currency with
    | error f => simp [hm, Except.mapError] at h
    | ok p =>
      simp only [hm, Except.mapError, Except.ok.injEq] at h
      exact h ▸ valid_of_make hm

end Price

/-! ## Records -/

theorem Json.Decode.list_map {α : Type} {item : Json.Decoder α} {write : α → Json.Value} {as : List α}
    (h : ∀ a ∈ as, item (write a) = .ok a) : Json.Decode.list item (.list (as.map write)) = .ok as := by
  rw [Json.Decode.list]
  induction as with
  | nil => rfl
  | cons a as ih =>
    rw [List.map_cons, List.mapM_cons, h a List.mem_cons_self, ih fun b hb => h b (List.mem_cons_of_mem a hb)]
    rfl

/-- What is not null is read where it may be absent. -/
theorem Json.Decode.optional_eq {α : Type} {read : Json.Decoder α} {v : Json.Value} {a : α} (hv : v ≠ .null)
    (h : read v = .ok a) : optional read v = .ok (some a) := by
  cases v with
  | null => exact absurd rfl hv
  | _ =>
    simp only [optional, h]
    rfl

@[simp] theorem Author.decode_toJson (author : Author) : Author.decode author.toJson = .ok author := by
  simp [decode, toJson, layout, Json.Decode.Layout.decode, Json.Decode.Layout.addMembers, Json.Decode.Field.isNamed,
    Json.Decode.text, Json.Decode.required, bind, Except.bind, pure, Except.pure]

theorem Author.Request.decode_toJson (request : Author.Request) : decode request.toJson = .ok request := rfl

theorem Author.Patch.decode_toJson (patch : Author.Patch) : decode patch.toJson = .ok patch := by
  obtain ⟨_ | name⟩ := patch <;> rfl

theorem Author.id_of_decode_toJson {author other : Author} (h : Author.decode author.toJson = .ok other) :
    other.id = author.id := by
  rw [decode_toJson] at h
  cases h
  rfl

namespace Book

@[simp] theorem decodeAuthors_toJson (authors : List Uuid) : decodeAuthors (authorsToJson authors) = .ok authors :=
  Json.Decode.list_map fun author _ => author.decode_toJson

@[simp] theorem decodeGenres_toJson (genres : List Genre) : decodeGenres (genresToJson genres) = .ok genres :=
  Json.Decode.list_map fun genre _ => genre.decode_toJson

/-- The JSON of a book with this value in the place of its price. -/
def jsonWith (book : Book) (price : Json.Value) : Json.Value :=
  .record [("id", book.id.toJson), ("title", .text book.title), ("authors", authorsToJson book.authors),
    ("genres", genresToJson book.genres), ("price", price)]

theorem decode_jsonWith (book : Book) (v : Json.Value) :
    decode (book.jsonWith v) = (Price.decode v).map fun price => { book with price } := by
  cases hp : Price.decode v <;>
    simp [decode, jsonWith, layout, Json.Decode.Layout.decode, Json.Decode.Layout.addMembers, Json.Decode.Field.isNamed,
      Json.Decode.text, Json.Decode.required, hp, bind, Except.bind, pure, Except.pure, Except.map]

theorem decode_toJson_iff {book other : Book} :
    Book.decode book.toJson = .ok other ↔
      ∃ price, Price.make book.price.amount (some book.price.currency) = .ok price ∧ other = { book with price } := by
  simp only [← Price.decode_toJson_iff]
  rw [show book.toJson = book.jsonWith book.price.toJson from rfl, decode_jsonWith]
  cases Price.decode book.price.toJson <;> simp [Except.map, eq_comm]

theorem decode_toJson {book : Book} (h : book.price.Valid) : Book.decode book.toJson = .ok book :=
  decode_toJson_iff.mpr ⟨book.price, h.make_eq, rfl⟩

/-- Whatever becomes of its price, a book that can be read back has its identifier still. -/
theorem id_of_decode_toJson {book other : Book} (h : Book.decode book.toJson = .ok other) : other.id = book.id := by
  obtain ⟨price, -, rfl⟩ := decode_toJson_iff.mp h
  rfl

theorem Request.decode_toJson {request : Request} (h : request.price.Valid) : decode request.toJson = .ok request := by
  simp [decode, toJson, layout, Json.Decode.Layout.decode, Json.Decode.Layout.addMembers, Json.Decode.Field.isNamed,
    Json.Decode.text, Json.Decode.required, h.decode_toJson, bind, Except.bind, pure, Except.pure]

theorem Patch.decode_toJson {patch : Patch} (h : ∀ price, patch.price = some price → price.Valid) :
    decode patch.toJson = .ok patch := by
  have htitle (s : String) : Json.Decode.optional Json.Decode.text (.text s) = .ok (some s) := rfl
  have hauthors (authors : List Uuid) : Json.Decode.optional decodeAuthors (authorsToJson authors) = .ok (some authors) :=
    Json.Decode.optional_eq (by simp [authorsToJson]) (decodeAuthors_toJson authors)
  have hgenres (genres : List Genre) : Json.Decode.optional decodeGenres (genresToJson genres) = .ok (some genres) :=
    Json.Decode.optional_eq (by simp [genresToJson]) (decodeGenres_toJson genres)
  have hprice (price : Price) (hp : price.Valid) : Json.Decode.optional Price.decode price.toJson = .ok (some price) :=
    Json.Decode.optional_eq (by simp [Price.toJson]) hp.decode_toJson
  obtain ⟨title, authors, genres, price⟩ := patch
  cases title <;> cases authors <;> cases genres <;> cases price <;>
    simp [decode, toJson, layout, member, Json.Decode.Layout.decode, Json.Decode.Layout.addMembers,
      Json.Decode.Field.isNamed, htitle, hauthors, hgenres, hprice, h, bind, Except.bind, pure, Except.pure]

end Book

end Bookshop
