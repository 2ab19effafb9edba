/-
  Bookshop.Proofs.Json.RoundTrip — what the text of a JSON value is read as.

  Reading is cutting a text into tokens and feeding them to a machine. `Place.read?` is both at once, so what a value
  does to the machine is said of its text alone (`Value.Passes`): wherever a value may come next, its text takes the
  machine to the place after what the text is read as, whatever is around it and whatever follows, as long as no
  character follows that could belong to a number. A list passes if its items do (`Place.read?_items`), and a record
  likewise.

  Every string reads back, with all that is escaped in it (`readText?_write`). A number may come back as another, or not
  at all (`Number.reread?`), and nothing else about a value changes (`Value.reread?`). Lists and records must not be too
  deep, and floats must be finite (`Value.Within`).

  - `Value.parse?_toText`: the text of a value within the limit is read as the value with its numbers read again.
  - `Value.parse?_toText_self`: it is read as the value if its numbers are.
-/

import Bookshop.Proofs.Json.Numbers
import Mathlib.Tactic.SplitIfs

namespace Bookshop.Json

/-! ## Strings -/

theorem hexQuad?_hexFixed {n : Nat} (h : n < 0x10000) :
    ∃ a b c d, Text.hexFixed 4 n = [a, b, c, d] ∧ hexQuad? a b c d = some n := by
  refine ⟨_, _, _, _, rfl, ?_⟩
  simp only [hexQuad?, Text.hexValue?_hexDigit (Nat.mod_lt _ (by decide : 0 < 16)), Option.bind_eq_bind,
    Option.bind_some, Option.pure_def, Option.some.injEq]
  omega

theorem readChar?_plain {c : Char} (h : ¬ (c.toNat < 0x20 ∨ c = '\\' ∨ c = '"')) (rest : List Char) :
    readChar? (c :: rest) = some (c, rest) := by
  have hc : c ≠ '\\' := fun he => h (.inr (.inl he))
  unfold readChar?
  split
  · next he => exact absurd (List.cons.inj he).1 hc
  · next he => exact absurd (List.cons.inj he).1 hc
  · next he =>
    obtain ⟨rfl, rfl⟩ := List.cons.inj he
    exact if_neg h
  · next he => cases he

theorem readChar?_writeChar (c : Char) (rest : List Char) : readChar? (writeChar c ++ rest) = some (c, rest) := by
  unfold writeChar
  split_ifs with hquote hbackslash hbackspace hfeed hline hreturn htab hcontrol
  -- seven characters have an escape of their own
  iterate 7
    · subst_vars
      rfl
  · obtain ⟨i, j, k, l, hdigits, hquad⟩ := hexQuad?_hexFixed (n := c.toNat) (by omega)
    have hunit : unitChar? c.toNat = some c := by
      rw [unitChar?, if_neg (by omega), Char.ofNat_toNat]
    rw [hdigits]
    simp [readChar?, hquad, hunit]
  · exact readChar?_plain (by simp [hquote, hbackslash, hcontrol]) rest

theorem head?_writeChar_ne (c : Char) (rest : List Char) : (writeChar c ++ rest).head? ≠ some '"' := by
  intro h
  obtain ⟨tail, htail⟩ := List.head?_eq_some_iff.mp h
  have hread := readChar?_writeChar c rest
  rw [htail] at hread
  cases hread

/-- A string reads back up to its closing quote. -/
theorem readText?_write (done cs rest : List Char) :
    readText? done (cs.flatMap writeChar ++ '"' :: rest) = some (String.ofList (done.reverse ++ cs), rest) := by
  induction cs generalizing done with
  | nil => simp [readText?]
  | cons c cs ih =>
    have hread := readChar?_writeChar c (cs.flatMap writeChar ++ '"' :: rest)
    rw [List.flatMap_cons, List.append_assoc, readText?, if_neg (head?_writeChar_ne c _)]
    split
    · next c' rest' h =>
      rw [hread] at h
      obtain ⟨rfl, rfl⟩ := Prod.mk.inj (Option.some.inj h)
      simp [ih]
    · next h =>
      rw [hread] at h
      cases h

/-! ## Tokens -/

/-- No character comes next that could belong to a number. -/
def Ends (cs : List Char) : Prop := ∀ c ∈ cs.head?, isNumeralChar c = false

theorem ends_nil : Ends [] := fun _ h => nomatch h

theorem ends_cons {c : Char} (h : isNumeralChar c = false) (cs : List Char) : Ends (c :: cs) := by
  rintro _ ⟨⟩
  exact h

theorem punctuation?_of_isNumeralChar {c : Char} (h : isNumeralChar c = true) : punctuation? c = none := by
  unfold punctuation?
  split <;> first | rfl | exact absurd h (by decide)

theorem scan_nil : scan [] = some [] := by rw [scan]

/-- A character that begins neither a word nor a string and is no blank is a mark or begins a number. -/
theorem scan_mark {c : Char} (hword : c ∉ ['t', 'f', 'n', '"']) (hblank : isJsonBlank c = false) (cs : List Char) :
    scan (c :: cs) = match punctuation? c with
      | some token => (scan cs).map (token :: ·)
      | none =>
        match (readNumeral? (c :: cs.takeWhile isNumeralChar)).bind Numeral.value? with
        | some n => (scan (cs.dropWhile isNumeralChar)).map (.scalar (.number n) :: ·)
        | none => none := by
  have hne {d : Char} (hd : d ∈ ['t', 'f', 'n', '"']) {ds : List Char} : c :: cs ≠ d :: ds := by
    intro he
    exact hword ((List.cons.inj he).1 ▸ hd)
  rw [scan.eq_def]
  split
  · next he => cases he
  · next he => exact absurd he (hne (by simp))
  · next he => exact absurd he (hne (by simp))
  · next he => exact absurd he (hne (by simp))
  · next he => exact absurd he (hne (by simp))
  · next he =>
    obtain ⟨rfl, rfl⟩ := List.cons.inj he
    exact if_neg (by simp [hblank])

theorem scan_punctuation {c : Char} {token : Token} (h : punctuation? c = some token) (rest : List Char) :
    scan (c :: rest) = (scan rest).map (token :: ·) := by
  have hmark : c ∉ ['t', 'f', 'n', '"'] ∧ isJsonBlank c = false := by
    unfold punctuation? at h
    split at h <;> first | decide | cases h
  rw [scan_mark hmark.1 hmark.2, h]

theorem scan_numeral {cs rest : List Char} (hne : cs ≠ []) (hall : ∀ c ∈ cs, isNumeralChar c = true) (hrest : Ends rest) :
    scan (cs ++ rest) = match (readNumeral? cs).bind Numeral.value? with
      | some n => (scan rest).map (.scalar (.number n) :: ·)
      | none => none := by
  cases cs with
  | nil => exact absurd rfl hne
  | cons c cs =>
    obtain ⟨hc, hcs⟩ := List.forall_mem_cons.mp hall
    have hne {d : Char} (hd : isNumeralChar d = false) : c ≠ d := by
      rintro rfl
      rw [hd] at hc
      cases hc
    have hword : c ∉ ['t', 'f', 'n', '"'] := by
      simp only [List.mem_cons, List.not_mem_nil, or_false, not_or]
      exact ⟨hne (by decide), hne (by decide), hne (by decide), hne (by decide)⟩
    have hblank : isJsonBlank c = false := by
      simp only [isJsonBlank, Bool.or_eq_false_iff, beq_eq_false_iff_ne]
      exact ⟨⟨⟨hne (by decide), hne (by decide)⟩, hne (by decide)⟩, hne (by decide)⟩
    have hnext : rest.takeWhile isNumeralChar = [] ∧ rest.dropWhile isNumeralChar = rest := by
      cases rest with
      | nil => exact ⟨rfl, rfl⟩
      | cons d rest =>
        have hd : ¬ isNumeralChar d = true := by simp [hrest d rfl]
        exact ⟨List.takeWhile_cons_of_neg hd, List.dropWhile_cons_of_neg hd⟩
    have htake : (cs ++ rest).takeWhile isNumeralChar = cs := by
      rw [List.takeWhile_append_of_pos hcs, hnext.1, List.append_nil]
    have hdrop : (cs ++ rest).dropWhile isNumeralChar = rest := by
      rw [List.dropWhile_append_of_pos hcs, hnext.2]
    rw [List.cons_append, scan_mark hword hblank, punctuation?_of_isNumeralChar hc, htake, hdrop]

theorem scan_writeText (s : String) (rest : List Char) :
    scan (writeText s ++ rest) = (scan rest).map (.text s :: ·) := by
  have hread := readText?_write [] s.toList rest
  have htext : writeText s ++ rest = '"' :: (s.toList.flatMap writeChar ++ '"' :: rest) := by simp [writeText]
  rw [htext, scan]
  split
  · next s' rest' h =>
    rw [hread] at h
    obtain ⟨rfl, rfl⟩ := Prod.mk.inj (Option.some.inj h)
    simp
  · next h =>
    rw [hread] at h
    cases h

/-! ## The machine -/

/-- The place that a text takes the machine to. -/
def Place.read? (place : Place) (cs : List Char) : Option Place := (scan cs).bind place.run?

theorem Place.read?_nil (place : Place) : place.read? [] = some place := by
  rw [read?, scan_nil]
  rfl

theorem parse?_eq_some {s : String} {v : Value} :
    parse? s = some v ↔ (Place.value []).read? s.toList = some (.finished v) := by
  simp only [parse?, Place.read?, Option.bind_eq_some_iff]
  refine exists_congr fun tokens => and_congr_right fun _ => ?_
  unfold build?
  split
  · next w h => simp [h]
  · next hnot =>
    constructor
    · intro h
      cases h
    · intro h
      exact absurd h (hnot v)

/-- A value may come next, inside these frames. -/
def Place.Expects (place : Place) (frames : List Frame) : Prop :=
  ∀ token, token ≠ .closeList → place.step? token = Place.enter? frames token

theorem expects_value (frames : List Frame) : (Place.value frames).Expects frames := fun _ _ => rfl

theorem expects_firstItem (frames : List Frame) : (Place.firstItem frames).Expects (.list [] :: frames) := by
  intro token h
  cases token with
  | closeList => exact absurd rfl h
  | _ => rfl

theorem Place.read?_token {place next : Place} {cs rest : List Char} {token : Token}
    (hscan : scan cs = (scan rest).map (token :: ·)) (hstep : place.step? token = some next) :
    place.read? cs = next.read? rest := by
  rw [read?, hscan, read?]
  cases scan rest with
  | none => rfl
  | some tokens => exact congrArg (Option.bind · (·.run? tokens)) hstep

theorem Place.read?_single {place : Place} {frames : List Frame} (hp : place.Expects frames) {cs rest : List Char}
    {token : Token} {v : Value} (hscan : scan cs = (scan rest).map (token :: ·))
    (henter : Place.enter? frames token = some (.after v frames)) : place.read? cs = (Place.after v frames).read? rest := by
  refine read?_token hscan ((hp token ?_).trans henter)
  rintro rfl
  cases henter

/-! ## Values -/

mutual

/-- The value with each number as its numeral is read; `none` if one of them is read as too large. -/
def Value.reread? : Value → Option Value
  | .number n => n.reread?.map .number
  | .list items => (rereadItems? items).map .list
  | .record members => (rereadMembers? members).map .record
  | v => some v

def rereadItems? : List Value → Option (List Value)
  | [] => some []
  | v :: rest => do return (← v.reread?) :: (← rereadItems? rest)

def rereadMembers? : List (String × Value) → Option (List (String × Value))
  | [] => some []
  | (name, v) :: rest => do return (name, ← v.reread?) :: (← rereadMembers? rest)

end

/-- `p` holds of every number in the value, and at most so many lists and records are inside one another. -/
inductive Value.Within (p : Number → Prop) : Nat → Value → Prop
  | null (depth : Nat) : Within p depth .null
  | bool (depth : Nat) (b : Bool) : Within p depth (.bool b)
  | number (depth : Nat) {n : Number} (h : p n) : Within p depth (.number n)
  | text (depth : Nat) (s : String) : Within p depth (.text s)
  | list {depth : Nat} {items : List Value} (h : ∀ v ∈ items, Within p depth v) : Within p (depth + 1) (.list items)
  | record {depth : Nat} {members : List (String × Value)} (h : ∀ m ∈ members, Within p depth m.2) :
      Within p (depth + 1) (.record members)

theorem Value.Within.imp {p q : Number → Prop} (hpq : ∀ n, p n → q n) {depth : Nat} {v : Value} (h : v.Within p depth) :
    v.Within q depth := by
  induction h with
  | null depth => exact .null depth
  | bool depth b => exact .bool depth b
  | number depth hn => exact .number depth (hpq _ hn)
  | text depth s => exact .text depth s
  | list _ ih => exact .list ih
  | record _ ih => exact .record ih

theorem rereadItems?_self {items : List Value} (h : ∀ v ∈ items, v.reread? = some v) : rereadItems? items = some items := by
  induction items with
  | nil => rfl
  | cons v rest ih =>
    obtain ⟨hv, hrest⟩ := List.forall_mem_cons.mp h
    simp [rereadItems?, hv, ih hrest]

theorem rereadMembers?_self {members : List (String × Value)} (h : ∀ m ∈ members, m.2.reread? = some m.2) :
    rereadMembers? members = some members := by
  induction members with
  | nil => rfl
  | cons m rest ih =>
    obtain ⟨hm, hrest⟩ := List.forall_mem_cons.mp h
    simp [rereadMembers?, hm, ih hrest]

theorem Value.Within.reread?_self {depth : Nat} {v : Value} (h : v.Within (fun n => n.reread? = some n) depth) :
    v.reread? = some v := by
  induction h with
  | null | bool | text => rfl
  | number depth hn => rw [reread?, hn, Option.map_some]
  | list _ ih => rw [reread?, rereadItems?_self ih, Option.map_some]
  | record _ ih => rw [reread?, rereadMembers?_self ih, Option.map_some]

/-- Wherever the value may come next, with so much room below, its text takes the machine to the place after what the
text is read as. -/
def Value.Passes (depth : Nat) (v : Value) : Prop :=
  ∀ (place : Place) (frames : List Frame) (rest : List Char), place.Expects frames → frames.length + depth ≤ depthLimit →
    Ends rest → place.read? (v.write ++ rest) = v.reread?.bind fun w => (Place.after w frames).read? rest

section

variable {place : Place} {frames : List Frame} {depth : Nat} (hroom : frames.length + (depth + 1) ≤ depthLimit)

include hroom

/-- The items of a list, up to its end, after those that are done. -/
theorem Place.read?_items {done : List Value} (hp : place.Expects (.list done :: frames)) {v : Value}
    {items : List Value} (h : ∀ w ∈ v :: items, w.Passes depth) (rest : List Char) :
    place.read? (writeItems (v :: items) ++ ']' :: rest) =
      (rereadItems? (v :: items)).bind fun ws => (Place.after (.list (done.reverse ++ ws)) frames).read? rest := by
  have hbelow (done : List Value) : (Frame.list done :: frames).length + depth ≤ depthLimit := by
    simp only [List.length_cons]
    omega
  induction items generalizing v done place with
  | nil =>
    have hend (w : Value) : (Place.after w (.list done :: frames)).step? .closeList =
        some (.after (.list (done.reverse ++ [w])) frames) := by simp [Place.after, Place.step?]
    rw [writeItems, h v List.mem_cons_self place _ _ hp (hbelow done) (ends_cons (by decide) rest)]
    cases hv : v.reread? with
    | none => simp [rereadItems?, hv]
    | some w =>
      rw [Option.bind_some, read?_token (scan_punctuation (by rfl) rest) (hend w)]
      simp [rereadItems?, hv]
  | cons u items ih =>
    obtain ⟨hpass, hitems⟩ := List.forall_mem_cons.mp h
    have htext : writeItems (v :: u :: items) ++ ']' :: rest =
        v.write ++ ',' :: (writeItems (u :: items) ++ ']' :: rest) := by simp [writeItems]
    have hcomma (w : Value) : (Place.after w (.list done :: frames)).step? .comma =
        some (.value (.list (w :: done) :: frames)) := rfl
    rw [htext, hpass place _ _ hp (hbelow done) (ends_cons (by decide) _), rereadItems?]
    cases v.reread? with
    | none => rfl
    | some w =>
      rw [Option.bind_some, read?_token (scan_punctuation (by rfl) _) (hcomma w), ih (expects_value _) hitems]
      cases rereadItems? (u :: items) <;> simp

/-- The members of a record, up to its end, after those that are done. -/
theorem Place.read?_members {done : List (String × Value)}
    (hp : ∀ name, place.step? (.text name) = some (.colon done name frames)) {m : String × Value}
    {members : List (String × Value)} (h : ∀ n ∈ m :: members, n.2.Passes depth) (rest : List Char) :
    place.read? (writeMembers (m :: members) ++ '\x7d' :: rest) =
      (rereadMembers? (m :: members)).bind fun ms => (Place.after (.record (done.reverse ++ ms)) frames).read? rest := by
  have hbelow (done : List (String × Value)) (name : String) :
      (Frame.record done name :: frames).length + depth ≤ depthLimit := by
    simp only [List.length_cons]
    omega
  have hcolon (done : List (String × Value)) (name : String) :
      (Place.colon done name frames).step? .colon = some (.value (.record done name :: frames)) := rfl
  induction members generalizing m done place with
  | nil =>
    obtain ⟨name, v⟩ := m
    have htext : writeMembers [(name, v)] ++ '\x7d' :: rest = writeText name ++ ':' :: (v.write ++ '\x7d' :: rest) := by
      simp [writeMembers]
    have hend (w : Value) : (Place.after w (.record done name :: frames)).step? .closeRecord =
        some (.after (.record (done.reverse ++ [(name, w)])) frames) := by simp [Place.after, Place.step?]
    rw [htext, read?_token (scan_writeText name _) (hp name), read?_token (scan_punctuation (by rfl) _) (hcolon done name),
      h _ List.mem_cons_self _ _ _ (expects_value _) (hbelow done name) (ends_cons (by decide) rest)]
    cases hv : v.reread? with
    | none => simp [rereadMembers?, hv]
    | some w =>
      rw [Option.bind_some, read?_token (scan_punctuation (by rfl) rest) (hend w)]
      simp [rereadMembers?, hv]
  | cons n members ih =>
    obtain ⟨name, v⟩ := m
    obtain ⟨hpass, hmembers⟩ := List.forall_mem_cons.mp h
    have htext : writeMembers ((name, v) :: n :: members) ++ '\x7d' :: rest =
        writeText name ++ ':' :: (v.write ++ ',' :: (writeMembers (n :: members) ++ '\x7d' :: rest)) := by
      simp [writeMembers]
    have hcomma (w : Value) : (Place.after w (.record done name :: frames)).step? .comma =
        some (.nextName ((name, w) :: done) frames) := rfl
    rw [htext, read?_token (scan_writeText name _) (hp name), read?_token (scan_punctuation (by rfl) _) (hcolon done name),
      hpass _ _ _ (expects_value _) (hbelow done name) (ends_cons (by decide) _), rereadMembers?]
    cases v.reread? with
    | none => rfl
    | some w =>
      rw [Option.bind_some, read?_token (scan_punctuation (by rfl) _) (hcomma w), ih (fun _ => rfl) hmembers]
      cases rereadMembers? (n :: members) <;> simp

end

theorem Value.Within.passes {depth : Nat} {v : Value} (h : v.Within (fun n => n.isFinite = true) depth) :
    v.Passes depth := by
  induction h with
  | null depth =>
    intro place frames rest hp _ _
    have hscan : scan (Value.null.write ++ rest) = (scan rest).map (.scalar .null :: ·) := by
      show scan ('n' :: 'u' :: 'l' :: 'l' :: rest) = _
      rw [scan]
    exact Place.read?_single hp hscan rfl
  | bool depth b =>
    intro place frames rest hp _ _
    have hscan : scan ((Value.bool b).write ++ rest) = (scan rest).map (.scalar (.bool b) :: ·) := by
      cases b with
      | false =>
        show scan ('f' :: 'a' :: 'l' :: 's' :: 'e' :: rest) = _
        rw [scan]
      | true =>
        show scan ('t' :: 'r' :: 'u' :: 'e' :: rest) = _
        rw [scan]
    exact Place.read?_single hp hscan rfl
  | @number depth n hn =>
    intro place frames rest hp _ hrest
    have hscan := scan_numeral (Number.write_ne_nil hn) (Number.isNumeralChar_of_mem_write hn) hrest
    rw [Value.write, Value.reread?, Number.reread?]
    cases hread : (readNumeral? n.write).bind Numeral.value? with
    | none =>
      rw [hread] at hscan
      rw [Place.read?, hscan]
      rfl
    | some m =>
      rw [hread] at hscan
      exact Place.read?_single hp hscan rfl
  | text depth s =>
    intro place frames rest hp _ _
    rw [Value.write]
    exact Place.read?_single hp (scan_writeText s rest) rfl
  | @list depth items _ ih =>
    intro place frames rest hp hroom _
    have hopen : place.step? .openList = some (.firstItem frames) := by
      rw [hp .openList (by simp), Place.enter?, if_pos (by omega)]
    have htext : (Value.list items).write ++ rest = '[' :: (writeItems items ++ ']' :: rest) := by simp [Value.write]
    rw [htext, Place.read?_token (scan_punctuation (by rfl) _) hopen, Value.reread?, Option.bind_map]
    cases items with
    | nil => exact Place.read?_token (scan_punctuation (by rfl) rest) rfl
    | cons v items => exact Place.read?_items hroom (expects_firstItem frames) ih rest
  | @record depth members _ ih =>
    intro place frames rest hp hroom _
    have hopen : place.step? .openRecord = some (.firstName frames) := by
      rw [hp .openRecord (by simp), Place.enter?, if_pos (by omega)]
    have htext : (Value.record members).write ++ rest = '\x7b' :: (writeMembers members ++ '\x7d' :: rest) := by
      simp [Value.write]
    rw [htext, Place.read?_token (scan_punctuation (by rfl) _) hopen, Value.reread?, Option.bind_map]
    cases members with
    | nil => exact Place.read?_token (scan_punctuation (by rfl) rest) rfl
    | cons m members =>
      have hname (name : String) : (Place.firstName frames).step? (.text name) = some (.colon [] name frames) := rfl
      exact Place.read?_members hroom hname ih rest

theorem Value.parse?_toText {v : Value} (h : v.Within (fun n => n.isFinite = true) depthLimit) :
    parse? v.toText = v.reread? := by
  have hpass := h.passes (.value []) [] [] (expects_value []) (by simp) ends_nil
  rw [List.append_nil] at hpass
  refine Option.ext fun w => ?_
  rw [parse?_eq_some, Value.toText, String.toList_ofList, hpass]
  cases v.reread? with
  | none => simp
  | some u => simp [Place.after, Place.read?_nil]

/-- The number is finite, and its numeral is read as the number. -/
structure Number.ReadsBack (n : Number) : Prop where
  finite : n.isFinite = true
  same : n.reread? = some n

theorem Value.parse?_toText_self {v : Value} (h : v.Within Number.ReadsBack depthLimit) : parse? v.toText = some v := by
  rw [parse?_toText (h.imp fun _ => Number.ReadsBack.finite)]
  exact (h.imp fun _ => Number.ReadsBack.same).reread?_self

end Bookshop.Json
