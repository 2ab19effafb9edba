/-
  Bookshop.Uuid — identifiers of 128 bits.

  Accepted forms: 32 hexadecimal digits; the same in groups of 8, 4, 4, 4 and 12 with hyphens; the
  hyphenated form in braces or after `urn:uuid:`. Written form: hyphenated, in lower case.
-/

import Bookshop.Json.Decode

namespace Bookshop

structure Uuid where
  value : BitVec 128
  deriving DecidableEq, Repr

namespace Uuid

def le (a b : Uuid) : Bool := a.value.toNat ≤ b.value.toNat

/-! ## Writing -/

def write (u : Uuid) : List Char :=
  let d := Text.hexFixed 32 u.value.toNat
  d.take 8 ++ '-' :: (d.drop 8).take 4 ++ '-' :: (d.drop 12).take 4 ++ '-' :: (d.drop 16).take 4 ++
    '-' :: d.drop 20

def toText (u : Uuid) : String := String.ofList u.write

instance : ToString Uuid := ⟨toText⟩

/-! ## Reading -/

def readPlain? (cs : List Char) : Option Uuid :=
  if cs.length = 32 then (Text.readHex? cs).map (fun n => ⟨BitVec.ofNat 128 n⟩) else none

/-- 36 characters with hyphens at their places. -/
def readHyphenated? (cs : List Char) : Option Uuid :=
  if cs.length = 36 ∧ [8, 13, 18, 23].all (fun i => cs[i]? == some '-') then
    readPlain? (cs.filter (· != '-'))
  else none

/-- What follows `urn:uuid:`, in any case of the letters. -/
def afterUrn? (cs : List Char) : Option (List Char) :=
  if (cs.take 9).map Char.toLower = "urn:uuid:".toList then some (cs.drop 9) else none

def insideBraces? (cs : List Char) : Option (List Char) :=
  if cs.head? = some '\x7b' ∧ cs.getLast? = some '\x7d' ∧ 2 ≤ cs.length then some cs.tail.dropLast else none

def readList? (cs : List Char) : Option Uuid :=
  match cs.length with
  | 32 => readPlain? cs
  | 36 => readHyphenated? cs
  | 38 => (insideBraces? cs).bind readHyphenated?
  | 45 => (afterUrn? cs).bind readHyphenated?
  | _ => none

def parse? (s : String) : Option Uuid := readList? s.toList

/-! ## As JSON -/

def toJson (u : Uuid) : Json.Value := .text u.toText

def decode : Json.Decoder Uuid
  | .text s =>
    match parse? s with
    | some u => .ok u
    | none => .error (.refused "UUID parsing failed")
  | v => .error (.wrongType v "a formatted UUID string")

end Uuid

end Bookshop
