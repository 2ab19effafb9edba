/-
  Bookshop.Text.Utf8 — text from bytes in UTF-8, with U+FFFD for what is not.

  The first byte of a character says how many bytes follow and what the next one may be. Where the next
  byte does not fit, the bytes so far become one U+FFFD and that byte is looked at anew; so every
  sequence of bytes has a text.
-/

namespace Bookshop.Text

/-- A character whose first bytes have been read: how many are still to come, the range of the next
one, and the value of the bits so far. -/
structure Pending where
  missing : Nat
  low : Nat
  high : Nat
  value : Nat
  deriving DecidableEq, Repr

/-- What a byte begins. -/
inductive Lead where
  | char (c : Char)
  | sequence (p : Pending)
  | none
  deriving DecidableEq, Repr

def Lead.ofByte (b : Nat) : Lead :=
  if b < 0x80 then .char (Char.ofNat b)
  else if 0xC2 ≤ b ∧ b ≤ 0xDF then .sequence ⟨1, 0x80, 0xBF, b - 0xC0⟩
  else if b = 0xE0 then .sequence ⟨2, 0xA0, 0xBF, 0⟩
  else if b = 0xED then .sequence ⟨2, 0x80, 0x9F, 0xD⟩
  else if 0xE1 ≤ b ∧ b ≤ 0xEF then .sequence ⟨2, 0x80, 0xBF, b - 0xE0⟩
  else if b = 0xF0 then .sequence ⟨3, 0x90, 0xBF, 0⟩
  else if 0xF1 ≤ b ∧ b ≤ 0xF3 then .sequence ⟨3, 0x80, 0xBF, b - 0xF0⟩
  else if b = 0xF4 then .sequence ⟨3, 0x80, 0x8F, 4⟩
  else .none

def replacement : Char := '\uFFFD'

/-- Reads bytes as the continuation of a character, if one has begun. -/
def decodeFrom : Option Pending → List UInt8 → List Char
  | none, [] => []
  | some _, [] => [replacement]
  | none, b :: rest =>
    match Lead.ofByte b.toNat with
    | .char c => c :: decodeFrom none rest
    | .sequence p => decodeFrom (some p) rest
    | .none => replacement :: decodeFrom none rest
  | some p, b :: rest =>
    if p.low ≤ b.toNat ∧ b.toNat ≤ p.high then
      let value := p.value * 64 + (b.toNat - 0x80)
      if p.missing = 1 then Char.ofNat value :: decodeFrom none rest
      else decodeFrom (some ⟨p.missing - 1, 0x80, 0xBF, value⟩) rest
    else
      replacement ::
        match Lead.ofByte b.toNat with
        | .char c => c :: decodeFrom none rest
        | .sequence q => decodeFrom (some q) rest
        | .none => replacement :: decodeFrom none rest

def decodeUtf8 (bytes : List UInt8) : List Char := decodeFrom none bytes

def encodeUtf8 (cs : List Char) : List UInt8 := cs.flatMap String.utf8EncodeChar

end Bookshop.Text
