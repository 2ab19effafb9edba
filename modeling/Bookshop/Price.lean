/-
  Bookshop.Price — an amount of money in one currency.

  A client writes a price as a bare amount or as a record of an amount and a currency. `Price.make`
  is the only way a client's price gets in: it refuses amounts that are negative or not finite, and
  currencies that are not three letters; a blank currency stands for the default.
-/

import Bookshop.Failure
import Bookshop.Text.Blank

namespace Bookshop

structure Price where
  amount : Float
  currency : String
  deriving DecidableEq

namespace Price

def defaultCurrency : String := "EUR"

/-- The currency a client means: trimmed, and the default where there is none. -/
def currencyOr (currency : Option String) : String :=
  match currency with
  | none => defaultCurrency
  | some c => if Text.isBlankText c then defaultCurrency else Text.trim c

def make (amount : Float) (currency : Option String) : Except Failure Price :=
  if !amount.isFinite || amount < 0 then .error .badAmount
  else
    let currency := Text.upperAscii (currencyOr currency)
    if currency.toList.length = 3 ∧ currency.toList.all Char.isAlpha then .ok ⟨amount, currency⟩
    else .error .badCurrency

def toJson (price : Price) : Json.Value :=
  .record [("amount", .ofFloat price.amount), ("currency", .text price.currency)]

/-! ## Reading -/

structure Input where
  amount : Float
  currency : Option String

def valuesOf (name : String) (members : List (String × Json.Value)) : List Json.Value :=
  (members.filter (·.1 == name)).map (·.2)

/-- An amount is one number; a currency is one text, null, or not there. -/
def readInput? : Json.Value → Option Input
  | .number n => some ⟨n.toFloat, none⟩
  | .record members =>
    match valuesOf "amount" members, valuesOf "currency" members with
    | [.number n], [] => some ⟨n.toFloat, none⟩
    | [.number n], [.null] => some ⟨n.toFloat, none⟩
    | [.number n], [.text c] => some ⟨n.toFloat, some c⟩
    | _, _ => none
  | _ => none

def decode : Json.Decoder Price := fun v =>
  match readInput? v with
  | none => .error (.refused "data did not match any variant of untagged enum MoneyInput")
  | some input => (make input.amount input.currency).mapError (fun failure => .refused failure.message)

end Price

end Bookshop
