/-
  Bookshop.ShelfLabel — the labels on the shelves: a code and a text, without a natural key.
-/

import Bookshop.Storable

namespace Bookshop

structure ShelfLabel where
  code : Uuid
  text : String
  deriving DecidableEq, Repr

namespace ShelfLabel

structure Draft where
  code : Option Uuid := none
  text : Option String := none

def layout : Json.Decode.Layout Draft ShelfLabel where
  name := "ShelfLabel"
  fields := [
    ⟨"code", none, fun v d => do return { d with code := some (← Uuid.decode v) }⟩,
    ⟨"text", none, fun v d => do return { d with text := some (← Json.Decode.text v) }⟩]
  blank := {}
  build := fun missing d => do
    let code ← Json.Decode.required missing 0 "code" d.code
    let text ← Json.Decode.required missing 1 "text" d.text
    return ⟨code, text⟩

def toJson (label : ShelfLabel) : Json.Value :=
  .record [("code", label.code.toJson), ("text", .text label.text)]

instance : Storable ShelfLabel where
  collection := "shelf_labels"
  id := ShelfLabel.code
  naturalKey := fun _ => none
  encode := toJson
  decode := layout.decode

end ShelfLabel

end Bookshop
