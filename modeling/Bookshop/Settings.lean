/-
  Bookshop.Settings — the settings of a catalog, read from named variables.

  A variable that is not set, or is blank, takes its default. The first variable with a bad value is
  reported, in the order in which they are read.
-/

import Bookshop.Paging
import Bookshop.Search.Profile
import Bookshop.Text.Numeral

namespace Bookshop

structure Settings where
  bindAddress : String := "0.0.0.0:8080"
  profile : Search.Profile := .simple
  pageSizes : PageSizes := {}
  deriving DecidableEq, Repr

def Search.unknownProfile (name : String) : String := "unknown text search profile: " ++ name

namespace Settings

structure Error where
  variableName : String
  value : String
  reason : String
  deriving DecidableEq, Repr

def Error.message (e : Error) : String :=
  "invalid " ++ e.variableName ++ "=" ++ Text.quoted e.value ++ ": " ++ e.reason

def pageSize (variableName : String) (value : Option String) (default : Nat) : Except Error Nat :=
  match value with
  | none => .ok default
  | some text =>
    match Text.readUnsigned? (Text.trimList text.toList) with
    | some (size + 1) => .ok (size + 1)
    | _ => .error ⟨variableName, text, "expected a positive integer"⟩

def profileOf (variableName : String) (value : Option String) : Except Error Search.Profile :=
  match value with
  | none => .ok .simple
  | some text => (Search.Profile.parse text).mapError (fun name => ⟨variableName, text, Search.unknownProfile name⟩)

def read (lookup : String → Option String) : Except Error Settings := do
  let get (variableName : String) : Option String :=
    (lookup variableName).filter (fun value => !Text.isBlankText value)
  let profile ← profileOf "CATALOG_SEARCH_FTS_CONFIG" (get "CATALOG_SEARCH_FTS_CONFIG")
  let usual ← pageSize "CATALOG_PAGE_SIZE_DEFAULT" (get "CATALOG_PAGE_SIZE_DEFAULT") 20
  let largest ← pageSize "CATALOG_PAGE_SIZE_MAX" (get "CATALOG_PAGE_SIZE_MAX") 100
  if largest < usual then
    .error ⟨"CATALOG_PAGE_SIZE_DEFAULT", toString usual,
      "must not exceed CATALOG_PAGE_SIZE_MAX (" ++ toString largest ++ ")"⟩
  else
    return {
      bindAddress := ((get "CATALOG_BIND_ADDR").map Text.trim).getD "0.0.0.0:8080"
      profile
      pageSizes := ⟨usual, largest⟩ }

end Settings

end Bookshop
