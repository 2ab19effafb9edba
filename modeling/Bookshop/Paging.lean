/-
  Bookshop.Paging — pages of a result: what a client asks for, and the slice it gets.

  Pages are numbered from 0 inside and from 1 for clients. The offset of a page is computed in 64
  bits and stays at the largest such number rather than overflow; no result is that long.
-/

import Bookshop.Json.Value

namespace Bookshop

/-- The sizes that hold where a client asks for none, or for too much. -/
structure PageSizes where
  usual : Nat := 20
  largest : Nat := 100
  deriving DecidableEq, Repr

/-- The part of a result that one page shows. -/
structure Window where
  number : Nat
  size : Nat
  deriving DecidableEq, Repr

namespace Window

/-- A page has room for at least one item. -/
def make (number size : Nat) : Window := ⟨number, max size 1⟩

def default : Window := make 0 20

/-- The page a client asks for, counting from 1: a number below 1 is the first page, a size below 1
is the usual size, and a size above the largest is the largest. -/
def ofClient (number size : Option Int) (sizes : PageSizes) : Window :=
  let number := (max (number.getD 1) 1 - 1).toNat
  let size := match size with
    | some size => if 1 ≤ size then min size.toNat sizes.largest else sizes.usual
    | none => sizes.usual
  make number size

def offsetLimit : Nat := UInt64.size - 1

def offset (window : Window) : Nat := min (window.number * window.size) offsetLimit

end Window

/-- What is said about a page beside its items; the number counts from 1. -/
structure PageInfo where
  totalElements : Nat
  totalPages : Nat
  number : Nat
  size : Nat
  deriving DecidableEq, Repr

structure Page (α : Type) where
  content : List α
  info : PageInfo
  deriving DecidableEq, Repr

namespace Page

variable {α β : Type}

def make (content : List α) (window : Window) (total : Nat) : Page α :=
  ⟨content, total, (total + window.size - 1) / window.size, window.number + 1, window.size⟩

def map (f : α → β) (page : Page α) : Page β := ⟨page.content.map f, page.info⟩

end Page

def Window.slice {α : Type} (window : Window) (items : List α) : List α :=
  (items.drop window.offset).take window.size

def Window.apply {α : Type} (window : Window) (items : List α) : Page α :=
  Page.make (window.slice items) window items.length

def PageInfo.toJson (info : PageInfo) : Json.Value :=
  .record [("totalElements", .ofNat info.totalElements), ("totalPages", .ofNat info.totalPages),
    ("number", .ofNat info.number), ("size", .ofNat info.size)]

def Page.toJson {α : Type} (write : α → Json.Value) (page : Page α) : Json.Value :=
  .record [("content", .list (page.content.map write)), ("meta", page.info.toJson)]

end Bookshop
