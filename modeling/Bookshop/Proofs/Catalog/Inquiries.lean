/-
  Bookshop.Proofs.Catalog.Inquiries — what clients may ask of the catalog, and that asking changes nothing.

  The answer to an inquiry is the rows that it shows, those of authors beside the cards of books included.
-/

import Bookshop.Proofs.Catalog.Changes
import Bookshop.Search.Results

namespace Bookshop

open CatalogM

/-! ## Rows -/

inductive Shown where
  | author (row : Stored Author)
  | book (row : Stored Book)

namespace Shown

def collection : Shown → String
  | author _ => Storable.collection Author
  | book _ => Storable.collection Book

def id : Shown → Uuid
  | author row => row.id
  | book row => row.id

def version : Shown → Int
  | author row => row.version
  | book row => row.version

def tag : Shown → EntityTag
  | author row => row.tag
  | book row => row.tag

end Shown

def Answer.shown : Answer → List Shown
  | author row => [.author row]
  | book row => [.book row]
  | gone => []

def Card.shown (card : Card) : List Shown := .book card.book :: (card.authors.getD []).map .author

/-! ## Inquiries -/

inductive Inquiry where
  | author (id : Uuid)
  | authors (page : Window)
  | authorsOf (ids : List Uuid)
  | book (id : Uuid)
  | books (page : Window)
  | booksBy (author : Uuid)
  | card (id : Uuid) (embed : Embed)
  | cards (page : Window) (embed : Embed)
  | search (profile : Search.Profile) (request : Search.Request)

def Inquiry.run : Inquiry → CatalogM (List Shown)
  | author id => do return [.author (← Authors.require id)]
  | authors page => do return (← Authors.list page).content.map .author
  | authorsOf ids => do return (← Authors.findAll ids).map .author
  | book id => do return [.book (← Books.require id)]
  | books page => do return (← Books.list page).content.map .book
  | booksBy id => do return (← Books.byAuthor id).map .book
  | card id embed => do return (← Card.require id embed).shown
  | cards page embed => do return (← Card.list page embed).content.flatMap Card.shown
  | search profile request => do return (← Search.search profile request).content.map (.book ·.book)

/-! ## Reads -/

theorem Authors.readOnly_findAll (ids : List Uuid) : (Authors.findAll ids).ReadOnly := by
  cases ids with
  | nil => exact readOnly_pure []
  | cons id ids => exact readOnly_ask _ _

namespace Card

theorem readOnly_resolve (books : List (Stored Book)) (embed : Embed) : (resolve books embed).ReadOnly := by
  unfold resolve
  split
  · exact Authors.readOnly_findAll _
  · exact readOnly_pure []

theorem readOnly_list (page : Window) (embed : Embed) : (list page embed).ReadOnly :=
  (readOnly_ask _ _).bind fun _ => (readOnly_resolve _ embed).bind fun _ => readOnly_pure _

theorem readOnly_require (id : Uuid) (embed : Embed) : (Card.require id embed).ReadOnly :=
  (CatalogM.readOnly_require id).bind fun _ => (readOnly_resolve _ embed).bind fun _ => readOnly_pure _

end Card

namespace Search

theorem readOnly_execute (plan : Plan) (criteria : List Criterion) (page : Window) :
    (execute plan criteria page).ReadOnly :=
  (readOnly_ask _ _).bind fun _ => (readOnly_ask _ _).bind fun _ => readOnly_pure _

theorem readOnly_search (profile : Profile) (request : Request) : (search profile request).ReadOnly :=
  (readOnly_decided _).bind fun _ => (readOnly_decided _).bind fun _ => readOnly_execute _ _ _

end Search

theorem Inquiry.readOnly (inquiry : Inquiry) : inquiry.run.ReadOnly := by
  cases inquiry with
  | author id => exact (readOnly_require id).bind fun _ => readOnly_pure _
  | authors page => exact (readOnly_ask _ _).bind fun _ => readOnly_pure _
  | authorsOf ids => exact (Authors.readOnly_findAll ids).bind fun _ => readOnly_pure _
  | book id => exact (readOnly_require id).bind fun _ => readOnly_pure _
  | books page => exact (readOnly_ask _ _).bind fun _ => readOnly_pure _
  | booksBy id => exact (readOnly_ask _ _).bind fun _ => readOnly_pure _
  | card id embed => exact (Card.readOnly_require id embed).bind fun _ => readOnly_pure _
  | cards page embed => exact (Card.readOnly_list page embed).bind fun _ => readOnly_pure _
  | search profile request => exact (Search.readOnly_search profile request).bind fun _ => readOnly_pure _

end Bookshop
