import Bedspace.Text.Number

/-!
# Pages of a listing

A listing is cut into pages of one size, numbered from 1. Without a page number all of it is given.

* `paginate` takes one page out; past the end it is empty;
* `PageMetadata` tells which page it is and how many there are; the number of pages is the
  number of results divided by the size, rounded up (`pageCount_mul_le`, `le_pageCount_mul`), of which
  an answer has room for 32 bits;
* `PageMetadata.headers` are the lines by which an answer tells of the page.
-/

namespace Bedspace

/-- The page that is asked for and its size. -/
structure PageCriteria where
  page : Option Nat
  perPage : Option Nat
  deriving DecidableEq, Repr

/-- Which page of how many it is. -/
structure PageMetadata where
  currentPage : Nat
  totalPages : Nat
  totalResults : Nat
  pageSize : Nat
  deriving DecidableEq, Repr

/-- Some of the results of a listing, and which ones if they are a page. -/
structure Page (α : Type) where
  items : List α
  metadata : Option PageMetadata

/-- The number of pages of `size` that hold `results` results. -/
def pageCount (results size : Nat) : Nat := (results + size - 1) / size

/-- All pages together have room for the results. -/
theorem le_pageCount_mul {results size : Nat} (h : 0 < size) :
    results ≤ pageCount results size * size := by
  have hd := Nat.div_add_mod (results + size - 1) size
  have hm := Nat.mod_lt (results + size - 1) h
  have hc : pageCount results size * size = size * ((results + size - 1) / size) :=
    Nat.mul_comm _ _
  omega

/-- The last page is not empty. -/
theorem pageCount_mul_le {results size : Nat} (h : 0 < size) :
    pageCount results size * size < results + size := by
  have hd := Nat.div_add_mod (results + size - 1) size
  have hc : pageCount results size * size = size * ((results + size - 1) / size) :=
    Nat.mul_comm _ _
  omega

/-- The number of results before the page `page` of size `size`, or the greatest one that 64 bits
    have room for. -/
def pageSkip (page size : Nat) : Nat := min ((page - 1) * size) (bitValues 64 - 1)

/-- The results of the page `page` of size `size`. -/
def pageItems {α : Type} (items : List α) (page size : Nat) : List α :=
  (items.drop (pageSkip page size)).take size

/-- Takes the page out of a listing that is asked for. Page and size are at least 1. -/
def paginate {α : Type} (items : List α) (criteria : PageCriteria) (defaultSize : Nat) : Page α :=
  match criteria.page with
  | none => ⟨items, none⟩
  | some requested =>
    let page := max requested 1
    let size := max (criteria.perPage.getD defaultSize) 1
    ⟨pageItems items page size,
      some ⟨page, pageCount items.length size % bitValues 32, items.length, size⟩⟩

/-- The page of the images of the items. -/
def Page.map {α β : Type} (f : α → β) (page : Page α) : Page β :=
  ⟨page.items.map f, page.metadata⟩

/-- The lines that tell of a page, each with its name. -/
def PageMetadata.headers (metadata : PageMetadata) : List (String × String) := [
  ("x-pagination-currentpage", toString metadata.currentPage),
  ("x-pagination-pagesize", toString metadata.pageSize),
  ("x-pagination-totalpages", toString metadata.totalPages),
  ("x-pagination-totalresults", toString metadata.totalResults)]

/-- The lines that tell of the results; there are none when all of them are given. -/
def Page.headers {α : Type} (page : Page α) : List (String × String) :=
  match page.metadata with
  | none => []
  | some metadata => metadata.headers

end Bedspace
