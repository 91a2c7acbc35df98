import EdgeApi.Record.Fields

/-!
# Result info

Where a page stands in its listing, by page numbers or by cursors.
-/

set_option autoImplicit false

namespace EdgeApi

structure Cursors where
  before : String := ""
  after : String := ""
  deriving DecidableEq

namespace Cursors

def fields := (
  .cons (.label "before" before) <|
  .cons (.label "after" after) .nil : Fields Cursors _ _)

def codec : Codec Cursors :=
  .record "Cursors" fields fun (before, after, ()) => { before, after }

end Cursors

structure ResultInfo where
  page : UInt32 := 0
  perPage : UInt32 := 0
  count : UInt32 := 0
  totalCount : UInt32 := 0
  statedPages : UInt32 := 0
  cursor : String := ""
  cursors : Cursors := {}
  deriving DecidableEq

namespace ResultInfo

def fields := (
  .cons (.lenient "page" .uint32 0 page) <|
  .cons (.lenient "per_page" .uint32 0 perPage) <|
  .cons (.lenient "count" .uint32 0 count) <|
  .cons (.lenient "total_count" .uint32 0 totalCount) <|
  .cons (.lenient "total_pages" .uint32 0 statedPages) <|
  .cons (.label "cursor" cursor) <|
  .cons (.lenient "cursors" Cursors.codec {} cursors) .nil : Fields ResultInfo _ _)

def codec : Codec ResultInfo :=
  .record "ResultInfo" fields
    fun (page, perPage, count, totalCount, statedPages, cursor, cursors, ()) =>
      { page, perPage, count, totalCount, statedPages, cursor, cursors }

/-- The page count, derived from the item count where only that is stated. -/
def totalPages (r : ResultInfo) : UInt32 :=
  if r.statedPages = 0 ∧ 0 < r.totalCount ∧ 0 < r.perPage then
    UInt32.ofNat ((r.totalCount.toNat + r.perPage.toNat - 1) / r.perPage.toNat)
  else r.statedPages

/-- Every page has been served. Page 1 of no stated pages is the only one. -/
def done (r : ResultInfo) : Bool :=
  decide (r.page = 1 ∧ r.totalPages = 0 ∨ r.totalPages < r.page)

def hasMorePages (r : ResultInfo) : Bool :=
  decide (1 ≤ r.page ∧ r.page < r.totalPages)

def nextCursor (r : ResultInfo) : String :=
  if r.cursors.after.isEmpty then r.cursor else r.cursors.after

def lastNumber : UInt32 := 0xFFFFFFFF

/-- Advances by one page, at most to one past the last, if there is a number for it. -/
def next? (r : ResultInfo) : Option ResultInfo :=
  if r.done then some r
  else if r.page = lastNumber then none
  else some { r with page := r.page + 1 }

end ResultInfo

end EdgeApi
