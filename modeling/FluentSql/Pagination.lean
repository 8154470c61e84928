import FluentSql.Text.Digits
import FluentSql.Text.Join

/-! Pages of results and the arithmetic of their windows. -/
namespace FluentSql

structure Pagination (α : Type) where
  data : List α
  total : UInt64
  perPage : UInt64
  currentPage : UInt64
  lastPage : UInt64

namespace Pagination

def hasMorePages (page : Pagination α) : Bool := page.currentPage < page.lastPage

def isEmpty (page : Pagination α) : Bool := page.data.isEmpty

/-- At least one. -/
def clamp (count : UInt64) : UInt64 := if count = 0 then 1 else count

/-- Pages that a number of rows takes, the last one perhaps not full. -/
def lastPageOf (total perPage : UInt64) : UInt64 :=
  let size := clamp perPage
  if total % size = 0 then total / size else total / size + 1

/-- Rows before a page; pages count from one. -/
def offsetOf (page perPage : UInt64) : UInt64 := (clamp page - 1) * clamp perPage

/-- The serialized page, given the texts of its data. -/
def serialize (page : Pagination String) : String :=
  let number (value : UInt64) : String := Text.natText value.toNat
  "\x7b\"data\":[" ++ Text.join "," page.data ++ "],\"total\":" ++ number page.total ++
    ",\"per_page\":" ++ number page.perPage ++ ",\"current_page\":" ++ number page.currentPage ++
    ",\"last_page\":" ++ number page.lastPage ++ "\x7d"

end Pagination
end FluentSql
