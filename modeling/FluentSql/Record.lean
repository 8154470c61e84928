import FluentSql.Value.Convert

/-! Records: the columns that a write touches, with their values. -/
namespace FluentSql

/-- Column and value pairs in the order in which they are written. -/
abbrev Fields := List (String × Value)

/-- Types that are written as a row. The identity column is never among their fields. -/
class Record (α : Type) where
  fields : α → Fields

instance : Record Fields := ⟨id⟩

namespace Fields

def columns (fields : Fields) : List String := fields.map Prod.fst

def values (fields : Fields) : List Value := fields.map Prod.snd

end Fields
end FluentSql
