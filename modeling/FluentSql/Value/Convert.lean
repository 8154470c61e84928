import FluentSql.Calendar.Reader
import FluentSql.Decimal.Float
import FluentSql.Decimal.Reader
import FluentSql.Error
import FluentSql.Json.Reader
import FluentSql.Number.Reader
import FluentSql.Value.Reader

/-! Values as the types of a program: what each type accepts, and what each type becomes. -/
namespace FluentSql

/-- Types that decode from a column value. -/
class FromValue (α : Type) where
  fromValue : Value → Except Error α

export FromValue (fromValue)

/-- Types that are bound as a value. -/
class ToValue (α : Type) where
  toValue : α → Value

export ToValue (toValue)

def mismatch (expected : String) (got : Value) : Except Error α :=
  .error (.decode "" (.kind expected got.kind))

def orMismatch (expected : String) (got : Value) : Option α → Except Error α
  | some value => .ok value
  | none => mismatch expected got

instance : FromValue Value := ⟨.ok⟩

instance : FromValue Int64 where
  fromValue value := match value with
    | .int number => .ok number
    | .bool flag => .ok (if flag then 1 else 0)
    | .decimal number =>
      if number.isWhole then orMismatch "int" value (Value.int64? number.truncated)
      else mismatch "int" value
    | .text text => orMismatch "int" value ((Text.readInt text.toList).bind Value.int64?)
    | other => mismatch "int" other

/-- An integer that has to lie between two bounds. -/
def narrow (low high : Int) (build : Int → α) (value : Value) : Except Error α := do
  let wide : Int64 ← fromValue value
  if high < wide.toInt then throw (.decode "" .tooLarge)
  else if wide.toInt < low then throw (.decode "" .tooSmall)
  else pure (build wide.toInt)

instance : FromValue Int32 := ⟨narrow (-2147483648) 2147483647 Int32.ofInt⟩

instance : FromValue Int16 := ⟨narrow (-32768) 32767 Int16.ofInt⟩

instance : FromValue UInt32 := ⟨narrow 0 4294967295 fun value => UInt32.ofNat value.toNat⟩

instance : FromValue UInt64 := ⟨narrow 0 18446744073709551615 fun value => UInt64.ofNat value.toNat⟩

instance : FromValue Double where
  fromValue value := match value with
    | .float number => .ok number
    | .int number => .ok (Double.ofInt number.toInt)
    | .decimal number => .ok number.toDouble
    | .text text => orMismatch "float" value (Double.parse? text.toList)
    | other => mismatch "float" other

instance : FromValue Single where
  fromValue value := (fromValue value).map Double.toSingle

instance : FromValue Decimal where
  fromValue value := match value with
    | .decimal number => .ok number
    | .int number => .ok (Decimal.ofInt64 number)
    | .float number => orMismatch "decimal" value (Decimal.ofDouble? number)
    | .text text => orMismatch "decimal" value (Decimal.parse? text.toList)
    | other => mismatch "decimal" other

instance : FromValue Bool where
  fromValue
    | .bool flag => .ok flag
    | .int number => .ok (number != 0)
    | other => mismatch "bool" other

instance : FromValue String where
  fromValue
    | .text text => .ok text
    | .decimal number => .ok number.text
    | .uuid uuid => .ok uuid.text
    | other => mismatch "text" other

instance : FromValue (List UInt8) where
  fromValue
    | .bytes bytes => .ok bytes
    | .text text => .ok text.toUTF8.toList
    | other => mismatch "bytes" other

instance : FromValue Date where
  fromValue value := match value with
    | .date date => .ok date
    | .dateTime moment => .ok moment.date
    | .text text => orMismatch "date" value (Calendar.readDate text)
    | other => mismatch "date" other

instance : FromValue Time where
  fromValue value := match value with
    | .time time => .ok time
    | .text text => orMismatch "time" value (Calendar.readTime text)
    | other => mismatch "time" other

instance : FromValue DateTime where
  fromValue value := match value with
    | .dateTime moment => .ok moment
    | .timestamp instant => .ok instant.utc
    | .text text => orMismatch "datetime" value (Calendar.readDateTime text)
    | other => mismatch "datetime" other

instance : FromValue Timestamp where
  fromValue
    | .timestamp instant => .ok instant
    | .dateTime moment => .ok ⟨moment⟩
    | other => mismatch "timestamp" other

instance : FromValue Json where
  fromValue
    | .json json => .ok json
    | .text text => match Json.parse? text with
      | some json => .ok json
      | none => .error .malformedJson
    | other => mismatch "json" other

instance : FromValue Uuid where
  fromValue value := match value with
    | .uuid uuid => .ok uuid
    | .text text => orMismatch "uuid" value (Uuid.parse? text)
    | other => mismatch "uuid" other

instance [FromValue α] : FromValue (Option α) where
  fromValue
    | .null => .ok none
    | value => (fromValue value).map some

instance : ToValue Value := ⟨id⟩
instance : ToValue Bool := ⟨.bool⟩
instance : ToValue Int64 := ⟨.int⟩
instance : ToValue Int32 := ⟨fun number => .int (Int64.ofInt number.toInt)⟩
instance : ToValue Int16 := ⟨fun number => .int (Int64.ofInt number.toInt)⟩
instance : ToValue Int8 := ⟨fun number => .int (Int64.ofInt number.toInt)⟩
instance : ToValue UInt32 := ⟨fun number => .int (Int64.ofInt number.toNat)⟩
instance : ToValue UInt16 := ⟨fun number => .int (Int64.ofInt number.toNat)⟩
instance : ToValue UInt8 := ⟨fun number => .int (Int64.ofInt number.toNat)⟩
instance : ToValue Double := ⟨.float⟩
instance : ToValue Single := ⟨fun number => .float number.toDouble⟩
instance : ToValue Decimal := ⟨.decimal⟩
instance : ToValue String := ⟨.text⟩
instance : ToValue (List UInt8) := ⟨.bytes⟩
instance : ToValue Date := ⟨.date⟩
instance : ToValue Time := ⟨.time⟩
instance : ToValue DateTime := ⟨.dateTime⟩
instance : ToValue Timestamp := ⟨.timestamp⟩
instance : ToValue Json := ⟨.json⟩
instance : ToValue Uuid := ⟨.uuid⟩

instance [ToValue α] : ToValue (Option α) where
  toValue
    | some value => toValue value
    | none => .null

end FluentSql
