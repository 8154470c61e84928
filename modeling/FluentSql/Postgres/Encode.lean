import FluentSql.Decimal.Float
import FluentSql.Json.Printer
import FluentSql.Number.Written
import FluentSql.Postgres.Numeric
import FluentSql.Postgres.Type
import FluentSql.Text.Escaped
import FluentSql.Value.Convert

/-! Arguments as parameters of a PostgreSQL statement. The server chooses the type of every
parameter, and a value has to fit it. -/
namespace FluentSql.Postgres

/-- Why an argument does not go to a parameter. -/
inductive EncodeFault where
  | wrongType
  | tooLarge
  | tooSmall
  | notNumeric (number : Double)
  | noTextForm (type : WireType)
  | value (error : Error)
  deriving DecidableEq

def EncodeFault.message : EncodeFault → String
  | .wrongType => "wrong type"
  | .tooLarge => DecodeFault.tooLarge.message
  | .tooSmall => DecodeFault.tooSmall.message
  | .notNumeric number =>
    "float " ++ number.text Number.Layout.literal ++ " has no numeric representation"
  | .noTextForm type => "cannot encode text value as postgres type " ++ type.label
  | .value error => error.message

/-- The wire form of an argument, nothing for NULL. -/
abbrev Encoded := Except EncodeFault (Option Bytes)

def sent (bytes : Bytes) : Encoded := .ok (some bytes)

def onlyFor (wanted type : WireType) (bytes : Bytes) : Encoded :=
  if type = wanted then sent bytes else .error .wrongType

def textBytes (text : String) : Bytes := text.toUTF8.toList

def singleBytes (number : Single) : Bytes := wordBytes 4 number.word.toNat

def doubleBytes (number : Double) : Bytes := wordBytes 8 number.word.toNat

def decimalBytes (number : Decimal) : Bytes := (Numeric.ofDecimal number).bytes

/-- A number in as many bytes as the type has, if it fits. -/
def encodeWidth (width : Nat) (number : Int) : Encoded :=
  if Fits width number then sent (integerBytes width number)
  else if number < 0 then .error .tooSmall
  else .error .tooLarge

def encodeInt (number : Int64) (type : WireType) : Encoded :=
  match type with
  | .int2 => encodeWidth 2 number.toInt
  | .int4 => encodeWidth 4 number.toInt
  | .int8 => encodeWidth 8 number.toInt
  | .float4 => sent (singleBytes (Single.ofInt number.toInt))
  | .float8 => sent (doubleBytes (Double.ofInt number.toInt))
  | .numeric => sent (decimalBytes (Decimal.ofInt64 number))
  | other =>
    if other.isCharacters then sent (textBytes (Text.intText number.toInt))
    else .error .wrongType

def encodeFloat (number : Double) (type : WireType) : Encoded :=
  match type with
  | .float4 => sent (singleBytes number.toSingle)
  | .float8 => sent (doubleBytes number)
  | .numeric => match Decimal.ofDouble? number with
    | some decimal => sent (decimalBytes decimal)
    | none => .error (.notNumeric number)
  | _ => .error .wrongType

def encodeDecimal (number : Decimal) (type : WireType) : Encoded :=
  match type with
  | .float4 | .float8 => encodeFloat number.toDouble type
  | .numeric => sent (decimalBytes number)
  | other =>
    if other.isCharacters then sent (textBytes number.text) else .error .wrongType

/-- A zone-less moment is taken as universal time. -/
def encodeMoment (moment : DateTime) (type : WireType) : Encoded :=
  match type with
  | .timestamp | .timestamptz => sent (dateTimeBytes moment)
  | _ => .error .wrongType

def encodeJson (json : Json) (type : WireType) : Encoded :=
  match type with
  | .json => sent (textBytes json.print)
  | .jsonb => sent (1 :: textBytes json.print)
  | _ => .error .wrongType

def encodeUuid (uuid : Uuid) (type : WireType) : Encoded :=
  if type = .uuid then sent uuid.bytes
  else if type.isCharacters then sent (textBytes uuid.text)
  else .error .wrongType

def read [FromValue α] (text : String) (encode : α → Encoded) : Encoded :=
  match (fromValue (.text text) : Except Error α) with
  | .ok value => encode value
  | .error error => .error (.value error)

def readBool (text : String) : Except Error Bool :=
  if text = "t" ∨ text = "true" ∨ text = "1" then .ok true
  else if text = "f" ∨ text = "false" ∨ text = "0" then .ok false
  else .error (.decode "" (.invalidBoolean (Text.escaped text)))

/-- A moment, or the midnight of a date. -/
def readMoment (text : String) : Except Error DateTime :=
  match (fromValue (.text text) : Except Error DateTime) with
  | .ok moment => .ok moment
  | .error _ => (fromValue (.text text) : Except Error Date).map fun date => ⟨date, .midnight⟩

/-- Text goes as it is to text types, and is read as a value of every other type. -/
def encodeText (text : String) (type : WireType) : Encoded :=
  match type with
  | .int2 | .int4 | .int8 => read (α := Int64) text fun number => encodeInt number type
  | .float4 | .float8 => read (α := Double) text fun number => encodeFloat number type
  | .numeric => read (α := Decimal) text fun number => encodeDecimal number type
  | .bool => match readBool text with
    | .ok flag => sent [if flag then 1 else 0]
    | .error error => .error (.value error)
  | .date => read (α := Date) text fun date => sent (dateBytes date)
  | .time => read (α := Time) text fun time => sent (timeBytes time)
  | .timestamp | .timestamptz => match readMoment text with
    | .ok moment => encodeMoment moment type
    | .error error => .error (.value error)
  | .json | .jsonb => read (α := Json) text fun json => encodeJson json type
  | .uuid => read (α := Uuid) text fun uuid => encodeUuid uuid type
  | other =>
    if other.takesText then sent (textBytes text) else .error (.noTextForm other)

def encode (type : WireType) : Value → Encoded
  | .null => .ok none
  | .bool flag => onlyFor .bool type [if flag then 1 else 0]
  | .int number => encodeInt number type
  | .float number => encodeFloat number type
  | .decimal number => encodeDecimal number type
  | .text text => encodeText text type
  | .bytes bytes => onlyFor .bytea type bytes
  | .date date => onlyFor .date type (dateBytes date)
  | .time time => onlyFor .time type (timeBytes time)
  | .dateTime moment => encodeMoment moment type
  | .timestamp instant => encodeMoment instant.utc type
  | .json json => encodeJson json type
  | .uuid uuid => encodeUuid uuid type

end FluentSql.Postgres
