import FluentSql.Json.Printer
import FluentSql.Text.Hex

/-! Scripts are calls written down as JSON. Here are the parts that all of them are read with. -/
namespace FluentSql.Script

/-- A part of a script, or what is wrong with it. -/
abbrev Reading := Except String

/-- A member of an object. -/
def member? (json : Json) (name : String) : Option Json :=
  match json with
  | .object members => Entries.find? members name
  | _ => none

/-- A member that is there and not null. -/
def given? (json : Json) (name : String) : Option Json :=
  match member? json name with
  | some .null => none
  | other => other

def member (json : Json) (name : String) : Reading Json :=
  match member? json name with
  | some value => .ok value
  | none => .error ("no member " ++ name)

def string : Json → Reading String
  | .string text => .ok text
  | other => .error ("no string: " ++ other.print)

def int : Json → Reading Int
  | .int value => .ok value
  | other => .error ("no integer: " ++ other.print)

def nat (json : Json) : Reading Nat := Int.toNat <$> int json

def bool : Json → Reading Bool
  | .bool value => .ok value
  | other => .error ("no boolean: " ++ other.print)

def list : Json → Reading (List Json)
  | .array items => .ok items
  | other => .error ("no list: " ++ other.print)

def listOf (read : Json → Reading α) (json : Json) : Reading (List α) := do
  (← list json).mapM read

def strings : Json → Reading (List String) := listOf string

/-- A part that has to be there. -/
def required (what : String) : Option α → Reading α
  | some value => .ok value
  | none => .error what

def int64 (json : Json) : Reading Int64 := Int64.ofInt <$> int json

def uint64 (json : Json) : Reading UInt64 := do pure (UInt64.ofNat (← nat json))

def hexWord (text : String) : Reading Nat := required "hexadecimal" (Text.readHex text.toList)

def stringOr (json : Json) (name default : String) : Reading String :=
  match given? json name with
  | some content => string content
  | none => pure default

/-- Lists of parts that may be missing. -/
def listOr (read : Json → Reading α) (json : Json) (name : String) : Reading (List α) :=
  match given? json name with
  | some items => listOf read items
  | none => pure []

def flag (json : Json) (name : String) : Bool := given? json name = some (.bool true)

def object (members : List (String × Json)) : Json := Json.ofMembers members

def natural (count : Nat) : Json := .int count

def optional (write : α → Json) : Option α → Json
  | some content => write content
  | none => .null

def stringsJson (texts : List String) : Json := .array (texts.map .string)

end FluentSql.Script
