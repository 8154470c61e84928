import FluentSql.Postgres.Address
import FluentSql.Postgres.Decode
import FluentSql.Text.Digits

/-! Connection strings: a URL, or settings as keys and values. Whatever is wrong with one, the
reader only says that it is not valid. -/
namespace FluentSql.Postgres

/-- A setting and its text. -/
abbrev Setting := String × String

namespace Setting
open Text (isDigit readInt)

/-- An integer between two bounds; a minus sign only stands where negative numbers are allowed. -/
def isBetween (low high : Int) (text : String) : Bool :=
  match readInt text.toList with
  | some value =>
    (low < 0 || !text.toList.contains '-') && low ≤ value && value ≤ high
  | none => false

def isSigned (text : String) : Bool := isBetween (-9223372036854775808) 9223372036854775807 text

/-- The default stands in for an empty port. -/
def isPort (text : String) : Bool := text = "" || isBetween 0 65535 text

def everyPart (test : String → Bool) (text : String) : Bool :=
  (Address.pieces ',' text.toList).all fun part => test (String.ofList part)

/-- Settings that take any text. -/
def freeKeys : List String := ["user", "password", "dbname", "options", "application_name", "host"]

/-- Settings that take one of a few words. -/
def wordKeys : List (String × List String) := [
  ("sslmode", ["disable", "prefer", "require"]),
  ("sslnegotiation", ["postgres", "direct"]),
  ("target_session_attrs", ["any", "read-write", "read-only"]),
  ("channel_binding", ["disable", "prefer", "require"]),
  ("load_balance_hosts", ["disable", "random"])]

/-- Settings that take a signed 64-bit number. -/
def numberKeys : List String :=
  ["connect_timeout", "tcp_user_timeout", "keepalives_idle", "keepalives_interval"]

def isValid (setting : Setting) : Bool :=
  let (key, text) := setting
  match wordKeys.lookup key with
  | some words => words.contains text
  | none =>
    if freeKeys.contains key then true
    else if numberKeys.contains key then isSigned text
    else if key = "hostaddr" then everyPart Address.isAddress text
    else if key = "port" then everyPart isPort text
    else if key = "keepalives" then isBetween 0 18446744073709551615 text
    else if key = "keepalives_retries" then isBetween 0 4294967295 text
    else false

end Setting

namespace ConnectionString
open Text (isBlank hexValue? trimStart)

/-- Bytes with every percent sign before two hexadecimal digits taken as one byte. -/
def percentBytes : List Char → Bytes
  | [] => []
  | '%' :: high :: low :: rest =>
    match hexValue? high, hexValue? low with
    | some first, some second => UInt8.ofNat (first * 16 + second) :: percentBytes rest
    | _, _ => 37 :: percentBytes (high :: low :: rest)
  | char :: rest => (String.ofList [char]).toUTF8.toList ++ percentBytes rest
termination_by text => text.length

def percentText? (text : List Char) : Option String := readText? (percentBytes text)

/-- What stands before the first of some characters, and the rest from it on, if there is one. -/
def cut? (ends : List Char) (text : List Char) : Option (List Char × List Char) :=
  let head := text.takeWhile fun char => !ends.contains char
  match text.dropWhile fun char => !ends.contains char with
  | [] => none
  | rest => some (head, rest)

def cut (ends : List Char) (text : List Char) : List Char × List Char :=
  (cut? ends text).getD (text, [])

/-- A path of a local socket may hold any bytes. -/
def isHost (text : List Char) : Bool :=
  (percentBytes text).head? = some 47 || (percentText? text).isSome

def isPortText (text : List Char) : Bool :=
  match percentText? text with
  | some port => Setting.isValid ("port", port)
  | none => false

/-- A host with perhaps a port; a host with colons stands in brackets. -/
def isHostAndPort (text : List Char) : Bool :=
  match text with
  | '[' :: rest =>
    match cut? [']'] rest with
    | none => false
    | some (host, after) =>
      isHost host && match after with
        | [_] => true
        | _ :: ':' :: port => isPortText port
        | _ => false
  | _ =>
    let (host, after) := cut [':'] text
    isHost host && (after.isEmpty || isPortText (after.drop 1))

/-- A user before the at sign, which may be missing, perhaps with a password. -/
def afterCredentials? (text : List Char) : Option (List Char) :=
  match cut? ['@'] text with
  | none => some text
  | some (credentials, rest) =>
    if (percentText? (cut [':'] credentials).1).isSome then some (rest.drop 1) else none

def isParameter (text : List Char) : Bool :=
  match cut? ['='] text with
  | none => false
  | some (key, rest) =>
    match percentText? key with
    | none => false
    | some key =>
      if key = "host" then isHost (rest.drop 1)
      else match percentText? (rest.drop 1) with
        | some value => Setting.isValid (key, value)
        | none => false

/-- Keys and values with ampersands between them; nothing has to follow the last one. -/
def areParameters (text : List Char) : Bool :=
  let items := Address.pieces '&' text
  (if items.getLast? = some [] then items.dropLast else items).all isParameter

/-- User, hosts, database and parameters, each of which may be missing. -/
def isLocator (text : List Char) : Bool :=
  match afterCredentials? text with
  | none => false
  | some text =>
    let (hosts, rest) := cut ['/', '?'] text
    let (database, rest) := match rest with
      | '/' :: path => cut ['?'] path
      | _ => ([], rest)
    (hosts.isEmpty || (Address.pieces ',' hosts).all isHostAndPort) &&
      (percentText? database).isSome && areParameters (rest.drop 1)

/-- The value of a setting up to a blank; a backslash takes the next character as it is. -/
def plainValue : List Char → List Char × List Char
  | [] => ([], [])
  | ['\\'] => ([], [])
  | '\\' :: char :: rest => let (value, after) := plainValue rest; (char :: value, after)
  | char :: rest =>
    if isBlank char then ([], char :: rest)
    else let (value, after) := plainValue rest; (char :: value, after)

/-- The value of a setting up to the closing quote. -/
def quotedValue? : List Char → Option (List Char × List Char)
  | [] => none
  | '\'' :: rest => some ([], rest)
  | ['\\'] => none
  | '\\' :: char :: rest => (quotedValue? rest).map fun found => (char :: found.1, found.2)
  | char :: rest => (quotedValue? rest).map fun found => (char :: found.1, found.2)

def value? (text : List Char) : Option (List Char × List Char) :=
  match text with
  | '\'' :: rest => quotedValue? rest
  | _ =>
    let (value, rest) := plainValue text
    if value.isEmpty then none else some (value, rest)

/-- Settings one after another, up to where no key follows; `fuel` counts them. -/
def settings? : (fuel : Nat) → List Char → Option (List Setting)
  | 0, _ => some []
  | fuel + 1, text =>
    let inKey (char : Char) : Bool := !isBlank char && char ≠ '='
    let text := trimStart text
    let key := text.takeWhile inKey
    if key.isEmpty then some []
    else match trimStart (text.dropWhile inKey) with
      | '=' :: rest => do
        let (value, rest) ← value? (trimStart rest)
        let others ← settings? fuel rest
        pure ((String.ofList key, String.ofList value) :: others)
      | _ => none

def schemes : List (List Char) := ["postgres://".toList, "postgresql://".toList]

/-- Whether a pool can be made from the text. -/
def isValid (text : String) : Bool :=
  let chars := text.toList
  match schemes.find? fun scheme => scheme.isPrefixOf chars with
  | some scheme => isLocator (chars.drop scheme.length)
  | none => match settings? (chars.length + 1) chars with
    | some settings => settings.all Setting.isValid
    | none => false

end ConnectionString
end FluentSql.Postgres
