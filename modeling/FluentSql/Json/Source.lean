import FluentSql.Text.Digits
import FluentSql.Text.Hex

/-! JSON text as it is written: numbers by their digits, repeated keys kept. -/
namespace FluentSql.Json
open Text (isDigit)

/-- A number as written; without fraction and exponent it is an integer. -/
structure Numeral where
  negative : Bool
  whole : List Char
  fraction : Option (List Char)
  exponent : Option (Bool × List Char)

/-- A string is absent when half of a surrogate pair stands alone in it. -/
inductive Source where
  | null
  | bool (value : Bool)
  | number (numeral : Numeral)
  | string (content : Option String)
  | array (items : List Source)
  | object (members : List (Option String × Source))

namespace Source

def isSpace (char : Char) : Bool := char = ' ' || char = '\n' || char = '\t' || char = '\r'

def skipSpace (text : List Char) : List Char := text.dropWhile isSpace

def lone : Option Nat → List (Option Char)
  | none => []
  | some _ => [none]

/-- Take in one code unit: the characters it completes, and the high surrogate left waiting. -/
def takeUnit (high : Option Nat) (unit : Nat) : List (Option Char) × Option Nat :=
  let fresh (before : List (Option Char)) : List (Option Char) × Option Nat :=
    if 0xD800 ≤ unit ∧ unit < 0xDC00 then (before, some unit)
    else if 0xDC00 ≤ unit ∧ unit < 0xE000 then (before ++ [none], none)
    else (before ++ [some (Char.ofNat unit)], none)
  match high with
  | none => fresh []
  | some lead =>
    if 0xDC00 ≤ unit ∧ unit < 0xE000 then
      ([some (Char.ofNat (0x10000 + (lead - 0xD800) * 0x400 + (unit - 0xDC00)))], none)
    else fresh [none]

def shortEscape? : Char → Option Char
  | '"' => some '"'
  | '\\' => some '\\'
  | '/' => some '/'
  | 'b' => some (Char.ofNat 8)
  | 'f' => some (Char.ofNat 12)
  | 'n' => some '\n'
  | 'r' => some '\r'
  | 't' => some '\t'
  | _ => none

def prepend (before : List (Option Char)) :
    Option (List (Option Char) × List Char) → Option (List (Option Char) × List Char) :=
  Option.map fun result => (before ++ result.1, result.2)

/-- The characters up to the closing quote, and what follows it. -/
def quotedBody (high : Option Nat) : List Char → Option (List (Option Char) × List Char)
  | [] => none
  | char :: rest =>
    if char = '"' then some (lone high, rest)
    else if char = '\\' then
      match rest with
      | 'u' :: a :: b :: c :: d :: after =>
        match Text.readHex [a, b, c, d] with
        | none => none
        | some unit =>
          let (done, waiting) := takeUnit high unit
          prepend done (quotedBody waiting after)
      | mark :: after =>
        match shortEscape? mark with
        | none => none
        | some escaped => prepend (lone high ++ [some escaped]) (quotedBody none after)
      | [] => none
    else if char.toNat < 32 then none
    else prepend (lone high ++ [some char]) (quotedBody none rest)

def quoted (text : List Char) : Option (Option String × List Char) :=
  (quotedBody none text).map fun result => ((result.1.mapM id).map String.ofList, result.2)

def digits (text : List Char) : Option (List Char × List Char) :=
  let found := text.takeWhile isDigit
  if found.isEmpty then none else some (found, text.dropWhile isDigit)

def fractionPart : List Char → Option (Option (List Char) × List Char)
  | '.' :: rest => (digits rest).map fun result => (some result.1, result.2)
  | rest => some (none, rest)

def exponentPart : List Char → Option (Option (Bool × List Char) × List Char)
  | [] => some (none, [])
  | mark :: rest =>
    if mark = 'e' ∨ mark = 'E' then
      let (negative, unsigned) := match rest with
        | '-' :: after => (true, after)
        | '+' :: after => (false, after)
        | after => (false, after)
      (digits unsigned).map fun result => (some (negative, result.1), result.2)
    else some (none, mark :: rest)

/-- A number has no superfluous leading zero, and a digit on each side of its point. -/
def numeral (negative : Bool) (text : List Char) : Option (Numeral × List Char) := do
  let (whole, rest) ← match text with
    | '0' :: rest =>
      if rest.head?.any isDigit then none else some (['0'], rest)
    | text => digits text
  let (fraction, rest) ← fractionPart rest
  let (exponent, rest) ← exponentPart rest
  pure (⟨negative, whole, fraction, exponent⟩, rest)

def word (expected : String) (value : Source) (text : List Char) :
    Option (Source × List Char) :=
  let length := expected.length
  if text.take length = expected.toList then some (value, text.drop length) else none

mutual

/-- One value and what follows it. Every level of nesting takes one unit of fuel per item. -/
def value : Nat → List Char → Option (Source × List Char)
  | 0, _ => none
  | fuel + 1, text =>
    match skipSpace text with
    | [] => none
    | '"' :: rest => (quoted rest).map fun result => (.string result.1, result.2)
    | '[' :: rest =>
      match skipSpace rest with
      | ']' :: after => some (.array [], after)
      | inside => (items fuel inside).map fun result => (.array result.1, result.2)
    | '\x7b' :: rest =>
      match skipSpace rest with
      | '\x7d' :: after => some (.object [], after)
      | inside => (members fuel inside).map fun result => (.object result.1, result.2)
    | '-' :: rest => (numeral true rest).map fun result => (.number result.1, result.2)
    | 'n' :: rest => word "null" .null ('n' :: rest)
    | 't' :: rest => word "true" (.bool true) ('t' :: rest)
    | 'f' :: rest => word "false" (.bool false) ('f' :: rest)
    | text => (numeral false text).map fun result => (.number result.1, result.2)

def items : Nat → List Char → Option (List Source × List Char)
  | 0, _ => none
  | fuel + 1, text =>
    match value fuel text with
    | none => none
    | some (item, rest) =>
      match skipSpace rest with
      | ',' :: after => (items fuel after).map fun result => (item :: result.1, result.2)
      | ']' :: after => some ([item], after)
      | _ => none

def members : Nat → List Char → Option (List (Option String × Source) × List Char)
  | 0, _ => none
  | fuel + 1, text =>
    match skipSpace text with
    | '"' :: rest =>
      match quoted rest with
      | none => none
      | some (key, afterKey) =>
        match skipSpace afterKey with
        | ':' :: afterColon =>
          match value fuel afterColon with
          | none => none
          | some (item, afterValue) =>
            match skipSpace afterValue with
            | ',' :: after =>
              (members fuel after).map fun result => ((key, item) :: result.1, result.2)
            | '\x7d' :: after => some ([(key, item)], after)
            | _ => none
        | _ => none
    | _ => none

end

/-- A whole text: one value with only white space around it. -/
def parse? (text : List Char) : Option Source :=
  match value (2 * text.length + 2) text with
  | some (source, rest) => if (skipSpace rest).isEmpty then some source else none
  | none => none

end Source
end FluentSql.Json
