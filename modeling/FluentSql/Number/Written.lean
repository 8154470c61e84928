import FluentSql.Number.Double
import FluentSql.Number.Shortest
import FluentSql.Text.Digits

/-! Texts of double precision numbers. -/
namespace FluentSql.Number

/-- How a format spells the numbers it is given. -/
structure Layout where
  tie : Tie
  /-- Magnitudes from `10 ^ first` up to, not including, `10 ^ (last + 1)` have no exponent. -/
  positional : Option (Int × Int)
  fraction : Bool
  nan : String
  infinity : String

/-- Numbers inside serialized text: always a fraction or an exponent, which carries its sign. -/
def Layout.serialized : Layout := ⟨.even, some (-5, 15), true, "null", "null"⟩

/-- Numbers inside statements: never an exponent, no fraction that is not needed. -/
def Layout.literal : Layout := ⟨.upward, none, false, "NaN", "inf"⟩

def zeros (count : Nat) : String := String.ofList (List.replicate count '0')

def positionalText (layout : Layout) (digits : List Char) (exponent : Int) : String :=
  let point : Int := digits.length + exponent
  if 0 ≤ exponent then
    String.ofList digits ++ zeros exponent.toNat ++ (if layout.fraction then ".0" else "")
  else if 0 < point then
    String.ofList (digits.take point.toNat) ++ "." ++ String.ofList (digits.drop point.toNat)
  else "0." ++ zeros (-point).toNat ++ String.ofList digits

def exponentText (digits : List Char) (leading : Int) : String :=
  let mantissa := match digits with
    | [] => ""
    | [digit] => String.ofList [digit]
    | digit :: rest => String.ofList (digit :: '.' :: rest)
  mantissa ++ (if leading < 0 then "e" else "e+") ++ Text.intText leading

def magnitudeText (layout : Layout) (value : Scientific) : String :=
  let digits := Text.decimalDigits value.digits
  let leading : Int := digits.length + value.exponent - 1
  match layout.positional with
  | none => positionalText layout digits value.exponent
  | some (first, last) =>
    if first ≤ leading ∧ leading ≤ last then positionalText layout digits value.exponent
    else exponentText digits leading

end FluentSql.Number

open FluentSql.Number in
def FluentSql.Double.text (layout : Layout) (value : FluentSql.Double) : String :=
  let signed (negative : Bool) (text : String) : String := if negative then "-" ++ text else text
  match value.reading with
  | .nan => layout.nan
  | .infinite negative =>
    if layout.infinity = "null" then layout.infinity else signed negative layout.infinity
  | .finite negative 0 _ => signed negative (if layout.fraction then "0.0" else "0")
  | .finite negative significand exponent =>
    signed negative
      (magnitudeText layout (Format.double.shortest layout.tie significand exponent))
