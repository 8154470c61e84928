import FluentSql.Decimal.Basic

/-! Decimals read from text. -/
namespace FluentSql.Decimal
open Text (isDigit digitValue readDigits)

/-- Whether text goes on with digits and separators only. -/
def isTail (text : List Char) : Bool := text.all fun char => isDigit char || char = '_'

/-- Decimals are counted in a circle: one more than `maxScale` is none. -/
def counted? (negative : Bool) (mantissa scale : Nat) : Option Decimal :=
  signed? negative mantissa (scale % (maxScale + 1))

/-- Take the first digit that no longer fits as the rounding digit; a separator there rounds like a
zero. What follows has no weight, but it has to be digits and separators. -/
def roundAt (negative : Bool) (mantissa scale : Nat) (mark : Char) (rest : List Char) :
    Option Decimal :=
  let digit? : Option Nat :=
    if isDigit mark then some (digitValue mark)
    else if mark = '_' then some 0
    else none
  if !isTail rest then none
  else
    match digit? with
    | none => none
    | some digit =>
      if digit < 5 then counted? negative mantissa scale
      else if mantissa + 1 < 79228162514264337593543950336 then
        counted? negative (mantissa + 1) scale
      else if scale = 0 then none
      else counted? negative ((mantissa + 5) / 10) (scale - 1)

/-- Whether a mantissa may need more than 64 bits for its next digits. -/
def isLong (mantissa : Nat) : Bool := 1844674407370954906 ≤ mantissa

/-- Digits with at most one point; `seen` says that a digit has been read, after which an
underscore separates. Where no decimal is left, the next mark rounds, except that a long mantissa
skips separators there: the digit behind them rounds if the mantissa has no room for it, and
otherwise still belongs to the mantissa. -/
def readPlain (negative point seen : Bool) (mantissa scale : Nat) :
    List Char → Option Decimal
  | [] => if seen then counted? negative mantissa scale else none
  | char :: rest =>
    if isDigit char then
      let next := mantissa * 10 + digitValue char
      if 79228162514264337593543950336 ≤ next then
        if point then roundAt negative mantissa scale char rest else none
      else
        let places := if point then scale + 1 else 0
        match rest with
        | following :: beyond =>
          if point && maxScale ≤ places && !(following = '_' && isLong mantissa) then
            roundAt negative next places following beyond
          else readPlain negative point true next places rest
        | [] => counted? negative next places
    else if char = '.' && !point then readPlain negative true seen mantissa scale rest
    else if char = '_' && seen then readPlain negative point true mantissa scale rest
    else none

def readSigned : List Char → Option Decimal
  | '-' :: rest => readPlain true false false 0 0 rest
  | '+' :: rest => readPlain false false false 0 0 rest
  | rest => readPlain false false false 0 0 rest

/-- Digits after an optional plus sign, at most `maxScale`. -/
def readShift (text : List Char) : Option Nat :=
  let digits := match text with
    | '+' :: rest => rest
    | rest => rest
  if digits.isEmpty || !digits.all isDigit then none
  else
    let shift := readDigits digits
    if shift ≤ maxScale then some shift else none

/-- The point moved by a power of ten: to the left by counting more decimals, of which those past
the last are rounded off, to the right by counting fewer and then by multiplying. -/
def shifted (base : Decimal) : List Char → Option Decimal
  | '-' :: rest =>
    (readShift rest).bind fun shift =>
      if base.scale + shift ≤ maxScale then make? base.negative base.mantissa (base.scale + shift)
      else
        (rescaled base.negative base.mantissa base.scale (maxScale - shift)).bind fun cut =>
          make? cut.negative cut.mantissa maxScale
  | rest =>
    (readShift rest).bind fun shift =>
      if shift ≤ base.scale then make? base.negative base.mantissa (base.scale - shift)
      else make? base.negative (base.mantissa * tenTo (shift - base.scale)) 0

def isMark (char : Char) : Bool := char = 'e' || char = 'E'

def readScientific (text : List Char) : Option Decimal :=
  let base := text.takeWhile fun char => !isMark char
  match text.dropWhile fun char => !isMark char with
  | [] => none
  | _ :: power => (readSigned base).bind fun value => shifted value power

def parse? (text : List Char) : Option Decimal :=
  match readSigned text with
  | some value => some value
  | none => readScientific text

end FluentSql.Decimal
