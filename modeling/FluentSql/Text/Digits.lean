/-! Decimal digits, for fixed-width writing and plain reading, and the blanks around them. -/
namespace FluentSql.Text

def isDigit (char : Char) : Bool := '0' ≤ char && char ≤ '9'

def digitValue (char : Char) : Nat := char.toNat - 48

/-- The number that decimal digits stand for. -/
def readDigits (digits : List Char) : Nat :=
  digits.foldl (fun value digit => value * 10 + digitValue digit) 0

def decimalDigits (value : Nat) : List Char := Nat.toDigits 10 value

theorem readDigits_decimalDigits (value : Nat) : readDigits (decimalDigits value) = value := by
  have digits := Nat.ofDigitChars_toDigits (b := 10) (n := value) (by decide) (by decide)
  simpa [readDigits, decimalDigits, digitValue, Nat.ofDigitChars, Nat.mul_comm] using digits

/-- At least `width` decimal digits, filled with zeros on the left. -/
def padded (width value : Nat) : String :=
  let digits := decimalDigits value
  String.ofList (List.replicate (width - digits.length) '0' ++ digits)

def natText (value : Nat) : String := String.ofList (decimalDigits value)

def intText : Int → String
  | .ofNat value => natText value
  | .negSucc value => "-" ++ natText (value + 1)

/-- An optional sign and at least one digit, nothing else. -/
def readInt (text : List Char) : Option Int :=
  let unsigned (digits : List Char) : Option Nat :=
    if digits.isEmpty || !digits.all isDigit then none else some (readDigits digits)
  match text with
  | '-' :: digits => (unsigned digits).map fun value => -(value : Int)
  | '+' :: digits => (unsigned digits).map Int.ofNat
  | digits => (unsigned digits).map Int.ofNat

/-- The characters that Unicode calls white space. -/
def isBlank (char : Char) : Bool :=
  let code := char.toNat
  (9 ≤ code && code ≤ 13) || code == 32 || code == 0x85 || code == 0xA0 || code == 0x1680 ||
    (0x2000 ≤ code && code ≤ 0x200A) || code == 0x2028 || code == 0x2029 || code == 0x202F ||
    code == 0x205F || code == 0x3000

def trimStart (text : List Char) : List Char := text.dropWhile isBlank

def trim (text : List Char) : List Char := (trimStart (trimStart text).reverse).reverse

end FluentSql.Text
