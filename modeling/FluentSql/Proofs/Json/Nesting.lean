import FluentSql.Json.Printer
import FluentSql.Proofs.Json.Numbers

/-! Where a character of JSON text stands: inside a string or outside, and within how many brackets.
A printed array has its brackets closed at its end and not before. -/
namespace FluentSql.Json
open Text (isDigit)

/-- A place in the text of an array, behind its first bracket. `depth` counts the brackets that are
open besides that one. -/
inductive Place where
  | outside (depth : Nat)
  | inside (depth : Nat)
  | escaped (depth : Nat)
  /-- Behind a closing quote. -/
  | closed (depth : Nat)
  | finished
  | failed
  deriving DecidableEq

namespace Place

/-- Behind a closing bracket. -/
def close : Nat → Place
  | 0 => .finished
  | depth + 1 => .outside depth

def closes (char : Char) : Bool := char == ']' || char == '\x7d'

/-- What may stand behind a string. -/
def separates (char : Char) : Bool := char == ':' || char == ',' || closes char

/-- A character that leaves the text outside of strings where it is. -/
def plain (char : Char) : Bool :=
  char != '"' && char != '[' && char != '\x7b' && !closes char

def next : Place → Char → Place
  | .outside depth, char =>
    if char = '"' then .inside depth
    else if char = '[' ∨ char = '\x7b' then .outside (depth + 1)
    else if closes char then close depth
    else .outside depth
  | .inside depth, char =>
    if char = '"' then .closed depth
    else if char = '\\' then .escaped depth
    else .inside depth
  | .escaped depth, _ => .inside depth
  | .closed depth, char =>
    if closes char then close depth
    else if separates char then .outside depth
    else .failed
  | .finished, _ => .failed
  | .failed, _ => .failed

def scan (place : Place) (text : List Char) : Place := text.foldl next place

@[simp] theorem scan_nil (place : Place) : place.scan [] = place := rfl

@[simp] theorem scan_cons (place : Place) (char : Char) (text : List Char) :
    place.scan (char :: text) = (place.next char).scan text := rfl

theorem scan_append (place : Place) (first second : List Char) :
    place.scan (first ++ second) = (place.scan first).scan second := List.foldl_append

/-- Behind a value: outside of strings, or right behind one. -/
def Settles (depth : Nat) (place : Place) : Prop :=
  place = .outside depth ∨ place = .closed depth

theorem next_of_settles {depth : Nat} {place : Place} (settles : Settles depth place) {char : Char}
    (separator : separates char = true) : place.next char = (outside depth).next char := by
  rcases settles with rfl | rfl
  · rfl
  · have string : char ≠ '"' := by
      rintro rfl
      cases separator
    have bracket : ¬ (char = '[' ∨ char = '\x7b') := by
      rintro (rfl | rfl)
      · cases separator
      · cases separator
    simp [next, string, bracket, separator]

theorem scan_failed (text : List Char) : scan .failed text = .failed := by
  induction text with
  | nil => rfl
  | cons char text ih => exact ih

theorem scan_plain {text : List Char} (depth : Nat) (all : ∀ char ∈ text, plain char = true) :
    (outside depth).scan text = .outside depth := by
  induction text with
  | nil => rfl
  | cons char text ih =>
    have first := all char List.mem_cons_self
    simp only [plain, Bool.and_eq_true, bne_iff_ne, Bool.not_eq_true'] at first
    obtain ⟨⟨⟨string, list⟩, object⟩, open_⟩ := first
    rw [scan_cons, next, if_neg string, if_neg (by simp [list, object]), if_neg (by simp [open_])]
    exact ih fun other member => all other (List.mem_cons_of_mem char member)

theorem scan_inside {text : List Char} (depth : Nat)
    (all : ∀ char ∈ text, char ≠ '"' ∧ char ≠ '\\') :
    (inside depth).scan text = .inside depth := by
  induction text with
  | nil => rfl
  | cons char text ih =>
    obtain ⟨string, slash⟩ := all char List.mem_cons_self
    rw [scan_cons, next, if_neg string, if_neg slash]
    exact ih fun other member => all other (List.mem_cons_of_mem char member)

/-- An escaped character leaves the text inside its string. -/
theorem scan_escapeChar (depth : Nat) (char : Char) :
    (inside depth).scan (escapeChar char) = .inside depth := by
  unfold escapeChar
  split
  · rfl
  split
  · rfl
  split
  · rfl
  split
  · rfl
  split
  · rfl
  split
  · rfl
  split
  · rfl
  split
  · have marked : (inside depth).scan ['\\', 'u'] = .inside depth := rfl
    have digits : ∀ digit < 16, Text.hexDigit digit ≠ '"' ∧ Text.hexDigit digit ≠ '\\' := by
      decide
    have body : (inside depth).scan (Text.hexDigits 4 char.toNat) = .inside depth := by
      refine scan_inside depth fun other member => ?_
      obtain ⟨digit, small, rfl⟩ := Text.mem_hexDigits member
      exact digits digit small
    rw [show '\\' :: 'u' :: Text.hexDigits 4 char.toNat =
      ['\\', 'u'] ++ Text.hexDigits 4 char.toNat from rfl, scan_append, marked]
    exact body
  · rename_i string slash _ _ _ _ _ _
    refine scan_inside depth fun other member => ?_
    rw [List.mem_singleton.mp member]
    exact ⟨string, slash⟩

theorem scan_quote (depth : Nat) (text : String) :
    (outside depth).scan (quote text).toList = .closed depth := by
  have body (chars : List Char) :
      (inside depth).scan (chars.flatMap escapeChar) = .inside depth := by
    induction chars with
    | nil => rfl
    | cons char chars ih => rw [List.flatMap_cons, scan_append, scan_escapeChar, ih]
  have shape : (quote text).toList = '"' :: (text.toList.flatMap escapeChar ++ ['"']) := by
    simp [quote]
  rw [shape, scan_cons, scan_append]
  have opened : (outside depth).next '"' = .inside depth := rfl
  rw [opened, body]
  rfl

theorem plain_of_isDigit {char : Char} (digit : isDigit char = true) : plain char = true := by
  have other (mark : Char) (plain : isDigit mark = false) : (char != mark) = true :=
    bne_iff_ne.mpr (Text.ne_of_isDigit digit mark plain)
  have open_ : closes char = false := by
    simp [closes, Text.ne_of_isDigit digit ']' rfl, Text.ne_of_isDigit digit '\x7d' rfl]
  simp only [plain, open_, other '"' rfl, other '[' rfl, other '\x7b' rfl]
  rfl

theorem plain_of_mem_fractionText {fraction : Option (List Char)}
    (written : ∀ digits ∈ fraction, Digits digits) :
    ∀ char ∈ Numeral.fractionText fraction, plain char = true := by
  cases fraction with
  | none => exact nofun
  | some digits =>
    intro char member
    rcases List.mem_cons.mp member with rfl | digit
    · rfl
    · exact plain_of_isDigit ((written digits rfl).all char digit)

theorem plain_of_mem_exponentText {exponent : Option (Bool × List Char)}
    (written : ∀ part ∈ exponent, Digits part.2) :
    ∀ char ∈ Numeral.exponentText exponent, plain char = true := by
  cases exponent with
  | none => exact nofun
  | some part =>
    intro char member
    rcases List.mem_cons.mp member with rfl | member
    · rfl
    rcases List.mem_cons.mp member with rfl | digit
    · cases part.1
      · rfl
      · rfl
    · exact plain_of_isDigit ((written part rfl).all char digit)

theorem plain_of_mem_text {number : Numeral} (written : number.Written) :
    ∀ char ∈ number.text, plain char = true := by
  have unsigned : ∀ char ∈ number.unsigned, plain char = true := by
    intro char member
    rcases List.mem_append.mp member with whole | member
    · exact plain_of_isDigit (written.whole.all char whole)
    rcases List.mem_append.mp member with fraction | exponent
    · exact plain_of_mem_fractionText written.fraction char fraction
    · exact plain_of_mem_exponentText written.exponent char exponent
  unfold Numeral.text
  split
  · intro char member
    rcases List.mem_cons.mp member with rfl | member
    · rfl
    · exact unsigned char member
  · exact unsigned

theorem scan_text {number : Numeral} (depth : Nat) (written : number.Written) :
    (outside depth).scan number.text = .outside depth :=
  scan_plain depth (plain_of_mem_text written)

/-- Behind a value and a separator the text is where it would be behind the separator alone. -/
theorem scan_separated {depth : Nat} {text : List Char}
    (settles : Settles depth ((outside depth).scan text)) (char : Char)
    (separator : separates char = true) (rest : List Char) :
    (outside depth).scan (text ++ char :: rest) = (outside depth).scan (char :: rest) := by
  rw [scan_append, scan_cons, next_of_settles settles separator, scan_cons]

mutual

/-- Behind a printed value as many brackets are open as before it. -/
theorem scan_print : ∀ (json : Json) (depth : Nat),
    Settles depth ((outside depth).scan (print json).toList)
  | .null, depth => .inl (scan_plain depth (List.all_eq_true.mp rfl))
  | .bool true, depth => .inl (scan_plain depth (List.all_eq_true.mp rfl))
  | .bool false, depth => .inl (scan_plain depth (List.all_eq_true.mp rfl))
  | .int value, depth => by
    rw [print, ← Numeral.text_ofInt]
    exact .inl (scan_text depth (Numeral.written_ofInt value))
  | .float value, depth => by
    rw [print, Double.toList_text]
    cases written : value.numeral? with
    | none => exact .inl (scan_plain depth (List.all_eq_true.mp rfl))
    | some numeral => exact .inl (scan_text depth (Double.written_numeral? written))
  | .string text, depth => .inr (scan_quote depth text)
  | .array items, depth => by
    have body := scan_separated (scan_items items (depth + 1)) ']' rfl []
    have text : (print (.array items)).toList = '[' :: ((printItems items).toList ++ [']']) := by
      simp [print]
    rw [text]
    exact .inl body
  | .object members, depth => by
    have body := scan_separated (scan_members members (depth + 1)) '\x7d' rfl []
    have text : (print (.object members)).toList =
        '\x7b' :: ((printMembers members).toList ++ ['\x7d']) := by
      simp [print]
    rw [text]
    exact .inl body

theorem scan_items : ∀ (items : List Json) (depth : Nat),
    Settles depth ((outside depth).scan (printItems items).toList)
  | [], depth => .inl rfl
  | [item], depth => scan_print item depth
  | item :: next :: rest, depth => by
    have first := scan_separated (scan_print item depth) ',' rfl
    have text : (printItems (item :: next :: rest)).toList =
        (print item).toList ++ ',' :: (printItems (next :: rest)).toList := by
      simp [printItems]
    rw [text, first]
    exact scan_items (next :: rest) depth

theorem scan_members : ∀ (members : List (String × Json)) (depth : Nat),
    Settles depth ((outside depth).scan (printMembers members).toList)
  | [], depth => .inl rfl
  | [(key, value)], depth => by
    have name := scan_separated (.inr (scan_quote depth key)) ':' rfl
    have text : (printMembers [(key, value)]).toList =
        (quote key).toList ++ ':' :: (print value).toList := by
      simp [printMembers]
    rw [text, name]
    exact scan_print value depth
  | (key, value) :: next :: rest, depth => by
    have name := scan_separated (.inr (scan_quote depth key)) ':' rfl
    have first := scan_separated (scan_print value depth) ',' rfl
    have text : (printMembers ((key, value) :: next :: rest)).toList =
        (quote key).toList ++ ':' :: ((print value).toList ++
          ',' :: (printMembers (next :: rest)).toList) := by
      simp [printMembers]
    rw [text, name]
    exact (first _).symm ▸ scan_members (next :: rest) depth

end

/-- The bracket that opens an array is closed by the array's last character. -/
theorem scan_array (items : List Json) : ∃ body, (print (.array items)).toList = '[' :: body ∧
    (outside 0).scan body = .finished := by
  have body := scan_separated (scan_items items 0) ']' rfl []
  exact ⟨(printItems items).toList ++ [']'], by simp [print], body⟩

end Place
end FluentSql.Json
