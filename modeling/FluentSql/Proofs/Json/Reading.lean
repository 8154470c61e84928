import FluentSql.Json.Printer
import FluentSql.Proofs.Json.Numbers

/-! What is printed as JSON is read back. -/
namespace FluentSql.Json
open Text (Stops)

namespace Source

variable (rest : List Char)

theorem quotedBody_plain {char : Char} (quote : char ≠ '"') (slash : char ≠ '\\')
    (seen : ¬ char.toNat < 32) :
    quotedBody none (char :: rest) = prepend [some char] (quotedBody none rest) := by
  rw [quotedBody.eq_def]
  simp [quote, slash, seen, lone]

theorem quotedBody_short {mark char : Char} (escape : shortEscape? mark = some char) :
    quotedBody none ('\\' :: mark :: rest) = prepend [some char] (quotedBody none rest) := by
  have unit : mark ≠ 'u' := by
    rintro rfl
    cases escape
  rw [quotedBody.eq_def]
  simp [unit, escape, lone]

theorem quotedBody_unit {char : Char} (control : char.toNat < 32) :
    quotedBody none ('\\' :: 'u' :: Text.hexDigits 4 char.toNat ++ rest) =
      prepend [some char] (quotedBody none rest) := by
  have read : ∀ code < 32, ∃ a b c d, Text.hexDigits 4 code = [a, b, c, d] ∧
      Text.readHex [a, b, c, d] = some code ∧
      takeUnit none code = ([some (Char.ofNat code)], none) := by
    intro code small
    refine ⟨_, _, _, _, rfl, ?_⟩
    revert code
    decide
  obtain ⟨a, b, c, d, digits, code, taken⟩ := read char.toNat control
  rw [digits, quotedBody.eq_def]
  simp [code, taken]

/-- Every character is read back from its escaped form. -/
theorem quotedBody_escapeChar (char : Char) :
    quotedBody none (escapeChar char ++ rest) = prepend [some char] (quotedBody none rest) := by
  unfold escapeChar
  split
  · rename_i quote
    rw [quote]
    exact quotedBody_short rest rfl
  split
  · rename_i slash
    rw [slash]
    exact quotedBody_short rest rfl
  split
  · rename_i line
    rw [line]
    exact quotedBody_short rest rfl
  split
  · rename_i back
    rw [back]
    exact quotedBody_short rest rfl
  split
  · rename_i tab
    rw [tab]
    exact quotedBody_short rest rfl
  have named {code : Nat} (same : char.toNat = code) : char = Char.ofNat code := by
    rw [← same, Char.ofNat_toNat]
  split
  · rename_i backspace
    rw [named backspace]
    exact quotedBody_short rest rfl
  split
  · rename_i feed
    rw [named feed]
    exact quotedBody_short rest rfl
  split
  · rename_i control
    exact quotedBody_unit rest control
  · rename_i quote slash _ _ _ _ _ seen
    exact quotedBody_plain rest quote slash seen

theorem quotedBody_escaped (text : List Char) :
    quotedBody none (text.flatMap escapeChar ++ '"' :: rest) = some (text.map some, rest) := by
  induction text with
  | nil =>
    rw [List.flatMap_nil, List.nil_append, quotedBody.eq_def]
    rfl
  | cons char text ih =>
    rw [List.flatMap_cons, List.append_assoc, quotedBody_escapeChar, ih]
    rfl

/-- The reader takes a quoted text up to its closing quote. -/
theorem quoted_quote (text : String) :
    quoted ((text.toList.flatMap escapeChar) ++ '"' :: rest) = some (some text, rest) := by
  have all (chars : List Char) : (chars.map Option.some).mapM id = some chars := by
    induction chars with
    | nil => rfl
    | cons char chars ih => simp [List.mapM_cons, ih]
  rw [quoted, quotedBody_escaped, Option.map_some, all]
  simp

/-- A character that a value can start with: no space, and no bracket that closes. -/
structure Opens (char : Char) : Prop where
  solid : isSpace char = false
  item : (char == ']') = false
  member : (char == '\x7d') = false

theorem skipSpace_of_solid {char : Char} (solid : isSpace char = false) :
    skipSpace (char :: rest) = char :: rest := by
  rw [skipSpace, List.dropWhile_cons, solid]
  rfl

theorem opens_of_isDigit {char : Char} (digit : Text.isDigit char = true) : Opens char := by
  refine ⟨?_, beq_eq_false_iff_ne.mpr (Text.ne_of_isDigit digit _ rfl),
    beq_eq_false_iff_ne.mpr (Text.ne_of_isDigit digit _ rfl)⟩
  have other (mark : Char) (plain : Text.isDigit mark = false) :=
    Text.ne_of_isDigit digit mark plain
  simp only [isSpace, Bool.or_eq_false_iff, decide_eq_false_iff_not]
  exact ⟨⟨⟨other _ rfl, other _ rfl⟩, other _ rfl⟩, other _ rfl⟩

theorem value_of_isDigit {char : Char} (fuel : Nat) (digit : Text.isDigit char = true) :
    value (fuel + 1) (char :: rest) =
      (numeral false (char :: rest)).map fun result => (.number result.1, result.2) := by
  rw [value, skipSpace_of_solid rest (opens_of_isDigit digit).solid]
  split
  · rename_i empty
    cases empty
  case h_9 => rfl
  all_goals
    rename_i shape
    cases shape
    cases digit

/-- The reader takes a number as it was written. -/
theorem value_text {number : Numeral} (fuel : Nat) (written : number.Written)
    (stop : Stops inNumber rest) :
    value (fuel + 1) (number.text ++ rest) = some (.number number, rest) := by
  have read := numeral_append written stop
  unfold Numeral.text
  cases sign : number.negative with
  | true =>
    rw [sign] at read
    rw [if_pos rfl, List.cons_append, value, skipSpace_of_solid _ rfl]
    simp only [read, Option.map_some]
  | false =>
    obtain ⟨first, others, digits⟩ := List.exists_cons_of_ne_nil written.whole.some
    have digit : Text.isDigit first = true :=
      written.whole.all first (digits ▸ List.mem_cons_self)
    rw [sign] at read
    rw [if_neg Bool.false_ne_true]
    rw [Numeral.unsigned, digits, List.cons_append, List.cons_append] at read ⊢
    rw [value_of_isDigit _ fuel digit, read]
    rfl

theorem opens_text {number : Numeral} (written : number.Written) :
    ∃ char rest, number.text = char :: rest ∧ Opens char := by
  obtain ⟨first, others, digits⟩ := List.exists_cons_of_ne_nil written.whole.some
  have digit : Text.isDigit first = true := written.whole.all first (digits ▸ List.mem_cons_self)
  unfold Numeral.text
  cases number.negative with
  | true => exact ⟨'-', _, rfl, ⟨rfl, rfl, rfl⟩⟩
  | false =>
    rw [if_neg Bool.false_ne_true, Numeral.unsigned, digits]
    exact ⟨first, _, rfl, opens_of_isDigit digit⟩

theorem value_quote (fuel : Nat) (text : String) :
    value (fuel + 1) ((quote text).toList ++ rest) = some (.string (some text), rest) := by
  have shape : (quote text).toList ++ rest =
      '"' :: (text.toList.flatMap escapeChar ++ '"' :: rest) := by
    simp [quote]
  rw [shape, value, skipSpace_of_solid _ rfl]
  simp only [quoted_quote, Option.map_some]

end Source

open Source

mutual

/-- The source text's tree that a value is printed as. -/
def source : Json → Source
  | .null => .null
  | .bool value => .bool value
  | .int value => .number (.ofInt value)
  | .float value => match value.numeral? with
    | some numeral => .number numeral
    | none => .null
  | .string text => .string (some text)
  | .array items => .array (sourceItems items)
  | .object members => .object (sourceMembers members)

def sourceItems : List Json → List Source
  | [] => []
  | item :: rest => source item :: sourceItems rest

def sourceMembers : List (String × Json) → List (Option String × Source)
  | [] => []
  | (key, value) :: rest => (some key, source value) :: sourceMembers rest

end

theorem toList_printFloat (value : Double) : (print (.float value)).toList =
    match value.numeral? with
    | some numeral => numeral.text
    | none => "null".toList := by
  rw [print]
  exact Double.toList_text value

/-- What a value is printed as starts with a character that starts a value. -/
theorem opens_print (json : Json) :
    ∃ char rest, (print json).toList = char :: rest ∧ Opens char := by
  cases json with
  | null => exact ⟨'n', _, rfl, ⟨rfl, rfl, rfl⟩⟩
  | bool value =>
    cases value
    · exact ⟨'f', _, rfl, ⟨rfl, rfl, rfl⟩⟩
    · exact ⟨'t', _, rfl, ⟨rfl, rfl, rfl⟩⟩
  | int value =>
    rw [print, ← Numeral.text_ofInt]
    exact opens_text (Numeral.written_ofInt value)
  | float value =>
    rw [toList_printFloat]
    cases written : value.numeral? with
    | none => exact ⟨'n', _, rfl, ⟨rfl, rfl, rfl⟩⟩
    | some numeral => exact opens_text (Double.written_numeral? written)
  | string text =>
    refine ⟨'"', text.toList.flatMap escapeChar ++ ['"'], ?_, ⟨rfl, rfl, rfl⟩⟩
    simp [print, quote]
  | array items =>
    refine ⟨'[', (printItems items).toList ++ [']'], ?_, ⟨rfl, rfl, rfl⟩⟩
    simp [print]
  | object members =>
    refine ⟨'\x7b', (printMembers members).toList ++ ['\x7d'], ?_, ⟨rfl, rfl, rfl⟩⟩
    simp [print]

theorem length_print_pos (json : Json) : 0 < (print json).toList.length := by
  obtain ⟨char, rest, text, _⟩ := opens_print json
  rw [text]
  exact Nat.succ_pos _

/-- The texts of items, each behind the one before it. -/
theorem toList_printItems (first : Json) (rest : List Json) :
    (printItems (first :: rest)).toList = (print first).toList ++
      match rest with
      | [] => []
      | next :: more => ',' :: (printItems (next :: more)).toList := by
  cases rest with
  | nil => simp [printItems]
  | cons next more => simp [printItems]

theorem toList_printMembers (key : String) (value : Json) (rest : List (String × Json)) :
    (printMembers ((key, value) :: rest)).toList =
      (quote key).toList ++ ':' :: ((print value).toList ++
        match rest with
        | [] => []
        | next :: more => ',' :: (printMembers (next :: more)).toList) := by
  cases rest with
  | nil => simp [printMembers]
  | cons next more => simp [printMembers]

theorem word_append (expected : String) (value : Source) (rest : List Char) :
    word expected value (expected.toList ++ rest) = some (value, rest) := by
  simp [word, ← String.length_toList]

theorem value_null (fuel : Nat) (rest : List Char) :
    Source.value (fuel + 1) ("null".toList ++ rest) = some (.null, rest) := by
  rw [Source.value]
  exact word_append "null" .null rest

theorem value_bool (fuel : Nat) (flag : Bool) (rest : List Char) :
    Source.value (fuel + 1) ((print (.bool flag)).toList ++ rest) = some (.bool flag, rest) := by
  cases flag with
  | true =>
    rw [Source.value]
    exact word_append "true" (.bool true) rest
  | false =>
    rw [Source.value]
    exact word_append "false" (.bool false) rest

theorem toList_quote (text : String) (rest : List Char) :
    (quote text).toList ++ rest = '"' :: (text.toList.flatMap escapeChar ++ '"' :: rest) := by
  simp [quote]

/-- An array's items are read behind its bracket. -/
theorem value_array {fuel : Nat} {char : Char} {rest after : List Char} {items : List Source}
    (opens : Opens char) (read : Source.items fuel (char :: rest) = some (items, after)) :
    Source.value (fuel + 1) ('[' :: char :: rest) = some (.array items, after) := by
  rw [Source.value, skipSpace_of_solid _ rfl]
  simp only
  rw [skipSpace_of_solid _ opens.solid]
  split
  · rename_i shape
    exact absurd (List.cons.inj shape).1 (beq_eq_false_iff_ne.mp opens.item)
  · rw [read, Option.map_some]

theorem value_object {fuel : Nat} {char : Char} {rest after : List Char}
    {members : List (Option String × Source)} (opens : Opens char)
    (read : Source.members fuel (char :: rest) = some (members, after)) :
    Source.value (fuel + 1) ('\x7b' :: char :: rest) = some (.object members, after) := by
  rw [Source.value, skipSpace_of_solid _ rfl]
  simp only
  rw [skipSpace_of_solid _ opens.solid]
  split
  · rename_i shape
    exact absurd (List.cons.inj shape).1 (beq_eq_false_iff_ne.mp opens.member)
  · rw [read, Option.map_some]

/-- With so much fuel the reader takes what was printed, up to what stands behind it. -/
structure Reads (fuel : Nat) : Prop where
  value : ∀ (json : Json) (rest : List Char), 2 * (print json).toList.length ≤ fuel →
    Stops inNumber rest →
      Source.value fuel ((print json).toList ++ rest) = some (source json, rest)
  items : ∀ (first : Json) (others : List Json) (rest : List Char),
    2 * (printItems (first :: others)).toList.length < fuel →
      Source.items fuel ((printItems (first :: others)).toList ++ ']' :: rest) =
        some (sourceItems (first :: others), rest)
  members : ∀ (key : String) (first : Json) (others : List (String × Json)) (rest : List Char),
    2 * (printMembers ((key, first) :: others)).toList.length < fuel →
      Source.members fuel ((printMembers ((key, first) :: others)).toList ++ '\x7d' :: rest) =
        some (sourceMembers ((key, first) :: others), rest)

section Steps

variable {fuel : Nat} (reads : Reads fuel)
include reads

theorem value_step (json : Json) (rest : List Char)
    (enough : 2 * (print json).toList.length ≤ fuel + 1) (stop : Stops inNumber rest) :
    Source.value (fuel + 1) ((print json).toList ++ rest) = some (source json, rest) := by
  cases json with
  | null => exact value_null fuel rest
  | bool flag => exact value_bool fuel flag rest
  | int value =>
    rw [print, ← Numeral.text_ofInt]
    exact value_text rest fuel (Numeral.written_ofInt value) stop
  | float value =>
    rw [toList_printFloat, source]
    cases written : value.numeral? with
    | none => exact value_null fuel rest
    | some numeral => exact value_text rest fuel (Double.written_numeral? written) stop
  | string text => exact value_quote rest fuel text
  | array items =>
    cases items with
    | nil =>
      rw [Source.value]
      rfl
    | cons first others =>
      have text : (print (.array (first :: others))).toList ++ rest =
          '[' :: ((printItems (first :: others)).toList ++ ']' :: rest) := by simp [print]
      have length := congrArg List.length text
      simp only [List.length_append, List.length_cons] at length
      have read := reads.items first others rest (by omega)
      obtain ⟨char, more, head, opens⟩ := opens_print first
      rw [text, source]
      rw [toList_printItems, head, List.cons_append, List.cons_append] at read ⊢
      exact value_array opens read
  | object members =>
    cases members with
    | nil =>
      rw [Source.value]
      rfl
    | cons member others =>
      obtain ⟨key, first⟩ := member
      have text : (print (.object ((key, first) :: others))).toList ++ rest =
          '\x7b' :: ((printMembers ((key, first) :: others)).toList ++ '\x7d' :: rest) := by
        simp [print]
      have length := congrArg List.length text
      simp only [List.length_append, List.length_cons] at length
      have read := reads.members key first others rest (by omega)
      rw [text, source]
      rw [toList_printMembers, toList_quote, List.cons_append] at read ⊢
      exact value_object ⟨rfl, rfl, rfl⟩ read

theorem items_step (first : Json) (others : List Json) (rest : List Char)
    (enough : 2 * (printItems (first :: others)).toList.length < fuel + 1) :
    Source.items (fuel + 1) ((printItems (first :: others)).toList ++ ']' :: rest) =
      some (sourceItems (first :: others), rest) := by
  rw [toList_printItems] at enough ⊢
  rw [Source.items, List.append_assoc, sourceItems]
  rw [List.length_append] at enough
  cases others with
  | nil =>
    have read := reads.value first (']' :: rest) (by omega) (Text.stops_cons rfl rest)
    rw [List.nil_append, read]
    rfl
  | cons next more =>
    have comma (rest : List Char) : skipSpace (',' :: rest) = ',' :: rest :=
      skipSpace_of_solid rest rfl
    rw [List.length_cons] at enough
    have positive := length_print_pos first
    have read := reads.value first (',' :: ((printItems (next :: more)).toList ++ ']' :: rest))
      (by omega) (Text.stops_cons rfl _)
    have tail := reads.items next more rest (by omega)
    rw [List.cons_append, read]
    simp only [comma, tail, Option.map_some]

theorem members_step (key : String) (first : Json) (others : List (String × Json))
    (rest : List Char)
    (enough : 2 * (printMembers ((key, first) :: others)).toList.length < fuel + 1) :
    Source.members (fuel + 1) ((printMembers ((key, first) :: others)).toList ++ '\x7d' :: rest) =
      some (sourceMembers ((key, first) :: others), rest) := by
  have solid (char : Char) (solid : isSpace char = false) (rest : List Char) :=
    skipSpace_of_solid rest solid
  rw [toList_printMembers] at enough ⊢
  rw [Source.members, List.append_assoc, toList_quote, solid '"' rfl, sourceMembers]
  rw [List.length_append, List.length_cons, List.length_append] at enough
  simp only [quoted_quote, List.cons_append, solid ':' rfl]
  cases others with
  | nil =>
    have read := reads.value first ('\x7d' :: rest) (by omega) (Text.stops_cons rfl rest)
    rw [List.append_nil, read]
    rfl
  | cons next more =>
    obtain ⟨name, value⟩ := next
    rw [List.length_cons] at enough
    have read := reads.value first
      (',' :: ((printMembers ((name, value) :: more)).toList ++ '\x7d' :: rest)) (by omega)
      (Text.stops_cons rfl _)
    have tail := reads.members name value more rest (by omega)
    rw [List.append_assoc, List.cons_append, read]
    simp only [solid ',' rfl, tail, Option.map_some]

end Steps

/-- The reader takes everything that was printed, given the fuel for its characters. -/
theorem reads (fuel : Nat) : Reads fuel := by
  induction fuel with
  | zero =>
    refine ⟨?_, nofun, nofun⟩
    intro json rest enough
    have positive := length_print_pos json
    omega
  | succ fuel ih => exact ⟨value_step ih, items_step ih, members_step ih⟩

mutual

/-- What printing keeps of a value: a number that is not finite becomes null. -/
def kept : Json → Json
  | .float value => if value.numeral? = none then .null else .float value
  | .array items => .array (keptItems items)
  | .object members => .object (keptMembers members)
  | other => other

def keptItems : List Json → List Json
  | [] => []
  | item :: rest => kept item :: keptItems rest

def keptMembers : List (String × Json) → List (String × Json)
  | [] => []
  | (key, value) :: rest => (key, kept value) :: keptMembers rest

end

theorem numeral?_of_kept {first second : Double}
    (same : kept (.float first) = kept (.float second)) : first.numeral? = second.numeral? := by
  rw [kept, kept] at same
  split at same
  · rename_i none
    split at same
    · rename_i also
      rw [none, also]
    · cases same
  · split at same
    · cases same
    · rw [Json.float.inj same]

mutual

theorem print_kept : ∀ json : Json, print (kept json) = print json
  | .null | .bool _ | .int _ | .string _ => rfl
  | .float value => by
    rw [kept]
    cases written : value.numeral? with
    | none =>
      rw [if_pos rfl, ← String.toList_inj, toList_printFloat, written, print]
    | some numeral => rw [if_neg nofun]
  | .array items => by rw [kept, print, print, printItems_kept items]
  | .object members => by rw [kept, print, print, printMembers_kept members]

theorem printItems_kept : ∀ items : List Json, printItems (keptItems items) = printItems items
  | [] => rfl
  | [item] => print_kept item
  | item :: next :: rest => by
    have tail := printItems_kept (next :: rest)
    rw [keptItems] at tail
    rw [keptItems, keptItems, printItems, printItems, print_kept item, tail]

theorem printMembers_kept : ∀ members : List (String × Json),
    printMembers (keptMembers members) = printMembers members
  | [] => rfl
  | [(key, value)] => by
    rw [keptMembers, keptMembers, printMembers, printMembers, print_kept value]
  | (key, value) :: (name, next) :: rest => by
    have tail := printMembers_kept ((name, next) :: rest)
    rw [keptMembers] at tail
    rw [keptMembers, keptMembers, printMembers, printMembers, print_kept value, tail]

end

/-- What a source was printed from. -/
theorem of_source (json : Json) :
    match source json with
    | .null => kept json = .null
    | .bool flag => json = .bool flag
    | .number numeral => (∃ value, json = .int value ∧ numeral = .ofInt value) ∨
        ∃ value, json = .float value ∧ value.numeral? = some numeral
    | .string text => ∃ content, json = .string content ∧ text = some content
    | .array sources => ∃ items, json = .array items ∧ sources = sourceItems items
    | .object sources => ∃ members, json = .object members ∧ sources = sourceMembers members := by
  cases json with
  | null => rfl
  | bool flag => rfl
  | int value => exact .inl ⟨value, rfl, rfl⟩
  | float value =>
    rw [source]
    cases written : value.numeral? with
    | none => exact if_pos written
    | some numeral => exact .inr ⟨value, rfl, written⟩
  | string text => exact ⟨text, rfl, rfl⟩
  | array items => exact ⟨items, rfl, rfl⟩
  | object members => exact ⟨members, rfl, rfl⟩

/-- No integer is written as a double precision number is. -/
theorem numeral?_ne_ofInt (value : Double) (number : Int) :
    value.numeral? ≠ some (.ofInt number) := by
  intro written
  have fractional := Double.fractional_numeral? written
  cases number with
  | ofNat number => exact fractional.elim (· rfl) (· rfl)
  | negSucc number => exact fractional.elim (· rfl) (· rfl)

mutual

/-- Values that are printed from one source have the same left of them. -/
theorem kept_of_source : ∀ (first : Json) {second : Json}, source first = source second →
    kept first = kept second
  | .null, second, same => by
    have shape := of_source second
    rw [← same] at shape
    exact shape.symm
  | .bool flag, second, same => by
    have shape := of_source second
    rw [← same] at shape
    rw [shape]
  | .int value, second, same => by
    have shape := of_source second
    rw [← same] at shape
    obtain ⟨other, rfl, equal⟩ | ⟨other, rfl, written⟩ := shape
    · rw [Numeral.ofInt_injective equal]
    · exact absurd written (numeral?_ne_ofInt other value)
  | .float value, second, same => by
    have shape := of_source second
    rw [← same, source] at shape
    rw [kept]
    cases written : value.numeral? with
    | none =>
      rw [written] at shape
      exact shape.symm
    | some numeral =>
      rw [written] at shape
      obtain ⟨other, rfl, rfl⟩ | ⟨other, rfl, also⟩ := shape
      · exact absurd written (numeral?_ne_ofInt value other)
      · rw [kept, also, Double.eq_of_numeral? written also]
  | .string text, second, same => by
    have shape := of_source second
    rw [← same] at shape
    obtain ⟨content, rfl, equal⟩ := shape
    rw [Option.some.inj equal]
  | .array items, second, same => by
    have shape := of_source second
    rw [← same] at shape
    obtain ⟨others, rfl, equal⟩ := shape
    rw [kept, kept, keptItems_of_source items equal]
  | .object members, second, same => by
    have shape := of_source second
    rw [← same] at shape
    obtain ⟨others, rfl, equal⟩ := shape
    rw [kept, kept, keptMembers_of_source members equal]

theorem keptItems_of_source : ∀ (first : List Json) {second : List Json},
    sourceItems first = sourceItems second → keptItems first = keptItems second
  | [], [], _ => rfl
  | item :: rest, other :: others, same => by
    obtain ⟨head, tail⟩ := List.cons.inj same
    rw [keptItems, keptItems, kept_of_source item head, keptItems_of_source rest tail]
  | [], _ :: _, same => nomatch same
  | _ :: _, [], same => nomatch same

theorem keptMembers_of_source : ∀ (first : List (String × Json)) {second : List (String × Json)},
    sourceMembers first = sourceMembers second → keptMembers first = keptMembers second
  | [], [], _ => rfl
  | (key, value) :: rest, (name, other) :: others, same => by
    obtain ⟨head, tail⟩ := List.cons.inj same
    obtain ⟨keys, values⟩ := Prod.mk.inj head
    rw [keptMembers, keptMembers, Option.some.inj keys, kept_of_source value values,
      keptMembers_of_source rest tail]
  | [], _ :: _, same => nomatch same
  | _ :: _, [], same => nomatch same

end

/-- Two values are printed alike exactly when the same is left of both. -/
theorem print_eq_iff (first second : Json) :
    print first = print second ↔ kept first = kept second := by
  constructor
  · intro same
    have read := (reads _).value first [] le_rfl (Text.stops_nil _)
    have also := (reads _).value second [] le_rfl (Text.stops_nil _)
    rw [same, also] at read
    exact (kept_of_source second (Prod.mk.inj (Option.some.inj read)).1).symm
  · intro same
    rw [← print_kept first, same, print_kept]

end FluentSql.Json
