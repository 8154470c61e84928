import FluentSql.Dialect.Basic
import FluentSql.Text.Join

/-! Text between single quotes as the backends read it. Everywhere a quote inside is written twice;
to MySQL, in the mode that it starts in, a backslash changes what stands behind it as well. -/
namespace FluentSql

namespace Literal

/-- Where a reader stands: in the text, behind a quote that may close it, or behind a backslash. -/
inductive Place where
  | inside
  | quote
  | backslash

/-- What MySQL reads for a backslash and the character behind it. The backslash is kept only before
the wildcards of LIKE. -/
def escaped : Char → List Char
  | '0' => ['\x00']
  | 'b' => ['\x08']
  | 'n' => ['\n']
  | 'r' => ['\r']
  | 't' => ['\t']
  | 'Z' => ['\x1a']
  | '%' => ['\\', '%']
  | '_' => ['\\', '_']
  | char => [char]

/-- A reading with more text in front. -/
def prepend (chars : List Char) (reading : Option (List Char × List Char)) :
    Option (List Char × List Char) :=
  reading.map fun read => (chars ++ read.1, read.2)

/-- The text up to the quote that closes it, and what stands behind. -/
def read (escapes : Bool) : Place → List Char → Option (List Char × List Char)
  | .inside, [] => none
  | .quote, [] => some ([], [])
  | .backslash, [] => none
  | .inside, char :: rest =>
    if char = '\'' then read escapes .quote rest
    else if escapes ∧ char = '\\' then read escapes .backslash rest
    else prepend [char] (read escapes .inside rest)
  | .quote, char :: rest =>
    if char = '\'' then prepend ['\''] (read escapes .inside rest) else some ([], char :: rest)
  | .backslash, char :: rest => prepend (escaped char) (read escapes .inside rest)

/-- Every backslash stands before a per cent sign or an underscore. -/
def BackslashesKept : List Char → Prop
  | [] => True
  | char :: rest =>
    (char = '\\' → rest.head? = some '%' ∨ rest.head? = some '_') ∧ BackslashesKept rest

end Literal

/-- A literal from its opening quote on. -/
def Dialect.readLiteral (dialect : Dialect) : List Char → Option (List Char × List Char)
  | '\'' :: rest => Literal.read (dialect = .mySql) .inside rest
  | _ => none

namespace Literal

open Text

variable {escapes : Bool} {text behind : List Char}

theorem prepend_eq_some_iff {chars : List Char} {reading : Option (List Char × List Char)} :
    prepend chars reading = some (chars ++ text, behind) ↔ reading = some (text, behind) := by
  simp [prepend]

theorem prepend_append (front chars : List Char) (reading : Option (List Char × List Char)) :
    prepend (front ++ chars) reading = prepend front (prepend chars reading) := by
  simp [prepend, Function.comp_def]

/-- A reading begins with what was put in front of it. -/
theorem isPrefix_of_prepend {chars : List Char} {reading : Option (List Char × List Char)}
    (found : prepend chars reading = some (text, behind)) : chars <+: text := by
  obtain ⟨read, -, same⟩ := Option.map_eq_some_iff.mp found
  obtain ⟨rfl, rfl⟩ := Prod.mk.inj same
  exact List.prefix_append _ _

theorem doubleQuotes_cons_of_ne {char : Char} (plain : char ≠ '\'') (rest : List Char) :
    doubleQuotes (char :: rest) = char :: doubleQuotes rest := by
  rw [doubleQuotes]
  exact plain

/-- The closing quote closes where no other follows it. -/
theorem read_closed (ends : behind.head? ≠ some '\'') :
    read escapes .inside ('\'' :: behind) = some ([], behind) := by
  cases behind with
  | nil => rfl
  | cons char rest =>
    have other : char ≠ '\'' := fun same => ends (congrArg some same)
    simp [read, other]

/-- A quote of the text is read from the two that are written. -/
theorem read_quote (rest : List Char) :
    read escapes .inside ('\'' :: '\'' :: rest) = prepend ['\''] (read escapes .inside rest) := by
  simp [read]

theorem read_plain {char : Char} (quote : char ≠ '\'') (backslash : ¬ (escapes ∧ char = '\\'))
    (rest : List Char) :
    read escapes .inside (char :: rest) = prepend [char] (read escapes .inside rest) := by
  simp only [read, if_neg quote, if_neg backslash]

theorem read_backslash (rest : List Char) :
    read true .inside ('\\' :: rest) = read true .backslash rest := by
  simp [read]

/-- A backslash that was read, before the text is told what it stands for. -/
def Place.backslashes : Place → Nat
  | .backslash => 1
  | _ => 0

theorem count_escaped_le (char : Char) : (escaped char).count '\\' ≤ 1 := by
  unfold escaped
  split
  any_goals decide
  exact List.count_le_length

/-- Reading makes no backslashes. -/
theorem count_read_le (place : Place) {input : List Char}
    (found : read true place input = some (text, behind)) :
    text.count '\\' + behind.count '\\' ≤ input.count '\\' + place.backslashes := by
  induction input generalizing place text with
  | nil =>
    cases place with
    | quote =>
      obtain ⟨rfl, rfl⟩ := Prod.mk.inj (Option.some.inj found)
      simp
    | inside | backslash => cases found
  | cons char rest ih =>
    -- What is put in front of the text behind it has at most the backslashes that were read.
    have step {chars : List Char} (few : chars.count '\\' ≤ [char].count '\\' + place.backslashes)
        (prepended : prepend chars (read true .inside rest) = some (text, behind)) :
        text.count '\\' + behind.count '\\' ≤ (char :: rest).count '\\' + place.backslashes := by
      obtain ⟨more, rfl⟩ := isPrefix_of_prepend prepended
      have later := ih .inside (prepend_eq_some_iff.mp prepended)
      have whole : (char :: rest).count '\\' = [char].count '\\' + rest.count '\\' := by
        rw [← List.count_append]
        rfl
      simp only [Place.backslashes] at later
      rw [List.count_append, whole]
      omega
    cases place with
    | inside =>
      unfold read at found
      split at found
      · have later := ih .quote found
        exact Nat.le_trans later (List.Sublist.count_le _ (List.sublist_cons_self _ _))
      · split at found
        · rename_i backslash
          have later := ih .backslash found
          rw [backslash.2, List.count_cons_self]
          exact later
        · exact step (Nat.le_add_right _ _) found
    | quote =>
      unfold read at found
      split at found
      · exact step (Nat.zero_le _) found
      · obtain ⟨rfl, rfl⟩ := Prod.mk.inj (Option.some.inj found)
        simp
    | backslash =>
      exact step (Nat.le_trans (count_escaped_le char) (Nat.le_add_left _ _)) found

theorem count_doubleQuotes_backslash (text : List Char) :
    (doubleQuotes text).count '\\' = text.count '\\' := by
  induction text using doubleQuotes.induct with
  | case1 => rfl
  | case2 rest ih => simpa [doubleQuotes] using ih
  | case3 char rest other ih =>
    rw [doubleQuotes_cons_of_ne fun same => other same, List.count_cons, List.count_cons, ih]

/-- Without escapes, doubled quotes are read back whatever the text is. -/
theorem read_doubleQuotes (ends : behind.head? ≠ some '\'') (text : List Char) :
    read false .inside (doubleQuotes text ++ '\'' :: behind) = some (text, behind) := by
  induction text using doubleQuotes.induct with
  | case1 => exact read_closed ends
  | case2 rest ih =>
    rw [doubleQuotes, List.cons_append, List.cons_append, read_quote, ih]
    rfl
  | case3 char rest other ih =>
    have plain : char ≠ '\'' := fun same => other same
    rw [doubleQuotes_cons_of_ne plain, List.cons_append, read_plain plain (by simp), ih]
    rfl

/-- A backslash stays in front of what it stands for only before the wildcards of LIKE and before
another backslash. -/
theorem eq_of_isPrefix_escaped {char : Char} {rest : List Char}
    (kept : escaped char <+: '\\' :: rest) : char = '\\' ∨ char = '%' ∨ char = '_' := by
  unfold escaped at kept
  split at kept
  any_goals simp_all

/-- Of two backslashes one is lost, and nothing behind them makes up for it. -/
theorem wildcard_of_read {next : Char} {more : List Char}
    (found : read true .backslash (doubleQuotes (next :: more) ++ '\'' :: behind) =
      some ('\\' :: next :: more, behind)) : next = '%' ∨ next = '_' := by
  by_cases quote : next = '\''
  · subst quote
    exact absurd (eq_of_isPrefix_escaped (isPrefix_of_prepend found)) (by decide)
  · rw [doubleQuotes_cons_of_ne quote, List.cons_append] at found
    refine (eq_of_isPrefix_escaped (isPrefix_of_prepend found)).resolve_left ?_
    rintro rfl
    have fewer := count_read_le .inside (prepend_eq_some_iff.mp found)
    have written : (doubleQuotes more ++ '\'' :: behind).count '\\' =
        more.count '\\' + behind.count '\\' := by
      rw [List.count_append, count_doubleQuotes_backslash]
      simp
    rw [written, List.count_cons_self] at fewer
    simp only [Place.backslashes] at fewer
    omega

/-- Before a wildcard the backslash is read as it is. -/
theorem read_before_wildcard {next : Char} (wildcard : next = '%' ∨ next = '_')
    (input : List Char) :
    read true .backslash (next :: input) = prepend ['\\'] (read true .inside (next :: input)) := by
  have own : escaped next = ['\\'] ++ [next] := by rcases wildcard with rfl | rfl <;> rfl
  have plain : next ≠ '\'' ∧ next ≠ '\\' := by rcases wildcard with rfl | rfl <;> decide
  rw [read_plain plain.1 fun both => plain.2 both.2, ← prepend_append, ← own]
  rfl

/-- With escapes they are read back where no backslash changes what stands behind it. -/
theorem read_doubleQuotes_iff (ends : behind.head? ≠ some '\'') (text : List Char) :
    read true .inside (doubleQuotes text ++ '\'' :: behind) = some (text, behind) ↔
      BackslashesKept text := by
  induction text with
  | nil => exact iff_of_true (read_closed ends) trivial
  | cons char rest ih =>
    have tail : prepend [char] (read true .inside (doubleQuotes rest ++ '\'' :: behind)) =
        some (char :: rest, behind) ↔ BackslashesKept rest := prepend_eq_some_iff.trans ih
    by_cases quote : char = '\''
    · subst quote
      rw [doubleQuotes, List.cons_append, List.cons_append, read_quote, tail]
      simp [BackslashesKept]
    · rw [doubleQuotes_cons_of_ne quote, List.cons_append]
      by_cases backslash : char = '\\'
      · subst backslash
        rw [read_backslash]
        cases rest with
        | nil =>
          refine iff_of_false (fun found => ?_) (by simp [BackslashesKept])
          exact absurd (eq_of_isPrefix_escaped (isPrefix_of_prepend found)) (by decide)
        | cons next more =>
          by_cases wildcard : next = '%' ∨ next = '_'
          · have plain : next ≠ '\'' := by rcases wildcard with rfl | rfl <;> decide
            rw [doubleQuotes_cons_of_ne plain, List.cons_append] at tail ⊢
            rw [read_before_wildcard wildcard, tail]
            simp [BackslashesKept, wildcard]
          · refine iff_of_false (fun found => wildcard (wildcard_of_read found)) fun kept => ?_
            exact wildcard (by simpa using kept.1 rfl)
      · rw [read_plain quote (fun both => backslash both.2), tail]
        simp [BackslashesKept, backslash]

end Literal

theorem Text.toList_quoted (text : String) :
    (quoted text).toList = '\'' :: (doubleQuotes text.toList ++ ['\'']) := by
  have mark : "'".toList = ['\''] := by decide
  simp [quoted, mark]

/-- A quoted text is read back as it is, up to its own closing quote; by MySQL exactly where every
backslash in it stands before a wildcard. -/
theorem Dialect.readLiteral_quoted_iff (dialect : Dialect) (text : String) {behind : List Char}
    (ends : behind.head? ≠ some '\'') :
    dialect.readLiteral ((Text.quoted text).toList ++ behind) = some (text.toList, behind) ↔
      (dialect = .mySql → Literal.BackslashesKept text.toList) := by
  have opened : dialect.readLiteral ((Text.quoted text).toList ++ behind) =
      Literal.read (dialect = .mySql) .inside
        (Text.doubleQuotes text.toList ++ '\'' :: behind) := by
    rw [Text.toList_quoted, List.cons_append, List.append_assoc]
    rfl
  rw [opened]
  by_cases escapes : dialect = .mySql
  · simp [escapes, Literal.read_doubleQuotes_iff ends]
  · simp [escapes, Literal.read_doubleQuotes ends]

example : Dialect.mySql.readLiteral "'50\\% \\n', 'x'".toList =
    some ("50\\% \n".toList, ", 'x'".toList) := by
  decide

end FluentSql
