import FluentSql.Dialect.Dates
import FluentSql.Placeholder.Numbered
import FluentSql.Text.Join

/-! Statements with every argument written at its placeholder. Writing distributes over texts that
end outside quoted spans and have as many placeholders as arguments, so it shows to which
placeholder an argument belongs. -/
namespace FluentSql.Placeholder

variable {write : Value → String} {first rest text result : String} {args more : List Value}

/-- The arguments written at the placeholders, in order. Without arguments left a placeholder
stays. -/
def fill (write : Value → String) (span : Option Char) : List Char → List Value → List Char
  | [], _ => []
  | char :: rest, args =>
    if char = '?' ∧ span = none then
      match args with
      | [] => '?' :: fill write none rest []
      | arg :: args => (write arg).toList ++ fill write none rest args
    else char :: fill write (spanAfter span char) rest args

def filled (write : Value → String) (text : String) (args : List Value) : String :=
  String.ofList (fill write none text.toList args)

/-- The number of placeholders outside quoted spans. -/
def marks (text : String) : Nat := count none text.toList

/-- A text that ends outside quoted spans. -/
def Balanced (text : String) : Prop := text.toList.foldl spanAfter none = none

instance (text : String) : Decidable (Balanced text) :=
  inferInstanceAs (Decidable (text.toList.foldl spanAfter none = none))

/-- Quotes are closed, and every placeholder has an argument of its own. -/
structure Paired (text : String) (args : List Value) : Prop where
  balanced : Balanced text
  marks_eq : marks text = args.length

instance (text : String) (args : List Value) : Decidable (Paired text args) :=
  decidable_of_iff (Balanced text ∧ marks text = args.length)
    ⟨fun both => ⟨both.1, both.2⟩, fun paired => ⟨paired.balanced, paired.marks_eq⟩⟩

/-- Quotes are closed and there is no placeholder. -/
abbrev Inert (text : String) : Prop := Paired text []

theorem inert_empty : Inert "" := by decide

theorem inert_blank : Inert " " := by decide

theorem inert_comma : Inert ", " := by decide

theorem inert_open : Inert "(" := by decide

theorem inert_close : Inert ")" := by decide

theorem balanced_append (closed : Balanced first) : Balanced (first ++ rest) ↔ Balanced rest := by
  simp only [Balanced, String.toList_append, List.foldl_append] at closed ⊢
  rw [closed]

theorem marks_append (closed : Balanced first) :
    marks (first ++ rest) = marks first + marks rest := by
  simp only [Balanced] at closed
  simp only [marks, String.toList_append, count_append, closed]

theorem Paired.append (paired : Paired first args) (next : Paired rest more) :
    Paired (first ++ rest) (args ++ more) where
  balanced := (balanced_append paired.balanced).mpr next.balanced
  marks_eq := by
    rw [marks_append paired.balanced, paired.marks_eq, next.marks_eq, List.length_append]

theorem fill_append (write : Value → String) (span : Option Char) (first rest : List Char)
    (args more : List Value) (enough : count span first = args.length) :
    fill write span (first ++ rest) (args ++ more) =
      fill write span first args ++ fill write (first.foldl spanAfter span) rest more := by
  induction first generalizing span args with
  | nil =>
    have none : args = [] := List.length_eq_zero_iff.mp (by simpa [count] using enough.symm)
    subst args
    simp [fill]
  | cons char first ih =>
    by_cases placeholder : char = '?' ∧ span = none
    · obtain ⟨rfl, rfl⟩ := placeholder
      have outside : spanAfter none '?' = none := by decide
      cases args with
      | nil => simp [count] at enough
      | cons arg args =>
        have fewer : count none first = args.length := by
          simp only [count, outside, List.length_cons, and_self, ↓reduceIte] at enough
          omega
        simp [fill, outside, ih none args fewer]
    · have same : count (spanAfter span char) first = args.length := by
        simpa [count, placeholder] using enough
      simp [fill, placeholder, ih _ args same]

theorem fill_mark (write : Value → String) (arg : Value) (text : List Char) (args : List Value) :
    fill write none ('?' :: text) (arg :: args) =
      (write arg).toList ++ fill write none text args := by
  simp [fill]

/-- A text that an argument list has nothing to say to stays as it is. -/
theorem fill_of_count_eq_zero (write : Value → String) (span : Option Char) (text : List Char)
    (args : List Value) (unmarked : count span text = 0) : fill write span text args = text := by
  induction text generalizing span with
  | nil => simp [fill]
  | cons char text ih =>
    by_cases placeholder : char = '?' ∧ span = none
    · simp [count, placeholder] at unmarked
    · have left : count (spanAfter span char) text = 0 := by
        simpa [count, placeholder] using unmarked
      simp [fill, placeholder, ih _ left]

theorem fill_eq_nil_iff (visible : ∀ value, write value ≠ "") (span : Option Char)
    (text : List Char) (args : List Value) : fill write span text args = [] ↔ text = [] := by
  cases text with
  | nil => simp [fill]
  | cons char text =>
    by_cases placeholder : char = '?' ∧ span = none
    · cases args with
      | nil => simp [fill, placeholder]
      | cons arg args => simp [fill, placeholder, visible arg]
    · simp [fill, placeholder]

/-- `result` is the text with its arguments written at its placeholders, none of them left over. -/
structure Fills (write : Value → String) (text : String) (args : List Value) (result : String) :
    Prop where
  paired : Paired text args
  filled_eq : filled write text args = result

theorem Paired.fills (write : Value → String) (paired : Paired text args) :
    Fills write text args (filled write text args) := ⟨paired, rfl⟩

theorem Fills.append {next : String} (fills : Fills write first args result)
    (after : Fills write rest more next) :
    Fills write (first ++ rest) (args ++ more) (result ++ next) where
  paired := fills.paired.append after.paired
  filled_eq := by
    have closed := fills.paired.balanced
    simp only [Balanced] at closed
    rw [← fills.filled_eq, ← after.filled_eq]
    simp only [filled, String.toList_append]
    rw [fill_append write none _ _ _ _ fills.paired.marks_eq, closed, String.ofList_append]

theorem Inert.filled_eq (inert : Inert text) : filled write text [] = text := by
  rw [filled, fill_of_count_eq_zero write none _ [] inert.marks_eq, String.ofList_toList]

theorem Inert.fills (inert : Inert text) (write : Value → String) : Fills write text [] text :=
  ⟨inert, inert.filled_eq⟩

/-- A text without placeholders before a filled one. -/
theorem Fills.after (inert : Inert first) (fills : Fills write text args result) :
    Fills write (first ++ text) args (first ++ result) := (inert.fills write).append fills

/-- A text without placeholders behind a filled one. -/
theorem Fills.before (fills : Fills write text args result) (inert : Inert rest) :
    Fills write (text ++ rest) args (result ++ rest) := by
  simpa using fills.append (inert.fills write)

theorem Inert.append (inert : Inert first) (next : Inert rest) : Inert (first ++ rest) :=
  Paired.append inert next

theorem Inert.wrap (inert : Inert text) (opening : Inert first) (closing : Inert rest) :
    Inert (first ++ text ++ rest) := (opening.append inert).append closing

theorem Inert.wrap_marked_before (inert : Inert text) (closed : Balanced first)
    (one : marks first = 1) (closing : Inert rest) (value : Value) :
    Paired (first ++ text ++ rest) [value] := by
  have opening : Paired first [value] := ⟨closed, one⟩
  exact (opening.append inert).append closing

theorem Inert.wrap_marked_after (inert : Inert text) (opening : Inert first)
    (closed : Balanced rest) (one : marks rest = 1) (value : Value) :
    Paired (first ++ text ++ rest) [value] := by
  have closing : Paired rest [value] := ⟨closed, one⟩
  exact Paired.append (opening.append inert) closing

theorem fills_mark (write : Value → String) (value : Value) :
    Fills write "?" [value] (write value) where
  paired := ⟨by decide, rfl⟩
  filled_eq := by
    have opened : "?".toList = ['?'] := by decide
    simp [filled, opened, fill]

/-- One placeholder between two texts that have none. -/
theorem fills_marked (write : Value → String) (opening : Inert first) (value : Value)
    (closing : Inert rest) :
    Fills write (first ++ "?" ++ rest) [value] (first ++ write value ++ rest) :=
  ((fills_mark write value).after opening).before closing

theorem Fills.eq_empty_iff (fills : Fills write text args result)
    (visible : ∀ value, write value ≠ "") : result = "" ↔ text = "" := by
  rw [← fills.filled_eq, filled]
  constructor
  · intro empty
    have none := (fill_eq_nil_iff visible _ _ _).mp (String.ofList_eq_empty_iff.mp empty)
    exact String.toList_eq_nil_iff.mp none
  · intro empty
    subst text
    rfl

/-- An empty text has no arguments. -/
theorem Paired.args_eq_nil (paired : Paired "" args) : args = [] :=
  List.length_eq_zero_iff.mp paired.marks_eq.symm

/-- A text without quotes and question marks. -/
theorem inert_of_plain {text : String}
    (plain : ∀ char ∈ text.toList, char ≠ '\'' ∧ char ≠ '"' ∧ char ≠ '?') : Inert text := by
  have scanned (chars : List Char) (each : ∀ char ∈ chars, char ≠ '\'' ∧ char ≠ '"' ∧ char ≠ '?') :
      chars.foldl spanAfter none = none ∧ count none chars = 0 := by
    induction chars with
    | nil => exact ⟨rfl, rfl⟩
    | cons char chars ih =>
      obtain ⟨single, double, mark⟩ := each char List.mem_cons_self
      obtain ⟨closed, unmarked⟩ :=
        ih fun other member => each other (List.mem_cons_of_mem char member)
      have outside : spanAfter none char = none := by simp [spanAfter, single, double]
      exact ⟨by simpa [outside] using closed, by simp [count, mark, outside, unmarked]⟩
  obtain ⟨closed, unmarked⟩ := scanned text.toList plain
  exact ⟨closed, unmarked⟩

theorem inert_natText (value : Nat) : Inert (Text.natText value) := by
  apply inert_of_plain
  intro char member
  have digit : char.isDigit = true := by
    have listed : char ∈ Nat.toDigits 10 value := by
      simpa [Text.natText, Text.decimalDigits] using member
    exact Nat.isDigit_of_mem_toDigits (by decide) (by decide) listed
  refine ⟨?_, ?_, ?_⟩
  all_goals
    intro same
    subst char
    simp at digit

theorem exists_mark (span : Option Char) (text : List Char) (place : Nat)
    (present : place < count span text) :
    ∃ before after, text = before ++ '?' :: after ∧ before.foldl spanAfter span = none ∧
      count span before = place := by
  induction text generalizing span place with
  | nil => simp [count] at present
  | cons char text ih =>
    by_cases placeholder : char = '?' ∧ span = none
    · obtain ⟨rfl, rfl⟩ := placeholder
      have outside : spanAfter none '?' = none := by decide
      cases place with
      | zero => exact ⟨[], text, rfl, rfl, rfl⟩
      | succ place =>
        have fewer : place < count none text := by
          simp only [count, outside, and_self, ↓reduceIte] at present
          omega
        obtain ⟨before, after, split, closed, number⟩ := ih none place fewer
        refine ⟨'?' :: before, after, by simp [split], by simpa [outside] using closed, ?_⟩
        simp [count, outside, number, Nat.add_comm]
    · have fewer : place < count (spanAfter span char) text := by
        simpa [count, placeholder] using present
      obtain ⟨before, after, split, closed, number⟩ := ih _ place fewer
      refine ⟨char :: before, after, by simp [split], closed, ?_⟩
      simp [count, placeholder, number]

/-- The argument of some number is written at the placeholder of the same number. -/
theorem Fills.at_mark (fills : Fills write text args result) (place : Nat)
    (present : place < args.length) :
    ∃ before after, text = before ++ "?" ++ after ∧ Balanced before ∧ marks before = place ∧
      result = filled write before (args.take place) ++ write args[place] ++
        filled write after (args.drop (place + 1)) := by
  have enough : place < count none text.toList := by
    simpa only [← fills.paired.marks_eq, marks] using present
  obtain ⟨before, after, split, closed, number⟩ := exists_mark none text.toList place enough
  have parts : text = String.ofList before ++ "?" ++ String.ofList after := by
    rw [← String.toList_inj, split]
    simp
  have parting : args = args.take place ++ ([args[place]] ++ args.drop (place + 1)) := by
    simp
  have front : count none before = (args.take place).length := by
    rw [number, List.length_take, Nat.min_eq_left (Nat.le_of_lt present)]
  have opening : Balanced (String.ofList before) := by simpa [Balanced] using closed
  refine ⟨String.ofList before, String.ofList after, parts, opening, by simpa [marks], ?_⟩
  have whole := fill_append write none before ('?' :: after) _
    ([args[place]] ++ args.drop (place + 1)) front
  rw [← parting, ← split, closed] at whole
  rw [← fills.filled_eq, filled, whole, List.singleton_append, fill_mark]
  simp only [filled, String.ofList_append, String.toList_ofList, String.ofList_toList,
    String.append_assoc]

end FluentSql.Placeholder
