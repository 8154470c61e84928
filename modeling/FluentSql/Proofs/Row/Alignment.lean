import Mathlib
import FluentSql.Postgres.Decode
import FluentSql.Proofs.Entries
import FluentSql.Row.Decode
import FluentSql.Row.Serialized

/-! Columns and values of a row side by side. They are of one length in a row that is built column
by column or decoded from a backend; a row from its serialized text is taken as the text has it. -/
namespace FluentSql.Row
open Json (Source)

/-- The columns with their values, as far as there are both. -/
def cells (row : Row) : List (String × Value) := row.columns.zip row.values

/-- Every column has a value and every value a column. -/
def Aligned (row : Row) : Prop := row.columns.length = row.values.length

/-- Columns pushed one after another. -/
def pushAll (row : Row) (added : List (String × Value)) : Row :=
  added.foldl (fun row cell => row.push cell.1 cell.2) row

theorem columns_pushAll (row : Row) (added : List (String × Value)) :
    (row.pushAll added).columns = row.columns ++ added.map Prod.fst := by
  induction added generalizing row with
  | nil => exact (List.append_nil _).symm
  | cons cell rest ih =>
    refine (ih (row.push cell.1 cell.2)).trans ?_
    rw [List.map_cons, push, List.append_assoc, List.singleton_append]

theorem values_pushAll (row : Row) (added : List (String × Value)) :
    (row.pushAll added).values = row.values ++ added.map Prod.snd := by
  induction added generalizing row with
  | nil => exact (List.append_nil _).symm
  | cons cell rest ih =>
    refine (ih (row.push cell.1 cell.2)).trans ?_
    rw [List.map_cons, push, List.append_assoc, List.singleton_append]

/-- A push adds one to both sides, so what was uneven stays uneven. -/
theorem aligned_pushAll_iff (row : Row) (added : List (String × Value)) :
    (row.pushAll added).Aligned ↔ row.Aligned := by
  unfold Aligned
  simp only [columns_pushAll, values_pushAll, List.length_append, List.length_map]
  omega

theorem aligned_empty : empty.Aligned := rfl

theorem Aligned.cells_pushAll {row : Row} (aligned : row.Aligned)
    (added : List (String × Value)) : (row.pushAll added).cells = row.cells ++ added := by
  rw [cells, columns_pushAll, values_pushAll, List.zip_append aligned, cells,
    ← List.unzip_fst, ← List.unzip_snd, List.zip_unzip]

/-- The value at the first place of a name is the first cell of that name. -/
theorem bind_idxOf?_eq_find? (columns : List String) (values : List Value) (column : String) :
    ((columns.idxOf? column).bind fun index => values[index]?) =
      Entries.find? (columns.zip values) column := by
  induction columns generalizing values with
  | nil => rfl
  | cons first columns ih =>
    rw [List.idxOf?_cons]
    cases values with
    | nil => cases (if first == column then some 0 else _ : Option Nat) <;> rfl
    | cons value values =>
      rw [List.zip_cons_cons]
      by_cases same : first = column
      · subst same
        rw [if_pos (beq_self_eq_true first), Entries.find?_cons_self]
        rfl
      · rw [if_neg (by simpa using same), Entries.find?_cons_of_ne same, ← ih values,
          Option.bind_map]
        rfl

/-- A name whose columns are all past the last value. -/
def Uncovered (row : Row) (column : String) : Prop :=
  column ∈ row.columns ∧ column ∉ row.columns.take row.values.length

theorem uncovered_iff {row : Row} {column : String} {index : Nat}
    (place : row.columns.idxOf? column = some index) :
    row.Uncovered column ↔ row.values.length ≤ index := by
  obtain ⟨within, named, before⟩ := List.idxOf?_eq_some_iff.mp place
  unfold Uncovered
  rw [List.mem_take_iff_getElem]
  constructor
  · rintro ⟨_, absent⟩
    by_contra inside
    exact absent ⟨index, by omega, named⟩
  · intro past
    refine ⟨named ▸ List.getElem_mem within, ?_⟩
    rintro ⟨other, bound, same⟩
    exact before other (by omega) same

theorem value?_of_uncovered {row : Row} {column : String} (uncovered : row.Uncovered column) :
    ∃ index, row.value? column = .error (.outOfBounds row.values.length index) := by
  obtain ⟨index, place⟩ := Option.isSome_iff_exists.mp (List.isSome_idxOf?.mpr uncovered.1)
  have past := (uncovered_iff place).mp uncovered
  exact ⟨index, by simp only [value?, place, List.getElem?_eq_none_iff.mpr past]⟩

/-- Any other name is looked up in the cells, of which the first counts. -/
theorem value?_of_covered {row : Row} {column : String} (covered : ¬ row.Uncovered column) :
    row.value? column = .ok (Entries.find? row.cells column) := by
  have found := bind_idxOf?_eq_find? row.columns row.values column
  cases place : row.columns.idxOf? column with
  | none =>
    rw [place, Option.bind_none] at found
    simp only [value?, place, cells, ← found]
  | some index =>
    have inside : index < row.values.length := by
      rw [uncovered_iff place] at covered
      omega
    simp only [place, Option.bind_some, List.getElem?_eq_getElem inside] at found
    simp only [value?, place, List.getElem?_eq_getElem inside, cells, ← found]

theorem decodeNamed_ne_outOfBounds [FromValue α] (column : String) (found? : Option Value)
    (length index : Nat) :
    (decodeNamed column found? : Except Halt α) ≠ .error (.outOfBounds length index) := by
  cases found? with
  | none => nofun
  | some value =>
    rw [decodeNamed]
    cases fromValue (α := α) value with
    | error error => nofun
    | ok decoded => nofun

/-- A read by name leaves the values exactly for the names that have none. -/
theorem value?_outOfBounds_iff (row : Row) (column : String) :
    (∃ length index, row.value? column = .error (.outOfBounds length index)) ↔
      row.Uncovered column := by
  constructor
  · rintro ⟨length, index, read⟩
    by_contra covered
    rw [value?_of_covered covered] at read
    cases read
  · intro uncovered
    obtain ⟨index, read⟩ := value?_of_uncovered uncovered
    exact ⟨row.values.length, index, read⟩

theorem get_outOfBounds_iff [FromValue α] (row : Row) (column : String) :
    (∃ length index, (row.get column : Except Halt α) = .error (.outOfBounds length index)) ↔
      row.Uncovered column := by
  constructor
  · rintro ⟨length, index, read⟩
    by_contra covered
    rw [get, value?_of_covered covered] at read
    exact decodeNamed_ne_outOfBounds column _ length index read
  · intro uncovered
    obtain ⟨index, read⟩ := value?_of_uncovered uncovered
    refine ⟨row.values.length, index, ?_⟩
    rw [get, read]
    rfl

/-- All that a row tells of itself, it tells of the same cells. -/
structure Consistent (row : Row) : Prop where
  columns : row.columns = row.cells.map Prod.fst
  length : row.length = row.cells.length
  isEmpty : row.isEmpty = row.cells.isEmpty
  value? : ∀ column, row.value? column = .ok (Entries.find? row.cells column)
  get : ∀ {α : Type} [FromValue α] (column : String),
    (row.get column : Except Halt α) = decodeNamed column (Entries.find? row.cells column)
  getAt : ∀ {α : Type} [FromValue α] (index : Nat),
    (row.getAt index : Except Error α) = row.cells[index]?.elim
      (.error (.decode (Text.natText index) .indexOutOfRange))
      fun cell => (fromValue cell.2).mapError (Error.atColumn cell.1)
  toEntries : row.toEntries = Entries.ofPairs row.cells

theorem Aligned.covered {row : Row} (aligned : row.Aligned) (column : String) :
    ¬ row.Uncovered column := by
  rintro ⟨present, absent⟩
  exact absent (by rwa [List.take_of_length_le (Nat.le_of_eq aligned)])

theorem Aligned.getAt_eq [FromValue α] {row : Row} (aligned : row.Aligned) (index : Nat) :
    (row.getAt index : Except Error α) = row.cells[index]?.elim
      (.error (.decode (Text.natText index) .indexOutOfRange))
      fun cell => (fromValue cell.2).mapError (Error.atColumn cell.1) := by
  rcases Nat.lt_or_ge index row.values.length with inside | past
  · have within : index < row.columns.length := aligned ▸ inside
    have cell : row.cells[index]? = some (row.columns[index], row.values[index]) :=
      List.getElem?_zip_eq_some.mpr
        ⟨List.getElem?_eq_getElem within, List.getElem?_eq_getElem inside⟩
    simp only [Row.getAt, cell, List.getElem?_eq_getElem inside,
      List.getElem?_eq_getElem within, Option.elim_some, Option.getD_some]
  · have none : row.cells[index]? = none := by
      rw [List.getElem?_eq_none_iff, cells, List.length_zip]
      omega
    simp only [Row.getAt, none, List.getElem?_eq_none_iff.mpr past, Option.elim_none]

theorem Aligned.consistent {row : Row} (aligned : row.Aligned) : row.Consistent where
  columns := (List.map_fst_zip (Nat.le_of_eq aligned)).symm
  length := by
    rw [length, cells, List.length_zip, aligned, Nat.min_self]
  isEmpty := by
    rw [isEmpty, ← List.map_snd_zip (Nat.le_of_eq aligned.symm), List.isEmpty_map]
    rfl
  value? := fun column => value?_of_covered (aligned.covered column)
  get := fun column => by
    rw [get, value?_of_covered (aligned.covered column)]
    rfl
  getAt := aligned.getAt_eq
  toEntries := rfl

/-- The lists of names and values in the text of a row. -/
def lists? : Source → Option (List Source × List Source)
  | .object members => do
    let names ← Value.uniqueMember "columns" members
    let values ← Value.uniqueMember "values" members
    pair names values
  | .array [names, values] => pair (some names) (some values)
  | _ => none
where
  pair : Option Source → Option Source → Option (List Source × List Source)
    | some (.array names), some (.array values) => some (names, values)
    | _, _ => none

theorem length_of_mapM {read : α → Option β} {items : List α} {results : List β}
    (all : items.mapM read = some results) : results.length = items.length := by
  induction items generalizing results with
  | nil =>
    obtain rfl := Option.some.inj all
    rfl
  | cons item rest ih =>
    rw [List.mapM_cons] at all
    obtain ⟨result, _, all⟩ := Option.bind_eq_some_iff.mp all
    obtain ⟨others, behind, all⟩ := Option.bind_eq_some_iff.mp all
    obtain rfl := Option.some.inj all
    rw [List.length_cons, List.length_cons, ih behind]

theorem columns?_eq_some {source : Source} {columns : List String}
    (read : columns? source = some columns) :
    ∃ names, source = .array names ∧ columns.length = names.length := by
  unfold columns? at read
  split at read
  · exact ⟨_, rfl, length_of_mapM read⟩
  · cases read

theorem values?_eq_some {depth : Nat} {source : Source} {values : List Value}
    (read : values? depth source = some values) :
    ∃ items, source = .array items ∧ values.length = items.length := by
  unfold values? at read
  split at read
  · exact ⟨_, rfl, length_of_mapM read⟩
  · cases read

/-- A row has as many columns and values as there are in the two lists of its text. -/
theorem lists?_of_ofSource? {depth : Nat} {source : Source} {row : Row}
    (read : ofSource? depth source = some row) :
    ∃ names values, lists? source = some (names, values) ∧
      row.columns.length = names.length ∧ row.values.length = values.length := by
  unfold ofSource? at read
  split at read
  · rename_i members
    obtain ⟨names?, given, read⟩ := Option.bind_eq_some_iff.mp read
    obtain ⟨values?, held, read⟩ := Option.bind_eq_some_iff.mp read
    obtain ⟨columns, first, read⟩ := Option.bind_eq_some_iff.mp read
    obtain ⟨values, second, read⟩ := Option.bind_eq_some_iff.mp read
    obtain rfl := Option.some.inj read
    obtain ⟨_, rfl, named⟩ := Option.bind_eq_some_iff.mp first
    obtain ⟨_, rfl, valued⟩ := Option.bind_eq_some_iff.mp second
    obtain ⟨names, rfl, wide⟩ := columns?_eq_some named
    obtain ⟨items, rfl, long⟩ := values?_eq_some valued
    refine ⟨names, items, ?_, wide, long⟩
    simp only [lists?, given, held, lists?.pair, Option.bind_eq_bind, Option.bind_some]
  · obtain ⟨columns, first, read⟩ := Option.bind_eq_some_iff.mp read
    obtain ⟨values, second, read⟩ := Option.bind_eq_some_iff.mp read
    obtain rfl := Option.some.inj read
    obtain ⟨names, rfl, wide⟩ := columns?_eq_some first
    obtain ⟨items, rfl, long⟩ := values?_eq_some second
    exact ⟨names, items, rfl, wide, long⟩
  · cases read

/-- Where a row comes from, before columns are pushed to it. -/
inductive Origin where
  | new
  | decoded (columns : List Postgres.ColumnHead) (cells : List (Option Postgres.Bytes))
  | deserialized (text : String)

namespace Origin

def row? : Origin → Option Row
  | .new => some .empty
  | .decoded columns cells => (Postgres.decodeRow columns cells).toOption
  | .deserialized text => deserialize? text

/-- As many columns as values are given. Only a text may give more of the one than of the other. -/
def Even : Origin → Prop
  | .new | .decoded _ _ => True
  | .deserialized text => ∃ source names values, Source.parse? text.toList = some source ∧
      lists? source = some (names, values) ∧ names.length = values.length

end Origin

theorem length_of_decodeCells {index : Nat} {columns : List Postgres.ColumnHead}
    {cells : List (Option Postgres.Bytes)} {values : List Value}
    (decoded : Postgres.decodeCells index columns cells = .ok values) :
    values.length = columns.length := by
  induction columns generalizing index cells values with
  | nil =>
    obtain rfl := Except.ok.inj decoded
    rfl
  | cons column columns ih =>
    rw [Postgres.decodeCells] at decoded
    cases first : Postgres.decodeCell index column cells.head?.join with
    | error error =>
      rw [first] at decoded
      cases decoded
    | ok value =>
      cases behind : Postgres.decodeCells (index + 1) columns cells.tail with
      | error error =>
        rw [first, behind] at decoded
        cases decoded
      | ok others =>
        rw [first, behind] at decoded
        obtain rfl := Except.ok.inj decoded
        rw [List.length_cons, List.length_cons, ih behind]

theorem aligned_of_decodeRow {columns : List Postgres.ColumnHead}
    {cells : List (Option Postgres.Bytes)} {row : Row}
    (decoded : Postgres.decodeRow columns cells = .ok row) : row.Aligned := by
  unfold Postgres.decodeRow at decoded
  cases read : Postgres.decodeCells 0 columns cells with
  | error error =>
    rw [read] at decoded
    cases decoded
  | ok values =>
    rw [read] at decoded
    obtain rfl := Except.ok.inj decoded
    exact (List.length_map _).trans (length_of_decodeCells read).symm

/-- A row is aligned at first where as many columns as values were given. -/
theorem aligned_iff_even {origin : Origin} {start : Row} (made : origin.row? = some start) :
    start.Aligned ↔ origin.Even := by
  cases origin with
  | new =>
    obtain rfl := Option.some.inj made
    exact iff_of_true aligned_empty trivial
  | decoded columns cells =>
    change (Postgres.decodeRow columns cells).toOption = some start at made
    cases decoded : Postgres.decodeRow columns cells with
    | error error =>
      rw [decoded] at made
      cases made
    | ok row =>
      rw [decoded] at made
      obtain rfl := Option.some.inj made
      exact iff_of_true (aligned_of_decodeRow decoded) trivial
  | deserialized text =>
    obtain ⟨source, parsed, read⟩ := Option.bind_eq_some_iff.mp made
    obtain ⟨names, values, lists, wide, long⟩ := lists?_of_ofSource? read
    unfold Aligned
    rw [wide, long]
    constructor
    · exact fun even => ⟨source, names, values, parsed, lists, even⟩
    · rintro ⟨other, others, held, again, found, even⟩
      obtain rfl := Option.some.inj (parsed.symm.trans again)
      obtain ⟨rfl, rfl⟩ := Prod.mk.inj (Option.some.inj (lists.symm.trans found))
      exact even

/-- Whatever columns are pushed to it, a row has as many columns as values exactly where its origin
gave as many, and then all that it tells of itself is about the same cells. A read by name leaves
the values exactly where all columns of the name are past the last of them. -/
theorem aligned_iff_even_origin {origin : Origin} {start : Row} (made : origin.row? = some start)
    (added : List (String × Value)) :
    let row := start.pushAll added
    (row.Aligned ↔ origin.Even) ∧ (row.Aligned → row.Consistent) ∧
      ∀ column,
        ((∃ length index, row.value? column = .error (.outOfBounds length index)) ↔
          row.Uncovered column) ∧
        ∀ {α : Type} [FromValue α],
          (∃ length index, (row.get column : Except Halt α) = .error (.outOfBounds length index)) ↔
            row.Uncovered column := by
  intro row
  have even : row.Aligned ↔ origin.Even :=
    (aligned_pushAll_iff start added).trans (aligned_iff_even made)
  exact ⟨even, Aligned.consistent, fun column =>
    ⟨value?_outOfBounds_iff row column, get_outOfBounds_iff row column⟩⟩

/-- Behind two names and one value, a pushed value stands beside the second name, and the name that
was pushed with it has none. -/
theorem aligned_iff_even_origin_shifted :
    let origin : Origin :=
      .deserialized "\x7b\"columns\":[\"a\",\"b\"],\"values\":[\x7b\"type\":\"null\"\x7d]\x7d"
    let start : Row := ⟨["a", "b"], [.null]⟩
    let row := start.pushAll [("c", .int 1)]
    origin.row? = some start ∧ ¬ row.Aligned ∧ ¬ origin.Even ∧
      row.value? "b" = .ok (some (.int 1)) ∧
      (∃ length index, row.value? "c" = .error (.outOfBounds length index)) ∧
      row.Uncovered "c" := by
  intro origin start row
  have made : origin.row? = some start := by cbv
  obtain ⟨even, _, reads⟩ := aligned_iff_even_origin made [("c", .int 1)]
  have uneven : ¬ row.Aligned := by
    unfold Aligned
    decide
  have past : row.value? "c" = .error (.outOfBounds 2 2) := rfl
  exact ⟨made, uneven, fun same => uneven (even.mpr same), rfl, ⟨2, 2, past⟩,
    (reads "c").1.mp ⟨2, 2, past⟩⟩

/-- A text with a name and no value is read as a row, whose column is then read out of bounds. -/
theorem deserialized_row_without_value :
    ∃ row, deserialize? "\x7b\"columns\":[\"a\"],\"values\":[]\x7d" = some row ∧ ¬ row.Aligned ∧
      row.columns = ["a"] ∧ row.length = 0 ∧ row.value? "a" = .error (.outOfBounds 0 0) := by
  refine ⟨⟨["a"], []⟩, by cbv, ?_, rfl, rfl, rfl⟩
  unfold Aligned
  decide

end FluentSql.Row
