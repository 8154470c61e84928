import FluentSql.Proofs.Placeholder.Quoting
import FluentSql.Proofs.Placeholder.Writes
import FluentSql.Proofs.Query.Terminals
import Mathlib.Data.List.Forall2
import Mathlib.Data.List.TakeWhile

/-! Updates from a record next to updates from a map. The first are written with names and read
again, so the two agree exactly where reading finds every column whole. -/
namespace FluentSql

/-- A record with distinct columns holds its values under them. -/
theorem Fields.map_find?_columns {fields : Fields} (distinct : fields.columns.Nodup) :
    fields.columns.map (Entries.find? fields) = fields.values.map some := by
  induction fields with
  | nil => rfl
  | cons field rest ih =>
    obtain ⟨column, value⟩ := field
    obtain ⟨absent, others⟩ := List.nodup_cons.mp distinct
    have kept : ∀ other ∈ columns rest,
        Entries.find? ((column, value) :: rest) other = Entries.find? rest other := by
      intro other member
      have different : column ≠ other := by
        rintro rfl
        exact absent member
      exact Entries.find?_cons_of_ne different value rest
    have tail := List.map_congr_left kept
    change Entries.find? ((column, value) :: rest) column :: (columns rest).map _ =
      some value :: (values rest).map some
    rw [tail, ih others, Entries.find?_cons_self]

namespace Placeholder

theorem inName_of_startsName {char : Char} (starts : startsName char = true) :
    inName char = true := by
  simp only [startsName, inName, Char.isAlphanum, Bool.or_eq_true] at starts ⊢
  tauto

theorem ne_colon_of_startsName {char : Char} (starts : startsName char = true) : char ≠ ':' := by
  rintro rfl
  exact absurd starts (by decide)

/-- A run ends at the latest where a text begins that stops it. -/
theorem run_append_of_stops {inRun : Char → Bool} {behind : List Char}
    (stop : Text.Stops inRun behind) (text : List Char) :
    (text ++ behind).takeWhile inRun = text.takeWhile inRun ∧
      (text ++ behind).dropWhile inRun = text.dropWhile inRun ++ behind := by
  induction text with
  | nil => exact Text.run_append nofun stop
  | cons char text ih =>
    cases goes : inRun char with
    | true => simp [goes, ih.1, ih.2]
    | false => simp [goes]

/-! How much a reader takes out of a text, counted in colons and in characters. -/

/-- The characters of some names. -/
def characters (names : List String) : List Char := names.flatMap String.toList

theorem characters_cons (name : String) (rest : List String) :
    characters (name :: rest) = name.toList ++ characters rest := rfl

section Counts

variable {σ : Type} (inside : σ → Bool) (after : σ → Char → σ)

theorem colonless_of_inName {text : List Char} (named : ∀ char ∈ text, inName char = true) :
    text.count ':' = 0 :=
  List.count_eq_zero.mpr fun member => absurd (named ':' member) (by decide)

/-- Every name takes one colon with it. -/
theorem count_colon_read (state : σ) (text : List Char) :
    (marked (read inside after state text)).count ':' +
      (names (read inside after state text)).length = text.count ':' := by
  induction text using piecewise generalizing state with
  | empty => simp [read_empty, marked, names]
  | char char rest plain ih =>
    have behind := ih (after state char)
    rw [read_char _ _ _ plain, marked, names, List.count_cons_of_ne plain,
      List.count_cons_of_ne plain, behind]
  | cast rest ih =>
    have behind := ih state
    rw [read_cast]
    simp only [marked, names, List.count_cons_self]
    omega
  | colon rest lone ih =>
    have behind := ih state
    rw [read_lone _ _ _ lone]
    simp only [marked, names, List.count_cons_self]
    omega
  | name first rest starts whole behind =>
    cases quoted : inside state with
    | true =>
      have tail := whole state
      rw [read_inside _ _ quoted]
      simp only [marked, names, List.count_cons_self]
      omega
    | false =>
      have tail := behind state
      have taken : (rest.takeWhile inName).count ':' = 0 :=
        colonless_of_inName fun char member => List.mem_takeWhile_imp member
      have split := congrArg (List.count ':')
        (List.takeWhile_append_dropWhile (p := inName) (l := rest))
      rw [List.count_append] at split
      have single := ne_colon_of_startsName starts
      have mark : '?' ≠ ':' := by decide
      rw [read_name _ _ quoted starts, marked, names, List.count_cons_of_ne mark,
        List.count_cons_self, List.count_cons_of_ne single, List.length_cons]
      omega

/-- Every name leaves a mark in place of its colon and of itself. -/
theorem length_read (state : σ) (text : List Char) :
    (marked (read inside after state text)).length +
      (characters (names (read inside after state text))).length = text.length := by
  induction text using piecewise generalizing state with
  | empty => simp [read_empty, marked, names, characters]
  | char char rest plain ih =>
    have behind := ih (after state char)
    rw [read_char _ _ _ plain]
    simp only [marked, names, List.length_cons]
    omega
  | cast rest ih =>
    have behind := ih state
    rw [read_cast]
    simp only [marked, names, List.length_cons]
    omega
  | colon rest lone ih =>
    have behind := ih state
    rw [read_lone _ _ _ lone]
    simp only [marked, names, List.length_cons]
    omega
  | name first rest starts whole behind =>
    cases quoted : inside state with
    | true =>
      have tail := whole state
      rw [read_inside _ _ quoted]
      simp only [marked, names, List.length_cons] at tail ⊢
      omega
    | false =>
      have tail := behind state
      have split := congrArg List.length (List.takeWhile_append_dropWhile (p := inName) (l := rest))
      rw [List.length_append] at split
      rw [read_name _ _ quoted starts]
      simp only [marked, names, characters_cons, List.length_append, List.length_cons,
        String.toList_ofList]
      omega

theorem identifier_of_mem_names (state : σ) (text : List Char) :
    ∀ name ∈ names (read inside after state text), Identifier name := by
  induction text using piecewise generalizing state with
  | empty => simp [read_empty, names]
  | char char rest plain ih =>
    rw [read_char _ _ _ plain]
    exact ih (after state char)
  | cast rest ih =>
    rw [read_cast]
    exact ih state
  | colon rest lone ih =>
    rw [read_lone _ _ _ lone]
    exact ih state
  | name first rest starts whole behind =>
    cases quoted : inside state with
    | true =>
      rw [read_inside _ _ quoted]
      exact whole state
    | false =>
      rw [read_name _ _ quoted starts]
      rintro name (_ | ⟨_, member⟩)
      · refine ⟨by simp [starts], ?_⟩
        intro char member
        rcases List.mem_cons.mp (String.toList_ofList ▸ member) with rfl | later
        · exact inName_of_startsName starts
        · exact List.mem_takeWhile_imp later
      · exact behind state name member

/-! What a reader finds in a list of assignments. -/

/-- A text without colons is read as it is. -/
theorem read_append {text : List Char} (colonless : ':' ∉ text) (state : σ)
    (behind : List Char) : read inside after state (text ++ behind) =
      text.map .char ++ read inside after (text.foldl after state) behind := by
  induction text generalizing state with
  | nil => rfl
  | cons char text ih =>
    obtain ⟨other, rest⟩ := List.ne_and_not_mem_of_not_mem_cons colonless
    rw [List.cons_append, read_char _ _ _ (Ne.symm other), ih rest]
    rfl

theorem names_chars_append (text : List Char) (rest : List Piece) :
    names (text.map .char ++ rest) = names rest := by
  induction text with
  | nil => rfl
  | cons char text ih => exact ih

theorem names_read_append {text : List Char} (colonless : ':' ∉ text) (state : σ)
    (behind : List Char) : names (read inside after state (text ++ behind)) =
      names (read inside after (text.foldl after state) behind) := by
  rw [read_append _ _ colonless, names_chars_append]

/-- One assignment gives a reader at most one name, and that is how its column begins. -/
theorem names_namedAssignment {column : String} (colonless : ':' ∉ column.toList)
    {behind : List Char} (comma : ∀ next ∈ behind.head?, next = ',') (state : σ) :
    ∃ later found,
      names (read inside after state ((namedAssignment column).toList ++ behind)) =
        found ++ names (read inside after later behind) ∧
      (found = [] ∨ ∃ name, found = [name] ∧ name.toList <+: column.toList) := by
  have sign : " = :".toList = [' ', '=', ' '] ++ [':'] := by decide
  have front : ':' ∉ column.toList ++ [' ', '=', ' '] := by
    simp [colonless]
  have whole : (namedAssignment column).toList ++ behind =
      (column.toList ++ [' ', '=', ' ']) ++ (':' :: (column.toList ++ behind)) := by
    simp [namedAssignment, sign]
  rw [whole, names_read_append _ _ front]
  generalize (column.toList ++ [' ', '=', ' ']).foldl after state = there
  -- What follows the colon is characters only, except where the column begins like a name.
  cases quoted : inside there with
  | true =>
    rw [read_inside _ _ quoted, names, names_read_append _ _ colonless]
    exact ⟨_, [], rfl, Or.inl rfl⟩
  | false =>
    cases chars : column.toList with
    | nil =>
      have lone : Lone behind := by
        intro next member
        rw [comma next member]
        decide
      rw [List.nil_append, read_lone _ _ _ lone, names]
      exact ⟨there, [], rfl, Or.inl rfl⟩
    | cons first rest =>
      rw [chars] at colonless
      obtain ⟨other, rest_colonless⟩ := List.ne_and_not_mem_of_not_mem_cons colonless
      cases starts : startsName first with
      | false =>
        have lone : Lone (first :: rest ++ behind) := by
          rintro next ⟨⟩
          exact ⟨Ne.symm other, starts⟩
        rw [read_lone _ _ _ lone, names, names_read_append _ _ colonless]
        exact ⟨_, [], rfl, Or.inl rfl⟩
      | true =>
        have stop : Text.Stops inName behind := by
          intro next member
          rw [comma next member]
          decide
        have left : ':' ∉ rest.dropWhile inName := fun member =>
          rest_colonless ((List.dropWhile_sublist inName).mem member)
        obtain ⟨taken, dropped⟩ := run_append_of_stops stop rest
        rw [List.cons_append, read_name _ _ quoted starts, names, taken, dropped,
          names_read_append _ _ left]
        refine ⟨_, [_], rfl, Or.inr ⟨_, rfl, ?_⟩⟩
        rw [String.toList_ofList]
        exact List.prefix_cons_inj _ |>.mpr (List.takeWhile_prefix inName)

end Counts

/-! Lists of assignments. -/

/-- What is written behind the first of some columns. -/
def listed (write : String → String) : List String → List Char
  | [] => []
  | column :: rest => ',' :: ' ' :: ((write column).toList ++ listed write rest)

theorem toList_commaList_map (write : String → String) (first : String) (rest : List String) :
    (Text.commaList ((first :: rest).map write)).toList =
      (write first).toList ++ listed write rest := by
  induction rest generalizing first with
  | nil => simp [Text.commaList, Text.join, listed]
  | cons next rest ih =>
    rw [List.map_cons, List.map_cons, toList_commaList_cons, ← List.map_cons, ih next]
    rfl

theorem comma_of_head?_listed {write : String → String} (columns : List String) :
    ∀ next ∈ (listed write columns).head?, next = ',' := by
  cases columns with
  | nil => nofun
  | cons column rest =>
    rintro next ⟨⟩
    rfl

theorem length_namedAssignment (column : String) :
    (namedAssignment column).toList.length =
      (assignment column).toList.length + column.toList.length := by
  have named : " = :".toList.length = " = ?".toList.length := by decide
  simp only [namedAssignment, assignment, String.toList_append, List.length_append, named]

/-- Written with names, every column has its characters a second time. -/
theorem length_listed (columns : List String) :
    (listed namedAssignment columns).length =
      (listed assignment columns).length + (characters columns).length := by
  induction columns with
  | nil => rfl
  | cons column rest ih =>
    simp only [listed, length_namedAssignment, List.length_cons, List.length_append,
      characters_cons, ih]
    omega

theorem count_colon_assignment (column : String) :
    (assignment column).toList.count ':' = column.toList.count ':' := by
  have marked : " = ?".toList.count ':' = 0 := by decide
  rw [assignment, String.toList_append, List.count_append, marked, Nat.add_zero]

theorem count_colon_namedAssignment (column : String) :
    (namedAssignment column).toList.count ':' = 2 * column.toList.count ':' + 1 := by
  have named : " = :".toList.count ':' = 1 := by decide
  simp only [namedAssignment, String.toList_append, List.count_append, named]
  omega

theorem count_colon_listed (columns : List String) :
    (listed assignment columns).count ':' = (characters columns).count ':' ∧
      (listed namedAssignment columns).count ':' =
        2 * (characters columns).count ':' + columns.length := by
  induction columns with
  | nil => exact ⟨rfl, rfl⟩
  | cons column rest ih =>
    have comma : ',' ≠ ':' := by decide
    have blank : ' ' ≠ ':' := by decide
    simp only [listed, List.count_cons_of_ne comma, List.count_cons_of_ne blank,
      List.count_append, count_colon_assignment, count_colon_namedAssignment, ih.1, ih.2,
      characters_cons, List.length_cons, true_and]
    omega

/-- Names that begin some of the columns, in their order. -/
def Begin (found columns : List String) : Prop :=
  List.SublistForall₂ (fun name column => name.toList <+: column.toList) found columns

section Columns

variable {σ : Type} (inside : σ → Bool) (after : σ → Char → σ)

theorem begin_cons {column : String} {rest : List String} (colonless : ':' ∉ column.toList)
    (behind : ∀ state, Begin (names (read inside after state (listed namedAssignment rest))) rest)
    (state : σ) :
    Begin (names (read inside after state
      ((namedAssignment column).toList ++ listed namedAssignment rest))) (column :: rest) := by
  obtain ⟨later, found, read, empty | ⟨name, single, begins⟩⟩ :=
    names_namedAssignment inside after colonless (comma_of_head?_listed rest) state
  · rw [read, empty]
    exact .cons_right (behind later)
  · rw [read, single]
    exact .cons begins (behind later)

theorem begin_listed {columns : List String}
    (colonless : ∀ column ∈ columns, ':' ∉ column.toList) (state : σ) :
    Begin (names (read inside after state (listed namedAssignment columns))) columns := by
  induction columns generalizing state with
  | nil =>
    rw [listed, read_empty]
    exact .nil
  | cons column rest ih =>
    have comma : ':' ∉ [',', ' '] := by decide
    have apart : listed namedAssignment (column :: rest) =
        [',', ' '] ++ ((namedAssignment column).toList ++ listed namedAssignment rest) := rfl
    rw [apart, names_read_append _ _ comma]
    exact begin_cons inside after (colonless column List.mem_cons_self)
      (ih fun other member => colonless other (List.mem_cons_of_mem column member)) _

end Columns

theorem length_characters_le {found columns : List String}
    (each : List.Forall₂ (fun name column => name.toList <+: column.toList) found columns) :
    (characters found).length ≤ (characters columns).length := by
  induction each with
  | nil => exact Nat.le_refl 0
  | cons begins _ ih =>
    rw [characters_cons, characters_cons, List.length_append, List.length_append]
    exact Nat.add_le_add begins.length_le ih

/-- Names that begin columns, one for each, and are together as long are these columns. -/
theorem eq_of_begin {found columns : List String} (begins : Begin found columns)
    (count : found.length = columns.length)
    (length : (characters found).length = (characters columns).length) : found = columns := by
  obtain ⟨chosen, each, sublist⟩ := List.sublistForall₂_iff.mp begins
  obtain rfl := sublist.eq_of_length (each.length_eq.symm.trans count)
  clear begins sublist count
  induction each with
  | nil => rfl
  | @cons name column found columns begins each ih =>
    have first := begins.length_le
    have rest := length_characters_le each
    rw [characters_cons, characters_cons, List.length_append, List.length_append] at length
    rw [String.toList_injective (begins.eq_of_length (by omega)), ih (by omega)]

/-- Where assignments read as they should, and with one name for each column, these names are the
columns: a colon in a column would be missing from the text, and a name that breaks off leaves the
text longer than it should be. -/
theorem names_eq_columns {columns : List String}
    (text : marked (pieces false (Text.commaList (columns.map namedAssignment)).toList) =
      (Text.commaList (columns.map assignment)).toList)
    (count : (names (pieces false (Text.commaList (columns.map namedAssignment)).toList)).length =
      columns.length) :
    names (pieces false (Text.commaList (columns.map namedAssignment)).toList) = columns := by
  cases columns with
  | nil => exact List.length_eq_zero_iff.mp count
  | cons first rest =>
    rw [toList_commaList_map, pieces_eq_read] at text count ⊢
    rw [toList_commaList_map] at text
    have taken := count_colon_read id quotedAfter false
      ((namedAssignment first).toList ++ listed namedAssignment rest)
    have left := length_read id quotedAfter false
      ((namedAssignment first).toList ++ listed namedAssignment rest)
    rw [text, count] at taken
    rw [text] at left
    have absent : (characters (first :: rest)).count ':' = 0 := by
      have apart := count_colon_listed rest
      simp only [List.count_append, count_colon_assignment, count_colon_namedAssignment, apart.1,
        apart.2, List.length_cons] at taken
      rw [characters_cons, List.count_append]
      omega
    have colonless : ∀ column ∈ first :: rest, ':' ∉ column.toList := fun column member colon =>
      List.count_eq_zero.mp absent (List.mem_flatMap_of_mem member colon)
    refine eq_of_begin (begin_cons id quotedAfter (colonless first List.mem_cons_self)
      (begin_listed id quotedAfter fun other member => ?_) false) count ?_
    · exact colonless other (List.mem_cons_of_mem first member)
    · have longer := length_listed rest
      have again := length_namedAssignment first
      simp only [List.length_append, longer, again] at left
      rw [characters_cons, List.length_append]
      omega

/-- Assignments of identifiers are read with their columns as names. -/
theorem read_assignments {columns : List String}
    (identifiers : ∀ column ∈ columns, Identifier column) :
    marked (pieces false (Text.commaList (columns.map namedAssignment)).toList) =
        (Text.commaList (columns.map assignment)).toList ∧
      names (pieces false (Text.commaList (columns.map namedAssignment)).toList) = columns := by
  generalize found : names (pieces false
    (Text.commaList (columns.map namedAssignment)).toList) = read
  -- Binding every name to a value that tells it shows what is read.
  have bound : bind (fun name => some (.text name))
      (pieces false (Text.commaList (columns.map namedAssignment)).toList) =
        .ok (marked (pieces false (Text.commaList (columns.map namedAssignment)).toList),
          read.map Value.text) :=
    bind_eq_ok_iff.mpr ⟨rfl, by rw [found, List.map_map]; rfl⟩
  obtain ⟨text, values⟩ := bind_assignments identifiers bound
  have told : Function.Injective fun name => some (Value.text name) := fun _ _ same =>
    Value.text.inj (Option.some.inj same)
  rw [List.map_map] at values
  exact ⟨text, (told.list_map values).symm⟩

theorem compileRecord_eq_ok_iff {fields : Fields} (distinct : fields.columns.Nodup) :
    compileRecord (Text.commaList (fields.columns.map namedAssignment)) fields =
        .ok (Text.commaList (fields.columns.map assignment), fields.values) ↔
      ∀ column ∈ fields.columns, Identifier column := by
  rw [compileRecord, compile_eq_ok_iff]
  constructor
  · rintro ⟨text, asked⟩
    have count := congrArg List.length asked
    rw [List.length_map, List.length_map, Fields.values, List.length_map,
      ← List.length_map (f := Prod.fst)] at count
    have found := names_eq_columns (by rw [text, String.toList_ofList]) count
    rw [← found, pieces_eq_read]
    exact identifier_of_mem_names id quotedAfter false _
  · intro identifiers
    obtain ⟨text, found⟩ := read_assignments identifiers
    rw [text, found, String.ofList_toList]
    exact ⟨rfl, Fields.map_find?_columns distinct⟩

end Placeholder

namespace Query

open Placeholder

variable {query : Query} {data : Entries Value}

theorem updateStatement_eq (table : query.table ≠ "") (sound : query.fault? = none)
    (filled : data ≠ []) : query.updateStatement data [] =
      (compileRecord (Text.commaList ((Fields.columns data).map namedAssignment)) data).map
        fun bound => query.updateWith bound.1 bound.2 := by
  have columns : (Fields.columns data).isEmpty = false := by
    simpa [Fields.columns] using filled
  have target := requireTarget_of_sound table sound "update"
  simp only [updateStatement, target, List.isEmpty_nil, if_true, columns]
  rfl

theorem updateMapStatement_eq (table : query.table ≠ "") (sound : query.fault? = none)
    (filled : data ≠ []) : query.updateMapStatement data =
      .ok (query.updateWith (Text.commaList ((Fields.columns data).map assignment))
        (Fields.values data)) := by
  have entries : data.isEmpty = false := by simpa using filled
  have target := requireTarget_of_sound table sound "update"
  simp only [updateMapStatement, target, entries, Fields.columns, List.map_map]
  rfl

theorem updateWith_inj {first second : String} {args values : List Value}
    (same : query.updateWith first args = query.updateWith second values) :
    first = second ∧ args = values := by
  obtain ⟨text, held⟩ := Statement.mk.inj same
  have chars := congrArg String.toList text
  simp only [String.toList_append, List.append_cancel_right_eq, List.append_cancel_left_eq]
    at chars
  exact ⟨String.toList_injective chars, List.append_cancel_right held⟩

/-- Updating from a record and updating from a map make the same statement, and so the same calls,
exactly where every column is an identifier: only then does the name that is written behind the
colon come back whole. -/
theorem update_eq_updateMap_iff_identifiers (query : Query) (data : Entries Value)
    (table : query.table ≠ "") (sound : query.fault? = none) (filled : data ≠ [])
    (distinct : (Fields.columns data).Nodup) :
    (query.updateStatement data [] = query.updateMapStatement data ↔
      ∀ column ∈ Fields.columns data, Identifier column) ∧
    ((∀ column ∈ Fields.columns data, Identifier column) →
      ∀ (σ : Type) [Backend σ] (context : Context),
        (query.update context data [] : Task σ UInt64) = query.updateMap context data) := by
  have agree : query.updateStatement data [] = query.updateMapStatement data ↔
      ∀ column ∈ Fields.columns data, Identifier column := by
    rw [← compileRecord_eq_ok_iff distinct, updateStatement_eq table sound filled,
      updateMapStatement_eq table sound filled]
    constructor
    · intro same
      cases compiled : compileRecord _ data with
      | error error =>
        rw [compiled] at same
        cases same
      | ok bound =>
        rw [compiled] at same
        obtain ⟨text, args⟩ := updateWith_inj (Except.ok.inj same)
        rw [← text, ← args]
    · intro compiled
      rw [compiled]
      rfl
  refine ⟨agree, ?_⟩
  intro identifiers σ _ context
  exact congrArg (query.affected context) (agree.mpr identifiers)

theorem update_eq_updateMap_iff_identifiers_users :
    ((Query.new ⟨.pool, .mySql⟩ "users").orWhere "team = ':name'" []).updateStatement
        [("age", .int 30), ("name_2", .text "x")] [] =
      ((Query.new ⟨.pool, .mySql⟩ "users").orWhere "team = ':name'" []).updateMapStatement
        [("age", .int 30), ("name_2", .text "x")] :=
  (update_eq_updateMap_iff_identifiers _ _ (by decide) (by decide) (by decide) (by decide)).1.mpr
    (by decide)

/-- A qualified column is asked for by the name of its table, and a quoted one not at all. -/
theorem qualified_column_is_not_bound :
    (Query.new ⟨.pool, .mySql⟩ "users").updateMapStatement [("users.name", .text "x")] =
        .ok ⟨"UPDATE users SET users.name = ?", [.text "x"]⟩ ∧
      (Query.new ⟨.pool, .mySql⟩ "users").updateStatement [("users.name", .text "x")] [] =
        .error (.validation (.unboundName "users")) ∧
      (Query.new ⟨.pool, .mySql⟩ "users").updateMapStatement [("\"name\"", .text "x")] =
        .ok ⟨"UPDATE users SET \"name\" = ?", [.text "x"]⟩ ∧
      (Query.new ⟨.pool, .mySql⟩ "users").updateStatement [("\"name\"", .text "x")] [] =
        .ok ⟨"UPDATE users SET \"name\" = :\"name\"", []⟩ := by
  refine ⟨by decide, by decide +kernel, by decide, by decide +kernel⟩

end Query
end FluentSql
