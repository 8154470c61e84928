import FluentSql.Entries
import FluentSql.Placeholder.Named
import FluentSql.Proofs.Placeholder.Spread
import FluentSql.Proofs.Text.Digits

/-! Named placeholders of assignments. Where every name is an identifier, each assignment asks for
the value of its own column and the columns are asked for in order. -/
namespace FluentSql.Placeholder

/-- A letter or an underscore, and then letters, digits and underscores. -/
def Identifier (name : String) : Prop :=
  name.toList.head?.any startsName = true ∧ ∀ char ∈ name.toList, inName char = true

instance (name : String) : Decidable (Identifier name) :=
  have := List.decidableBAll (fun char => inName char = true) name.toList
  inferInstanceAs (Decidable (_ ∧ ∀ char ∈ name.toList, inName char = true))

/-- Neither a quotation mark nor a colon. -/
def Unnamed (text : List Char) : Prop := ∀ char ∈ text, char ≠ '\'' ∧ char ≠ ':'

instance (text : List Char) : Decidable (Unnamed text) :=
  List.decidableBAll (fun char => char ≠ '\'' ∧ char ≠ ':') text

theorem ne_of_inName {char mark : Char} (named : inName char = true)
    (unnamed : inName mark = false) :
    char ≠ mark := by
  intro same
  subst char
  rw [unnamed] at named
  cases named

theorem Identifier.inert {name : String} (identifier : Identifier name) : Inert name := by
  apply inert_of_plain
  intro char member
  have named := identifier.2 char member
  exact ⟨ne_of_inName named (by decide), ne_of_inName named (by decide),
    ne_of_inName named (by decide)⟩

theorem Identifier.unnamed {name : String} (identifier : Identifier name) :
    Unnamed name.toList := by
  intro char member
  have named := identifier.2 char member
  exact ⟨ne_of_inName named (by decide), ne_of_inName named (by decide)⟩

theorem Identifier.begins {name : String} (identifier : Identifier name) :
    ∃ first rest, name.toList = first :: rest ∧ startsName first = true ∧
      ∀ char ∈ rest, inName char = true := by
  obtain ⟨begins, named⟩ := identifier
  cases chars : name.toList with
  | nil => simp [chars] at begins
  | cons first rest =>
    rw [chars] at begins named
    have inside (char : Char) (member : char ∈ rest) : inName char = true :=
      named char (List.mem_cons_of_mem first member)
    exact ⟨first, rest, rfl, begins, inside⟩

theorem pieces_unnamed {text : List Char} (unnamed : Unnamed text) (rest : List Char) :
    pieces false (text ++ rest) = text.map .char ++ pieces false rest := by
  induction text with
  | nil => rfl
  | cons char text ih =>
    obtain ⟨unquoted, uncoloned⟩ := unnamed char List.mem_cons_self
    have tail := ih fun other member => unnamed other (List.mem_cons_of_mem char member)
    rw [List.cons_append, pieces.eq_def]
    simp [unquoted, uncoloned, tail]

/-- A colon before an identifier makes one placeholder of it. -/
theorem pieces_name {name : String} (identifier : Identifier name) {after : List Char}
    (stop : Text.Stops inName after) :
    pieces false (':' :: (name.toList ++ after)) = .name name :: pieces false after := by
  obtain ⟨first, rest, chars, starts, continues⟩ := identifier.begins
  obtain ⟨taken, dropped⟩ := Text.run_append continues stop
  have uncoloned : first ≠ ':' := by
    intro same
    subst first
    exact absurd starts (by decide)
  have whole : name = String.ofList (first :: rest) := by rw [← chars, String.ofList_toList]
  rw [chars, List.cons_append, pieces]
  simp [uncoloned, starts, taken, dropped, whole]

theorem bind_chars {lookup : String → Option Value} {text whole : List Char} {rest : List Piece}
    {args : List Value} (bound : bind lookup (text.map .char ++ rest) = .ok (whole, args)) :
    ∃ behind, whole = text ++ behind ∧ bind lookup rest = .ok (behind, args) := by
  induction text generalizing whole with
  | nil => exact ⟨whole, rfl, bound⟩
  | cons char text ih =>
    simp only [List.map_cons, List.cons_append, bind] at bound
    cases inner : bind lookup (text.map .char ++ rest) with
    | error error =>
      rw [inner] at bound
      cases bound
    | ok result =>
      rw [inner] at bound
      cases bound
      obtain ⟨behind, text_eq, behind_eq⟩ := ih inner
      exact ⟨behind, congrArg (List.cons char) text_eq, behind_eq⟩

theorem bind_name {lookup : String → Option Value} {name : String} {whole : List Char}
    {rest : List Piece} {args : List Value}
    (bound : bind lookup (.name name :: rest) = .ok (whole, args)) :
    ∃ value behind more, lookup name = some value ∧ whole = '?' :: behind ∧ args = value :: more ∧
      bind lookup rest = .ok (behind, more) := by
  cases found : lookup name with
  | none => simp [bind, found] at bound
  | some value =>
    cases inner : bind lookup rest with
    | error error =>
      simp only [bind, found, inner] at bound
      cases bound
    | ok result =>
      simp only [bind, found, inner] at bound
      cases bound
      exact ⟨value, result.1, result.2, rfl, rfl, rfl, rfl⟩

/-- An assignment that asks for the value of its column by name. -/
def namedAssignment (column : String) : String := column ++ " = :" ++ column

/-- An assignment with a positional placeholder. -/
def assignment (column : String) : String := column ++ " = ?"

/-- Binding an assignment takes the value of its column, and then goes on behind it. -/
theorem bind_assignment {lookup : String → Option Value} {column : String}
    (identifier : Identifier column) {after text : List Char} {args : List Value}
    (stop : Text.Stops inName after)
    (bound : bind lookup (pieces false ((namedAssignment column).toList ++ after)) =
      .ok (text, args)) :
    ∃ value behind more, lookup column = some value ∧ args = value :: more ∧
      text = (assignment column).toList ++ behind ∧
      bind lookup (pieces false after) = .ok (behind, more) := by
  have sign : " = :".toList = [' ', '=', ' '] ++ [':'] := by decide
  have plain : Unnamed [' ', '=', ' '] := by decide
  have mark : (assignment column).toList = column.toList ++ ([' ', '=', ' '] ++ ['?']) := by
    have shown : " = ?".toList = [' ', '=', ' '] ++ ['?'] := by decide
    rw [assignment, String.toList_append, shown]
  have scanned : pieces false ((namedAssignment column).toList ++ after) =
      column.toList.map .char ++ ([' ', '=', ' '].map .char ++
        (.name column :: pieces false after)) := by
    rw [← pieces_name identifier stop, ← pieces_unnamed plain, ← pieces_unnamed identifier.unnamed]
    simp only [namedAssignment, String.toList_append, sign, List.append_assoc, List.cons_append,
      List.nil_append]
  rw [scanned] at bound
  obtain ⟨signed, rfl, inner⟩ := bind_chars bound
  obtain ⟨marked, rfl, named⟩ := bind_chars inner
  obtain ⟨value, behind, more, found, rfl, rfl, rest⟩ := bind_name named
  refine ⟨value, behind, more, found, rfl, ?_, rest⟩
  rw [mark]
  simp only [List.append_assoc, List.cons_append, List.nil_append]

theorem toList_commaList_cons (first next : String) (rest : List String) :
    (Text.commaList (first :: next :: rest)).toList =
      first.toList ++ ([',', ' '] ++ (Text.commaList (next :: rest)).toList) := by
  have comma : ", ".toList = [',', ' '] := by decide
  simp only [Text.commaList, Text.join, String.toList_append, comma, List.append_assoc]

/-- What the assignments of some columns bind are the values of these columns in their order. -/
theorem bind_assignments {lookup : String → Option Value} {columns : List String}
    (identifiers : ∀ column ∈ columns, Identifier column) {text : List Char} {args : List Value}
    (bound : bind lookup (pieces false (Text.commaList (columns.map namedAssignment)).toList) =
      .ok (text, args)) :
    text = (Text.commaList (columns.map assignment)).toList ∧
      columns.map lookup = args.map some := by
  induction columns generalizing text args with
  | nil =>
    have empty : (Text.commaList []).toList = [] := by decide
    rw [List.map_nil, empty, pieces.eq_def] at bound
    simp only [bind, Except.ok.injEq, Prod.mk.injEq] at bound
    obtain ⟨rfl, rfl⟩ := bound
    exact ⟨empty.symm, rfl⟩
  | cons column columns ih =>
    have identifier := identifiers column List.mem_cons_self
    have others := fun other member => identifiers other (List.mem_cons_of_mem column member)
    cases columns with
    | nil =>
      have single : (Text.commaList ([column].map namedAssignment)).toList =
          (namedAssignment column).toList ++ [] := by
        rw [List.append_nil]
        rfl
      rw [single] at bound
      obtain ⟨value, behind, more, found, rfl, rfl, rest⟩ :=
        bind_assignment identifier (Text.stops_nil inName) bound
      rw [pieces.eq_def] at rest
      simp only [bind, Except.ok.injEq, Prod.mk.injEq] at rest
      obtain ⟨rfl, rfl⟩ := rest
      exact ⟨List.append_nil _, by simp [found]⟩
    | cons next columns =>
      have plain : Unnamed [',', ' '] := by decide
      have stop : Text.Stops inName
          ([',', ' '] ++ (Text.commaList ((next :: columns).map namedAssignment)).toList) :=
        Text.stops_cons (by decide) _
      rw [List.map_cons, List.map_cons, toList_commaList_cons] at bound
      obtain ⟨value, behind, more, found, rfl, rfl, rest⟩ := bind_assignment identifier stop bound
      rw [pieces_unnamed plain] at rest
      obtain ⟨following, rfl, tail⟩ := bind_chars rest
      obtain ⟨rfl, values⟩ := ih others tail
      constructor
      · exact (toList_commaList_cons _ _ _).symm
      · rw [List.map_cons, found, values, List.map_cons]

/-- Assignments by name, bound from a record, take the values of its columns. -/
theorem compileRecord_assignments {fields : Fields} {columns : List String}
    (identifiers : ∀ column ∈ columns, Identifier column) {sql : String} {args : List Value}
    (compiled : compileRecord (Text.commaList (columns.map namedAssignment)) fields =
      .ok (sql, args)) :
    sql = Text.commaList (columns.map assignment) ∧
      columns.map (Entries.find? fields) = args.map some := by
  cases bound : bind (Entries.find? fields)
      (pieces false (Text.commaList (columns.map namedAssignment)).toList) with
  | error error =>
    have refused := congrArg (Except.map fun result => (String.ofList result.1, result.2)) bound
    exact absurd (refused.symm.trans compiled) (by simp [Except.map])
  | ok result =>
    have built := congrArg (Except.map fun result => (String.ofList result.1, result.2)) bound
    obtain ⟨texts, values⟩ := Prod.mk.inj (Except.ok.inj (built.symm.trans compiled))
    obtain ⟨text, asked⟩ := bind_assignments identifiers bound
    subst sql args
    refine ⟨?_, asked⟩
    rw [text, String.ofList_toList]

end FluentSql.Placeholder
