import FluentSql.Record

/-! Statements with named placeholders, turned into positional ones. -/
namespace FluentSql.Placeholder

/-- One step of a statement: a character as it is, or a named placeholder. -/
inductive Piece where
  | char (char : Char)
  | name (name : String)
  deriving DecidableEq

def startsName (char : Char) : Bool := char.isAlpha || char = '_'

def inName (char : Char) : Bool := char.isAlphanum || char = '_'

/-- A colon before a name marks a placeholder. Two colons are a cast, and single-quoted text is left
alone. -/
def pieces (quoted : Bool) : List Char → List Piece
  | [] => []
  | char :: rest =>
    if char = '\'' then .char char :: pieces (!quoted) rest
    else if quoted || char ≠ ':' then .char char :: pieces quoted rest
    else
      match rest with
      | [] => [.char ':']
      | next :: after =>
        if next = ':' then .char ':' :: .char ':' :: pieces quoted after
        else if startsName next then
          have : (after.dropWhile inName).length ≤ after.length :=
            (List.dropWhile_sublist inName).length_le
          .name (String.ofList (next :: after.takeWhile inName)) ::
            pieces quoted (after.dropWhile inName)
        else .char ':' :: pieces quoted (next :: after)
termination_by text => text.length
decreasing_by all_goals simp_all; all_goals omega

/-- The names in order of appearance, up to and with the first that has no value. -/
def asked (lookup : String → Option Value) : List Piece → List String
  | [] => []
  | .char _ :: rest => asked lookup rest
  | .name name :: rest =>
    match lookup name with
    | some _ => name :: asked lookup rest
    | none => [name]

/-- Positional text and its arguments; a name without a value is refused. -/
def bind (lookup : String → Option Value) : List Piece → Except Error (List Char × List Value)
  | [] => .ok ([], [])
  | .char char :: rest => do
    let (text, args) ← bind lookup rest
    pure (char :: text, args)
  | .name name :: rest =>
    match lookup name with
    | none => .error (.validation (.unboundName name))
    | some value => do
      let (text, args) ← bind lookup rest
      pure ('?' :: text, value :: args)

def compile (lookup : String → Option Value) (sql : String) : Except Error (String × List Value) :=
  (bind lookup (pieces false sql.toList)).map fun result => (String.ofList result.1, result.2)

/-- Bind names from the fields of a record; of equal columns the first counts. -/
def compileRecord (sql : String) (fields : Fields) : Except Error (String × List Value) :=
  compile (fun name => (fields.find? fun field => field.1 == name).map Prod.snd) sql

end FluentSql.Placeholder
