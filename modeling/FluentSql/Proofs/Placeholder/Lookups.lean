import FluentSql.Proofs.Placeholder.Places

/-! The lookups that a named statement makes. A lookup may change with every name that it is asked
for, so what comes of a statement is told together with the calls: names in order, each with its
answer, and none behind the first without one. -/
namespace FluentSql.Placeholder

/-- A name that was asked for, and the answer. -/
abbrev Consultation := String × Option Value

section Stateful

variable {σ : Type}

/-- Binding with a lookup that has a state. -/
def bindFrom (lookup : σ → String → Option Value × σ) (state : σ) :
    List Piece → Except Error (List Char × List Value) × σ
  | [] => (.ok ([], []), state)
  | .char char :: rest =>
    let (bound, after) := bindFrom lookup state rest
    (bound.map fun (text, args) => (char :: text, args), after)
  | .name name :: rest =>
    match lookup state name with
    | (none, after) => (.error (.validation (.unboundName name)), after)
    | (some value, after) =>
      let (bound, last) := bindFrom lookup after rest
      (bound.map fun (text, args) => ('?' :: text, value :: args), last)

def compileFrom (lookup : σ → String → Option Value × σ) (state : σ) (sql : String) :
    Except Error (String × List Value) × σ :=
  let (bound, after) := bindFrom lookup state (pieces false sql.toList)
  (bound.map fun (text, args) => (String.ofList text, args), after)

/-- A lookup that answers every time alike. -/
def steady (lookup : String → Option Value) : Unit → String → Option Value × Unit :=
  fun _ name => (lookup name, ())

/-- A lookup with a record of its calls. -/
def noting (lookup : σ → String → Option Value × σ) :
    σ × List Consultation → String → Option Value × (σ × List Consultation) :=
  fun (state, calls) name =>
    let (answer?, after) := lookup state name
    (answer?, after, calls ++ [(name, answer?)])

/-- What the calls of a lookup and the result have to do with the pieces of a statement. -/
inductive Consulted : List Piece → List Consultation → Except Error (List Char × List Value) → Prop
  | done : Consulted [] [] (.ok ([], []))
  | char (char : Char) (behind : Consulted rest calls bound) :
    Consulted (.char char :: rest) calls (bound.map fun (text, args) => (char :: text, args))
  | found (name : String) (value : Value) (behind : Consulted rest calls bound) :
    Consulted (.name name :: rest) ((name, some value) :: calls)
      (bound.map fun (text, args) => ('?' :: text, value :: args))
  | lost (name : String) (rest : List Piece) :
    Consulted (.name name :: rest) [(name, none)] (.error (.validation (.unboundName name)))

/-- A record of the calls changes nothing else, and binding makes them as it should. -/
theorem bindFrom_noting (lookup : σ → String → Option Value × σ) (state : σ)
    (calls : List Consultation) (read : List Piece) :
    ∃ more, bindFrom (noting lookup) (state, calls) read =
        ((bindFrom lookup state read).1, (bindFrom lookup state read).2, calls ++ more) ∧
      Consulted read more (bindFrom lookup state read).1 := by
  induction read generalizing state calls with
  | nil => exact ⟨[], by simp [bindFrom], .done⟩
  | cons piece rest ih =>
    cases piece with
    | char char =>
      obtain ⟨more, same, told⟩ := ih state calls
      exact ⟨more, by simp only [bindFrom, same], .char char told⟩
    | name name =>
      cases found : lookup state name with
      | mk answer? after =>
        cases answer? with
        | none =>
          refine ⟨[(name, none)], by simp only [bindFrom, noting, found], ?_⟩
          simp only [bindFrom, found]
          exact .lost name rest
        | some value =>
          obtain ⟨more, same, told⟩ := ih after (calls ++ [(name, some value)])
          refine ⟨(name, some value) :: more, ?_, ?_⟩
          · simp only [bindFrom, noting, found, same, List.append_assoc, List.singleton_append]
          · simp only [bindFrom, found]
            exact .found name value told

end Stateful

/-- A lookup without a state binds as it does with one, and is asked for the names up to and with
the first that has no value. -/
theorem bindFrom_steady (lookup : String → Option Value) (calls : List Consultation)
    (read : List Piece) :
    bindFrom (noting (steady lookup)) ((), calls) read =
      (bind lookup read, (), calls ++ (asked lookup read).map fun name => (name, lookup name)) := by
  induction read generalizing calls with
  | nil => simp [bindFrom, bind, asked]
  | cons piece rest ih =>
    cases piece with
    | char char =>
      simp only [bindFrom, ih, bind, asked]
      cases bind lookup rest <;> rfl
    | name name =>
      cases found : lookup name with
      | none => simp [bindFrom, noting, steady, bind, asked, found]
      | some value =>
        simp only [bindFrom, noting, steady, bind, asked, found, ih, List.map_cons,
          List.append_assoc, List.singleton_append]
        cases bind lookup rest <;> rfl

namespace Consulted

variable {read : List Piece} {calls : List Consultation}
  {bound : Except Error (List Char × List Value)}

theorem names_prefix (told : Consulted read calls bound) : calls.map Prod.fst <+: names read := by
  induction told with
  | done => exact List.prefix_rfl
  | char char behind ih => exact ih
  | found name value behind ih => exact List.prefix_cons_inj name |>.mpr ih
  | lost name rest => exact ⟨names rest, rfl⟩

/-- A statement that is bound has had every name answered with its own argument. -/
theorem of_ok (told : Consulted read calls bound) {text : List Char} {args : List Value}
    (done : bound = .ok (text, args)) :
    text = marked read ∧ calls.map Prod.fst = names read ∧
      calls.map Prod.snd = args.map some := by
  induction told generalizing text args with
  | done =>
    cases done
    exact ⟨rfl, rfl, rfl⟩
  | @char _ _ bound char behind ih =>
    cases bound with
    | error error => cases done
    | ok result =>
      cases done
      obtain ⟨texts, asked, answers⟩ := ih rfl
      exact ⟨congrArg (List.cons char) texts, asked, answers⟩
  | @found _ _ bound name value behind ih =>
    cases bound with
    | error error => cases done
    | ok result =>
      cases done
      obtain ⟨texts, asked, answers⟩ := ih rfl
      exact ⟨congrArg (List.cons '?') texts, congrArg (List.cons name) asked,
        congrArg (List.cons (some value)) answers⟩
  | lost name rest => cases done

theorem answered_of_answers {args : List Value} (answers : calls.map Prod.snd = args.map some) :
    ∀ call ∈ calls, call.2 ≠ none := by
  intro call member
  have answered : call.2 ∈ calls.map Prod.snd := List.mem_map_of_mem member
  rw [answers] at answered
  obtain ⟨value, _, same⟩ := List.mem_map.mp answered
  rw [← same]
  exact Option.some_ne_none value

/-- A statement that is refused is so for the last name that was asked for, the only one without an
answer. -/
theorem of_error (told : Consulted read calls bound) {error : Error}
    (refused : bound = .error error) :
    ∃ answered name, calls = answered ++ [(name, none)] ∧
      (∀ call ∈ answered, call.2 ≠ none) ∧ error = .validation (.unboundName name) := by
  induction told with
  | done => cases refused
  | @char _ _ bound char behind ih =>
    cases bound with
    | ok result => cases refused
    | error held =>
      cases refused
      exact ih rfl
  | @found _ _ bound name value behind ih =>
    cases bound with
    | ok result => cases refused
    | error held =>
      cases refused
      obtain ⟨answered, last, split, before, same⟩ := ih rfl
      refine ⟨(name, some value) :: answered, last, congrArg _ split, ?_, same⟩
      intro call member
      rcases List.mem_cons.mp member with rfl | behind
      · exact Option.some_ne_none value
      · exact before call behind
  | lost name rest =>
    cases refused
    exact ⟨[], name, rfl, fun _ member => absurd member List.not_mem_nil, rfl⟩

end Consulted

/-! Back from the positional text. -/

/-- The text with a name behind a colon for each question mark, as far as there are names. -/
def restore : List String → List Char → List Char
  | _, [] => []
  | [], char :: rest => char :: restore [] rest
  | name :: names, char :: rest =>
    if char = '?' then ':' :: (name.toList ++ restore names rest)
    else char :: restore (name :: names) rest

theorem restore_char {char : Char} (plain : char ≠ '?') (names : List String)
    (rest : List Char) : restore names (char :: rest) = char :: restore names rest := by
  cases names with
  | nil => rfl
  | cons name names => exact if_neg plain

/-- Where a text has no question marks of its own, there is one for every name in its place. -/
theorem restore_marked {read : List Piece} (unmarked : '?' ∉ written read) :
    (marked read).count '?' = (names read).length ∧
      restore (names read) (marked read) = written read := by
  induction read with
  | nil => exact ⟨rfl, rfl⟩
  | cons piece rest ih =>
    cases piece with
    | char char =>
      obtain ⟨other, behind⟩ := List.ne_and_not_mem_of_not_mem_cons unmarked
      obtain ⟨count, same⟩ := ih behind
      constructor
      · rw [marked, List.count_cons_of_ne (Ne.symm other), names, count]
      · rw [marked, names, written, restore_char (Ne.symm other), same]
    | name name =>
      have behind : '?' ∉ written rest := fun member =>
        unmarked (List.mem_cons_of_mem _ (List.mem_append_right _ member))
      obtain ⟨count, same⟩ := ih behind
      constructor
      · rw [marked, List.count_cons_self, names, count, List.length_cons]
      · rw [marked, names, written, restore, if_pos rfl, same]

/-- What the calls of a lookup tell of a statement and of what it is compiled to. -/
structure Told (sql : String) (calls : List Consultation)
    (compiled : Except Error (String × List Value)) : Prop where
  placed : ∃ found : List Place,
    (found.Pairwise fun place other => place.before.length < other.before.length) ∧
      (∀ place, place ∈ found ↔ place.Marks sql.toList) ∧
      calls.map Prod.fst <+: found.map Place.name ∧
      ∀ result, compiled = .ok result → calls.map Prod.fst = found.map Place.name
  answered : ∀ out args, compiled = .ok (out, args) → calls.map Prod.snd = args.map some
  restored : ∀ out args, compiled = .ok (out, args) → '?' ∉ sql.toList →
    out.toList.count '?' = args.length ∧
      restore (calls.map Prod.fst) out.toList = sql.toList
  refused_iff : (∃ error, compiled = .error error) ↔ ∃ call ∈ calls, call.2 = none
  refused : ∀ error, compiled = .error error →
    ∃ before name, calls = before ++ [(name, none)] ∧ (∀ call ∈ before, call.2 ≠ none) ∧
      error = .validation (.unboundName name)

theorem told_of_consulted {sql : String} {calls : List Consultation}
    {bound : Except Error (List Char × List Value)}
    (consulted : Consulted (pieces false sql.toList) calls bound) :
    Told sql calls (bound.map fun (text, args) => (String.ofList text, args)) := by
  have marks (place : Place) :=
    (mem_places_iff (Scanned.start sql.toList) place).trans place.ahead_nil_iff
  have named := names_places [] (pieces false sql.toList)
  have ordered := pairwise_places [] (pieces false sql.toList)
  cases bound with
  | ok result =>
    obtain ⟨text, asked, answers⟩ := consulted.of_ok rfl
    have count : (names (pieces false sql.toList)).length = result.2.length := by
      rw [← asked, List.length_map, ← List.length_map Prod.snd, answers, List.length_map]
    refine ⟨⟨_, ordered, marks, ?_, ?_⟩, ?_, ?_, ?_, nofun⟩
    · rw [named]
      exact consulted.names_prefix
    · intro _ _
      rw [named, asked]
    · rintro out args ⟨⟩
      exact answers
    · rintro out args ⟨⟩ unmarked
      rw [← written_pieces false sql.toList] at unmarked
      obtain ⟨marked, same⟩ := restore_marked unmarked
      rw [String.toList_ofList, text, asked, same, marked, written_pieces]
      exact ⟨count, rfl⟩
    · constructor
      · nofun
      · rintro ⟨call, member, unanswered⟩
        exact absurd unanswered (Consulted.answered_of_answers answers call member)
  | error error =>
    obtain ⟨before, name, split, answered, reason⟩ := consulted.of_error rfl
    refine ⟨⟨_, ordered, marks, ?_, nofun⟩, nofun, nofun, ?_, ?_⟩
    · rw [named]
      exact consulted.names_prefix
    · constructor
      · intro _
        refine ⟨(name, none), ?_, rfl⟩
        rw [split]
        exact List.mem_append_right _ List.mem_cons_self
      · intro _
        exact ⟨error, rfl⟩
    · rintro _ ⟨⟩
      exact ⟨before, name, split, answered, reason⟩

/-- Compiling by names can be undone, with every lookup. Its calls are for names that stand in the
text in this order, each the longest in its place, outside single-quoted text and behind whole pairs
of colons. When it is done each argument is the answer to its call, and the names put back in the
places of the question marks give the text. It is refused exactly when a name has no value, for the
first such name, and no name behind that is asked for. -/
theorem compiled_names_are_restored {σ : Type} (lookup : σ → String → Option Value × σ) (state : σ)
    (sql : String) :
    (∃ calls, compileFrom (noting lookup) (state, []) sql =
        ((compileFrom lookup state sql).1, (compileFrom lookup state sql).2, calls) ∧
      Told sql calls (compileFrom lookup state sql).1) ∧
    ∀ lookup : String → Option Value, compileFrom (noting (steady lookup)) ((), []) sql =
      (compile lookup sql, (),
        (asked lookup (pieces false sql.toList)).map fun name => (name, lookup name)) := by
  constructor
  · obtain ⟨calls, same, consulted⟩ :=
      bindFrom_noting lookup state [] (pieces false sql.toList)
    refine ⟨calls, ?_, told_of_consulted consulted⟩
    simp only [compileFrom, same, List.nil_append]
  · intro lookup
    simp only [compileFrom, bindFrom_steady, List.nil_append]
    rfl

/-- A lookup that counts its calls, whatever the name. -/
def counter : Int64 → String → Option Value × Int64 := fun calls _ => (some (.int calls), calls + 1)

theorem compiled_names_are_restored_counted :
    restore ["id", "id"] "SELECT ':x', a::text FROM t WHERE id = ? OR up = ?".toList =
      "SELECT ':x', a::text FROM t WHERE id = :id OR up = :id".toList := by
  obtain ⟨⟨calls, noted, told⟩, _⟩ := compiled_names_are_restored counter 0
    "SELECT ':x', a::text FROM t WHERE id = :id OR up = :id"
  have compiled : (compileFrom counter 0
      "SELECT ':x', a::text FROM t WHERE id = :id OR up = :id").1 =
      .ok ("SELECT ':x', a::text FROM t WHERE id = ? OR up = ?", [.int 0, .int 1]) := by
    decide +kernel
  have asked : (compileFrom (noting counter) (0, [])
      "SELECT ':x', a::text FROM t WHERE id = :id OR up = :id").2.2.map Prod.fst =
      ["id", "id"] := by
    decide +kernel
  have restored := (told.restored _ _ compiled (by decide)).2
  rw [noted] at asked
  rwa [asked] at restored

end FluentSql.Placeholder
