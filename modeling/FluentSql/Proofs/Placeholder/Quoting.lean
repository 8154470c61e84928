import FluentSql.Proofs.Placeholder.Names
import FluentSql.Proofs.Text.Digits

/-! Named placeholders with their numbers. Names are bound outside single-quoted text, and what they
become is numbered outside spans in either quotation mark. Where both scans read the same names,
every name outside spans becomes the number of its own argument. -/
namespace FluentSql.Placeholder

/-! One reader of names for any notion of quoted text. -/

/-- Nothing that makes a cast or a name of the colon in front of it. -/
def Lone (rest : List Char) : Prop := ∀ next ∈ rest.head?, next ≠ ':' ∧ startsName next = false

/-- A text by its first piece. What stands behind the colon of a name is a text by itself, for a
reader that is inside quotes. -/
theorem piecewise {motive : List Char → Prop} (empty : motive [])
    (char : ∀ char rest, char ≠ ':' → motive rest → motive (char :: rest))
    (cast : ∀ rest, motive rest → motive (':' :: ':' :: rest))
    (colon : ∀ rest, Lone rest → motive rest → motive (':' :: rest))
    (name : ∀ first rest, startsName first = true → motive (first :: rest) →
      motive (rest.dropWhile inName) → motive (':' :: first :: rest))
    (text : List Char) : motive text := by
  induction size : text.length using Nat.strong_induction_on generalizing text with
  | _ size ih =>
    subst size
    have shorter (other : List Char) (less : other.length < text.length) : motive other :=
      ih _ less other rfl
    cases text with
    | nil => exact empty
    | cons first rest =>
      by_cases plain : first ≠ ':'
      · exact char first rest plain (shorter rest (Nat.lt_succ_self _))
      obtain rfl := not_not.mp plain
      cases rest with
      | nil => exact colon [] nofun empty
      | cons next behind =>
        have tail := shorter (next :: behind) (Nat.lt_succ_self _)
        by_cases double : next = ':'
        · subst next
          exact cast behind (shorter behind (by simp only [List.length_cons]; omega))
        cases starts : startsName next with
        | true =>
          have left := (List.dropWhile_sublist inName (l := behind)).length_le
          exact name next behind starts tail
            (shorter _ (by simp only [List.length_cons]; omega))
        | false =>
          refine colon _ ?_ tail
          rintro _ ⟨⟩
          exact ⟨double, starts⟩

section Reading

variable {σ : Type} (inside : σ → Bool) (after : σ → Char → σ)

/-- Characters and names of a text. A colon inside quotes is a character, and no colon opens or
closes them. -/
def read (state : σ) : List Char → List Piece
  | [] => []
  | char :: rest =>
    if char ≠ ':' then .char char :: read (after state char) rest
    else if inside state then .char ':' :: read state rest
    else
      match rest with
      | [] => [.char ':']
      | next :: behind =>
        if next = ':' then .char ':' :: .char ':' :: read state behind
        else if startsName next then
          have : (behind.dropWhile inName).length ≤ behind.length :=
            (List.dropWhile_sublist inName).length_le
          .name (String.ofList (next :: behind.takeWhile inName)) ::
            read state (behind.dropWhile inName)
        else .char ':' :: read state (next :: behind)
termination_by text => text.length
decreasing_by all_goals simp_all; all_goals omega

theorem read_empty (state : σ) : read inside after state [] = [] := by
  rw [read.eq_def]

theorem read_char (state : σ) {char : Char} (plain : char ≠ ':') (rest : List Char) :
    read inside after state (char :: rest) =
      .char char :: read inside after (after state char) rest := by
  rw [read.eq_def]
  simp [plain]

theorem read_inside {state : σ} (quoted : inside state = true) (rest : List Char) :
    read inside after state (':' :: rest) = .char ':' :: read inside after state rest := by
  rw [read.eq_def]
  simp [quoted]

theorem read_cast (state : σ) (rest : List Char) :
    read inside after state (':' :: ':' :: rest) =
      .char ':' :: .char ':' :: read inside after state rest := by
  cases quoted : inside state with
  | true => rw [read_inside inside after quoted, read_inside inside after quoted]
  | false =>
    rw [read.eq_def]
    simp [quoted]

theorem read_lone (state : σ) {rest : List Char} (lone : Lone rest) :
    read inside after state (':' :: rest) = .char ':' :: read inside after state rest := by
  cases quoted : inside state with
  | true => exact read_inside inside after quoted rest
  | false =>
    cases rest with
    | nil =>
      rw [read.eq_def]
      simp [quoted, read_empty]
    | cons next behind =>
      obtain ⟨single, anonymous⟩ := lone next rfl
      rw [read.eq_def]
      simp [quoted, single, anonymous]

theorem read_name {state : σ} (free : inside state = false) {first : Char}
    (starts : startsName first = true) (rest : List Char) :
    read inside after state (':' :: first :: rest) =
      .name (String.ofList (first :: rest.takeWhile inName)) ::
        read inside after state (rest.dropWhile inName) := by
  have single : first ≠ ':' := by
    rintro rfl
    exact absurd starts (by decide)
  rw [read.eq_def]
  simp [free, single, starts]

end Reading

/-- Whether a scan that knows single quotation marks only is inside them behind a character. -/
def quotedAfter (quoted : Bool) (char : Char) : Bool := if char = '\'' then !quoted else quoted

theorem pieces_quoted_colon (rest : List Char) :
    pieces true (':' :: rest) = .char ':' :: pieces true rest := by
  rw [pieces.eq_def]
  simp

/-- Names are bound by a reader that knows single quotation marks only. -/
theorem pieces_eq_read (quoted : Bool) (text : List Char) :
    pieces quoted text = read id quotedAfter quoted text := by
  induction text using piecewise generalizing quoted with
  | empty => rw [pieces.eq_def, read_empty]
  | char char rest plain ih =>
    rw [pieces.eq_def, read_char _ _ _ plain]
    by_cases mark : char = '\''
    · simp [mark, quotedAfter, ih]
    · simp [mark, plain, quotedAfter, ih]
  | cast rest ih =>
    rw [read_cast]
    cases quoted with
    | true => rw [pieces_quoted_colon, pieces_quoted_colon, ih]
    | false =>
      rw [pieces.eq_def]
      simp [ih]
  | colon rest lone ih =>
    rw [read_lone _ _ _ lone]
    cases quoted with
    | true => rw [pieces_quoted_colon, ih]
    | false =>
      rw [pieces.eq_def]
      cases rest with
      | nil => simp [read_empty]
      | cons next behind =>
        obtain ⟨single, anonymous⟩ := lone next rfl
        simp [single, anonymous, ih]
  | name first rest starts whole behind =>
    cases quoted with
    | true => rw [pieces_quoted_colon, read_inside _ _ rfl, whole]
    | false =>
      have single : first ≠ ':' := by
        rintro rfl
        exact absurd starts (by decide)
      rw [pieces.eq_def, read_name _ _ rfl starts]
      simp [single, starts, behind]

/-! What binding and numbering make of the pieces. -/

def names : List Piece → List String
  | [] => []
  | .char _ :: rest => names rest
  | .name name :: rest => name :: names rest

/-- The text with a question mark for every name. -/
def marked : List Piece → List Char
  | [] => []
  | .char char :: rest => char :: marked rest
  | .name _ :: rest => '?' :: marked rest

/-- The text with a dollar sign and a number for every name, counting on from `next`. -/
def dollared (next : Nat) : List Piece → List Char
  | [] => []
  | .char char :: rest => char :: dollared next rest
  | .name _ :: rest => '$' :: (Text.decimalDigits next ++ dollared (next + 1) rest)

/-- Binding puts a question mark for every name and asks for the values of all. -/
theorem bind_eq_ok_iff {lookup : String → Option Value} {read : List Piece} {text : List Char}
    {args : List Value} : bind lookup read = .ok (text, args) ↔
      text = marked read ∧ (names read).map lookup = args.map some := by
  induction read generalizing text args with
  | nil =>
    constructor
    · rintro ⟨⟩
      exact ⟨rfl, rfl⟩
    · rintro ⟨rfl, values⟩
      rw [List.map_eq_nil_iff.mp values.symm]
      rfl
  | cons piece rest ih =>
    cases piece with
    | char char =>
      constructor
      · intro bound
        have split : bind lookup ([char].map .char ++ rest) = .ok (text, args) := bound
        obtain ⟨behind, rfl, found⟩ := bind_chars split
        obtain ⟨rfl, values⟩ := ih.mp found
        exact ⟨rfl, values⟩
      · rintro ⟨rfl, values⟩
        simp only [bind, ih.mpr ⟨rfl, values⟩]
        rfl
    | name name =>
      constructor
      · intro bound
        obtain ⟨value, behind, more, found, rfl, rfl, rest⟩ := bind_name bound
        obtain ⟨rfl, values⟩ := ih.mp rest
        exact ⟨rfl, by simp [names, found, values]⟩
      · rintro ⟨rfl, values⟩
        cases args with
        | nil => simp [names] at values
        | cons value more =>
          simp only [names, List.map_cons, List.cons.injEq] at values
          simp only [bind, values.1, ih.mpr ⟨rfl, values.2⟩]
          rfl

theorem compile_eq_ok_iff {lookup : String → Option Value} {sql out : String} {args : List Value} :
    compile lookup sql = .ok (out, args) ↔
      out = String.ofList (marked (pieces false sql.toList)) ∧
        (names (pieces false sql.toList)).map lookup = args.map some := by
  constructor
  · intro compiled
    cases bound : bind lookup (pieces false sql.toList) with
    | error error =>
      rw [compile, bound] at compiled
      cases compiled
    | ok result =>
      rw [compile, bound] at compiled
      cases compiled
      obtain ⟨text, values⟩ := bind_eq_ok_iff.mp bound
      exact ⟨congrArg String.ofList text, values⟩
  · rintro ⟨rfl, values⟩
    rw [compile, bind_eq_ok_iff.mpr ⟨rfl, values⟩]
    rfl

theorem number_char {char : Char} (plain : char ≠ '?') (next : Nat) (span : Option Char)
    (rest : List Char) :
    number next span (char :: rest) = char :: number next (spanAfter span char) rest := by
  simp [number, plain]

theorem number_mark (next : Nat) (rest : List Char) :
    number next none ('?' :: rest) =
      '$' :: (Text.decimalDigits next ++ number (next + 1) none rest) := by
  simp [number]

/-- Only a quotation mark opens a span. -/
def Opened (span : Option Char) : Prop := ∀ mark ∈ span, mark = '\'' ∨ mark = '"'

theorem opened_none : Opened none := nofun

theorem Opened.after {span : Option Char} (opened : Opened span) (char : Char) :
    Opened (spanAfter span char) := by
  cases span with
  | none =>
    by_cases mark : char = '\'' ∨ char = '"'
    · simp [Opened, spanAfter, mark]
    · simp [Opened, spanAfter, mark]
  | some mark =>
    by_cases closes : char = mark
    · simp [Opened, spanAfter, closes]
    · simpa [Opened, spanAfter, closes] using opened

theorem Opened.after_colon {span : Option Char} (opened : Opened span) :
    spanAfter span ':' = span := by
  cases span with
  | none => rfl
  | some mark =>
    have other : ':' ≠ mark := by
      rcases opened mark rfl with rfl | rfl <;> decide
    simp [spanAfter, other]

/-- The pieces of a text, with the names outside spans in either quotation mark. -/
def piecesOutside (span : Option Char) (text : List Char) : List Piece :=
  read Option.isSome spanAfter span text

/-- Names outside spans are numbered one by one. -/
theorem number_piecesOutside {span : Option Char} (opened : Opened span) {text : List Char}
    (unmarked : '?' ∉ text) (next : Nat) :
    number next span (marked (piecesOutside span text)) =
      dollared next (piecesOutside span text) := by
  have colon : ':' ≠ '?' := by decide
  induction text using piecewise generalizing span next with
  | empty => simp [piecesOutside, read_empty, marked, dollared, number]
  | char char rest plain ih =>
    obtain ⟨other, behind⟩ := List.ne_and_not_mem_of_not_mem_cons unmarked
    rw [piecesOutside, read_char _ _ _ plain, marked, dollared, number_char (Ne.symm other)]
    exact congrArg _ (ih (opened.after char) behind next)
  | cast rest ih =>
    have behind := List.not_mem_of_not_mem_cons (List.not_mem_of_not_mem_cons unmarked)
    rw [piecesOutside, read_cast, marked, marked, dollared, dollared, number_char colon,
      opened.after_colon, number_char colon, opened.after_colon]
    exact congrArg _ (congrArg _ (ih opened behind next))
  | colon rest lone ih =>
    have behind := List.not_mem_of_not_mem_cons unmarked
    rw [piecesOutside, read_lone _ _ _ lone, marked, dollared, number_char colon,
      opened.after_colon]
    exact congrArg _ (ih opened behind next)
  | name first rest starts whole ih =>
    have behind := List.not_mem_of_not_mem_cons unmarked
    cases span with
    | some mark =>
      rw [piecesOutside, read_inside _ _ rfl, marked, dollared, number_char colon,
        opened.after_colon]
      exact congrArg _ (whole opened behind next)
    | none =>
      have left : '?' ∉ rest.dropWhile inName := fun member =>
        behind (List.mem_cons_of_mem first ((List.dropWhile_sublist inName).mem member))
      rw [piecesOutside, read_name _ _ rfl starts, marked, dollared, number_mark]
      exact congrArg _ (congrArg _ (ih opened_none left (next + 1)))

/-- A reader whose names are numbered like those outside spans has read these names. -/
theorem read_eq_piecesOutside {σ : Type} {inside : σ → Bool} {after : σ → Char → σ} {state : σ}
    {span : Option Char} (opened : Opened span) {text : List Char} (unmarked : '?' ∉ text)
    {next : Nat} (same : number next span (marked (read inside after state text)) =
      dollared next (piecesOutside span text)) :
    read inside after state text = piecesOutside span text := by
  have colon : ':' ≠ '?' := by decide
  induction text using piecewise generalizing span state next with
  | empty => rw [piecesOutside, read_empty, read_empty]
  | char char rest plain ih =>
    obtain ⟨other, behind⟩ := List.ne_and_not_mem_of_not_mem_cons unmarked
    simp only [piecesOutside, read_char _ _ _ plain] at same ⊢
    rw [marked, dollared, number_char (Ne.symm other)] at same
    exact congrArg _ (ih (opened.after char) behind (List.cons.inj same).2)
  | cast rest ih =>
    have behind := List.not_mem_of_not_mem_cons (List.not_mem_of_not_mem_cons unmarked)
    simp only [piecesOutside, read_cast] at same ⊢
    rw [marked, marked, dollared, dollared, number_char colon, opened.after_colon,
      number_char colon, opened.after_colon] at same
    exact congrArg _ (congrArg _ (ih opened behind (List.cons.inj (List.cons.inj same).2).2))
  | colon rest lone ih =>
    have behind := List.not_mem_of_not_mem_cons unmarked
    simp only [piecesOutside, read_lone _ _ _ lone] at same ⊢
    rw [marked, dollared, number_char colon, opened.after_colon] at same
    exact congrArg _ (ih opened behind (List.cons.inj same).2)
  | name first rest starts whole ih =>
    have behind := List.not_mem_of_not_mem_cons unmarked
    -- Where only one of the readers is inside quotes, the two texts differ at this place.
    cases quoted : inside state with
    | true =>
      rw [read_inside _ _ quoted, marked, number_char colon, opened.after_colon] at same
      cases span with
      | some mark =>
        rw [piecesOutside, read_inside _ _ rfl, dollared] at same
        rw [read_inside _ _ quoted, piecesOutside, read_inside _ _ rfl]
        exact congrArg _ (whole opened behind (List.cons.inj same).2)
      | none =>
        rw [piecesOutside, read_name _ _ rfl starts, dollared] at same
        exact absurd (List.cons.inj same).1 (by decide)
    | false =>
      rw [read_name _ _ quoted starts, marked] at same
      cases span with
      | some mark =>
        rw [piecesOutside, read_inside _ _ rfl, dollared] at same
        simp [number] at same
      | none =>
        have left : '?' ∉ rest.dropWhile inName := fun member =>
          behind (List.mem_cons_of_mem first ((List.dropWhile_sublist inName).mem member))
        rw [piecesOutside, read_name _ _ rfl starts, dollared, number_mark] at same
        rw [read_name _ _ quoted starts, piecesOutside, read_name _ _ rfl starts]
        exact congrArg _ (ih opened_none left
          (List.append_cancel_left (List.cons.inj same).2))

/-- In spans of double quotation marks stand neither apostrophes nor colons. -/
def Clear (span : Option Char) : List Char → Prop
  | [] => True
  | char :: rest => (span = some '"' → char ≠ '\'' ∧ char ≠ ':') ∧ Clear (spanAfter span char) rest

instance decidableClear (span : Option Char) : (text : List Char) → Decidable (Clear span text)
  | [] => .isTrue trivial
  | char :: rest =>
    have := decidableClear (spanAfter span char) rest
    inferInstanceAs (Decidable ((span = some '"' → char ≠ '\'' ∧ char ≠ ':') ∧ Clear _ rest))

theorem clear_dropWhile {rest : List Char} (clear : Clear none rest) :
    Clear none (rest.dropWhile inName) := by
  induction rest with
  | nil => exact clear
  | cons char rest ih =>
    cases named : inName char with
    | false => simpa [named] using clear
    | true =>
      have closed : spanAfter none char = none := by
        have single : char ≠ '\'' := ne_of_inName named (by decide)
        have double : char ≠ '"' := ne_of_inName named (by decide)
        simp [spanAfter, single, double]
      simpa [named] using ih (closed ▸ clear.2)

theorem quotedAfter_eq {span : Option Char} (opened : Opened span) {char : Char}
    (clear : span = some '"' → char ≠ '\'') :
    quotedAfter (span = some '\'') char = decide (spanAfter span char = some '\'') := by
  cases span with
  | none =>
    by_cases single : char = '\''
    · simp [quotedAfter, spanAfter, single]
    · by_cases double : char = '"' <;> simp [quotedAfter, spanAfter, single, double]
  | some mark =>
    rcases opened mark rfl with rfl | rfl
    · by_cases closes : char = '\'' <;> simp [quotedAfter, spanAfter, closes]
    · by_cases closes : char = '"' <;> simp [quotedAfter, spanAfter, closes, clear rfl]

/-- Where spans of double quotation marks are clear, both readers read the same. -/
theorem read_eq_of_clear {span : Option Char} (opened : Opened span) {text : List Char}
    (clear : Clear span text) :
    read id quotedAfter (decide (span = some '\'')) text = piecesOutside span text := by
  induction text using piecewise generalizing span with
  | empty => rw [piecesOutside, read_empty, read_empty]
  | char char rest plain ih =>
    rw [piecesOutside, read_char _ _ _ plain, read_char _ _ _ plain,
      quotedAfter_eq opened fun double => (clear.1 double).1]
    exact congrArg _ (ih (opened.after char) clear.2)
  | cast rest ih =>
    have behind := clear.2.2
    rw [opened.after_colon, opened.after_colon] at behind
    rw [piecesOutside, read_cast, read_cast]
    exact congrArg _ (congrArg _ (ih opened behind))
  | colon rest lone ih =>
    have behind := clear.2
    rw [opened.after_colon] at behind
    rw [piecesOutside, read_lone _ _ _ lone, read_lone _ _ _ lone]
    exact congrArg _ (ih opened behind)
  | name first rest starts whole ih =>
    have behind := clear.2
    rw [opened.after_colon] at behind
    cases span with
    | none =>
      have named : inName first = true := by
        simp only [startsName, inName, Char.isAlphanum, Bool.or_eq_true] at starts ⊢
        tauto
      have left : Clear none (rest.dropWhile inName) := by
        simpa [named] using clear_dropWhile behind
      rw [piecesOutside, read_name _ _ rfl starts, read_name _ _ rfl starts]
      exact congrArg _ (ih opened_none left)
    | some mark =>
      rcases opened mark rfl with rfl | rfl
      · rw [piecesOutside, read_inside _ _ rfl, read_inside _ _ rfl]
        exact congrArg _ (whole opened behind)
      · exact absurd rfl (clear.1 rfl).2

/-! The numbers of the placeholders, read off the numbered text. -/

/-- The numbers behind dollar signs outside quoted spans. -/
def dollars (span : Option Char) : List Char → List Nat
  | [] => []
  | char :: rest =>
    let digits := rest.takeWhile Text.isDigit
    (if char = '$' ∧ span = none ∧ digits ≠ [] then [Text.readDigits digits] else []) ++
      dollars (spanAfter span char) rest

theorem dollars_char {char : Char} (plain : char ≠ '$') (span : Option Char) (rest : List Char) :
    dollars span (char :: rest) = dollars (spanAfter span char) rest := by
  simp [dollars, plain]

theorem dollars_digits {digits : List Char} (each : ∀ char ∈ digits, Text.isDigit char = true)
    (rest : List Char) : dollars none (digits ++ rest) = dollars none rest := by
  induction digits with
  | nil => rfl
  | cons digit digits ih =>
    have digital := each digit List.mem_cons_self
    have unsigned : digit ≠ '$' := Text.ne_of_isDigit digital _ (by decide)
    have closed : spanAfter none digit = none := by
      have single : digit ≠ '\'' := Text.ne_of_isDigit digital _ (by decide)
      have double : digit ≠ '"' := Text.ne_of_isDigit digital _ (by decide)
      simp [spanAfter, single, double]
    rw [List.cons_append, dollars_char unsigned, closed]
    exact ih fun other member => each other (List.mem_cons_of_mem digit member)

/-- A number ends where the name in its place did. -/
theorem stops_dollared {text : List Char} (stop : Text.Stops Text.isDigit text)
    (span : Option Char) (next : Nat) :
    Text.Stops Text.isDigit (dollared next (piecesOutside span text)) := by
  cases text using piecewise with
  | empty =>
    rw [piecesOutside, read_empty]
    exact Text.stops_nil _
  | char char rest plain =>
    rw [piecesOutside, read_char _ _ _ plain]
    exact Text.stops_cons (stop char rfl) _
  | cast rest =>
    rw [piecesOutside, read_cast]
    exact Text.stops_cons (by decide) _
  | colon rest lone =>
    rw [piecesOutside, read_lone _ _ _ lone]
    exact Text.stops_cons (by decide) _
  | name first rest starts =>
    cases span with
    | none =>
      rw [piecesOutside, read_name _ _ rfl starts]
      exact Text.stops_cons (by decide) _
    | some mark =>
      rw [piecesOutside, read_inside _ _ rfl]
      exact Text.stops_cons (by decide) _

theorem stops_dropWhile (rest : List Char) :
    Text.Stops Text.isDigit (rest.dropWhile inName) := by
  intro char first
  have ended := List.head?_dropWhile_not inName rest
  rw [Option.mem_def.mp first] at ended
  cases digit : Text.isDigit char with
  | false => rfl
  | true =>
    have named : inName char = true := by
      have within : char.isDigit = true := digit
      simp [inName, Char.isAlphanum, within]
    simp [named] at ended

/-- Where the text has no dollar signs of its own, its numbers are those of its names. -/
theorem dollars_dollared {span : Option Char} (opened : Opened span) {text : List Char}
    (unsigned : '$' ∉ text) (next : Nat) :
    dollars span (dollared next (piecesOutside span text)) =
      List.range' next (names (piecesOutside span text)).length := by
  have colon : ':' ≠ '$' := by decide
  induction text using piecewise generalizing span next with
  | empty => simp [piecesOutside, read_empty, dollared, dollars, names]
  | char char rest plain ih =>
    obtain ⟨other, behind⟩ := List.ne_and_not_mem_of_not_mem_cons unsigned
    rw [piecesOutside, read_char _ _ _ plain, dollared, names, dollars_char (Ne.symm other)]
    exact ih (opened.after char) behind next
  | cast rest ih =>
    have behind := List.not_mem_of_not_mem_cons (List.not_mem_of_not_mem_cons unsigned)
    rw [piecesOutside, read_cast, dollared, dollared, names, names, dollars_char colon,
      opened.after_colon, dollars_char colon, opened.after_colon]
    exact ih opened behind next
  | colon rest lone ih =>
    have behind := List.not_mem_of_not_mem_cons unsigned
    rw [piecesOutside, read_lone _ _ _ lone, dollared, names, dollars_char colon,
      opened.after_colon]
    exact ih opened behind next
  | name first rest starts whole ih =>
    have behind := List.not_mem_of_not_mem_cons unsigned
    cases span with
    | some mark =>
      rw [piecesOutside, read_inside _ _ rfl, dollared, names, dollars_char colon,
        opened.after_colon]
      exact whole opened behind next
    | none =>
      have left : '$' ∉ rest.dropWhile inName := fun member =>
        behind (List.mem_cons_of_mem first ((List.dropWhile_sublist inName).mem member))
      have digits (char : Char) (member : char ∈ Text.decimalDigits next) :
          Text.isDigit char = true := Text.isDigit_of_mem_decimalDigits member
      obtain ⟨number, _⟩ := Text.run_append digits
        (stops_dollared (stops_dropWhile rest) none (next + 1))
      rw [piecesOutside, read_name _ _ rfl starts, dollared, names, dollars]
      rw [piecesOutside] at number
      simp only [number, Text.readDigits_decimalDigits, Text.decimalDigits_ne_nil, ne_eq,
        not_false_eq_true, and_self, ↓reduceIte, List.length_cons, List.range'_succ]
      have closed : spanAfter none '$' = none := by decide
      rw [closed, dollars_digits digits]
      exact congrArg (List.cons next) (ih opened_none left (next + 1))

/-- The pieces of a statement, with its names outside spans in either quotation mark. -/
def outside (sql : String) : List Piece := piecesOutside none sql.toList

/-- In the place of every name outside quoted spans stands the number of its own argument, and
nowhere else a number. -/
structure Numbers (lookup : String → Option Value) (sql out : String) (args : List Value) :
    Prop where
  rebind_eq : Dialect.postgres.rebind out = String.ofList (dollared 1 (outside sql))
  bound : (names (outside sql)).map lookup = args.map some
  dollars_eq : '$' ∉ sql.toList →
    dollars none (Dialect.postgres.rebind out).toList = List.range' 1 args.length

/-- Compiled and numbered, a named statement has each argument at its own name exactly where both
scans read the same names, and so where no apostrophe and no colon stands in a span of double
quotation marks. -/
theorem names_numbered_iff_read_alike (lookup : String → Option Value) {sql out : String}
    {args : List Value} (unmarked : '?' ∉ sql.toList)
    (compiled : compile lookup sql = .ok (out, args)) :
    (Numbers lookup sql out args ↔ pieces false sql.toList = outside sql) ∧
      (Clear none sql.toList → Numbers lookup sql out args) := by
  obtain ⟨rfl, values⟩ := compile_eq_ok_iff.mp compiled
  have numbered : Dialect.postgres.rebind (String.ofList (marked (pieces false sql.toList))) =
      String.ofList (number 1 none (marked (pieces false sql.toList))) := by
    rw [Dialect.rebind, Placeholder.numbered, String.toList_ofList]
  have alike (same : pieces false sql.toList = outside sql) :
      Numbers lookup sql (String.ofList (marked (pieces false sql.toList))) args := by
    have text := number_piecesOutside opened_none unmarked 1
    rw [← outside, ← same] at text
    have count : (names (outside sql)).length = args.length := by
      simpa [same] using congrArg List.length values
    refine ⟨by rw [numbered, text, same], by rwa [← same], fun unsigned => ?_⟩
    rw [numbered, text, same, String.toList_ofList, outside,
      dollars_dollared opened_none unsigned, ← outside, count]
  refine ⟨⟨fun numbers => ?_, alike⟩, fun clear => alike ?_⟩
  · have same := numbers.rebind_eq
    rw [numbered, String.ofList_inj, pieces_eq_read] at same
    rw [pieces_eq_read]
    exact read_eq_piecesOutside opened_none unmarked same
  · rw [pieces_eq_read]
    exact read_eq_of_clear opened_none clear

/-- A cast behind double quotation marks, and a name in single ones. -/
theorem names_numbered_iff_read_alike_cast :
    Numbers (fun name => if name = "id" then some (.int 3) else none)
      "SELECT ':id', \"it\"::text FROM t WHERE id = :id"
      "SELECT ':id', \"it\"::text FROM t WHERE id = ?" [.int 3] :=
  (names_numbered_iff_read_alike _ (by decide) (by decide +kernel)).2 (by decide)

/-- A name in double quotation marks takes an argument, and has no number. -/
theorem double_quoted_name_is_bound : ∃ lookup,
    compile lookup "UPDATE t SET \"a:b\" = :v" =
        .ok ("UPDATE t SET \"a?\" = ?", [.int 1, .int 2]) ∧
      Dialect.postgres.rebind "UPDATE t SET \"a?\" = ?" = "UPDATE t SET \"a?\" = $1" ∧
      Balanced "UPDATE t SET \"a:b\" = :v" ∧
      ¬ Numbers lookup "UPDATE t SET \"a:b\" = :v" "UPDATE t SET \"a?\" = ?"
        [.int 1, .int 2] := by
  refine ⟨fun name => if name = "b" then some (.int 1) else if name = "v" then some (.int 2)
    else none, by decide +kernel, by decide, by decide, fun numbers => ?_⟩
  exact absurd (numbers.dollars_eq (by decide)) (by decide)

end FluentSql.Placeholder
