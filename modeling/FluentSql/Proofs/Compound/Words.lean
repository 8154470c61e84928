import FluentSql.Text.Digits
import FluentSql.Text.Join

/-! Texts as a reader of compound queries sees them. Outside parentheses it looks for the words that
begin a new part of a query; inside it looks for the closing parenthesis only. A plain text has no
such word in it and closes its parentheses, so it ends where the reader says. -/
namespace FluentSql.Compound

/-- The words that begin a part of a compound query. -/
inductive Keyword where
  | union
  | order
  | limit
  | offset
  deriving DecidableEq

def Keyword.text : Keyword → String
  | .union => "UNION"
  | .order => "ORDER"
  | .limit => "LIMIT"
  | .offset => "OFFSET"

/-- Keywords are in capital letters. -/
theorem isUpper_of_mem_text (keyword : Keyword) :
    ∀ letter ∈ keyword.text.toList, letter.isUpper = true := by
  cases keyword <;> simp [Keyword.text]

theorem not_mem_text {char : Char} (other : char.isUpper = false) (keyword : Keyword) :
    char ∉ keyword.text.toList := by
  intro member
  rw [isUpper_of_mem_text keyword char member] at other
  cases other

/-- Where the reader stands: in a word outside all parentheses, or inside them and under so many
more. What stands behind a parenthesis is no word of its own. -/
inductive Place where
  | word (chars : List Char)
  | inside (depth : Nat)
  deriving DecidableEq

def isKeyword (chars : List Char) : Bool :=
  [Keyword.union, .order, .limit, .offset].any fun keyword => keyword.text.toList = chars

/-- The next place. There is none behind a keyword, and none behind a parenthesis that closes
nothing. -/
def next (place : Place) (char : Char) : Option Place :=
  match place with
  | .word chars =>
    if char = ' ' then (if isKeyword chars then none else some (.word []))
    else if char = '(' then some (.inside 0)
    else if char = ')' then none
    else some (.word (chars ++ [char]))
  | .inside depth =>
    if char = '(' then some (.inside (depth + 1))
    else if char = ')' then
      match depth with
      | 0 => some (.word [')'])
      | depth + 1 => some (.inside depth)
    else some (.inside depth)

def run (place : Place) : List Char → Option Place
  | [] => some place
  | char :: rest => (next place char).bind fun after => run after rest

theorem run_append (place : Place) (first rest : List Char) :
    run place (first ++ rest) = (run place first).bind fun after => run after rest := by
  induction first generalizing place with
  | nil => rfl
  | cons char first ih =>
    simp only [List.cons_append, run]
    cases next place char with
    | none => rfl
    | some after => exact ih after

/-! What a stretch of text does to the reader, whatever words there are before it. -/

/-- What is known of a place. At the start of a word nothing of it has been read; in a word it is
not a keyword so far. -/
inductive Spot where
  | start
  | word
  | inside (depth : Nat)

def Spot.Allows (spot : Spot) (place : Place) : Prop :=
  match spot with
  | .start => place = .word []
  | .word => ∃ chars, isKeyword chars = false ∧ place = .word chars
  | .inside depth => place = .inside depth

def Spot.allows? (spot : Spot) (place? : Option Place) : Bool :=
  match spot, place? with
  | .start, some (.word chars) => chars.isEmpty
  | .word, some (.word chars) => !isKeyword chars
  | .inside depth, some (.inside other) => depth = other
  | _, _ => false

theorem Spot.allows_of_check {spot : Spot} {place? : Option Place}
    (checked : spot.allows? place? = true) : ∃ place, spot.Allows place ∧ place? = some place := by
  cases spot with
  | start =>
    match place?, checked with
    | some (.word []), _ => exact ⟨_, rfl, rfl⟩
  | word =>
    match place?, checked with
    | some (.word chars), checked =>
      exact ⟨_, ⟨chars, by simpa [Spot.allows?] using checked, rfl⟩, rfl⟩
  | inside depth =>
    match place?, checked with
    | some (.inside other), checked =>
      have same : depth = other := by simpa [Spot.allows?] using checked
      exact ⟨_, rfl, by rw [same]⟩

/-- A text leads the reader from one spot to another. -/
def Leads (spot : Spot) (text : String) (last : Spot) : Prop :=
  ∀ place, spot.Allows place → ∃ after, last.Allows after ∧ run place text.toList = some after

theorem Leads.append {spot middle last : Spot} {first rest : String}
    (before : Leads spot first middle) (behind : Leads middle rest last) :
    Leads spot (first ++ rest) last := by
  intro place allowed
  obtain ⟨between, reached, reading⟩ := before place allowed
  obtain ⟨after, ended, readings⟩ := behind between reached
  refine ⟨after, ended, ?_⟩
  rw [String.toList_append, run_append, reading, Option.bind_some, readings]

theorem leads_empty (spot : Spot) : Leads spot "" spot := fun place allowed => ⟨place, allowed, rfl⟩

/-- What ends a word that is not a keyword: a blank, or a comma and a blank. -/
def parts : List Char → Bool
  | ' ' :: _ => true
  | ',' :: ' ' :: _ => true
  | _ => false

/-- A check of a fixed text. -/
def leads? (spot : Spot) (text : List Char) (last : Spot) : Bool :=
  match spot with
  | .start => last.allows? (run (.word []) text)
  | .word => parts text && last.allows? (run (.word []) text)
  | .inside depth => last.allows? (run (.inside depth) text)

theorem isKeyword_eq_false_of_mem {chars : List Char} {char : Char} (member : char ∈ chars)
    (foreign : ∀ keyword : Keyword, char ∉ keyword.text.toList) : isKeyword chars = false := by
  simp only [isKeyword, List.any_eq_false, decide_eq_true_eq]
  rintro keyword _ rfl
  exact foreign keyword member

/-- A text that begins with a blank, or a comma and a blank, is read behind a word as by itself. -/
theorem run_word_eq {chars text : List Char} (plain : isKeyword chars = false)
    (parted : parts text = true) : run (.word chars) text = run (.word []) text := by
  unfold parts at parted
  split at parted
  · have empty : isKeyword [] = false := by decide
    simp only [run, next, ↓reduceIte, plain, empty]
  · rename_i rest
    have comma (before : List Char) : isKeyword (before ++ [',']) = false :=
      isKeyword_eq_false_of_mem (List.mem_append_right _ List.mem_cons_self)
        (not_mem_text (by decide))
    have passes (before : List Char) :
        run (.word before) (',' :: ' ' :: rest) = run (.word []) rest := by
      simp [run, next, comma]
    rw [passes, passes]
  · cases parted

theorem leads {spot last : Spot} {text : String} (checked : leads? spot text.toList last = true) :
    Leads spot text last := by
  intro place allowed
  cases spot with
  | start =>
    obtain rfl := allowed
    exact Spot.allows_of_check checked
  | word =>
    obtain ⟨chars, plain, rfl⟩ := allowed
    simp only [leads?, Bool.and_eq_true] at checked
    rw [run_word_eq plain checked.1]
    exact Spot.allows_of_check checked.2
  | inside depth =>
    obtain rfl := allowed
    exact Spot.allows_of_check checked

/-- A text with balanced parentheses and without keywords outside them. -/
def Plain (text : String) : Prop := Leads .start text .word

/-- A text that may follow a plain one. -/
def Trails (text : String) : Prop := Leads .word text .word

/-- A text with balanced parentheses. -/
def Nested (text : String) : Prop := ∀ depth, Leads (.inside depth) text (.inside depth)

/-- The same place under parentheses. -/
def Place.under (levels : Nat) : Place → Place
  | .word _ => .inside levels
  | .inside depth => .inside (depth + levels + 1)

theorem next_under (levels : Nat) {place after : Place} {char : Char}
    (reading : next place char = some after) :
    next (place.under levels) char = some (after.under levels) := by
  cases place with
  | word chars =>
    simp only [next] at reading
    split at reading
    · rename_i blank
      subst blank
      split at reading
      · cases reading
      · cases reading
        rfl
    · split at reading
      · rename_i opening
        cases reading
        simp [Place.under, next, opening]
      · split at reading
        · cases reading
        · rename_i notOpening notClosing
          cases reading
          simp [Place.under, next, notOpening, notClosing]
  | inside depth =>
    simp only [next] at reading
    split at reading
    · rename_i opening
      cases reading
      simp only [Place.under, next, opening, ↓reduceIte]
      congr 2
      omega
    · rename_i notOpening
      split at reading
      · rename_i closing
        subst closing
        cases depth with
        | zero =>
          cases reading
          simp only [Place.under, next, notOpening, ↓reduceIte, Nat.zero_add]
        | succ depth =>
          cases reading
          simp only [Place.under, next, notOpening, ↓reduceIte]
          congr 2
          omega
      · rename_i notClosing
        cases reading
        simp [Place.under, next, notOpening, notClosing]

theorem run_under (levels : Nat) {place after : Place} {text : List Char}
    (reading : run place text = some after) :
    run (place.under levels) text = some (after.under levels) := by
  induction text generalizing place with
  | nil =>
    cases reading
    rfl
  | cons char text ih =>
    simp only [run] at reading ⊢
    cases read : next place char with
    | none => simp [read] at reading
    | some between =>
      rw [read, Option.bind_some] at reading
      rw [next_under levels read, Option.bind_some]
      exact ih reading

theorem Plain.nested {text : String} (plain : Plain text) : Nested text := by
  rintro depth place rfl
  obtain ⟨after, ⟨chars, _, rfl⟩, reading⟩ := plain (.word []) rfl
  exact ⟨_, rfl, run_under depth reading⟩

theorem Trails.nested {text : String} (trails : Trails text) : Nested text := by
  rintro depth place rfl
  obtain ⟨after, ⟨chars, _, rfl⟩, reading⟩ := trails (.word []) ⟨[], by decide, rfl⟩
  exact ⟨_, rfl, run_under depth reading⟩

/-- A fixed text is balanced where it is inside one pair of parentheses. -/
theorem nested {text : String} (checked : leads? (.inside 0) text.toList (.inside 0) = true) :
    Nested text := by
  rintro depth place rfl
  obtain ⟨after, rfl, reading⟩ := leads checked (.inside 0) rfl
  cases depth with
  | zero => exact ⟨_, rfl, reading⟩
  | succ levels =>
    have moved := run_under levels reading
    simp only [Place.under, Nat.zero_add] at moved
    exact ⟨_, rfl, moved⟩

theorem Nested.append {first rest : String} (before : Nested first) (behind : Nested rest) :
    Nested (first ++ rest) :=
  fun depth => (before depth).append (behind depth)

/-- A text in parentheses, with what stands around them. -/
theorem Nested.wrap {text opening closing : String} {spot last : Spot} (nested : Nested text)
    (depth : Nat) (before : leads? spot opening.toList (.inside depth) = true)
    (behind : leads? (.inside depth) closing.toList last = true) :
    Leads spot (opening ++ text ++ closing) last :=
  ((leads before).append (nested depth)).append (leads behind)

/-- Plain texts that are joined by a blank or a comma. -/
theorem Plain.append {first link rest : String} (before : Plain first)
    (between : leads? .word link.toList .start = true) (behind : Plain rest) :
    Plain (first ++ link ++ rest) :=
  (Leads.append before (leads between)).append behind

theorem Plain.trailed {first rest : String} (plain : Plain first) (trails : Trails rest) :
    Plain (first ++ rest) :=
  Leads.append plain trails

theorem Trails.append {first rest : String} (before : Trails first) (behind : Trails rest) :
    Trails (first ++ rest) :=
  Leads.append before behind

/-- A plain text behind a word. -/
theorem Plain.trails {opening text : String} (plain : Plain text)
    (before : leads? .word opening.toList .start = true) : Trails (opening ++ text) :=
  (leads before).append plain

theorem trails_empty : Trails "" := leads_empty .word

theorem plain_empty : Plain "" := leads (by decide)

/-- Texts that stand next to each other. -/
theorem leads_foldl {spot : Spot} {texts : List String}
    (each : ∀ text ∈ texts, Leads spot text spot) :
    Leads spot (texts.foldl (· ++ ·) "") spot := by
  change Leads spot (String.join texts) spot
  induction texts with
  | nil => exact leads_empty spot
  | cons text rest ih =>
    rw [String.join_cons]
    exact (each text List.mem_cons_self).append
      (ih fun other member => each other (List.mem_cons_of_mem text member))

theorem plain_join {separator : String} (link : leads? .word separator.toList .start = true)
    {parts : List String} (each : ∀ part ∈ parts, Plain part) :
    Plain (Text.join separator parts) := by
  induction parts with
  | nil => exact plain_empty
  | cons part rest ih =>
    have own := each part List.mem_cons_self
    cases rest with
    | nil => exact own
    | cons second rest =>
      exact own.append link (ih fun other member => each other (List.mem_cons_of_mem part member))

theorem nested_join {separator : String} (link : Nested separator) {parts : List String}
    (each : ∀ part ∈ parts, Nested part) : Nested (Text.join separator parts) := by
  induction parts with
  | nil => exact fun _ => leads_empty _
  | cons part rest ih =>
    have own := each part List.mem_cons_self
    cases rest with
    | nil => exact own
    | cons second rest =>
      exact (own.append link).append
        (ih fun other member => each other (List.mem_cons_of_mem part member))

/-! Where a plain text ends. -/

/-- What may follow a plain text: nothing, a closing parenthesis, or a keyword between blanks. -/
inductive Stops : List Char → Prop where
  | none : Stops []
  | closing (behind : List Char) : Stops (')' :: behind)
  | keyword (keyword : Keyword) (behind : List Char) :
      Stops (' ' :: keyword.text.toList ++ ' ' :: behind)

theorem run_keyword (keyword : Keyword) :
    run (.word []) keyword.text.toList = some (.word keyword.text.toList) := by
  cases keyword <;> decide

theorem isKeyword_text (keyword : Keyword) : isKeyword keyword.text.toList = true := by
  cases keyword <;> decide

/-- A plain text does not end with a keyword of its own. -/
theorem not_allows_keyword {keyword : Keyword} {after : Place}
    (reading : run (.word []) keyword.text.toList = some after) : ¬ Spot.word.Allows after := by
  rintro ⟨chars, plain, rfl⟩
  rw [run_keyword] at reading
  cases reading
  rw [isKeyword_text] at plain
  cases plain

/-- A reader that goes on behind a plain text finds the keyword or the closing parenthesis there. -/
theorem eq_nil_of_stops {chars more behind : List Char} {after : Place}
    (plain : isKeyword chars = false) (reading : run (.word chars) more = some after)
    (allowed : Spot.word.Allows after) (stops : Stops (more ++ behind)) (halts : Stops behind) :
    more = [] := by
  cases more with
  | nil => rfl
  | cons char more =>
    exfalso
    generalize whole : char :: more ++ behind = rest at stops
    cases stops with
    | none => cases whole
    | closing rest =>
      obtain rfl : char = ')' := (List.cons.inj whole).1
      simp [run, next] at reading
    | keyword keyword rest =>
      obtain ⟨rfl, tail⟩ := List.cons.inj whole
      have passed : run (.word []) more = some after := by simpa [run, next, plain] using reading
      -- The rest of the text is a part of the keyword, the keyword, or more than that.
      rcases List.append_eq_append_iff.mp tail with ⟨left, split, follows⟩ | ⟨left, split, follows⟩
      · cases left with
        | nil =>
          rw [List.append_nil] at split
          rw [← split] at passed
          exact not_allows_keyword passed allowed
        | cons letter left =>
          have member : letter ∈ keyword.text.toList := by
            rw [split]
            exact List.mem_append_right _ List.mem_cons_self
          rw [List.cons_append] at follows
          cases halts with
          | none => cases follows
          | closing _ =>
            obtain rfl : ')' = letter := (List.cons.inj follows).1
            exact not_mem_text (by decide) keyword member
          | keyword _ _ =>
            obtain rfl : ' ' = letter := (List.cons.inj follows).1
            exact not_mem_text (by decide) keyword member
      · cases left with
        | nil =>
          rw [List.append_nil] at split
          rw [split] at passed
          exact not_allows_keyword passed allowed
        | cons letter left =>
          obtain rfl : ' ' = letter := (List.cons.inj follows).1
          rw [split, run_append, run_keyword, Option.bind_some] at passed
          simp [run, next, isKeyword_text] at passed

/-- There is one place where a plain text may end. -/
theorem plain_unique {text other : String} {rest behind : List Char} (plain : Plain text)
    (also : Plain other) (stops : Stops rest) (halts : Stops behind)
    (same : text.toList ++ rest = other.toList ++ behind) : text = other ∧ rest = behind := by
  obtain ⟨_, ⟨chars, own, rfl⟩, reading⟩ := plain (.word []) rfl
  obtain ⟨_, ⟨letters, theirs, rfl⟩, readings⟩ := also (.word []) rfl
  rcases List.append_eq_append_iff.mp same with ⟨more, longer, split⟩ | ⟨more, longer, split⟩
  · rw [longer, run_append, reading, Option.bind_some] at readings
    rw [split] at stops
    obtain rfl := eq_nil_of_stops own readings ⟨_, theirs, rfl⟩ stops halts
    rw [List.append_nil] at longer
    exact ⟨String.toList_injective longer.symm, split⟩
  · rw [longer, run_append, readings, Option.bind_some] at reading
    rw [split] at halts
    obtain rfl := eq_nil_of_stops theirs reading ⟨_, own, rfl⟩ halts stops
    rw [List.append_nil] at longer
    exact ⟨String.toList_injective longer, split.symm⟩

end FluentSql.Compound
