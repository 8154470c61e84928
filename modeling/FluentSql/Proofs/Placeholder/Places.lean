import FluentSql.Proofs.Placeholder.Agreement
import Mathlib.Algebra.Ring.Parity

/-! The places of the names in a statement. A scan that takes its characters one by one finds just
the colons that stand outside single-quoted text, behind whole pairs of colons and in front of a
name. -/
namespace FluentSql.Placeholder

/-- A name with its colon, and the text on either side. -/
structure Place where
  before : List Char
  name : String
  after : List Char

/-- The number of colons that a text ends in. -/
def colons (text : List Char) : Nat := (text.reverse.takeWhile fun char => char = ':').length

theorem colons_append_colon (text : List Char) : colons (text ++ [':']) = colons text + 1 := by
  simp [colons]

theorem colons_append {char : Char} (plain : char ≠ ':') (text : List Char) :
    colons (text ++ [char]) = 0 := by
  simp [colons, plain]

/-- A place of a text: its name is the longest there, and stands outside single-quoted text. Colons
are paired from the left, so its own colon is in no pair where those in front are even in number. -/
structure Place.Marks (place : Place) (text : List Char) : Prop where
  whole : text = place.before ++ ':' :: (place.name.toList ++ place.after)
  identifier : Identifier place.name
  longest : Text.Stops inName place.after
  unquoted : Even (place.before.count '\'')
  unpaired : Even (colons place.before)

/-- A place of a text that is not within what has been read of it. -/
def Place.Ahead (place : Place) (before text : List Char) : Prop :=
  place.Marks (before ++ text) ∧ before.length ≤ place.before.length

theorem Place.ahead_nil_iff (place : Place) {text : List Char} :
    place.Ahead [] text ↔ place.Marks text :=
  and_iff_left (Nat.zero_le _)

section Ahead

variable {place : Place} {before rest : List Char} {char : Char}

theorem Place.Marks.next (marks : place.Marks (before ++ rest)) (here : place.before = before) :
    rest = ':' :: (place.name.toList ++ place.after) := by
  have whole := marks.whole
  rw [here] at whole
  exact List.append_cancel_left whole

theorem Place.Marks.before_eq (marks : place.Marks (before ++ rest))
    (here : place.before.length = before.length) : place.before = before :=
  ((List.append_inj marks.whole here.symm).1).symm

/-- A place ahead is the next one, or ahead of the next character. -/
theorem Place.ahead_cons_iff : place.Ahead before (char :: rest) ↔
    place.Marks (before ++ char :: rest) ∧ place.before = before ∨
      place.Ahead (before ++ [char]) rest := by
  have same : before ++ [char] ++ rest = before ++ char :: rest := by
    rw [List.append_assoc, List.singleton_append]
  rw [Ahead, Ahead, same, List.length_append, List.length_singleton]
  constructor
  · rintro ⟨marks, ahead⟩
    rcases Nat.eq_or_lt_of_le ahead with here | later
    · exact Or.inl ⟨marks, marks.before_eq here.symm⟩
    · exact Or.inr ⟨marks, later⟩
  · rintro (⟨marks, here⟩ | ⟨marks, later⟩)
    · exact ⟨marks, Nat.le_of_eq (congrArg List.length here).symm⟩
    · exact ⟨marks, Nat.le_of_succ_le later⟩

theorem Place.ahead_cons_of_unmarked
    (unmarked : place.Marks (before ++ char :: rest) → place.before ≠ before) :
    place.Ahead before (char :: rest) ↔ place.Ahead (before ++ [char]) rest := by
  rw [ahead_cons_iff]
  constructor
  · rintro (⟨marks, here⟩ | later)
    · exact absurd here (unmarked marks)
    · exact later
  · exact Or.inr

theorem Place.ahead_char (plain : char ≠ ':') :
    place.Ahead before (char :: rest) ↔ place.Ahead (before ++ [char]) rest := by
  apply ahead_cons_of_unmarked
  intro marks here
  exact plain (List.cons.inj (marks.next here)).1

theorem Place.ahead_quoted (quoted : ¬ Even (before.count '\'')) :
    place.Ahead before (char :: rest) ↔ place.Ahead (before ++ [char]) rest := by
  apply ahead_cons_of_unmarked
  intro marks here
  exact quoted (here ▸ marks.unquoted)

theorem Place.ahead_paired (paired : ¬ Even (colons before)) :
    place.Ahead before (char :: rest) ↔ place.Ahead (before ++ [char]) rest := by
  apply ahead_cons_of_unmarked
  intro marks here
  exact paired (here ▸ marks.unpaired)

/-- A colon in front of anything but a name is no place. -/
theorem Place.ahead_colon (nameless : ∀ next ∈ rest.head?, startsName next = false) :
    place.Ahead before (':' :: rest) ↔ place.Ahead (before ++ [':']) rest := by
  apply ahead_cons_of_unmarked
  intro marks here
  obtain ⟨first, more, chars, starts, _⟩ := marks.identifier.begins
  have behind := (List.cons.inj (marks.next here)).2
  rw [chars, List.cons_append] at behind
  have stops := nameless first (by rw [behind]; rfl)
  rw [starts] at stops
  cases stops

/-- Within a name there is no place. -/
theorem Place.ahead_run {run : List Char} (named : ∀ char ∈ run, inName char = true) :
    place.Ahead before (run ++ rest) ↔ place.Ahead (before ++ run) rest := by
  induction run generalizing before with
  | nil => rw [List.append_nil, List.nil_append]
  | cons char run ih =>
    have plain : char ≠ ':' := ne_of_inName (named char List.mem_cons_self) (by decide)
    rw [List.cons_append, ahead_char plain,
      ih fun other member => named other (List.mem_cons_of_mem char member),
      List.append_assoc, List.singleton_append]

/-- With a name in front there is one place, which has all of it. -/
theorem Place.next_iff {name : String} {after : List Char} (identifier : Identifier name)
    (longest : Text.Stops inName after) (unquoted : Even (before.count '\''))
    (unpaired : Even (colons before)) :
    place.Marks (before ++ ':' :: (name.toList ++ after)) ∧ place.before = before ↔
      place = ⟨before, name, after⟩ := by
  constructor
  · rintro ⟨marks, here⟩
    obtain ⟨chars, behind⟩ := Text.split_unique inName identifier.2 marks.identifier.2 longest
      marks.longest (List.cons.inj (marks.next here)).2
    cases place
    cases here
    cases behind
    cases String.toList_inj.mp chars
    rfl
  · rintro rfl
    exact ⟨⟨rfl, identifier, longest, unquoted, unpaired⟩, rfl⟩

end Ahead

/-! What a scan finds. -/

/-- The text that pieces stand for. -/
def written : List Piece → List Char
  | [] => []
  | .char char :: rest => char :: written rest
  | .name name :: rest => ':' :: (name.toList ++ written rest)

theorem written_pieces (quoted : Bool) (text : List Char) :
    written (pieces quoted text) = text := by
  rw [pieces_eq_read]
  induction text using piecewise generalizing quoted with
  | empty => rw [read_empty, written]
  | char char rest plain ih => rw [read_char _ _ _ plain, written, ih]
  | cast rest ih => rw [read_cast, written, written, ih]
  | colon rest lone ih => rw [read_lone _ _ _ lone, written, ih]
  | name first rest starts whole ih =>
    cases quoted with
    | true => rw [read_inside _ _ rfl, written, whole]
    | false =>
      rw [read_name _ _ rfl starts, written, ih, String.toList_ofList, List.cons_append,
        List.takeWhile_append_dropWhile]

/-- The places of the names among pieces, behind what has been read. -/
def places (before : List Char) : List Piece → List Place
  | [] => []
  | .char char :: rest => places (before ++ [char]) rest
  | .name name :: rest =>
    ⟨before, name, written rest⟩ :: places (before ++ [':'] ++ name.toList) rest

theorem names_places (before : List Char) (read : List Piece) :
    (places before read).map Place.name = names read := by
  induction read generalizing before with
  | nil => rfl
  | cons piece rest ih =>
    cases piece with
    | char char => exact ih _
    | name name => exact congrArg (List.cons name) (ih _)

theorem length_le_of_mem_places {before : List Char} {read : List Piece} {place : Place}
    (member : place ∈ places before read) : before.length ≤ place.before.length := by
  induction read generalizing before with
  | nil => cases member
  | cons piece rest ih =>
    cases piece with
    | char char =>
      have later := ih member
      rw [List.length_append] at later
      omega
    | name name =>
      rcases List.mem_cons.mp member with rfl | behind
      · exact Nat.le_refl _
      · have later := ih behind
        rw [List.length_append, List.length_append] at later
        omega

theorem pairwise_places (before : List Char) (read : List Piece) :
    (places before read).Pairwise fun place other =>
      place.before.length < other.before.length := by
  induction read generalizing before with
  | nil => exact List.Pairwise.nil
  | cons piece rest ih =>
    cases piece with
    | char char => exact ih _
    | name name =>
      refine List.pairwise_cons.mpr ⟨?_, ih _⟩
      intro other member
      have later := length_le_of_mem_places member
      rw [List.length_append, List.length_append, List.length_singleton] at later
      change before.length < other.before.length
      omega

/-- How a scan stands behind a text: it knows whether it is in single-quoted text, and outside has
paired the colons so far, unless nothing that follows makes a difference to the last of them. -/
structure Scanned (before : List Char) (quoted : Bool) (text : List Char) : Prop where
  quotes : quoted = false ↔ Even (before.count '\'')
  paired : quoted = false → Even (colons before) ∨ Lone text

namespace Scanned

variable {before rest : List Char} {quoted : Bool}

theorem start (text : List Char) : Scanned [] false text :=
  ⟨by simp, fun _ => Or.inl (by simp [colons])⟩

theorem char {char : Char} (plain : char ≠ ':') (scanned : Scanned before quoted (char :: rest)) :
    Scanned (before ++ [char]) (quotedAfter quoted char) rest := by
  constructor
  · rw [List.count_append]
    by_cases mark : char = '\''
    · subst char
      rw [List.count_singleton_self, Nat.even_add_one, ← scanned.quotes]
      cases quoted <;> decide
    · rw [List.count_singleton, beq_false_of_ne mark, quotedAfter, if_neg mark]
      exact scanned.quotes
  · intro _
    left
    rw [colons_append plain]
    exact Even.zero

theorem count_colon (before : List Char) :
    (before ++ [':']).count '\'' = before.count '\'' := by
  simp

theorem quoted_colon {text : List Char} (scanned : Scanned before true text) :
    Scanned (before ++ [':']) true rest :=
  ⟨by rw [count_colon]; exact scanned.quotes, nofun⟩

theorem lone (lone : Lone rest) (scanned : Scanned before quoted (':' :: rest)) :
    Scanned (before ++ [':']) quoted rest :=
  ⟨by rw [count_colon]; exact scanned.quotes, fun _ => Or.inr lone⟩

theorem even_colons (scanned : Scanned before false (':' :: rest)) : Even (colons before) := by
  rcases scanned.paired rfl with even | lone
  · exact even
  · exact absurd rfl (lone ':' rfl).1

theorem cast (scanned : Scanned before quoted (':' :: ':' :: rest)) :
    Scanned (before ++ [':'] ++ [':']) quoted rest := by
  refine ⟨by rw [count_colon, count_colon]; exact scanned.quotes, ?_⟩
  rintro rfl
  left
  rw [colons_append_colon, colons_append_colon, Nat.add_assoc]
  exact scanned.even_colons.add even_two

theorem name {name : String} {text : List Char} (identifier : Identifier name)
    (scanned : Scanned before false text) :
    Scanned (before ++ [':'] ++ name.toList) false rest := by
  have unquoted : name.toList.count '\'' = 0 :=
    List.count_eq_zero.mpr fun member => (identifier.unnamed _ member).1 rfl
  constructor
  · rw [List.count_append, unquoted, Nat.add_zero, count_colon]
    exact scanned.quotes
  · intro _
    left
    obtain ⟨first, more, chars, _⟩ := identifier.begins
    have nonempty : name.toList ≠ [] := by
      rw [chars]
      nofun
    have plain := (identifier.unnamed _ (List.getLast_mem nonempty)).2
    rw [← List.dropLast_append_getLast nonempty, ← List.append_assoc, colons_append plain]
    exact Even.zero

end Scanned

theorem stops_inName (rest : List Char) : Text.Stops inName (rest.dropWhile inName) := by
  intro char first
  have ended := List.head?_dropWhile_not inName rest
  rw [Option.mem_def.mp first] at ended
  simpa using ended

/-- A scan finds every place ahead of it, and no other. -/
theorem mem_places_iff {before text : List Char} {quoted : Bool}
    (scanned : Scanned before quoted text) (place : Place) :
    place ∈ places before (pieces quoted text) ↔ place.Ahead before text := by
  rw [pieces_eq_read]
  induction text using piecewise generalizing before quoted with
  | empty =>
    rw [read_empty, places]
    constructor
    · nofun
    · rintro ⟨marks, ahead⟩
      have short := congrArg List.length marks.whole
      simp only [List.length_append, List.length_nil, List.length_cons] at short
      omega
  | char char rest plain ih =>
    rw [read_char _ _ _ plain, places, ih (scanned.char plain), Place.ahead_char plain]
  | cast rest ih =>
    rw [read_cast, places, places, ih scanned.cast]
    cases quoted with
    | true =>
      have inside : ¬ Even (before.count '\'') := mt scanned.quotes.mpr nofun
      rw [Place.ahead_quoted inside, Place.ahead_quoted]
      rwa [Scanned.count_colon]
    | false =>
      have second : ¬ Even (colons (before ++ [':'])) := by
        rw [colons_append_colon, Nat.even_add_one]
        exact not_not_intro scanned.even_colons
      rw [Place.ahead_colon, Place.ahead_paired second]
      rintro next ⟨⟩
      decide
  | colon rest lone ih =>
    rw [read_lone _ _ _ lone, places, ih (scanned.lone lone), Place.ahead_colon]
    intro next first
    exact (lone next first).2
  | name first rest starts whole ih =>
    cases quoted with
    | true =>
      have inside : ¬ Even (before.count '\'') := mt scanned.quotes.mpr nofun
      rw [read_inside _ _ rfl, places, whole scanned.quoted_colon, Place.ahead_quoted inside]
    | false =>
      have identifier : Identifier (String.ofList (first :: rest.takeWhile inName)) := by
        apply identifier_of_mem_names id quotedAfter false (':' :: first :: rest)
        rw [read_name _ _ rfl starts]
        exact List.mem_cons_self
      have split : first :: rest = (String.ofList (first :: rest.takeWhile inName)).toList ++
          rest.dropWhile inName := by
        rw [String.toList_ofList, List.cons_append, List.takeWhile_append_dropWhile]
      have even := scanned.even_colons
      rw [read_name _ _ rfl starts, places, List.mem_cons, ih (scanned.name identifier),
        ← pieces_eq_read, written_pieces, split, Place.ahead_cons_iff,
        Place.ahead_run identifier.2,
        Place.next_iff identifier (stops_inName rest) (scanned.quotes.mp rfl) even]

end FluentSql.Placeholder
