import FluentSql.Placeholder.Numbered
import FluentSql.Proofs.Schema.Grouping

/-! Alterations as a reader of their texts sees them. A comma parts two clauses where it stands
outside quoted spans and parentheses. A clause is whole when none of its commas does and it closes
what it opens. A statement of whole clauses is taken apart as it was put together. -/
namespace FluentSql

namespace Fragments

/-- Where the reader stands: in a quoted span up to its mark, and under so many parentheses. -/
structure Place where
  span : Option Char
  depth : Nat
  deriving DecidableEq

def outside : Place := ⟨none, 0⟩

def next (place : Place) (char : Char) : Place :=
  match place.span with
  | some mark => { place with span := Placeholder.spanAfter (some mark) char }
  | none =>
    if char = '(' then ⟨none, place.depth + 1⟩
    else if char = ')' then ⟨none, place.depth - 1⟩
    else { place with span := Placeholder.spanAfter none char }

/-- The texts between the commas outside. -/
def split (place : Place) : List Char → List (List Char)
  | [] => [[]]
  | char :: rest =>
    if char = ',' ∧ place = outside then [] :: split outside rest
    else (split (next place char) rest).modifyHead (char :: ·)

/-- A text that no comma divides and that ends where it begins. -/
def Whole (text : String) : Prop :=
  split outside text.toList = [text.toList] ∧ text.toList.foldl next outside = outside

instance (text : String) : Decidable (Whole text) := inferInstanceAs (Decidable (_ ∧ _))

theorem split_ne_nil (place : Place) (text : List Char) : split place text ≠ [] := by
  induction text generalizing place with
  | nil => exact List.cons_ne_nil [] []
  | cons char rest ih =>
    unfold split
    split
    · exact List.cons_ne_nil [] _
    · obtain ⟨first, more, parted⟩ := List.exists_cons_of_ne_nil (ih (next place char))
      rw [parted]
      exact List.cons_ne_nil _ more

/-- Behind a text that ends outside, a comma begins anew. -/
theorem split_append {place : Place} {text : List Char}
    (closed : text.foldl next place = outside) (rest : List Char) :
    split place (text ++ ',' :: rest) = split place text ++ split outside rest := by
  induction text generalizing place with
  | nil =>
    obtain rfl : place = outside := closed
    simp [split]
  | cons char text ih =>
    by_cases parting : char = ',' ∧ place = outside
    · obtain ⟨rfl, rfl⟩ := parting
      have stays : next outside ',' = outside := by decide
      rw [List.foldl_cons, stays] at closed
      simp [split, ih closed]
    · obtain ⟨first, more, parted⟩ := List.exists_cons_of_ne_nil
        (split_ne_nil (next place char) text)
      simp only [List.cons_append, split, if_neg parting, ih closed, parted, List.modifyHead_cons]

/-- A comma list of whole texts is divided where they meet. -/
theorem split_commaList {first : String} {rest : List String}
    (whole : ∀ text ∈ first :: rest, Whole text) :
    split outside (Text.commaList (first :: rest)).toList =
      first.toList :: rest.map fun text => ' ' :: text.toList := by
  induction rest generalizing first with
  | nil => exact (whole first List.mem_cons_self).1
  | cons second more ih =>
    obtain ⟨undivided, closed⟩ := whole first List.mem_cons_self
    have behind := ih fun text member => whole text (List.mem_cons_of_mem first member)
    have joined : (Text.commaList (first :: second :: more)).toList =
        first.toList ++ ',' :: ' ' :: (Text.commaList (second :: more)).toList := by
      simp [Text.commaList, Text.join]
    have blank : split outside (' ' :: (Text.commaList (second :: more)).toList) =
        (split outside (Text.commaList (second :: more)).toList).modifyHead (' ' :: ·) := rfl
    rw [joined, split_append closed, undivided, blank, behind]
    rfl

/-- The texts of a comma list. Behind every comma stands a blank. -/
def pieces (text : List Char) : List String :=
  match split outside text with
  | [] => []
  | first :: rest => String.ofList first :: rest.map fun piece => String.ofList (piece.drop 1)

theorem pieces_commaList {texts : List String} (present : texts ≠ [])
    (whole : ∀ text ∈ texts, Whole text) : pieces (Text.commaList texts).toList = texts := by
  obtain ⟨first, rest, rfl⟩ := List.exists_cons_of_ne_nil present
  rw [pieces, split_commaList whole]
  simp [Function.comp_def]

example : pieces "DROP COLUMN age, ADD COLUMN price DECIMAL(10, 2) DEFAULT '1, 2'".toList =
    ["DROP COLUMN age", "ADD COLUMN price DECIMAL(10, 2) DEFAULT '1, 2'"] := by
  decide

/-- A statement on a table taken apart by its text: an ALTER TABLE clause by clause, any other as it
is. -/
def taken (table text : String) : List String :=
  let head := "ALTER TABLE " ++ table ++ " "
  match text.toList.dropPrefix? head.toList with
  | some clauses => (pieces clauses).map (head ++ ·)
  | none => [text]

end Fragments

namespace AlterStatement

/-- All clauses of a statement are whole. -/
def Whole : AlterStatement → Prop
  | .alterTable _ clauses => ∀ clause ∈ clauses, Fragments.Whole clause.text
  | _ => True

/-- The text of a statement tells its parts. -/
theorem taken_text {table : String} {statement : AlterStatement} (on : statement.On table)
    (whole : statement.Whole) :
    Fragments.taken table statement.text = statement.parts.map text := by
  cases statement with
  | alterTable named clauses =>
    obtain rfl : named = table := on.named named rfl
    have present : clauses.map AlterClause.text ≠ [] :=
      fun absent => on.filled (List.map_eq_nil_iff.mp absent)
    have read := Fragments.pieces_commaList present (List.forall_mem_map.mpr whole)
    have joined : (text (.alterTable named clauses)).toList =
        ("ALTER TABLE " ++ named ++ " ").toList ++
          (Text.commaList (clauses.map AlterClause.text)).toList := String.toList_append
    have behind := List.dropPrefix?_append_of_beq
      (Text.commaList (clauses.map AlterClause.text)).toList
      (BEq.refl ("ALTER TABLE " ++ named ++ " ").toList)
    simp only [Fragments.taken, joined, behind, read, parts, List.map_map]
    rfl
  | createIndex named index =>
    have begins : text (.createIndex named index) =
        "CREATE " ++ _ ++ _ ++ _ ++ _ ++ _ ++ _ ++ _ ++ _ := rfl
    simp [Fragments.taken, parts, begins, List.dropPrefix?]
  | dropIndex name =>
    have begins : text (.dropIndex name) = "DROP INDEX " ++ name := rfl
    simp [Fragments.taken, parts, begins, List.dropPrefix?]

end AlterStatement
end FluentSql
