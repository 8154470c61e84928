import FluentSql.Cache
import FluentSql.Proofs.Json.Nesting
import FluentSql.Proofs.Value.Kept

/-! The key of a statement tells its text and its arguments, up to what serialized text loses of
them. -/
namespace FluentSql
open Json (Place)

/-- A list of arguments is empty or opens with an argument's tag. -/
theorem toList_serializeList (args : List Value) :
    (Value.serializeList args).toList = ['[', ']'] ∨
      ∃ rest, (Value.serializeList args).toList = '[' :: '\x7b' :: '"' :: 't' :: rest := by
  cases args with
  | nil => exact .inl rfl
  | cons value rest =>
    have first : ∃ rest, value.serialize.toList = '\x7b' :: '"' :: 't' :: rest := by
      unfold Value.serialize
      split
      · exact ⟨_, by simp; rfl⟩
      · exact ⟨_, by simp; rfl⟩
    obtain ⟨tail, shape⟩ := first
    refine .inr ?_
    cases rest with
    | nil => exact ⟨tail ++ [']'], by simp [Value.serializeList, Value.serializeItems, shape]⟩
    | cons next rest =>
      exact ⟨_, by simp [Value.serializeList, Value.serializeItems, shape]; rfl⟩

/-- In a string the arguments do not end the text: they leave the string open, or their first quote
closes it where nothing may follow. -/
theorem scan_inside_ne_finished (args : List Value) (depth : Nat) :
    (Place.inside depth).scan (Value.serializeList args).toList ≠ .finished := by
  rcases toList_serializeList args with empty | ⟨rest, shape⟩
  · rw [empty]
    exact nofun
  · have quote : (Place.inside depth).scan ['[', '\x7b', '"', 't'] = .failed := rfl
    rw [shape, show '[' :: '\x7b' :: '"' :: 't' :: rest = ['[', '\x7b', '"', 't'] ++ rest from rfl,
      Place.scan_append, quote, Place.scan_failed]
    exact nofun

theorem scan_outside_ne_finished (args : List Value) (depth : Nat) :
    (Place.outside depth).scan (Value.serializeList args).toList ≠ .finished := by
  have settles := Place.scan_print (.array (args.map Value.asJson)) depth
  rw [← Value.serializeList_eq] at settles
  rcases settles with outside | closed
  · rw [outside]
    exact nofun
  · rw [closed]
    exact nofun

/-- No array ends with a colon and a list of arguments, wherever in it they stand. -/
theorem scan_colon_ne_finished (args : List Value) (place : Place) :
    place.scan (':' :: (Value.serializeList args).toList) ≠ .finished := by
  rw [Place.scan_cons]
  cases place with
  | outside depth => exact scan_outside_ne_finished args depth
  | inside depth => exact scan_inside_ne_finished args depth
  | escaped depth => exact scan_inside_ne_finished args depth
  | closed depth => exact scan_outside_ne_finished args depth
  | finished =>
    rw [show Place.finished.next ':' = .failed from rfl, Place.scan_failed]
    exact nofun
  | failed =>
    rw [show Place.failed.next ':' = .failed from rfl, Place.scan_failed]
    exact nofun

/-- A longer statement does not make up for its arguments: what stands between the statements would
have to be the arguments' front. -/
theorem eq_nil_of_front {first second : List Value} {front : List Char}
    (same : ':' :: (Value.serializeList first).toList =
      front ++ ':' :: (Value.serializeList second).toList) : front = [] := by
  cases front with
  | nil => rfl
  | cons colon front =>
    have list := (List.cons.inj same).2
    rw [Value.serializeList_eq first] at list
    obtain ⟨body, shape, finished⟩ := Place.scan_array (first.map Value.asJson)
    rw [shape] at list
    cases front with
    | nil => cases (List.cons.inj list).1
    | cons bracket front =>
      have behind : body = front ++ ':' :: (Value.serializeList second).toList :=
        (List.cons.inj list).2
      rw [behind, Place.scan_append] at finished
      exact absurd finished (scan_colon_ne_finished second _)

/-- Two keys are the same exactly when the statements are and the same is left of all their
arguments, one by one. Numbers that are not finite lose their sign and whether they are numbers at
all, and a leap second that the calendar does not have is taken for the second after it. -/
theorem cacheKey_eq_iff (sql statement : String) (args values : List Value) :
    cacheKey sql args = cacheKey statement values ↔
      sql = statement ∧ args.map Value.kept = values.map Value.kept := by
  rw [← Value.serializeList_eq_iff]
  constructor
  · intro same
    have chars := congrArg String.toList same
    simp only [cacheKey, String.toList_append, List.append_assoc] at chars
    replace chars := List.append_cancel_left chars
    change sql.toList ++ ':' :: (Value.serializeList args).toList =
      statement.toList ++ ':' :: (Value.serializeList values).toList at chars
    rcases List.append_eq_append_iff.mp chars with ⟨front, texts, lists⟩ | ⟨front, texts, lists⟩
    · obtain rfl := eq_nil_of_front lists
      rw [List.append_nil] at texts
      exact ⟨(String.toList_inj.mp texts).symm, String.toList_inj.mp (List.cons.inj lists).2⟩
    · obtain rfl := eq_nil_of_front lists
      rw [List.append_nil] at texts
      exact ⟨String.toList_inj.mp texts, (String.toList_inj.mp (List.cons.inj lists).2).symm⟩
  · rintro ⟨rfl, lists⟩
    rw [cacheKey, cacheKey, lists]

/-- The two infinities have one key. -/
theorem infinities_share_a_key :
    let positive := Value.float (.ofReading (.infinite false))
    let negative := Value.float (.ofReading (.infinite true))
    positive ≠ negative ∧ cacheKey "SELECT ?" [positive] = cacheKey "SELECT ?" [negative] := by
  decide

end FluentSql
