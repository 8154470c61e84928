/-! Key/value lists kept in increasing key order, one value per key. -/
namespace FluentSql

abbrev Entries (α : Type) := List (String × α)

namespace Entries

/-- Put `value` under `key`, in place of what was there. -/
def insert (key : String) (value : α) : Entries α → Entries α
  | [] => [(key, value)]
  | (present, held) :: rest =>
    if key < present then (key, value) :: (present, held) :: rest
    else if key = present then (key, value) :: rest
    else (present, held) :: insert key value rest

/-- Pairs in any order; of equal keys the last one stays. -/
def ofPairs (pairs : List (String × α)) : Entries α :=
  pairs.foldl (fun entries pair => insert pair.1 pair.2 entries) []

def find? (entries : List (String × α)) (key : String) : Option α :=
  (entries.find? fun pair => pair.1 == key).map Prod.snd

theorem find?_insert_self (key : String) (value : α) (entries : Entries α) :
    find? (insert key value entries) key = some value := by
  induction entries with
  | nil => simp [insert, find?]
  | cons entry rest ih =>
    obtain ⟨present, held⟩ := entry
    simp only [insert]
    split
    · simp [find?]
    · split
      · simp_all [find?]
      · simp_all [find?, Ne.symm]

theorem find?_insert_of_ne (key other : String) (value : α) (entries : Entries α)
    (different : other ≠ key) : find? (insert key value entries) other = find? entries other := by
  induction entries with
  | nil => simp [insert, find?, Ne.symm different]
  | cons entry rest ih =>
    obtain ⟨present, held⟩ := entry
    simp only [insert]
    split
    · simp [find?, Ne.symm different]
    · split
      · simp_all [find?, Ne.symm]
      · by_cases same : present = other <;> simp_all [find?]

theorem find?_insert (key other : String) (value : α) (entries : Entries α) :
    find? (insert key value entries) other =
      if other = key then some value else find? entries other := by
  by_cases same : other = key
  · rw [if_pos same, same, find?_insert_self]
  · rw [if_neg same, find?_insert_of_ne key other value entries same]

/-- Leaving out keys shows no other value under those that stay. -/
theorem find?_of_filter {entries : List (String × α)} {gone key : String} {value : α}
    (found : find? (entries.filter fun entry => entry.1 != gone) key = some value) :
    find? entries key = some value := by
  unfold find? at found ⊢
  obtain ⟨entry, hit, shown⟩ := Option.map_eq_some_iff.mp found
  have kept := (List.mem_filter.mp (List.mem_of_find?_eq_some hit)).2
  have named := List.find?_some hit
  have other : key ≠ gone := by
    rintro rfl
    simp_all
  have same : (fun entry : String × α => decide (entry.1 != gone ∧ entry.1 == key)) =
      fun entry => entry.1 == key := by
    funext entry
    by_cases matched : entry.1 = key <;> simp [matched, other]
  rw [List.find?_filter, same] at hit
  rw [hit, Option.map_some, shown]

end Entries
end FluentSql
