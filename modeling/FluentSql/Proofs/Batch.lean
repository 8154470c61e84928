import FluentSql.Query.Batch

/-! Records with distinct columns: sorting them, alone or in a batch, keeps the value of every
column. -/
namespace FluentSql

namespace Entries

theorem find?_cons_self (key : String) (value : α) (rest : List (String × α)) :
    find? ((key, value) :: rest) key = some value := by
  simp [find?]

theorem find?_cons_of_ne {key other : String} (different : key ≠ other) (value : α)
    (rest : List (String × α)) : find? ((key, value) :: rest) other = find? rest other := by
  simp [find?, different]

theorem find?_eq_none {pairs : List (String × α)} {key : String}
    (absent : key ∉ pairs.map Prod.fst) : find? pairs key = none := by
  induction pairs with
  | nil => rfl
  | cons pair rest ih =>
    obtain ⟨present, value⟩ := pair
    simp only [List.map_cons, List.mem_cons, not_or] at absent
    rw [find?_cons_of_ne (Ne.symm absent.1), ih absent.2]

/-- Pairs put into entries one after another are found there, and before what was there. -/
theorem find?_foldl_insert (pairs : List (String × α)) (distinct : (pairs.map Prod.fst).Nodup)
    (entries : Entries α) (key : String) :
    find? (pairs.foldl (fun entries pair => insert pair.1 pair.2 entries) entries) key =
      (find? pairs key).or (find? entries key) := by
  induction pairs generalizing entries with
  | nil => rfl
  | cons pair rest ih =>
    obtain ⟨present, value⟩ := pair
    obtain ⟨absent, others⟩ := List.nodup_cons.mp distinct
    rw [List.foldl_cons, ih others]
    by_cases same : present = key
    · subst key
      rw [find?_eq_none absent, find?_insert_self, find?_cons_self]
      rfl
    · rw [find?_insert_of_ne _ _ _ _ (Ne.symm same), find?_cons_of_ne same]

theorem find?_ofPairs {pairs : List (String × α)} (distinct : (pairs.map Prod.fst).Nodup)
    (key : String) : find? (ofPairs pairs) key = find? pairs key := by
  rw [ofPairs, find?_foldl_insert pairs distinct]
  cases find? pairs key <;> rfl

theorem mem_keys_insert {key other : String} {value : α} {entries : Entries α}
    (member : other ∈ (insert key value entries).map Prod.fst) :
    other = key ∨ other ∈ entries.map Prod.fst := by
  induction entries with
  | nil => exact Or.inl (by simpa [insert] using member)
  | cons entry rest ih =>
    obtain ⟨present, held⟩ := entry
    simp only [insert] at member
    split at member
    · simpa using member
    · split at member
      · rcases List.mem_cons.mp member with same | later
        · exact Or.inl same
        · exact Or.inr (List.mem_cons_of_mem present later)
      · rcases List.mem_cons.mp member with same | later
        · exact Or.inr (by simp [same])
        · rcases ih later with same | behind
          · exact Or.inl same
          · exact Or.inr (List.mem_cons_of_mem present behind)

theorem mem_keys_foldl_insert {pairs : List (String × α)} {entries : Entries α} {key : String}
    (member : key ∈ (pairs.foldl (fun entries pair => insert pair.1 pair.2 entries)
      entries).map Prod.fst) : key ∈ pairs.map Prod.fst ∨ key ∈ entries.map Prod.fst := by
  induction pairs generalizing entries with
  | nil => exact Or.inr member
  | cons pair rest ih =>
    rcases ih member with later | present
    · exact Or.inl (List.mem_cons_of_mem pair.1 later)
    · rcases mem_keys_insert present with same | before
      · exact Or.inl (by simp [same])
      · exact Or.inr before

theorem mem_keys_ofPairs {pairs : List (String × α)} {key : String}
    (member : key ∈ (ofPairs pairs).map Prod.fst) : key ∈ pairs.map Prod.fst := by
  rcases mem_keys_foldl_insert member with present | empty
  · exact present
  · cases empty

end Entries

namespace Fields

theorem values_eq_map (fields : Fields) (distinct : fields.columns.Nodup) :
    fields.values = fields.columns.map (Batch.value fields) := by
  induction fields with
  | nil => rfl
  | cons field rest ih =>
    obtain ⟨column, value⟩ := field
    obtain ⟨absent, others⟩ := List.nodup_cons.mp distinct
    have kept (other : String) (member : other ∈ columns rest) :
        Batch.value ((column, value) :: rest) other = Batch.value rest other := by
      have different : column ≠ other := by
        intro same
        subst other
        exact absent member
      rw [Batch.value, Entries.find?_cons_of_ne different, Batch.value]
    have head : Batch.value ((column, value) :: rest) column = value := by
      rw [Batch.value, Entries.find?_cons_self, Option.getD_some]
    have tail := List.map_congr_left kept
    change value :: values rest = _ :: (columns rest).map _
    rw [head, tail, ih others]

end Fields

namespace Batch

theorem value_ofPairs {fields : Fields} (distinct : fields.columns.Nodup) :
    value (Entries.ofPairs fields) = value fields := by
  funext column
  rw [value, Entries.find?_ofPairs distinct, value]

/-- The columns of the first record, sorted. -/
def columnsOf : List Fields → List String
  | [] => []
  | first :: _ => keys (Entries.ofPairs first)

theorem collect_eq_ok {records : List Fields} {batch : Batch}
    (collected : collect records = .ok batch) :
    batch = ⟨columnsOf records, records.map Entries.ofPairs⟩ := by
  cases records with
  | nil => exact (Except.ok.inj collected).symm
  | cons first rest =>
    simp only [collect, List.map_cons] at collected
    split at collected
    · cases collected
    · exact (Except.ok.inj collected).symm

/-- What is made of the values of every sorted record is made of those of the records. -/
theorem map_rows_eq {records : List Fields} (distinct : ∀ fields ∈ records, fields.columns.Nodup)
    (make : (String → Value) → β) :
    ((records.map Entries.ofPairs).map fun row => make (value row)) =
      records.map fun fields => make (value fields) := by
  rw [List.map_map]
  apply List.map_congr_left
  intro fields member
  exact congrArg make (value_ofPairs (distinct fields member))

theorem flatMap_rows_eq {records : List Fields}
    (distinct : ∀ fields ∈ records, fields.columns.Nodup) (make : (String → Value) → List β) :
    ((records.map Entries.ofPairs).flatMap fun row => make (value row)) =
      records.flatMap fun fields => make (value fields) := by
  rw [List.flatMap_def, map_rows_eq distinct, ← List.flatMap_def]

end Batch
end FluentSql
