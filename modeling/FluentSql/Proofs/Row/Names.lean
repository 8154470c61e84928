import FluentSql.Proofs.Row.Alignment

/-! Rows with repeated names. A read by name takes the first of the values that were pushed under
the name, the map of the row keeps the last of them. -/
namespace FluentSql.Row

/-- The values under a name, in the order in which they were pushed. -/
def valuesUnder (column : String) (pushed : List (String × Value)) : List Value :=
  (pushed.filter fun cell => cell.1 == column).map Prod.snd

theorem find?_eq_head? (pushed : List (String × Value)) (column : String) :
    Entries.find? pushed column = (valuesUnder column pushed).head? := by
  rw [valuesUnder, List.head?_map, List.head?_filter]
  rfl

theorem find?_reverse_eq_getLast? (pushed : List (String × Value)) (column : String) :
    Entries.find? pushed.reverse column = (valuesUnder column pushed).getLast? := by
  rw [valuesUnder, List.getLast?_map, List.getLast?_filter]
  rfl

theorem cells_ofPairs (pushed : List (String × Value)) : (ofPairs pushed).cells = pushed :=
  aligned_empty.cells_pushAll pushed

theorem aligned_ofPairs (pushed : List (String × Value)) : (ofPairs pushed).Aligned :=
  (aligned_pushAll_iff empty pushed).mpr aligned_empty

theorem value?_ofPairs (pushed : List (String × Value)) (column : String) :
    (ofPairs pushed).value? column = .ok (valuesUnder column pushed).head? := by
  rw [(aligned_ofPairs pushed).consistent.value?, cells_ofPairs, find?_eq_head?]

theorem find?_toEntries_ofPairs (pushed : List (String × Value)) (column : String) :
    Entries.find? (ofPairs pushed).toEntries column = (valuesUnder column pushed).getLast? := by
  rw [(aligned_ofPairs pushed).consistent.toEntries, cells_ofPairs,
    Entries.find?_ofPairs_eq_reverse, find?_reverse_eq_getLast?]

/-- Decoded as a value, what was found under a name is told apart from all else. -/
theorem decodeNamed_injective (column : String) {first second : Option Value}
    (same : (decodeNamed column first : Except Halt Value) = decodeNamed column second) :
    first = second := by
  cases first with
  | none =>
    cases second with
    | none => rfl
    | some _ => cases same
  | some _ =>
    cases second with
    | none => cases same
    | some _ => exact congrArg some (Except.ok.inj same)

/-- Under distinct names at most one value is found for each. -/
theorem valuesUnder_of_nodup {pushed : List (String × Value)}
    (distinct : (pushed.map Prod.fst).Nodup) (column : String) :
    (valuesUnder column pushed).length ≤ 1 := by
  have counted := List.nodup_iff_count_le_one.mp distinct column
  rw [List.count, List.countP_map] at counted
  rwa [valuesUnder, List.length_map, ← List.countP_eq_length_filter]

/-- A row and its map have the same names. Under a name the row gives the first value that was
pushed and its map the last, so the two agree, for whatever type the column is decoded to, exactly
where these are one value, as under distinct names they are. -/
theorem by_name_and_by_map_agree_iff (pushed : List (String × Value)) (column : String) :
    let row := ofPairs pushed
    let values := valuesUnder column pushed
    row.value? column = .ok values.head? ∧
      Entries.find? row.toEntries column = values.getLast? ∧
      (column ∈ row.toEntries.map Prod.fst ↔ ∃ value, row.value? column = .ok (some value)) ∧
      (row.value? column = .ok (Entries.find? row.toEntries column) ↔
        values.head? = values.getLast?) ∧
      ((∀ {α : Type} [FromValue α], (row.get column : Except Halt α) =
        decodeNamed column (Entries.find? row.toEntries column)) ↔
          values.head? = values.getLast?) ∧
      ((pushed.map Prod.fst).Nodup → values.head? = values.getLast?) := by
  intro row values
  have first : row.value? column = .ok values.head? := value?_ofPairs pushed column
  have last : Entries.find? row.toEntries column = values.getLast? :=
    find?_toEntries_ofPairs pushed column
  refine ⟨first, last, ?present, ?raw, ?decoded, ?distinct⟩
  case present =>
    rw [← Entries.isSome_find?_iff, last, first]
    simp [← Option.isSome_iff_exists]
  case raw => rw [first, last, Except.ok.injEq]
  case decoded =>
    have read : ∀ {α : Type} [FromValue α],
        (row.get column : Except Halt α) = decodeNamed column values.head? := by
      intro α _
      rw [get, first]
      rfl
    rw [last]
    constructor
    · intro agree
      exact decodeNamed_injective column (read.symm.trans agree)
    · intro same α _
      rw [read, same]
  case distinct =>
    intro distinct
    have few : values.length ≤ 1 := valuesUnder_of_nodup distinct column
    cases held : values with
    | nil => rfl
    | cons value rest =>
      rw [held, List.length_cons] at few
      obtain rfl := List.eq_nil_of_length_eq_zero (by omega : rest.length = 0)
      rfl

/-- Of two columns of one name the row gives the first and its map the second. -/
theorem repeated_name_read_apart :
    let row := (empty.push "id" (.int 1)).push "id" (.int 2)
    row.value? "id" = .ok (some (.int 1)) ∧
      Entries.find? row.toEntries "id" = some (.int 2) := by
  decide

end FluentSql.Row
