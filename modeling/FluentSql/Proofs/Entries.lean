import FluentSql.Proofs.Batch
import Mathlib.Data.List.Sort

/-! Pairs put into key order. Every key is there once, with the last of its values, and pairs that
are in order already stay as they are. -/
namespace FluentSql.Entries

/-- Every key is below the ones behind it. -/
def Sorted (entries : Entries α) : Prop := (entries.map Prod.fst).Pairwise (· < ·)

instance (entries : Entries α) : Decidable (Sorted entries) :=
  inferInstanceAs (Decidable (List.Pairwise _ _))

theorem mem_keys_insert_iff {key other : String} {value : α} {entries : Entries α} :
    other ∈ (insert key value entries).map Prod.fst ↔
      other = key ∨ other ∈ entries.map Prod.fst := by
  refine ⟨mem_keys_insert, ?_⟩
  induction entries with
  | nil => simp [insert]
  | cons entry rest ih =>
    obtain ⟨present, held⟩ := entry
    simp only [insert]
    split
    · simp
    · split
      · rename_i same
        simp [same]
      · simp only [List.map_cons, List.mem_cons] at ih ⊢
        rintro (same | same | later)
        · exact Or.inr (ih (Or.inl same))
        · exact Or.inl same
        · exact Or.inr (ih (Or.inr later))

theorem Sorted.insert {entries : Entries α} (sorted : Sorted entries) (key : String) (value : α) :
    Sorted (insert key value entries) := by
  induction entries with
  | nil => exact List.pairwise_singleton _ _
  | cons entry rest ih =>
    obtain ⟨present, held⟩ := entry
    obtain ⟨above, others⟩ := List.pairwise_cons.mp sorted
    simp only [Entries.insert]
    split
    · rename_i below
      refine List.pairwise_cons.mpr ⟨?_, sorted⟩
      rintro other member
      rcases List.mem_cons.mp member with rfl | later
      · exact below
      · exact String.lt_trans below (above other later)
    · rename_i notBelow
      split
      · rename_i same
        subst same
        exact sorted
      · rename_i different
        refine List.pairwise_cons.mpr ⟨?_, ih others⟩
        intro other member
        rcases mem_keys_insert_iff.mp member with rfl | later
        · exact String.not_le.mp fun atMost =>
            different (String.le_antisymm atMost (String.not_lt.mp notBelow))
        · exact above other later

theorem Sorted.foldl_insert (pairs : List (String × α)) {entries : Entries α}
    (sorted : Sorted entries) :
    Sorted (pairs.foldl (fun entries pair => Entries.insert pair.1 pair.2 entries) entries) := by
  induction pairs generalizing entries with
  | nil => exact sorted
  | cons pair rest ih => exact ih (sorted.insert pair.1 pair.2)

theorem sorted_ofPairs (pairs : List (String × α)) : Sorted (ofPairs pairs) :=
  Sorted.foldl_insert pairs List.Pairwise.nil

theorem mem_keys_ofPairs_iff {pairs : List (String × α)} {key : String} :
    key ∈ (ofPairs pairs).map Prod.fst ↔ key ∈ pairs.map Prod.fst := by
  refine ⟨mem_keys_ofPairs, ?_⟩
  have kept : ∀ (entries : Entries α),
      key ∈ pairs.map Prod.fst ∨ key ∈ entries.map Prod.fst →
      key ∈ (pairs.foldl (fun entries pair => Entries.insert pair.1 pair.2 entries)
        entries).map Prod.fst := by
    induction pairs with
    | nil => simp
    | cons pair rest ih =>
      intro entries present
      refine ih _ ?_
      rw [mem_keys_insert_iff]
      simp only [List.map_cons, List.mem_cons] at present
      tauto
  exact fun member => kept [] (Or.inl member)

/-- Two lists of pairs have the same keys when they have them in the same order. -/
theorem keys_ofPairs_eq_iff {first second : List (String × α)} :
    (ofPairs first).map Prod.fst = (ofPairs second).map Prod.fst ↔
      ∀ key, key ∈ first.map Prod.fst ↔ key ∈ second.map Prod.fst := by
  constructor
  · intro same key
    rw [← mem_keys_ofPairs_iff, same, mem_keys_ofPairs_iff]
  · intro same
    refine (sorted_ofPairs first).eq_of_mem_iff (sorted_ofPairs second) fun key => ?_
    rw [mem_keys_ofPairs_iff, mem_keys_ofPairs_iff, same]

theorem isSome_find?_iff {pairs : List (String × α)} {key : String} :
    (find? pairs key).isSome ↔ key ∈ pairs.map Prod.fst := by
  simp [find?, List.find?_isSome]

theorem find?_append (first second : List (String × α)) (key : String) :
    find? (first ++ second) key = (find? first key).or (find? second key) := by
  unfold find?
  rw [List.find?_append]
  cases first.find? fun pair => pair.1 == key <;> rfl

/-- Of equal keys the last one counts. -/
theorem find?_ofPairs_eq_reverse (pairs : List (String × α)) (key : String) :
    find? (ofPairs pairs) key = find? pairs.reverse key := by
  have kept : ∀ (entries : Entries α),
      find? (pairs.foldl (fun entries pair => Entries.insert pair.1 pair.2 entries) entries) key =
        (find? pairs.reverse key).or (find? entries key) := by
    induction pairs with
    | nil => intro entries; rfl
    | cons pair rest ih =>
      intro entries
      obtain ⟨present, value⟩ := pair
      rw [List.foldl_cons, ih, List.reverse_cons, find?_append, Option.or_assoc]
      by_cases same : key = present
      · subst same
        rw [find?_insert_self, find?_cons_self]
        rfl
      · rw [find?_insert_of_ne _ _ _ _ same, find?_cons_of_ne (Ne.symm same)]
        rfl
  rw [ofPairs, kept]
  exact Option.or_none

/-- A key above all others goes to the end. -/
theorem insert_above {entries : Entries α} {key : String}
    (above : ∀ present ∈ entries.map Prod.fst, present < key) (value : α) :
    insert key value entries = entries ++ [(key, value)] := by
  induction entries with
  | nil => rfl
  | cons entry rest ih =>
    obtain ⟨present, held⟩ := entry
    have below : present < key := above present List.mem_cons_self
    have different : key ≠ present := by
      rintro rfl
      exact String.lt_irrefl _ below
    rw [insert, if_neg (String.lt_asymm below), if_neg different,
      ih fun other member => above other (List.mem_cons_of_mem present member)]
    rfl

/-- Pairs in order stay as they are. -/
theorem ofPairs_of_sorted {pairs : List (String × α)} (sorted : Sorted pairs) :
    ofPairs pairs = pairs := by
  have kept : ∀ (entries : Entries α), Sorted (entries ++ pairs) →
      pairs.foldl (fun entries pair => Entries.insert pair.1 pair.2 entries) entries =
        entries ++ pairs := by
    clear sorted
    induction pairs with
    | nil => intro entries _; exact (List.append_nil entries).symm
    | cons pair rest ih =>
      intro entries sorted
      obtain ⟨key, value⟩ := pair
      have apart := sorted
      rw [Sorted, List.map_append, List.pairwise_append] at apart
      have above := fun present member => apart.2.2 present member key List.mem_cons_self
      rw [List.foldl_cons, insert_above above, ih _ (by simpa using sorted), List.append_assoc]
      rfl
  exact kept [] sorted

end FluentSql.Entries
