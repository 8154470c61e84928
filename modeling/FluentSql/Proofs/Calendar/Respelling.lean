import FluentSql.Proofs.Calendar.Translation
import Mathlib.Algebra.Ring.Parity
import Mathlib.Data.List.DropRight

/-! How patterns split, and what is left of that in another spelling. A text splits in one way, and
two texts put together split like each alone unless the first ends in a percent sign without a
letter. Since every entry of the `strftime` table is a pair again, the `strftime` form of a pattern
splits at the places where the pattern does. -/
namespace FluentSql.Pattern

/-- How a text splits from left to right: a percent sign goes with the character after it, every
other character is alone, and so is a percent sign at the end. -/
inductive Splits : List Char → List Item → Prop where
  | done : Splits [] []
  | lone : Splits ['%'] [.literal '%']
  | pair {rest : List Char} {split : List Item} (letter : Char) (behind : Splits rest split) :
      Splits ('%' :: letter :: rest) (.token letter :: split)
  | single {char : Char} {rest : List Char} {split : List Item} (unmarked : char ≠ '%')
      (behind : Splits rest split) : Splits (char :: rest) (.literal char :: split)

theorem splits_items (text : List Char) : Splits text (items text) := by
  fun_induction items text with
  | case1 => exact .done
  | case2 => exact .lone
  | case3 letter rest ih => exact .pair letter ih
  | case4 char rest endless pairless ih =>
    exact .single (ne_percent_of_single endless pairless) ih

theorem Splits.items_eq {text : List Char} {split : List Item} (splits : Splits text split) :
    items text = split := by
  induction splits with
  | done => rfl
  | lone => rfl
  | pair letter _ ih => rw [items, ih]
  | single unmarked _ ih => rw [items_literal unmarked, ih]

/-- There is one way to split a text. -/
theorem splits_iff {text : List Char} {split : List Item} :
    Splits text split ↔ items text = split := by
  constructor
  · exact Splits.items_eq
  · rintro rfl
    exact splits_items text

/-- A text whose last percent sign has no character after it to go with. -/
def EndsUnpaired (text : List Char) : Prop := ∃ before, Splits text (before ++ [.literal '%'])

section Append

variable {front rest : List Char} {split split' : List Item} {letter char : Char}

theorem EndsUnpaired.pair (letter : Char) (unpaired : EndsUnpaired rest) :
    EndsUnpaired ('%' :: letter :: rest) := by
  obtain ⟨before, splits⟩ := unpaired
  exact ⟨.token letter :: before, .pair letter splits⟩

theorem EndsUnpaired.single (unmarked : char ≠ '%') (unpaired : EndsUnpaired rest) :
    EndsUnpaired (char :: rest) := by
  obtain ⟨before, splits⟩ := unpaired
  exact ⟨.literal char :: before, .single unmarked splits⟩

/-- Two texts put together split like each of them. -/
theorem Splits.append (splits : Splits front split) (paired : ¬ EndsUnpaired front)
    (splits' : Splits rest split') : Splits (front ++ rest) (split ++ split') := by
  induction splits with
  | done => exact splits'
  | lone => exact absurd ⟨[], .lone⟩ paired
  | pair letter _ ih => exact .pair letter (ih fun unpaired => paired (unpaired.pair letter))
  | single unmarked _ ih =>
    exact .single unmarked (ih fun unpaired => paired (unpaired.single unmarked))

/-- An unpaired percent sign goes with the character that is put behind it. -/
theorem Splits.append_letter {before : List Item} (letter : Char)
    (splits : Splits front (before ++ [.literal '%'])) :
    Splits (front ++ [letter]) (before ++ [.token letter]) := by
  induction before generalizing front with
  | nil =>
    cases splits with
    | lone => exact .pair letter .done
    | single unmarked _ => exact absurd rfl unmarked
  | cons item before ih =>
    generalize shape : item :: before ++ [.literal '%'] = split at splits
    cases splits with
    | done => cases shape
    | lone => simp at shape
    | pair own behind =>
      obtain ⟨rfl, rfl⟩ := List.cons.inj shape
      exact .pair own (ih behind)
    | single unmarked behind =>
      obtain ⟨rfl, rfl⟩ := List.cons.inj shape
      exact .single unmarked (ih behind)

end Append

section Marks

/-- The percent signs at the end of a text. -/
def marksAtEnd (text : List Char) : Nat := (text.rtakeWhile (· == '%')).length

theorem marksAtEnd_le (text : List Char) : marksAtEnd text ≤ text.length :=
  (List.rtakeWhile_suffix _ text).length_le

theorem marksAtEnd_cons_of_ne {char : Char} (unmarked : char ≠ '%') (rest : List Char) :
    marksAtEnd (char :: rest) = marksAtEnd rest := by
  simp only [marksAtEnd, List.rtakeWhile, List.reverse_cons, List.takeWhile_append]
  split_ifs <;> simp_all

/-- A percent sign at the start is one more of them if nothing else comes after it. -/
theorem marksAtEnd_cons_percent (rest : List Char) :
    marksAtEnd ('%' :: rest) =
      marksAtEnd rest + if marksAtEnd rest = rest.length then 1 else 0 := by
  simp only [marksAtEnd, List.rtakeWhile, List.reverse_cons, List.takeWhile_append]
  split_ifs <;> simp_all

theorem Splits.getLast?_eq_iff_odd {text : List Char} {split : List Item}
    (splits : Splits text split) :
    split.getLast? = some (.literal '%') ↔ Odd (marksAtEnd text) := by
  induction splits with
  | done => decide
  | lone => decide
  | @pair rest split letter _ ih =>
    have parity : marksAtEnd ('%' :: letter :: rest) % 2 = marksAtEnd rest % 2 := by
      have bound := marksAtEnd_le rest
      by_cases mark : letter = '%'
      · rw [mark, marksAtEnd_cons_percent, marksAtEnd_cons_percent, List.length_cons]
        split_ifs <;> omega
      · rw [marksAtEnd_cons_percent, marksAtEnd_cons_of_ne mark, List.length_cons]
        split_ifs <;> omega
    rw [Nat.odd_iff, parity, ← Nat.odd_iff, ← ih]
    cases split <;> simp
  | @single char rest split unmarked _ ih =>
    rw [marksAtEnd_cons_of_ne unmarked, ← ih]
    cases split <;> simp [unmarked]

/-- A text ends in an unpaired percent sign if and only if an odd number of them ends it. -/
theorem endsUnpaired_iff_odd {text : List Char} : EndsUnpaired text ↔ Odd (marksAtEnd text) := by
  rw [← (splits_items text).getLast?_eq_iff_odd, List.getLast?_eq_some_iff]
  exact exists_congr fun before => splits_iff

instance : DecidablePred EndsUnpaired := fun _ => decidable_of_iff _ endsUnpaired_iff_odd.symm

end Marks

/-- What a table makes of an item: of a known pair the pair that its entry is, and of everything
else nothing new. -/
inductive Item.Becomes (table : List (Char × String)) : Item → Item → Prop where
  | known {letter other : Char} {spelling : String} (entry : (letter, spelling) ∈ table)
      (written : spelling.toList = ['%', other]) : Becomes table (.token letter) (.token other)
  | unknown {letter : Char} (absent : ∀ spelling, (letter, spelling) ∉ table) :
      Becomes table (.token letter) (.token letter)
  | literal (char : Char) : Becomes table (.literal char) (.literal char)

section Table

variable {table : List (Char × String)} {text : List Char} {split : List Item}

/-- A pair is written as its entry, or as it is where there is none. -/
theorem respell_token (table : List (Char × String)) (letter : Char) :
    (∃ spelling, (letter, spelling) ∈ table ∧
      (Item.token letter).respell table = spelling.toList) ∨
    (∀ spelling, (letter, spelling) ∉ table) ∧
      (Item.token letter).respell table = ['%', letter] := by
  cases found : table.find? fun entry => entry.1 == letter with
  | none =>
    right
    refine ⟨fun spelling entry => ?_, by rw [Item.respell, found]⟩
    exact List.find?_eq_none.mp found (letter, spelling) entry (beq_self_eq_true letter)
  | some entry =>
    left
    have same := List.find?_some found
    obtain rfl := eq_of_beq same
    exact ⟨entry.2, List.mem_of_find?_eq_some found, by rw [Item.respell, found]⟩

/-- A table of pairs writes a pair for a pair, so the text it writes splits in the same places. -/
theorem Splits.respelled (pairs : ∀ entry ∈ table, ∃ other, entry.2.toList = ['%', other])
    (splits : Splits text split) :
    ∃ written, Splits (split.flatMap (Item.respell table)) written ∧
      List.Forall₂ (Item.Becomes table) split written := by
  induction splits with
  | done => exact ⟨[], .done, .nil⟩
  | lone => exact ⟨[.literal '%'], .lone, .cons (.literal '%') .nil⟩
  | pair letter _ ih =>
    obtain ⟨written, behind, places⟩ := ih
    obtain ⟨spelling, entry, spelled⟩ | ⟨absent, spelled⟩ := respell_token table letter
    · obtain ⟨other, shape⟩ := pairs (letter, spelling) entry
      refine ⟨.token other :: written, ?_, .cons (.known entry shape) places⟩
      rw [List.flatMap_cons, spelled, shape]
      exact .pair other behind
    · refine ⟨.token letter :: written, ?_, .cons (.unknown absent) places⟩
      rw [List.flatMap_cons, spelled]
      exact .pair letter behind
  | @single char _ _ unmarked _ ih =>
    obtain ⟨written, behind, places⟩ := ih
    exact ⟨.literal char :: written, .single unmarked behind, .cons (.literal char) places⟩

theorem respell_append (table : List (Char × String)) {pattern : String}
    (paired : ¬ EndsUnpaired pattern.toList) (rest : String) :
    respell table (pattern ++ rest) = respell table pattern ++ respell table rest := by
  have together := (splits_items pattern.toList).append paired (splits_items rest.toList)
  rw [respell, String.toList_append, together.items_eq, List.flatMap_append, String.ofList_append]
  rfl

end Table

/-- Every entry of the `strftime` table is a pair again. -/
theorem strftimeTable_pairs :
    ∀ entry ∈ strftimeTable, ∃ other, entry.2.toList = ['%', other] := by
  have shape : ∀ entry ∈ strftimeTable,
      entry.2.toList = ['%', entry.2.toList.getLastD '%'] := by decide
  intro entry member
  exact ⟨_, shape entry member⟩

/-- A percent sign that was alone can be half of a known pair. -/
theorem strftime_append_ne_of_endsUnpaired {pattern : String}
    (unpaired : EndsUnpaired pattern.toList) :
    strftime (pattern ++ "i") ≠ strftime pattern ++ strftime "i" := by
  obtain ⟨before, splits⟩ := unpaired
  have paired : items (pattern ++ "i").toList = before ++ [.token 'i'] := by
    rw [String.toList_append]
    exact (splits.append_letter 'i').items_eq
  intro same
  have texts := congrArg String.toList same
  rw [strftime, strftime, strftime, respell, respell, respell, paired, splits.items_eq,
    String.toList_append, String.toList_ofList, String.toList_ofList, String.toList_ofList,
    List.flatMap_append, List.flatMap_append, List.append_assoc, List.append_cancel_left_eq]
    at texts
  exact absurd texts (by decide)

/-- The `strftime` form of a pattern splits in the places where the pattern does, with the entry of
the table in the place of every known pair and everything else as it is. The form of two patterns
put together is that of each if and only if the first does not end in an unpaired percent sign. -/
theorem strftime_keeps_places (pattern : String) :
    (∃ split written, Splits pattern.toList split ∧ Splits (strftime pattern).toList written ∧
      List.Forall₂ (Item.Becomes strftimeTable) split written) ∧
    ((∀ rest, strftime (pattern ++ rest) = strftime pattern ++ strftime rest) ↔
      ¬ EndsUnpaired pattern.toList) := by
  constructor
  · have splits := splits_items pattern.toList
    obtain ⟨written, shape, places⟩ := splits.respelled strftimeTable_pairs
    refine ⟨items pattern.toList, written, splits, ?_, places⟩
    rw [strftime, respell, String.toList_ofList]
    exact shape
  · constructor
    · intro additive unpaired
      exact strftime_append_ne_of_endsUnpaired unpaired (additive "i")
    · intro paired rest
      exact respell_append strftimeTable paired rest

example : EndsUnpaired "%Y %%%".toList ∧ strftime "%Y %%%" = "%Y %%%" := by decide

end FluentSql.Pattern
