import FluentSql.Dialect.Dates
import Mathlib.Data.List.Infix
import Mathlib.Tactic.Common

/-! What the `TO_CHAR` form of a pattern still tells about it. The form has no mark for a token, so
literal text that reads like the spelling of a token cannot be told from the token: a pattern has a
form of its own exactly where no spelling occurs in the form. Among patterns in whose forms every
item is the longest spelling at its place, all forms are different. -/
namespace FluentSql.Pattern

def isKnown (letter : Char) : Bool := toCharTable.any fun entry => entry.1 == letter

/-- Both letters for the seconds stand for one token. -/
def tokenLetter (letter : Char) : Char := if letter = 'S' then 's' else letter

/-- An item as a token of the table or as literal characters. -/
def Item.reading : Item → List Item
  | .literal char => [.literal char]
  | .token letter =>
    if isKnown letter then [.token (tokenLetter letter)] else [.literal '%', .literal letter]

/-- A pattern as a sequence of tokens of the table and literal characters. -/
def sequence (pattern : String) : List Item := (items pattern.toList).flatMap Item.reading

/-- How an item is written for `TO_CHAR`. -/
def spell (sequence : List Item) : List Char := sequence.flatMap (Item.respell toCharTable)

@[simp] theorem spell_nil : spell [] = [] := rfl

@[simp] theorem spell_cons (item : Item) (rest : List Item) :
    spell (item :: rest) = item.respell toCharTable ++ spell rest := rfl

@[simp] theorem spell_append (first second : List Item) :
    spell (first ++ second) = spell first ++ spell second :=
  List.flatMap_append

section Table

variable {letter : Char} {spelling : String}

theorem isKnown_iff : isKnown letter = true ↔ ∃ spelling, (letter, spelling) ∈ toCharTable := by
  simp [isKnown]

theorem isKnown_of_mem (entry : (letter, spelling) ∈ toCharTable) : isKnown letter = true :=
  isKnown_iff.mpr ⟨spelling, entry⟩

/-- No letter has two entries, and the two of the seconds have one spelling. -/
theorem respell_of_mem (entry : (letter, spelling) ∈ toCharTable) :
    (Item.token letter).respell toCharTable = spelling.toList ∧
      (Item.token (tokenLetter letter)).respell toCharTable = spelling.toList := by
  have table : ∀ entry ∈ toCharTable,
      (Item.token entry.1).respell toCharTable = entry.2.toList ∧
        (Item.token (tokenLetter entry.1)).respell toCharTable = entry.2.toList := by decide
  exact table (letter, spelling) entry

theorem respell_of_unknown (unknown : isKnown letter = false) :
    (Item.token letter).respell toCharTable = ['%', letter] := by
  have absent : toCharTable.find? (fun entry => entry.1 == letter) = none := by
    rw [List.find?_eq_none]
    exact List.any_eq_false.mp unknown
  rw [Item.respell, absent]

/-- Tokens with one spelling are one token. -/
theorem tokenLetter_eq_of_spelling {other : Char} (entry : (letter, spelling) ∈ toCharTable)
    (entry' : (other, spelling) ∈ toCharTable) : tokenLetter letter = tokenLetter other := by
  have table : ∀ entry ∈ toCharTable, ∀ other ∈ toCharTable, entry.2 = other.2 →
      tokenLetter entry.1 = tokenLetter other.1 := by decide
  exact table (letter, spelling) entry (other, spelling) entry' rfl

theorem spelling_ne_nil (entry : (letter, spelling) ∈ toCharTable) : spelling.toList ≠ [] := by
  have table : ∀ entry ∈ toCharTable, entry.2.toList ≠ [] := by decide
  exact table (letter, spelling) entry

end Table

theorem spell_reading (item : Item) : spell item.reading = item.respell toCharTable := by
  cases item with
  | literal char => rfl
  | token letter =>
    cases known : isKnown letter with
    | true =>
      obtain ⟨spelling, entry⟩ := isKnown_iff.mp known
      obtain ⟨own, unified⟩ := respell_of_mem entry
      rw [Item.reading, if_pos known, spell_cons, spell_nil, List.append_nil, own, unified]
    | false =>
      rw [Item.reading, known, respell_of_unknown known]
      rfl

theorem spell_flatMap_reading (items : List Item) :
    spell (items.flatMap Item.reading) = spell items := by
  induction items with
  | nil => rfl
  | cons item rest ih => rw [List.flatMap_cons, spell_append, spell_reading, ih, spell_cons]

/-- A pattern is written for `TO_CHAR` as its sequence is spelled. -/
theorem toList_toChar (pattern : String) : (toChar pattern).toList = spell (sequence pattern) := by
  rw [sequence, spell_flatMap_reading, toChar, respell, String.toList_ofList, spell]

theorem toChar_eq_iff {pattern other : String} :
    toChar pattern = toChar other ↔ spell (sequence pattern) = spell (sequence other) := by
  rw [← toList_toChar, ← toList_toChar, String.toList_inj]

section Literal

/-- A character as a pattern shows it without a token: a percent sign has to be doubled. -/
def plain (char : Char) : Item := if char = '%' then .token '%' else .literal char

/-- A pattern that shows a text as it is. -/
def doubled (text : List Char) : List Char :=
  text.flatMap fun char => if char = '%' then ['%', '%'] else [char]

/-- A character that neither ends a text as a percent sign nor begins a pair is no percent sign. -/
theorem ne_percent_of_single {char : Char} {rest : List Char}
    (endless : char = '%' → rest = [] → False)
    (pairless : ∀ letter others, char = '%' → rest = letter :: others → False) : char ≠ '%' := by
  intro mark
  cases rest with
  | nil => exact endless mark rfl
  | cons letter others => exact pairless letter others mark rfl

theorem items_literal {char : Char} (unmarked : char ≠ '%') (rest : List Char) :
    items (char :: rest) = .literal char :: items rest := by
  rw [items]
  · intro only _
    exact unmarked only
  · intro letter others only _
    exact unmarked only

theorem items_doubled_append (text rest : List Char) :
    items (doubled text ++ rest) = text.map plain ++ items rest := by
  induction text with
  | nil => rfl
  | cons char text ih =>
    by_cases mark : char = '%'
    · have shape : doubled (char :: text) ++ rest = '%' :: '%' :: (doubled text ++ rest) := by
        simp [doubled, mark]
      rw [shape, items, ih, List.map_cons, plain, if_pos mark, List.cons_append]
    · have shape : doubled (char :: text) ++ rest = char :: (doubled text ++ rest) := by
        simp [doubled, mark]
      rw [shape, items_literal mark, ih, List.map_cons, plain, if_neg mark, List.cons_append]

theorem items_doubled (text : List Char) : items (doubled text) = text.map plain := by
  have shown := items_doubled_append text []
  rwa [List.append_nil, items, List.append_nil] at shown

theorem reading_plain (char : Char) : (plain char).reading = [plain char] := by
  by_cases mark : char = '%'
  · rw [plain, if_pos mark]
    rfl
  · rw [plain, if_neg mark]
    rfl

theorem flatMap_reading_plain (text : List Char) :
    (text.map plain).flatMap Item.reading = text.map plain := by
  rw [List.flatMap_map, funext reading_plain, ← List.map_eq_flatMap]

theorem spell_map_plain (text : List Char) : spell (text.map plain) = text := by
  have each (char : Char) : (plain char).respell toCharTable = [char] := by
    by_cases mark : char = '%'
    · rw [plain, if_pos mark, mark]
      rfl
    · rw [plain, if_neg mark]
      rfl
  rw [spell, List.flatMap_map, funext each, List.flatMap_singleton']

/-- The sequence of a pattern with some text at its beginning. -/
theorem sequence_doubled_append (text rest : List Char) :
    sequence (String.ofList (doubled text ++ rest)) =
      text.map plain ++ (items rest).flatMap Item.reading := by
  rw [sequence, String.toList_ofList, items_doubled_append, List.flatMap_append,
    flatMap_reading_plain]

theorem plain_ne_literal_percent (char : Char) : plain char ≠ .literal '%' := by
  intro same
  by_cases mark : char = '%'
  · rw [plain, if_pos mark] at same
    cases same
  · rw [plain, if_neg mark] at same
    exact mark (Item.literal.inj same)

theorem plain_ne_token {letter : Char} (other : letter ≠ '%') (char : Char) :
    plain char ≠ .token letter := by
  intro same
  by_cases mark : char = '%'
  · rw [plain, if_pos mark] at same
    exact other (Item.token.inj same).symm
  · rw [plain, if_neg mark] at same
    cases same

end Literal

/-- No spelling occurs in the text but the percent sign, and that only before a letter of the table,
where it cannot be half of an unknown pair. -/
structure Unmistakable (text : List Char) : Prop where
  spelled : ∀ letter spelling, (letter, spelling) ∈ toCharTable → letter ≠ '%' →
    ¬ spelling.toList <:+: text
  marked : ∀ before after, text = before ++ '%' :: after → after.head?.any isKnown = true

theorem Unmistakable.of_append {front back : List Char} (clear : Unmistakable (front ++ back)) :
    Unmistakable back where
  spelled letter spelling entry other occurs :=
    clear.spelled letter spelling entry other (occurs.trans (List.suffix_append front back).isInfix)
  marked before after shape :=
    clear.marked (front ++ before) after (by rw [shape, List.append_assoc])

theorem not_known_of_unmistakable {letter : Char} {rest : List Char} (other : letter ≠ '%')
    (clear : Unmistakable ((Item.token letter).respell toCharTable ++ rest)) : False := by
  cases known : isKnown letter with
  | true =>
    obtain ⟨spelling, entry⟩ := isKnown_iff.mp known
    rw [(respell_of_mem entry).1] at clear
    exact clear.spelled letter spelling entry other (List.prefix_append _ rest).isInfix
  | false =>
    rw [respell_of_unknown known] at clear
    have marked := clear.marked [] (letter :: rest) rfl
    rw [List.head?_cons, Option.any_some, known] at marked
    cases marked

/-- An unmistakable form is read character by character. -/
theorem reading_of_unmistakable (text : List Char) (clear : Unmistakable (spell (items text))) :
    (items text).flatMap Item.reading = (spell (items text)).map plain := by
  fun_induction items text with
  | case1 => rfl
  | case2 => exact absurd (clear.marked [] [] rfl) (by decide)
  | case3 letter rest ih =>
    by_cases mark : letter = '%'
    · subst mark
      rw [spell_cons] at clear ⊢
      rw [List.flatMap_cons, List.map_append, ih clear.of_append]
      rfl
    · exact (not_known_of_unmistakable mark clear).elim
  | case4 char rest unmarked pairless ih =>
    have mark := ne_percent_of_single unmarked pairless
    rw [spell_cons] at clear ⊢
    rw [List.flatMap_cons, List.map_append, ih clear.of_append]
    simp [Item.reading, Item.respell, plain, mark]

section Alone

variable {pattern : String} (alone : ∀ other, toChar other = toChar pattern →
  sequence other = sequence pattern)
include alone

/-- A pattern that shares its form with no other has no items but those that show the form as
text, and neither has a pattern that ends in another way to write the end of the form. -/
theorem exists_plain_of_alone {before rest : List Char}
    (written : (toChar pattern).toList = before ++ spell (items rest)) {item : Item}
    (member : item ∈ (items rest).flatMap Item.reading) : ∃ char, plain char = item := by
  have spelled (rest : List Char) (written : (toChar pattern).toList = before ++ spell (items rest)) :
      before.map plain ++ (items rest).flatMap Item.reading = sequence pattern := by
    rw [← sequence_doubled_append]
    apply alone
    apply String.toList_inj.mp
    rw [toList_toChar, sequence_doubled_append, spell_append, spell_map_plain,
      spell_flatMap_reading, written]
  have shown : (toChar pattern).toList =
      before ++ spell (items (doubled (spell (items rest)))) := by
    rw [items_doubled, spell_map_plain, written]
  have same := (spelled _ written).trans (spelled _ shown).symm
  rw [List.append_cancel_left_eq, items_doubled, flatMap_reading_plain] at same
  rw [same] at member
  obtain ⟨char, -, shape⟩ := List.mem_map.mp member
  exact ⟨char, shape⟩

theorem unmistakable_of_alone : Unmistakable (toChar pattern).toList where
  spelled letter spelling entry other occurs := by
    obtain ⟨before, after, shape⟩ := occurs
    have token : items ('%' :: letter :: doubled after) = .token letter :: after.map plain := by
      rw [items, items_doubled]
    have written : (toChar pattern).toList =
        before ++ spell (items ('%' :: letter :: doubled after)) := by
      rw [token, spell_cons, (respell_of_mem entry).1, spell_map_plain, ← shape, List.append_assoc]
    have member : .token (tokenLetter letter) ∈
        (items ('%' :: letter :: doubled after)).flatMap Item.reading := by
      rw [token, List.flatMap_cons, Item.reading, if_pos (isKnown_of_mem entry)]
      exact List.mem_cons_self
    obtain ⟨char, same⟩ := exists_plain_of_alone alone written member
    have unequal : tokenLetter letter ≠ '%' := by
      unfold tokenLetter
      split_ifs
      · decide
      · exact other
    exact plain_ne_token unequal char same
  marked before after shape := by
    by_contra unmarked
    obtain ⟨rest, spelled, stray⟩ : ∃ rest, spell (items rest) = '%' :: after ∧
        .literal '%' ∈ (items rest).flatMap Item.reading := by
      cases after with
      | nil => exact ⟨['%'], rfl, List.mem_cons_self⟩
      | cons letter after =>
        have unknown : isKnown letter = false := by simpa using unmarked
        have pair : items ('%' :: letter :: doubled after) = .token letter :: after.map plain := by
          rw [items, items_doubled]
        refine ⟨'%' :: letter :: doubled after, ?_, ?_⟩
        · rw [pair, spell_cons, respell_of_unknown unknown, spell_map_plain]
          rfl
        · rw [pair, List.flatMap_cons, Item.reading, unknown]
          exact List.mem_cons_self
    rw [← spelled] at shape
    obtain ⟨char, same⟩ := exists_plain_of_alone alone shape stray
    exact plain_ne_literal_percent char same

end Alone

theorem alone_iff_unmistakable (pattern : String) :
    (∀ other, toChar other = toChar pattern → sequence other = sequence pattern) ↔
      Unmistakable (toChar pattern).toList := by
  constructor
  · exact unmistakable_of_alone
  · intro clear other same
    have read (pattern : String) (clear : Unmistakable (toChar pattern).toList) :
        sequence pattern = (toChar pattern).toList.map plain := by
      rw [toList_toChar, sequence, spell_flatMap_reading] at clear ⊢
      exact reading_of_unmistakable _ clear
    rw [read other (same ▸ clear), read pattern clear, same]

/-- At the place of an item, before the rest of the text, no spelling is longer than the item's own;
no spelling at all begins with a literal character. -/
def Item.Stands : Item → List Char → Prop
  | .literal char, rest => ∀ entry ∈ toCharTable, ¬ entry.2.toList <+: char :: rest
  | .token letter, rest => ∀ entry ∈ toCharTable,
    entry.2.toList <+: (Item.token letter).respell toCharTable ++ rest →
      entry.2.toList.length ≤ ((Item.token letter).respell toCharTable).length

instance : (item : Item) → (rest : List Char) → Decidable (item.Stands rest)
  | .literal _, _ => List.decidableBAll _ _
  | .token _, _ => List.decidableBAll _ _

/-- Every item is the longest spelling at its place. -/
def Clear : List Item → Prop
  | [] => True
  | item :: rest => item.Stands (spell rest) ∧ Clear rest

instance decidableClear : (sequence : List Item) → Decidable (Clear sequence)
  | [] => inferInstanceAs (Decidable True)
  | _ :: rest =>
    have := decidableClear rest
    inferInstanceAs (Decidable (_ ∧ _))

/-- The letters that stand for the tokens of the table in a sequence. -/
def IsToken (letter : Char) : Prop :=
  ∃ own spelling, (own, spelling) ∈ toCharTable ∧ tokenLetter own = letter

theorem isToken_of_mem_sequence {pattern : String} {letter : Char}
    (member : .token letter ∈ sequence pattern) : IsToken letter := by
  obtain ⟨item, -, read⟩ := List.mem_flatMap.mp member
  cases item with
  | literal char => simp [Item.reading] at read
  | token own =>
    cases known : isKnown own with
    | true =>
      obtain ⟨spelling, entry⟩ := isKnown_iff.mp known
      rw [Item.reading, if_pos known, List.mem_singleton] at read
      exact ⟨own, spelling, entry, (Item.token.inj read).symm⟩
    | false => simp [Item.reading, known] at read

section Clear

variable {own others : List Item}

/-- Literal characters are no tokens: their text would be a spelling. -/
theorem literal_ne_token {char letter : Char} (token : IsToken letter)
    (stands : (Item.literal char).Stands (spell own))
    (same : spell (.literal char :: own) = spell (.token letter :: others)) : False := by
  obtain ⟨first, spelling, entry, rfl⟩ := token
  rw [spell_cons, spell_cons, (respell_of_mem entry).2] at same
  refine stands (first, spelling) entry ?_
  change spelling.toList <+: (Item.literal char).respell toCharTable ++ spell own
  rw [same]
  exact List.prefix_append _ _

/-- Two longest spellings at one place are one. -/
theorem token_eq_token {letter other : Char} (token : IsToken letter) (token' : IsToken other)
    (stands : (Item.token letter).Stands (spell own))
    (stands' : (Item.token other).Stands (spell others))
    (same : spell (.token letter :: own) = spell (.token other :: others)) :
    letter = other ∧ spell own = spell others := by
  obtain ⟨first, spelling, entry, rfl⟩ := token
  obtain ⟨second, spelling', entry', rfl⟩ := token'
  rw [spell_cons, spell_cons] at same
  have shorter := stands (second, spelling') entry'
  have longer := stands' (first, spelling) entry
  rw [same] at shorter
  rw [← same] at longer
  rw [(respell_of_mem entry).2, (respell_of_mem entry').2] at shorter longer same
  have length : spelling.toList.length = spelling'.toList.length :=
    le_antisymm (longer (List.prefix_append _ _)) (shorter (List.prefix_append _ _))
  obtain ⟨spellings, rests⟩ := List.append_inj same length
  obtain rfl := String.toList_inj.mp spellings
  exact ⟨tokenLetter_eq_of_spelling entry entry', rests⟩

theorem spell_cons_ne_nil {item : Item} {rest : List Item}
    (known : ∀ letter, .token letter ∈ item :: rest → IsToken letter) :
    spell (item :: rest) ≠ [] := by
  rw [spell_cons]
  apply List.append_ne_nil_of_left_ne_nil
  cases item with
  | literal char => exact List.cons_ne_nil char []
  | token letter =>
    obtain ⟨own, spelling, entry, rfl⟩ := known letter List.mem_cons_self
    rw [(respell_of_mem entry).2]
    exact spelling_ne_nil entry

/-- Item by item, a form of longest spellings gives its sequence back. -/
theorem eq_of_spell_eq (known : ∀ letter, .token letter ∈ own → IsToken letter)
    (known' : ∀ letter, .token letter ∈ others → IsToken letter) (clear : Clear own)
    (clear' : Clear others) (same : spell own = spell others) : own = others := by
  induction own generalizing others with
  | nil =>
    cases others with
    | nil => rfl
    | cons item rest => exact absurd same.symm (spell_cons_ne_nil known')
  | cons item rest ih =>
    cases others with
    | nil => exact absurd same (spell_cons_ne_nil known)
    | cons item' rest' =>
      have tail := ih (fun letter member => known letter (List.mem_cons_of_mem item member))
        (fun letter member => known' letter (List.mem_cons_of_mem item' member)) clear.2 clear'.2
      cases item with
      | literal char =>
        cases item' with
        | literal other =>
          obtain ⟨rfl, rests⟩ := List.cons.inj same
          rw [tail rests]
        | token other =>
          exact (literal_ne_token (known' other List.mem_cons_self) clear.1 same).elim
      | token letter =>
        cases item' with
        | literal char =>
          exact (literal_ne_token (known letter List.mem_cons_self) clear'.1 same.symm).elim
        | token other =>
          obtain ⟨rfl, rests⟩ := token_eq_token (known letter List.mem_cons_self)
            (known' other List.mem_cons_self) clear.1 clear'.1 same
          rw [tail rests]

end Clear

/-- A pattern shares its `TO_CHAR` form with no other one if and only if no spelling of a token
occurs in the form, nor a percent sign that could stand in a pattern undoubled; and clear patterns
of one form are the same sequence. -/
theorem toChar_tells_apart (pattern other : String) :
    ((∀ other, toChar other = toChar pattern → sequence other = sequence pattern) ↔
      Unmistakable (toChar pattern).toList) ∧
    (Clear (sequence pattern) → Clear (sequence other) →
      (toChar pattern = toChar other ↔ sequence pattern = sequence other)) := by
  refine ⟨alone_iff_unmistakable pattern, ?_⟩
  intro clear clear'
  constructor
  · intro same
    exact eq_of_spell_eq (fun _ => isToken_of_mem_sequence) (fun _ => isToken_of_mem_sequence)
      clear clear' (toChar_eq_iff.mp same)
  · intro same
    rw [toChar_eq_iff, same]

/-- Two clear patterns that write their seconds with different letters. -/
theorem toChar_tells_apart_seconds :
    Clear (sequence "%Y-%m-%dT%H:%i:%s") ∧ Clear (sequence "%Y-%m-%dT%H:%i:%S") ∧
    (toChar "%Y-%m-%dT%H:%i:%s" = toChar "%Y-%m-%dT%H:%i:%S" ↔
      sequence "%Y-%m-%dT%H:%i:%s" = sequence "%Y-%m-%dT%H:%i:%S") := by
  have clear : Clear (sequence "%Y-%m-%dT%H:%i:%s") := by decide
  have clear' : Clear (sequence "%Y-%m-%dT%H:%i:%S") := by decide
  exact ⟨clear, clear',
    (toChar_tells_apart "%Y-%m-%dT%H:%i:%s" "%Y-%m-%dT%H:%i:%S").2 clear clear'⟩

/-- Four literal letters take the form of the token for the year. -/
theorem literal_year_is_read_as_token :
    toChar "YYYY" = toChar "%Y" ∧ sequence "YYYY" ≠ sequence "%Y" := by decide

end FluentSql.Pattern
