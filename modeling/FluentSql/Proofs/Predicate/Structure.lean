import FluentSql.Proofs.Predicate.Leaves

/-! The text of a condition tree tells its structure: what stands at each level, how it is joined
and where groups begin and end. Only what shows no text, the connector of what comes first and the
arguments are lost. -/
namespace FluentSql

theorem Text.join_cons (separator part : String) (rest : List String) :
    Text.join separator (part :: rest) =
      part ++ rest.foldr (fun next behind => separator ++ next ++ behind) "" := by
  induction rest generalizing part with
  | nil => simp [Text.join]
  | cons next rest ih => simp only [Text.join, ih, List.foldr_cons, String.append_assoc]

namespace Predicate

mutual

/-- A condition without its arguments. The connector of what comes first is not written. -/
def normal (first : Bool) : Predicate → Predicate
  | .clause connector text _ => .clause (if first then .and else connector) text []
  | .group connector members => .group (if first then .and else connector) (normalAll true members)

/-- The conditions of a level that show text, without their arguments. -/
def normalAll (first : Bool) : List Predicate → List Predicate
  | [] => []
  | condition :: rest =>
    if condition.shows then condition.normal first :: normalAll false rest
    else normalAll first rest

end

/-- What is written for conditions that come behind others. -/
def following : List Predicate → String
  | [] => ""
  | condition :: rest =>
    if condition.shows then
      " " ++ condition.connector.text ++ " " ++ condition.text ++ following rest
    else following rest

theorem text_ne_empty {condition : Predicate} (shown : condition.shows = true) :
    condition.text ≠ "" := by
  intro empty
  rw [text_eq_empty_iff, shown] at empty
  cases empty

theorem text_of_hidden {condition : Predicate} (hidden : ¬ condition.shows = true) :
    condition.text = "" := by
  rw [text_eq_empty_iff]
  exact Bool.eq_false_iff.mpr hidden

theorem textFrom_eq_append (written : String) (present : written ≠ "")
    (conditions : List Predicate) :
    textFrom written conditions = written ++ following conditions := by
  induction conditions generalizing written with
  | nil => simp [textFrom, following]
  | cons condition rest ih =>
    by_cases shown : condition.shows = true
    · have grown : written ++ " " ++ condition.connector.text ++ " " ++ condition.text ≠ "" := by
        simp [String.append_eq_empty_iff, present]
      simp only [textFrom, joined, text_ne_empty shown, present, ↓reduceIte, following, shown]
      rw [ih _ grown]
      simp only [String.append_assoc]
    · simp only [textFrom, joined, text_of_hidden shown, ↓reduceIte, ih written present, following,
        shown, Bool.false_eq_true]

/-- A level whose first condition with text is `first`, with the conditions behind it. -/
structure Opens (conditions : List Predicate) (first : Predicate) (rest : List Predicate) :
    Prop where
  shown : first.shows = true
  text_eq : textFrom "" conditions = first.text ++ following rest
  following_eq : following conditions =
    " " ++ first.connector.text ++ " " ++ first.text ++ following rest
  normal_eq : ∀ start, normalAll start conditions = first.normal start :: normalAll false rest
  leaves_sub : ∀ leaf, leaf ∈ first.leaves ∨ leaf ∈ leavesOf rest → leaf ∈ leavesOf conditions

theorem opens_cons {condition : Predicate} (shown : condition.shows = true)
    (rest : List Predicate) : Opens (condition :: rest) condition rest where
  shown := shown
  text_eq := by
    have present := text_ne_empty shown
    simp only [textFrom, joined, present, ↓reduceIte, textFrom_eq_append _ present]
  following_eq := by simp only [following, shown, ↓reduceIte]
  normal_eq := by
    intro start
    simp only [normalAll, shown, ↓reduceIte]
  leaves_sub := fun _ member => List.mem_append.mpr member

section Hidden

variable {condition : Predicate} (hidden : ¬ condition.shows = true) (rest : List Predicate)
include hidden

theorem textFrom_cons_of_hidden : textFrom "" (condition :: rest) = textFrom "" rest := by
  simp only [textFrom, joined, text_of_hidden hidden, ↓reduceIte]

theorem following_cons_of_hidden : following (condition :: rest) = following rest := by
  simp only [following, hidden, Bool.false_eq_true, ↓reduceIte]

theorem normalAll_cons_of_hidden (start : Bool) :
    normalAll start (condition :: rest) = normalAll start rest := by
  simp only [normalAll, hidden, Bool.false_eq_true, ↓reduceIte]

end Hidden

/-- A level shows nothing, or begins with the first of its conditions that show text. -/
theorem silent_or_opens (conditions : List Predicate) :
    (textFrom "" conditions = "" ∧ following conditions = "" ∧
      ∀ start, normalAll start conditions = []) ∨
    ∃ first rest, Opens conditions first rest := by
  induction conditions with
  | nil => exact Or.inl ⟨rfl, rfl, fun _ => rfl⟩
  | cons condition rest ih =>
    by_cases shown : condition.shows = true
    · exact Or.inr ⟨condition, rest, opens_cons shown rest⟩
    · have skipped := textFrom_cons_of_hidden shown rest
      have dropped := following_cons_of_hidden shown rest
      have forgotten := normalAll_cons_of_hidden shown rest
      rcases ih with ⟨silent, nothing, none⟩ | ⟨first, later, opens⟩
      · exact Or.inl ⟨skipped.trans silent, dropped.trans nothing,
          fun start => (forgotten start).trans (none start)⟩
      · right
        refine ⟨first, later, opens.shown, skipped.trans opens.text_eq,
          dropped.trans opens.following_eq, ?_, ?_⟩
        · intro start
          exact (forgotten start).trans (opens.normal_eq start)
        · intro leaf member
          exact List.mem_append_right _ (opens.leaves_sub leaf member)

/-! What stands behind a condition begins with a blank or a closing parenthesis, and what stands
behind a level with a closing parenthesis. -/

/-- No blanks and no parentheses. -/
def OneWord (text : String) : Prop := ∀ char ∈ text.toList, char ≠ ' ' ∧ char ≠ '(' ∧ char ≠ ')'

instance (text : String) : Decidable (OneWord text) :=
  List.decidableBAll (fun char => char ≠ ' ' ∧ char ≠ '(' ∧ char ≠ ')') text.toList

def Closes (rest : List Char) : Prop := ∀ char tail, rest = char :: tail → char = ')'

def Breaks (rest : List Char) : Prop := ∀ char tail, rest = char :: tail → char = ' ' ∨ char = ')'

theorem closes_cons (rest : List Char) : Closes (')' :: rest) := by
  intro char tail same
  exact (List.cons.inj same).1.symm

theorem breaks_following {rest : List Char} (closes : Closes rest) (conditions : List Predicate) :
    Breaks ((following conditions).toList ++ rest) := by
  intro char tail same
  rcases silent_or_opens conditions with ⟨_, nothing, _⟩ | ⟨first, later, opens⟩
  · rw [nothing] at same
    exact Or.inr (closes char tail same)
  · rw [opens.following_eq] at same
    have blank : " ".toList = [' '] := by decide
    simp only [String.toList_append, blank, List.cons_append] at same
    exact Or.inl (List.cons.inj same).1.symm

theorem eq_of_words {first second : List Char} {rest others : List Char}
    (word : ∀ char ∈ first, char ≠ ' ' ∧ char ≠ '(' ∧ char ≠ ')')
    (other : ∀ char ∈ second, char ≠ ' ' ∧ char ≠ '(' ∧ char ≠ ')')
    (stop : Breaks rest) (stops : Breaks others) (same : first ++ rest = second ++ others) :
    first = second ∧ rest = others := by
  induction first generalizing second with
  | nil =>
    cases second with
    | nil => exact ⟨rfl, same⟩
    | cons char second =>
      obtain ⟨unblank, _, unclosed⟩ := other char List.mem_cons_self
      rcases stop char _ same with blank | closed
      · exact absurd blank unblank
      · exact absurd closed unclosed
  | cons char first ih =>
    cases second with
    | nil =>
      obtain ⟨unblank, _, unclosed⟩ := word char List.mem_cons_self
      rcases stops char _ same.symm with blank | closed
      · exact absurd blank unblank
      · exact absurd closed unclosed
    | cons next second =>
      obtain ⟨rfl, tails⟩ := List.cons.inj same
      obtain ⟨rfl, rests⟩ := ih (fun other member => word other (List.mem_cons_of_mem char member))
        (fun next member => other next (List.mem_cons_of_mem char member)) tails
      exact ⟨rfl, rests⟩

theorem text_group_of_shown {connector : Connector} {members : List Predicate}
    (shown : (Predicate.group connector members).shows = true) :
    (Predicate.group connector members).text.toList =
      '(' :: (textFrom "" members).toList ++ [')'] := by
  have inner : textFrom "" members ≠ "" := by
    intro empty
    exact text_ne_empty shown (by simp [text, empty])
  have opening : "(".toList = ['('] := by decide
  have closing : ")".toList = [')'] := by decide
  simp only [text, inner, ↓reduceIte, String.toList_append, opening, closing, List.cons_append,
    List.nil_append]

/-- A condition begins with neither a blank nor a closing parenthesis. -/
theorem not_breaks_text {condition : Predicate} (shown : condition.shows = true)
    (words : ∀ leaf ∈ condition.leaves, OneWord leaf.sql) (rest : List Char) :
    ¬ Breaks (condition.text.toList ++ rest) := by
  intro stop
  cases condition with
  | group connector members =>
    rw [text_group_of_shown shown] at stop
    rcases stop '(' _ rfl with blank | closed
    · exact absurd blank (by decide)
    · exact absurd closed (by decide)
  | clause connector clause held =>
    have word := words ⟨clause, held⟩ List.mem_cons_self
    have present := text_ne_empty shown
    simp only [text] at stop present
    cases chars : clause.toList with
    | nil => exact present (String.toList_eq_nil_iff.mp chars)
    | cons char tail =>
      obtain ⟨unblank, _, unclosed⟩ := word char (by simp [chars])
      rw [chars] at stop
      rcases stop char _ rfl with blank | closed
      · exact unblank blank
      · exact unclosed closed

theorem connector_unique {first second : Connector} {rest others : List Char}
    (same :
      (" " ++ first.text ++ " ").toList ++ rest = (" " ++ second.text ++ " ").toList ++ others) :
    first = second ∧ rest = others := by
  have conjunction : (" " ++ Connector.and.text ++ " ").toList = [' ', 'A', 'N', 'D', ' '] := by
    decide
  have disjunction : (" " ++ Connector.or.text ++ " ").toList = [' ', 'O', 'R', ' '] := by decide
  cases first <;> cases second <;> simp_all

theorem word_ne_opening {word : String} (present : word ≠ "") (plain : OneWord word)
    (rest others : List Char) : word.toList ++ rest ≠ '(' :: others := by
  intro same
  cases chars : word.toList with
  | nil => exact present (String.toList_eq_nil_iff.mp chars)
  | cons char tail =>
    obtain ⟨_, unopened, _⟩ := plain char (by simp [chars])
    rw [chars] at same
    exact unopened (List.cons.inj same).1

/-- Where nothing follows a silent level, no other level shows text in its place. -/
theorem silent_of_textFrom_eq {conditions : List Predicate} {rest others : List Char}
    (words : ∀ leaf ∈ leavesOf conditions, OneWord leaf.sql) (closes : Closes others)
    (same : (textFrom "" conditions).toList ++ rest = others) :
    rest = others ∧ ∀ start, normalAll start conditions = [] := by
  rcases silent_or_opens conditions with ⟨silent, _, none⟩ | ⟨first, later, opens⟩
  · rw [silent] at same
    exact ⟨same, none⟩
  · rw [opens.text_eq, String.toList_append, List.append_assoc] at same
    have stop : Breaks (first.text.toList ++ ((following later).toList ++ rest)) := by
      intro char tail split
      exact Or.inr (closes char tail (same.symm.trans split))
    have own := fun leaf member => words leaf (opens.leaves_sub leaf (Or.inl member))
    exact absurd stop (not_breaks_text opens.shown own _)

theorem silent_of_following_eq {conditions : List Predicate} {rest others : List Char}
    (closes : Closes others) (same : (following conditions).toList ++ rest = others) :
    rest = others ∧ ∀ start, normalAll start conditions = [] := by
  rcases silent_or_opens conditions with ⟨_, nothing, none⟩ | ⟨first, later, opens⟩
  · rw [nothing] at same
    exact ⟨same, none⟩
  · have blank : " ".toList = [' '] := by decide
    rw [opens.following_eq] at same
    simp only [String.toList_append, blank, List.cons_append, List.append_assoc] at same
    have closed := closes ' ' _ same.symm
    exact absurd closed (by decide)

mutual

/-- A condition is read back from the text it begins. -/
theorem text_unique (condition other : Predicate) (first : Bool)
    (joining : first = true ∨ condition.connector = other.connector)
    (shown : condition.shows = true) (otherShown : other.shows = true)
    (words : ∀ leaf ∈ condition.leaves, OneWord leaf.sql)
    (otherWords : ∀ leaf ∈ other.leaves, OneWord leaf.sql)
    {rest others : List Char} (stop : Breaks rest) (stops : Breaks others)
    (same : condition.text.toList ++ rest = other.text.toList ++ others) :
    condition.normal first = other.normal first ∧ rest = others := by
  have joined : (if first then Connector.and else condition.connector) =
      if first then .and else other.connector := by
    rcases joining with start | equal
    · simp [start]
    · rw [equal]
  match condition, other with
  | .clause connector word held, .clause next otherWord more =>
    have plain := words ⟨word, held⟩ List.mem_cons_self
    have otherPlain := otherWords ⟨otherWord, more⟩ List.mem_cons_self
    obtain ⟨chars, rests⟩ := eq_of_words plain otherPlain stop stops same
    have equal : word = otherWord := String.toList_inj.mp chars
    subst otherWord
    exact ⟨congrArg (fun connector => Predicate.clause connector word []) joined, rests⟩
  | .group connector members, .group next otherMembers =>
    rw [text_group_of_shown shown, text_group_of_shown otherShown] at same
    simp only [List.cons_append, List.append_assoc, List.nil_append, List.cons.injEq,
      true_and] at same
    obtain ⟨inner, closed⟩ := textFrom_unique members otherMembers words otherWords
      (closes_cons rest) (closes_cons others) same
    refine ⟨?_, (List.cons.inj closed).2⟩
    simp only [normal, inner]
    exact congrArg (fun connector => Predicate.group connector _) joined
  | .clause connector word held, .group next otherMembers =>
    rw [text_group_of_shown otherShown] at same
    have plain := words ⟨word, held⟩ List.mem_cons_self
    exact absurd same (word_ne_opening (text_ne_empty shown) plain _ _)
  | .group connector members, .clause next otherWord more =>
    rw [text_group_of_shown shown] at same
    have plain := otherWords ⟨otherWord, more⟩ List.mem_cons_self
    exact absurd same.symm (word_ne_opening (text_ne_empty otherShown) plain _ _)

theorem textFrom_unique (conditions others : List Predicate)
    (words : ∀ leaf ∈ leavesOf conditions, OneWord leaf.sql)
    (otherWords : ∀ leaf ∈ leavesOf others, OneWord leaf.sql)
    {rest after : List Char} (closes : Closes rest) (otherCloses : Closes after)
    (same : (textFrom "" conditions).toList ++ rest = (textFrom "" others).toList ++ after) :
    normalAll true conditions = normalAll true others ∧ rest = after := by
  match conditions with
  | [] =>
    obtain ⟨rests, none⟩ := silent_of_textFrom_eq otherWords closes same.symm
    exact ⟨(none true).symm, rests.symm⟩
  | condition :: later =>
    have laterWords := fun leaf member => words leaf (List.mem_append_right _ member)
    by_cases shown : condition.shows = true
    · rcases silent_or_opens others with ⟨silent, _, none⟩ | ⟨other, behind, opens⟩
      · rw [silent] at same
        obtain ⟨rests, hidden⟩ := silent_of_textFrom_eq words otherCloses same
        exact ⟨(hidden true).trans (none true).symm, rests⟩
      · have own := opens_cons shown later
        rw [own.text_eq, opens.text_eq, String.toList_append, String.toList_append,
          List.append_assoc, List.append_assoc] at same
        obtain ⟨head, tails⟩ := text_unique condition other true (Or.inl rfl) shown opens.shown
          (fun leaf member => words leaf (List.mem_append_left _ member))
          (fun leaf member => otherWords leaf (opens.leaves_sub leaf (Or.inl member)))
          (breaks_following closes later) (breaks_following otherCloses behind) same
        obtain ⟨tail, rests⟩ := following_unique later behind laterWords
          (fun leaf member => otherWords leaf (opens.leaves_sub leaf (Or.inr member)))
          closes otherCloses tails
        rw [own.normal_eq, opens.normal_eq, head, tail]
        exact ⟨rfl, rests⟩
    · rw [textFrom_cons_of_hidden shown] at same
      rw [normalAll_cons_of_hidden shown]
      exact textFrom_unique later others laterWords otherWords closes otherCloses same

theorem following_unique (conditions others : List Predicate)
    (words : ∀ leaf ∈ leavesOf conditions, OneWord leaf.sql)
    (otherWords : ∀ leaf ∈ leavesOf others, OneWord leaf.sql)
    {rest after : List Char} (closes : Closes rest) (otherCloses : Closes after)
    (same : (following conditions).toList ++ rest = (following others).toList ++ after) :
    normalAll false conditions = normalAll false others ∧ rest = after := by
  match conditions with
  | [] =>
    obtain ⟨rests, none⟩ := silent_of_following_eq closes same.symm
    exact ⟨(none false).symm, rests.symm⟩
  | condition :: later =>
    have laterWords := fun leaf member => words leaf (List.mem_append_right _ member)
    by_cases shown : condition.shows = true
    · rcases silent_or_opens others with ⟨_, nothing, none⟩ | ⟨other, behind, opens⟩
      · rw [nothing] at same
        obtain ⟨rests, hidden⟩ := silent_of_following_eq otherCloses same
        exact ⟨(hidden false).trans (none false).symm, rests⟩
      · have own := opens_cons shown later
        rw [own.following_eq, opens.following_eq] at same
        have joinings : (" " ++ condition.connector.text ++ " ").toList ++
            (condition.text.toList ++ ((following later).toList ++ rest)) =
            (" " ++ other.connector.text ++ " ").toList ++
              (other.text.toList ++ ((following behind).toList ++ after)) := by
          simpa only [String.toList_append, List.append_assoc] using same
        obtain ⟨connector, texts⟩ := connector_unique joinings
        obtain ⟨head, tails⟩ := text_unique condition other false (Or.inr connector) shown
          opens.shown (fun leaf member => words leaf (List.mem_append_left _ member))
          (fun leaf member => otherWords leaf (opens.leaves_sub leaf (Or.inl member)))
          (breaks_following closes later) (breaks_following otherCloses behind) texts
        obtain ⟨tail, rests⟩ := following_unique later behind laterWords
          (fun leaf member => otherWords leaf (opens.leaves_sub leaf (Or.inr member)))
          closes otherCloses tails
        rw [own.normal_eq, opens.normal_eq, head, tail]
        exact ⟨rfl, rests⟩
    · rw [following_cons_of_hidden shown] at same
      rw [normalAll_cons_of_hidden shown]
      exact following_unique later others laterWords otherWords closes otherCloses same

end

mutual

/-- The normal form shows the same text. -/
theorem text_normal (condition : Predicate) (first : Bool) :
    (condition.normal first).text = condition.text := by
  match condition with
  | .clause _ _ _ => rfl
  | .group _ members => simp only [normal, text, textFrom_normalAll members]

theorem textFrom_normalAll (conditions : List Predicate) :
    textFrom "" (normalAll true conditions) = textFrom "" conditions := by
  match conditions with
  | [] => rfl
  | condition :: rest =>
    by_cases shown : condition.shows = true
    · have kept : (condition.normal true).shows = true := by
        have present := text_ne_empty shown
        rw [← text_normal condition true, ne_eq, text_eq_empty_iff] at present
        exact Bool.not_eq_false _ |>.mp present
      rw [(opens_cons shown rest).normal_eq, (opens_cons kept _).text_eq,
        (opens_cons shown rest).text_eq, text_normal condition true, following_normalAll rest]
    · rw [normalAll_cons_of_hidden shown, textFrom_cons_of_hidden shown]
      exact textFrom_normalAll rest

theorem following_normalAll (conditions : List Predicate) :
    following (normalAll false conditions) = following conditions := by
  match conditions with
  | [] => rfl
  | condition :: rest =>
    by_cases shown : condition.shows = true
    · have kept : (condition.normal false).shows = true := by
        have present := text_ne_empty shown
        rw [← text_normal condition false, ne_eq, text_eq_empty_iff] at present
        exact Bool.not_eq_false _ |>.mp present
      have connector : (condition.normal false).connector = condition.connector := by
        cases condition <;> rfl
      rw [(opens_cons shown rest).normal_eq, (opens_cons kept _).following_eq,
        (opens_cons shown rest).following_eq, connector, text_normal condition false,
        following_normalAll rest]
    · rw [normalAll_cons_of_hidden shown, following_cons_of_hidden shown]
      exact following_normalAll rest

end

/-- The words of a level: every text, each but the first behind its connector. -/
def levelWords : List Predicate → List String
  | [] => []
  | first :: later =>
    first.text :: later.flatMap fun condition => [condition.connector.text, condition.text]

theorem following_eq_foldr (conditions : List Predicate) :
    following conditions =
      ((conditions.filter shows).flatMap fun condition =>
        [condition.connector.text, condition.text]).foldr
          (fun word behind => " " ++ word ++ behind) "" := by
  induction conditions with
  | nil => rfl
  | cons condition rest ih =>
    by_cases shown : condition.shows = true
    · simp [following, shown, ih, String.append_assoc]
    · simp [following, shown, ih]

theorem textFrom_eq_join (conditions : List Predicate) :
    textFrom "" conditions = Text.join " " (levelWords (conditions.filter shows)) := by
  induction conditions with
  | nil => rfl
  | cons condition rest ih =>
    by_cases shown : condition.shows = true
    · rw [(opens_cons shown rest).text_eq, List.filter_cons_of_pos shown, levelWords,
        Text.join_cons, following_eq_foldr]
    · rw [textFrom_cons_of_hidden shown, List.filter_cons_of_neg shown, ih]

end Predicate

namespace Conditions

/-- Every clause is one word without parentheses. A clause may even read as a connector: its place
in the text tells it from one. -/
def Atomic (conditions : Conditions) : Prop :=
  ∀ leaf ∈ conditions.leaves, Predicate.OneWord leaf.sql

instance (conditions : Conditions) : Decidable conditions.Atomic :=
  inferInstanceAs (Decidable (∀ leaf ∈ conditions.leaves, Predicate.OneWord leaf.sql))

/-- What a condition tree says: the conditions that show text, without the connector of the first
of a level and without arguments. -/
def normal (conditions : Conditions) : Conditions := Predicate.normalAll true conditions

theorem normal_eq_of_text_eq {conditions others : Conditions} (atomic : conditions.Atomic)
    (other : others.Atomic) (same : conditions.text = others.text) :
    conditions.normal = others.normal := by
  have closes : Predicate.Closes [] := by
    intro char tail empty
    cases empty
  have chars : conditions.text.toList ++ [] = others.text.toList ++ [] := by rw [same]
  exact (Predicate.textFrom_unique conditions others atomic other closes closes chars).1

theorem text_normal (conditions : Conditions) : conditions.normal.text = conditions.text :=
  Predicate.textFrom_normalAll conditions

/-- Rendering loses no structure. Texts of atomic trees are equal exactly when the trees say the
same; a level is written as its texts with the connector of each before all but the first, a group
as its level in parentheses; and the arguments are those of all clauses from left to right. -/
theorem rendering_keeps_structure :
    (∀ conditions others : Conditions, conditions.Atomic → others.Atomic →
      (conditions.text = others.text ↔ conditions.normal = others.normal)) ∧
    (∀ conditions : Conditions, conditions.text =
      Text.join " " (Predicate.levelWords (conditions.filter Predicate.shows))) ∧
    (∀ connector members, (Predicate.group connector members).shows = true →
      (Predicate.group connector members).text = "(" ++ Conditions.text members ++ ")") ∧
    ∀ conditions : Conditions, conditions.args = conditions.leaves.flatMap Fragment.args := by
  refine ⟨?_, Predicate.textFrom_eq_join, ?_, args_eq_flatMap_leaves⟩
  · intro conditions others atomic other
    constructor
    · exact normal_eq_of_text_eq atomic other
    · intro same
      rw [← text_normal conditions, same, text_normal others]
  · intro connector members shown
    have inner : Predicate.textFrom "" members ≠ "" := by
      intro empty
      exact Predicate.text_ne_empty shown (by simp [Predicate.text, empty])
    simp only [Predicate.text, inner, ↓reduceIte]
    rfl

theorem rendering_keeps_structure_nested :
    normal [.clause .or "a" [.int 1], .group .and [.clause .or "b" []], .clause .or "" [.int 2]] =
      normal [.group .or [.clause .and "" []], .clause .and "a" [],
        .group .and [.clause .and "" [], .clause .and "b" [.int 3]]] :=
  (rendering_keeps_structure.1 _ _ (by decide) (by decide)).mp (by decide)

end Conditions
end FluentSql
