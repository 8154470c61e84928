import FluentSql.Placeholder.Numbered
import FluentSql.Proofs.Predicate.Leaves

/-! Parentheses in condition texts. A tree of clauses that close their parentheses closes its own,
so nothing in it ends a parenthesis that was opened around it. -/
namespace FluentSql

/-- How a reader tells quoted text. Only quotation marks begin it. -/
structure Quoting (σ : Type) where
  free : σ
  after : σ → Char → σ
  quoted : σ → Bool
  free_unquoted : quoted free = false
  after_free : ∀ char, char ≠ '\'' → char ≠ '"' → after free char = free

namespace Quoting

/-- A reader that does not look for quotation marks. -/
def none : Quoting Unit := ⟨(), fun _ _ => (), fun _ => false, rfl, fun _ _ _ => rfl⟩

/-- A reader that knows spans in either quotation mark. -/
def spans : Quoting (Option Char) where
  free := .none
  after := Placeholder.spanAfter
  quoted := Option.isSome
  free_unquoted := rfl
  after_free char single double := by simp [Placeholder.spanAfter, single, double]

end Quoting

variable {σ : Type} (quoting : Quoting σ)

/-- How many parentheses are open behind a character. There is no number behind one that closes
nothing. -/
def levelAfter (level : Nat) (char : Char) : Option Nat :=
  if char = '(' then some (level + 1)
  else if char = ')' then (if level = 0 then none else some (level - 1))
  else some level

/-- The same behind a text, with the state in which it leaves the reader. Parentheses in quoted text
do not count. -/
def openAfter (state : σ) (level : Nat) : List Char → Option (σ × Nat)
  | [] => some (state, level)
  | char :: rest =>
    (if quoting.quoted state then some level else levelAfter level char).bind fun level =>
      openAfter (quoting.after state char) level rest

/-- A text that closes what it opens, and nothing else. -/
def Closed (text : String) : Prop :=
  openAfter quoting quoting.free 0 text.toList = some (quoting.free, 0)

instance [DecidableEq σ] (text : String) : Decidable (Closed quoting text) :=
  inferInstanceAs (Decidable (_ = _))

theorem openAfter_append (state : σ) (level : Nat) (first rest : List Char) :
    openAfter quoting state level (first ++ rest) =
      (openAfter quoting state level first).bind fun reached =>
        openAfter quoting reached.1 reached.2 rest := by
  induction first generalizing state level with
  | nil => rfl
  | cons char first ih =>
    rw [List.cons_append, openAfter, openAfter, Option.bind_assoc]
    exact congrArg _ (funext fun level => ih _ level)

theorem levelAfter_under {level reached : Nat} {char : Char}
    (reading : levelAfter level char = some reached) (around : Nat) :
    levelAfter (level + around) char = some (reached + around) := by
  unfold levelAfter at reading ⊢
  split at reading
  · rename_i opening
    obtain rfl := Option.some.inj reading
    rw [if_pos opening, Nat.add_right_comm]
  · rename_i notOpening
    rw [if_neg notOpening]
    split at reading
    · rename_i closing
      rw [if_pos closing]
      split at reading
      · cases reading
      · obtain rfl := Option.some.inj reading
        rw [if_neg (by omega)]
        exact congrArg some (by omega)
    · rename_i notClosing
      obtain rfl := Option.some.inj reading
      rw [if_neg notClosing]

/-- Under more parentheses a text is read alike. -/
theorem openAfter_under {state after : σ} {level reached : Nat} {text : List Char}
    (reading : openAfter quoting state level text = some (after, reached)) (around : Nat) :
    openAfter quoting state (level + around) text = some (after, reached + around) := by
  induction text generalizing state level with
  | nil =>
    obtain ⟨rfl, rfl⟩ := Prod.mk.inj (Option.some.inj reading)
    rfl
  | cons char rest ih =>
    obtain ⟨next, stepped, behind⟩ := Option.bind_eq_some_iff.mp reading
    refine Option.bind_eq_some_iff.mpr ⟨next + around, ?_, ih behind⟩
    split at stepped
    · rename_i quoted
      obtain rfl := Option.some.inj stepped
      exact if_pos quoted
    · rename_i unquoted
      rw [if_neg unquoted]
      exact levelAfter_under stepped around

/-- Neither a quotation mark nor a parenthesis. -/
def Unmarked (text : List Char) : Prop :=
  ∀ char ∈ text, char ≠ '\'' ∧ char ≠ '"' ∧ char ≠ '(' ∧ char ≠ ')'

instance (text : List Char) : Decidable (Unmarked text) :=
  List.decidableBAll (fun char => char ≠ '\'' ∧ char ≠ '"' ∧ char ≠ '(' ∧ char ≠ ')') text

namespace Closed

variable {quoting}

theorem append {first rest : String} (before : Closed quoting first)
    (behind : Closed quoting rest) : Closed quoting (first ++ rest) := by
  rw [Closed, String.toList_append, openAfter_append, before]
  exact behind

theorem of_unmarked {text : String} (plain : Unmarked text.toList) : Closed quoting text := by
  unfold Closed
  generalize text.toList = chars at plain
  induction chars with
  | nil => rfl
  | cons char rest ih =>
    obtain ⟨single, double, opening, closing⟩ := plain char List.mem_cons_self
    have stays : levelAfter 0 char = some 0 := by
      simp [levelAfter, opening, closing]
    rw [openAfter, quoting.free_unquoted, quoting.after_free char single double]
    simp only [Bool.false_eq_true, ↓reduceIte, stays, Option.bind_some]
    exact ih fun other member => plain other (List.mem_cons_of_mem char member)

theorem parenthesized {text : String} (closed : Closed quoting text) :
    Closed quoting ("(" ++ text ++ ")") := by
  have opening : "(".toList = ['('] := by decide
  have closing : ")".toList = [')'] := by decide
  have inside := openAfter_under quoting closed 1
  have opened : openAfter quoting quoting.free 0 ['('] = some (quoting.free, 1) := by
    simp [openAfter, levelAfter, quoting.free_unquoted, quoting.after_free]
  have ended : openAfter quoting quoting.free 1 [')'] = some (quoting.free, 0) := by
    simp [openAfter, levelAfter, quoting.free_unquoted, quoting.after_free]
  simp only [Closed, String.toList_append, opening, closing, openAfter_append, opened,
    Option.bind_some]
  rw [inside]
  exact ended

end Closed

/-! Trees of clauses. -/

namespace Predicate

variable {quoting}

theorem closed_joined {written fragment : String} (before : Closed quoting written)
    (behind : Closed quoting fragment) (connector : Connector) :
    Closed quoting (joined written connector fragment) := by
  have joint : Closed quoting (" " ++ connector.text ++ " ") :=
    .of_unmarked (by cases connector <;> decide)
  unfold joined
  split
  · exact before
  · split
    · exact behind
    · simpa only [String.append_assoc] using (before.append joint).append behind

mutual

theorem closed_text (condition : Predicate)
    (leaves : ∀ leaf ∈ condition.leaves, Closed quoting leaf.sql) :
    Closed quoting condition.text := by
  match condition with
  | .clause _ text args => exact leaves ⟨text, args⟩ List.mem_cons_self
  | .group _ members =>
    have inner := closed_textFrom "" rfl members leaves
    rw [Predicate.text]
    split
    · rfl
    · exact inner.parenthesized

theorem closed_textFrom (written : String) (before : Closed quoting written)
    (conditions : List Predicate) (leaves : ∀ leaf ∈ leavesOf conditions, Closed quoting leaf.sql) :
    Closed quoting (textFrom written conditions) := by
  match conditions with
  | [] => exact before
  | condition :: rest =>
    have first := closed_text condition fun leaf member =>
      leaves leaf (List.mem_append_left _ member)
    exact closed_textFrom _ (closed_joined before first condition.connector) rest
      fun leaf member => leaves leaf (List.mem_append_right _ member)

end

end Predicate

/-- Where every clause closes its parentheses, so does the tree, whatever is joined and grouped in
it. -/
theorem Conditions.closed_text {quoting : Quoting σ} {conditions : Conditions}
    (leaves : ∀ leaf ∈ conditions.leaves, Closed quoting leaf.sql) :
    Closed quoting conditions.text :=
  Predicate.closed_textFrom "" rfl conditions leaves

end FluentSql
