import FluentSql.Predicate.Basic
import FluentSql.Proofs.Placeholder.Filling
import FluentSql.Proofs.Predicate.Leaves

/-! Condition trees with their arguments written into their clauses. -/
namespace FluentSql

open Placeholder

namespace Predicate

mutual

/-- A condition with every argument written at its placeholder. -/
def inlined (write : Value → String) : Predicate → Predicate
  | .clause connector text args => .clause connector (filled write text args) []
  | .group connector members => .group connector (inlinedAll write members)

def inlinedAll (write : Value → String) : List Predicate → List Predicate
  | [] => []
  | condition :: rest => condition.inlined write :: inlinedAll write rest

end

@[simp] theorem connector_inlined (write : Value → String) (condition : Predicate) :
    (condition.inlined write).connector = condition.connector := by
  cases condition <;> rfl

theorem inlinedAll_append (write : Value → String) (first rest : List Predicate) :
    inlinedAll write (first ++ rest) = inlinedAll write first ++ inlinedAll write rest := by
  induction first with
  | nil => rfl
  | cons condition first ih => simp only [List.cons_append, inlinedAll, ih]

mutual

@[simp] theorem args_inlined (write : Value → String) (condition : Predicate) :
    (condition.inlined write).args = [] := by
  match condition with
  | .clause _ _ _ => rfl
  | .group _ members => exact argsOf_inlinedAll write members

theorem argsOf_inlinedAll (write : Value → String) (conditions : List Predicate) :
    argsOf (inlinedAll write conditions) = [] := by
  match conditions with
  | [] => rfl
  | condition :: rest =>
    rw [inlinedAll, argsOf, args_inlined write condition, argsOf_inlinedAll write rest]
    rfl

end

theorem fills_joined {write : Value → String} (visible : ∀ value, write value ≠ "")
    {held more : List Value} (connector : Connector) (first : Fills write written held done)
    (next : Fills write fragment more result) :
    Fills write (joined written connector fragment) (held ++ more)
      (joined done connector result) := by
  have silent := next.eq_empty_iff visible
  have fresh := first.eq_empty_iff visible
  unfold joined
  by_cases nothing : fragment = ""
  · subst fragment
    have none : more = [] := next.paired.args_eq_nil
    subst more
    simpa [silent.mpr rfl] using first
  · by_cases start : written = ""
    · subst written
      have none : held = [] := first.paired.args_eq_nil
      subst held
      simpa [nothing, silent, fresh.mpr rfl] using next
    · have between : Inert (" " ++ connector.text ++ " ") := by cases connector <;> decide
      simp only [nothing, silent, start, fresh, ↓reduceIte]
      simpa only [String.append_assoc] using (first.before between).append next

mutual

theorem fills_text {write : Value → String} (visible : ∀ value, write value ≠ "")
    (condition : Predicate) (paired : ∀ leaf ∈ condition.leaves, Paired leaf.sql leaf.args) :
    Fills write condition.text condition.args (condition.inlined write).text := by
  match condition with
  | .clause _ text args =>
    have own : Paired text args := paired ⟨text, args⟩ List.mem_cons_self
    exact own.fills write
  | .group _ members =>
    have empty := inert_empty.fills write
    have inner := fills_textFrom visible empty members paired
    simp only [Predicate.text, Predicate.args, inlined, inner.eq_empty_iff visible]
    split
    · rename_i nothing
      rw [nothing] at inner
      rw [show argsOf members = [] from inner.paired.args_eq_nil]
      exact empty
    · have opening : Inert "(" := by decide
      exact (inner.after opening).before inert_close

theorem fills_textFrom {write : Value → String} (visible : ∀ value, write value ≠ "")
    {held : List Value} (first : Fills write written held done) (conditions : List Predicate)
    (paired : ∀ leaf ∈ leavesOf conditions, Paired leaf.sql leaf.args) :
    Fills write (textFrom written conditions) (held ++ argsOf conditions)
      (textFrom done (inlinedAll write conditions)) := by
  match conditions with
  | [] => simpa [textFrom, argsOf, inlinedAll] using first
  | condition :: rest =>
    have own := fills_text visible condition fun leaf member =>
      paired leaf (List.mem_append_left _ member)
    have next := fills_joined visible condition.connector first own
    have last := fills_textFrom visible next rest fun leaf member =>
      paired leaf (List.mem_append_right _ member)
    simpa only [textFrom, argsOf, inlinedAll, connector_inlined, List.append_assoc] using last

end

end Predicate

namespace Conditions

/-- Every clause has a placeholder for each of its arguments, and no other. -/
def Paired (conditions : Conditions) : Prop :=
  ∀ leaf ∈ conditions.leaves, Placeholder.Paired leaf.sql leaf.args

instance (conditions : Conditions) : Decidable conditions.Paired :=
  inferInstanceAs (Decidable (∀ leaf ∈ conditions.leaves, Placeholder.Paired leaf.sql leaf.args))

def inlined (write : Value → String) (conditions : Conditions) : Conditions :=
  Predicate.inlinedAll write conditions

@[simp] theorem args_inlined (write : Value → String) (conditions : Conditions) :
    (conditions.inlined write).args = [] := Predicate.argsOf_inlinedAll write conditions

theorem Paired.fills_text {write : Value → String} {conditions : Conditions}
    (paired : conditions.Paired) (visible : ∀ value, write value ≠ "") :
    Fills write conditions.text conditions.args (conditions.inlined write).text := by
  have empty := inert_empty.fills write
  exact Predicate.fills_textFrom visible empty conditions paired

/-- Conditions that show no text have no arguments. -/
theorem Paired.args_of_isBlank {conditions : Conditions} (paired : conditions.Paired)
    (blank : conditions.isBlank = true) : conditions.args = [] := by
  have visible : ∀ value : Value, (fun _ : Value => "?") value ≠ "" := by simp
  have own := (paired.fills_text visible).paired
  rw [(isBlank_iff conditions).mp blank] at own
  exact own.args_eq_nil

theorem paired_empty : Paired [] := by
  intro leaf member
  cases member

theorem Paired.append {first rest : Conditions} (paired : first.Paired) (next : rest.Paired) :
    Paired (first ++ rest) := by
  intro leaf member
  rw [leaves, Predicate.leavesOf_append] at member
  rcases List.mem_append.mp member with before | behind
  · exact paired leaf before
  · exact next leaf behind

theorem paired_clause (connector : Connector) {clause : String} {held : List Value}
    (paired : Placeholder.Paired clause held) : Paired [.clause connector clause held] := by
  intro leaf member
  have same : leaf = ⟨clause, held⟩ := by
    simpa [leaves, Predicate.leavesOf, Predicate.leaves] using member
  subst leaf
  exact paired

theorem Paired.attach {conditions members : Conditions} (paired : conditions.Paired)
    (connector : Connector) (inner : members.Paired) :
    (conditions.attach connector members).Paired := by
  intro leaf member
  rw [leaves_attach] at member
  rcases List.mem_append.mp member with before | behind
  · exact paired leaf before
  · exact inner leaf behind

theorem inlined_append (write : Value → String) (first rest : Conditions) :
    inlined write (first ++ rest) = first.inlined write ++ rest.inlined write :=
  Predicate.inlinedAll_append write first rest

theorem inlined_attach (write : Value → String) (conditions : Conditions) (connector : Connector)
    (members : Conditions) :
    (conditions.attach connector members).inlined write =
      (conditions.inlined write).attach connector (members.inlined write) := by
  cases members with
  | nil => rfl
  | cons member rest => exact inlined_append write conditions _

end Conditions
end FluentSql
