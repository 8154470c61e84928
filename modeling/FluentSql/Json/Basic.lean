import FluentSql.Entries
import FluentSql.Number.Double

/-! JSON values. Members of an object are kept in key order. -/
namespace FluentSql

inductive Json where
  | null
  | bool (value : Bool)
  | int (value : Int)
  | float (value : Double)
  | string (text : String)
  | array (items : List Json)
  | object (members : List (String × Json))

namespace Json

mutual

def beq : Json → Json → Bool
  | .null, .null => true
  | .bool a, .bool b => a == b
  | .int a, .int b => a == b
  | .float a, .float b => a == b
  | .string a, .string b => a == b
  | .array a, .array b => beqItems a b
  | .object a, .object b => beqMembers a b
  | _, _ => false

def beqItems : List Json → List Json → Bool
  | [], [] => true
  | a :: as, b :: bs => beq a b && beqItems as bs
  | _, _ => false

def beqMembers : List (String × Json) → List (String × Json) → Bool
  | [], [] => true
  | (k, a) :: as, (l, b) :: bs => k == l && beq a b && beqMembers as bs
  | _, _ => false

end

mutual

theorem eq_of_beq : ∀ {a b : Json}, beq a b = true → a = b := by
  intro a b same
  cases a <;> cases b <;> simp_all [beq]
  case array as bs => exact eq_of_beqItems same
  case object as bs => exact eq_of_beqMembers same

theorem eq_of_beqItems : ∀ {as bs : List Json}, beqItems as bs = true → as = bs := by
  intro as bs same
  match as, bs with
  | [], [] => rfl
  | a :: as, b :: bs =>
    simp only [beqItems, Bool.and_eq_true] at same
    rw [eq_of_beq same.1, eq_of_beqItems same.2]
  | [], _ :: _ => simp [beqItems] at same
  | _ :: _, [] => simp [beqItems] at same

theorem eq_of_beqMembers : ∀ {as bs : List (String × Json)}, beqMembers as bs = true → as = bs := by
  intro as bs same
  match as, bs with
  | [], [] => rfl
  | (k, a) :: as, (l, b) :: bs =>
    simp only [beqMembers, Bool.and_eq_true, beq_iff_eq] at same
    rw [same.1.1, eq_of_beq same.1.2, eq_of_beqMembers same.2]
  | [], _ :: _ => simp [beqMembers] at same
  | _ :: _, [] => simp [beqMembers] at same

end

mutual

theorem beq_self : ∀ a : Json, beq a a = true
  | .null | .bool _ | .int _ | .float _ | .string _ => by simp [beq]
  | .array items => by simpa [beq] using beqItems_self items
  | .object members => by simpa [beq] using beqMembers_self members

theorem beqItems_self : ∀ items : List Json, beqItems items items = true
  | [] => rfl
  | a :: as => by simp [beqItems, beq_self a, beqItems_self as]

theorem beqMembers_self : ∀ members : List (String × Json), beqMembers members members = true
  | [] => rfl
  | (k, a) :: as => by simp [beqMembers, beq_self a, beqMembers_self as]

end

instance : DecidableEq Json := fun a b =>
  if same : beq a b = true then isTrue (eq_of_beq same)
  else isFalse fun equal => same (equal ▸ beq_self a)

instance : Inhabited Json := ⟨.null⟩

/-- An object from members in any order; of equal keys the last one stays. -/
def ofMembers (members : List (String × Json)) : Json := .object (Entries.ofPairs members)

end Json
end FluentSql
