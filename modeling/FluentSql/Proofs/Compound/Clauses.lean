import FluentSql.Proofs.Compound.Builders
import Mathlib.Data.List.Infix

/-! The clauses at the end of a query: ordering, limit and offset, each of which may be missing, and
what locks the rows, which stands behind the last of them. Their items tell them. -/
namespace FluentSql

open Compound

namespace Compound

/-- The clauses that belong to a select, or to a compound as a whole. -/
structure Clauses where
  order? : Option String
  limit? : Option UInt64
  offset? : Option UInt64
  deriving DecidableEq

/-- What stands behind the last clause only. -/
def ending (last : Bool) (lock : String) : String := if last then lock else ""

namespace Clauses

def isEmpty (clauses : Clauses) : Bool :=
  clauses.order?.isNone && clauses.limit?.isNone && clauses.offset?.isNone

def text (clauses : Clauses) : String :=
  (match clauses.order? with
    | some terms => " ORDER BY " ++ terms
    | none => "") ++
    (match clauses.limit? with
      | some limit => " LIMIT " ++ Text.natText limit.toNat
      | none => "") ++
    (match clauses.offset? with
      | some offset => " OFFSET " ++ Text.natText offset.toNat
      | none => "")

def orderItems (clauses : Clauses) (lock : String) : List Item :=
  match clauses.order? with
  | some terms =>
    let last := clauses.limit?.isNone && clauses.offset?.isNone
    [.clause .order ("BY " ++ terms ++ ending last lock)]
  | none => []

def limitItems (clauses : Clauses) (lock : String) : List Item :=
  match clauses.limit? with
  | some limit =>
    [.clause .limit (Text.natText limit.toNat ++ ending clauses.offset?.isNone lock)]
  | none => []

def offsetItems (clauses : Clauses) (lock : String) : List Item :=
  match clauses.offset? with
  | some offset => [.clause .offset (Text.natText offset.toNat ++ lock)]
  | none => []

/-- The clauses as they are read, with the lock at the end of the last one. -/
def items (clauses : Clauses) (lock : String) : List Item :=
  clauses.orderItems lock ++ clauses.limitItems lock ++ clauses.offsetItems lock

theorem written_items (clauses : Clauses) (lock : String) :
    writtenAll (clauses.items lock) =
      (clauses.text ++ ending (!clauses.isEmpty) lock).toList := by
  have order : " ORDER BY ".toList =
      ' ' :: Keyword.order.text.toList ++ ' ' :: "BY ".toList := by decide
  have limit : " LIMIT ".toList = ' ' :: Keyword.limit.text.toList ++ [' '] := by decide
  have offset : " OFFSET ".toList = ' ' :: Keyword.offset.text.toList ++ [' '] := by decide
  obtain ⟨order?, limit?, offset?⟩ := clauses
  cases order? <;> cases limit? <;> cases offset? <;>
    simp [items, orderItems, limitItems, offsetItems, text, isEmpty, ending, writtenAll,
      Item.written, String.toList_append, order, limit, offset]

/-! The clauses are read off their items. -/

/-- A text behind the last clause: nothing, or a blank and words that are no directions. -/
structure Trailing (lock : String) : Prop where
  trails : Trails lock
  begins : lock = "" ∨ ∃ rest, lock.toList = ' ' :: rest
  undirected : ¬ ['S', 'C'] <:+: lock.toList

theorem trailing_empty : Trailing "" := ⟨trails_empty, Or.inl rfl, by decide⟩

theorem Trailing.ending {lock : String} (trailing : Trailing lock) (last : Bool) :
    Trailing (ending last lock) := by
  cases last
  · exact trailing_empty
  · exact trailing

theorem stops_of_trailing {lock : String} (trailing : Trailing lock) :
    Text.Stops Text.isDigit lock.toList := by
  rcases trailing.begins with rfl | ⟨rest, blank⟩
  · exact Text.stops_nil _
  · rw [blank]
    exact Text.stops_cons (by decide) rest

/-- A number ends where its digits do. -/
theorem number_unique {number other : UInt64} {lock also : String} (trailing : Trailing lock)
    (trailing' : Trailing also)
    (same : Text.natText number.toNat ++ lock = Text.natText other.toNat ++ also) :
    number = other := by
  have digits (value : Nat) : ∀ char ∈ (Text.natText value).toList,
      Text.isDigit char = true := by
    intro char member
    have text : (Text.natText value).toList = Text.decimalDigits value := String.toList_ofList
    rw [text] at member
    exact Text.isDigit_of_mem_decimalDigits member
  have chars : (Text.natText number.toNat).toList ++ lock.toList =
      (Text.natText other.toNat).toList ++ also.toList := by
    rw [← String.toList_append, same, String.toList_append]
  have texts := (Text.split_unique Text.isDigit (digits _) (digits _)
    (stops_of_trailing trailing) (stops_of_trailing trailing') chars).1
  exact UInt64.toNat_inj.mp (Text.natText_injective (String.toList_injective texts))

/-- An ordering that goes on behind its end has a direction in what follows. -/
theorem eq_nil_of_directed {column longer more lock rest : List Char}
    (begins : lock = [] ∨ ∃ rest, lock = ' ' :: rest) (undirected : ¬ ['S', 'C'] <:+: lock)
    (split : lock = more ++ rest) (ends : longer ++ ['S', 'C'] = column ++ ['S', 'C'] ++ more) :
    more = [] := by
  rcases List.eq_nil_or_concat more with rfl | ⟨front, last, rfl⟩
  · rfl
  · exfalso
    rw [List.concat_eq_append] at split ends
    have pair : longer ++ ['S'] ++ ['C'] = column ++ ['S', 'C'] ++ front ++ [last] := by
      simpa using ends
    obtain ⟨before, final⟩ := List.append_inj' pair rfl
    obtain rfl : 'C' = last := by simpa using final
    rcases List.eq_nil_or_concat front with rfl | ⟨start, letter, rfl⟩
    · -- One letter only: the words behind an ordering begin with a blank.
      rcases begins with rfl | ⟨behind, blank⟩
      · simp at split
      · rw [blank] at split
        exact absurd (List.cons.inj split).1 (by decide)
    · rw [List.concat_eq_append] at before split
      have letters : longer ++ ['S'] = column ++ ['S', 'C'] ++ start ++ [letter] := by
        simpa using before
      obtain rfl : 'S' = letter := by simpa using (List.append_inj' letters rfl).2
      exact undirected ⟨start, rest, by simp [split]⟩

theorem order_unique {order other lock also : String} (directed : Directed order)
    (directed' : Directed other) (trailing : Trailing lock) (trailing' : Trailing also)
    (same : order ++ lock = other ++ also) : order = other := by
  have begins {lock : String} (trailing : Trailing lock) :
      lock.toList = [] ∨ ∃ rest, lock.toList = ' ' :: rest := by
    rcases trailing.begins with rfl | blank
    · exact Or.inl rfl
    · exact Or.inr blank
  obtain ⟨column, ending⟩ := directed.ending
  obtain ⟨column', ending'⟩ := directed'.ending
  have chars : order.toList ++ lock.toList = other.toList ++ also.toList := by
    rw [← String.toList_append, same, String.toList_append]
  rcases List.append_eq_append_iff.mp chars with ⟨more, longer, split⟩ | ⟨more, longer, split⟩
  · have ends := longer
    rw [ending, ending'] at ends
    have none := eq_nil_of_directed (begins trailing) trailing.undirected split ends
    rw [none, List.append_nil] at longer
    exact String.toList_injective longer.symm
  · have ends := longer
    rw [ending, ending'] at ends
    have none := eq_nil_of_directed (begins trailing') trailing'.undirected split ends
    rw [none, List.append_nil] at longer
    exact String.toList_injective longer

/-- The text of the first clause with a keyword. -/
def payload? (keyword : Keyword) : List Item → Option String
  | [] => none
  | .clause other text :: rest => if other = keyword then some text else payload? keyword rest
  | _ :: rest => payload? keyword rest

section Payloads

variable (clauses : Clauses) (lock : String)

theorem payload_order : payload? .order (clauses.items lock) =
    clauses.order?.map fun terms =>
      "BY " ++ terms ++ ending (clauses.limit?.isNone && clauses.offset?.isNone) lock := by
  obtain ⟨order?, limit?, offset?⟩ := clauses
  cases order? <;> cases limit? <;> cases offset? <;> rfl

theorem payload_limit : payload? .limit (clauses.items lock) =
    clauses.limit?.map fun limit =>
      Text.natText limit.toNat ++ ending clauses.offset?.isNone lock := by
  obtain ⟨order?, limit?, offset?⟩ := clauses
  cases order? <;> cases limit? <;> cases offset? <;> rfl

theorem payload_offset : payload? .offset (clauses.items lock) =
    clauses.offset?.map fun offset => Text.natText offset.toNat ++ lock := by
  obtain ⟨order?, limit?, offset?⟩ := clauses
  cases order? <;> cases limit? <;> cases offset? <;> rfl

end Payloads

/-- Two values that are both missing, or that agree where their texts do. -/
theorem eq_of_map_eq {α : Type} {first? second? : Option α} {text text' : α → String}
    (same : first?.map text = second?.map text')
    (agree : ∀ first ∈ first?, ∀ second ∈ second?, text first = text' second →
      first = second) : first? = second? := by
  cases first? with
  | none =>
    cases second? with
    | none => rfl
    | some second => cases same
  | some first =>
    cases second? with
    | none => cases same
    | some second => rw [agree first rfl second rfl (Option.some.inj same)]

/-- Clauses with the same items are the same. -/
theorem items_unique {clauses others : Clauses} {lock also : String}
    (directed : ∀ terms ∈ clauses.order?, Directed terms)
    (directed' : ∀ terms ∈ others.order?, Directed terms)
    (trailing : Trailing lock) (trailing' : Trailing also)
    (same : clauses.items lock = others.items also) : clauses = others := by
  have order := congrArg (payload? .order) same
  have limit := congrArg (payload? .limit) same
  have offset := congrArg (payload? .offset) same
  rw [payload_order, payload_order] at order
  rw [payload_limit, payload_limit] at limit
  rw [payload_offset, payload_offset] at offset
  have orders : clauses.order? = others.order? := by
    refine eq_of_map_eq order ?_
    intro terms member terms' member' texts
    rw [String.append_assoc, String.append_assoc] at texts
    exact order_unique (directed terms member) (directed' terms' member') (trailing.ending _)
      (trailing'.ending _) (String.append_right_inj _ |>.mp texts)
  have limits : clauses.limit? = others.limit? := by
    refine eq_of_map_eq limit ?_
    intro number _ number' _ texts
    exact number_unique (trailing.ending _) (trailing'.ending _) texts
  have offsets : clauses.offset? = others.offset? := by
    refine eq_of_map_eq offset ?_
    intro number _ number' _ texts
    exact number_unique trailing trailing' texts
  obtain ⟨order?, limit?, offset?⟩ := clauses
  obtain ⟨_, _, _⟩ := others
  obtain rfl := orders
  obtain rfl := limits
  obtain rfl := offsets
  rfl

theorem formed_items (clauses : Clauses) (directed : ∀ terms ∈ clauses.order?, Directed terms)
    {lock : String} (trailing : Trailing lock) : Formed false (clauses.items lock) := by
  have order : Formed false (clauses.orderItems lock) := by
    unfold orderItems
    split
    · rename_i terms present
      have listed := (directed terms present).plain
      have begun : Plain ("BY " ++ terms) := Leads.append (leads (by decide)) listed
      exact .clause (by decide) (begun.trailed (trailing.ending _).trails) .done
    · exact .done
  have limit : Formed false (clauses.limitItems lock) := by
    unfold limitItems
    split
    · exact .clause (by decide) ((plain_natText _).trailed (trailing.ending _).trails) .done
    · exact .done
  have offset : Formed false (clauses.offsetItems lock) := by
    unfold offsetItems
    split
    · exact .clause (by decide) ((plain_natText _).trailed trailing.trails) .done
    · exact .done
  exact (order.append limit).append offset

end Clauses

end Compound

namespace Query

/-- The clauses of a builder. -/
def clauses (query : Query) : Clauses where
  order? := if query.orderBy.isEmpty then none else some (Text.commaList query.orderBy)
  limit? := query.limit?
  offset? := query.offset?

theorem orderClause_eq (query : Query) : query.orderClause = query.clauses.text := by
  unfold orderClause clauses Clauses.text
  split <;> rfl

theorem directed_commaList {orders : List String} (present : orders ≠ [])
    (each : ∀ order ∈ orders, Directed order) : Directed (Text.commaList orders) := by
  refine ⟨plain_join (by decide) fun order member => (each order member).plain, ?_⟩
  induction orders with
  | nil => exact absurd rfl present
  | cons order rest ih =>
    cases rest with
    | nil => exact (each order List.mem_cons_self).ending
    | cons second rest =>
      obtain ⟨column, ending⟩ := ih (List.cons_ne_nil _ _) fun other member =>
        each other (List.mem_cons_of_mem order member)
      refine ⟨order.toList ++ ", ".toList ++ column, ?_⟩
      rw [Text.commaList] at ending ⊢
      rw [Text.join, String.toList_append, String.toList_append, ending, List.append_assoc]
      simp only [List.append_assoc]

theorem PlainTexts.directed {query : Query} (plain : query.PlainTexts) :
    ∀ terms ∈ query.clauses.order?, Directed terms := by
  intro terms member
  unfold clauses at member
  dsimp only at member
  split at member
  · cases member
  · rename_i ordered
    obtain rfl := Option.some.inj member
    exact directed_commaList (fun none => ordered (by simp [none])) plain.orderBy

theorem PlainTexts.trailing {query : Query} (plain : query.PlainTexts) :
    Clauses.Trailing query.lockClause := by
  refine ⟨plain.trails_lockClause, ?_, ?_⟩
  · unfold lockClause
    split
    · split
      · exact Or.inr ⟨_, by rw [String.toList_append]; rfl⟩
      · exact Or.inl rfl
    · exact Or.inl rfl
  · unfold lockClause
    split
    · rename_i lock held
      split
      · have own := (plain.lock lock (by simp [held])).undirected
        rw [String.toList_append]
        change ¬ ['S', 'C'] <:+: ' ' :: lock.toList
        rw [List.infix_cons_iff]
        rintro (start | later)
        · simp [List.cons_prefix_cons] at start
        · exact own later
      · decide
    · decide

end Query
end FluentSql
