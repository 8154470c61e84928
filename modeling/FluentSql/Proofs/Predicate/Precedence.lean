import FluentSql.Proofs.Predicate.Leaves

/-! Condition trees as a backend reads them: conjunction binds tighter than disjunction, and what
stands in parentheses is a unit. The text of a tree is the text of its tokens, and there is one
formula that they read as. -/
namespace FluentSql

/-- What a condition text is made of. Clauses are units that carry their arguments. -/
inductive Token where
  | clause (leaf : Fragment)
  | connector (joint : Connector)
  | opening
  | closing
  deriving DecidableEq

def Token.text : Token → String
  | .clause leaf => leaf.sql
  | .connector joint => " " ++ joint.text ++ " "
  | .opening => "("
  | .closing => ")"

/-- The text of tokens that stand next to each other. -/
def written (tokens : List Token) : String :=
  tokens.foldr (fun token rest => token.text ++ rest) ""

inductive Formula where
  | clause (leaf : Fragment)
  | group (inner : Formula)
  | and (first second : Formula)
  | or (first second : Formula)
  deriving DecidableEq

namespace Formula

/-- Whether a formula holds where it is known which clauses do. -/
def Holds (truth : Fragment → Prop) : Formula → Prop
  | .clause leaf => truth leaf
  | .group inner => inner.Holds truth
  | .and first second => first.Holds truth ∧ second.Holds truth
  | .or first second => first.Holds truth ∨ second.Holds truth

instance decidableHolds (truth : Fragment → Prop) [DecidablePred truth] :
    (formula : Formula) → Decidable (formula.Holds truth)
  | .clause leaf => inferInstanceAs (Decidable (truth leaf))
  | .group inner => decidableHolds truth inner
  | .and first second =>
    @instDecidableAnd _ _ (decidableHolds truth first) (decidableHolds truth second)
  | .or first second =>
    @instDecidableOr _ _ (decidableHolds truth first) (decidableHolds truth second)

/-- A formula with one more conjunct behind it, which belongs to the last alternative only. -/
def narrowed (formula conjunct : Formula) : Formula :=
  match formula with
  | .or before last => .or before (.and last conjunct)
  | whole => .and whole conjunct

/-- The alternatives in front of the last one. -/
def earlier? : Formula → Option Formula
  | .or before _ => some before
  | _ => none

end Formula

/-- How tightly a stretch of tokens is bound. -/
inductive Rank where
  | unit
  | conjunction
  | alternatives

/-- The grammar of conditions. A chain of conjunctions is made of units, and a chain of alternatives
is made of conjunctions. -/
inductive Reads : Rank → List Token → Formula → Prop where
  | clause (leaf : Fragment) : Reads .unit [.clause leaf] (.clause leaf)
  | group {tokens inner} (inside : Reads .alternatives tokens inner) :
      Reads .unit (.opening :: tokens ++ [.closing]) (.group inner)
  | unit {tokens formula} (alone : Reads .unit tokens formula) : Reads .conjunction tokens formula
  | and {tokens others first second} (before : Reads .conjunction tokens first)
      (last : Reads .unit others second) :
      Reads .conjunction (tokens ++ .connector .and :: others) (.and first second)
  | conjunction {tokens formula} (alone : Reads .conjunction tokens formula) :
      Reads .alternatives tokens formula
  | or {tokens others first second} (before : Reads .alternatives tokens first)
      (last : Reads .conjunction others second) :
      Reads .alternatives (tokens ++ .connector .or :: others) (.or first second)

/-! A reader from left to right. It keeps what it has read of the level that it is in, and of the
levels around it. -/

structure Level where
  before? : Option Formula
  current? : Option Formula

namespace Level

def empty : Level := ⟨none, none⟩

def take (level : Level) (unit : Formula) : Level :=
  match level.current? with
  | none => { level with current? := some unit }
  | some formula => { level with current? := some (.and formula unit) }

def result? (level : Level) : Option Formula :=
  match level.before?, level.current? with
  | some before, some current => some (.or before current)
  | none, current? => current?
  | some before, none => some before

/-- The level behind an OR. -/
def next (level : Level) : Level := ⟨level.result?, none⟩

end Level

def readFrom (level : Level) (outer : List Level) : List Token → Option Formula
  | [] => level.result?
  | .clause leaf :: rest => readFrom (level.take (.clause leaf)) outer rest
  | .connector .and :: rest => readFrom level outer rest
  | .connector .or :: rest => readFrom level.next outer rest
  | .opening :: rest => readFrom .empty (level :: outer) rest
  | .closing :: rest =>
    match outer, level.result? with
    | enclosing :: outer, some inner => readFrom (enclosing.take (.group inner)) outer rest
    | _, _ => none

/-- What the reader does with a stretch that the grammar reads. -/
def Follows (rank : Rank) (tokens : List Token) (formula : Formula) : Prop :=
  match rank with
  | .unit => ∀ level outer rest,
      readFrom level outer (tokens ++ rest) = readFrom (level.take formula) outer rest
  | .conjunction => ∀ before? outer rest,
      readFrom ⟨before?, none⟩ outer (tokens ++ rest) =
        readFrom ⟨before?, some formula⟩ outer rest
  | .alternatives => ∃ level : Level, level.result? = some formula ∧ ∀ outer rest,
      readFrom .empty outer (tokens ++ rest) = readFrom level outer rest

theorem follows_of_reads {rank : Rank} {tokens : List Token} {formula : Formula}
    (reads : Reads rank tokens formula) : Follows rank tokens formula := by
  induction reads with
  | clause leaf => exact fun _ _ _ => rfl
  | group inside ih =>
    intro level outer rest
    obtain ⟨inner, result, follows⟩ := ih
    simp only [List.cons_append, List.append_assoc, readFrom, follows, result, List.nil_append]
  | unit alone ih => exact fun before? outer rest => ih ⟨before?, none⟩ outer rest
  | and before last first second =>
    intro before? outer rest
    rw [List.append_assoc, first, List.cons_append, readFrom, second]
    rfl
  | conjunction alone ih => exact ⟨⟨none, some _⟩, rfl, ih none⟩
  | or before last first second =>
    obtain ⟨level, result, follows⟩ := first
    refine ⟨⟨some _, some _⟩, rfl, ?_⟩
    intro outer rest
    rw [List.append_assoc, follows, List.cons_append, readFrom, Level.next, result, second]

/-- There is one way to read a condition. -/
theorem reads_unique {tokens : List Token} {formula other : Formula}
    (reads : Reads .alternatives tokens formula) (others : Reads .alternatives tokens other) :
    formula = other := by
  obtain ⟨level, result, follows⟩ := follows_of_reads reads
  obtain ⟨level', result', follows'⟩ := follows_of_reads others
  have same := (follows [] []).symm.trans (follows' [] [])
  simp only [readFrom, result, result'] at same
  exact Option.some.inj same

/-- Nothing is not a condition. -/
theorem tokens_ne_nil_of_reads {tokens : List Token} {formula : Formula}
    (reads : Reads .alternatives tokens formula) : tokens ≠ [] := by
  rintro rfl
  obtain ⟨level, result, follows⟩ := follows_of_reads reads
  have none := follows [] []
  simp only [List.nil_append, readFrom, result] at none
  cases none

theorem not_or_of_conjunction {tokens : List Token} {formula : Formula}
    (reads : Reads .conjunction tokens formula) : formula.earlier? = none := by
  cases reads with
  | unit alone => cases alone <;> rfl
  | and before last => rfl

/-- A unit behind AND goes to the last alternative. -/
theorem Reads.narrowed {tokens others : List Token} {formula unit : Formula}
    (reads : Reads .alternatives tokens formula) (last : Reads .unit others unit) :
    Reads .alternatives (tokens ++ .connector .and :: others) (formula.narrowed unit) := by
  cases reads with
  | conjunction alone =>
    have whole : formula.narrowed unit = .and formula unit := by
      have single := not_or_of_conjunction alone
      cases formula <;> first | rfl | cases single
    rw [whole]
    exact .conjunction (.and alone last)
  | or before behind =>
    rw [List.append_assoc]
    exact .or before (.and behind last)

/-! Condition trees as tokens. -/

namespace Predicate

/-- Join tokens to those before; nothing joins nothing. -/
def chained (before : List Token) (joint : Connector) (behind : List Token) : List Token :=
  if behind = [] then before
  else if before = [] then behind
  else before ++ .connector joint :: behind

mutual

def tokens : Predicate → List Token
  | .clause _ text args => if text = "" then [] else [.clause ⟨text, args⟩]
  | .group _ members =>
    let inner := tokensFrom [] members
    if inner = [] then [] else .opening :: inner ++ [.closing]

def tokensFrom (before : List Token) : List Predicate → List Token
  | [] => before
  | condition :: rest => tokensFrom (chained before condition.connector condition.tokens) rest

end

theorem tokensFrom_append (before : List Token) (first rest : List Predicate) :
    tokensFrom before (first ++ rest) = tokensFrom (tokensFrom before first) rest := by
  induction first generalizing before with
  | nil => rfl
  | cons condition first ih => exact ih _

/-- Tokens that all show text. -/
def Visible (tokens : List Token) : Prop := ∀ token ∈ tokens, token.text ≠ ""

theorem visible_nil : Visible [] := by simp [Visible]

@[simp] theorem written_nil : written [] = "" := rfl

@[simp] theorem written_cons (token : Token) (rest : List Token) :
    written (token :: rest) = token.text ++ written rest := rfl

@[simp] theorem written_append (first rest : List Token) :
    written (first ++ rest) = written first ++ written rest := by
  induction first with
  | nil => simp
  | cons token first ih => simp [ih, String.append_assoc]

theorem written_eq_empty_iff {tokens : List Token} (visible : Visible tokens) :
    written tokens = "" ↔ tokens = [] := by
  cases tokens with
  | nil => simp
  | cons token rest =>
    have shown := visible token List.mem_cons_self
    simp [String.append_eq_empty_iff, shown]

theorem visible_chained {before behind : List Token} (first : Visible before)
    (second : Visible behind) (joint : Connector) : Visible (chained before joint behind) := by
  unfold chained
  split
  · exact first
  · split
    · exact second
    · intro token member
      rcases List.mem_append.mp member with early | late
      · exact first token early
      · rcases List.mem_cons.mp late with rfl | late
        · cases joint <;> decide
        · exact second token late

theorem written_chained {before behind : List Token} (first : Visible before)
    (second : Visible behind) (joint : Connector) :
    written (chained before joint behind) = joined (written before) joint (written behind) := by
  simp only [chained, joined, written_eq_empty_iff first, written_eq_empty_iff second]
  split
  · rfl
  · split
    · rfl
    · simp only [written_append, written_cons, Token.text, String.append_assoc]

mutual

theorem visible_tokens (condition : Predicate) : Visible condition.tokens := by
  match condition with
  | .clause _ text args =>
    rw [tokens]
    split
    · exact visible_nil
    · simpa [Visible, Token.text]
  | .group _ members =>
    have inside := visible_tokensFrom [] visible_nil members
    simp only [tokens]
    split
    · exact visible_nil
    · intro token member
      simp only [List.cons_append, List.mem_cons, List.mem_append, List.not_mem_nil,
        or_false] at member
      rcases member with rfl | member | rfl
      · decide
      · exact inside token member
      · decide

theorem visible_tokensFrom (before : List Token) (first : Visible before)
    (conditions : List Predicate) : Visible (tokensFrom before conditions) := by
  match conditions with
  | [] => exact first
  | condition :: rest =>
    exact visible_tokensFrom _ (visible_chained first (visible_tokens condition) _) rest

end

mutual

/-- The text of a condition is that of its tokens. -/
theorem written_tokens (condition : Predicate) : written condition.tokens = condition.text := by
  match condition with
  | .clause _ text args =>
    rw [tokens, Predicate.text]
    split
    · simp_all
    · simp [Token.text]
  | .group _ members =>
    have inside := written_tokensFrom [] visible_nil members
    have shown := written_eq_empty_iff (visible_tokensFrom [] visible_nil members)
    rw [written_nil] at inside
    simp only [tokens, Predicate.text, ← inside, shown]
    split
    · rfl
    · simp [Token.text, String.append_assoc]

theorem written_tokensFrom (before : List Token) (first : Visible before)
    (conditions : List Predicate) :
    written (tokensFrom before conditions) = textFrom (written before) conditions := by
  match conditions with
  | [] => rfl
  | condition :: rest =>
    have second := visible_tokens condition
    rw [tokensFrom, textFrom, written_tokensFrom _ (visible_chained first second _) rest,
      written_chained first second, written_tokens condition]

end

/-- Conditions without text are those without tokens. -/
theorem tokens_eq_nil_iff (condition : Predicate) :
    condition.tokens = [] ↔ condition.shows = false := by
  rw [← text_eq_empty_iff, ← written_tokens, written_eq_empty_iff (visible_tokens condition)]

/-- Nothing at all, or a stretch that is read. -/
def Readable (rank : Rank) (tokens : List Token) : Prop :=
  tokens = [] ∨ ∃ formula, Reads rank tokens formula

theorem readable_chained {before behind : List Token} (first : Readable .alternatives before)
    (second : Readable .unit behind) (joint : Connector) :
    Readable .alternatives (chained before joint behind) := by
  unfold chained
  split
  · exact first
  · rename_i present
    obtain ⟨unit, last⟩ := second.resolve_left present
    split
    · exact Or.inr ⟨unit, .conjunction (.unit last)⟩
    · rename_i preceded
      obtain ⟨formula, reads⟩ := first.resolve_left preceded
      cases joint with
      | and => exact Or.inr ⟨_, reads.narrowed last⟩
      | or => exact Or.inr ⟨_, .or reads (.unit last)⟩

mutual

theorem readable_tokens (condition : Predicate) : Readable .unit condition.tokens := by
  match condition with
  | .clause _ text args =>
    rw [tokens]
    split
    · exact Or.inl rfl
    · exact Or.inr ⟨_, .clause _⟩
  | .group _ members =>
    have inside := readable_tokensFrom [] (Or.inl rfl) members
    simp only [tokens]
    split
    · exact Or.inl rfl
    · rename_i present
      obtain ⟨inner, reads⟩ := inside.resolve_left present
      exact Or.inr ⟨_, .group reads⟩

theorem readable_tokensFrom (before : List Token) (first : Readable .alternatives before)
    (conditions : List Predicate) : Readable .alternatives (tokensFrom before conditions) := by
  match conditions with
  | [] => exact first
  | condition :: rest =>
    exact readable_tokensFrom _ (readable_chained first (readable_tokens condition) _) rest

end

/-- Conditions that are all joined by AND are one conjunction. -/
theorem conjunction_tokensFrom (before : List Token) (first : Readable .conjunction before)
    (conditions : List Predicate)
    (only : ∀ condition ∈ conditions, condition.shows = true → condition.connector = .and) :
    Readable .conjunction (tokensFrom before conditions) := by
  induction conditions generalizing before with
  | nil => exact first
  | cons condition rest ih =>
    refine ih _ ?_ fun other member => only other (List.mem_cons_of_mem condition member)
    unfold chained
    split
    · exact first
    · rename_i present
      obtain ⟨unit, last⟩ := (readable_tokens condition).resolve_left present
      split
      · exact Or.inr ⟨unit, .unit last⟩
      · rename_i preceded
        obtain ⟨formula, reads⟩ := first.resolve_left preceded
        have shown : condition.shows = true := by
          rw [tokens_eq_nil_iff] at present
          exact Bool.not_eq_false _ ▸ present
        rw [only condition List.mem_cons_self shown]
        exact Or.inr ⟨_, .and reads last⟩

end Predicate

namespace Conditions

/-- What the text of the conditions is made of. -/
def tokens (conditions : Conditions) : List Token := Predicate.tokensFrom [] conditions

theorem written_tokens (conditions : Conditions) : written conditions.tokens = conditions.text :=
  Predicate.written_tokensFrom [] Predicate.visible_nil conditions

/-- Conditions that show text are read in one way. -/
theorem reads_tokens {conditions : Conditions} (shown : conditions.tokens ≠ []) :
    ∃ formula, Reads .alternatives conditions.tokens formula :=
  (Predicate.readable_tokensFrom [] (Or.inl rfl) conditions).resolve_left shown

/-- A clause behind AND comes last, and alone where nothing shows before it. -/
theorem tokens_and (conditions : Conditions) {text : String} (shown : text ≠ "")
    (args : List Value) :
    (conditions.and text args).tokens =
      if conditions.tokens = [] then [.clause ⟨text, args⟩]
      else conditions.tokens ++ [.connector .and, .clause ⟨text, args⟩] := by
  simp only [tokens, Conditions.and, Predicate.tokensFrom_append, Predicate.tokensFrom,
    Predicate.tokens, shown, ↓reduceIte, Predicate.chained, List.cons_ne_nil, Predicate.connector]
  rfl

end Conditions
end FluentSql
