import FluentSql.Proofs.Compound.Words
import FluentSql.Proofs.Text.Digits

/-! What a compound query is written with: selects, words that join them, parentheses and the
clauses behind them. The text of a well-formed row of items tells the items. -/
namespace FluentSql.Compound

inductive Item where
  | select (text : String)
  | enclosed (items : List Item)
  | joint (all : Bool)
  | clause (keyword : Keyword) (text : String)

mutual

def Item.written : Item → List Char
  | .select text => text.toList
  | .enclosed items => '(' :: writtenAll items ++ [')']
  | .joint all => ' ' :: Keyword.union.text.toList ++ ' ' :: (if all then "ALL ".toList else [])
  | .clause keyword text => ' ' :: keyword.text.toList ++ ' ' :: text.toList

def writtenAll : List Item → List Char
  | [] => []
  | item :: rest => item.written ++ writtenAll rest

end

@[simp] theorem writtenAll_append (first rest : List Item) :
    writtenAll (first ++ rest) = writtenAll first ++ writtenAll rest := by
  induction first with
  | nil => rfl
  | cons item first ih => simp only [List.cons_append, writtenAll, ih, List.append_assoc]

/-- A select as it is read among the items: a plain text that begins with its own word. -/
structure Readable (text : String) : Prop where
  plain : Plain text
  opening : ∃ rest, text.toList = 'S' :: rest

/-- Rows of items, where an operand is expected or behind one. Clauses may follow any operand: in
one without parentheses they are its own. -/
inductive Formed : (expected : Bool) → List Item → Prop where
  | done : Formed false []
  | select {text items} (readable : Readable text) (rest : Formed false items) :
      Formed true (.select text :: items)
  | enclosed {inner items} (inside : Formed true inner) (rest : Formed false items) :
      Formed true (.enclosed inner :: items)
  | joint {all items} (rest : Formed true items) : Formed false (.joint all :: items)
  | clause {keyword text items} (tail : keyword ≠ .union) (plain : Plain text)
      (rest : Formed false items) : Formed false (.clause keyword text :: items)

theorem Formed.append {expected : Bool} {first rest : List Item} (before : Formed expected first)
    (behind : Formed false rest) : Formed expected (first ++ rest) := by
  induction before with
  | done => exact behind
  | select readable _ ih => exact .select readable ih
  | enclosed inside _ _ ih => exact .enclosed inside ih
  | joint _ ih => exact .joint ih
  | clause tail plain _ ih => exact .clause tail plain ih

/-- What stands behind a row of items: nothing, or the parenthesis around it. -/
inductive Closes : List Char → Prop where
  | none : Closes []
  | closing (behind : List Char) : Closes (')' :: behind)

theorem Closes.head_ne {rest : List Char} (closes : Closes rest) {char : Char} {behind : List Char}
    (other : char ≠ ')') : rest ≠ char :: behind := by
  cases closes with
  | none => exact List.cons_ne_nil _ _ |>.symm
  | closing _ =>
    intro same
    exact other (List.cons.inj same).1.symm

theorem Formed.stops {items : List Item} (formed : Formed false items) {rest : List Char}
    (closes : Closes rest) : Stops (writtenAll items ++ rest) := by
  cases formed with
  | done =>
    cases closes with
    | none => exact .none
    | closing behind => exact .closing behind
  | joint _ =>
    simp only [writtenAll, Item.written, List.append_assoc, List.cons_append]
    exact .keyword .union _
  | clause _ _ _ =>
    simp only [writtenAll, Item.written, List.append_assoc, List.cons_append]
    exact .keyword _ _

/-- Where an operand is expected, a row begins with a select or a parenthesis. -/
theorem Formed.head {items : List Item} (formed : Formed true items) (rest : List Char) :
    ∃ char behind, (char = 'S' ∨ char = '(') ∧ writtenAll items ++ rest = char :: behind := by
  cases formed with
  | select readable _ =>
    obtain ⟨behind, opening⟩ := readable.opening
    rw [writtenAll, Item.written, opening]
    exact ⟨'S', _, Or.inl rfl, rfl⟩
  | enclosed _ _ => exact ⟨'(', _, Or.inr rfl, rfl⟩

theorem keyword_unique {keyword other : Keyword} {rest behind : List Char}
    (same : keyword.text.toList ++ ' ' :: rest = other.text.toList ++ ' ' :: behind) :
    keyword = other ∧ rest = behind := by
  have letters (word : Keyword) : ∀ char ∈ word.text.toList, (char != ' ') = true := by
    intro char member
    rw [bne_iff_ne]
    rintro rfl
    exact not_mem_text (by decide) word member
  have blank (behind : List Char) : Text.Stops (· != ' ') (' ' :: behind) :=
    Text.stops_cons (by decide) behind
  obtain ⟨words, rests⟩ := Text.split_unique (· != ' ') (letters keyword) (letters other)
    (blank rest) (blank behind) same
  have injective : ∀ first second : Keyword, first.text.toList = second.text.toList →
      first = second := by
    intro first second
    cases first <;> cases second <;> decide
  exact ⟨injective _ _ words, (List.cons.inj rests).2⟩

theorem all_unique {all other : Bool} {items others : List Item} (formed : Formed true items)
    (also : Formed true others) {rest behind : List Char}
    (same : (if all then "ALL ".toList else []) ++ (writtenAll items ++ rest) =
      (if other then "ALL ".toList else []) ++ (writtenAll others ++ behind)) :
    all = other ∧ writtenAll items ++ rest = writtenAll others ++ behind := by
  have word : "ALL ".toList = ['A', 'L', 'L', ' '] := by decide
  have unlike {items : List Item} (formed : Formed true items) {rest behind : List Char}
      (same : "ALL ".toList ++ behind = writtenAll items ++ rest) : False := by
    obtain ⟨char, _, operand, head⟩ := formed.head rest
    rw [head, word] at same
    rcases operand with rfl | rfl <;> exact absurd (List.cons.inj same).1 (by decide)
  cases all <;> cases other
  · exact ⟨rfl, same⟩
  · exact (unlike formed same.symm).elim
  · exact (unlike also same).elim
  · exact ⟨rfl, List.append_cancel_left same⟩

/-- The text of a row of items, up to the parenthesis around it, tells its items. -/
theorem written_unique {expected : Bool} {items others : List Item}
    (formed : Formed expected items) (also : Formed expected others) {rest behind : List Char}
    (closes : Closes rest) (ends : Closes behind)
    (same : writtenAll items ++ rest = writtenAll others ++ behind) :
    items = others ∧ rest = behind := by
  -- Rows of different kinds begin differently; in those of one kind the first items end in the
  -- same place, so the induction goes on with what follows them.
  induction formed generalizing others rest behind with
  | done =>
    cases also with
    | done => exact ⟨rfl, same⟩
    | joint _ => exact absurd same (closes.head_ne (by decide))
    | clause _ _ _ => exact absurd same (closes.head_ne (by decide))
  | @select text items readable tail ih =>
    cases also with
    | @select other others readable' tail' =>
      simp only [writtenAll, Item.written, List.append_assoc] at same
      obtain ⟨texts, tails⟩ := plain_unique readable.plain readable'.plain (tail.stops closes)
        (tail'.stops ends) same
      obtain ⟨equal, rests⟩ := ih tail' closes ends tails
      exact ⟨by rw [texts, equal], rests⟩
    | enclosed _ _ =>
      obtain ⟨_, opening⟩ := readable.opening
      rw [writtenAll, Item.written, opening] at same
      exact absurd (List.cons.inj same).1 (by decide)
  | @enclosed inner items inside tail ihInside ih =>
    cases also with
    | select readable _ =>
      obtain ⟨_, opening⟩ := readable.opening
      rw [writtenAll, writtenAll, Item.written, Item.written, opening] at same
      exact absurd (List.cons.inj same).1 (by decide)
    | @enclosed inner' others inside' tail' =>
      simp only [writtenAll, Item.written, List.append_assoc, List.cons_append, List.cons.injEq,
        true_and, List.nil_append] at same
      obtain ⟨inners, tails⟩ := ihInside inside' (.closing _) (.closing _) same
      obtain ⟨equal, rests⟩ := ih tail' closes ends (List.cons.inj tails).2
      exact ⟨by rw [inners, equal], rests⟩
  | @joint all items tail ih =>
    cases also with
    | done => exact absurd same.symm (ends.head_ne (by decide))
    | @joint other others tail' =>
      simp only [writtenAll, Item.written, List.append_assoc, List.cons_append, List.cons.injEq,
        true_and] at same
      obtain ⟨alls, tails⟩ := all_unique tail tail' (keyword_unique same).2
      obtain ⟨equal, rests⟩ := ih tail' closes ends tails
      exact ⟨by rw [alls, equal], rests⟩
    | clause other _ _ =>
      simp only [writtenAll, Item.written, List.append_assoc, List.cons_append, List.cons.injEq,
        true_and] at same
      exact absurd (keyword_unique same).1.symm other
  | @clause keyword text items own plain tail ih =>
    cases also with
    | done => exact absurd same.symm (ends.head_ne (by decide))
    | joint _ =>
      simp only [writtenAll, Item.written, List.append_assoc, List.cons_append, List.cons.injEq,
        true_and] at same
      exact absurd (keyword_unique same).1 own
    | @clause keyword' other others _ plain' tail' =>
      simp only [writtenAll, Item.written, List.append_assoc, List.cons_append, List.cons.injEq,
        true_and] at same
      obtain ⟨keywords, behinds⟩ := keyword_unique same
      obtain ⟨texts, tails⟩ := plain_unique plain plain' (tail.stops closes) (tail'.stops ends)
        behinds
      obtain ⟨equal, rests⟩ := ih tail' closes ends tails
      exact ⟨by rw [keywords, texts, equal], rests⟩

end FluentSql.Compound
