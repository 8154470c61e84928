import FluentSql.Proofs.Placeholder.Filling

/-! Lists of texts that share one list of arguments, each text with its own stretch of it. -/
namespace FluentSql.Placeholder

variable {write : Value → String} {separator : String} {texts others : List String}
  {args more : List Value}

/-- Every text has its placeholders' arguments, one stretch after another. -/
def Spread (texts : List String) (args : List Value) : Prop :=
  ∃ fragments : List Fragment, texts = fragments.map Fragment.sql ∧
    args = fragments.flatMap Fragment.args ∧
    ∀ fragment ∈ fragments, Paired fragment.sql fragment.args

/-- Every text with its stretch of the arguments written in. -/
def filledEach (write : Value → String) : List String → List Value → List String
  | [], _ => []
  | text :: texts, args =>
    filled write text (args.take (marks text)) :: filledEach write texts (args.drop (marks text))

theorem spread_nil : Spread [] [] := ⟨[], rfl, rfl, by simp⟩

theorem Paired.spread (paired : Paired text args) : Spread [text] args :=
  ⟨[⟨text, args⟩], rfl, by simp, by simpa using paired⟩

theorem Spread.append (spread : Spread texts args) (next : Spread others more) :
    Spread (texts ++ others) (args ++ more) := by
  obtain ⟨fragments, rfl, rfl, paired⟩ := spread
  obtain ⟨following, rfl, rfl, pairedNext⟩ := next
  refine ⟨fragments ++ following, by simp, by simp, ?_⟩
  intro fragment member
  rcases List.mem_append.mp member with before | behind
  · exact paired fragment before
  · exact pairedNext fragment behind

theorem spread_of_inert (inert : ∀ text ∈ texts, Inert text) : Spread texts [] := by
  refine ⟨texts.map fun text => ⟨text, []⟩, by simp [Function.comp_def], ?_, ?_⟩
  · simp
  · intro fragment member
    obtain ⟨text, present, rfl⟩ := List.mem_map.mp member
    exact inert text present

theorem Paired.take_append (paired : Paired text args) :
    (args ++ more).take (marks text) = args := by
  rw [paired.marks_eq, List.take_left]

theorem Paired.drop_append (paired : Paired text args) :
    (args ++ more).drop (marks text) = more := by
  rw [paired.marks_eq, List.drop_left]

theorem filledEach_append (write : Value → String) (spread : Spread texts args)
    (others : List String) (more : List Value) :
    filledEach write (texts ++ others) (args ++ more) =
      filledEach write texts args ++ filledEach write others more := by
  obtain ⟨fragments, rfl, rfl, paired⟩ := spread
  induction fragments with
  | nil => rfl
  | cons fragment fragments ih =>
    have head := paired fragment List.mem_cons_self
    have tail := ih fun other member => paired other (List.mem_cons_of_mem fragment member)
    simp only [List.map_cons, List.flatMap_cons, List.cons_append, filledEach, List.append_assoc,
      head.take_append, head.drop_append, tail]

theorem Paired.filledEach_eq (write : Value → String) (paired : Paired text args) :
    filledEach write [text] args = [filled write text args] := by
  simp only [filledEach, paired.marks_eq, List.take_length]

theorem filledEach_of_inert (write : Value → String) (inert : ∀ text ∈ texts, Inert text) :
    filledEach write texts [] = texts := by
  induction texts with
  | nil => rfl
  | cons text texts ih =>
    have tail := ih fun other member => inert other (List.mem_cons_of_mem text member)
    simp [filledEach, (inert text List.mem_cons_self).filled_eq, tail]

/-- A joined list is filled part by part. -/
theorem fills_join {α : Type} (text : α → String) (held : α → List Value) (result : α → String)
    (inert : Inert separator) (items : List α)
    (each : ∀ item ∈ items, Fills write (text item) (held item) (result item)) :
    Fills write (Text.join separator (items.map text)) (items.flatMap held)
      (Text.join separator (items.map result)) := by
  induction items with
  | nil =>
    exact inert_empty.fills write
  | cons item items ih =>
    have head := each item List.mem_cons_self
    have tail := ih fun other member => each other (List.mem_cons_of_mem item member)
    cases items with
    | nil => simpa [Text.join] using head
    | cons next items =>
      simp only [List.map_cons, Text.join, List.flatMap_cons] at tail ⊢
      exact (head.before inert).append tail

theorem filledEach_fragments (write : Value → String) (fragments : List Fragment)
    (paired : ∀ fragment ∈ fragments, Paired fragment.sql fragment.args) :
    filledEach write (fragments.map Fragment.sql) (fragments.flatMap Fragment.args) =
      fragments.map fun fragment => filled write fragment.sql fragment.args := by
  induction fragments with
  | nil => rfl
  | cons fragment fragments ih =>
    have head := paired fragment List.mem_cons_self
    have tail := ih fun other member => paired other (List.mem_cons_of_mem fragment member)
    simp only [List.map_cons, List.flatMap_cons, filledEach, head.take_append, head.drop_append,
      tail]

theorem Spread.fills_join (spread : Spread texts args) (write : Value → String)
    (inert : Inert separator) :
    Fills write (Text.join separator texts) args
      (Text.join separator (filledEach write texts args)) := by
  obtain ⟨fragments, rfl, rfl, paired⟩ := spread
  rw [filledEach_fragments write fragments paired]
  exact Placeholder.fills_join Fragment.sql Fragment.args _ inert fragments
    fun fragment member => (paired fragment member).fills write

theorem inert_join (inert : Inert separator) (each : ∀ text ∈ texts, Inert text) :
    Inert (Text.join separator texts) :=
  ((spread_of_inert each).fills_join (fun _ => "") inert).paired

/-- Parts written one after another are filled part by part. -/
theorem fills_foldl {α : Type} (text : α → String) (held : α → List Value) (result : α → String)
    (items : List α)
    (each : ∀ item ∈ items, Fills write (text item) (held item) (result item)) :
    Fills write ((items.map text).foldl (· ++ ·) "") (items.flatMap held)
      ((items.map result).foldl (· ++ ·) "") := by
  have general (before : String) (kept : List Value) (done : String)
      (start : Fills write before kept done) :
      Fills write ((items.map text).foldl (· ++ ·) before) (kept ++ items.flatMap held)
        ((items.map result).foldl (· ++ ·) done) := by
    induction items generalizing before kept done with
    | nil => simpa using start
    | cons item items ih =>
      have head := start.append (each item List.mem_cons_self)
      have tail := ih (fun other member => each other (List.mem_cons_of_mem item member)) _ _ _ head
      simpa only [List.map_cons, List.foldl_cons, List.flatMap_cons, List.append_assoc] using tail
  simpa using general "" [] "" (inert_empty.fills write)

theorem inert_foldl (each : ∀ text ∈ texts, Inert text) : Inert (texts.foldl (· ++ ·) "") := by
  have whole := (fills_foldl id (fun _ => []) id texts fun text member =>
    (each text member).fills (fun _ => "")).paired
  have none : texts.flatMap (fun _ => ([] : List Value)) = [] :=
    List.flatMap_eq_nil_iff.mpr fun _ _ => rfl
  simpa [none] using whole

/-- A comma list of placeholders takes one argument each. -/
theorem fills_placeholders (write : Value → String) (values : List Value) :
    Fills write (Text.placeholders values.length) values (Text.commaList (values.map write)) := by
  have listed :=
    Placeholder.fills_join (fun _ => "?") (fun value => [value]) write inert_comma values
    fun value _ => fills_mark write value
  simpa [Text.placeholders, Text.commaList, List.map_const', List.flatMap_singleton'] using listed

end FluentSql.Placeholder
