import FluentSql.Error
import FluentSql.Proofs.Text.Literal

/-! Texts with places where another text stands between quotes. A family of texts follows a template
when it depends on that other text only there. -/
namespace FluentSql.Template

/-- A piece of a template: words that stand in it, or the place of a quoted text. -/
inductive Piece where
  | words (text : String)
  | literal

/-- A template with one text in all its places. -/
def fill (text : String) : List Piece → String
  | [] => ""
  | .words words :: rest => words ++ fill text rest
  | .literal :: rest => Text.quoted text ++ fill text rest

/-- No place has a quote behind it, whatever text stands in the places. -/
def Apart (pieces : List Piece) : Prop :=
  ∀ before behind, pieces = before ++ .literal :: behind →
    ∀ text, (fill text behind).toList.head? ≠ some '\''

/-- A text that depends on another only where it quotes it. -/
def Embeds (family : String → String) : Prop :=
  ∃ pieces, Apart pieces ∧ ∀ text, family text = fill text pieces

/-- One that may stand behind a quoted text: it never begins with a quote. -/
structure Tail (family : String → String) : Prop where
  embeds : Embeds family
  begins : ∀ text, (family text).toList.head? ≠ some '\''

/-- Words that begin with another character than a quote. -/
def opens (words : String) : Bool := words.toList.head?.any (· ≠ '\'')

/-- Lists of one length, whose members vary as `holds` says. -/
def Listed {α : Type} (holds : (String → α) → Prop) (family : String → List α) : Prop :=
  ∃ members : List (String → α), (∀ member ∈ members, holds member) ∧
    ∀ text, family text = members.map (· text)

/-- One error whatever the text is, or results that vary as `holds` says. -/
def Uniform {α : Type} (holds : (String → α) → Prop) (family : String → Except Error α) : Prop :=
  (∃ error, ∀ text, family text = .error error) ∨
    ∃ results, holds results ∧ ∀ text, family text = .ok (results text)

theorem fill_append (text : String) (pieces more : List Piece) :
    fill text (pieces ++ more) = fill text pieces ++ fill text more := by
  induction pieces with
  | nil => exact String.empty_append.symm
  | cons piece rest ih =>
    cases piece <;> simp only [List.cons_append, fill, ih, String.append_assoc]

theorem Apart.append {pieces more : List Piece} (apart : Apart pieces) (apartMore : Apart more)
    (begins : ∀ text, (fill text more).toList.head? ≠ some '\'') : Apart (pieces ++ more) := by
  intro before behind placed text
  rcases List.append_eq_append_iff.mp placed with ⟨between, -, later⟩ | ⟨between, own, split⟩
  · exact apartMore between behind later text
  · cases between with
    | nil => exact apartMore [] behind split.symm text
    | cons piece rest =>
      obtain ⟨rfl, same⟩ := List.cons.inj split
      have here := apart before rest own text
      change behind = rest ++ more at same
      subst same
      rw [fill_append, String.toList_append, List.head?_append]
      cases head : (fill text rest).toList.head? with
      | none => exact begins text
      | some char => rwa [head] at here

section Texts

variable {family more : String → String}

theorem Embeds.fixed (words : String) : Embeds fun _ => words := by
  refine ⟨[.words words], ?_, fun _ => String.append_empty.symm⟩
  rintro before behind placed
  cases before with
  | nil => cases placed
  | cons piece rest => simp at placed

theorem Embeds.quoted : Embeds Text.quoted := by
  refine ⟨[.literal], ?_, fun _ => String.append_empty.symm⟩
  intro before behind placed text
  cases before with
  | nil =>
    obtain rfl := (List.cons.inj placed).2
    simp [fill]
  | cons piece rest => simp at placed

theorem Embeds.append (embeds : Embeds family) (tail : Tail more) :
    Embeds fun text => family text ++ more text := by
  obtain ⟨pieces, apart, same⟩ := embeds
  obtain ⟨others, apartOthers, sameOthers⟩ := tail.embeds
  refine ⟨pieces ++ others, apart.append apartOthers fun text => ?_, fun text => ?_⟩
  · rw [← sameOthers]
    exact tail.begins text
  · simp only [fill_append, same, sameOthers]

/-- Words in front change nothing, since no place stands in them. -/
theorem Embeds.after (embeds : Embeds family) (words : String) :
    Embeds fun text => words ++ family text := by
  obtain ⟨pieces, apart, same⟩ := embeds
  refine ⟨.words words :: pieces, ?_, fun text => ?_⟩
  · intro before behind placed
    cases before with
    | nil => cases placed
    | cons piece rest => exact apart rest behind (List.cons.inj placed).2
  · simp only [fill, same]

theorem Tail.of_opens {words : String} (own : opens words = true) (embeds : Embeds family) :
    Tail fun text => words ++ family text := by
  refine ⟨embeds.after words, fun text => ?_⟩
  unfold opens at own
  rw [String.toList_append, List.head?_append]
  cases head : words.toList.head? with
  | none => simp [head] at own
  | some char => simpa [head] using own

theorem Tail.empty : Tail fun _ => "" := ⟨.fixed "", fun _ => by simp⟩

theorem Tail.words {words : String} (own : opens words = true) : Tail fun _ => words := by
  simpa only [String.append_empty] using Tail.of_opens own (.fixed "")

theorem Embeds.before (embeds : Embeds family) {words : String} (own : opens words = true) :
    Embeds fun text => family text ++ words := embeds.append (.words own)

end Texts

section Lists

variable {α β : Type} {holds : (String → α) → Prop} {family more : String → List α}

theorem Listed.nil : Listed holds fun _ => [] := ⟨[], nofun, fun _ => rfl⟩

theorem Listed.append (listed : Listed holds family) (behind : Listed holds more) :
    Listed holds fun text => family text ++ more text := by
  obtain ⟨members, each, same⟩ := listed
  obtain ⟨others, eachOther, sameOther⟩ := behind
  refine ⟨members ++ others, List.forall_mem_append.mpr ⟨each, eachOther⟩, fun text => ?_⟩
  simp only [List.map_append, same, sameOther]

theorem Listed.singleton {member : String → α} (own : holds member) :
    Listed holds fun text => [member text] :=
  ⟨[member], List.forall_mem_singleton.mpr own, fun _ => rfl⟩

theorem Listed.fixed {values : List α} (each : ∀ value ∈ values, holds fun _ => value) :
    Listed holds fun _ => values := by
  refine ⟨values.map fun value _ => value, List.forall_mem_map.mpr each, fun text => ?_⟩
  simp only [List.map_map, Function.comp_def, List.map_id']

theorem Listed.map {holdsMore : (String → β) → Prop} {change : α → β}
    (listed : Listed holds family)
    (each : ∀ member, holds member → holdsMore fun text => change (member text)) :
    Listed holdsMore fun text => (family text).map change := by
  obtain ⟨members, own, same⟩ := listed
  refine ⟨members.map fun member text => change (member text), ?_, fun text => ?_⟩
  · exact List.forall_mem_map.mpr fun member mem => each member (own member mem)
  · simp [same]

theorem Listed.words (texts : List String) : Listed Embeds fun _ => texts :=
  .fixed fun words _ => .fixed words

/-- One member among others that are as they are. -/
theorem Listed.around (fixed : ∀ value, holds fun _ => value) {member : String → α}
    (own : holds member) (before behind : List α) :
    Listed holds fun text => before ++ member text :: behind :=
  (Listed.fixed fun value _ => fixed value).append
    ((Listed.singleton own).append (.fixed fun value _ => fixed value))

/-- What members become where each becomes one more for every text or for none. -/
theorem Listed.filterMap {holdsMore : (String → β) → Prop} {change : α → Option β}
    (listed : Listed holds family)
    (each : ∀ member, holds member → Listed holdsMore fun text => (change (member text)).toList) :
    Listed holdsMore fun text => (family text).filterMap change := by
  obtain ⟨members, own, same⟩ := listed
  simp only [same]
  clear same
  induction members with
  | nil => exact .nil
  | cons member rest ih =>
    obtain ⟨here, others⟩ := List.forall_mem_cons.mp own
    have parted (value : α) (values : List α) :
        (value :: values).filterMap change = (change value).toList ++ values.filterMap change := by
      cases found : change value <;> simp [found]
    simp only [List.map_cons, parted]
    exact (each member here).append (ih others)

/-- A list of texts with commas between them. -/
theorem Embeds.commaList {parts : String → List String} (listed : Listed Embeds parts) :
    Embeds fun text => Text.commaList (parts text) := by
  obtain ⟨members, each, same⟩ := listed
  simp only [same]
  clear same
  induction members with
  | nil => exact .fixed ""
  | cons member rest ih =>
    obtain ⟨own, others⟩ := List.forall_mem_cons.mp each
    cases rest with
    | nil => exact own
    | cons next rest =>
      have comma : opens ", " = true := rfl
      have joined := own.append (.of_opens comma (ih others))
      simp only [← String.append_assoc] at joined
      exact joined

end Lists

section Results

variable {α β γ : Type} {holds : (String → α) → Prop}

theorem Uniform.ok {results : String → α} (own : holds results) :
    Uniform holds fun text => .ok (results text) := .inr ⟨results, own, fun _ => rfl⟩

theorem Uniform.error (error : Error) : Uniform holds fun _ => .error error :=
  .inl ⟨error, fun _ => rfl⟩

theorem Uniform.bind {holdsMore : (String → β) → Prop} {family : String → Except Error α}
    {next : String → α → Except Error β} (uniform : Uniform holds family)
    (each : ∀ results, holds results → Uniform holdsMore fun text => next text (results text)) :
    Uniform holdsMore fun text => family text >>= next text := by
  rcases uniform with ⟨error, failed⟩ | ⟨results, own, found⟩
  · exact .inl ⟨error, fun text => by simp only [failed]; rfl⟩
  · simp only [found]
    exact each results own

theorem Uniform.map {holdsMore : (String → β) → Prop} {family : String → Except Error α}
    {change : α → β} (uniform : Uniform holds family)
    (each : ∀ results, holds results → holdsMore fun text => change (results text)) :
    Uniform holdsMore fun text => (family text).map change := by
  rcases uniform with ⟨error, failed⟩ | ⟨results, own, found⟩
  · exact .inl ⟨error, fun text => by simp only [failed]; rfl⟩
  · exact .inr ⟨_, each results own, fun text => by simp only [found]; rfl⟩

/-- Inputs in order, up to the first that fails whatever the text is. -/
theorem Uniform.mapM {change : String → γ → Except Error α} (inputs : List γ)
    (each : ∀ input ∈ inputs, Uniform holds fun text => change text input) :
    Uniform (Listed holds) fun text => inputs.mapM (change text) := by
  induction inputs with
  | nil => exact .ok .nil
  | cons input rest ih =>
    obtain ⟨here, later⟩ := List.forall_mem_cons.mp each
    simp only [List.mapM_cons]
    refine here.bind fun own holdsOwn => (ih later).bind fun others listed => .ok ?_
    exact (Listed.singleton holdsOwn).append listed

theorem Listed.exists_templates {family : String → List String} (listed : Listed Embeds family) :
    ∃ templates : List (List Piece), (∀ pieces ∈ templates, Apart pieces) ∧
      ∀ text, family text = templates.map (fill text) := by
  obtain ⟨members, each, same⟩ := listed
  simp only [same]
  clear same
  induction members with
  | nil => exact ⟨[], nofun, fun _ => rfl⟩
  | cons member rest ih =>
    obtain ⟨⟨pieces, apart, own⟩, others⟩ := List.forall_mem_cons.mp each
    obtain ⟨templates, apartOthers, filled⟩ := ih others
    refine ⟨pieces :: templates, List.forall_mem_cons.mpr ⟨apart, apartOthers⟩, fun text => ?_⟩
    simp only [List.map_cons, own, filled]

/-- Texts that vary only where they quote another are templates, or there is one error. -/
theorem Uniform.exists_templates {family : String → Except Error (List String)}
    (uniform : Uniform (Listed Embeds) family) :
    ∃ templates : Except Error (List (List Piece)),
      (∀ text, family text = templates.map (·.map (fill text))) ∧
        ∀ statements, templates = .ok statements → ∀ pieces ∈ statements, Apart pieces := by
  rcases uniform with ⟨error, failed⟩ | ⟨results, listed, found⟩
  · exact ⟨.error error, failed, nofun⟩
  · obtain ⟨templates, apart, same⟩ := listed.exists_templates
    refine ⟨.ok templates, fun text => ?_, ?_⟩
    · rw [found, same]
      rfl
    · rintro statements ⟨⟩
      exact apart

end Results

end FluentSql.Template
