import FluentSql.Proofs.Schema.Grouping

/-! Options that only MySQL has words for: the engine and the charset of a table, and full-text
indexes. Such an option is shown where its value stands in the statements whatever it is, and left
out where the statements are the same whatever it is. -/
namespace FluentSql

inductive SettingKind where
  | engine
  | charset
  | fullText
  deriving DecidableEq

def SettingKind.name : SettingKind → String
  | .engine => "engine"
  | .charset => "charset"
  | .fullText => "full-text index"

/-- An option that is set in a whole: to which value, behind which words it is written, and the
whole with any value in its place. -/
structure Setting (α : Type) where
  kind : SettingKind
  value : String
  lead : String
  put : String → α

namespace Setting

variable {α β : Type}

/-- An option of a part, as one of the whole around it. -/
def within (setting : Setting α) (whole : α → β) : Setting β :=
  { setting with put := fun value => whole (setting.put value) }

/-- The options of a list of parts. -/
def listed (each : α → Option (Setting α)) : List α → List (Setting (List α))
  | [] => []
  | part :: rest =>
    (each part).toList.map (fun own => own.within (· :: rest)) ++
      (listed each rest).map fun own => own.within (part :: ·)

/-- The report that an option was left out. -/
def report (setting : Setting α) (dialect : Dialect) : Skipped :=
  dialect.skip setting.kind.name setting.value

/-- Some statement has the words of the option with its value in one place, whatever it is. -/
def Shown (setting : Setting Schema) (dialect : Dialect) : Prop :=
  ∃ front before behind back, ∀ value, ((setting.put value).render dialect).result =
    .ok (front ++ (before ++ (setting.lead ++ value) ++ behind) :: back)

/-- The statements are the same whatever the option is. -/
def LeftOut (setting : Setting Schema) (dialect : Dialect) : Prop :=
  ∀ value other, ((setting.put value).render dialect).result =
    ((setting.put other).render dialect).result

/-- An option of a list is one of a part with the parts around it as they are. -/
theorem exists_of_mem_listed {each : α → Option (Setting α)} {parts : List α}
    {setting : Setting (List α)} (member : setting ∈ listed each parts) :
    ∃ before part behind own, parts = before ++ part :: behind ∧ each part = some own ∧
      setting = own.within fun part => before ++ part :: behind := by
  induction parts generalizing setting with
  | nil => cases member
  | cons part rest ih =>
    rcases List.mem_append.mp member with here | later
    · obtain ⟨own, found, rfl⟩ := List.mem_map.mp here
      exact ⟨[], part, rest, own, rfl, Option.mem_toList.mp found, rfl⟩
    · obtain ⟨inner, found, rfl⟩ := List.mem_map.mp later
      obtain ⟨before, other, behind, own, rfl, here, rfl⟩ := ih found
      exact ⟨part :: before, other, behind, own, rfl, here, rfl⟩

theorem map_report_listed (each : α → Option (Setting α)) (dialect : Dialect) (parts : List α) :
    (listed each parts).map (report · dialect) =
      parts.flatMap fun part => (each part).toList.map (report · dialect) := by
  induction parts with
  | nil => rfl
  | cons part rest ih =>
    rw [listed, List.map_append, List.map_map, List.map_map, List.flatMap_cons, ← ih]
    rfl

/-- No option is both shown and left out. -/
theorem Shown.not_leftOut {setting : Setting Schema} {dialect : Dialect}
    (shown : setting.Shown dialect) : ¬ setting.LeftOut dialect := by
  obtain ⟨front, before, behind, back, each⟩ := shown
  intro leftOut
  have same := leftOut "" "x"
  rw [each, each] at same
  have texts := (List.cons.inj (List.append_cancel_left (Except.ok.inj same))).1
  have lengths := congrArg String.length texts
  simp [String.length_append] at lengths

end Setting

def Index.setting? (index : Index) : Option (Setting Index) :=
  match index.kind with
  | .fullText =>
    some ⟨.fullText, index.name, "FULLTEXT INDEX ", fun name => { index with name := name }⟩
  | _ => none

def AlterCommand.setting? : AlterCommand → Option (Setting AlterCommand)
  | .changeEngine engine => some ⟨.engine, engine, "ENGINE=", .changeEngine⟩
  | .changeCharset charset collation? =>
    some ⟨.charset, charset, "CONVERT TO CHARACTER SET ", (.changeCharset · collation?)⟩
  | .addIndex index => index.setting?.map fun own => own.within .addIndex
  | _ => none

namespace Schema

def engineSetting (schema : Schema) : Setting Schema :=
  ⟨.engine, schema.engine, "ENGINE=", fun engine => { schema with engine := engine }⟩

def charsetSetting (schema : Schema) : Setting Schema :=
  ⟨.charset, schema.charset, "DEFAULT CHARSET=", fun charset => { schema with charset := charset }⟩

def engineSettings (schema : Schema) : List (Setting Schema) :=
  if schema.engine = defaultEngine then [] else [schema.engineSetting]

def charsetSettings (schema : Schema) : List (Setting Schema) :=
  if schema.charset = defaultCharset then [] else [schema.charsetSetting]

def indexSettings (schema : Schema) : List (Setting Schema) :=
  (Setting.listed Index.setting? schema.indexes).map fun own =>
    own.within fun indexes => { schema with indexes := indexes }

/-- What is set of a table that is created: its engine and its charset where they are not the
default, and full-text indexes. Of one that is altered it is what commands set. -/
def settings (schema : Schema) : List (Setting Schema) :=
  match schema.mode with
  | .create => schema.engineSettings ++ schema.charsetSettings ++ schema.indexSettings
  | .alter =>
    (Setting.listed AlterCommand.setting? schema.commands).map fun own =>
      own.within fun commands => { schema with commands := commands }

variable {schema : Schema} {setting : Setting Schema}

/-- What can be set in a definition. -/
inductive Sets (schema : Schema) : Setting Schema → Prop where
  | engine (creates : schema.mode = .create) : Sets schema schema.engineSetting
  | charset (creates : schema.mode = .create) : Sets schema schema.charsetSetting
  | index (creates : schema.mode = .create) {before behind : List Index} {index : Index}
      (listed : schema.indexes = before ++ index :: behind) (fullText : index.kind = .fullText) :
      Sets schema ⟨.fullText, index.name, "FULLTEXT INDEX ", fun name =>
        { schema with indexes := before ++ { index with name := name } :: behind }⟩
  | command (alters : schema.mode = .alter) {before behind : List AlterCommand}
      {command : AlterCommand} {own : Setting AlterCommand}
      (listed : schema.commands = before ++ command :: behind)
      (found : command.setting? = some own) :
      Sets schema (own.within fun command =>
        { schema with commands := before ++ command :: behind })

end Schema

section Values

theorem Index.eq_of_setting?_eq_some {index : Index} {own : Setting Index}
    (found : index.setting? = some own) :
    index.kind = .fullText ∧
      own = ⟨.fullText, index.name, "FULLTEXT INDEX ",
        fun name => { index with name := name }⟩ := by
  unfold setting? at found
  split at found
  · exact ⟨‹_›, (Option.some.inj found).symm⟩
  · cases found

theorem AlterCommand.put_value {command : AlterCommand} {own : Setting AlterCommand}
    (found : command.setting? = some own) : own.put own.value = command := by
  cases command with
  | changeEngine engine =>
    obtain rfl := Option.some.inj found
    rfl
  | changeCharset charset collation? =>
    obtain rfl := Option.some.inj found
    rfl
  | addIndex index =>
    obtain ⟨inner, listed, rfl⟩ := Option.map_eq_some_iff.mp found
    obtain ⟨_, rfl⟩ := index.eq_of_setting?_eq_some listed
    rfl
  | _ => cases found

end Values

namespace Schema

variable {schema : Schema} {setting : Setting Schema}

/-- With the value that it has, an option gives the definition itself. -/
theorem Sets.put_value (sets : schema.Sets setting) : setting.put setting.value = schema := by
  cases sets with
  | engine creates => rfl
  | charset creates => rfl
  | index creates listed fullText =>
    simp only [← listed]
  | command alters listed found =>
    simp only [Setting.within, AlterCommand.put_value found, ← listed]

theorem sets_of_mem_settings (member : setting ∈ schema.settings) : schema.Sets setting := by
  unfold settings at member
  split at member
  · rename_i creates
    rcases List.mem_append.mp member with ofTable | ofIndexes
    · rcases List.mem_append.mp ofTable with engine | charset
      · unfold engineSettings at engine
        split at engine
        · cases engine
        · exact List.mem_singleton.mp engine ▸ .engine creates
      · unfold charsetSettings at charset
        split at charset
        · cases charset
        · exact List.mem_singleton.mp charset ▸ .charset creates
    · obtain ⟨inner, within, rfl⟩ := List.mem_map.mp ofIndexes
      obtain ⟨before, index, behind, own, listed, found, rfl⟩ := Setting.exists_of_mem_listed within
      obtain ⟨fullText, rfl⟩ := index.eq_of_setting?_eq_some found
      exact .index creates listed fullText
  · rename_i alters
    obtain ⟨inner, within, rfl⟩ := List.mem_map.mp member
    obtain ⟨before, command, behind, own, listed, found, rfl⟩ := Setting.exists_of_mem_listed within
    exact .command alters listed found

end Schema

end FluentSql
