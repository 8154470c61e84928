import FluentSql.Proofs.Schema.Shown
import FluentSql.Schema.Step

/-! Reports of the options that a backend has no words for. MySQL writes them all. The other
backends write none, and while a table is altered they report each. Of a table that is created they
overlook some. -/
namespace FluentSql

open Dialect

variable {schema : Schema} {setting : Setting Schema} {dialect : Dialect}

section LeftOut

theorem Dialect.createIndex_of_fullText {index : Index} (fullText : index.kind = .fullText)
    (dialect : Dialect) (table : String) : dialect.createIndex table index =
      (none, [dialect.skip "full-text index" index.name]) := by
  simp only [createIndex, fullText]

/-- A full-text index adds no statement to those of the indexes around it. -/
theorem Dialect.filterMap_createIndex (dialect : Dialect) (table : String)
    (before behind : List Index) (index : Index) (fullText : index.kind = .fullText) :
    ((before ++ index :: behind).map (dialect.createIndex table)).filterMap Prod.fst =
      ((before ++ behind).map (dialect.createIndex table)).filterMap Prod.fst := by
  simp [createIndex_of_fullText fullText]

/-- Without words for it, a backend does the same whatever a command sets. -/
theorem Dialect.alteration_put {command : AlterCommand} {own : Setting AlterCommand}
    (found : command.setting? = some own) (wordless : dialect ≠ .mySql) (schema : Schema)
    (value other : String) :
    dialect.alteration schema (own.put value) = dialect.alteration schema (own.put other) := by
  cases command with
  | changeEngine engine =>
    obtain rfl := Option.some.inj found
    cases dialect with
    | mySql => exact absurd rfl wordless
    | _ => rfl
  | changeCharset charset collation? =>
    obtain rfl := Option.some.inj found
    cases dialect with
    | mySql => exact absurd rfl wordless
    | _ => rfl
  | addIndex index =>
    obtain ⟨inner, listed, rfl⟩ := Option.map_eq_some_iff.mp found
    obtain ⟨fullText, rfl⟩ := index.eq_of_setting?_eq_some listed
    cases dialect with
    | mySql => exact absurd rfl wordless
    | _ => simp only [alteration, postgresAlteration, sqliteAlteration, Setting.within,
        indexAlteration, fullText, if_true]
  | _ => cases found

theorem Schema.Sets.leftOut (sets : schema.Sets setting) (wordless : dialect ≠ .mySql) :
    setting.LeftOut dialect := by
  intro value other
  cases sets with
  | engine creates =>
    cases dialect with
    | mySql => exact absurd rfl wordless
    | _ =>
      simp only [engineSetting, render, creates]
      split <;> rfl
  | charset creates =>
    cases dialect with
    | mySql => exact absurd rfl wordless
    | _ =>
      simp only [charsetSetting, render, creates]
      split <;> rfl
  | @index creates before behind index listed fullText =>
    have unlisted (dialect : Dialect) (name : String) :=
      dialect.filterMap_createIndex schema.name before behind { index with name := name } fullText
    cases dialect with
    | mySql => exact absurd rfl wordless
    | _ =>
      simp only [render, creates]
      split
      · rfl
      · simp only [createTable, tableThenIndexes, unlisted]
        rfl
  | command alters listed found =>
    simp only [Setting.within, render_commands alters, List.mapM_append, List.mapM_cons]
    rw [alteration_put found wordless schema value other]

end LeftOut

section Reports

theorem Dialect.skips_createIndex (dialect : Dialect) (table : String) (index : Index) :
    (dialect.createIndex table index).2 = index.setting?.toList.map (·.report dialect) := by
  cases kind : index.kind <;> simp only [createIndex, Index.setting?, kind] <;> rfl

theorem Dialect.alterationSkips_eq (wordless : dialect ≠ .mySql) (schema : Schema)
    (command : AlterCommand) :
    dialect.alterationSkips schema command = command.setting?.toList.map (·.report dialect) := by
  cases dialect with
  | mySql => exact absurd rfl wordless
  | postgres | sqlite =>
    cases command with
    | addIndex index =>
      refine (skips_createIndex _ schema.name index).trans ?_
      simp only [AlterCommand.setting?]
      cases index.setting? <;> rfl
    | _ => rfl

/-- Where all commands can be expressed, what each leaves out is reported. -/
theorem Dialect.alterations_skipped {commands : List AlterCommand} {owns : List Alteration}
    (found : commands.mapM (dialect.alteration schema) = .ok owns) :
    (dialect.alterations schema commands).2 =
      commands.flatMap (dialect.alterationSkips schema) := by
  have inOrder := forall₂_of_mapM found
  clear found
  induction inOrder with
  | nil => rfl
  | cons first rest ih =>
    rw [alterations, first, List.flatMap_cons, ← ih]

theorem Schema.skipped_of_alters (alters : schema.mode = .alter) (wordless : dialect ≠ .mySql)
    {statements : List String} (rendered : (schema.render dialect).result = .ok statements) :
    (schema.render dialect).skipped = schema.settings.map (·.report dialect) := by
  obtain ⟨owns, expressed⟩ := expressed_of_rendered alters rendered
  have each : dialect.alterationSkips schema = fun command =>
      command.setting?.toList.map (·.report dialect) :=
    funext (alterationSkips_eq wordless schema)
  have reports := Setting.map_report_listed AlterCommand.setting? dialect schema.commands
  rw [render_of_alters schema alters, settings, alters]
  simp only [alterTable, alterations_skipped expressed, each, List.map_map]
  exact reports.symm

theorem Schema.skips_tableThenIndexes (schema : Schema) (dialect : Dialect) :
    (dialect.tableThenIndexes schema).2 = schema.indexSettings.map (·.report dialect) := by
  have each : (fun index => (dialect.createIndex schema.name index).2) = fun index =>
      index.setting?.toList.map (·.report dialect) :=
    funext (skips_createIndex dialect schema.name)
  have reports := Setting.map_report_listed Index.setting? dialect schema.indexes
  simp only [tableThenIndexes, List.flatMap_map, each, indexSettings, List.map_map]
  exact reports.symm

theorem Schema.skipped_postgres (creates : schema.mode = .create) {statements : List String}
    (rendered : (schema.render .postgres).result = .ok statements) :
    (schema.render .postgres).skipped =
      (schema.indexSettings ++ schema.engineSettings).map (·.report .postgres) := by
  rw [render_of_creates schema creates (present_of_rendered creates rendered)]
  simp only [createTable, skips_tableThenIndexes, List.map_append, engineSettings]
  split <;> rfl

theorem Schema.skipped_sqlite (creates : schema.mode = .create) {statements : List String}
    (rendered : (schema.render .sqlite).result = .ok statements) :
    (schema.render .sqlite).skipped = schema.indexSettings.map (·.report .sqlite) := by
  rw [render_of_creates schema creates (present_of_rendered creates rendered)]
  exact skips_tableThenIndexes schema .sqlite

theorem Dialect.alterations_skipped_mySql (schema : Schema) (commands : List AlterCommand) :
    (Dialect.mySql.alterations schema commands).2 = [] := by
  induction commands with
  | nil => rfl
  | cons command rest ih =>
    rw [alterations]
    cases Dialect.mySql.alteration schema command with
    | error error => rfl
    | ok own => exact ih

theorem Schema.skipped_mySql (schema : Schema) : (schema.render .mySql).skipped = [] := by
  unfold render
  split
  · split
    · rfl
    · rfl
  · exact alterations_skipped_mySql schema schema.commands

end Reports

namespace Schema

/-- Each report is of an option of its own that is left out, and something holds of the options that
are not reported. -/
def Accounted (schema : Schema) (dialect : Dialect) (unreported : Setting Schema → Prop) : Prop :=
  ∃ others reported, schema.settings.Perm (others ++ reported) ∧
    (∀ setting ∈ others, unreported setting) ∧ (∀ setting ∈ reported, setting.LeftOut dialect) ∧
    (schema.render dialect).skipped.Perm (reported.map (·.report dialect))

/-- Every option is in the statements, or it is left out and reported once. -/
def NothingInSilence (schema : Schema) (dialect : Dialect) : Prop :=
  schema.Accounted dialect (·.Shown dialect)

/-- What is overlooked while a table is created: its charset, and on SQLite its engine. -/
def Overlooks (schema : Schema) (dialect : Dialect) (setting : Setting Schema) : Prop :=
  schema.mode = .create ∧ setting.LeftOut dialect ∧
    (setting ∈ schema.charsetSettings ∨ dialect = .sqlite ∧ setting ∈ schema.engineSettings)

variable {statements : List String}

theorem leftOut_of_mem_settings (wordless : dialect ≠ .mySql) :
    ∀ setting ∈ schema.settings, setting.LeftOut dialect :=
  fun _ member => (sets_of_mem_settings member).leftOut wordless

theorem nothingInSilence_mySql (rendered : (schema.render .mySql).result = .ok statements) :
    schema.NothingInSilence .mySql := by
  refine ⟨schema.settings, [], by simp, fun setting member => ?_, nofun, ?_⟩
  · exact (sets_of_mem_settings member).shown rendered
  · rw [skipped_mySql]
    exact .nil

/-- Where reports are of all options, none is left out in silence. -/
theorem nothingInSilence_of_skipped (wordless : dialect ≠ .mySql)
    (reports : (schema.render dialect).skipped.Perm (schema.settings.map (·.report dialect))) :
    schema.NothingInSilence dialect :=
  ⟨[], schema.settings, .refl _, nofun, leftOut_of_mem_settings wordless, reports⟩

/-- Where nothing is left out in silence, there are as many reports as options. -/
theorem NothingInSilence.length_skipped (all : schema.NothingInSilence dialect)
    (wordless : dialect ≠ .mySql) :
    (schema.render dialect).skipped.length = schema.settings.length := by
  obtain ⟨others, reported, parts, shown, leftOut, reports⟩ := all
  have none : others = [] := by
    refine List.eq_nil_iff_forall_not_mem.mpr fun setting member => ?_
    have listed := parts.mem_iff.mpr (List.mem_append_left reported member)
    exact (shown setting member).not_leftOut (leftOut_of_mem_settings wordless setting listed)
  rw [none, List.nil_append] at parts
  rw [reports.length_eq, parts.length_eq, List.length_map]

theorem length_engineSettings_eq_zero_iff :
    schema.engineSettings.length = 0 ↔ schema.engine = defaultEngine := by
  unfold engineSettings
  split <;> simp [*]

theorem length_charsetSettings_eq_zero_iff :
    schema.charsetSettings.length = 0 ↔ schema.charset = defaultCharset := by
  unfold charsetSettings
  split <;> simp [*]

theorem settings_of_creates (creates : schema.mode = .create) : schema.settings =
    schema.engineSettings ++ schema.charsetSettings ++ schema.indexSettings := by
  rw [settings, creates]

theorem nothingInSilence_postgres_iff (creates : schema.mode = .create)
    (rendered : (schema.render .postgres).result = .ok statements) :
    schema.NothingInSilence .postgres ↔ schema.charset = defaultCharset := by
  have wordless : Dialect.postgres ≠ .mySql := nofun
  have reports := skipped_postgres creates rendered
  have options := settings_of_creates creates
  rw [← length_charsetSettings_eq_zero_iff]
  constructor
  · intro all
    have lengths := all.length_skipped wordless
    rw [reports, options] at lengths
    simp only [List.length_map, List.length_append] at lengths
    omega
  · intro default
    refine nothingInSilence_of_skipped wordless ?_
    rw [reports, options, List.length_eq_zero_iff.mp default, List.append_nil]
    exact List.perm_append_comm.map _

theorem nothingInSilence_sqlite_iff (creates : schema.mode = .create)
    (rendered : (schema.render .sqlite).result = .ok statements) :
    schema.NothingInSilence .sqlite ↔
      schema.charset = defaultCharset ∧ schema.engine = defaultEngine := by
  have wordless : Dialect.sqlite ≠ .mySql := nofun
  have reports := skipped_sqlite creates rendered
  have options := settings_of_creates creates
  rw [← length_charsetSettings_eq_zero_iff, ← length_engineSettings_eq_zero_iff]
  constructor
  · intro all
    have lengths := all.length_skipped wordless
    rw [reports, options] at lengths
    simp only [List.length_map, List.length_append] at lengths
    omega
  · rintro ⟨charset, engine⟩
    refine nothingInSilence_of_skipped wordless ?_
    rw [reports, options, List.length_eq_zero_iff.mp charset, List.length_eq_zero_iff.mp engine]
    exact .refl _

theorem nothingInSilence_of_alters (alters : schema.mode = .alter)
    (rendered : (schema.render dialect).result = .ok statements) :
    schema.NothingInSilence dialect := by
  by_cases wordless : dialect = .mySql
  · subst wordless
    exact nothingInSilence_mySql rendered
  · refine nothingInSilence_of_skipped wordless ?_
    rw [skipped_of_alters alters wordless rendered]

theorem accounted_of_nothingInSilence (all : schema.NothingInSilence dialect) :
    schema.Accounted dialect fun setting =>
      setting.Shown dialect ∨ schema.Overlooks dialect setting := by
  obtain ⟨others, reported, parts, shown, leftOut, reports⟩ := all
  exact ⟨others, reported, parts, fun setting member => .inl (shown setting member), leftOut,
    reports⟩

theorem accounted_of_overlooked (creates : schema.mode = .create) (wordless : dialect ≠ .mySql)
    {overlooked reported : List (Setting Schema)}
    (parts : schema.settings.Perm (overlooked ++ reported))
    (each : ∀ setting ∈ overlooked,
      setting ∈ schema.charsetSettings ∨ dialect = .sqlite ∧ setting ∈ schema.engineSettings)
    (reports : (schema.render dialect).skipped = reported.map (·.report dialect)) :
    schema.Accounted dialect fun setting =>
      setting.Shown dialect ∨ schema.Overlooks dialect setting := by
  have leftOut (setting : Setting Schema) (member : setting ∈ overlooked ++ reported) :
      setting.LeftOut dialect :=
    leftOut_of_mem_settings wordless setting (parts.mem_iff.mpr member)
  refine ⟨overlooked, reported, parts, fun setting member => .inr ?_, fun setting member => ?_, ?_⟩
  · exact ⟨creates, leftOut setting (List.mem_append_left _ member), each setting member⟩
  · exact leftOut setting (List.mem_append_right _ member)
  · rw [reports]

/-- Whatever is reported is left out, and what is neither reported nor shown is overlooked. -/
theorem accounted_of_rendered (rendered : (schema.render dialect).result = .ok statements) :
    schema.Accounted dialect fun setting =>
      setting.Shown dialect ∨ schema.Overlooks dialect setting := by
  cases creates : schema.mode with
  | alter => exact accounted_of_nothingInSilence (nothingInSilence_of_alters creates rendered)
  | create =>
    have options := settings_of_creates creates
    cases dialect with
    | mySql => exact accounted_of_nothingInSilence (nothingInSilence_mySql rendered)
    | postgres =>
      refine accounted_of_overlooked creates nofun ?_ (fun setting => .inl)
        (skipped_postgres creates rendered)
      rw [options, List.append_assoc, ← List.append_assoc schema.charsetSettings]
      exact List.perm_append_comm
    | sqlite =>
      refine accounted_of_overlooked creates nofun (.of_eq options) (fun setting member => ?_)
        (skipped_sqlite creates rendered)
      rcases List.mem_append.mp member with engine | charset
      · exact .inr ⟨rfl, engine⟩
      · exact .inl charset

/-- An option is left out in silence only while a table is created: PostgreSQL overlooks the
charset, and SQLite the charset and the engine. -/
theorem nothing_in_silence_iff (rendered : (schema.render dialect).result = .ok statements) :
    (schema.NothingInSilence dialect ↔ schema.mode = .alter ∨ dialect = .mySql ∨
      schema.charset = defaultCharset ∧ (dialect = .postgres ∨ schema.engine = defaultEngine)) ∧
    schema.Accounted dialect fun setting =>
      setting.Shown dialect ∨ schema.Overlooks dialect setting := by
  refine ⟨?_, accounted_of_rendered rendered⟩
  cases mode : schema.mode with
  | alter => simp [nothingInSilence_of_alters mode rendered]
  | create =>
    cases dialect with
    | mySql => simp [nothingInSilence_mySql rendered]
    | postgres => simp [nothingInSilence_postgres_iff mode rendered]
    | sqlite => simp [nothingInSilence_sqlite_iff mode rendered]

theorem nothing_in_silence_iff_logs :
    ((ofSteps .create "logs" [.column "line" .text [], .engine "MyISAM",
      .fullText "words" ["line"]]).render .postgres).skipped =
      [⟨"postgres", "full-text index", "words"⟩, ⟨"postgres", "engine", "MyISAM"⟩] ∧
    (ofSteps .create "logs" [.column "line" .text [], .engine "MyISAM",
      .fullText "words" ["line"]]).NothingInSilence .postgres :=
  ⟨rfl, (nothing_in_silence_iff rfl).1.mpr (.inr (.inr ⟨rfl, .inl rfl⟩))⟩

/-- The charset of a created table is neither in its statements nor reported. -/
theorem charset_dropped_in_silence :
    ((ofSteps .create "t" [.column "id" .bigIncrements [], .charset "latin1"]).render
      .postgres).result = .ok ["CREATE TABLE t (id BIGSERIAL NOT NULL PRIMARY KEY)"] ∧
    ((ofSteps .create "t" [.column "id" .bigIncrements [], .charset "latin1"]).render
      .postgres).skipped = [] ∧
    ¬ (ofSteps .create "t" [.column "id" .bigIncrements [], .charset "latin1"]).NothingInSilence
      .postgres := by
  refine ⟨rfl, rfl, fun all => ?_⟩
  have default := (nothingInSilence_postgres_iff rfl rfl).mp all
  exact absurd default (by decide)

end Schema
end FluentSql
