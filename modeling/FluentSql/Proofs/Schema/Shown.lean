import FluentSql.Proofs.Schema.Settings
import FluentSql.Proofs.Schema.Wording
import Mathlib.Data.Set.List

/-! MySQL has words for every option. The value stands in the one statement that there is, with the
same text around it whatever it is. -/
namespace FluentSql

open Dialect

variable {schema : Schema} {setting : Setting Schema} {dialect : Dialect}

theorem Setting.shown_of_statement (before behind : String)
    (each : ∀ value, ((setting.put value).render dialect).result =
      .ok [before ++ (setting.lead ++ value) ++ behind]) : setting.Shown dialect :=
  ⟨[], before, behind, [], each⟩

/-- One text in a comma list, whatever it is, with the others around it. -/
theorem Text.commaList_around (before behind : List String) :
    ∃ front back, ∀ text, commaList (before ++ text :: behind) = front ++ text ++ back := by
  induction before with
  | nil =>
    cases behind with
    | nil => exact ⟨"", "", fun text => by simp [commaList, join]⟩
    | cons next rest =>
      exact ⟨"", ", " ++ commaList (next :: rest), fun text => by
        simp [commaList, join, String.append_assoc]⟩
  | cons part rest ih =>
    obtain ⟨front, back, each⟩ := ih
    refine ⟨part ++ ", " ++ front, back, fun text => ?_⟩
    have joined : commaList (part :: (rest ++ text :: behind)) =
        part ++ ", " ++ commaList (rest ++ text :: behind) := by
      cases rest <;> rfl
    rw [List.cons_append, joined, each]
    simp only [String.append_assoc]

theorem Dialect.indexClause_of_fullText {index : Index} (fullText : index.kind = .fullText) :
    indexClause index =
      "FULLTEXT INDEX " ++ index.name ++ (" (" ++ Text.commaList index.columns ++ ")") := by
  have words : "FULLTEXT INDEX " = "FULLTEXT INDEX" ++ " " := rfl
  rw [words]
  simp only [indexClause, fullText, String.append_assoc]

/-! Of a table that is created. -/

section Created

/-- The head of a table is written around the list of its parts. -/
theorem Dialect.tableHead_by_body (schema : Schema) :
    ∃ front back, ∀ body, tableHead schema body = front ++ Text.commaList body ++ back :=
  ⟨_, _, fun _ => rfl⟩

theorem Dialect.tableOptions_by_values (schema : Schema) :
    ∃ behind, ∀ engine charset,
      tableOptions { schema with engine := engine, charset := charset } =
        " " ++ ("ENGINE=" ++ engine) ++ (" " ++ ("DEFAULT CHARSET=" ++ charset) ++ behind) := by
  have ofEngine : " ENGINE=" = " " ++ "ENGINE=" := rfl
  have ofCharset : " DEFAULT CHARSET=" = " " ++ "DEFAULT CHARSET=" := rfl
  refine ⟨" COLLATE=" ++ schema.collation ++ schema.comment?.elim "" (" COMMENT=" ++ Text.quoted ·),
    fun engine charset => ?_⟩
  rw [tableOptions_eq, ofEngine, ofCharset]
  simp only [String.append_assoc]

/-- The parts of a table but its indexes. -/
def Dialect.fixedParts (schema : Schema) : List String :=
  schema.columns.map Dialect.mySql.columnDefinition ++ tableConstraints schema

theorem Schema.shown_engine (creates : schema.mode = .create)
    (present : schema.columns.isEmpty = false) : schema.engineSetting.Shown .mySql := by
  obtain ⟨behind, options⟩ := tableOptions_by_values schema
  refine Setting.shown_of_statement
    (tableHead schema (fixedParts schema ++ schema.indexes.map indexClause) ++ " ")
    (" " ++ ("DEFAULT CHARSET=" ++ schema.charset) ++ behind) fun engine => ?_
  rw [render_of_creates (schema.engineSetting.put engine) creates present]
  change Except.ok [_ ++
    tableOptions { schema with engine := engine, charset := schema.charset }] = _
  rw [options]
  simp only [String.append_assoc]
  rfl

theorem Schema.shown_charset (creates : schema.mode = .create)
    (present : schema.columns.isEmpty = false) : schema.charsetSetting.Shown .mySql := by
  obtain ⟨behind, options⟩ := tableOptions_by_values schema
  refine Setting.shown_of_statement
    (tableHead schema (fixedParts schema ++ schema.indexes.map indexClause) ++
      " " ++ ("ENGINE=" ++ schema.engine) ++ " ") behind fun charset => ?_
  rw [render_of_creates (schema.charsetSetting.put charset) creates present]
  change Except.ok [_ ++
    tableOptions { schema with engine := schema.engine, charset := charset }] = _
  rw [options]
  simp only [String.append_assoc]
  rfl

theorem Schema.shown_index (creates : schema.mode = .create)
    (present : schema.columns.isEmpty = false) (before behind : List Index) {index : Index}
    (fullText : index.kind = .fullText) :
    Setting.Shown ⟨.fullText, index.name, "FULLTEXT INDEX ", fun name =>
      { schema with indexes := before ++ { index with name := name } :: behind }⟩ .mySql := by
  obtain ⟨front, back, around⟩ := Text.commaList_around
    (fixedParts schema ++ before.map indexClause) (behind.map indexClause)
  obtain ⟨opening, closing, headed⟩ := tableHead_by_body schema
  refine Setting.shown_of_statement (opening ++ front)
    (" (" ++ Text.commaList index.columns ++ ")" ++ back ++ closing ++ tableOptions schema)
    fun name => ?_
  have own := @indexClause_of_fullText { index with name := name } fullText
  rw [render_of_creates
    { schema with indexes := before ++ { index with name := name } :: behind } creates present]
  change Except.ok [tableHead schema (fixedParts schema ++
    (before ++ { index with name := name } :: behind).map indexClause) ++ tableOptions schema] = _
  rw [headed, List.map_append, List.map_cons, ← List.append_assoc, around, own]
  simp only [String.append_assoc]

end Created

/-! Of a table that is altered. -/

section Altered

/-- A command that sets an option is a clause with its words. -/
theorem Dialect.mySqlAlteration_put {command : AlterCommand} {own : Setting AlterCommand}
    (found : command.setting? = some own) (schema : Schema) :
    ∃ front back, ∀ value, Dialect.mySql.alteration schema (own.put value) =
      .ok (.change (front ++ (own.lead ++ value) ++ back)) := by
  cases command with
  | changeEngine engine =>
    obtain rfl := Option.some.inj found
    refine ⟨"", "", fun value => ?_⟩
    rw [String.append_empty, String.empty_append]
    rfl
  | changeCharset charset collation? =>
    obtain rfl := Option.some.inj found
    clear found
    refine ⟨"", collation?.elim "" (" COLLATE " ++ ·), fun value => ?_⟩
    rw [String.empty_append]
    cases collation? <;> rfl
  | addIndex index =>
    obtain ⟨inner, listed, rfl⟩ := Option.map_eq_some_iff.mp found
    obtain ⟨fullText, rfl⟩ := index.eq_of_setting?_eq_some listed
    refine ⟨"ADD ", " (" ++ Text.commaList index.columns ++ ")", fun value => ?_⟩
    have clause := @indexClause_of_fullText { index with name := value } fullText
    simp only [alteration, mySqlAlteration, Setting.within, clause, String.append_assoc]
    rfl
  | _ => cases found

/-- Every command is clauses, none where a foreign key is missing. -/
theorem Dialect.clauses_of_mySqlAlteration {command : AlterCommand} {own : Alteration}
    (found : Dialect.mySql.alteration schema command = .ok own) :
    own ∈ Set.range Alteration.clauses := by
  cases command with
  | addColumn index | modifyColumn index =>
    obtain ⟨column, listed, same⟩ := exists_of_columnAt_bind found
    exact ⟨_, Except.ok.inj same⟩
  | addForeignKey index =>
    obtain rfl := Except.ok.inj found
    split
    · exact ⟨_, rfl⟩
    · exact ⟨_, rfl⟩
  | _ => exact ⟨_, Except.ok.inj found⟩

theorem Dialect.clauses_of_mapM {commands : List AlterCommand} {owns : List Alteration}
    (found : commands.mapM (Dialect.mySql.alteration schema) = .ok owns) :
    owns ∈ Set.range (List.map Alteration.clauses) := by
  rw [Set.range_list_map]
  exact forall_right (forall₂_of_mapM found) fun command own => clauses_of_mySqlAlteration

/-- A clause shares its statement with all clauses around it. -/
theorem Dialect.grouped_around (table : String) (earlier later : List (List AlterClause))
    (clause : AlterClause) :
    grouped table [] (earlier.map .clauses ++ .clauses [clause] :: later.map .clauses) =
      [.alterTable table (earlier.flatten ++ clause :: later.flatten)] := by
  simpa [flush] using grouped_map_clauses table [] (earlier ++ [clause] :: later)

theorem Schema.shown_command (alters : schema.mode = .alter) {before behind : List AlterCommand}
    {command : AlterCommand} {own : Setting AlterCommand} {owns : List Alteration}
    (expressed : (before ++ command :: behind).mapM (Dialect.mySql.alteration schema) = .ok owns)
    (found : command.setting? = some own) :
    (own.within fun command =>
      { schema with commands := before ++ command :: behind }).Shown .mySql := by
  obtain ⟨front, back, worded⟩ := mySqlAlteration_put found schema
  obtain ⟨firsts, lasts, first, last⟩ := exists_of_mapM_around expressed
  obtain ⟨earlier, rfl⟩ := clauses_of_mapM first
  obtain ⟨later, rfl⟩ := clauses_of_mapM last
  obtain ⟨opening, closing, around⟩ := Text.commaList_around
    (earlier.flatten.map AlterClause.text) (later.flatten.map AlterClause.text)
  refine Setting.shown_of_statement ("ALTER TABLE " ++ schema.name ++ " " ++ opening ++ front)
    (back ++ closing) fun value => ?_
  have rendering := render_commands alters .mySql (before ++ own.put value :: behind)
  rw [List.mapM_append, List.mapM_cons, first, last, worded] at rendering
  refine rendering.trans ?_
  change Except.ok (List.map AlterStatement.text (grouped schema.name []
    (_ ++ .clauses [.change (front ++ (own.lead ++ value) ++ back)] :: _))) = _
  rw [grouped_around]
  change Except.ok ["ALTER TABLE " ++ schema.name ++ " " ++ Text.commaList _] = _
  rw [List.map_append, List.map_cons, around]
  simp only [String.append_assoc, AlterClause.text]
  rfl

end Altered

/-- MySQL has words for everything that can be set. -/
theorem Schema.Sets.shown (sets : schema.Sets setting) {statements : List String}
    (rendered : (schema.render .mySql).result = .ok statements) : setting.Shown .mySql := by
  cases sets with
  | engine creates => exact shown_engine creates (present_of_rendered creates rendered)
  | charset creates => exact shown_charset creates (present_of_rendered creates rendered)
  | index creates listed fullText =>
    exact shown_index creates (present_of_rendered creates rendered) _ _ fullText
  | command alters listed found =>
    obtain ⟨owns, expressed⟩ := expressed_of_rendered alters rendered
    rw [listed] at expressed
    exact shown_command alters expressed found

end FluentSql
