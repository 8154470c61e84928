import FluentSql.Schema.Step

/-! What every definition keeps while it is built: the name of its table, its mode, and commands
that point into it. Every column and every foreign key that a command stands for is there. -/
namespace FluentSql

/-- What a command points at is in the definition. -/
def AlterCommand.Resolves (schema : Schema) : AlterCommand → Prop
  | .addColumn index => index < schema.columns.length
  | .modifyColumn index => index < schema.columns.length
  | .addForeignKey index => index < schema.foreignKeys.length
  | _ => True

namespace Schema

/-- A definition of a table as calls can build it. -/
structure Built (mode : SchemaMode) (name : String) (schema : Schema) : Prop where
  name_eq : schema.name = name
  mode_eq : schema.mode = mode
  resolves : ∀ command ∈ schema.commands, command.Resolves schema

variable {mode : SchemaMode} {name : String} {schema : Schema}

theorem built_empty (mode : SchemaMode) (name : String) : (empty mode name).Built mode name :=
  ⟨rfl, rfl, nofun⟩

/-- A longer definition has all that a command points at. -/
theorem resolves_of_longer {extended : Schema} {command : AlterCommand}
    (resolves : command.Resolves schema)
    (columns : schema.columns.length ≤ extended.columns.length)
    (foreignKeys : schema.foreignKeys.length ≤ extended.foreignKeys.length) :
    command.Resolves extended := by
  cases command with
  | addColumn index => exact Nat.lt_of_lt_of_le resolves columns
  | modifyColumn index => exact Nat.lt_of_lt_of_le resolves columns
  | addForeignKey index => exact Nat.lt_of_lt_of_le resolves foreignKeys
  | _ => trivial

theorem Built.command (built : schema.Built mode name) {command : AlterCommand}
    (resolves : command.Resolves schema) : (schema.command command).Built mode name := by
  refine ⟨built.name_eq, built.mode_eq, ?_⟩
  intro other member
  have resolved : other.Resolves schema := by
    rcases List.mem_append.mp member with old | new
    · exact built.resolves other old
    · rw [List.mem_singleton.mp new]
      exact resolves
  exact resolves_of_longer resolved (Nat.le_refl _) (Nat.le_refl _)

theorem Built.whenAltering (built : schema.Built mode name) {command : AlterCommand}
    (resolves : command.Resolves schema) : (schema.whenAltering command).Built mode name := by
  unfold Schema.whenAltering
  cases schema.mode with
  | create => exact built
  | alter => exact built.command resolves

theorem Built.appendColumn (built : schema.Built mode name) (column : ColumnDef) :
    Built mode name { schema with columns := schema.columns ++ [column] } := by
  refine ⟨built.name_eq, built.mode_eq, ?_⟩
  intro command member
  exact resolves_of_longer (built.resolves command member) (by simp) (Nat.le_refl _)

theorem Built.appendForeignKey (built : schema.Built mode name) (key : ForeignKey) :
    Built mode name { schema with foreignKeys := schema.foreignKeys ++ [key] } := by
  refine ⟨built.name_eq, built.mode_eq, ?_⟩
  intro command member
  exact resolves_of_longer (built.resolves command member) (Nat.le_refl _) (by simp)

theorem Built.addColumn (built : schema.Built mode name) (column : ColumnDef) :
    (schema.addColumn column).Built mode name := by
  apply (built.appendColumn column).whenAltering
  simp [AlterCommand.Resolves]

theorem Built.modifyColumn (built : schema.Built mode name) (column : ColumnDef) :
    (schema.modifyColumn column).Built mode name := by
  apply (built.appendColumn column).command
  simp [AlterCommand.Resolves]

theorem Built.addForeignKey (built : schema.Built mode name) (column refTable refColumn : String)
    (modifiers : List ForeignKeyModifier) :
    (schema.addForeignKey column refTable refColumn modifiers).Built mode name := by
  apply (built.appendForeignKey _).whenAltering
  simp [AlterCommand.Resolves]

theorem Built.setPrimaryKey (built : schema.Built mode name) (columns : List String) :
    (schema.setPrimaryKey columns).Built mode name := by
  unfold Schema.setPrimaryKey
  split
  · exact ⟨built.name_eq, built.mode_eq, built.resolves⟩
  · exact built.command trivial

theorem Built.addUniqueKey (built : schema.Built mode name) (key : String)
    (columns : List String) : (schema.addUniqueKey key columns).Built mode name := by
  unfold Schema.addUniqueKey
  split
  · exact ⟨built.name_eq, built.mode_eq, built.resolves⟩
  · exact built.command trivial

theorem Built.addIndex (built : schema.Built mode name) (index : Index) :
    (schema.addIndex index).Built mode name := by
  unfold Schema.addIndex
  split
  · exact ⟨built.name_eq, built.mode_eq, built.resolves⟩
  · exact built.command trivial

theorem Built.timestamps (built : schema.Built mode name) : schema.timestamps.Built mode name :=
  (built.addColumn _).addColumn _

/-- Every call leaves a definition as calls can build it. -/
theorem Built.apply (built : schema.Built mode name) (step : Step) :
    (schema.apply step).Built mode name := by
  cases step with
  | column label type modifiers => exact built.addColumn _
  | modifyColumn label type modifiers => exact built.modifyColumn _
  | foreignKey column refTable refColumn modifiers => exact built.addForeignKey _ _ _ _
  | timestamps => exact built.timestamps
  | softDeletes => exact built.addColumn _
  | morphs label => exact ((built.addColumn _).addColumn _).addIndex _
  | audit => exact (((built.addColumn _).addColumn _).addColumn _).timestamps.addColumn _
  | primaryKey columns => exact built.setPrimaryKey columns
  | uniqueKey key columns => exact built.addUniqueKey key columns
  | uniqueIndex _ | index _ _ | fullText _ _ => exact built.addIndex _
  | engine _ | charset _ | collate _ | comment _ | temporary | ifNotExists =>
    exact ⟨built.name_eq, built.mode_eq, built.resolves⟩
  | dropColumn _ | renameColumn _ _ | addIndex _ _ _ | dropIndex _ | dropForeignKey _
  | renameTable _ | changeEngine _ | changeCharset _ _ => exact built.command trivial

/-- Whatever calls a definition is built with, its commands point into it. -/
theorem built_ofSteps (mode : SchemaMode) (name : String) (steps : List Step) :
    (ofSteps mode name steps).Built mode name := by
  have run (schema : Schema) (built : schema.Built mode name) :
      (steps.foldl Schema.apply schema).Built mode name := by
    induction steps generalizing schema with
    | nil => exact built
    | cons step rest ih => exact ih (schema.apply step) (built.apply step)
  exact run (empty mode name) (built_empty mode name)

end Schema
end FluentSql
