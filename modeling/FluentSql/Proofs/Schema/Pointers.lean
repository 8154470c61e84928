import FluentSql.Proofs.Schema.Alterations

/-! What the commands of a definition point at. A command points at a column or a foreign key by its
place. It is one that the call itself has put there, and no other command points at it. So whatever
is altered is found when the definition is rendered. -/
namespace FluentSql

/-- What commands point at. -/
inductive Referent where
  | column
  | foreignKey

/-- The place that a command points at. -/
def AlterCommand.place? : Referent → AlterCommand → Option Nat
  | .column, .addColumn index => some index
  | .column, .modifyColumn index => some index
  | .foreignKey, .addForeignKey index => some index
  | _, _ => none

namespace Schema

/-- The places that some commands point at, in the order of the commands. -/
def places (referent : Referent) (commands : List AlterCommand) : List Nat :=
  commands.filterMap (AlterCommand.place? referent)

theorem places_append (referent : Referent) (commands more : List AlterCommand) :
    places referent (commands ++ more) = places referent commands ++ places referent more :=
  List.filterMap_append

/-- How many referents a definition has. -/
def count (schema : Schema) : Referent → Nat
  | .column => schema.columns.length
  | .foreignKey => schema.foreignKeys.length

/-- The places that a list gets when it becomes longer. -/
def newPlaces (before behind : Nat) : List Nat := List.range' before (behind - before)

@[simp] theorem newPlaces_self (before : Nat) : newPlaces before before = [] := by simp [newPlaces]

@[simp] theorem newPlaces_succ (before : Nat) : newPlaces before (before + 1) = [before] := by
  simp [newPlaces]

theorem newPlaces_append {before between behind : Nat} (first : before ≤ between)
    (second : between ≤ behind) :
    newPlaces before between ++ newPlaces between behind = newPlaces before behind := by
  obtain ⟨more, rfl⟩ := Nat.exists_eq_add_of_le first
  obtain ⟨rest, rfl⟩ := Nat.exists_eq_add_of_le second
  have whole : before + more + rest - before = more + rest := by omega
  simp only [newPlaces, Nat.add_sub_cancel_left, whole, List.range'_append_1]

theorem range_append_newPlaces {before behind : Nat} (longer : before ≤ behind) :
    List.range before ++ newPlaces before behind = List.range behind := by
  simpa [newPlaces, List.range_eq_range'] using newPlaces_append (Nat.zero_le before) longer

/-- A definition with more behind what it has. -/
structure Extends (old new : Schema) : Prop where
  columns : old.columns <+: new.columns
  foreignKeys : old.foreignKeys <+: new.foreignKeys
  commands : old.commands <+: new.commands

/-- A definition with more behind what it has, whose new commands point at what is new, each at its
own in their order. Without pointing they point at nothing. -/
structure Grows (pointing : Bool) (old new : Schema) : Prop extends old.Extends new where
  mode_eq : new.mode = old.mode
  places_eq : ∀ referent, places referent new.commands =
    places referent old.commands ++
      if pointing then newPlaces (old.count referent) (new.count referent) else []

section Growth

variable {pointing : Bool} {old schema new : Schema}

theorem Extends.refl (schema : Schema) : schema.Extends schema :=
  ⟨List.prefix_rfl, List.prefix_rfl, List.prefix_rfl⟩

theorem Extends.trans (first : old.Extends schema) (second : schema.Extends new) :
    old.Extends new :=
  ⟨first.columns.trans second.columns, first.foreignKeys.trans second.foreignKeys,
    first.commands.trans second.commands⟩

theorem Extends.count_le (longer : old.Extends new) (referent : Referent) :
    old.count referent ≤ new.count referent := by
  cases referent with
  | column => exact longer.columns.length_le
  | foreignKey => exact longer.foreignKeys.length_le

theorem Grows.refl (pointing : Bool) (schema : Schema) : Grows pointing schema schema :=
  ⟨Extends.refl schema, rfl, fun _ => by simp⟩

theorem Grows.trans (first : Grows pointing old schema) (second : Grows pointing schema new) :
    Grows pointing old new := by
  refine ⟨first.toExtends.trans second.toExtends, second.mode_eq.trans first.mode_eq, ?_⟩
  intro referent
  rw [second.places_eq, first.places_eq, List.append_assoc]
  cases pointing with
  | false => rfl
  | true => simp [newPlaces_append (first.count_le referent) (second.count_le referent)]

/-- Calls that push nothing record commands that point at nothing. -/
theorem Grows.pointless (grows : Grows pointing old schema) {recorded : List AlterCommand}
    (columns : new.columns = schema.columns) (foreignKeys : new.foreignKeys = schema.foreignKeys)
    (mode : new.mode = schema.mode) (commands : new.commands = schema.commands ++ recorded)
    (nowhere : ∀ referent, places referent recorded = []) : Grows pointing old new := by
  refine grows.trans ⟨⟨?_, ?_, ?_⟩, mode, ?_⟩
  · exact columns ▸ List.prefix_rfl
  · exact foreignKeys ▸ List.prefix_rfl
  · exact commands ▸ List.prefix_append _ _
  · intro referent
    have same : new.count referent = schema.count referent := by
      cases referent <;> simp [count, columns, foreignKeys]
    simp [commands, places_append, nowhere, same]

/-- An option of the table. -/
theorem Grows.option (grows : Grows pointing old schema)
    (columns : new.columns = schema.columns) (foreignKeys : new.foreignKeys = schema.foreignKeys)
    (mode : new.mode = schema.mode) (commands : new.commands = schema.commands) :
    Grows pointing old new :=
  grows.pointless columns foreignKeys mode (commands.trans (List.append_nil _).symm) fun _ => rfl

theorem Grows.command (grows : Grows pointing old schema) {command : AlterCommand}
    (nowhere : ∀ referent, command.place? referent = none) :
    Grows pointing old (schema.command command) :=
  grows.pointless rfl rfl rfl rfl fun referent => by simp [places, nowhere referent]

theorem Grows.setPrimaryKey (grows : Grows pointing old schema) (columns : List String) :
    Grows pointing old (schema.setPrimaryKey columns) := by
  unfold Schema.setPrimaryKey
  split
  · exact grows.option rfl rfl rfl rfl
  · exact grows.command (by rintro ⟨⟩ <;> rfl)

theorem Grows.addUniqueKey (grows : Grows pointing old schema) (name : String)
    (columns : List String) : Grows pointing old (schema.addUniqueKey name columns) := by
  unfold Schema.addUniqueKey
  split
  · exact grows.option rfl rfl rfl rfl
  · exact grows.command (by rintro ⟨⟩ <;> rfl)

theorem Grows.addIndex (grows : Grows pointing old schema) (index : Index) :
    Grows pointing old (schema.addIndex index) := by
  unfold Schema.addIndex
  split
  · exact grows.option rfl rfl rfl rfl
  · exact grows.command (by rintro ⟨⟩ <;> rfl)

/-- A changed column is pointed at in either mode. -/
theorem grows_modifyColumn (schema : Schema) (column : ColumnDef) :
    Grows true schema (schema.modifyColumn column) := by
  refine ⟨⟨List.prefix_append _ _, List.prefix_rfl, List.prefix_append _ _⟩, rfl, ?_⟩
  intro referent
  cases referent <;>
    simp [Schema.modifyColumn, Schema.command, places, AlterCommand.place?, count]

section Pushes

variable (points : pointing = decide (old.mode = .alter))
include points

/-- A column is pointed at while altering. -/
theorem Grows.addColumn (grows : Grows pointing old schema) (column : ColumnDef) :
    Grows pointing old (schema.addColumn column) := by
  rw [← grows.mode_eq] at points
  refine grows.trans ?_
  unfold Schema.addColumn whenAltering
  cases mode : schema.mode with
  | create =>
    rw [points, mode]
    refine ⟨⟨List.prefix_append _ _, List.prefix_rfl, List.prefix_rfl⟩, mode.symm, ?_⟩
    intro referent
    simp
  | alter =>
    rw [points, mode]
    refine ⟨⟨List.prefix_append _ _, List.prefix_rfl, List.prefix_append _ _⟩, mode.symm, ?_⟩
    intro referent
    cases referent <;> simp [Schema.command, places, AlterCommand.place?, count]

/-- So is a foreign key. -/
theorem Grows.addForeignKey (grows : Grows pointing old schema)
    (column refTable refColumn : String) (modifiers : List ForeignKeyModifier) :
    Grows pointing old (schema.addForeignKey column refTable refColumn modifiers) := by
  rw [← grows.mode_eq] at points
  refine grows.trans ?_
  unfold Schema.addForeignKey whenAltering
  cases mode : schema.mode with
  | create =>
    rw [points, mode]
    refine ⟨⟨List.prefix_rfl, List.prefix_append _ _, List.prefix_rfl⟩, mode.symm, ?_⟩
    intro referent
    simp
  | alter =>
    rw [points, mode]
    refine ⟨⟨List.prefix_rfl, List.prefix_append _ _, List.prefix_append _ _⟩, mode.symm, ?_⟩
    intro referent
    cases referent <;> simp [Schema.command, places, AlterCommand.place?, count]

theorem Grows.timestamps (grows : Grows pointing old schema) :
    Grows pointing old schema.timestamps :=
  (grows.addColumn points _).addColumn points _

end Pushes

/-- What a call pushes, its own commands point at. While creating it may be recorded by none. -/
def PointsAtOwn (old new : Schema) : Prop :=
  ∃ pointing, (pointing = true ∨ old.mode = .create) ∧ Grows pointing old new

theorem pointsAtOwn_apply (schema : Schema) (call : Step) :
    schema.PointsAtOwn (schema.apply call) := by
  have whole := Grows.refl true schema
  have pushing (new : Schema)
      (grows : ∀ pointing, pointing = decide (schema.mode = .alter) →
        Grows pointing schema schema → Grows pointing schema new) : schema.PointsAtOwn new := by
    refine ⟨decide (schema.mode = .alter), ?_, grows _ rfl (Grows.refl _ schema)⟩
    cases schema.mode <;> decide
  cases call with
  | column label type modifiers => exact pushing _ fun _ points grows => grows.addColumn points _
  | modifyColumn label type modifiers => exact ⟨true, .inl rfl, grows_modifyColumn schema _⟩
  | foreignKey column refTable refColumn modifiers =>
    exact pushing _ fun _ points grows => grows.addForeignKey points _ _ _ _
  | timestamps => exact pushing _ fun _ points grows => grows.timestamps points
  | softDeletes => exact pushing _ fun _ points grows => grows.addColumn points _
  | morphs label =>
    exact pushing _ fun _ points grows =>
      ((grows.addColumn points _).addColumn points _).addIndex _
  | audit =>
    exact pushing _ fun _ points grows =>
      ((((grows.addColumn points _).addColumn points _).addColumn points _).timestamps
        points).addColumn points _
  | primaryKey columns => exact ⟨true, .inl rfl, whole.setPrimaryKey columns⟩
  | uniqueKey key columns => exact ⟨true, .inl rfl, whole.addUniqueKey key columns⟩
  | uniqueIndex _ | index _ _ | fullText _ _ => exact ⟨true, .inl rfl, whole.addIndex _⟩
  | engine _ | charset _ | collate _ | comment _ | temporary | ifNotExists =>
    exact ⟨true, .inl rfl, whole.option rfl rfl rfl rfl⟩
  | dropColumn _ | renameColumn _ _ | addIndex _ _ _ | dropIndex _ | dropForeignKey _
  | renameTable _ | changeEngine _ | changeCharset _ _ =>
    exact ⟨true, .inl rfl, whole.command (by rintro ⟨⟩ <;> rfl)⟩

end Growth

section Runs

variable {old schema new : Schema}

theorem extends_foldl (calls : List Step) (schema : Schema) :
    schema.Extends (calls.foldl apply schema) := by
  induction calls generalizing schema with
  | nil => exact Extends.refl schema
  | cons call rest ih =>
    obtain ⟨_, _, grows⟩ := pointsAtOwn_apply schema call
    exact grows.toExtends.trans (ih (schema.apply call))

/-- Commands point at different places, all of which are there. While altering they point at every
one. -/
structure Pointed (schema : Schema) : Prop where
  places_sublist : ∀ referent,
    (places referent schema.commands).Sublist (List.range (schema.count referent))
  places_eq_range : schema.mode = .alter → ∀ referent,
    places referent schema.commands = List.range (schema.count referent)

theorem Pointed.of_call (pointed : old.Pointed) (call : old.PointsAtOwn new) : new.Pointed := by
  obtain ⟨pointing, points, grows⟩ := call
  constructor
  · intro referent
    rw [grows.places_eq, ← range_append_newPlaces (grows.count_le referent)]
    refine (pointed.places_sublist referent).append ?_
    cases pointing with
    | false => exact List.nil_sublist _
    | true => exact List.Sublist.refl _
  · intro alters referent
    rw [grows.mode_eq] at alters
    have always : pointing = true := points.resolve_right (by rw [alters]; decide)
    rw [grows.places_eq, pointed.places_eq_range alters, if_pos always,
      range_append_newPlaces (grows.count_le referent)]

theorem pointed_ofSteps (mode : SchemaMode) (name : String) (calls : List Step) :
    (ofSteps mode name calls).Pointed := by
  have run (schema : Schema) (pointed : schema.Pointed) :
      (calls.foldl apply schema).Pointed := by
    induction calls generalizing schema with
    | nil => exact pointed
    | cons call rest ih =>
      exact ih (schema.apply call) (pointed.of_call (pointsAtOwn_apply schema call))
  refine run (empty mode name) ⟨fun referent => List.nil_sublist _, fun _ referent => ?_⟩
  cases referent <;> rfl

theorem mem_places_iff {referent : Referent} {commands : List AlterCommand} {place : Nat} :
    place ∈ places referent commands ↔
      ∃ command ∈ commands, command.place? referent = some place :=
  List.mem_filterMap

end Runs

end Schema

namespace Dialect

variable {dialect : Dialect} {schema : Schema}

theorem exists_failed_of_alterations {commands : List AlterCommand} {error : Error}
    (failed : (dialect.alterations schema commands).1 = .error error) :
    ∃ command ∈ commands, dialect.alteration schema command = .error error := by
  induction commands with
  | nil => cases failed
  | cons command rest ih =>
    rw [alterations] at failed
    cases first : dialect.alteration schema command with
    | error own =>
      rw [first] at failed
      obtain rfl := Except.error.inj failed
      exact ⟨command, List.mem_cons_self, first⟩
    | ok own =>
      rw [first] at failed
      cases more : (dialect.alterations schema rest).1 with
      | ok owns =>
        simp only [more] at failed
        cases failed
      | error other =>
        simp only [more] at failed
        obtain ⟨later, member, same⟩ := ih (more.trans failed)
        exact ⟨later, List.mem_cons_of_mem command member, same⟩

/-- What a command points at is found, so it fails only where the backend cannot do it. -/
theorem alteration_ne_missingColumn {command : AlterCommand} (resolves : command.Resolves schema)
    (index : Nat) : dialect.alteration schema command ≠ .error (.missingColumn index) := by
  cases dialect with
  | mySql =>
    obtain ⟨own, found, -⟩ := exists_clause_mySql resolves
    simp [found]
  | postgres =>
    obtain ⟨own, found, -⟩ := exists_becomes_postgres resolves
    simp [found]
  | sqlite =>
    by_cases refused : command.Refused
    · obtain ⟨feature, failed⟩ := alteration_of_refused schema refused
      rw [failed]
      nofun
    · obtain ⟨own, found, -⟩ := exists_becomes_sqlite resolves refused
      simp [found]

/-- Clauses that wait for a statement come to stand in one. -/
theorem exists_alterTable_of_pending (table : String) {pending : List AlterClause}
    {clause : AlterClause} (waits : clause ∈ pending) (owns : List Alteration) :
    ∃ clauses, .alterTable table clauses ∈ grouped table pending owns ∧ clause ∈ clauses := by
  have flushed (pending : List AlterClause) (waits : clause ∈ pending) :
      .alterTable table pending ∈ flush table pending := by
    rw [flush, if_neg (by simpa using List.ne_nil_of_mem waits)]
    exact List.mem_singleton_self _
  induction owns generalizing pending with
  | nil => exact ⟨pending, flushed pending waits, waits⟩
  | cons own rest ih =>
    cases own with
    | clauses more => exact ih (List.mem_append_left more waits)
    | leftOut => exact ih waits
    | statements apart =>
      exact ⟨pending, by simp [grouped, flushed pending waits], waits⟩

theorem exists_alterTable_of_clauses (table : String) {clauses : List AlterClause}
    {clause : AlterClause} (member : clause ∈ clauses) {owns : List Alteration}
    (shares : .clauses clauses ∈ owns) (pending : List AlterClause) :
    ∃ shared, .alterTable table shared ∈ grouped table pending owns ∧ clause ∈ shared := by
  induction owns generalizing pending with
  | nil => cases shares
  | cons own rest ih =>
    rcases List.mem_cons.mp shares with rfl | later
    · exact exists_alterTable_of_pending table (List.mem_append_right pending member) rest
    · cases own with
      | clauses more => exact ih later (pending ++ more)
      | leftOut => exact ih later pending
      | statements apart =>
        obtain ⟨shared, found, within⟩ := ih later []
        exact ⟨shared, by simp [grouped, found], within⟩

theorem exists_alteration_of_mem {commands : List AlterCommand} {owns : List Alteration}
    {related : AlterCommand → Alteration → Prop} (inOrder : List.Forall₂ related commands owns)
    {command : AlterCommand} (member : command ∈ commands) : ∃ own ∈ owns, related command own := by
  induction inOrder with
  | nil => cases member
  | @cons first own rest others here later ih =>
    rcases List.mem_cons.mp member with rfl | behind
    · exact ⟨own, List.mem_cons_self, here⟩
    · obtain ⟨other, listed, related⟩ := ih behind
      exact ⟨other, List.mem_cons_of_mem own listed, related⟩

/-- Where a foreign key can be added at all, it is a clause of its own words. -/
theorem alteration_addForeignKey {index : Nat} {key : ForeignKey} {own : Alteration}
    (listed : schema.foreignKeys[index]? = some key)
    (found : dialect.alteration schema (.addForeignKey index) = .ok own) :
    own = .change ("ADD " ++ key.sql) := by
  cases dialect with
  | mySql | postgres =>
    simp only [alteration, mySqlAlteration, postgresAlteration, listed] at found
    exact (Except.ok.inj found).symm
  | sqlite => cases found

/-- Every foreign key that a command adds stands in an ALTER TABLE. -/
theorem exists_clause_of_addForeignKey {index : Nat} {key : ForeignKey}
    (recorded : .addForeignKey index ∈ schema.commands)
    (listed : schema.foreignKeys[index]? = some key) {statements : List AlterStatement}
    (found : dialect.alterStatements schema = .ok statements) :
    ∃ clauses, .alterTable schema.name clauses ∈ statements ∧
      .change ("ADD " ++ key.sql) ∈ clauses := by
  rw [alterStatements, alterations_eq_mapM] at found
  cases all : schema.commands.mapM (dialect.alteration schema) with
  | error error =>
    rw [all] at found
    cases found
  | ok owns =>
    rw [all] at found
    obtain rfl := Except.ok.inj found
    obtain ⟨own, member, expressed⟩ :=
      exists_alteration_of_mem (forall₂_of_mapM all) recorded
    rw [alteration_addForeignKey listed expressed] at member
    exact exists_alterTable_of_clauses schema.name (List.mem_singleton_self _) member []

end Dialect

namespace Schema

/-- Alterations are rendered with all that their commands point at. No column is missing, and every
foreign key that is added stands in a statement, unless the backend refuses the alteration. -/
structure RendersReferents (schema : Schema) (dialect : Dialect) : Prop where
  no_missing_column : ∀ index,
    (dialect.alterTable schema).result ≠ .error (.missingColumn index)
  no_skipped_key : ∀ statements, dialect.alterStatements schema = .ok statements →
    ∀ place ∈ places .foreignKey schema.commands, ∃ key, schema.foreignKeys[place]? = some key ∧
      ∃ clauses, .alterTable schema.name clauses ∈ statements ∧
        .change ("ADD " ++ key.sql) ∈ clauses

theorem rendersReferents {mode : SchemaMode} {name : String} {schema : Schema}
    (built : schema.Built mode name) (dialect : Dialect) : schema.RendersReferents dialect := by
  constructor
  · intro index failed
    have missing : (dialect.alterations schema schema.commands).1 =
        .error (.missingColumn index) := by
      simp only [Dialect.alterTable, Dialect.alterStatements] at failed
      cases all : (dialect.alterations schema schema.commands).1 with
      | ok owns =>
        rw [all] at failed
        cases failed
      | error error =>
        rw [all] at failed
        exact congrArg Except.error (Except.error.inj failed)
    obtain ⟨command, member, own⟩ := Dialect.exists_failed_of_alterations missing
    exact Dialect.alteration_ne_missingColumn (built.resolves command member) index own
  · intro statements found place member
    obtain ⟨command, recorded, points⟩ := mem_places_iff.mp member
    obtain rfl : command = .addForeignKey place := by
      cases command with
      | addForeignKey index => exact congrArg _ (Option.some.inj points)
      | _ => cases points
    have within : place < schema.foreignKeys.length := built.resolves _ recorded
    have listed := List.getElem?_eq_getElem within
    exact ⟨_, listed, Dialect.exists_clause_of_addForeignKey recorded listed found⟩

/-- Commands always point at their own. Whatever calls build a definition, what the commands of a
call point at is what that call has pushed, one by one in order, and it stays where it is. All of it
is there, no two commands point at the same, and while altering nothing is without a command. So no
backend misses a column or leaves a foreign key out. -/
theorem commands_point_at_their_own (mode : SchemaMode) (name : String) (calls : List Step) :
    (∀ before call behind, calls = before ++ call :: behind →
      (ofSteps mode name before).PointsAtOwn ((ofSteps mode name before).apply call) ∧
        ((ofSteps mode name before).apply call).Extends (ofSteps mode name calls)) ∧
      (∀ referent, (places referent (ofSteps mode name calls).commands).Nodup ∧
        (∀ place ∈ places referent (ofSteps mode name calls).commands,
          place < (ofSteps mode name calls).count referent) ∧
        (mode = .alter → ∀ place < (ofSteps mode name calls).count referent,
          place ∈ places referent (ofSteps mode name calls).commands)) ∧
      ∀ dialect, (ofSteps mode name calls).RendersReferents dialect := by
  have built := built_ofSteps mode name calls
  have pointed := pointed_ofSteps mode name calls
  refine ⟨?_, ?_, rendersReferents built⟩
  · rintro before call behind rfl
    have whole : ofSteps mode name (before ++ call :: behind) =
        behind.foldl apply ((ofSteps mode name before).apply call) := List.foldl_append
    rw [whole]
    exact ⟨pointsAtOwn_apply _ call, extends_foldl behind _⟩
  · intro referent
    have ordered := pointed.places_sublist referent
    refine ⟨ordered.nodup List.nodup_range, ?_, ?_⟩
    · intro place member
      exact List.mem_range.mp (ordered.subset member)
    · intro alters place inside
      rw [pointed.places_eq_range (built.mode_eq.trans alters)]
      exact List.mem_range.mpr inside

/-- A pair of columns, a change and a foreign key with a name of its own. -/
def authoredPosts : List Step :=
  [.morphs "author", .modifyColumn "title" .text [.nullable],
    .foreignKey "team_id" "teams" "id" [.named "posts_team"]]

theorem commands_point_at_their_own_authoredPosts :
    (ofSteps .alter "posts" [.morphs "author"]).PointsAtOwn
        (ofSteps .alter "posts" [.morphs "author", .modifyColumn "title" .text [.nullable]]) ∧
      places .column (ofSteps .alter "posts" authoredPosts).commands = [0, 1, 2] ∧
      2 < (ofSteps .alter "posts" authoredPosts).count .column ∧
      ∃ statements clauses,
        Dialect.postgres.alterStatements (ofSteps .alter "posts" authoredPosts) = .ok statements ∧
          .alterTable "posts" clauses ∈ statements ∧
          .change ("ADD CONSTRAINT posts_team FOREIGN KEY (team_id) REFERENCES teams (id)") ∈
            clauses := by
  obtain ⟨own, placed, renders⟩ := commands_point_at_their_own .alter "posts" authoredPosts
  have columns : places .column (ofSteps .alter "posts" authoredPosts).commands = [0, 1, 2] := by
    decide
  have keys : 0 ∈ places .foreignKey (ofSteps .alter "posts" authoredPosts).commands := by decide
  obtain ⟨statements, found⟩ : ∃ statements, Dialect.postgres.alterStatements
      (ofSteps .alter "posts" authoredPosts) = .ok statements := ⟨_, rfl⟩
  obtain ⟨key, listed, clauses, standing, clause⟩ :=
    (renders .postgres).no_skipped_key statements found 0 keys
  obtain rfl := Option.some.inj listed
  exact ⟨(own [.morphs "author"] _ _ rfl).1, columns,
    (placed .column).2.1 2 (columns ▸ by decide), statements, clauses, found, standing, clause⟩

end Schema
end FluentSql
