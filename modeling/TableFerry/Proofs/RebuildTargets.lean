import TableFerry.Proofs.CatalogueNames
/-! What a rebuild drops and what it creates. The table to drop is the one that the lookup on the target found,
under the name or under the name in upper case; the table to create comes from the source. Both statements name
one table as long as the name and the name in upper case are written alike. -/

namespace TableFerry

namespace Compiler

/-- A name and the same name in upper case are written alike. -/
def Retraces (c : Compiler) (name : String) : Prop := c.qualify (Text.upper name) = c.qualify name

theorem Retraces.qualify_eq {c : Compiler} {name found : String} (retraces : c.Retraces name)
    (named : found = name ∨ found = Text.upper name) : c.qualify found = c.qualify name := by
  rcases named with rfl | rfl
  · rfl
  · exact retraces

theorem deleteDdl_creates (c : Compiler) (table : Table) (sql : String) (member : sql ∈ c.deleteDdl table) :
    createsTable sql = false := by
  rcases List.mem_append.mp member with ofIndex | ofTable
  · obtain ⟨index, _, rfl⟩ := List.mem_map.mp ofIndex
    exact (c.dropIndexDdl_leaves table index).2
  · rw [List.mem_singleton.mp ofTable]
    exact (Text.opens_append "DROP TABLE " _).not_hasStart (by decide)

end Compiler

namespace Worker

open Compiler (dropsTable createsTable LeavesTables)

variable {σ : Type} {w : Worker σ} {condition : Option String}

/-- A statement to the target that drops or creates a table names the image of one of `tables`. -/
def NamesImages (w : Worker σ) (tables : List SizedTable) (event : Event) : Prop :=
  ∀ sql, event = .sent w.target.db.label (.execute sql) →
    (dropsTable sql = true →
      ∃ table ∈ tables, sql = "DROP TABLE " ++ w.targetCompiler.qualify table.name) ∧
    (createsTable sql = true →
      ∃ table ∈ tables, Text.Opens ("CREATE TABLE " ++ w.targetCompiler.qualify table.name ++ " (") sql)

theorem namesImages_of_leaves {tables : List SizedTable} {label sql : String} (leaves : LeavesTables sql) :
    w.NamesImages tables (.sent label (.execute sql)) := by
  intro _ same
  cases same
  rw [leaves.1, leaves.2]
  exact ⟨nofun, nofun⟩

theorem query_opens (columns table : String) (condition : Option String) :
    Text.Opens "select " (query columns table condition) := by
  unfold query
  split
  · exact ((((Text.opens_append "select " _).append _).append _).append _).append _
  · exact ((Text.opens_append "select " _).append _).append _

theorem query_leaves (columns table : String) (condition : Option String) :
    LeavesTables (query columns table condition) :=
  Compiler.leavesTables (query_opens columns table condition) (by decide)

theorem allows_namesImages (w : Worker σ) (condition : Option String) (tables : List SizedTable) :
    w.Allows condition (w.NamesImages tables) where
  asks := by
    intro request asks
    cases asks with
    | count table => exact namesImages_of_leaves (query_leaves _ table condition)
    | connect | close | reflect | page => exact fun _ same => nomatch (Event.sent.inj same).2
  tends := by
    intro request tends
    cases tends <;> exact nofun
  created := nofun
  pageCopied := nofun

/-- A table that retraces its name keeps to its image: so do the DROP TABLE and the CREATE TABLE of its
rebuild. -/
theorem keeps_images {tables : List SizedTable} {table : SizedTable} (member : table ∈ tables)
    (retraces : w.targetCompiler.Retraces table.name) :
    (w.moveContents table condition).Keeps (w.NamesImages tables) fun _ => True := by
  apply (w.allows_namesImages condition tables).keeps_moveContents nofun
  · intro existing named sql listed _ same
    cases same
    constructor
    · intro drops
      refine ⟨table, member, ?_⟩
      rw [w.targetCompiler.deleteDdl_drops existing sql listed drops, retraces.qualify_eq named]
    · intro creates
      rw [w.targetCompiler.deleteDdl_creates existing sql listed] at creates
      cases creates
  · intro source named draft statements given sql listed
    obtain ⟨head, rest, rfl, opens, leaving⟩ := w.targetCompiler.gives_createDdl source draft statements given
    rcases List.mem_cons.mp listed with rfl | behind
    · intro _ same
      cases same
      refine ⟨?_, fun _ => ⟨table, member, ?_⟩⟩
      · rw [w.targetCompiler.creation_drops source opens]
        exact nofun
      · rw [← retraces.qualify_eq named]
        exact opens
    · exact namesImages_of_leaves (leaving sql behind)
  · intro name _ request fills
    cases fills with
    | empty => exact namesImages_of_leaves (Compiler.leavesTables (Text.opens_append "delete from " _) (by decide))
    | insert => exact nofun

theorem moveTables_images (tables : List SizedTable)
    (retraces : ∀ table ∈ tables, w.targetCompiler.Retraces table.name) :
    (w.moveTables tables condition).Keeps (w.NamesImages tables) fun _ => True :=
  (w.allows_namesImages condition tables).keeps_moveTables nofun tables fun table member =>
    keeps_images member (retraces table member)

/-! A name that does not retrace. -/

/-- Moves `name` to a target that has only the name in upper case. -/
def strayWorker (compiler : Compiler) (config : Datasource) (name : String) : Worker Unit :=
  let source := Database.still "src" "sqlite"
    (fun table => if table = name then some (Database.onlyId name) else none) fun _ => []
  let target := Database.still "dst" "other"
    (fun table => if table = Text.upper name then some (Database.onlyId table) else none) fun _ => []
  { between compiler.engine source target with
    target := { config := config, db := target }
    compiler := compiler }

/-- The statement that drops the only table there. -/
def strayDrop (compiler : Compiler) (config : Datasource) (name : String) : Event :=
  .sent "dst" (.execute ("DROP TABLE " ++ (compiler.toward (some config)).qualify (Text.upper name)))

def idTable (name : String) : Table :=
  { name := name
    columns := [(⟨"id", {}, .bool true, .null, none⟩ : ReflectedColumn).toColumn name []] }

theorem ensures_snapshot_still {label dialect : String} {tables : String → Option ReflectedTable}
    {rows : PageQuery → List Row} {table : String} (schema : Value) (world : World σ) {entry : String}
    (present : tables table = some (Database.onlyId entry)) :
    ((Database.still label dialect tables rows).snapshot table schema).Ensures world fun result _ _ =>
      result = .ok (some (idTable table)) := by
  apply Job.ensures_bind
  rw [Job.ensures_send]
  apply Job.ensures_bind
  rw [Job.ensures_answer]
  simp only [Database.still, present]
  apply Job.ensures_bind
  rw [Job.ensures_noteAll]
  apply Job.ensures_bind
  rw [Job.ensures_ofExcept]
  exact (Job.ensures_pure _).mpr rfl

theorem emits_withSavepoint {α : Type} {job : Job σ α} {event : Event} (db : Database σ)
    (emits : job.Emits event) : (db.withSavepoint job).Emits event := by
  apply Job.emits_step fun _ => (Job.ensures_send _ _).mpr ⟨(), rfl⟩
  intro _
  apply Job.emits_step fun _ => (Job.ensures_change _).mpr ⟨(), rfl⟩
  intro _
  apply emits.attempt.bind
  intro result
  cases result with
  | ok value =>
      apply (Job.keeps_send trivial).bind
      intro _ _
      apply (Job.keeps_change _).bind
      intro _ _
      exact Job.keeps_pure trivial
  | error fault =>
      apply (Job.keeps_send trivial).bind
      intro _ _
      apply (Job.keeps_change _).bind
      intro _ _
      exact Job.keeps_throw fault

theorem emits_run (db : Database σ) (sql : String) : (db.run sql).Emits (.sent db.label (.execute sql)) := by
  apply Job.emits_step fun _ => (Job.ensures_note _ _).mpr ⟨(), rfl⟩
  intro _
  apply (Job.emits_send db (.execute sql)).bind
  intro _
  exact Job.keeps_answer _

/-- A batch sends its first statement. -/
theorem emits_runBatch (db : Database σ) (tolerance : Database.Tolerance) (savepoint : Bool) (sql : String)
    (rest : List String) (result : Database.BatchResult) :
    (db.runBatch tolerance savepoint (sql :: rest) result).Emits (.sent db.label (.execute sql)) := by
  have statement : (do let _ ← db.run sql : Job σ Unit).Emits (.sent db.label (.execute sql)) :=
    (emits_run db sql).bind fun _ => Job.keeps_pure trivial
  rw [Database.runBatch]
  apply Job.Emits.bind
  · apply Job.Emits.attempt
    split
    · exact emits_withSavepoint db statement
    · exact statement
  · intro answered
    apply (Database.keeps_settle tolerance sql result answered).bind
    intro result _
    exact db.keeps_runBatch tolerance savepoint rest result (fun _ _ => trivial) trivial trivial trivial

theorem allows_all (w : Worker σ) (condition : Option String) : w.Allows condition fun _ => True :=
  ⟨fun _ _ => trivial, fun _ _ => trivial, fun _ _ => trivial, fun _ _ _ _ => trivial⟩

/-- A rebuild sends the statement that drops the table it was given. -/
theorem emits_rebuild (source : Table) {existing : Table} {sql : String}
    (drops : w.targetCompiler.deleteDdl existing = [sql]) :
    (w.rebuild source (some existing)).Emits (.sent w.target.db.label (.execute sql)) := by
  have allows := w.allows_all none
  have dropping : (w.dropExisting source.name (some existing)).Emits (.sent w.target.db.label (.execute sql)) := by
    unfold dropExisting runDdl
    simp only [drops, bind_assoc]
    apply (emits_runBatch _ _ _ sql [] _).bind
    intro _
    exact Job.keeps_pure trivial
  apply dropping.bind
  intro dropped
  apply (allows.keeps_create source fun _ _ _ _ _ => trivial).bind
  intro created _
  apply (allows.keeps_findTarget _ _).bind
  intro found _
  cases found with
  | none => exact Job.keeps_throw _
  | some table =>
      apply (Job.keeps_announce _ trivial).bind
      intro _ _
      exact Job.keeps_pure trivial

section Stray

variable (compiler : Compiler) (config : Datasource) {name : String}

theorem ensures_findSource (world : World Unit) :
    ((strayWorker compiler config name).source.db.withConnection
      (findTable (strayWorker compiler config name).source.db name .null)).Ensures world fun result _ _ =>
        result = .ok (some (idTable name)) := by
  apply Database.ensures_withConnection
  · intro fault state same
    cases same
  · intro state same
    cases same
    apply Job.ensures_bind
    apply (ensures_snapshot_still .null _ (if_pos rfl)).imp
    intro result events final same
    rcases same with rfl
    exact (Job.ensures_pure _).mpr rfl

theorem ensures_findStray (differs : Text.upper name ≠ name) (world : World Unit) :
    (findTable (strayWorker compiler config name).target.db name config.schemaName).Ensures world
      fun result _ _ => result = .ok (some (idTable (Text.upper name))) := by
  have missing : ((strayWorker compiler config name).target.db.snapshot name config.schemaName).Ensures world
      fun result _ _ => result = .ok none := by
    apply Job.ensures_bind
    rw [Job.ensures_send]
    apply Job.ensures_bind
    rw [Job.ensures_answer]
    simp only [strayWorker, Database.still, if_neg differs.symm]
    exact (Job.ensures_pure _).mpr rfl
  apply Job.ensures_bind
  apply missing.imp
  intro result events final same
  rcases same with rfl
  dsimp only
  rw [if_pos differs]
  apply (ensures_snapshot_still _ _ (if_pos rfl)).imp
  intro result more last found
  exact found

/-- A target that has only the name in upper case loses it when the name is moved. -/
theorem emits_stray (differs : Text.upper name ≠ name) (rows : Option Nat) :
    ((strayWorker compiler config name).moveContents ⟨name, rows⟩ none).Emits (strayDrop compiler config name) := by
  have allows := (strayWorker compiler config name).allows_all none
  apply Job.emits_step fun _ => (Job.ensures_enter _).mpr ⟨(), rfl⟩
  intro _
  apply Job.emits_behind fun world => (ensures_findSource compiler config world).imp
    fun result _ _ found => ⟨some (idTable name), found, rfl⟩
  intro _ same
  rcases same with rfl
  apply Job.emits_step fun _ => (Job.ensures_enter _).mpr ⟨(), rfl⟩
  intro _
  apply Job.emits_behind fun world => (ensures_findStray compiler config differs world).imp
    fun result _ _ found => ⟨some (idTable (Text.upper name)), found, rfl⟩
  intro _ same
  rcases same with rfl
  apply Job.emits_step fun _ => (Job.ensures_enter _).mpr ⟨(), rfl⟩
  intro _
  apply (emits_rebuild (idTable name) rfl).bind
  intro target
  split
  · exact Job.keeps_pure trivial
  · apply (Job.keeps_enter _).bind
    intro _ _
    apply (allows.keeps_copyRows _ _ _ fun _ _ => trivial).bind
    intro rows _
    apply (Job.keeps_enter _).bind
    intro _ _
    exact Job.keeps_pure trivial

theorem emits_moveTables (differs : Text.upper name ≠ name) (rows : Option Nat) :
    ((strayWorker compiler config name).moveTables [⟨name, rows⟩] none).Emits (strayDrop compiler config name) := by
  have allows := (strayWorker compiler config name).allows_all none
  have contents := emits_stray compiler config differs rows
  have guarded : ((strayWorker compiler config name).inSavepoint
      ((strayWorker compiler config name).moveContents ⟨name, rows⟩ none)).Emits (strayDrop compiler config name) := by
    unfold inSavepoint
    split
    · exact emits_withSavepoint _ contents
    · exact contents
  have moved : ((strayWorker compiler config name).moveTable ⟨name, rows⟩ 1 1 none).Emits
      (strayDrop compiler config name) := by
    have taken : (strayWorker compiler config name).reasonToSkip ⟨name, rows⟩ = none := by
      cases rows <;> rfl
    unfold moveTable
    rw [taken]
    apply Job.emits_step fun _ => (Job.ensures_enter _).mpr ⟨(), rfl⟩
    intro _
    apply Job.emits_step fun world => (Job.ensures_announce _ _ world).imp fun result _ _ told => ⟨(), told.1⟩
    intro _
    apply Job.emits_step fun _ => Job.ensures_clock.mpr ⟨_, rfl⟩
    intro started
    apply guarded.attempt.bind
    intro result
    split
    · exact keeps_endFailed (fun _ => trivial) _ _
    · exact Job.keeps_pure trivial
    · apply Job.keeps_clock.bind
      intro now _
      apply (Job.keeps_announce _ trivial).bind
      intro _ _
      exact Job.keeps_pure trivial
  apply moved.bind
  intro ok
  exact Job.keeps_pure trivial

end Stray

/-- A rebuild drops what it creates, and a run drops and creates images of its tables only, as long as the names
of these tables and the names in upper case are written alike. Any other name can make a run drop a table that
is the image of none. -/
theorem moveTables_drops_images_iff (w : Worker σ) (tables : List SizedTable) :
    (∀ table ∈ tables, w.targetCompiler.Retraces table.name →
      ∀ position total condition world, (w.moveTable table position total condition).Ensures world
        fun _ events _ => ∀ event ∈ events, w.NamesImages [table] event) ∧
    ((∀ table ∈ tables, w.targetCompiler.Retraces table.name) →
      ∀ condition world, (w.moveTables tables condition).Ensures world
        fun _ events _ => ∀ event ∈ events, w.NamesImages tables event) ∧
    (∀ table ∈ tables, ¬w.targetCompiler.Retraces table.name →
      ∃ v : Worker Unit, v.compiler = w.compiler ∧ v.target.config = w.target.config ∧
        ∀ world, (v.moveTables [table] none).Ensures world
          fun _ events _ => ∃ event ∈ events, ¬v.NamesImages [table] event) := by
  refine ⟨?_, ?_, ?_⟩
  · intro table _ retraces position total condition world
    have kept := (w.allows_namesImages condition [table]).keeps_moveTable nofun table position total
      (keeps_images (List.mem_singleton.mpr rfl) retraces)
    exact (kept world).imp fun _ _ _ named => named.1
  · intro retraces condition world
    exact (moveTables_images tables retraces world).imp fun _ _ _ named => named.1
  · intro table _ other
    have differs : Text.upper table.name ≠ table.name := by
      intro same
      apply other
      rw [Compiler.Retraces, same]
    refine ⟨strayWorker w.compiler w.target.config table.name, rfl, rfl, ?_⟩
    intro world
    apply (emits_moveTables w.compiler w.target.config differs table.rows world).imp
    intro result events final sent
    refine ⟨_, sent, ?_⟩
    intro images
    obtain ⟨image, listed, same⟩ := (images _ rfl).1 (Text.opens_append "DROP TABLE " _).starts
    rw [List.mem_singleton.mp listed] at same
    exact other ((String.append_right_inj _).mp same)

/-- Moves tables between SQLite databases. -/
def namesMover : Worker (List String) :=
  between .sqlite (Database.still "src" "sqlite" (fun table => some (Database.onlyId table)) fun _ => [])
    (Database.names "dst" "sqlite")

theorem moveTables_drops_images_upper :
    namesMover.targetCompiler.Retraces "ORDERS" ∧
      (namesMover.moveTables [⟨"ORDERS", some 0⟩] none).Ensures { state := [], now := fun _ => .zero false }
        fun _ events _ => ∀ event ∈ events, namesMover.NamesImages [⟨"ORDERS", some 0⟩] event := by
  have retraces : namesMover.targetCompiler.Retraces "ORDERS" := by
    unfold Compiler.Retraces
    decide +kernel
  refine ⟨retraces, (moveTables_drops_images_iff namesMover [⟨"ORDERS", some 0⟩]).2.1 ?_ none _⟩
  intro table member
  rw [List.mem_singleton.mp member]
  exact retraces

/-- The text that a request executes, with the database it is sent to. -/
def executed? : Event → Option (String × String)
  | .sent label (.execute sql) => some (label, sql)
  | _ => none

/-- Of two tables whose names differ in case the second drops the first one, which was moved before, and no
failure is counted. -/
theorem moveTables_drops_earlier :
    let ran := (namesMover.moveTables [⟨"ORDERS", some 0⟩, ⟨"Orders", some 0⟩] none).run
      { state := [], now := fun _ => .zero false }
    ran.1.toOption = some 0 ∧ ran.2.state = ["Orders"] ∧
      ran.2.trace.filterMap executed? = [
        ("dst", "CREATE TABLE \"ORDERS\" (\"id\" FAKETYPE NULL)"),
        ("dst", "delete from \"ORDERS\""),
        ("dst", "DROP TABLE \"ORDERS\""),
        ("dst", "CREATE TABLE \"Orders\" (\"id\" FAKETYPE NULL)"),
        ("dst", "delete from \"Orders\"")] :=
  ⟨by decide +kernel, by decide +kernel, by decide +kernel⟩

end Worker

end TableFerry
