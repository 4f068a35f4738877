import TableFerry.Proofs.DrawnChoices
import TableFerry.Proofs.RebuildTargets
import TableFerry.Proofs.Savepoints
/-! What a rebuild sends. The statements that drop the table on the target and those that create it are one list,
which is sent in order up to the first statement that is refused; a failure that is tolerated does not stop it. In
the list every index is dropped before its table, and everything that belongs to the new table comes behind it. -/

namespace TableFerry

namespace Database

variable {σ : Type} (db : Database σ)

/-- A statement as it is sent, in a savepoint of its own if asked for. -/
def statementEvents (savepoint ok : Bool) (sql : String) : List Event :=
  if savepoint then
    [.sent db.label .savepoint, .sent db.label (.execute sql), .sent db.label (if ok then .release else .rollbackTo)]
  else [.sent db.label (.execute sql)]

/-- The answer to a statement, and what the database is left in when the savepoint is closed. -/
def settled (savepoint : Bool) (sql : String) (state : σ) : Except Fault Value × σ :=
  if savepoint then
    let (answer, next) := db.execute sql (db.savepoint state)
    (answer, if answer.isOk then db.release next else db.rollbackTo next)
  else db.execute sql state

/-- How a database takes a list of statements: one after the other, until one fails in a way that is not tolerated. -/
inductive Course (tolerates : Fault → Bool) (savepoint : Bool) :
    List String → σ → List Event → Option (String × Fault) → σ → Prop
  | done (state : σ) : Course tolerates savepoint [] state [] none state
  | accepted {sql : String} {rest : List String} {state next final : σ} {value : Value} {events : List Event}
      {refused? : Option (String × Fault)} (answered : db.settled savepoint sql state = (.ok value, next))
      (later : Course tolerates savepoint rest next events refused? final) :
      Course tolerates savepoint (sql :: rest) state (db.statementEvents savepoint true sql ++ events) refused? final
  | tolerated {sql : String} {rest : List String} {state next final : σ} {fault : Fault} {events : List Event}
      {refused? : Option (String × Fault)} (answered : db.settled savepoint sql state = (.error fault, next))
      (tolerated : tolerates fault = true) (later : Course tolerates savepoint rest next events refused? final) :
      Course tolerates savepoint (sql :: rest) state (db.statementEvents savepoint false sql ++ events) refused? final
  | refused {sql : String} {rest : List String} {state next : σ} {fault : Fault}
      (answered : db.settled savepoint sql state = (.error fault, next)) (untolerated : tolerates fault = false) :
      Course tolerates savepoint (sql :: rest) state (db.statementEvents savepoint false sql) (some (sql, fault)) next

/-- The error that ends a batch at a statement. -/
def refusal (sql : String) (fault : Fault) : Fault :=
  .wrap (.ddl (.text sql)) s!"Statement failed: {sql}" fault

/-- Statements fail with errors of the database layer only. -/
def FailsAsDatabase : Prop :=
  ∀ sql state fault next, db.execute sql state = (.error fault, next) → fault.kind.isDatabase = true

variable {db} {tolerates : Fault → Bool} {savepoint : Bool} {first second : List String} {state middle final : σ}
variable {events more : List Event} {refused? : Option (String × Fault)}

theorem Course.append (early : db.Course tolerates savepoint first state events none middle)
    (late : db.Course tolerates savepoint second middle more refused? final) :
    db.Course tolerates savepoint (first ++ second) state (events ++ more) refused? final := by
  generalize unrefused : none = refusal? at early
  induction early with
  | done => exact late
  | accepted answered _ ih =>
      rw [List.cons_append, List.append_assoc]
      exact .accepted answered (ih late unrefused)
  | tolerated answered tolerated _ ih =>
      rw [List.cons_append, List.append_assoc]
      exact .tolerated answered tolerated (ih late unrefused)
  | refused => cases unrefused

/-- What comes behind a statement that is refused does not matter. -/
theorem Course.stop {refusal : String × Fault}
    (early : db.Course tolerates savepoint first state events (some refusal) final) (second : List String) :
    db.Course tolerates savepoint (first ++ second) state events (some refusal) final := by
  generalize stopped : some refusal = refusal? at early ⊢
  induction early with
  | done => cases stopped
  | accepted answered _ ih => exact .accepted answered (ih stopped)
  | tolerated answered tolerated _ ih => exact .tolerated answered tolerated (ih stopped)
  | refused answered untolerated => exact .refused answered untolerated

theorem filterMap_statementEvents (savepoint ok : Bool) (sql : String) :
    (db.statementEvents savepoint ok sql).filterMap Worker.executed? = [(db.label, sql)] := by
  cases savepoint <;> cases ok <;> rfl

/-- What is sent of a list is an initial segment: the list, or what ends with the statement that is refused. -/
theorem Course.segment {statements : List String}
    (course : db.Course tolerates savepoint statements state events refused? final) :
    ∃ segment rest, statements = segment ++ rest ∧
      events.filterMap Worker.executed? = segment.map (fun sql => (db.label, sql)) ∧
      match refused? with
      | none => rest = []
      | some (sql, fault) => (∃ before, segment = before ++ [sql]) ∧ tolerates fault = false := by
  induction course with
  | done => exact ⟨[], [], rfl, rfl, rfl⟩
  | @accepted sql _ _ _ _ _ _ refused? _ _ ih | @tolerated sql _ _ _ _ _ _ refused? _ _ _ ih =>
      obtain ⟨segment, rest, rfl, sent, ends⟩ := ih
      refine ⟨sql :: segment, rest, rfl, ?_, ?_⟩
      · rw [List.filterMap_append, filterMap_statementEvents, sent]
        rfl
      · cases refused? with
        | none => exact ends
        | some refusal =>
            obtain ⟨⟨before, rfl⟩, untolerated⟩ := ends
            exact ⟨⟨sql :: before, rfl⟩, untolerated⟩
  | @refused sql rest _ _ _ _ untolerated =>
      exact ⟨[sql], rest, rfl, filterMap_statementEvents _ _ _, ⟨[], rfl⟩, untolerated⟩

theorem Course.sent {statements : List String}
    (course : db.Course tolerates savepoint statements state events refused? final) :
    ∀ event ∈ events, ∃ request, event = .sent db.label request := by
  have own (ok : Bool) (sql : String) :
      ∀ event ∈ db.statementEvents savepoint ok sql, ∃ request, event = .sent db.label request := by
    unfold statementEvents
    split <;> simp
  induction course with
  | done => exact nofun
  | accepted _ _ ih | tolerated _ _ _ ih =>
      intro event member
      rcases List.mem_append.mp member with early | late
      · exact own _ _ event early
      · exact ih event late
  | refused => exact own _ _

/-- One statement of a batch. -/
theorem ensures_settled (db : Database σ) (savepoint : Bool) (sql : String) (world : World σ) :
    let statement : Job σ Unit := do
      let _ ← db.run sql
    (if savepoint then db.withSavepoint statement else statement).Ensures world fun result events final =>
      ∃ answer, db.settled savepoint sql world.state = (answer, final.state) ∧
        result = answer.map (fun _ => ()) ∧ events = db.statementEvents savepoint answer.isOk sql ∧
        final.draft.drawn = world.draft.drawn := by
  have answered (world : World σ) : (do let _ ← db.run sql : Job σ Unit).Ensures world fun result events final =>
      ∃ answer, db.execute sql world.state = (answer, final.state) ∧ result = answer.map (fun _ => ()) ∧
        events = [.sent db.label (.execute sql)] ∧ final.draft.drawn = world.draft.drawn := by
    apply Job.ensures_bind
    apply (ensures_run db sql world).imp
    intro result events middle outcome
    rcases outcome with ⟨rfl, ran, drawn⟩
    cases result with
    | error fault => exact ⟨.error fault, ran, rfl, rfl, drawn⟩
    | ok value => exact (Job.ensures_pure _).mpr ⟨.ok value, ran, rfl, rfl, drawn⟩
  intro statement
  cases savepoint with
  | false => exact answered world
  | true =>
      apply ensures_bracket
      apply (answered _).imp
      intro result events final outcome
      rcases outcome with ⟨answer, ran, rfl, rfl, drawn⟩
      cases answer with
      | ok value => exact ⟨.ok value, by simp [settled, ran, Except.isOk, Except.toBool], rfl, rfl, drawn⟩
      | error fault => exact ⟨.error fault, by simp [settled, ran, Except.isOk, Except.toBool], rfl, rfl, drawn⟩

/-- A failure that is tolerated lets the batch go on. -/
theorem ensures_settle_tolerated {tolerance : Tolerance} {fault : Fault} (isDatabase : fault.kind.isDatabase = true)
    (tolerated : (tolerance fault).1 = true) (sql : String) (count : BatchResult) (world : World σ) :
    (settle tolerance sql count (.error fault) : Job σ BatchResult).Ensures world fun result events final =>
      (∃ counted, result = .ok counted) ∧ events = [] ∧ final.state = world.state ∧
        final.draft.drawn = world.draft.drawn := by
  unfold settle
  dsimp only
  rw [isDatabase]
  apply Job.ensures_bind
  rw [Job.ensures_noteAll]
  dsimp only
  rw [if_pos tolerated]
  apply Job.ensures_bind
  rw [Job.ensures_note, Job.ensures_pure]
  exact ⟨⟨_, rfl⟩, rfl, rfl, rfl⟩

/-- Any other failure ends the batch. -/
theorem ensures_settle_refused {tolerance : Tolerance} {fault : Fault} (isDatabase : fault.kind.isDatabase = true)
    (untolerated : (tolerance fault).1 = false) (sql : String) (count : BatchResult) (world : World σ) :
    (settle tolerance sql count (.error fault) : Job σ BatchResult).Ensures world fun result events final =>
      result = .error (refusal sql fault) ∧ events = [] ∧ final.state = world.state ∧
        final.draft.drawn = world.draft.drawn := by
  unfold settle
  dsimp only
  rw [isDatabase]
  apply Job.ensures_bind
  rw [Job.ensures_noteAll]
  dsimp only
  rw [if_neg (Bool.not_eq_true _ ▸ untolerated), Job.ensures_throw]
  exact ⟨rfl, rfl, rfl, rfl⟩

theorem settled_error {sql : String} {fault : Fault} {next : σ}
    (answered : db.settled savepoint sql state = (.error fault, next)) :
    ∃ start after, db.execute sql start = (.error fault, after) := by
  unfold settled at answered
  split at answered
  · cases ran : db.execute sql (db.savepoint state) with
    | mk answer after =>
        rw [ran] at answered
        cases answered
        exact ⟨_, _, ran⟩
  · exact ⟨_, _, answered⟩

/-- A run takes the course of a list of statements: it ends with the first refusal or else gives a good value. -/
def Takes {α : Type} (db : Database σ) (tolerates : Fault → Bool) (savepoint : Bool) (statements : List String)
    (good : α → Prop) (world : World σ) (result : Except Fault α) (events : List Event) (final : World σ) : Prop :=
  ∃ refused?, db.Course tolerates savepoint statements world.state events refused? final.state ∧
    final.draft.drawn = world.draft.drawn ∧
    match refused? with
    | none => ∃ value, result = .ok value ∧ good value
    | some (sql, fault) => result = .error (refusal sql fault)

theorem ensures_takes_pure {α β : Type} {job : Job σ α} {statements : List String} {good : α → Prop}
    {fine : β → Prop} {world : World σ} (taken : job.Ensures world (db.Takes tolerates savepoint statements good world))
    {value : β} (value_fine : fine value) :
    (do let _ ← job; pure value : Job σ β).Ensures world (db.Takes tolerates savepoint statements fine world) := by
  apply taken.bind
  · intro _ events middle outcome
    rcases outcome with ⟨refused?, course, drawn, met⟩
    rw [Job.ensures_pure, List.append_nil]
    cases refused? with
    | none => exact ⟨none, course, drawn, value, rfl, value_fine⟩
    | some refusal => cases met
  · intro fault events middle outcome
    rcases outcome with ⟨refused?, course, drawn, met⟩
    cases refused? with
    | none =>
        obtain ⟨_, given, _⟩ := met
        cases given
    | some refusal =>
        cases met
        exact ⟨some refusal, course, drawn, rfl⟩

/-- A batch takes the course of its statements. -/
theorem ensures_runBatch (failsAsDatabase : db.FailsAsDatabase) (tolerance : Tolerance) (savepoint : Bool)
    (statements : List String) (count : BatchResult) (world : World σ) :
    (db.runBatch tolerance savepoint statements count).Ensures world
      (db.Takes (fun fault => (tolerance fault).1) savepoint statements (fun _ => True) world) := by
  induction statements generalizing count world with
  | nil => exact (Job.ensures_pure _).mpr ⟨none, .done _, rfl, _, rfl, trivial⟩
  | cons sql rest ih =>
      apply Job.ensures_bind
      rw [Job.ensures_attempt]
      apply (ensures_settled db savepoint sql world).imp
      intro result events middle outcome
      rcases outcome with ⟨answer, answered, rfl, rfl, drawn⟩
      cases answer with
      | ok value =>
          apply Job.ensures_bind
          refine (Job.ensures_pure _).mpr ((ih _ middle).imp ?_)
          intro result later final outcome
          rcases outcome with ⟨refused?, course, undrawn, met⟩
          exact ⟨refused?, .accepted answered course, undrawn.trans drawn, met⟩
      | error fault =>
          obtain ⟨_, _, failed⟩ := settled_error answered
          have isDatabase := failsAsDatabase _ _ _ _ failed
          cases tolerates : (tolerance fault).1 with
          | true =>
              apply (ensures_settle_tolerated isDatabase tolerates sql count middle).bind
              · intro counted more next outcome
                rcases outcome with ⟨_, rfl, state_kept, next_drawn⟩
                apply (ih counted next).imp
                intro result later final outcome
                rcases outcome with ⟨refused?, course, undrawn, met⟩
                rw [state_kept] at course
                exact ⟨refused?, .tolerated answered tolerates course, undrawn.trans (next_drawn.trans drawn), met⟩
              · intro _ more next outcome
                rcases outcome with ⟨⟨counted, given⟩, _⟩
                cases given
          | false =>
              apply (ensures_settle_refused isDatabase tolerates sql count middle).bind
              · intro counted more next outcome
                cases outcome.1
              · intro own more next outcome
                rcases outcome with ⟨given, rfl, state_kept, next_drawn⟩
                refine ⟨some (sql, fault), ?_, next_drawn.trans drawn, given.symm ▸ ?_⟩
                · rw [List.append_nil, state_kept]
                  exact .refused answered tolerates
                · cases given
                  rfl

end Database

namespace Worker

open Compiler (kind?)

variable {σ : Type} (w : Worker σ)

/-- The statements that drop the table on the target, if there is one. -/
def dropScript (existing : Option Table) : List String :=
  match existing with
  | none => []
  | some existing => w.targetCompiler.deleteDdl existing

/-- What the statements of a rebuild are for, in order: the indexes of the table are dropped, then the table, then the
table is created, and then what belongs to it. -/
theorem kinds_of_script {source : Table} {created : List String} {draft : Draft} (existing : Option Table)
    (compiles : ((w.targetCompiler.createDdl source).run draft).1 = .ok created) :
    ∃ later, (w.dropScript existing ++ created).map kind? =
        (match existing with
          | none => []
          | some existing =>
            List.replicate (w.targetCompiler.ownIndexes existing).length (some .dropIndex) ++ [some .dropTable]) ++
          some .createTable :: later ∧
      ∀ kind ∈ later, kind ∈ [some .createIndex, some .comment, some .searchIndex, some .alterTable] := by
  obtain ⟨head, indexes, searches, rfl, opens, indexes_kind, searches_kind⟩ :=
    w.targetCompiler.gives_createDdl_parts source (w.targetCompiler.gives_structureDdl source) draft created compiles
  let later := indexes ++ w.targetCompiler.commentDdl source ++ (searches ++ w.targetCompiler.deferredKey source)
  refine ⟨later.map kind?, ?_, ?_⟩
  · rw [List.map_append]
    congr 1
    · cases existing with
      | none => rfl
      | some existing =>
          rw [dropScript, Compiler.deleteDdl, List.map_append, List.map_map, List.map_singleton]
          congr 1
          · apply List.eq_replicate_iff.mpr
            refine ⟨List.length_map .., ?_⟩
            intro kind member
            obtain ⟨index, _, rfl⟩ := List.mem_map.mp member
            exact w.targetCompiler.dropIndexDdl_kind existing index
          · exact congrArg (fun kind => [kind]) (Compiler.kind_of_opens (by decide) (Text.opens_append "DROP TABLE " _))
    · exact congrArg (· :: later.map kind?) (w.targetCompiler.creation_kind source opens)
  · intro kind member
    obtain ⟨sql, among, rfl⟩ := List.mem_map.mp member
    rcases List.mem_append.mp among with early | late
    · rcases List.mem_append.mp early with ofIndex | ofComment
      · simp [indexes_kind sql ofIndex]
      · simp [w.targetCompiler.commentDdl_kind source sql ofComment]
    · rcases List.mem_append.mp late with ofSearch | ofKey
      · simp [searches_kind sql ofSearch]
      · simp [w.targetCompiler.deferredKey_kind source sql ofKey]

/-- A run of the worker on the target takes the course of a list of statements. -/
abbrev Takes {α : Type} (statements : List String) (good : α → Prop) (world : World σ) :
    Except Fault α → List Event → World σ → Prop :=
  w.target.db.Takes w.compiler.tolerates w.compiler.transactional statements good world

theorem ensures_runDdl (failsAsDatabase : w.target.db.FailsAsDatabase) (table : String) (statements : List String)
    (world : World σ) : (w.runDdl table statements).Ensures world (w.Takes statements (fun _ => True) world) :=
  Database.ensures_takes_pure (Database.ensures_runBatch failsAsDatabase _ _ statements {} world) trivial

theorem ensures_dropExisting (failsAsDatabase : w.target.db.FailsAsDatabase) (name : String)
    (existing : Option Table) (world : World σ) :
    (w.dropExisting name existing).Ensures world
      (w.Takes (w.dropScript existing) (· = w.dropScript existing) world) := by
  cases existing with
  | none => exact (Job.ensures_pure _).mpr ⟨none, .done _, rfl, _, rfl, rfl⟩
  | some existing => exact Database.ensures_takes_pure (w.ensures_runDdl failsAsDatabase name _ world) rfl

theorem ensures_create (failsAsDatabase : w.target.db.FailsAsDatabase) {source : Table} {created : List String}
    {world : World σ} (compiles : ((w.targetCompiler.createDdl source).run world.draft).1 = .ok created) :
    (w.create source).Ensures world fun result events final =>
      ∃ start, start.state = world.state ∧ w.Takes created (· = created) start result events final := by
  let start : World σ := { world with draft := ((w.targetCompiler.createDdl source).run world.draft).2 }
  have sent : (do let _ ← w.runDdl source.name created; pure created : Job σ (List String)).Ensures start
      (w.Takes created (· = created) start) :=
    Database.ensures_takes_pure (w.ensures_runDdl failsAsDatabase source.name created start) rfl
  apply Job.ensures_bind
  rw [Job.ensures_draft, compiles]
  apply sent.imp
  intro result events final taken
  exact ⟨start, rfl, taken⟩

/-- How a rebuild ends whose statements are `script`, from a state of the databases. -/
inductive Rebuilt (source : Table) (script : List String) (state : σ) : Except Fault Table → List Event → Prop
  | refused {sent : List Event} {sql : String} {fault : Fault} {final : σ}
      (course : w.target.db.Course w.compiler.tolerates w.compiler.transactional script state sent
        (some (sql, fault)) final) :
      Rebuilt source script state (.error (Database.refusal sql fault)) sent
  | found {sent reads : List Event} {middle after : World σ} {table : Table}
      (course : w.target.db.Course w.compiler.tolerates w.compiler.transactional script state sent none middle.state)
      (read :
        (findTable w.target.db source.name w.target.config.schemaName).Runs middle (.ok (some table)) reads after) :
      Rebuilt source script state (.ok table) (sent ++ reads ++
        List.replicate (w.listeners.count .recorder) (.announced (.created w.bucket source.name script)))
  | missing {sent reads : List Event} {middle after : World σ}
      (course : w.target.db.Course w.compiler.tolerates w.compiler.transactional script state sent none middle.state)
      (read : (findTable w.target.db source.name w.target.config.schemaName).Runs middle (.ok none) reads after) :
      Rebuilt source script state (.error (notFound source.name)) (sent ++ reads)
  | unread {sent reads : List Event} {middle after : World σ} {fault : Fault}
      (course : w.target.db.Course w.compiler.tolerates w.compiler.transactional script state sent none middle.state)
      (read : (findTable w.target.db source.name w.target.config.schemaName).Runs middle (.error fault) reads after) :
      Rebuilt source script state (.error fault) (sent ++ reads)

/-- Behind the statements the table is read again, and is announced if it is found. -/
theorem ensures_confirmed {source : Table} {script : List String} {state : σ} {sent : List Event} {middle : World σ}
    (course : w.target.db.Course w.compiler.tolerates w.compiler.transactional script state sent none middle.state) :
    (do
      match ← findTable w.target.db source.name w.target.config.schemaName with
      | none => throw (notFound source.name)
      | some table =>
        w.announce (.created w.bucket source.name script)
        pure table : Job σ Table).Ensures middle fun result events _ =>
      w.Rebuilt source script state result (sent ++ events) := by
  have read : (findTable w.target.db source.name w.target.config.schemaName).Keeps (fun _ => True) _ :=
    keeps_findTable _ _ _ fun _ => trivial
  apply (read middle).runs.bind
  · intro found reads after outcome
    cases found with
    | none =>
        rw [Job.ensures_throw, List.append_nil]
        exact .missing course outcome.1
    | some table =>
        apply Job.ensures_bind
        apply (Job.ensures_announce _ _ _).imp
        intro result heard final told
        rcases told with ⟨rfl, rfl, _⟩
        rw [Job.ensures_pure, List.append_nil, ← List.append_assoc]
        exact .found course outcome.1
  · intro fault reads after outcome
    exact .unread course outcome.1

theorem ensures_rebuild (failsAsDatabase : w.target.db.FailsAsDatabase) {source : Table} {created : List String}
    {world : World σ} (existing : Option Table)
    (compiles : w.targetCompiler.statements source (w.targetCompiler.choicesFrom world.draft.drawn) = .ok created) :
    (w.rebuild source existing).Ensures world fun result events _ =>
      w.Rebuilt source (w.dropScript existing ++ created) world.state result events := by
  apply (w.ensures_dropExisting failsAsDatabase source.name existing world).bind
  · intro dropped events middle outcome
    rcases outcome with ⟨refused?, dropping, drawn, met⟩
    cases refused? with
    | some refusal => cases met
    | none =>
        obtain ⟨_, given, rfl⟩ := met
        cases given
        rw [← drawn, ← Compiler.run_createDdl] at compiles
        apply (w.ensures_create failsAsDatabase compiles).bind
        · intro _ more next outcome
          rcases outcome with ⟨start, state_kept, refused?, creating, _, met⟩
          cases refused? with
          | some refusal => cases met
          | none =>
              obtain ⟨_, given, rfl⟩ := met
              cases given
              rw [state_kept] at creating
              apply (w.ensures_confirmed (dropping.append creating)).imp
              intro result rest final rebuilt
              rwa [List.append_assoc] at rebuilt
        · intro fault more next outcome
          rcases outcome with ⟨start, state_kept, refused?, creating, _, met⟩
          cases refused? with
          | none =>
              obtain ⟨_, given, _⟩ := met
              cases given
          | some refusal =>
              cases met
              rw [state_kept] at creating
              exact .refused (dropping.append creating)
  · intro fault events middle outcome
    rcases outcome with ⟨refused?, dropping, drawn, met⟩
    cases refused? with
    | none =>
        obtain ⟨_, given, _⟩ := met
        cases given
    | some refusal =>
        cases met
        exact .refused (dropping.stop created)

theorem filterMap_read {db : Database σ} {name : String} {schema : Value} {middle after : World σ}
    {found : Except Fault (Option Table)} {reads : List Event}
    (read : (findTable db name schema).Runs middle found reads after) :
    reads.filterMap executed? = [] ∧ ∀ event, .announced event ∉ reads := by
  have reflects :
      (findTable db name schema).Keeps (fun event => ∃ table, event = .sent db.label (.reflect table schema)) _ :=
    keeps_findTable db name schema fun table => ⟨table, rfl⟩
  have each := (read.met (reflects middle)).1
  constructor
  · apply List.filterMap_eq_nil_iff.mpr
    intro event member
    obtain ⟨table, rfl⟩ := each event member
    rfl
  · intro event member
    obtain ⟨table, same⟩ := each _ member
    cases same

variable {w} {source : Table} {script : List String} {state : σ} {result : Except Fault Table} {events : List Event}

/-- All statements that are sent go to the target, in the order of the script and each once. -/
theorem Rebuilt.segment (rebuilt : w.Rebuilt source script state result events) :
    ∃ segment rest, script = segment ++ rest ∧
      events.filterMap executed? = segment.map (fun sql => (w.target.db.label, sql)) ∧
      (rest = [] ∨ ∃ before sql fault, segment = before ++ [sql] ∧ w.compiler.tolerates fault = false ∧
        result = .error (Database.refusal sql fault)) := by
  cases rebuilt with
  | @refused _ sql fault _ course =>
      obtain ⟨segment, rest, same, sent, ⟨before, ends⟩, untolerated⟩ := course.segment
      exact ⟨segment, rest, same, sent, Or.inr ⟨before, sql, fault, ends, untolerated, rfl⟩⟩
  | found course read =>
      obtain ⟨segment, rest, same, sent, ends⟩ := course.segment
      refine ⟨segment, rest, same, ?_, Or.inl ends⟩
      rw [List.filterMap_append, List.filterMap_append, sent, (filterMap_read read).1, List.append_nil,
        List.filterMap_replicate_of_none rfl, List.append_nil]
  | missing course read | unread course read =>
      obtain ⟨segment, rest, same, sent, ends⟩ := course.segment
      refine ⟨segment, rest, same, ?_, Or.inl ends⟩
      rw [List.filterMap_append, sent, (filterMap_read read).1, List.append_nil]

/-- The whole script is announced, and exactly if the table was found behind it. -/
theorem Rebuilt.announced_iff (rebuilt : w.Rebuilt source script state result events)
    (heard : .recorder ∈ w.listeners) (statements : List String) :
    .announced (.created w.bucket source.name statements) ∈ events ↔
      statements = script ∧ ∃ table, result = .ok table := by
  have unsent {tolerates : Fault → Bool} {savepoint : Bool} {sent : List Event} {refused? : Option (String × Fault)}
      {final : σ} (course : w.target.db.Course tolerates savepoint script state sent refused? final)
      (event : Lifecycle) : .announced event ∉ sent := by
    intro member
    obtain ⟨request, same⟩ := course.sent _ member
    cases same
  cases rebuilt with
  | refused course => simp [unsent course]
  | found course read =>
      have counted : w.listeners.count .recorder ≠ 0 := Nat.ne_of_gt (List.count_pos_iff.mpr heard)
      simp [unsent course, (filterMap_read read).2, counted, List.mem_replicate]
  | missing course read | unread course read => simp [unsent course, (filterMap_read read).2]

/-- The statements of a rebuild drop the indexes of the table on the target, then the table, create it, and then what
belongs to it. They are sent in this order, each once, to the end or up to the first one that is refused, with which the
rebuild fails; and all of them are announced exactly if the table is found behind them. -/
theorem rebuild_follows_script (w : Worker σ) (failsAsDatabase : w.target.db.FailsAsDatabase) (source : Table)
    (existing : Option Table) {created : List String} (world : World σ)
    (compiles : w.targetCompiler.statements source (w.targetCompiler.choicesFrom world.draft.drawn) = .ok created) :
    let script := w.dropScript existing ++ created
    (∃ later, script.map kind? =
        (match existing with
          | none => []
          | some existing =>
            List.replicate (w.targetCompiler.ownIndexes existing).length (some .dropIndex) ++ [some .dropTable]) ++
          some .createTable :: later ∧
      ∀ kind ∈ later, kind ∈ [some .createIndex, some .comment, some .searchIndex, some .alterTable]) ∧
    (w.rebuild source existing).Ensures world fun result events _ =>
      w.Rebuilt source script world.state result events ∧
      (∃ segment rest, script = segment ++ rest ∧
        events.filterMap executed? = segment.map (fun sql => (w.target.db.label, sql)) ∧
        (rest = [] ∨ ∃ before sql fault, segment = before ++ [sql] ∧ w.compiler.tolerates fault = false ∧
          result = .error (Database.refusal sql fault))) ∧
      (.recorder ∈ w.listeners → ∀ statements, .announced (.created w.bucket source.name statements) ∈ events ↔
        statements = script ∧ ∃ table, result = .ok table) := by
  intro script
  refine ⟨?_, (w.ensures_rebuild failsAsDatabase existing compiles).imp ?_⟩
  · rw [← Compiler.run_createDdl] at compiles
    exact w.kinds_of_script existing compiles
  · intro result events final rebuilt
    exact ⟨rebuilt, rebuilt.segment, rebuilt.announced_iff⟩

/-- A table with an index. -/
def indexedNotes : Table :=
  { Table.numbered "notes" with indexes := [{ name := some "by_id", table := some "notes", columns := ["id"] }] }

/-- A database that has every index already. -/
def fullOfIndexes : Database Unit :=
  { Database.still "dst" "sqlite" (fun name => some (Database.onlyId name)) (fun _ => []) with
    execute := fun sql state =>
      if Text.hasStart sql "CREATE INDEX " then (.error (.single .database "index IDX_notes_id already exists"), state)
      else (.ok .null, state) }

theorem rebuild_follows_script_indexedNotes :
    let w := Worker.between .sqlite (Database.still "src" "sqlite" (fun _ => none) fun _ => []) fullOfIndexes
    let script := ["DROP INDEX \"by_id\"", "DROP TABLE \"notes\"", "CREATE TABLE \"notes\" (\"id\" INTEGER NULL)",
      "CREATE INDEX \"IDX_notes_id\" ON \"notes\" (\"id\")"]
    (w.rebuild indexedNotes (some indexedNotes)).Ensures { state := (), now := fun _ => .zero false }
      fun result events _ => w.Rebuilt indexedNotes script () result events := by
  intro w script
  have failsAsDatabase : w.target.db.FailsAsDatabase := by
    intro sql state fault next answered
    change (if Text.hasStart sql "CREATE INDEX " then _ else _) = _ at answered
    split at answered <;> cases answered
    rfl
  have dropped : w.dropScript (some indexedNotes) = ["DROP INDEX \"by_id\"", "DROP TABLE \"notes\""] := by
    decide +kernel
  have compiles : w.targetCompiler.statements indexedNotes (w.targetCompiler.choicesFrom 0) =
      .ok ["CREATE TABLE \"notes\" (\"id\" INTEGER NULL)", "CREATE INDEX \"IDX_notes_id\" ON \"notes\" (\"id\")"] :=
    Job.ok_of_toOption (by decide +kernel)
  obtain ⟨_, follows⟩ := rebuild_follows_script w failsAsDatabase indexedNotes (some indexedNotes)
    { state := (), now := fun _ => .zero false } compiles
  rw [dropped] at follows
  exact follows.imp fun _ _ _ outcome => outcome.1

end Worker

end TableFerry
