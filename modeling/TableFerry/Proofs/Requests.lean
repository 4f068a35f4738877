import TableFerry.Proofs.Jobs
import TableFerry.Transfer.Worker
/-! What single requests and announcements add to the trace. -/

namespace TableFerry.Event

/-- The page that is asked for, and of whom. -/
def pageQuery? : Event → Option (String × PageQuery)
  | .sent label (.page query) => some (label, query)
  | _ => none

/-- The statement or the insertion that is sent, and to whom. -/
def statement? : Event → Option (String × Request)
  | .sent label (.execute sql) => some (label, .execute sql)
  | .sent label (.insert statement rows) => some (label, .insert statement rows)
  | _ => none

/-- The number of rows of a page that is announced as copied. -/
def copiedRows? : Event → Option Int
  | .announced (.pageCopied _ _ _ _ rows) => some rows
  | _ => none

end TableFerry.Event

namespace TableFerry.Job

variable {σ : Type} {allowed : Event → Prop}

/-! Announcements. Only the recorder leaves a mark in the trace. -/

theorem ensures_tell (event : Lifecycle) (listener : Listener) (world : World σ) :
    (tell event listener).Ensures world fun result events final =>
      result = .ok () ∧ events = List.replicate ([listener].count .recorder) (.announced event) ∧
        final.state = world.state ∧ final.stage = world.stage := by
  cases listener with
  | recorder => exact (ensures_trace _).mpr ⟨rfl, rfl, rfl, rfl⟩
  | logger => exact (ensures_noteAll _).mpr ⟨rfl, rfl, rfl, rfl⟩
  | reporter =>
      apply ensures_bind
      rw [ensures_clock]
      exact (ensures_modify rfl).mpr ⟨rfl, rfl, rfl, rfl⟩

theorem ensures_announce (listeners : List Listener) (event : Lifecycle) (world : World σ) :
    (announce listeners event).Ensures world fun result events final =>
      result = .ok () ∧ events = List.replicate (listeners.count .recorder) (.announced event) ∧
        final.state = world.state ∧ final.stage = world.stage := by
  induction listeners generalizing world with
  | nil => exact (ensures_pure _).mpr ⟨rfl, rfl, rfl, rfl⟩
  | cons head tail ih =>
      change (tell event head >>= fun _ => announce tail event).Ensures _ _
      apply ensures_bind
      apply (ensures_tell event head world).imp
      intro result events middle outcome
      rcases outcome with ⟨rfl, rfl, state_kept, stage_kept⟩
      apply (ih middle).imp
      intro result more final outcome
      rcases outcome with ⟨rfl, rfl, state_same, stage_same⟩
      refine ⟨rfl, ?_, state_same.trans state_kept, stage_same.trans stage_kept⟩
      rw [List.replicate_append_replicate, ← List.count_append, List.singleton_append]

theorem keeps_announce {event : Lifecycle} (listeners : List Listener)
    (heard : allowed (.announced event)) :
    (announce listeners event : Job σ Unit).Keeps allowed fun _ => True := by
  intro world
  apply (ensures_announce listeners event world).imp
  intro result events final outcome
  rcases outcome with ⟨_, rfl, _, _⟩
  exact ⟨fun _ member => List.eq_of_mem_replicate member ▸ heard, fun _ _ => trivial⟩

theorem performs_announcement {kept : σ → Prop} (listeners : List Listener) (event : Lifecycle) :
    (announce listeners event : Job σ Unit).Performs kept ()
      (List.replicate (listeners.count .recorder) (.announced event)) := by
  intro world start
  apply (ensures_announce listeners event world).imp
  intro result added final outcome
  rcases outcome with ⟨rfl, rfl, state_kept, _⟩
  rw [state_kept]
  exact ⟨rfl, rfl, start⟩

theorem performs_announce {kept : σ → Prop} {listeners : List Listener}
    (recorded : listeners.count .recorder = 1) (event : Lifecycle) :
    (announce listeners event : Job σ Unit).Performs kept () [.announced event] := by
  have announced : (announce listeners event : Job σ Unit).Performs kept () _ :=
    performs_announcement listeners event
  rwa [recorded] at announced

end TableFerry.Job

namespace TableFerry.Database

variable {σ : Type} {allowed : Event → Prop}

/-- A table as a catalogue describes it that has one column and nothing else. -/
def onlyId (name : String) : ReflectedTable := { name := name, columns := [{ name := "id", type := {} }] }

/-- A database that accepts every statement and whose tables and rows never change. -/
def still (label dialectName : String) (tables : String → Option ReflectedTable)
    (rows : PageQuery → List Row) : Database σ where
  label := label
  dialectName := dialectName
  versionInfo := .null
  connect := fun state => (.ok (), state)
  tableNames := fun _ state => (.ok [], state)
  reflect := fun table _ state => (.ok (tables table), state)
  execute := fun _ state => (.ok .null, state)
  page := fun query state => (.ok (rows query), state)
  insert := fun _ _ state => (.ok (), state)
  begin := fun state => (.ok (), state)
  commit := fun state => (.ok (), state)
  rollback := fun state => (.ok (), state)
  savepoint := id
  release := id
  rollbackTo := id

end TableFerry.Database

namespace TableFerry

/-- A table with one column of whole numbers. -/
def Table.numbered (name : String) : Table :=
  { name := name, columns := [{ name := "id", typeName := some "INTEGER", category := .integer }] }

/-- A worker under the usual strategy, from an SQLite database to one of some engine. -/
def Worker.between {σ : Type} (engine : Engine) (source target : Database σ) : Worker σ where
  source := {
    config := { id := .text "here", url := .text "u", user := .text "u", password := .text "p", engine := .sqlite }
    db := source }
  target := {
    config := { id := .text "there", url := .text "u", user := .text "u", password := .text "p", engine := engine }
    db := target }
  compiler := { engine := engine, config := none }
  strategy := {}
  listeners := [.recorder]

end TableFerry

namespace TableFerry.Database

variable {σ : Type} {allowed : Event → Prop}

theorem keeps_run (db : Database σ) {sql : String} (executes : allowed (.sent db.label (.execute sql))) :
    (db.run sql).Keeps allowed fun _ => True := by
  apply (Job.keeps_note _ _).bind
  intro _ _
  apply (Job.keeps_send executes).bind
  intro _ _
  exact Job.keeps_answer _

theorem keeps_withSavepoint {α : Type} {good : α → Prop} {job : Job σ α} (db : Database σ)
    (kept : job.Keeps allowed good) (enters : allowed (.sent db.label .savepoint))
    (leaves : allowed (.sent db.label .release)) (undoes : allowed (.sent db.label .rollbackTo)) :
    (db.withSavepoint job).Keeps allowed good :=
  db.keeps_bracket kept enters leaves undoes

theorem keeps_settle (tolerance : Tolerance) (sql : String) (result : BatchResult)
    (answered : Except Fault Unit) :
    (settle tolerance sql result answered : Job σ BatchResult).Keeps allowed fun _ => True := by
  cases answered with
  | ok value => exact Job.keeps_pure trivial
  | error fault =>
      unfold settle
      dsimp only
      split
      · exact Job.keeps_throw_bind fault _
      · apply (Job.keeps_noteAll _).bind
        intro _ _
        split
        · apply (Job.keeps_note _ _).bind
          intro _ _
          exact Job.keeps_pure trivial
        · exact Job.keeps_throw _

theorem keeps_runBatch (db : Database σ) (tolerance : Tolerance) (savepoint : Bool)
    (statements : List String) (result : BatchResult)
    (executes : ∀ sql ∈ statements, allowed (.sent db.label (.execute sql)))
    (enters : allowed (.sent db.label .savepoint)) (leaves : allowed (.sent db.label .release))
    (undoes : allowed (.sent db.label .rollbackTo)) :
    (db.runBatch tolerance savepoint statements result).Keeps allowed fun _ => True := by
  induction statements generalizing result with
  | nil => exact Job.keeps_pure trivial
  | cons head tail ih =>
      have statement : (do let _ ← db.run head : Job σ Unit).Keeps allowed fun _ => True := by
        apply (db.keeps_run (executes head List.mem_cons_self)).bind
        intro _ _
        exact Job.keeps_pure trivial
      have guarded : (if savepoint then db.withSavepoint (do let _ ← db.run head)
          else do let _ ← db.run head : Job σ Unit).Keeps allowed fun _ => True := by
        split
        · exact db.keeps_withSavepoint statement enters leaves undoes
        · exact statement
      rw [runBatch]
      apply guarded.attempt.bind
      intro answered _
      apply (keeps_settle tolerance head result answered).bind
      intro result _
      exact ih result fun sql member => executes sql (List.mem_cons_of_mem _ member)

theorem keeps_number (db : Database σ) {sql : String}
    (executes : allowed (.sent db.label (.execute sql))) :
    (db.number sql).Keeps allowed fun _ => True := by
  apply (db.keeps_run executes).bind
  intro value _
  split
  · exact Job.keeps_ofExcept fun _ _ => trivial
  · exact Job.keeps_pure trivial

theorem keeps_pageOf (db : Database σ) (sql : String) (index size : Nat) (order : List String)
    (asks : ∀ order limit offset, allowed (.sent db.label (.page ⟨sql, order, limit, offset⟩))) :
    (db.pageOf sql index size order).Keeps allowed fun _ => True := by
  apply (Job.keeps_send (asks _ _ _)).bind
  intro _ _
  exact Job.keeps_answer _

theorem keeps_insertRows (db : Database σ) (table : String) (rows : List Row)
    (inserts : ∀ columns params, allowed (.sent db.label (.insert (insertText table columns) params))) :
    (db.insertRows table rows).Keeps allowed fun _ => True := by
  cases rows with
  | nil => exact Job.keeps_pure trivial
  | cons first rest =>
      apply (Job.keeps_send (inserts _ _)).bind
      intro _ _
      apply (Job.keeps_answer _).bind
      intro _ _
      exact Job.keeps_pure trivial

theorem checked_name {table checked : Table} (passed : table.checked = .ok checked) :
    checked = table := by
  unfold Table.checked at passed
  split at passed
  · cases passed
  · cases passed
    rfl

theorem keeps_snapshot (db : Database σ) (table : String) (schema : Value)
    (reflects : allowed (.sent db.label (.reflect table schema))) :
    (db.snapshot table schema).Keeps allowed fun found => ∀ snapshot ∈ found, snapshot.name = table := by
  apply (Job.keeps_send reflects).bind
  intro _ _
  apply (Job.keeps_answer _).bind
  intro answered _
  cases answered with
  | none => exact Job.keeps_pure fun _ member => nomatch member
  | some reflected =>
      dsimp only
      split
      · exact Job.keeps_pure fun _ member => nomatch member
      · apply (Job.keeps_noteAll _).bind
        intro _ _
        apply (Job.keeps_ofExcept fun _ passed => checked_name passed).bind
        intro _ same
        rcases same with rfl
        apply Job.keeps_pure
        intro _ same
        cases same
        rfl

end TableFerry.Database

namespace TableFerry.Worker

variable {σ : Type} {allowed : Event → Prop}

theorem keeps_findTable (db : Database σ) (name : String) (schema : Value)
    (reflects : ∀ table, allowed (.sent db.label (.reflect table schema))) :
    (findTable db name schema).Keeps allowed fun found =>
      ∀ table ∈ found, table.name = name ∨ table.name = Text.upper name := by
  apply (db.keeps_snapshot name schema (reflects name)).bind
  intro found named
  cases found with
  | some table =>
      apply Job.keeps_pure
      intro snapshot member
      exact Or.inl (named snapshot member)
  | none =>
      dsimp only
      split
      · apply (db.keeps_snapshot (Text.upper name) schema (reflects _)).imp
        intro found named table member
        exact Or.inr (named table member)
      · exact Job.keeps_pure fun _ member => nomatch member

/-! Steps of a worker, when all events but the statements of a rebuild and of a copy are known to be allowed. -/

/-- The requests with which a worker reads its source under a condition. -/
inductive Asks (condition : Option String) : Request → Prop
  | connect : Asks condition .connect
  | close : Asks condition .close
  | reflect (table : String) (schema : Value) : Asks condition (.reflect table schema)
  | count (table : String) : Asks condition (.execute (query "count(*)" table condition))
  | page (table : String) (order : List String) (limit offset : Nat) :
      Asks condition (.page ⟨query "*" table condition, order, limit, offset⟩)

/-- The requests with which a worker looks at its target and goes back to where it was. -/
inductive Tends : Request → Prop
  | reflect (table : String) (schema : Value) : Tends (.reflect table schema)
  | savepoint : Tends .savepoint
  | release : Tends .release
  | rollbackTo : Tends .rollbackTo

/-- The requests with which a worker replaces the rows of a table of its target. -/
inductive Fills (table : String) : Request → Prop
  | empty : Fills table (.execute s!"delete from {table}")
  | insert (columns : List String) (rows : List Row) : Fills table (.insert (Database.insertText table columns) rows)

/-- Reads of the source, looks at the target, and the announcements of a rebuild and a copy are allowed. -/
structure Allows (w : Worker σ) (condition : Option String) (allowed : Event → Prop) : Prop where
  asks : ∀ request, Asks condition request → allowed (.sent w.source.db.label request)
  tends : ∀ request, Tends request → allowed (.sent w.target.db.label request)
  created : ∀ table statements, allowed (.announced (.created w.bucket table statements))
  pageCopied : ∀ table page pages rows, allowed (.announced (.pageCopied w.bucket table page pages rows))

variable {w : Worker σ} {condition : Option String}

theorem Allows.keeps_withConnection {α : Type} {good : α → Prop} {job : Job σ α}
    (allows : w.Allows condition allowed) (kept : job.Keeps allowed good) :
    (w.source.db.withConnection job).Keeps allowed good :=
  w.source.db.keeps_withConnection kept (allows.asks _ .connect) (allows.asks _ .close)

theorem Allows.keeps_findSource (allows : w.Allows condition allowed) (name : String) (schema : Value) :
    (findTable w.source.db name schema).Keeps allowed fun found =>
      ∀ table ∈ found, table.name = name ∨ table.name = Text.upper name :=
  Worker.keeps_findTable _ name schema fun _ => allows.asks _ (.reflect _ schema)

theorem Allows.keeps_findTarget (allows : w.Allows condition allowed) (name : String) (schema : Value) :
    (findTable w.target.db name schema).Keeps allowed fun found =>
      ∀ table ∈ found, table.name = name ∨ table.name = Text.upper name :=
  Worker.keeps_findTable _ name schema fun _ => allows.tends _ (.reflect _ schema)

theorem Allows.keeps_inSavepoint {α : Type} {good : α → Prop} {job : Job σ α}
    (allows : w.Allows condition allowed) (kept : job.Keeps allowed good) :
    (w.inSavepoint job).Keeps allowed good := by
  unfold inSavepoint
  split
  · exact w.target.db.keeps_withSavepoint kept (allows.tends _ .savepoint) (allows.tends _ .release)
      (allows.tends _ .rollbackTo)
  · exact kept

theorem keeps_atPage {α : Type} {good : α → Prop} {job : Job σ α} (copying : Copying) (page : Nat)
    (kept : job.Keeps allowed good) : (atPage copying page job).Keeps allowed good := by
  apply kept.attempt.bind
  intro result result_good
  cases result with
  | ok value => exact Job.keeps_pure (result_good value rfl)
  | error fault =>
      dsimp only
      split
      · exact Job.keeps_throw _
      · exact Job.keeps_throw fault

theorem Allows.keeps_rowCount (allows : w.Allows condition allowed) (table : SizedTable)
    (sourceName : String) : (w.rowCount table sourceName condition).Keeps allowed fun _ => True := by
  unfold rowCount
  split
  · exact Job.keeps_pure trivial
  · exact w.source.db.keeps_number (allows.asks _ (.count sourceName))

section Copy

variable {copying : Copying}

theorem Allows.keeps_copyPage (allows : w.Allows condition allowed)
    (asks : ∀ order limit offset,
      allowed (.sent w.source.db.label (.page ⟨copying.rowQuery, order, limit, offset⟩)))
    (fills : ∀ request, Fills copying.targetName request → allowed (.sent w.target.db.label request))
    (page pages : Nat) : (w.copyPage copying page pages).Keeps allowed fun _ => True := by
  apply (w.source.db.keeps_pageOf _ _ _ _ asks).bind
  intro rows _
  apply (w.target.db.keeps_insertRows _ _ fun columns rows => fills _ (.insert columns rows)).bind
  intro inserted _
  apply (Job.keeps_announce _ (allows.pageCopied _ _ _ _)).bind
  intro _ _
  exact Job.keeps_pure trivial

theorem Allows.keeps_copyPages (allows : w.Allows condition allowed)
    (asks : ∀ order limit offset,
      allowed (.sent w.source.db.label (.page ⟨copying.rowQuery, order, limit, offset⟩)))
    (fills : ∀ request, Fills copying.targetName request → allowed (.sent w.target.db.label request))
    (pages left page copied : Nat) :
    (w.copyPages copying pages left page copied).Keeps allowed fun _ => True := by
  induction left generalizing page copied with
  | zero => exact Job.keeps_pure trivial
  | succ left ih =>
      apply (keeps_atPage copying page (allows.keeps_copyPage asks fills page pages)).bind
      intro inserted _
      exact ih (page + 1) (copied + inserted)

theorem Allows.keeps_fill (allows : w.Allows condition allowed)
    (asks : ∀ order limit offset,
      allowed (.sent w.source.db.label (.page ⟨copying.rowQuery, order, limit, offset⟩)))
    (fills : ∀ request, Fills copying.targetName request → allowed (.sent w.target.db.label request))
    (count : Int) : (w.fill copying count).Keeps allowed fun _ => True := by
  apply (w.target.db.keeps_run (fills _ .empty)).bind
  intro _ _
  split
  · apply (Job.keeps_note _ _).bind
    intro _ _
    exact Job.keeps_pure trivial
  · exact allows.keeps_copyPages asks fills _ _ _ _

end Copy

theorem Allows.keeps_copyRows (allows : w.Allows condition allowed) (table : SizedTable) (source target : Table)
    (fills : ∀ request, Fills (w.targetCompiler.qualify source.name) request →
      allowed (.sent w.target.db.label request)) :
    (w.copyRows table source target condition).Keeps allowed fun _ => True := by
  apply (Job.keeps_ofExcept fun _ _ => trivial).bind
  intro sourceName _
  apply (Job.keeps_ofExcept fun _ _ => trivial).bind
  intro order _
  apply (Job.keeps_noteAll _).bind
  intro _ _
  apply keeps_atPage
  apply allows.keeps_withConnection
  apply (allows.keeps_rowCount table sourceName).bind
  intro count _
  exact allows.keeps_fill (fun _ _ _ => allows.asks _ (.page sourceName _ _ _)) fills count

theorem Allows.keeps_runDdl (allows : w.Allows condition allowed) (table : String) {statements : List String}
    (executes : ∀ sql ∈ statements, allowed (.sent w.target.db.label (.execute sql))) :
    (w.runDdl table statements).Keeps allowed fun _ => True := by
  apply (w.target.db.keeps_runBatch _ _ _ _ executes (allows.tends _ .savepoint) (allows.tends _ .release)
    (allows.tends _ .rollbackTo)).bind
  intro _ _
  exact Job.keeps_pure trivial

theorem Allows.keeps_dropExisting (allows : w.Allows condition allowed) (name : String)
    (existing : Option Table)
    (drops : ∀ table ∈ existing, ∀ sql ∈ w.targetCompiler.deleteDdl table,
      allowed (.sent w.target.db.label (.execute sql))) :
    (w.dropExisting name existing).Keeps allowed fun _ => True := by
  cases existing with
  | none => exact Job.keeps_pure trivial
  | some existing =>
      apply (allows.keeps_runDdl name (drops existing rfl)).bind
      intro _ _
      exact Job.keeps_pure trivial

theorem Allows.keeps_create (allows : w.Allows condition allowed) (source : Table)
    (creates : ∀ draft statements, ((w.targetCompiler.createDdl source).run draft).1 = .ok statements →
      ∀ sql ∈ statements, allowed (.sent w.target.db.label (.execute sql))) :
    (w.create source).Keeps allowed fun _ => True := by
  apply (Job.keeps_draft creates).bind
  intro statements statements_allowed
  apply (allows.keeps_runDdl source.name statements_allowed).bind
  intro _ _
  exact Job.keeps_pure trivial

theorem Allows.keeps_rebuild (allows : w.Allows condition allowed) (source : Table) (existing : Option Table)
    (drops : ∀ table ∈ existing, ∀ sql ∈ w.targetCompiler.deleteDdl table,
      allowed (.sent w.target.db.label (.execute sql)))
    (creates : ∀ draft statements, ((w.targetCompiler.createDdl source).run draft).1 = .ok statements →
      ∀ sql ∈ statements, allowed (.sent w.target.db.label (.execute sql))) :
    (w.rebuild source existing).Keeps allowed fun _ => True := by
  apply (allows.keeps_dropExisting source.name existing drops).bind
  intro dropped _
  apply (allows.keeps_create source creates).bind
  intro created _
  apply (allows.keeps_findTarget _ _).bind
  intro found _
  cases found with
  | none => exact Job.keeps_throw _
  | some table =>
      apply (Job.keeps_announce _ (allows.created _ _)).bind
      intro _ _
      exact Job.keeps_pure trivial

/-! Whole tables and buckets. -/

theorem Allows.keeps_moveContents (allows : w.Allows condition allowed)
    (announces : ∀ event, allowed (.announced event)) (table : SizedTable)
    (drops : ∀ existing : Table, existing.name = table.name ∨ existing.name = Text.upper table.name →
      ∀ sql ∈ w.targetCompiler.deleteDdl existing, allowed (.sent w.target.db.label (.execute sql)))
    (creates : ∀ source : Table, source.name = table.name ∨ source.name = Text.upper table.name →
      ∀ draft statements, ((w.targetCompiler.createDdl source).run draft).1 = .ok statements →
        ∀ sql ∈ statements, allowed (.sent w.target.db.label (.execute sql)))
    (fills : ∀ name, name = table.name ∨ name = Text.upper table.name →
      ∀ request, Fills (w.targetCompiler.qualify name) request → allowed (.sent w.target.db.label request)) :
    (w.moveContents table condition).Keeps allowed fun _ => True := by
  have skip (reason : String) : (do
      w.announce (.skipped w.bucket table.name reason)
      pure none : Job σ (Option Nat)).Keeps allowed fun _ => True := by
    apply (Job.keeps_announce _ (announces _)).bind
    intro _ _
    exact Job.keeps_pure trivial
  apply (Job.keeps_enter _).bind
  intro _ _
  apply (allows.keeps_withConnection (allows.keeps_findSource _ _)).bind
  intro found source_named
  cases found with
  | none =>
      apply (Job.keeps_note _ _).bind
      intro _ _
      exact skip _
  | some source =>
      apply (Job.keeps_enter _).bind
      intro _ _
      apply (allows.keeps_findTarget _ _).bind
      intro existing existing_named
      split
      · apply (Job.keeps_note _ _).bind
        intro _ _
        exact skip _
      · apply (Job.keeps_enter _).bind
        intro _ _
        apply (allows.keeps_rebuild source existing (fun table member => drops table (existing_named table member))
          (creates source (source_named source rfl))).bind
        intro target _
        split
        · exact Job.keeps_pure trivial
        · apply (Job.keeps_enter _).bind
          intro _ _
          apply (allows.keeps_copyRows table source target (fills _ (source_named source rfl))).bind
          intro rows _
          apply (Job.keeps_enter _).bind
          intro _ _
          exact Job.keeps_pure trivial

theorem keeps_endFailed (announces : ∀ event, allowed (.announced event)) (name : String) (fault : Fault) :
    (w.endFailed name fault).Keeps allowed fun _ => True := by
  unfold endFailed
  cases fault.kind.isHandled with
  | false => exact Job.keeps_throw_bind fault _
  | true =>
      apply Job.keeps_get.bind
      intro world _
      apply (Job.keeps_noteAll _).bind
      intro _ _
      split
      · apply (Job.keeps_announce _ (announces _)).bind
        intro _ _
        exact Job.keeps_pure trivial
      · apply (Job.keeps_announce _ (announces _)).bind
        intro _ _
        cases w.strategy.continueOnError.truthy with
        | true => exact Job.keeps_pure trivial
        | false => exact Job.keeps_throw_bind fault _

theorem Allows.keeps_moveTable (allows : w.Allows condition allowed)
    (announces : ∀ event, allowed (.announced event)) (table : SizedTable) (position total : Int)
    (contents : (w.moveContents table condition).Keeps allowed fun _ => True) :
    (w.moveTable table position total condition).Keeps allowed fun _ => True := by
  apply (Job.keeps_enter _).bind
  intro _ _
  apply (Job.keeps_announce _ (announces _)).bind
  intro _ _
  split
  · apply (Job.keeps_announce _ (announces _)).bind
    intro _ _
    exact Job.keeps_pure trivial
  · apply Job.keeps_clock.bind
    intro started _
    apply (allows.keeps_inSavepoint contents).attempt.bind
    intro result _
    split
    · exact keeps_endFailed announces _ _
    · exact Job.keeps_pure trivial
    · apply Job.keeps_clock.bind
      intro now _
      apply (Job.keeps_announce _ (announces _)).bind
      intro _ _
      exact Job.keeps_pure trivial

theorem Allows.keeps_moveTables (allows : w.Allows condition allowed)
    (announces : ∀ event, allowed (.announced event)) (tables : List SizedTable)
    (contents : ∀ table ∈ tables, (w.moveContents table condition).Keeps allowed fun _ => True) :
    (w.moveTables tables condition).Keeps allowed fun _ => True := by
  have every (total position : Int) : (w.moveFrom total condition position tables).Keeps allowed fun _ => True := by
    induction tables generalizing position with
    | nil => exact Job.keeps_pure trivial
    | cons head tail ih =>
        apply (allows.keeps_moveTable announces head position total (contents head List.mem_cons_self)).bind
        intro ok _
        apply (ih (fun table member => contents table (List.mem_cons_of_mem _ member)) (position + 1)).bind
        intro failed _
        exact Job.keeps_pure trivial
  exact every tables.length 1

end TableFerry.Worker
