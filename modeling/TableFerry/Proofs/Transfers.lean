import TableFerry.Proofs.TableLifecycle
/-! What holds of every transfer because it holds of every request. A relation between the world before and the
world behind that the requests of a session and the announcements respect is respected by the transfer of a table,
and by that of a bucket if failures do not break it. One table is all that its contents come to and how it is
closed then. -/

/-- Whether an event is about a table and not about a whole bucket. -/
def TableFerry.Lifecycle.isOfTable : TableFerry.Lifecycle → Bool
  | .bucketFinished .. => false
  | _ => true

/-- An event in the course of a table with one of these names. A creation and a page are told under the name that the
table has on its source, which may be the name in upper case. -/
def TableFerry.Lifecycle.Concerns (names : String → Prop) : TableFerry.Lifecycle → Prop
  | .started _ name _ _ | .skipped _ name _ | .succeeded _ name _ _ _ _ | .tolerated _ name _ _
  | .failed _ name _ _ => names name
  | .created .. | .pageCopied .. => True
  | .bucketFinished .. => False

theorem TableFerry.Lifecycle.Concerns.isOfTable {names : String → Prop} {event : TableFerry.Lifecycle}
    (concerned : event.Concerns names) : event.isOfTable = true := by
  cases event with
  | bucketFinished => exact concerned.elim
  | started | skipped | created | pageCopied | succeeded | tolerated | failed => rfl

namespace TableFerry.Job.Closed

variable {σ α : Type} {relation : Bool → World σ → List Event → World σ → Prop} {db : Database σ}

/-! Requests, when what they send and how they are answered lead on by the relation. -/

theorem withConnection (closed : Closed relation) (sends : ∀ request, request = .connect ∨ request = .close →
      (db.send request).Follows relation)
    (connects : (answer db.connect).Follows relation) {job : Job σ α} (follows : job.Follows relation) :
    (db.withConnection job).Follows relation := by
  apply closed.bind connects
  intro _
  apply closed.bind (sends .connect (Or.inl rfl))
  intro _
  exact closed.finally follows (sends .close (Or.inr rfl)) fun _ => (ensures_send _ _).mpr rfl

theorem run (closed : Closed relation) {sql : String} (sends : (db.send (.execute sql)).Follows relation)
    (executes : (answer (db.execute sql)).Follows relation) : (db.run sql).Follows relation := by
  apply closed.bind (closed.note _ _)
  intro _
  apply closed.bind sends
  intro _
  exact executes

theorem pageOf (closed : Closed relation) (sends : ∀ query, (db.send (.page query)).Follows relation)
    (pages : ∀ query, (answer (db.page query)).Follows relation) (sql : String) (index size : Nat)
    (order : List String) : (db.pageOf sql index size order).Follows relation := by
  apply closed.bind (sends _)
  intro _
  exact pages _

theorem snapshot (closed : Closed relation) {table : String} {schema : Value}
    (sends : (db.send (.reflect table schema)).Follows relation)
    (reflects : (answer (db.reflect table schema)).Follows relation) :
    (db.snapshot table schema).Follows relation := by
  apply closed.bind sends
  intro _
  apply closed.bind reflects
  intro answered
  cases answered with
  | none => exact closed.pure _
  | some reflected =>
      dsimp only
      split
      · exact closed.pure _
      · apply closed.bind (closed.noteAll _)
        intro _
        apply closed.bind (closed.ofExcept _)
        intro _
        exact closed.pure _

end TableFerry.Job.Closed

namespace TableFerry

/-- Whether a request begins or ends a transaction. -/
def Request.isTransaction : Request → Bool
  | .begin | .commit | .rollback => true
  | _ => false

def Request.isInsertion : Request → Bool
  | .insert .. => true
  | _ => false

end TableFerry

namespace TableFerry.Job

variable {σ α : Type} {fits : Request → Prop} {relation : Bool → World σ → List Event → World σ → Prop}

/-- A closed relation that sees neither failures nor the state of the databases, and that the requests which fit
lead on by. -/
structure Blind (fits : Request → Prop) (relation : Bool → World σ → List Event → World σ → Prop) : Prop
    extends Closed relation where
  mends : ∀ {world events final}, relation false world events final → relation true world events final
  changes : ∀ world state, relation true world [] { world with state := state }
  sends : ∀ world label request, fits request →
    relation true world [.sent label request] { world with trace := world.trace ++ [.sent label request] }

namespace Blind

variable (blind : Blind fits relation)

include blind

theorem change (f : σ → σ) : (Job.change f).Follows relation :=
  fun world => (ensures_change f).mpr (blind.changes world _)

theorem answer (f : Answer σ α) : (Job.answer f).Follows relation := by
  intro world
  rw [ensures_answer]
  cases (f world.state).1 with
  | ok value => exact blind.changes world _
  | error fault => exact blind.breaks (blind.changes world _)

theorem send (db : Database σ) {request : Request} (fit : fits request) : (db.send request).Follows relation :=
  fun world => (ensures_send db request).mpr (blind.sends world db.label request fit)

theorem bracket (db : Database σ) {enter leave undo : Request} {onEnter onLeave onUndo : σ → σ} {job : Job σ α}
    (follows : job.Follows relation) (enters : fits enter) (leaves : fits leave) (undoes : fits undo) :
    (db.bracket enter leave undo onEnter onLeave onUndo job).Follows relation := by
  apply blind.bind (blind.send db enters)
  intro _
  apply blind.bind (blind.change onEnter)
  intro _
  apply blind.bind (follows.attempt blind.mends)
  intro result
  cases result with
  | ok value =>
      apply blind.bind (blind.send db leaves)
      intro _
      apply blind.bind (blind.change onLeave)
      intro _
      exact blind.pure value
  | error fault =>
      apply blind.bind (blind.send db undoes)
      intro _
      apply blind.bind (blind.change onUndo)
      intro _
      exact blind.throw fault

theorem withTransaction (db : Database σ) {job : Job σ α} (follows : job.Follows relation)
    (sends : ∀ request, request.isTransaction = true → fits request) :
    (db.withTransaction job).Follows relation := by
  apply blind.bind (blind.send db (sends .begin rfl))
  intro _
  apply blind.bind (blind.answer _)
  intro _
  apply blind.bind (follows.attempt blind.mends)
  intro result
  cases result with
  | ok value =>
      apply blind.bind (blind.send db (sends .commit rfl))
      intro _
      apply blind.bind (blind.answer _)
      intro _
      exact blind.pure value
  | error fault =>
      apply blind.bind (blind.send db (sends .rollback rfl))
      intro _
      apply blind.bind (blind.answer _)
      intro _
      exact blind.throw fault

theorem settle (tolerance : Database.Tolerance) (sql : String) (count : Database.BatchResult)
    (answered : Except Fault Unit) : (Database.settle tolerance sql count answered : Job σ _).Follows relation := by
  unfold Database.settle
  cases answered with
  | ok value => exact blind.pure _
  | error fault =>
      dsimp only
      split
      · exact blind.throw fault
      · apply blind.bind (blind.noteAll _)
        intro _
        split
        · apply blind.bind (blind.note _ _)
          intro _
          exact blind.pure _
        · exact blind.throw _

theorem runBatch (db : Database σ)
    (sends : ∀ request, request.isTransaction = false → request.isInsertion = false → fits request)
    (tolerance : Database.Tolerance) (savepoint : Bool) (statements : List String)
    (count : Database.BatchResult) : (db.runBatch tolerance savepoint statements count).Follows relation := by
  induction statements generalizing count with
  | nil => exact blind.pure count
  | cons sql rest ih =>
      have statement : (do let _ ← db.run sql : Job σ Unit).Follows relation := by
        apply blind.bind (blind.run (blind.send db (sends _ rfl rfl)) (blind.answer _))
        intro _
        exact blind.pure ()
      have shielded : (if savepoint then db.withSavepoint (do let _ ← db.run sql) else
          (do let _ ← db.run sql)).Follows relation := by
        split
        · exact blind.bracket db statement (sends _ rfl rfl) (sends _ rfl rfl) (sends _ rfl rfl)
        · exact statement
      apply blind.bind (shielded.attempt blind.mends)
      intro answered
      apply blind.bind (blind.settle tolerance sql count answered)
      intro count
      exact ih count

end Blind

/-- Keeping to allowed events is a relation that sees only the requests. -/
theorem blind_allowed (allowed : Event → Prop) :
    Blind (σ := σ) (fun request => ∀ label, allowed (.sent label request))
      fun _ _ events _ => ∀ event ∈ events, allowed event where
  quiet := fun _ _ _ => nofun
  breaks := id
  trans := by
    intro _ _ _ events _ more _ first second event member
    rcases List.mem_append.mp member with early | late
    · exact first event early
    · exact second event late
  mends := id
  changes := fun _ _ => nofun
  sends := by
    intro _ label request fits event member
    cases List.mem_singleton.mp member
    exact fits label

theorem follows_announce_allowed {allowed : Event → Prop} (listeners : List Listener) {event : Lifecycle}
    (heard : allowed (.announced event)) :
    (announce listeners event : Job σ Unit).Follows fun _ _ events _ => ∀ event ∈ events, allowed event :=
  fun world => (keeps_announce listeners heard world).imp fun _ _ _ outcome => outcome.1

end TableFerry.Job

namespace TableFerry.Worker

variable {σ : Type} {w : Worker σ} {relation : Bool → World σ → List Event → World σ → Prop}

/-! The transfer of one table. -/

/-- What a worker asks of the two databases and runs on the target, and its announcement of a creation, lead on by the
relation. -/
structure Prepares (w : Worker σ) (relation : Bool → World σ → List Event → World σ → Prop) : Prop
    extends Job.Closed relation where
  created : ∀ table statements, (w.announce (.created w.bucket table statements)).Follows relation
  connects : ∀ {α : Type} {job : Job σ α}, job.Follows relation →
    (w.source.db.withConnection job).Follows relation
  looks : ∀ name schema, (w.source.db.snapshot name schema).Follows relation
  looksThere : ∀ name schema, (w.target.db.snapshot name schema).Follows relation
  counts : ∀ sql, (w.source.db.run sql).Follows relation
  pages : ∀ sql index size order, (w.source.db.pageOf sql index size order).Follows relation
  rebuilds : ∀ table statements, (w.runDdl table statements).Follows relation
  executes : ∀ sql, (w.target.db.run sql).Follows relation

/-- All that a worker does between the marks of a table leads on by the relation. -/
structure Respects (w : Worker σ) (relation : Bool → World σ → List Event → World σ → Prop) : Prop
    extends Prepares w relation where
  pageCopied : ∀ table page pages rows, (w.announce (.pageCopied w.bucket table page pages rows)).Follows relation
  inserts : ∀ table rows, (w.target.db.insertRows table rows).Follows relation

/-- Telling the page of a failure changes neither the events nor whether there is one. -/
theorem follows_atPage {α : Type} {job : Job σ α} (copying : Copying) (page : Nat) (follows : job.Follows relation) :
    (atPage copying page job).Follows relation := by
  intro world
  apply Job.ensures_bind
  rw [Job.ensures_attempt]
  apply (follows world).imp
  intro result events final related
  cases result with
  | ok value => exact (Job.ensures_pure value).mpr (by rwa [List.append_nil])
  | error fault =>
      dsimp only
      split
      · exact (Job.ensures_throw _).mpr (by rwa [List.append_nil])
      · exact (Job.ensures_throw fault).mpr (by rwa [List.append_nil])

namespace Prepares

variable (prepares : w.Prepares relation)

include prepares

theorem findTable {db : Database σ} (looks : ∀ name schema, (db.snapshot name schema).Follows relation)
    (name : String) (schema : Value) : (findTable db name schema).Follows relation := by
  apply prepares.bind (looks name schema)
  intro found
  cases found with
  | some table => exact prepares.pure _
  | none =>
      dsimp only
      split
      · exact looks _ schema
      · exact prepares.pure _

theorem dropExisting (name : String) (existing : Option Table) :
    (w.dropExisting name existing).Follows relation := by
  cases existing with
  | none => exact prepares.pure _
  | some existing =>
      apply prepares.bind (prepares.rebuilds name _)
      intro _
      exact prepares.pure _

theorem create (source : Table) : (w.create source).Follows relation := by
  apply prepares.bind (prepares.draft _)
  intro statements
  apply prepares.bind (prepares.rebuilds source.name statements)
  intro _
  exact prepares.pure _

theorem rebuild (source : Table) (existing : Option Table) : (w.rebuild source existing).Follows relation := by
  apply prepares.bind (prepares.dropExisting source.name existing)
  intro dropped
  apply prepares.bind (prepares.create source)
  intro created
  apply prepares.bind (prepares.findTable prepares.looksThere _ _)
  intro found
  cases found with
  | none => exact prepares.throw _
  | some table =>
      apply prepares.bind (prepares.created _ _)
      intro _
      exact prepares.pure _

theorem rowCount (table : SizedTable) (sourceName : String) (condition : Option String) :
    (w.rowCount table sourceName condition).Follows relation := by
  unfold Worker.rowCount
  split
  · exact prepares.pure _
  · apply prepares.bind (prepares.counts _)
    intro value
    split
    · exact prepares.ofExcept _
    · exact prepares.pure _

end Prepares

namespace Respects

variable (respects : w.Respects relation)

include respects

theorem copyPage (copying : Copying) (page pages : Nat) : (w.copyPage copying page pages).Follows relation := by
  apply respects.bind (respects.pages _ _ _ _)
  intro rows
  apply respects.bind (respects.inserts _ _)
  intro inserted
  apply respects.bind (respects.pageCopied _ _ _ _)
  intro _
  exact respects.pure _

theorem copyPages (copying : Copying) (pages left page copied : Nat) :
    (w.copyPages copying pages left page copied).Follows relation := by
  induction left generalizing page copied with
  | zero => exact respects.pure _
  | succ left ih =>
      apply respects.bind (follows_atPage copying page (respects.copyPage copying page pages))
      intro inserted
      exact ih (page + 1) (copied + inserted)

theorem fill (copying : Copying) (count : Int) : (w.fill copying count).Follows relation := by
  apply respects.bind (respects.executes _)
  intro _
  split
  · apply respects.bind (respects.note _ _)
    intro _
    exact respects.pure _
  · exact respects.copyPages _ _ _ _ _

theorem copyRows (table : SizedTable) (source target : Table) (condition : Option String) :
    (w.copyRows table source target condition).Follows relation := by
  apply respects.bind (respects.ofExcept _)
  intro sourceName
  apply respects.bind (respects.ofExcept _)
  intro order
  apply respects.bind (respects.noteAll _)
  intro _
  apply follows_atPage
  apply respects.connects
  apply respects.bind (respects.toPrepares.rowCount table sourceName condition)
  intro count
  exact respects.fill _ count

theorem moveContents (table : SizedTable) (condition : Option String)
    (skips : ∀ reason, (w.announce (.skipped w.bucket table.name reason)).Follows relation) :
    (w.moveContents table condition).Follows relation := by
  have skip (reason : String) : (do
      w.announce (.skipped w.bucket table.name reason)
      Pure.pure none : Job σ (Option Nat)).Follows relation := by
    apply respects.bind (skips reason)
    intro _
    exact respects.pure _
  apply respects.bind (respects.enter _)
  intro _
  apply respects.bind (respects.connects (respects.toPrepares.findTable respects.looks _ _))
  intro found
  cases found with
  | none =>
      apply respects.bind (respects.note _ _)
      intro _
      exact skip _
  | some source =>
      apply respects.bind (respects.enter _)
      intro _
      apply respects.bind (respects.toPrepares.findTable respects.looksThere _ _)
      intro existing
      split
      · apply respects.bind (respects.note _ _)
        intro _
        exact skip _
      · apply respects.bind (respects.enter _)
        intro _
        apply respects.bind (respects.toPrepares.rebuild source existing)
        intro target
        split
        · exact respects.pure _
        · apply respects.bind (respects.enter _)
          intro _
          apply respects.bind (respects.copyRows table source target condition)
          intro rows
          apply respects.bind (respects.enter _)
          intro _
          exact respects.pure _

end Respects

/-! The transfer of whole buckets, by a relation that does not see how the databases answer. -/

section Blind

variable {fits : Request → Prop} {names : String → Prop}

theorem prepares_of_blind (blind : Job.Blind fits relation)
    (announces : ∀ event : Lifecycle, event.Concerns names → (w.announce event).Follows relation)
    (sends : ∀ request, request.isTransaction = false → request.isInsertion = false → fits request) :
    w.Prepares relation where
  toClosed := blind.toClosed
  created := fun _ _ => announces _ trivial
  connects := blind.withConnection
    (fun request either => blind.send _ (by rcases either with rfl | rfl <;> exact sends _ rfl rfl))
    (blind.answer _)
  looks := fun _ _ => blind.snapshot (blind.send _ (sends _ rfl rfl)) (blind.answer _)
  looksThere := fun _ _ => blind.snapshot (blind.send _ (sends _ rfl rfl)) (blind.answer _)
  counts := fun _ => blind.run (blind.send _ (sends _ rfl rfl)) (blind.answer _)
  pages := blind.pageOf (fun _ => blind.send _ (sends _ rfl rfl)) fun _ => blind.answer _
  rebuilds := by
    intro table statements
    apply blind.bind (blind.runBatch _ sends _ _ statements {})
    intro _
    exact blind.pure ()
  executes := fun _ => blind.run (blind.send _ (sends _ rfl rfl)) (blind.answer _)

theorem respects_of_blind (blind : Job.Blind fits relation)
    (announces : ∀ event : Lifecycle, event.Concerns names → (w.announce event).Follows relation)
    (sends : ∀ request, request.isTransaction = false → fits request) : w.Respects relation where
  toPrepares := prepares_of_blind blind announces fun request plain _ => sends request plain
  pageCopied := fun _ _ _ _ => announces _ trivial
  inserts := by
    intro table rows
    cases rows with
    | nil => exact blind.pure 0
    | cons first rest =>
        apply blind.bind (blind.send _ (sends _ rfl))
        intro _
        apply blind.bind (blind.answer _)
        intro _
        exact blind.pure _

theorem follows_endFailed (blind : Job.Blind fits relation)
    (announces : ∀ event : Lifecycle, event.Concerns names → (w.announce event).Follows relation)
    {name : String} (named : names name) (fault : Fault) : (w.endFailed name fault).Follows relation := by
  unfold endFailed
  cases fault.kind.isHandled with
  | false => exact blind.throw fault
  | true =>
      apply blind.bind blind.get
      intro world
      apply blind.bind (blind.noteAll _)
      intro _
      split
      · apply blind.bind (announces (.tolerated w.bucket name world.stage fault.text) named)
        intro _
        exact blind.pure true
      · apply blind.bind (announces (.failed w.bucket name world.stage fault.text) named)
        intro _
        cases w.strategy.continueOnError.truthy with
        | true => exact blind.pure false
        | false => exact blind.throw fault

variable (blind : Job.Blind fits relation)
  (announces : ∀ event : Lifecycle, event.Concerns names → (w.announce event).Follows relation)
  (sends : ∀ request, request.isTransaction = false → fits request)

include blind announces sends

theorem follows_moveTable (condition : Option String) (table : SizedTable) (position total : Int)
    (named : names table.name) : (w.moveTable table position total condition).Follows relation := by
  have contents := (respects_of_blind blind announces sends).moveContents table condition fun _ => announces _ named
  have shielded : (w.inSavepoint (w.moveContents table condition)).Follows relation := by
    unfold inSavepoint
    split
    · exact blind.bracket _ contents (sends _ rfl) (sends _ rfl) (sends _ rfl)
    · exact contents
  apply blind.bind (blind.enter _)
  intro _
  apply blind.bind (announces (.started w.bucket table.name position total) named)
  intro _
  split
  · rename_i reason _
    apply blind.bind (announces (.skipped w.bucket table.name reason) named)
    intro _
    exact blind.pure true
  · apply blind.bind blind.clock
    intro started
    apply blind.bind (shielded.attempt blind.mends)
    intro moved
    rcases moved with fault | _ | rows
    · exact follows_endFailed blind announces named fault
    · exact blind.pure true
    · apply blind.bind blind.clock
      intro now
      apply blind.bind
        (announces (.succeeded w.bucket table.name position total rows (.real (now.sub started))) named)
      intro _
      exact blind.pure true

theorem follows_moveTables (condition : Option String) (tables : List SizedTable)
    (named : ∀ table ∈ tables, names table.name) : (w.moveTables tables condition).Follows relation := by
  have from_ (total position : Int) : (w.moveFrom total condition position tables).Follows relation := by
    induction tables generalizing position with
    | nil => exact blind.pure 0
    | cons table rest ih =>
        apply blind.bind
          (follows_moveTable blind announces sends condition table position total (named table List.mem_cons_self))
        intro _
        apply blind.bind (ih (fun table member => named table (List.mem_cons_of_mem _ member)) (position + 1))
        intro _
        exact blind.pure _
  exact from_ _ _

end Blind

/-! One table, from its beginning to its end. -/

/-- How a table is closed when moving its contents has come to a result: how the bucket goes on, and what is
announced. -/
inductive Closing (w : Worker σ) (table : SizedTable) (position total : Int) :
    Except Fault (Option Nat) → Except Fault Bool → List Lifecycle → Prop
  | skipped : Closing w table position total (.ok none) (.ok true) []
  | succeeded (rows : Nat) (elapsed : Value) :
      Closing w table position total (.ok (some rows)) (.ok true)
        [.succeeded w.bucket table.name position total rows elapsed]
  | raised (fault : Fault) (unhandled : fault.kind.isHandled = false) :
      Closing w table position total (.error fault) (.error fault) []
  | tolerated (stage : Stage) (fault : Fault) (tolerates : w.compiler.tolerates fault = true) :
      Closing w table position total (.error fault) (.ok true)
        [.tolerated w.bucket table.name stage fault.text]
  | failed (stage : Stage) (fault : Fault) (refuses : w.compiler.tolerates fault = false) :
      Closing w table position total (.error fault) (w.resultOf (.failed stage fault))
        [.failed w.bucket table.name stage fault.text]

/-- All that one table comes to. It is skipped before anything is asked about it, or its contents are moved, in a
savepoint where there are such, and it is closed; only moving the contents changes what the databases hold. -/
inductive Turn (w : Worker σ) (condition : Option String) (table : SizedTable) (position total : Int)
    (world : World σ) : Except Fault Bool → List Event → World σ → Prop
  | alone {final : World σ} (reason : String) (kept : final.state = world.state) :
      Turn w condition table position total world (.ok true)
        [.announced (.started w.bucket table.name position total),
          .announced (.skipped w.bucket table.name reason)] final
  | moved {start middle final : World σ} {moved : Except Fault (Option Nat)} {result : Except Fault Bool}
      {inner : List Event} {closing : List Lifecycle} (begun : start.state = world.state)
      (runs : (w.inSavepoint (w.moveContents table condition)).Runs start moved inner middle)
      (kept : final.state = middle.state) (closes : w.Closing table position total moved result closing) :
      Turn w condition table position total world result
        (.announced (.started w.bucket table.name position total) :: inner ++ closing.map .announced) final

/-- An announcement alone. -/
theorem ensures_announced (recorded : w.listeners.count .recorder = 1) (event : Lifecycle) (world : World σ) :
    (w.announce event).Ensures world fun result events final =>
      result = .ok () ∧ events = [.announced event] ∧ final.state = world.state := by
  apply (Job.ensures_announce w.listeners event world).imp
  intro result events final outcome
  rcases outcome with ⟨rfl, rfl, state_kept, _⟩
  rw [recorded]
  exact ⟨rfl, rfl, state_kept⟩

theorem ensures_endFailed (recorded : w.listeners.count .recorder = 1) (table : SizedTable)
    (position total : Int) (fault : Fault) (world : World σ) :
    (w.endFailed table.name fault).Ensures world fun result events final =>
      final.state = world.state ∧
        ∃ closing, w.Closing table position total (.error fault) result closing ∧
          events = closing.map .announced := by
  unfold endFailed
  cases handled : fault.kind.isHandled with
  | false => exact (Job.ensures_throw fault).mpr ⟨rfl, [], .raised fault handled, rfl⟩
  | true =>
      apply Job.ensures_bind
      rw [Job.ensures_get]
      apply Job.ensures_bind
      rw [Job.ensures_noteAll]
      dsimp only
      split
      · rename_i tolerates
        apply Job.ensures_bind
        apply (ensures_announced recorded _ _).imp
        intro result events final outcome
        rcases outcome with ⟨rfl, rfl, state_kept⟩
        exact (Job.ensures_pure true).mpr ⟨state_kept, _, .tolerated world.stage fault tolerates, rfl⟩
      · rename_i refuses
        have closed : w.Closing table position total (.error fault) (w.resultOf (.failed world.stage fault))
            [.failed w.bucket table.name world.stage fault.text] :=
          .failed world.stage fault (Bool.eq_false_iff.mpr refuses)
        apply Job.ensures_bind
        apply (ensures_announced recorded _ _).imp
        intro result events final outcome
        rcases outcome with ⟨rfl, rfl, state_kept⟩
        rw [resultOf] at closed
        cases continues : w.strategy.continueOnError.truthy with
        | true =>
            rw [continues] at closed
            exact (Job.ensures_pure false).mpr ⟨state_kept, _, closed, rfl⟩
        | false =>
            rw [continues] at closed
            exact (Job.ensures_throw fault).mpr ⟨state_kept, _, closed, rfl⟩

theorem ensures_moveTable (recorded : w.listeners.count .recorder = 1) (condition : Option String)
    (table : SizedTable) (position total : Int) (world : World σ) :
    (w.moveTable table position total condition).Ensures world
      (w.Turn condition table position total world) := by
  apply Job.ensures_bind
  rw [Job.ensures_enter]
  apply Job.ensures_bind
  apply (ensures_announced recorded _ _).imp
  intro result events start outcome
  rcases outcome with ⟨rfl, rfl, (begun : start.state = world.state)⟩
  dsimp only
  split
  · rename_i reason _
    apply Job.ensures_bind
    apply (ensures_announced recorded _ _).imp
    intro result events final outcome
    rcases outcome with ⟨rfl, rfl, state_kept⟩
    exact (Job.ensures_pure true).mpr (.alone reason (state_kept.trans begun))
  · apply Job.ensures_bind
    rw [Job.ensures_clock]
    apply Job.ensures_bind
    rw [Job.ensures_attempt]
    apply ((marks_inSavepoint (marks_moveContents recorded table)) start).runs.imp
    intro moved inner middle outcome
    rcases outcome with ⟨runs, _⟩
    cases moved with
    | error fault =>
        apply (ensures_endFailed recorded table position total fault middle).imp
        intro result events final outcome
        rcases outcome with ⟨state_kept, closing, closes, rfl⟩
        exact .moved begun runs state_kept closes
    | ok found =>
        cases found with
        | none =>
            exact (Job.ensures_pure true).mpr (.moved begun runs rfl .skipped)
        | some rows =>
            apply Job.ensures_bind
            rw [Job.ensures_clock]
            apply Job.ensures_bind
            apply (ensures_announced recorded _ _).imp
            intro result events final outcome
            rcases outcome with ⟨rfl, rfl, state_kept⟩
            exact (Job.ensures_pure true).mpr (.moved begun runs state_kept (.succeeded rows _))

end TableFerry.Worker
