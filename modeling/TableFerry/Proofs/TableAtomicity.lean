import TableFerry.Proofs.Savepoints
import TableFerry.Proofs.Transfers
/-! One table in a transaction that can undo statements on tables. The whole table stands in a savepoint and every
statement of its rebuild in one of its own, so that a table which fails leaves the target as it was, and a table
that does not fail leaves what its statements did, but nothing of those whose failure was tolerated. -/

namespace TableFerry

/-- Whether what was done to a table that ended so stands. -/
def Ending.stands : Ending → Bool
  | skipped .. | succeeded .. => true
  | tolerated .. | failed .. => false

namespace Worker

variable {σ τ : Type} {w : Worker σ} {held : σ → Held τ}

/-- The target can undo statements on tables, a transaction is open there, and its savepoints are a stack that the
source does not touch. -/
structure Shielded (w : Worker σ) (held : σ → Held τ) : Prop where
  transactional : w.compiler.transactional = true
  inTransaction : w.inTransaction = true
  apart : w.source.db.label ≠ w.target.db.label
  nests : w.target.db.Nests held
  spares : w.source.db.Spares held

theorem follows_announce_accounts (event : Lifecycle) :
    (w.announce event).Follows (w.target.db.Accounts held w.compiler.tolerates) := by
  intro world
  apply (Job.ensures_announce w.listeners event world).imp
  intro result events final outcome
  rcases outcome with ⟨rfl, rfl, state_kept, _⟩
  rw [← List.map_replicate]
  exact Database.accounts_plain (Event.nested_announced _) (congrArg held state_kept)

variable (shielded : w.Shielded held)

include shielded

theorem Shielded.respects : w.Respects (w.target.db.Accounts held w.compiler.tolerates) := by
  have closed := w.target.db.closed_accounts held w.compiler.tolerates
  have asks (request : Request) :
      (w.source.db.send request).Follows (w.target.db.Accounts held w.compiler.tolerates) :=
    Database.follows_send fun levels => Event.meet_other shielded.apart levels request
  have looks (table : String) (schema : Value) :
      (w.target.db.send (.reflect table schema)).Follows (w.target.db.Accounts held w.compiler.tolerates) :=
    Database.follows_send fun levels => Event.meet_own w.target.db.label levels _
  refine ⟨⟨closed, ?created, ?connects, ?looks, ?looksThere, ?counts, ?pages, ?rebuilds, ?executes⟩, ?pageCopied,
    ?inserts⟩
  case created => exact fun _ _ => follows_announce_accounts _
  case pageCopied => exact fun _ _ _ _ => follows_announce_accounts _
  case connects =>
    intro α job follows
    exact closed.withConnection (fun _ _ => asks _) (Database.follows_answer shielded.spares.connect) follows
  case looks =>
    intro name schema
    exact closed.snapshot (asks _) (Database.follows_answer (shielded.spares.reflect name schema))
  case looksThere =>
    intro name schema
    exact closed.snapshot (looks name schema) (Database.follows_answer (shielded.nests.reflect name schema))
  case counts =>
    intro sql
    exact closed.run (asks _) (Database.follows_answer (shielded.spares.execute sql))
  case pages =>
    exact closed.pageOf (fun _ => asks _) fun query => Database.follows_answer (shielded.spares.page query)
  case rebuilds =>
    intro table statements
    unfold runDdl
    rw [shielded.transactional]
    apply closed.bind (Database.follows_runBatch shielded.nests _ statements {})
    intro _
    exact closed.pure ()
  case executes => exact Database.follows_run shielded.nests
  case inserts => exact Database.follows_insertRows shielded.nests

theorem Shielded.ensures_inSavepoint (table : SizedTable) (condition : Option String) (world : World σ) :
    (w.inSavepoint (w.moveContents table condition)).Ensures world fun result events final =>
      ∃ changes, Event.Nested w.target.db.label events changes ∧
        w.target.db.Leaves held w.compiler.tolerates result.isOk world changes final := by
  rw [inSavepoint, shielded.transactional, shielded.inTransaction, Bool.and_self, if_pos rfl]
  exact Database.ensures_withSavepoint shielded.nests
    (shielded.respects.moveContents table condition fun _ => follows_announce_accounts _) world

/-- On a target that can undo statements on tables, a table closes all savepoints that it opens, each once and the
innermost first, and of all that it sends to the target it is known what stands. If it ends with an error, then the
target holds what it held before; otherwise it holds what the statements and the insertions of the table did, one
after the other, and nothing of the statements whose failure was tolerated. -/
theorem moveTable_atomic (recorded : w.listeners.count .recorder = 1) (condition : Option String)
    (table : SizedTable) (position total : Int) (world : World σ) :
    (w.moveTable table position total condition).Ensures world fun result events final =>
      ∃ changes, Event.changeLevels w.target.db.label events = some [changes] ∧
        changes.map (·.request) = events.filterMap (Event.change? w.target.db.label) ∧
        ((∃ ending : Ending, result = w.resultOf ending ∧
            Event.marks events = [.started w.bucket table.name position total,
              ending.event w.bucket table.name position total] ∧
            w.target.db.Leaves held w.compiler.tolerates ending.stands world changes final) ∨
          ∃ fault, fault.kind.isHandled = false ∧ result = .error fault ∧
            Event.marks events = [.started w.bucket table.name position total] ∧
            w.target.db.Leaves held w.compiler.tolerates false world changes final) := by
  apply (ensures_moveTable recorded condition table position total world).imp
  intro result events final turn
  cases turn with
  | alone reason kept =>
      have saved : (held final.state).saved = (held world.state).saved := by rw [kept]
      refine ⟨[], rfl, rfl, Or.inl ⟨.skipped reason, rfl, rfl, saved, ?_⟩⟩
      rw [kept]
      exact .none _
  | @moved start middle _ moved _ inner closing begun runs kept closes =>
      obtain ⟨changes, nested, leaves⟩ := runs.met (shielded.ensures_inSavepoint table condition start)
      have marked := runs.met (marks_inSavepoint (marks_moveContents recorded table) start)
      have all : Event.Nested w.target.db.label
          (.announced (.started w.bucket table.name position total) :: inner ++ closing.map .announced) changes := by
        have opened : Event.Nested w.target.db.label [.announced (.started w.bucket table.name position total)] [] :=
          Event.nested_announced [.started w.bucket table.name position total]
        simpa using (opened.append nested).append (Event.nested_announced closing)
      have stays : w.target.db.Leaves held w.compiler.tolerates moved.isOk world changes final := by
        unfold Database.Leaves at leaves ⊢
        rwa [kept, ← begun]
      have marks_all : Event.marks
          (.announced (.started w.bucket table.name position total) :: inner ++ closing.map .announced) =
            .started w.bucket table.name position total ::
              (Event.marks inner ++ Event.marks (closing.map .announced)) :=
        congrArg (_ :: ·) (Event.marks_append inner _)
      refine ⟨changes, all.changeLevels, all.requests, ?_⟩
      rw [marks_all]
      rcases marked with ⟨rfl, reason, inner_marks⟩ | ⟨moved_on, inner_marks⟩
      · rw [inner_marks]
        cases closes
        exact Or.inl ⟨.skipped reason, rfl, rfl, stays⟩
      · rw [inner_marks]
        cases closes with
        | skipped => exact absurd rfl moved_on
        | succeeded rows elapsed => exact Or.inl ⟨.succeeded rows elapsed, rfl, rfl, stays⟩
        | raised fault unhandled => exact Or.inr ⟨fault, unhandled, rfl, rfl, stays⟩
        | tolerated stage fault _ => exact Or.inl ⟨.tolerated stage fault.text, rfl, rfl, stays⟩
        | failed stage fault _ => exact Or.inl ⟨.failed stage fault, rfl, rfl, stays⟩

omit shielded

/-- A target that keeps the statements that it accepted. Of those that it refuses some are on the way already. -/
def stacked (refuses : String → Option Fault) : Database (Held (List String)) where
  label := "dst"
  dialectName := "postgresql"
  versionInfo := .null
  connect := fun state => (.ok (), state)
  tableNames := fun _ state => (.ok [], state)
  reflect := fun name _ state => (.ok (some (Database.onlyId name)), state)
  execute := fun sql state =>
    match refuses sql with
    | none => (.ok .null, { state with now := state.now ++ [sql] })
    | some fault => (.error fault, { state with now := state.now ++ ["half of " ++ sql] })
  page := fun _ state => (.ok [], state)
  insert := fun statement _ state =>
    (.error (.single .database "disk full"), { state with now := state.now ++ ["half of " ++ statement] })
  begin := fun state => (.ok (), state)
  commit := fun state => (.ok (), state)
  rollback := fun state => (.ok (), state)
  savepoint := Held.push
  release := Held.keep
  rollbackTo := Held.restore

theorem nests_stacked (refuses : String → Option Fault) : (stacked refuses).Nests id where
  savepoint := fun _ => rfl
  release := fun _ => rfl
  rollbackTo := fun _ => rfl
  reflect := fun _ _ _ => rfl
  execute := by
    intro sql state
    unfold stacked
    dsimp only
    split <;> rfl
  insert := fun _ _ _ => rfl

/-- A worker whose target refuses all insertions, and dropping tables in a way that is tolerated. -/
def stackedWorker : Worker (Held (List String)) :=
  let unknown : Fault := {
    nodes := [{ kind := .native, args := [], pgcode := .text "42704" },
      { kind := .database, args := [], origin := .error 0 }]
    entry := 1 }
  between .postgresql
    (Database.still "src" "sqlite" (fun name => some (Database.onlyId name)) fun _ => [[("id", .int 1)]])
    (stacked fun sql => if sql.startsWith "DROP" then some unknown else none)

theorem shielded_stackedWorker : stackedWorker.Shielded id where
  transactional := rfl
  inTransaction := rfl
  apart := by decide
  nests := nests_stacked _
  spares := {
    connect := fun _ => rfl
    reflect := fun _ _ _ => rfl
    execute := fun _ _ => rfl
    page := fun _ _ => rfl }

def stackedWorld : World (Held (List String)) := { state := ⟨["BEGIN"], []⟩, now := fun _ => .zero false }

theorem moveTable_atomic_refusedRows :
    stackedWorker.Shielded id ∧ stackedWorker.listeners.count .recorder = 1 ∧
      (stackedWorker.moveTable ⟨"orders", some 1⟩ 1 1 none).Ensures stackedWorld fun result events final =>
        result = .ok false ∧ final.state = stackedWorld.state ∧
          ∃ changes, Event.changeLevels "dst" events = some [changes] ∧
            ∀ change ∈ changes, change.stands = false := by
  have failed : ((stackedWorker.moveTable ⟨"orders", some 1⟩ 1 1 none).run stackedWorld).1 = .ok false :=
    Job.ok_of_toOption (by decide +kernel)
  refine ⟨shielded_stackedWorker, rfl, ?_⟩
  obtain ⟨events, grown, changes, levels, _, outcome⟩ :=
    moveTable_atomic shielded_stackedWorker rfl none ⟨"orders", some 1⟩ 1 1 stackedWorld
  refine ⟨events, grown, failed, ?_⟩
  rw [failed] at outcome
  rcases outcome with ⟨ending, given, _, leaves⟩ | ⟨fault, _, raised, _⟩
  · obtain ⟨not_failed, _⟩ := resultOf_ok given.symm
    cases ending with
    | failed stage fault => exact ⟨leaves.1, changes, levels, leaves.2⟩
    | skipped | succeeded | tolerated => cases not_failed
  · cases raised

end Worker

end TableFerry
