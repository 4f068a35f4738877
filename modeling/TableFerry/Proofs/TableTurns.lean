import TableFerry.Proofs.BucketCommits
/-! The turns of the tables of a bucket. A worker takes one table after the other, and a turn looks at the table on
both sides before it changes anything: what it finds is an answer of the databases, which only the state they are in
decides, and all that it sends until then is reads. -/

namespace TableFerry

namespace Job

variable {σ α β : Type}

/-- A job as an answer: what it gives from a state, and the state behind it. -/
def answerOf (job : Job σ α) : Answer σ α := fun state =>
  let ran := job.run { state := state, now := fun _ => .zero false }
  (ran.1, ran.2.state)

/-- What the job gives and the state behind it depend on the state before it alone. -/
def Answering (job : Job σ α) : Prop :=
  ∃ f : Answer σ α, ∀ world, job.Ensures world fun result _ final => f world.state = (result, final.state)

section Answering

variable {job : Job σ α}

theorem Answering.answers (answering : job.Answering) (world : World σ) :
    job.Ensures world fun result _ final => job.answerOf world.state = (result, final.state) := by
  obtain ⟨f, met⟩ := answering
  -- Both are what the job gives from one and the same world with this state.
  have alone : f world.state = job.answerOf world.state := by
    obtain ⟨_, _, given⟩ := met { state := world.state, now := fun _ => .zero false }
    exact given
  rw [← alone]
  exact met world

theorem Answering.bind {next : α → Job σ β} (answering : job.Answering) (then_ : ∀ value, (next value).Answering) :
    (job >>= next).Answering := by
  obtain ⟨f, first⟩ := answering
  choose g second using then_
  refine ⟨fun state => match f state with
    | (.ok value, state) => g value state
    | (.error fault, state) => (.error fault, state), fun world => ?_⟩
  apply (first world).bind
  · intro value events middle given
    dsimp only
    rw [given]
    exact second value middle
  · intro fault events middle given
    dsimp only
    rw [given]

theorem answering_pure (value : α) : (pure value : Job σ α).Answering :=
  ⟨fun state => (.ok value, state), fun _ => (ensures_pure value).mpr rfl⟩

theorem answering_ofExcept (result : Except Fault α) : (ofExcept result : Job σ α).Answering :=
  ⟨fun state => (result, state), fun _ => (ensures_ofExcept result).mpr rfl⟩

theorem answering_answer (f : Answer σ α) : (answer f).Answering := ⟨f, fun _ => (ensures_answer f).mpr rfl⟩

theorem answering_send (db : Database σ) (request : Request) : (db.send request).Answering :=
  ⟨fun state => (.ok (), state), fun _ => (ensures_send db request).mpr rfl⟩

theorem answering_noteAll (lines : List LogLine) : (noteAll lines : Job σ Unit).Answering :=
  ⟨fun state => (.ok (), state), fun _ => (ensures_noteAll lines).mpr rfl⟩

theorem answering_enter (stage : Stage) : (enter stage : Job σ Unit).Answering :=
  ⟨fun state => (.ok (), state), fun _ => (ensures_enter stage).mpr rfl⟩

theorem Answering.attempt (answering : job.Answering) : job.attempt.Answering := by
  obtain ⟨f, met⟩ := answering
  refine ⟨fun state => (.ok (f state).1, (f state).2), fun world => ?_⟩
  rw [ensures_attempt]
  apply (met world).imp
  intro result events final given
  dsimp only
  rw [given]

theorem Answering.withConnection (answering : job.Answering) (db : Database σ) : (db.withConnection job).Answering := by
  apply (answering_answer _).bind
  intro _
  apply (answering_send db .connect).bind
  intro _
  apply answering.attempt.bind
  intro result
  apply (answering_send db .close).bind
  intro _
  exact answering_ofExcept result

theorem answering_snapshot (db : Database σ) (table : String) (schema : Value) :
    (db.snapshot table schema).Answering := by
  apply (answering_send db _).bind
  intro _
  apply (answering_answer _).bind
  intro answered
  cases answered with
  | none => exact answering_pure none
  | some reflected =>
      dsimp only
      split
      · exact answering_pure none
      · apply (answering_noteAll _).bind
        intro _
        apply (answering_ofExcept _).bind
        intro _
        exact answering_pure _

theorem answering_findTable (db : Database σ) (name : String) (schema : Value) :
    (Worker.findTable db name schema).Answering := by
  apply (answering_snapshot db name schema).bind
  intro found
  cases found with
  | some table => exact answering_pure _
  | none =>
      dsimp only
      split
      · exact answering_snapshot db _ schema
      · exact answering_pure none

end Answering

end Job

namespace Worker

variable {σ : Type}

/-! What a worker finds of a table. -/

/-- What a worker knows of a table that it looked at on both sides. -/
inductive Finding where
  | missing
  | present
  | «open» (source : Table) (existing : Option Table)

/-- Looks at a table on both sides. -/
def inspect (w : Worker σ) (name : String) : Job σ Finding := do
  Job.enter .checkSource
  match ← w.source.db.withConnection (findTable w.source.db name w.source.config.schemaName) with
  | none => pure .missing
  | some source =>
    Job.enter .checkTarget
    let existing ← findTable w.target.db name w.target.config.schemaName
    pure (if existing.isSome && w.strategy.buildMode == .skipWhenExist then .present else .open source existing)

/-- Goes on with a table as it was found. -/
def proceed (w : Worker σ) (table : SizedTable) (condition : Option String) : Finding → Job σ (Option Nat)
  | .missing => do
    Job.note .error (s!"Table[{table.name}] does not exist in source " ++ w.source.config.id.shown)
    w.announce (.skipped w.bucket table.name "source table does not exist")
    pure none
  | .present => do
    Job.note .info (s!"Table[{table.name}] already existed in target " ++ w.target.config.id.shown)
    w.announce (.skipped w.bucket table.name "already exists on target")
    pure none
  | .open source existing => do
    Job.enter .rebuild
    let target ← w.rebuild source existing
    if !w.strategy.includeData.truthy then pure (some 0)
    else
      Job.enter .copyData
      let rows ← w.copyRows table source target condition
      Job.enter .done
      pure (some rows)

/-- Nothing is changed before both sides were looked at. -/
theorem moveContents_eq (w : Worker σ) (table : SizedTable) (condition : Option String) :
    w.moveContents table condition = w.inspect table.name >>= w.proceed table condition := by
  unfold moveContents inspect
  simp only [bind_assoc]
  congr 1
  funext _
  congr 1
  funext found
  cases found with
  | none => simp only [pure_bind, proceed]
  | some source =>
      simp only [bind_assoc, pure_bind]
      congr 1
      funext _
      congr 1
      funext existing
      split
      · simp only [proceed]
      · simp only [proceed]

theorem answering_inspect (w : Worker σ) (name : String) : (w.inspect name).Answering := by
  apply (Job.answering_enter _).bind
  intro _
  apply ((Job.answering_findTable _ _ _).withConnection _).bind
  intro found
  cases found with
  | none => exact Job.answering_pure _
  | some source =>
      apply (Job.answering_enter _).bind
      intro _
      apply (Job.answering_findTable _ _ _).bind
      intro existing
      exact Job.answering_pure _

/-- What a worker finds of a table, or the fault of the read that failed, from a state of the databases. -/
def finding (w : Worker σ) (name : String) (state : σ) : Except Fault Finding := ((w.inspect name).answerOf state).1

/-- What may be sent for a table that must not be touched: reads of the catalogues on both sides, and the savepoint of
the table. -/
def Spares (w : Worker σ) : Event → Prop
  | .announced _ => True
  | .sent label request =>
    label = w.source.db.label ∧
        (request = .connect ∨ request = .close ∨ ∃ table schema, request = .reflect table schema) ∨
      label = w.target.db.label ∧ (request = .savepoint ∨ request = .release ∨ request = .rollbackTo ∨
        ∃ table schema, request = .reflect table schema)
  | .pool _ | .engine .. => False

theorem keeps_inspect (w : Worker σ) (name : String) :
    (w.inspect name).Keeps (fun event => w.Spares event ∧ Job.Quiet event) fun _ => True := by
  have looks (table : String) (schema : Value) :
      w.Spares (.sent w.source.db.label (.reflect table schema)) ∧
        Job.Quiet (.sent w.source.db.label (.reflect table schema)) :=
    ⟨Or.inl ⟨rfl, Or.inr (Or.inr ⟨table, schema, rfl⟩)⟩, rfl⟩
  have looksThere (table : String) (schema : Value) :
      w.Spares (.sent w.target.db.label (.reflect table schema)) ∧
        Job.Quiet (.sent w.target.db.label (.reflect table schema)) :=
    ⟨Or.inr ⟨rfl, Or.inr (Or.inr (Or.inr ⟨table, schema, rfl⟩))⟩, rfl⟩
  apply (Job.keeps_enter _).bind
  intro _ _
  apply (w.source.db.keeps_withConnection (keeps_findTable _ _ _ fun table => looks table _)
    ⟨Or.inl ⟨rfl, Or.inl rfl⟩, rfl⟩ ⟨Or.inl ⟨rfl, Or.inr (Or.inl rfl)⟩, rfl⟩).bind
  intro found _
  cases found with
  | none => exact Job.keeps_pure trivial
  | some source =>
      apply (Job.keeps_enter _).bind
      intro _ _
      apply (keeps_findTable _ _ _ fun table => looksThere table _).bind
      intro existing _
      exact Job.keeps_pure trivial

/-- Looking at a table gives what the state decides, and sends reads alone. -/
theorem ensures_inspect (w : Worker σ) (name : String) (world : World σ) :
    (w.inspect name).Ensures world fun result events _ =>
      result = w.finding name world.state ∧ (∀ event ∈ events, w.Spares event) ∧ Event.marks events = [] := by
  apply (((w.answering_inspect name).answers world).and (w.keeps_inspect name world)).imp
  intro result events final outcome
  rcases outcome with ⟨answered, kept, _⟩
  refine ⟨(congrArg Prod.fst answered).symm, fun event member => (kept event member).1, ?_⟩
  exact List.filterMap_eq_nil_iff.mpr fun event member => (kept event member).2

/-! The tables of a bucket, one after the other. -/

/-- One table that a worker takes through its course: its place in the bucket, the world from which it goes, and what
comes of it. -/
structure Stint (σ : Type) where
  table : SizedTable
  position : Int
  start : World σ
  result : Except Fault Bool
  events : List Event
  final : World σ

/-- The stint is what the worker does. -/
def Stint.Ran (stint : Stint σ) (w : Worker σ) (total : Int) (condition : Option String) : Prop :=
  (w.moveTable stint.table stint.position total condition).Runs stint.start stint.result stint.events stint.final

/-- The stints of tables from `position` on, each from the world that the one before left, until one of them ends the
bucket. -/
inductive Stints (w : Worker σ) (total : Int) (condition : Option String) :
    Int → World σ → List SizedTable → Except Fault Nat → List (Stint σ) → World σ → Prop
  | done (position : Int) (world : World σ) : Stints w total condition position world [] (.ok 0) [] world
  | raised {stint : Stint σ} {fault : Fault} (rest : List SizedTable) (ran : stint.Ran w total condition)
      (ended : stint.result = .error fault) :
      Stints w total condition stint.position stint.start (stint.table :: rest) (.error fault) [stint] stint.final
  | next {stint : Stint σ} {passed : Bool} {rest : List SizedTable} {result : Except Fault Nat}
      {stints : List (Stint σ)} {final : World σ} (ran : stint.Ran w total condition)
      (ended : stint.result = .ok passed)
      (later : Stints w total condition (stint.position + 1) stint.final rest result stints final) :
      Stints w total condition stint.position stint.start (stint.table :: rest)
        (result.map fun failed => failed + if passed then 0 else 1) (stint :: stints) final

section Stints

variable {w : Worker σ} {total position : Int} {condition : Option String} {world final : World σ}
  {tables : List SizedTable} {result : Except Fault Nat} {stints : List (Stint σ)}

theorem Stints.ran (went : w.Stints total condition position world tables result stints final) :
    ∀ stint ∈ stints, stint.Ran w total condition := by
  induction went with
  | done =>
      intro stint member
      cases member
  | raised _ ran =>
      intro stint member
      rw [List.mem_singleton.mp member]
      exact ran
  | next ran _ _ ih =>
      intro stint member
      rcases List.mem_cons.mp member with rfl | later
      · exact ran
      · exact ih stint later

theorem Stints.tables_prefix (went : w.Stints total condition position world tables result stints final) :
    stints.map (·.table) <+: tables := by
  induction went with
  | done => exact List.nil_prefix
  | raised rest => exact ⟨rest, rfl⟩
  | next _ _ _ ih => exact List.cons_prefix_cons.mpr ⟨rfl, ih⟩

theorem Stints.tables_eq (went : w.Stints total condition position world tables result stints final)
    (ended : result.isOk = true) : stints.map (·.table) = tables := by
  induction went with
  | done => rfl
  | raised => cases ended
  | next _ _ later ih =>
      rename_i result _ _ _ _
      cases result with
      | error => cases ended
      | ok => rw [List.map_cons, ih rfl]

theorem ensures_moveFrom (w : Worker σ) (total : Int) (condition : Option String) (position : Int)
    (tables : List SizedTable) (world : World σ) :
    (w.moveFrom total condition position tables).Ensures world fun result events final =>
      ∃ stints, w.Stints total condition position world tables result stints final ∧
        events = stints.flatMap (·.events) := by
  have each (table : SizedTable) (position : Int) (world : World σ) :
      (w.moveTable table position total condition).Ensures world fun result events final =>
        Stint.Ran ⟨table, position, world, result, events, final⟩ w total condition := by
    have announces (event : Lifecycle) (_ : event.Concerns fun _ => True) :
        (w.announce event).Follows fun _ _ events _ => ∀ event ∈ events, True :=
      Job.follows_announce_allowed _ trivial
    have grows : (w.moveTable table position total condition).Follows fun _ _ events _ => ∀ event ∈ events, True :=
      follows_moveTable (Job.blind_allowed fun _ => True) announces (fun _ _ _ => trivial) condition table position
        total trivial
    apply (grows world).runs.imp
    intro result events final outcome
    exact outcome.1
  induction tables generalizing position world with
  | nil => exact (Job.ensures_pure 0).mpr ⟨[], .done position world, rfl⟩
  | cons table rest ih =>
      apply (each table position world).bind
      · intro passed events middle ran
        apply (ih (position + 1) middle).bind
        · intro failed more final outcome
          rcases outcome with ⟨stints, later, rfl⟩
          exact (Job.ensures_pure _).mpr ⟨_, .next ran rfl later, congrArg (events ++ ·) (List.append_nil _)⟩
        · intro fault more final outcome
          rcases outcome with ⟨stints, later, rfl⟩
          exact ⟨_, .next ran rfl later, rfl⟩
      · intro fault events middle ran
        exact ⟨_, .raised rest ran rfl, (List.append_nil _).symm⟩

end Stints

end Worker

end TableFerry
