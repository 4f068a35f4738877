import TableFerry.Command.Run
import TableFerry.Proofs.ProtectedTables
import TableFerry.Proofs.RebuildTargets
/-! What is sent to which side. The source is only read, but for the rollback of a count that failed. All that is
written goes to the target, on the connection of the bucket that holds the table, between the begin of its transaction
and its end. A dry run reads the source alone. -/

namespace TableFerry

namespace Request

/-- A request that leaves all tables as they are: a connection, a look at the catalogue, a statement that starts as a
query does, or a page of such a query. -/
inductive Reads : Request → Prop
  | connect : Reads .connect
  | close : Reads .close
  | tableNames (schema : Value) : Reads (.tableNames schema)
  | reflect (table : String) (schema : Value) : Reads (.reflect table schema)
  | query {sql : String} (starts : Text.hasStart sql "select " = true) : Reads (.execute sql)
  | page {query : PageQuery} (starts : Text.hasStart query.sql "select " = true) : Reads (.page query)

/-- An insertion, or a statement that does not start as a query does. -/
def isWrite : Request → Bool
  | .execute sql => !Text.hasStart sql "select "
  | .insert .. => true
  | _ => false

theorem Reads.isWrite {request : Request} (reads : request.Reads) : request.isWrite = false := by
  cases reads with
  | query starts => rw [Request.isWrite, starts, Bool.not_true]
  | connect | close | tableNames | reflect | page => rfl

end Request

/-- A request with which a table of some name is dropped, created or filled. -/
inductive Compiler.Writes (c : Compiler) (name : String) : Request → Prop
  | drop {table : Table} {sql : String} (named : table.name = name) (listed : sql ∈ c.deleteDdl table) :
      c.Writes name (.execute sql)
  | create {table : Table} {draft : Draft} {statements : List String} {sql : String} (named : table.name = name)
      (written : ((c.createDdl table).run draft).1 = .ok statements) (listed : sql ∈ statements) :
      c.Writes name (.execute sql)
  | fill {request : Request} (fills : Worker.Fills (c.qualify name) request) : c.Writes name request

/-! The tables of one bucket. -/

namespace Worker

variable {σ : Type} {w : Worker σ} {condition : Option String} {tables : List SizedTable}

/-- What a worker may do for its tables: announce, read the source, look at the target and go back there to a
savepoint, and write to the target what one of the tables is made of, under its name or its name in upper case. -/
inductive Moves (w : Worker σ) (tables : List SizedTable) : Event → Prop
  | announced (event : Lifecycle) : w.Moves tables (.announced event)
  | reads {request : Request} (reads : request.Reads) : w.Moves tables (.sent w.source.db.label request)
  | tends {request : Request} (tends : Tends request) : w.Moves tables (.sent w.target.db.label request)
  | writes {request : Request} {table : SizedTable} {name : String} (held : table ∈ tables)
      (named : name = table.name ∨ name = Text.upper table.name) (writes : w.targetCompiler.Writes name request) :
      w.Moves tables (.sent w.target.db.label request)

theorem Asks.reads {request : Request} (asks : Asks condition request) : request.Reads := by
  cases asks with
  | connect => exact .connect
  | close => exact .close
  | reflect table schema => exact .reflect table schema
  | count table => exact .query (query_opens _ table condition).starts
  | page table => exact .page (query_opens _ table condition).starts

theorem allows_moves (w : Worker σ) (condition : Option String) (tables : List SizedTable) :
    w.Allows condition (w.Moves tables) where
  asks := fun _ asks => .reads asks.reads
  tends := fun _ => .tends
  created := fun _ _ => .announced _
  pageCopied := fun _ _ _ _ => .announced _

theorem keeps_moves (w : Worker σ) (condition : Option String) (tables : List SizedTable) :
    (w.moveTables tables condition).Keeps (w.Moves tables) fun _ => True := by
  have allows := w.allows_moves condition tables
  apply allows.keeps_moveTables .announced
  intro table held
  apply allows.keeps_moveContents .announced
  · intro existing named sql listed
    exact .writes held named (.drop rfl listed)
  · intro source named draft statements written sql listed
    exact .writes held named (.create rfl written listed)
  · intro name named request fills
    exact .writes held named (.fill fills)

/-- All that goes elsewhere than to the target only reads. -/
theorem Moves.reads_elsewhere {label : String} {request : Request} (moves : w.Moves tables (.sent label request))
    (apart : label ≠ w.target.db.label) : request.Reads := by
  cases moves with
  | reads reads => exact reads
  | tends | writes => exact absurd rfl apart

/-- All that is written goes to the target and into one of the tables. -/
theorem Moves.writes_target {label : String} {request : Request} (moves : w.Moves tables (.sent label request))
    (write : request.isWrite = true) :
    label = w.target.db.label ∧ ∃ table ∈ tables, ∃ name, (name = table.name ∨ name = Text.upper table.name) ∧
      w.targetCompiler.Writes name request := by
  cases moves with
  | reads reads => cases reads.isWrite.symm.trans write
  | tends tends => cases tends <;> cases write
  | writes held named writes => exact ⟨rfl, _, held, _, named, writes⟩

end Worker

namespace Migration

variable {σ α β : Type} {m : Migration σ} {condition : Option String} {index : Nat} {bucket : List SizedTable}
variable {buckets : List (List SizedTable)} {events : List Event}

/-- What may come before any bucket: requests that read the source, the rollback of a count that failed there,
announcements, and the pool. -/
inductive Reads (m : Migration σ) : Event → Prop
  | announced (event : Lifecycle) : m.Reads (.announced event)
  | pool (size : Nat) : m.Reads (.pool size)
  | reads {request : Request} (reads : request.Reads) : m.Reads (.sent m.source.db.label request)
  | undoes : m.Reads (.sent m.source.db.label .rollback)

/-- All that a bucket sends: its tables are moved on a connection to the target, behind the begin of a transaction and
before its only end, or not at all if the target refuses either. -/
inductive Enclosed (m : Migration σ) (index : Nat) (bucket : List SizedTable) : List Event → Prop
  | unconnected : m.Enclosed index bucket []
  | unbegun : m.Enclosed index bucket
      [.sent m.target.db.label .connect, .sent m.target.db.label .begin, .sent m.target.db.label .close]
  | transacted {inner : List Event} {ending : Request} (moves : ∀ event ∈ inner, (m.worker index).Moves bucket event)
      (inside : ∀ event ∈ inner, event.isFrame = false) (ends : ending = .commit ∨ ending = .rollback) :
      m.Enclosed index bucket
        ([.sent m.target.db.label .connect, .sent m.target.db.label .begin] ++ inner ++
          [.sent m.target.db.label ending, .sent m.target.db.label .close])

theorem Handled.enclosed {result : Except Fault Unit} (handled : m.Handled condition index bucket result events) :
    m.Enclosed index bucket events := by
  cases handled with
  | unconnected => exact .unconnected
  | unbegun => exact .unbegun
  | transacted transacted =>
      rcases transacted with ⟨start, moved, inner, middle, runs, _, inside, rfl⟩
      apply Enclosed.transacted (runs.met ((m.worker index).keeps_moves condition bucket start)).1 inside
      cases moved with
      | ok => exact Or.inl rfl
      | error => exact Or.inr rfl

/-- The events of a bucket, whoever hears of its end. -/
theorem ensures_runBucket_enclosed (m : Migration σ) (condition : Option String) (index : Nat)
    (bucket : List SizedTable) (world : World σ) :
    (m.runBucket condition index bucket).Ensures world fun _ events _ =>
      ∃ work told, events = work ++ told ∧ m.Enclosed index bucket work ∧
        ∀ event ∈ told, ∃ finish, event = .announced finish := by
  apply (ensures_runBucket_told m condition index bucket world).imp
  rintro _ _ final ⟨result, work, rfl, handled, rfl⟩
  exact ⟨work, _, rfl, handled.enclosed, fun event member => ⟨_, List.eq_of_mem_replicate member⟩⟩

/-- The events of a run: first those that only read, and then those of the buckets, mixed in any way. Each bucket moves
its tables in a transaction of its own, and for the rest its end is announced. -/
structure Confined (m : Migration σ) (buckets : List (List SizedTable)) (before : List Event)
    (mixed : List (Nat × Event)) : Prop where
  reads : ∀ event ∈ before, m.Reads event
  within : ∀ entry ∈ mixed, entry.1 < buckets.length
  enclosed : ∀ index (below : index < buckets.length), ∃ work told, ofBucket index mixed = work ++ told ∧
    m.Enclosed index buckets[index] work ∧ ∀ event ∈ told, ∃ finish, event = .announced finish

theorem confined_of_reads (reads : ∀ event ∈ events, m.Reads event) : m.Confined [] events [] :=
  ⟨reads, nofun, nofun⟩

theorem Confined.behind {before : List Event} {mixed : List (Nat × Event)} (confined : m.Confined buckets before mixed)
    (reads : ∀ event ∈ events, m.Reads event) : m.Confined buckets (events ++ before) mixed where
  reads := by
    intro event member
    rcases List.mem_append.mp member with first | second
    · exact reads event first
    · exact confined.reads event second
  within := confined.within
  enclosed := confined.enclosed

/-! What follows for the two sides. -/

/-- All that is sent to the source reads it or rolls back. -/
def ReadsSource (m : Migration σ) (events : List Event) : Prop :=
  ∀ request, .sent m.source.db.label request ∈ events → request.Reads ∨ request = .rollback

/-- A transaction is begun on a connection to the target and not ended yet. -/
def Begun (m : Migration σ) (events : List Event) : Prop :=
  ∃ inner, events = [.sent m.target.db.label .connect, .sent m.target.db.label .begin] ++ inner ∧
    ∀ event ∈ inner, event.isFrame = false

/-- The transaction under way on the target is going to end. -/
def Completes (m : Migration σ) (events : List Event) : Prop :=
  ∃ inner ending behind, events = inner ++ .sent m.target.db.label ending :: behind ∧
    (ending = .commit ∨ ending = .rollback) ∧ ∀ event ∈ inner, event.isFrame = false

/-- Whatever a bucket writes goes to the target and into one of the tables of the bucket, while the transaction of the
bucket is under way. -/
def WritesInside (m : Migration σ) (buckets : List (List SizedTable)) (mixed : List (Nat × Event)) : Prop :=
  ∀ before index label request after, mixed = before ++ (index, .sent label request) :: after →
    request.isWrite = true →
      label = m.target.db.label ∧
      (∃ below : index < buckets.length, ∃ table ∈ buckets[index], ∃ name,
        (name = table.name ∨ name = Text.upper table.name) ∧
          (m.worker index).targetCompiler.Writes name request) ∧
      m.Begun (ofBucket index before) ∧ m.Completes (ofBucket index after)

/-- What a bucket sends belongs to its connection and its transaction, or to moving its tables. -/
theorem Enclosed.frames_or_moves {label : String} {request : Request} (enclosed : m.Enclosed index bucket events)
    (among : .sent label request ∈ events) :
    label = m.target.db.label ∨ (m.worker index).Moves bucket (.sent label request) := by
  cases enclosed with
  | unconnected => cases among
  | unbegun =>
      simp only [List.mem_cons, Event.sent.injEq, List.not_mem_nil, or_false] at among
      rcases among with ⟨rfl, _⟩ | ⟨rfl, _⟩ | ⟨rfl, _⟩ <;> exact Or.inl rfl
  | transacted moves _ _ =>
      simp only [List.mem_append, List.mem_cons, Event.sent.injEq, List.not_mem_nil, or_false] at among
      rcases among with ((⟨rfl, _⟩ | ⟨rfl, _⟩) | inner) | ⟨rfl, _⟩ | ⟨rfl, _⟩
      · exact Or.inl rfl
      · exact Or.inl rfl
      · exact Or.inr (moves _ inner)
      · exact Or.inl rfl
      · exact Or.inl rfl

theorem Confined.readsSource {before : List Event} {mixed : List (Nat × Event)}
    (confined : m.Confined buckets before mixed) (apart : m.source.db.label ≠ m.target.db.label) :
    m.ReadsSource (before ++ mixed.map (·.2)) := by
  intro request among
  rcases List.mem_append.mp among with early | late
  · cases confined.reads _ early with
    | reads reads => exact Or.inl reads
    | undoes => exact Or.inr rfl
  · obtain ⟨⟨index, _⟩, entered, rfl⟩ := List.mem_map.mp late
    obtain ⟨work, told, own, enclosed, announced⟩ := confined.enclosed index (confined.within _ entered)
    have member : .sent m.source.db.label request ∈ work ++ told := own ▸ mem_ofBucket.mpr entered
    rcases List.mem_append.mp member with worked | heard
    · rcases enclosed.frames_or_moves worked with same | moves
      · exact absurd same apart
      · exact Or.inl (moves.reads_elsewhere apart)
    · obtain ⟨finish, same⟩ := announced _ heard
      cases same

/-- A value that is neither in the front nor in the back has its place in the middle. -/
theorem split_middle {front middle back before after : List α} {value : α} (not_front : value ∉ front)
    (not_back : value ∉ back) (whole : front ++ middle ++ back = before ++ value :: after) :
    ∃ left right, middle = left ++ value :: right ∧ before = front ++ left ∧ after = right ++ back := by
  induction front generalizing before with
  | nil =>
      rw [List.nil_append] at whole
      rcases List.append_eq_append_iff.mp whole with ⟨left, _, rfl⟩ | ⟨rest, rfl, given⟩
      · exact absurd (List.mem_append_right _ List.mem_cons_self) not_back
      · cases rest with
        | nil =>
            rw [List.nil_append] at given
            exact absurd (given ▸ List.mem_cons_self) not_back
        | cons head right =>
            cases given
            exact ⟨before, right, rfl, rfl, rfl⟩
  | cons head front ih =>
      cases before with
      | nil =>
          cases whole
          exact absurd List.mem_cons_self not_front
      | cons _ before =>
          obtain ⟨rfl, behind⟩ := List.cons.inj whole
          obtain ⟨left, right, rfl, rfl, rfl⟩ := ih (fun among => not_front (List.mem_cons_of_mem _ among)) behind
          exact ⟨left, right, rfl, rfl, rfl⟩

theorem Enclosed.writes {label : String} {request : Request} {told before after : List Event}
    (enclosed : m.Enclosed index bucket events) (announced : ∀ event ∈ told, ∃ finish, event = .announced finish)
    (split : events ++ told = before ++ .sent label request :: after) (write : request.isWrite = true) :
    (m.worker index).Moves bucket (.sent label request) ∧ m.Begun before ∧ m.Completes after := by
  have among : .sent label request ∈ events ++ told := split ▸ List.mem_append_right _ List.mem_cons_self
  have not_told : .sent label request ∉ told := by
    intro heard
    obtain ⟨finish, same⟩ := announced _ heard
    cases same
  have sent := (List.mem_append.mp among).resolve_right not_told
  cases enclosed with
  | unconnected => cases sent
  | unbegun =>
      simp only [List.mem_cons, Event.sent.injEq, List.not_mem_nil, or_false] at sent
      rcases sent with ⟨_, rfl⟩ | ⟨_, rfl⟩ | ⟨_, rfl⟩ <;> cases write
  | @transacted inner ending moves inside ends =>
      have not_front :
          .sent label request ∉ [Event.sent m.target.db.label .connect, .sent m.target.db.label .begin] := by
        intro frames
        simp only [List.mem_cons, Event.sent.injEq, List.not_mem_nil, or_false] at frames
        rcases frames with ⟨_, rfl⟩ | ⟨_, rfl⟩ <;> cases write
      have not_back : .sent label request ∉
          [Event.sent m.target.db.label ending, .sent m.target.db.label .close] ++ told := by
        intro behind
        have frames := (List.mem_append.mp behind).resolve_right not_told
        simp only [List.mem_cons, Event.sent.injEq, List.not_mem_nil, or_false] at frames
        rcases frames with ⟨_, rfl⟩ | ⟨_, rfl⟩
        · rcases ends with rfl | rfl <;> cases write
        · cases write
      rw [List.append_assoc] at split
      obtain ⟨left, right, rfl, rfl, rfl⟩ := split_middle not_front not_back split
      refine ⟨moves _ (List.mem_append_right _ List.mem_cons_self), ⟨left, rfl, ?_⟩,
        ⟨right, ending, _, rfl, ends, ?_⟩⟩
      · exact fun event member => inside event (List.mem_append_left _ member)
      · exact fun event member => inside event (List.mem_append_right _ (List.mem_cons_of_mem _ member))

theorem Confined.writesInside {before : List Event} {mixed : List (Nat × Event)}
    (confined : m.Confined buckets before mixed) : m.WritesInside buckets mixed := by
  rintro first index label request rest rfl write
  have below := confined.within _ (List.mem_append_right _ List.mem_cons_self)
  obtain ⟨work, told, own, enclosed, announced⟩ := confined.enclosed index below
  have split : work ++ told = ofBucket index first ++ .sent label request :: ofBucket index rest := by
    rw [← own, ofBucket_append]
    simp [ofBucket]
  obtain ⟨moves, begun, completes⟩ := enclosed.writes announced split write
  obtain ⟨target, held⟩ := moves.writes_target write
  exact ⟨target, ⟨below, held⟩, begun, completes⟩

/-! Runs and dry runs. -/

/-- Every run of a job is confined to the buckets into which some tables are dealt. -/
def Confines (m : Migration σ) (job : Job σ α) : Prop :=
  ∀ world, job.Ensures world fun _ events _ => ∃ tables workers before mixed,
    events = before ++ mixed.map (·.2) ∧ m.Confined (partition tables workers) before mixed

theorem confines_of_keeps {job : Job σ α} (kept : job.Keeps m.Reads fun _ => True) : m.Confines job := by
  intro world
  apply (kept world).imp
  intro result events final outcome
  exact ⟨[], 1, events, [], (List.append_nil events).symm, confined_of_reads outcome.1⟩

theorem confines_behind {job : Job σ β} {next : β → Job σ α} (kept : job.Keeps m.Reads fun _ => True)
    (then_ : ∀ value, m.Confines (next value)) : m.Confines (job >>= next) := by
  intro world
  apply (kept world).bind
  · intro value events middle outcome
    apply (then_ value middle).imp
    intro result more final confined
    rcases confined with ⟨tables, workers, before, mixed, rfl, confined⟩
    exact ⟨tables, workers, events ++ before, mixed, (List.append_assoc _ _ _).symm, confined.behind outcome.1⟩
  · intro fault events middle outcome
    exact ⟨[], 1, events, [], (List.append_nil events).symm, confined_of_reads outcome.1⟩

/-- A run on a pool that runs its buckets side by side. -/
theorem ensures_runOn_confined {pool : List (List SizedTable) → Job σ Ends} {worlds : Nat → World σ}
    {tables : List SizedTable} {workers : Int} {world : World σ}
    (concurrent : m.Concurrent condition pool worlds (partition tables workers)
      ((m.opening tables.length (partition tables workers).length).run world).2) :
    (m.runOn pool tables workers).Ensures world fun _ events _ => ∃ before mixed,
      events = before ++ mixed.map (·.2) ∧ m.Confined (partition tables workers) before mixed := by
  apply (ensures_runOn concurrent).imp
  intro result events final outcome
  rcases outcome with ⟨ends, inner, middle, ⟨mixed, rfl, sideBySide⟩, rfl, _, _⟩
  refine ⟨poolEvents (partition tables workers).length, mixed, rfl, ?_, sideBySide.within, ?_⟩
  · intro event member
    unfold poolEvents at member
    split at member
    · rw [List.mem_singleton.mp member]
      exact .pool _
    · cases member
  · intro index below
    obtain ⟨_, _, _, runs⟩ := sideBySide.runs index below
    exact runs.met (m.ensures_runBucket_enclosed condition index _ _)

/-- A run takes its buckets one after the other. -/
theorem ensures_run_confined (m : Migration σ) (tables : List SizedTable) (workers : Int) (condition : Option String)
    (world : World σ) :
    (m.run tables workers condition).Ensures world fun _ events _ => ∃ before mixed,
      events = before ++ mixed.map (·.2) ∧ m.Confined (partition tables workers) before mixed := by
  rw [run_eq]
  exact ensures_runOn_confined (m.concurrent_inOrder condition List.zipIdx (.refl _) _)

theorem confines_run (m : Migration σ) (tables : List SizedTable) (workers : Int) (condition : Option String) :
    m.Confines (m.run tables workers condition) := by
  intro world
  apply (m.ensures_run_confined tables workers condition world).imp
  intro result events final confined
  exact ⟨tables, workers, confined⟩

theorem keeps_listTables (m : Migration σ) :
    (m.source.db.listTables m.source.config.schemaName).Keeps m.Reads fun _ => True := by
  apply (Job.keeps_send (.reads (.tableNames _))).bind
  intro _ _
  exact Job.keeps_answer _

theorem keeps_sourceTables (m : Migration σ) (fragments : List String) :
    (m.sourceTables fragments).Keeps m.Reads fun _ => True := by
  apply m.keeps_listTables.bind
  intro _ _
  exact Job.keeps_pure trivial

theorem keeps_connected {job : Job σ α} {good : α → Prop} (kept : job.Keeps m.Reads good) :
    (m.source.db.withConnection job).Keeps m.Reads good :=
  m.source.db.keeps_withConnection kept (.reads .connect) (.reads .close)

theorem keeps_measure_reads (m : Migration σ) (name : String) : (m.measure name).Keeps m.Reads fun _ => True :=
  (m.keeps_measured name (fun _ => .reads (.query (Worker.query_opens _ _ _).starts)) .undoes).imp fun _ _ => trivial

theorem keeps_discover (m : Migration σ) (fragments : List String) :
    (m.discover fragments).Keeps m.Reads fun _ => True := by
  have found : (do
      let names ← m.sourceTables fragments
      let found ← names.mapM m.measure
      pure (found.filterMap id) : Job σ (List SizedTable)).Keeps m.Reads fun _ => True := by
    apply (m.keeps_sourceTables fragments).bind
    intro names _
    apply (Job.keeps_mapM m.keeps_measure_reads names).bind
    intro _ _
    exact Job.keeps_pure trivial
  apply (keeps_connected found).bind
  intro _ _
  apply (Job.keeps_note _ _).bind
  intro _ _
  exact Job.keeps_pure trivial

/-- A dry run reads the catalogue of the source and drafts the statements by itself. -/
theorem keeps_preview (m : Migration σ) (fragments : List String) :
    (m.preview fragments).Keeps m.Reads fun _ => True := by
  apply keeps_connected
  apply (m.keeps_sourceTables fragments).bind
  intro names _
  apply Job.keeps_foldlM
  intro previews name
  apply (m.source.db.keeps_snapshot name _ (.reads (.reflect _ _))).bind
  intro found _
  cases found with
  | none => exact Job.keeps_pure trivial
  | some table =>
      apply (Job.keeps_draft fun _ _ _ => trivial).bind
      intro _ _
      exact Job.keeps_pure trivial

theorem keeps_reportSkipped (m : Migration σ) (name reason : String) :
    (m.reportSkipped name reason).Keeps m.Reads fun _ => True := by
  have begins : (beginReport : Job σ Unit).Keeps m.Reads fun _ => True :=
    Job.keeps_silent fun world =>
      (ensures_beginReport world).imp fun _ _ _ outcome => ⟨outcome.2.1, fun _ _ => trivial⟩
  apply begins.bind
  intro _ _
  apply (Job.keeps_announce _ (.announced _)).bind
  intro _ _
  exact Job.keeps_silent fun world =>
    (ensures_endReport world).imp fun _ _ _ outcome => ⟨outcome.2.1, fun _ _ => trivial⟩

theorem confines_migrateTable (m : Migration σ) (name : String) (condition : Option String) :
    m.Confines (m.migrateTable name condition) := by
  apply confines_behind m.keeps_listTables
  intro names
  split
  · apply confines_of_keeps
    apply (Job.keeps_note _ _).bind
    intro _ _
    exact m.keeps_reportSkipped _ _
  · apply confines_behind (keeps_connected (m.keeps_measure_reads _))
    intro measured
    cases measured with
    | none => exact confines_of_keeps (m.keeps_reportSkipped _ _)
    | some table => exact m.confines_run [table] 1 condition

theorem confines_migrateMatching (m : Migration σ) (fragments : List String) (workers : Int) :
    m.Confines (m.migrateMatching fragments workers) := by
  unfold migrateMatching
  split
  · exact confines_of_keeps (Job.keeps_throw_bind _ _)
  · apply confines_behind (m.keeps_discover fragments)
    intro tables
    exact m.confines_run tables workers none

theorem confines_migrateAll (m : Migration σ) (workers : Int) : m.Confines (m.migrateAll workers) := by
  apply confines_behind (m.keeps_discover [])
  intro tables
  exact m.confines_run tables workers none

theorem confines_sync (m : Migration σ) (options : Command.Options) : m.Confines (Command.sync m options) := by
  unfold Command.sync
  split
  · exact m.confines_migrateTable _ _
  · split
    · exact m.confines_migrateMatching _ _
    · exact m.confines_migrateAll _

theorem keeps_dryRun (m : Migration σ) (options : Command.Options) :
    (Command.dryRun m options).Keeps m.Reads fun _ => True := by
  apply (m.keeps_preview _).bind
  intro previews _
  apply (Job.keeps_note _ _).bind
  intro _ _
  exact Job.keeps_pure trivial

/-- A migration between SQLite databases that have every table. -/
def refilling : Migration Unit :=
  let w := Worker.between .sqlite (Database.still "src" "sqlite" (fun name => some (Database.onlyId name)) fun _ => [])
    (Database.still "dst" "sqlite" (fun name => some (Database.onlyId name)) fun _ => [])
  { source := w.source, target := w.target, compiler := w.compiler, strategy := w.strategy }

end Migration

end TableFerry
