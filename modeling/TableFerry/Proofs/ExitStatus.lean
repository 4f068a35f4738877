import TableFerry.Command.Run
import TableFerry.Proofs.BalancedBuckets
import TableFerry.Proofs.TableOutcomes
/-! The status with which the program ends. It is zero exactly if all that the program was asked for was done: the
settings and the tables were found, every bucket was committed, and every table has an outcome that is no failure. -/

namespace TableFerry

namespace Migration

variable {σ : Type} {m : Migration σ} {condition : Option String} {bucket : List SizedTable}

/-! Buckets. -/

theorem reporter_mem_worker (m : Migration σ) (index : Nat) : .reporter ∈ (m.worker index).listeners :=
  List.mem_append_right _ (List.mem_singleton_self _)

/-- The target opens a connection and a transaction for a bucket, all its tables have their turns, and the target
accepts the commit. -/
def WorkCommits (m : Migration σ) (condition : Option String) (index : Nat) (bucket : List SizedTable)
    (world : World σ) : Prop :=
  ∃ connected begun count inner middle,
    m.target.db.connect world.state = (.ok (), connected) ∧ m.target.db.begin connected = (.ok (), begun) ∧
      ((m.worker index).moveTables bucket condition).Runs
        { world with
          state := begun
          trace := world.trace ++ [.sent m.target.db.label .connect] ++ [.sent m.target.db.label .begin] }
        (.ok count) inner middle ∧
      (m.target.db.commit middle.state).1 = .ok ()

/-- The databases decide how far a bucket comes. -/
theorem workCommits_iff {index : Nat} {world middle : World σ} {connected begun : σ} {moved : Except Fault Nat}
    {inner : List Event} (accepted : m.target.db.connect world.state = (.ok (), connected))
    (began : m.target.db.begin connected = (.ok (), begun))
    (runs : ((m.worker index).moveTables bucket condition).Runs
      { world with
        state := begun
        trace := world.trace ++ [.sent m.target.db.label .connect] ++ [.sent m.target.db.label .begin] }
      moved inner middle) :
    m.WorkCommits condition index bucket world ↔
      moved.isOk = true ∧ (m.target.db.commit middle.state).1 = .ok () := by
  constructor
  · rintro ⟨connected', begun', count, inner', middle', accepted', began', runs', commits⟩
    rw [accepted] at accepted'
    cases accepted'
    rw [began] at began'
    cases began'
    cases runs.1.symm.trans runs'.1
    exact ⟨rfl, commits⟩
  · rintro ⟨all_had_turns, commits⟩
    cases moved with
    | error => cases all_had_turns
    | ok count => exact ⟨connected, begun, count, inner, middle, accepted, began, runs, commits⟩

theorem ensures_bucketWork_commits (m : Migration σ) (condition : Option String) (index : Nat)
    (bucket : List SizedTable) (world : World σ) :
    (m.bucketWork index bucket condition).Ensures world fun result _ final =>
      (result.isOk = true ↔ m.WorkCommits condition index bucket world) ∧
        (result.isOk = true →
          Report.Grows (fun name => ∃ table ∈ bucket, table.name = name) world.report final.report ∧
            ∀ table ∈ bucket, table.name ∈ final.report.tables) := by
  apply Database.ensures_withConnection
  case refused =>
    intro fault state refused
    refine ⟨⟨nofun, ?_⟩, nofun⟩
    rintro ⟨connected, _, _, _, _, accepted, _⟩
    rw [refused] at accepted
    cases accepted
  case opened =>
    intro connected accepted
    apply Database.ensures_withTransaction
    case refused =>
      intro fault state refused
      refine ⟨⟨nofun, ?_⟩, nofun⟩
      rintro ⟨connected', _, _, _, _, accepted', begun, _⟩
      rw [accepted] at accepted'
      cases accepted'
      rw [show m.target.db.begin connected = _ from refused] at begun
      cases begun
    case opened =>
      intro begun began
      apply Job.ensures_bind
      apply (Worker.ensures_moveFrom (m.worker index) bucket.length condition 1 bucket _).runs.imp
      intro moved inner middle outcome
      rcases outcome with ⟨runs, stints, went, _⟩
      rw [workCommits_iff accepted began runs]
      cases moved with
      | error fault =>
          intro answered state ended
          have failed : (answered.bind fun _ => (.error fault : Except Fault Unit)).isOk = false := by
            cases answered <;> rfl
          rw [failed]
          exact ⟨⟨nofun, fun commits => nomatch commits.1⟩, nofun⟩
      | ok count =>
          apply (Job.ensures_pure ()).mpr
          intro answered state ended
          have committed : (m.target.db.commit middle.state).1 = answered := congrArg Prod.fst ended
          rw [committed]
          refine ⟨?_, fun _ => went.recorded (m.reporter_mem_worker index) rfl⟩
          cases answered with
          | ok => exact iff_of_true rfl ⟨rfl, rfl⟩
          | error => exact iff_of_false nofun fun commits => nomatch commits.2

/-- The world in which the work of a bucket begins, when its tables have been noted. -/
def noted (index : Nat) (bucket : List SizedTable) (world : World σ) : World σ :=
  ((Job.note .debug (s!"Worker bucket {index}: " ++
    (Value.list (bucket.map fun table => .text table.name)).written) : Job σ Unit).run world).2

theorem ensures_runBucket_commits (m : Migration σ) (condition : Option String) (index : Nat)
    (bucket : List SizedTable) (world : World σ) :
    (m.runBucket condition index bucket).Ensures world fun outcome _ final =>
      ∃ result, outcome = .ok result ∧
        (result.isOk = true ↔ m.WorkCommits condition index bucket (noted index bucket world)) ∧
        (result.isOk = true →
          Report.Grows (fun name => ∃ table ∈ bucket, table.name = name) world.report final.report ∧
            ∀ table ∈ bucket, table.name ∈ final.report.tables) := by
  rw [runBucket_eq]
  apply Job.ensures_bind
  rw [Job.ensures_note]
  apply Job.ensures_bind
  rw [Job.ensures_attempt]
  apply (m.ensures_bucketWork_commits condition index bucket (noted index bucket world)).imp
  intro result events middle outcome
  rcases outcome with ⟨commits, recorded⟩
  apply Job.ensures_bind
  apply ((Job.ensures_announce_report _ (finished index result) middle).and (Job.ensures_announce _ _ middle)).imp
  intro _ more final told
  rcases told with ⟨⟨-, times, -, report⟩, rfl, -⟩
  refine (Job.ensures_pure result).mpr ⟨result, rfl, commits, ?_⟩
  intro passed
  have same : final.report = middle.report := by
    rw [report]
    cases result with
    | error => cases passed
    | ok =>
        clear report
        induction times with
        | nil => rfl
        | cons now rest ih => exact ih
  rw [same]
  exact recorded passed

/-- All buckets end well exactly if all are committed, and then the report has grown by outcomes of all their tables
and of no others. -/
theorem ensures_inOrder_commits (m : Migration σ) (condition : Option String) (jobs : List (List SizedTable × Nat))
    (apart : (jobs.map (·.2)).Nodup) (world : World σ) :
    (m.inOrder condition jobs).Ensures world fun outcome _ final =>
      ∃ ends, outcome = .ok ends ∧
        ((∀ entry ∈ ends, entry.2.isOk = true) ↔
          ∀ job ∈ jobs,
            m.WorkCommits condition job.2 job.1 (noted job.2 job.1 (m.startsOf condition jobs world job.2))) ∧
        ((∀ entry ∈ ends, entry.2.isOk = true) →
          Report.Grows (fun name => ∃ job ∈ jobs, ∃ table ∈ job.1, table.name = name) world.report final.report ∧
            ∀ job ∈ jobs, ∀ table ∈ job.1, table.name ∈ final.report.tables) := by
  induction jobs generalizing world with
  | nil => exact (Job.ensures_pure _).mpr ⟨[], rfl, ⟨fun _ => nofun, fun _ => nofun⟩, fun _ => ⟨.refl _, nofun⟩⟩
  | cons job rest ih =>
      rcases job with ⟨bucket, index⟩
      rw [List.map_cons, List.nodup_cons] at apart
      rw [inOrder_cons]
      apply Job.ensures_bind
      apply (m.ensures_runBucket_commits condition index bucket world).runs.imp
      intro _ events middle outcome
      rcases outcome with ⟨runs, result, rfl, commits, recorded⟩
      apply Job.ensures_bind
      apply (ih apart.2 middle).imp
      intro _ more final outcome
      rcases outcome with ⟨ends, rfl, commits_later, recorded_later⟩
      -- The buckets behind have other numbers, so that they begin from the same worlds with the first one left out.
      have starts (job : List SizedTable × Nat) (behind : job ∈ rest) :
          m.startsOf condition ((bucket, index) :: rest) world job.2 = m.startsOf condition rest middle job.2 := by
        have other : job.2 ≠ index := fun same => apart.1 (List.mem_map.mpr ⟨job, behind, same⟩)
        rw [startsOf, if_neg other, runs.1]
      refine (Job.ensures_pure _).mpr ⟨_, rfl, ?_, ?_⟩
      · rw [List.forall_mem_cons, List.forall_mem_cons, commits, commits_later, startsOf, if_pos rfl]
        apply and_congr_right
        intro _
        apply forall₂_congr
        intro job behind
        rw [starts job behind]
      · rw [List.forall_mem_cons, List.forall_mem_cons]
        rintro ⟨passed, passed_later⟩
        obtain ⟨grows, own⟩ := recorded passed
        obtain ⟨grows_later, others⟩ := recorded_later passed_later
        refine ⟨?_, fun table member => grows_later.keeps _ (own table member), others⟩
        apply (grows.imp fun name among => ⟨_, List.mem_cons_self, among⟩).trans
        apply grows_later.imp
        rintro name ⟨job, behind, among⟩
        exact ⟨job, List.mem_cons_of_mem _ behind, among⟩

/-- Every bucket of a run that begins in a world is committed. -/
def AllCommit (m : Migration σ) (tables : List SizedTable) (workers : Int) (condition : Option String)
    (world : World σ) : Prop :=
  ∀ job ∈ (partition tables workers).zipIdx, m.WorkCommits condition job.2 job.1
    (noted job.2 job.1 (m.startsOf condition (partition tables workers).zipIdx
      ((m.opening tables.length (partition tables workers).length).run world).2 job.2))

theorem mem_buckets {tables : List SizedTable} {workers : Int} {table : SizedTable} :
    (∃ job ∈ (partition tables workers).zipIdx, table ∈ job.1) ↔ table ∈ tables := by
  rw [← (partition_flatten_perm tables workers).mem_iff, List.mem_flatten]
  constructor
  · rintro ⟨job, among, member⟩
    exact ⟨job.1, List.fst_mem_of_mem_zipIdx among, member⟩
  · rintro ⟨bucket, among, member⟩
    obtain ⟨index, below, rfl⟩ := List.mem_iff_getElem.mp among
    exact ⟨(_, index), List.mem_zipIdx_iff_getElem?.mpr (List.getElem?_eq_getElem below), member⟩

/-- Whatever faults end its buckets, a run fails with its report alone, which the program handles. -/
theorem verdict_isHandled {buckets : Nat} {failed : List (Nat × String)} {report : Report} {fault : Fault}
    (ended : verdict buckets failed report = .error fault) : fault.kind.isHandled = true := by
  unfold verdict at ended
  split at ended
  · cases ended
  · cases ended
    rfl

/-- A run gives a report without failures exactly if all its buckets are committed and every table that it was given
has an outcome that is no failure. -/
theorem ensures_run_ok (m : Migration σ) (tables : List SizedTable) (workers : Int) (condition : Option String)
    (world : World σ) :
    (m.run tables workers condition).Ensures world fun result _ final =>
      (∀ fault, result = .error fault → fault.kind.isHandled = true) ∧
        ((∃ report, result = .ok report ∧ report.ok = true) ↔
          m.AllCommit tables workers condition world ∧ ∀ table ∈ tables, final.report.Passes table.name) := by
  have numbers : (partition tables workers).zipIdx.map (·.2) = List.range (partition tables workers).length := by
    rw [List.zipIdx_map_snd, List.range_eq_range']
  obtain ⟨_, _, _, _, fresh⟩ := ensures_opening m tables.length (partition tables workers).length world
  rw [run_eq]
  apply (ensures_runOn (m.ensures_inOrder_commits condition (partition tables workers).zipIdx
    (numbers ▸ List.nodup_range) _)).imp
  intro result events final outcome
  rcases outcome with ⟨ends, inner, middle, ⟨commits, recorded⟩, -, report, rfl⟩
  have outcomes : final.report.outcomes = middle.report.outcomes := by rw [report]; rfl
  have errors : final.report.bucketErrors = middle.report.bucketErrors := by rw [report]; rfl
  refine ⟨fun fault => verdict_isHandled, ?_, ?_⟩
  · rintro ⟨given, passed, all_well⟩
    obtain ⟨none_failed, rfl⟩ := verdict_eq_ok passed
    have ended := failures_eq_nil.mp none_failed
    refine ⟨commits.mp ended, ?_⟩
    intro table member
    obtain ⟨job, among, inside⟩ := mem_buckets.mpr member
    have stands := (recorded ended).2 job among table inside
    rw [Report.tables, ← outcomes] at stands
    exact Report.passes_of_ok all_well stands
  -- The report began empty and grew by tables of the run alone, so that no other table can have failed.
  · rintro ⟨committed, passes⟩
    have ended := commits.mpr committed
    obtain ⟨grows, _⟩ := recorded ended
    rw [fresh] at grows
    refine ⟨final.report, ?_, (Report.ok_iff _).mpr ⟨errors.trans grows.errors, ?_⟩⟩
    · rw [failures_eq_nil.mpr ended]
      rfl
    · intro entry kept failed
      rw [outcomes] at kept
      have distinct : middle.report.tables.Nodup := grows.distinct List.nodup_nil
      obtain ⟨job, among, table, inside, own⟩ :=
        (grows.adds entry.1 (List.mem_map_of_mem kept)).resolve_left List.not_mem_nil
      obtain ⟨standing, stands, passed⟩ := passes table (mem_buckets.mp ⟨job, among, inside⟩)
      rw [outcomes, own] at stands
      have same : entry = (entry.1, standing) := List.inj_on_of_nodup_map distinct kept stands rfl
      rw [same] at failed
      exact passed failed

end Migration

namespace Command

variable {σ : Type}

/-! The program from its options on. -/

/-- Reads the settings and makes the migration. -/
def prepare (around : Surroundings σ) (options : Options) : Job σ (Migration σ) := do
  let (settings, line) ← Job.ofExcept (Settings.load around.files around.environment options.config)
  Job.noteAll [line]
  let source ← Job.ofExcept (settings.datasource (.text (options.source.getD "")))
  let target ← Job.ofExcept (settings.datasource (.text (options.target.getD "")))
  let strategy ← Job.ofExcept (strategy settings.strategy options)
  logStrategy source target strategy
  let source ← Provider.create source strategy.debug usualPoolSize around.connect
  let target ← Provider.create target strategy.debug usualPoolSize around.connect
  Migration.make source target strategy around.picks [.logger]

/-- What the selection of tables comes to before any worker runs: one table that is skipped at once, or the tables that
are handed to a run. -/
inductive Selection where
  | skipped (name reason : String)
  | handed (tables : List SizedTable) (workers : Int) (condition : Option String)

def Selection.names : Selection → List String
  | skipped name _ => [name]
  | handed tables _ _ => tables.map (·.name)

/-- Finds the tables that the options select. -/
def select (m : Migration σ) (options : Options) : Job σ Selection :=
  if isGiven options.table then do
    let name := options.table.getD ""
    let names ← m.source.db.listTables m.source.config.schemaName
    match Migration.requested? names name with
    | none =>
      Job.note .error (s!"Table[{name}] does not exist in source " ++ m.source.config.id.shown)
      pure (.skipped name "source table does not exist")
    | some found =>
      match ← m.source.db.withConnection (m.measure found) with
      | none => pure (.skipped found s!"exceeds the limit of {m.strategy.limit} rows")
      | some table => pure (.handed [table] 1 options.condition)
  else if isGiven options.tables then do
    let fragments := splitNames (options.tables.getD "")
    if fragments.isEmpty then
      throw (.configuration "sync_table_list needs at least one table name")
    let tables ← m.discover fragments
    pure (.handed tables (workersOr options 1) none)
  else do
    let tables ← m.discover []
    pure (.handed tables (workersOr options Migration.usualWorkers) none)

/-- Moves what was selected. -/
def carry (m : Migration σ) : Selection → Job σ Report
  | .skipped name reason => m.reportSkipped name reason
  | .handed tables workers condition => m.run tables workers condition

theorem sync_eq (m : Migration σ) (options : Options) : sync m options = select m options >>= carry m := by
  unfold sync select
  split
  · unfold Migration.migrateTable
    dsimp only
    rw [bind_assoc]
    congr 1
    funext names
    cases Migration.requested? names (options.table.getD "") with
    | none =>
        dsimp only
        rw [bind_assoc]
        rfl
    | some found =>
        dsimp only
        rw [bind_assoc]
        congr 1
        funext measured
        cases measured <;> rfl
  · split
    · unfold Migration.migrateMatching
      dsimp only
      split
      · rfl
      · rw [bind_assoc]
        rfl
    · unfold Migration.migrateAll
      rw [bind_assoc]
      rfl

/-- What was selected was done: every bucket is committed, and every selected table has an outcome that is no
failure. -/
def Done (m : Migration σ) (selection : Selection) (world : World σ) : Prop :=
  (match selection with
    | .skipped .. => True
    | .handed tables workers condition => m.AllCommit tables workers condition world) ∧
  ∀ name ∈ selection.names, ((carry m selection).run world).2.report.Passes name

theorem ensures_reportSkipped (m : Migration σ) (name reason : String) (world : World σ) :
    (m.reportSkipped name reason).Ensures world fun result _ final =>
      (∃ report, result = .ok report ∧ report.ok = true) ∧ final.report.Passes name := by
  have still_ok (times : List Number.Double) {report : Report} (well : report.ok = true) :
      (times.foldl (fun report now => report.record now (.skipped 0 name reason)) report).ok = true := by
    induction times generalizing report with
    | nil => exact well
    | cons now rest ih => exact ih (Report.ok_skipped 0 name reason well)
  unfold Migration.reportSkipped
  apply Job.ensures_bind
  apply (Migration.ensures_beginReport world).imp
  intro result events start outcome
  rcases outcome with ⟨rfl, -, fresh⟩
  have reports : .reporter ∈ m.listeners ++ [.reporter] := List.mem_append_right _ (List.mem_singleton_self _)
  apply Job.ensures_bind
  apply ((Job.ensures_announce_told reports rfl start).and (Job.ensures_announce_report _ _ start)).imp
  intro result events middle outcome
  rcases outcome with ⟨⟨rfl, stands⟩, -, times, -, told⟩
  apply (Migration.ensures_endReport middle).imp
  intro result events final outcome
  rcases outcome with ⟨rfl, -, ended⟩
  have well : middle.report.ok = true := by
    rw [told]
    exact still_ok times (fresh ▸ Report.ok_begin _)
  rw [ended]
  exact ⟨⟨_, rfl, well⟩, Report.passes_of_ok well stands⟩

theorem carry_ok_iff (m : Migration σ) (selection : Selection) (world : World σ) :
    (∃ report, ((carry m selection).run world).1 = .ok report ∧ report.ok = true) ↔ Done m selection world := by
  cases selection with
  | skipped name reason =>
      obtain ⟨_, _, passed, stands⟩ := ensures_reportSkipped m name reason world
      apply iff_of_true passed
      refine ⟨trivial, fun other member => ?_⟩
      rw [List.mem_singleton.mp member]
      exact stands
  | handed tables workers condition =>
      obtain ⟨_, _, _, same⟩ := m.ensures_run_ok tables workers condition world
      exact same.trans (and_congr_right fun _ => (List.forall_mem_map).symm)

theorem carry_isHandled (m : Migration σ) (selection : Selection) (world : World σ) {fault : Fault}
    (ended : ((carry m selection).run world).1 = .error fault) : fault.kind.isHandled = true := by
  cases selection with
  | skipped name reason =>
      obtain ⟨_, _, ⟨_, given, _⟩, _⟩ := ensures_reportSkipped m name reason world
      cases given.symm.trans ended
  | handed tables workers condition =>
      obtain ⟨_, _, handled, _⟩ := m.ensures_run_ok tables workers condition world
      exact handled fault ended

/-- What is done before any worker runs: the migration is made and finds what it is to move. -/
def choose (around : Surroundings σ) (options : Options) : Job σ (Migration σ × Selection) := do
  let m ← prepare around options
  let selection ← select m options
  pure (m, selection)

/-- Moves the selected tables and ends as the report tells. -/
def finish (m : Migration σ) (options : Options) : Job σ Ending := do
  let report ← sync m options
  pure ⟨if report.ok then 0 else 1, [report.exportText]⟩

theorem migrate_eq (around : Surroundings σ) {options : Options} (real : options.dryRun = false) :
    migrate around options = (do
      let m ← prepare around options
      let result ← (finish m options).attempt
      m.close
      Job.ofExcept result) := by
  unfold migrate prepare
  rw [real]
  simp only [bind_assoc]
  rfl

/-- Giving up the connections keeps the result. -/
theorem run_closing {α : Type} (m : Migration σ) (job : Job σ α) (world : World σ) :
    ((do
      let result ← job.attempt
      m.close
      Job.ofExcept result : Job σ α).run world).1 = (job.run world).1 := by
  rw [Job.run_bind]
  rfl

theorem run_finish (m : Migration σ) (options : Options) (world : World σ) :
    ((finish m options).run world).1 =
      match (select m options).run world with
      | (.error fault, _) => .error fault
      | (.ok selection, found) =>
        ((carry m selection).run found).1.map fun report => ⟨if report.ok then 0 else 1, [report.exportText]⟩ := by
  rw [finish, sync_eq, bind_assoc, Job.run_bind]
  cases selected : (select m options).run world with
  | mk result found =>
      cases result with
      | error fault => rfl
      | ok selection =>
          dsimp only
          rw [Job.run_bind]
          cases ((carry m selection).run found).1 <;> rfl

/-- The report of the run decides the status, and all faults are passed on. -/
theorem run_migrate (around : Surroundings σ) {options : Options} (real : options.dryRun = false) (world : World σ) :
    ((migrate around options).run world).1 =
      match (choose around options).run world with
      | (.error fault, _) => .error fault
      | (.ok (m, selection), found) =>
        ((carry m selection).run found).1.map fun report => ⟨if report.ok then 0 else 1, [report.exportText]⟩ := by
  rw [migrate_eq around real, choose, Job.run_bind, Job.run_bind]
  cases prepared : (prepare around options).run world with
  | mk result ready =>
      cases result with
      | error fault => rfl
      | ok m =>
          dsimp only
          rw [run_closing, run_finish, Job.run_bind]
          cases (select m options).run ready with
          | mk result found => cases result <;> rfl

theorem run_execute_ok {around : Surroundings σ} {options : Options} {world : World σ} {ending : Ending}
    (ended : ((migrate around options).run world).1 = .ok ending) :
    ((execute around options).run world).1 = .ok ending := by
  unfold execute
  rw [Job.run_bind]
  have attempted : ((migrate around options).attempt.run world).1 = .ok (.ok ending) := congrArg Except.ok ended
  rw [attempted]
  rfl

theorem run_execute_error {around : Surroundings σ} {options : Options} {world : World σ} {fault : Fault}
    (ended : ((migrate around options).run world).1 = .error fault) (handled : fault.kind.isHandled = true) :
    ∃ ending, ((execute around options).run world).1 = .ok ending ∧ ending.status = 1 := by
  unfold execute
  rw [Job.run_bind]
  have attempted : ((migrate around options).attempt.run world).1 = .ok (.error fault) := congrArg Except.ok ended
  rw [attempted]
  dsimp only
  split
  · exact ⟨_, rfl, rfl⟩
  · rw [if_pos handled]
    exact ⟨_, rfl, rfl⟩

/-- All that the program was asked for was done: the settings were read, the tables were found, and what was selected
of them is done. -/
def Accomplished (around : Surroundings σ) (options : Options) (world : World σ) : Prop :=
  ∃ m selection found, (choose around options).run world = (.ok (m, selection), found) ∧ Done m selection found

/-- Two datasources as a configuration file lists them. -/
def twoDatasources : String :=
  let entry (id : String) : String :=
    "\x7b\"id\": \"" ++ id ++ "\", \"db_type\": \"sqlite\", \"url\": \"sqlite:///" ++ id ++
      "\", \"user\": \"u\", \"password\": \"p\"\x7d"
  "[" ++ entry "a" ++ "," ++ entry "b" ++ "]"

/-- Behind every URL there is one table with one row, and insertions are answered as given. -/
def oneTable (inserted : Except Fault Unit) : Surroundings Unit where
  files := fun _ => some (twoDatasources.toList.map (·.toNat))
  environment := []
  connect := fun written => pure {
    Database.still written "sqlite" (fun name => some (Database.onlyId name)) fun _ => [[("id", .int 7)]] with
    tableNames := fun _ state => (.ok ["orders"], state)
    execute := fun _ state => (.ok (.int 1), state)
    insert := fun _ _ state => (inserted, state) }
  picks := fun _ => 0

def allTables : Options := { config := some "c.json", source := some "a", target := some "b", all := true }

end Command

end TableFerry
