import TableFerry.Proofs.BalancedBuckets
import TableFerry.Proofs.Savepoints
import TableFerry.Proofs.TargetWrites
/-! The table that is moved for a requested name. Of the tables of the source it is the first one whose name is the
requested one but for its case; it is counted, and then it is skipped for its size or moved, and no other table is. The
requested name itself comes behind another spelling of it that stands in front of it. -/

namespace TableFerry

/-! The choice. -/

theorem Text.occursIn_self (cs : List Char) : occursIn cs cs = true := by
  cases cs with
  | nil => rfl
  | cons c cs => simp [occursIn]

/-- A search finds a value that it looks for unless another such value stands in front of it. -/
theorem find?_eq_self_iff {α : Type} [DecidableEq α] {p : α → Bool} {values : List α} {value : α}
    (among : value ∈ values) (fits : p value = true) :
    values.find? p = some value ↔ ∀ other ∈ values.takeWhile (· ≠ value), p other = false := by
  induction values with
  | nil => cases among
  | cons head tail ih =>
      by_cases same : head = value
      · simp [same, fits]
      · have later : value ∈ tail := (List.mem_cons.mp among).resolve_left (Ne.symm same)
        cases early : p head with
        | true => simp [same, early]
        | false => simpa [same, early] using ih later

namespace Migration

variable {σ : Type} {names : List String} {name table : String}

/-- A name holds itself as a fragment, so that looking for fragments first leaves out no spelling of it. -/
theorem requested?_eq (names : List String) (named : name ≠ "") :
    requested? names name = names.find? fun other => Text.lower other == Text.lower name := by
  have fragment : selectNames names [name] =
      names.filter fun other => Text.hasPiece (Text.lower other) (Text.lower name) := by
    simp [selectNames, named]
  rw [requested?, fragment, List.find?_filter]
  congr 1
  funext other
  by_cases same : Text.lower other = Text.lower name
  · simp [same, Text.hasPiece, Text.occursIn_self]
  · simp [same]

theorem requested?_eq_none (named : name ≠ "") (missing : ∀ other ∈ names, Text.lower other ≠ Text.lower name) :
    requested? names name = none := by
  rw [requested?_eq names named, List.find?_eq_none]
  intro other among
  simpa using missing other among

theorem exists_requested? (named : name ≠ "") (present : ∃ other ∈ names, Text.lower other = Text.lower name) :
    ∃ table ∈ names, requested? names name = some table ∧ Text.lower table = Text.lower name ∧
      (name ∈ names →
        (table = name ↔ ∀ other ∈ names.takeWhile (· ≠ name), Text.lower other ≠ Text.lower name)) := by
  obtain ⟨other, among, spelled⟩ := present
  have choice := requested?_eq names named
  cases found : requested? names name with
  | none =>
      rw [found] at choice
      have differs := List.find?_eq_none.mp choice.symm other among
      simp [spelled] at differs
  | some table =>
      rw [found] at choice
      have spells := List.find?_some choice.symm
      refine ⟨table, List.mem_of_find?_eq_some choice.symm, rfl, by simpa using spells, ?_⟩
      intro listed
      have first := find?_eq_self_iff (p := fun other => Text.lower other == Text.lower name) listed (by simp)
      rw [← choice] at first
      simpa using first

/-! The count. -/

variable {m : Migration σ} {condition : Option String}

/-- The statement that counts the rows of a table. -/
def countRequest (m : Migration σ) (quoted : String) : Event :=
  .sent m.source.db.label (.execute (Worker.query "count(*)" quoted none))

/-- The events of counting a table: on a connection of its own to the source its rows are counted, and a count that
failed is undone. -/
def Counts (m : Migration σ) (table : String) (events : List Event) : Prop :=
  ∃ quoted undone, m.source.qualifiedName table = .ok quoted ∧
    (undone = [] ∨ undone = [.sent m.source.db.label .rollback]) ∧
    events = .sent m.source.db.label .connect :: m.countRequest quoted :: undone ++ [.sent m.source.db.label .close]

/-- The source counts so many rows on an open connection. -/
def CountsTo (m : Migration σ) (table : String) (state : σ) (rows : Nat) : Prop :=
  ∃ quoted, m.source.qualifiedName table = .ok quoted ∧
    (m.source.db.execute (Worker.query "count(*)" quoted none) state).1 = .ok (.int rows)

/-- The source opens a connection and counts so many rows on it. -/
def Answers (m : Migration σ) (table : String) (state : σ) (rows : Nat) : Prop :=
  ∃ opened, m.source.db.connect state = (.ok (), opened) ∧ m.CountsTo table opened rows

theorem ensures_number (db : Database σ) (sql : String) (world : World σ) :
    (db.number sql).Ensures world fun result events _ =>
      events = [.sent db.label (.execute sql)] ∧
        ∀ n, (db.execute sql world.state).1 = .ok (.int n) → result = .ok n := by
  apply Job.ensures_bind
  apply (Database.ensures_run db sql world).imp
  rintro result events middle ⟨rfl, answered, _⟩
  rw [answered]
  cases result with
  | error fault => exact ⟨rfl, nofun⟩
  | ok value =>
      dsimp only
      split
      · refine (Job.ensures_ofExcept _).mpr ⟨rfl, ?_⟩
        rintro n ⟨⟩
        rfl
      · rename_i zero
        refine (Job.ensures_pure _).mpr ⟨rfl, ?_⟩
        rintro n ⟨⟩
        have none_left : n = 0 := by simpa [Value.truthy] using zero
        rw [none_left]

/-- Only an empty name cannot be written, which is no fault of a database. -/
theorem qualifiedName_error {provider : Provider σ} {fault : Fault}
    (failed : provider.qualifiedName table = .error fault) : fault.kind.isDatabase = false := by
  have unquoted {text : String} {fault : Fault} (failed : provider.quote text = .error fault) :
      fault.kind.isDatabase = false := by
    unfold Provider.quote at failed
    split at failed <;> cases failed
    rfl
  unfold Provider.qualifiedName at failed
  split at failed
  · cases schema : provider.quote provider.config.schemaName.shown with
    | error other =>
        rw [schema] at failed
        cases failed
        exact unquoted schema
    | ok _ =>
        cases own : provider.quote table with
        | error other =>
            rw [schema, own] at failed
            cases failed
            exact unquoted own
        | ok _ =>
            rw [schema, own] at failed
            cases failed
  · exact unquoted failed

theorem ofCount_eq {count : Int} {found : SizedTable} (given : SizedTable.ofCount name count = .ok found) :
    found = ⟨name, if count = -1 then none else some count.toNat⟩ := by
  unfold SizedTable.ofCount at given
  split at given
  · cases given
  · cases given
    rfl

/-- What comes of counting a table when the source may have counted its rows: a fault only if it has not, no table only
for a number of rows that exceeds the limit, and else the table with the number of its rows. -/
def Measured (m : Migration σ) (table : String) (counted : Nat → Prop) : Except Fault (Option SizedTable) → Prop
  | .error _ => ∀ rows, ¬ counted rows
  | .ok none => ∃ rows, m.strategy.exceeds (some rows) = true ∧ ∀ other, counted other → other = rows
  | .ok (some sized) => sized.name = table ∧ m.strategy.exceeds sized.rows = false ∧
      ∀ rows, counted rows → sized.rows = some rows

theorem ensures_count (m : Migration σ) (table : String) (world : World σ) :
    (do
      let quoted ← Job.ofExcept (m.source.qualifiedName table)
      m.source.db.number (Worker.query "count(*)" quoted none) : Job σ Int).Ensures world
        fun result events _ =>
          ((∃ quoted, m.source.qualifiedName table = .ok quoted ∧ events = [m.countRequest quoted]) ∨
            (events = [] ∧ ∃ fault, result = .error fault ∧ fault.kind.isDatabase = false)) ∧
          ∀ rows, m.CountsTo table world.state rows → result = .ok rows := by
  apply Job.ensures_bind
  rw [Job.ensures_ofExcept]
  cases written : m.source.qualifiedName table with
  | error fault =>
      refine ⟨Or.inr ⟨rfl, fault, rfl, qualifiedName_error written⟩, ?_⟩
      rintro rows ⟨quoted, same, _⟩
      cases written.symm.trans same
  | ok quoted =>
      apply (ensures_number m.source.db _ world).imp
      rintro result events final ⟨rfl, answers⟩
      refine ⟨Or.inl ⟨quoted, rfl, rfl⟩, ?_⟩
      rintro rows ⟨_, same, answered⟩
      cases written.symm.trans same
      exact answers rows answered

theorem ensures_measure (m : Migration σ) (table : String) (world : World σ) :
    (m.measure table).Ensures world fun result events _ =>
      ((∃ quoted undone, m.source.qualifiedName table = .ok quoted ∧
          (undone = [] ∨ undone = [.sent m.source.db.label .rollback]) ∧ events = m.countRequest quoted :: undone) ∨
        (events = [] ∧ ∃ fault, result = .error fault)) ∧
      m.Measured table (m.CountsTo table world.state) result := by
  apply Job.ensures_bind
  rw [Job.ensures_attempt]
  apply (m.ensures_count table world).imp
  rintro result events middle ⟨asked, answers⟩
  cases result with
  | error fault =>
      have unanswered : ∀ rows, ¬ m.CountsTo table world.state rows := by
        intro rows counted
        cases answers rows counted
      dsimp only
      rcases asked with ⟨quoted, written, rfl⟩ | ⟨rfl, _, ⟨⟩, foreign⟩
      · split
        · exact (Job.ensures_throw fault).mpr ⟨Or.inl ⟨quoted, [], written, Or.inl rfl, rfl⟩, unanswered⟩
        · apply Job.ensures_bind
          rw [Job.ensures_note]
          apply Job.ensures_bind
          rw [Job.ensures_send]
          apply Job.ensures_bind
          rw [Job.ensures_answer]
          dsimp only
          split
          · exact (Job.ensures_pure _).mpr ⟨Or.inl ⟨quoted, _, written, Or.inr rfl, rfl⟩, rfl,
              exceeds_none m.strategy, fun rows counted => absurd counted (unanswered rows)⟩
          · exact ⟨Or.inl ⟨quoted, _, written, Or.inr rfl, rfl⟩, unanswered⟩
      · rw [foreign]
        exact (Job.ensures_throw fault).mpr ⟨Or.inr ⟨rfl, fault, rfl⟩, unanswered⟩
  | ok count =>
      rcases asked with ⟨quoted, written, rfl⟩ | ⟨_, _, ⟨⟩, _⟩
      have same : ∀ rows, m.CountsTo table world.state rows → count = rows :=
        fun rows counted => Except.ok.inj (answers rows counted)
      dsimp only
      split
      · rename_i large
        apply Job.ensures_bind
        rw [Job.ensures_note]
        refine (Job.ensures_pure _).mpr ⟨Or.inl ⟨quoted, [], written, Or.inl rfl, rfl⟩, count.toNat,
          (Bool.and_eq_true_iff.mp large).2, ?_⟩
        intro rows counted
        rw [same rows counted, Int.toNat_natCast]
      · rename_i within
        apply Job.ensures_bind
        rw [Job.ensures_ofExcept]
        cases given : SizedTable.ofCount table count with
        | error fault =>
            refine ⟨Or.inl ⟨quoted, [], written, Or.inl rfl, rfl⟩, ?_⟩
            intro rows counted
            rw [same rows counted] at given
            unfold SizedTable.ofCount at given
            rw [if_neg (by omega)] at given
            cases given
        | ok sized =>
            refine (Job.ensures_pure _).mpr ⟨Or.inl ⟨quoted, [], written, Or.inl rfl, rfl⟩, ?_,
              exceeds_ofCount within given, ?_⟩
            · rw [ofCount_eq given]
            · intro rows counted
              have counts := same rows counted
              rw [ofCount_eq given, counts, if_neg (by omega), Int.toNat_natCast]

/-- What is sent when a table is not counted: nothing if no connection opens, and nothing on the connection if the name
of the table cannot be written. -/
def Uncounted (m : Migration σ) (events : List Event) : Prop :=
  events = [] ∨ events = [.sent m.source.db.label .connect, .sent m.source.db.label .close]

theorem ensures_connected_measure (m : Migration σ) (table : String) (world : World σ) :
    (m.source.db.withConnection (m.measure table)).Ensures world fun result events _ =>
      (m.Counts table events ∨ (m.Uncounted events ∧ ∃ fault, result = .error fault)) ∧
      m.Measured table (m.Answers table world.state) result := by
  apply Database.ensures_withConnection
  · intro fault state refused
    refine ⟨Or.inr ⟨Or.inl rfl, fault, rfl⟩, ?_⟩
    rintro rows ⟨opened, connected, _⟩
    cases refused.symm.trans connected
  · intro state opened
    have same : m.Answers table world.state = m.CountsTo table state := by
      funext rows
      simp [Answers, opened]
    rw [same]
    apply (m.ensures_measure table _).imp
    rintro result events final ⟨⟨quoted, undone, written, undoes, rfl⟩ | ⟨rfl, failed⟩, measured⟩
    · exact ⟨Or.inl ⟨quoted, undone, written, undoes, rfl⟩, measured⟩
    · exact ⟨Or.inr ⟨Or.inr rfl, failed⟩, measured⟩

theorem Counts.isWrite {events : List Event} (counts : m.Counts table events) {label : String} {request : Request}
    (sent : .sent label request ∈ events) : request.isWrite = false := by
  obtain ⟨quoted, undone, _, undoes, rfl⟩ := counts
  simp only [countRequest, List.cons_append, List.mem_cons, List.mem_append, Event.sent.injEq, List.not_mem_nil,
    or_false] at sent
  rcases sent with ⟨_, rfl⟩ | ⟨_, rfl⟩ | undid | ⟨_, rfl⟩
  · rfl
  · exact (Request.Reads.query (Worker.query_opens _ _ _).starts).isWrite
  · rcases undoes with rfl | rfl
    · cases undid
    · cases List.mem_singleton.mp undid
      rfl
  · rfl

theorem Uncounted.isWrite {events : List Event} (uncounted : m.Uncounted events) {label : String} {request : Request}
    (sent : .sent label request ∈ events) : request.isWrite = false := by
  rcases uncounted with rfl | rfl
  · cases sent
  · simp only [List.mem_cons, Event.sent.injEq, List.not_mem_nil, or_false] at sent
    rcases sent with ⟨_, rfl⟩ | ⟨_, rfl⟩ <;> rfl

/-! What becomes of the table. -/

/-- The outcome of a table that no worker saw. -/
def skippedOutcome (name reason : String) (elapsed : Number.Double) : Outcome :=
  ⟨name, .skipped, 0, 0, .done, some reason, elapsed⟩

theorem outcomes_record_skipped {report : Report} {reason : String} (now : Number.Double)
    (only : report.outcomes = [] ∨ ∃ elapsed, report.outcomes = [(name, skippedOutcome name reason elapsed)]) :
    ∃ elapsed, (report.record now (.skipped 0 name reason)).outcomes = [(name, skippedOutcome name reason elapsed)] := by
  rcases only with fresh | ⟨_, once⟩
  · exact ⟨_, congrArg (putEntry name _) fresh⟩
  · exact ⟨_, (congrArg (putEntry name _) once).trans (if_pos rfl)⟩

/-- A report of nothing but a table that was skipped, which is announced. -/
def SkipsOnly (m : Migration σ) (name reason : String) (result : Except Fault Report) (events : List Event) : Prop :=
  events = List.replicate (m.listeners.count .recorder) (.announced (.skipped 0 name reason)) ∧
  ∃ report elapsed, result = .ok report ∧ report.outcomes = [(name, skippedOutcome name reason elapsed)]

theorem ensures_reportSkipped_only (m : Migration σ) (name reason : String) (world : World σ) :
    (m.reportSkipped name reason).Ensures world fun result events _ => m.SkipsOnly name reason result events := by
  -- A reporter among the listeners records the outcome a second time, in the same place.
  have recorded (times : List Number.Double) {report : Report} {elapsed : Number.Double}
      (once : report.outcomes = [(name, skippedOutcome name reason elapsed)]) :
      ∃ elapsed, (times.foldl (fun report now => report.record now (.skipped 0 name reason)) report).outcomes =
        [(name, skippedOutcome name reason elapsed)] := by
    induction times generalizing report elapsed with
    | nil => exact ⟨elapsed, once⟩
    | cons now rest ih =>
        obtain ⟨_, again⟩ := outcomes_record_skipped now (Or.inr ⟨elapsed, once⟩)
        exact ih again
  apply Job.ensures_bind
  apply (ensures_beginReport world).imp
  rintro result events start ⟨rfl, rfl, fresh⟩
  apply Job.ensures_bind
  apply ((Job.ensures_announce _ _ start).and (Job.ensures_announce_report _ _ start)).imp
  rintro result events middle ⟨⟨rfl, rfl, _⟩, _, times, reporters, told⟩
  apply (ensures_endReport middle).imp
  rintro result events final ⟨rfl, rfl, ended⟩
  refine ⟨by simp, ?_⟩
  cases times with
  | nil => simp at reporters
  | cons now rest =>
      have none_yet : start.report.outcomes = [] := by rw [fresh]; rfl
      obtain ⟨_, once⟩ := outcomes_record_skipped now (Or.inl none_yet)
      obtain ⟨elapsed, outcomes⟩ := recorded rest once
      refine ⟨_, elapsed, rfl, ?_⟩
      rw [ended, told]
      exact outcomes

/-- What becomes of a table of the source that is taken from some world on. Its rows are counted, unless the source
fails to; then it is skipped because there are too many of them, or it is handed to a run as the only table. -/
inductive Taken (m : Migration σ) (condition : Option String) (table : String) (start : World σ) :
    Except Fault Report → List Event → World σ → Prop
  | failed {fault : Fault} {counting : List Event} {final : World σ}
      (counts : m.Counts table counting ∨ m.Uncounted counting)
      (unanswered : ∀ rows, ¬ m.Answers table start.state rows) :
      m.Taken condition table start (.error fault) counting final
  | large {rows : Nat} {result : Except Fault Report} {counting events : List Event} {final : World σ}
      (counts : m.Counts table counting) (exceeds : m.strategy.exceeds (some rows) = true)
      (counted : ∀ other, m.Answers table start.state other → other = rows)
      (skips : m.SkipsOnly table s!"exceeds the limit of {m.strategy.limit} rows" result events) :
      m.Taken condition table start result (counting ++ events) final
  | handed {sized : SizedTable} {middle : World σ} {result : Except Fault Report} {counting events : List Event}
      {final : World σ} (counts : m.Counts table counting) (same : sized.name = table)
      (small : m.strategy.exceeds sized.rows = false)
      (counted : ∀ rows, m.Answers table start.state rows → sized.rows = some rows)
      (runs : (m.run [sized] 1 condition).Runs middle result events final) :
      m.Taken condition table start result (counting ++ events) final

/-- Counts a table of the source, and moves it unless it has too many rows. -/
def takeTable (m : Migration σ) (condition : Option String) (table : String) : Job σ Report := do
  match ← m.source.db.withConnection (m.measure table) with
  | none => m.reportSkipped table s!"exceeds the limit of {m.strategy.limit} rows"
  | some sized => m.run [sized] 1 condition

theorem ensures_takeTable (m : Migration σ) (condition : Option String) (table : String) (world : World σ) :
    (m.takeTable condition table).Ensures world (m.Taken condition table world) := by
  apply Job.ensures_bind
  apply (m.ensures_connected_measure table world).imp
  rintro result counting middle ⟨asked, measured⟩
  cases result with
  | error fault =>
      have counts : m.Counts table counting ∨ m.Uncounted counting := asked.imp_right And.left
      exact .failed counts measured
  | ok found =>
      have counts : m.Counts table counting := asked.resolve_right fun failed => nomatch failed.2
      cases found with
      | none =>
          obtain ⟨rows, exceeds, counted⟩ := measured
          apply (m.ensures_reportSkipped_only table _ middle).imp
          intro result events final skips
          exact .large counts exceeds counted skips
      | some sized =>
          obtain ⟨same, small, counted⟩ := measured
          have ran : (m.run [sized] 1 condition).Ensures middle fun _ _ _ => True := by
            apply (m.ensures_run_confined [sized] 1 condition middle).imp
            exact fun _ _ _ _ => trivial
          apply ran.runs.imp
          intro result events final outcome
          exact .handed counts same small counted outcome.1

/-- Whatever is written when a table is taken goes to the target and into this table. -/
theorem Taken.writes {start final : World σ} {result : Except Fault Report} {events : List Event}
    (taken : m.Taken condition table start result events final) {label : String} {request : Request}
    (sent : .sent label request ∈ events) (write : request.isWrite = true) :
    label = m.target.db.label ∧ ∃ written, (written = table ∨ written = Text.upper table) ∧
      (m.compiler.toward (some m.target.config)).Writes written request := by
  have unwritten {counting : List Event} (counts : m.Counts table counting) : .sent label request ∉ counting := by
    intro counted
    cases (counts.isWrite counted).symm.trans write
  cases taken with
  | failed counts =>
      rcases counts with counts | uncounted
      · exact absurd sent (unwritten counts)
      · cases (uncounted.isWrite sent).symm.trans write
  | large counts exceeds counted skips =>
      have told := (List.mem_append.mp sent).resolve_left (unwritten counts)
      rw [skips.1] at told
      cases List.eq_of_mem_replicate told
  | @handed sized middle _ _ _ _ counts same _ _ runs =>
      have moved := (List.mem_append.mp sent).resolve_left (unwritten counts)
      obtain ⟨before, mixed, rfl, confined⟩ := runs.met (m.ensures_run_confined [sized] 1 condition middle)
      rcases List.mem_append.mp moved with early | late
      · cases confined.reads _ early with
        | reads reads => cases reads.isWrite.symm.trans write
        | undoes => cases write
      · obtain ⟨⟨index, _⟩, entered, rfl⟩ := List.mem_map.mp late
        obtain ⟨front, back, rfl⟩ := List.append_of_mem entered
        obtain ⟨target, ⟨below, held, dealt, written, named, writes⟩, _⟩ :=
          confined.writesInside front index label request back rfl write
        -- The buckets of a run hold its tables, and this run has one.
        have only : held ∈ [sized] :=
          (partition_flatten_perm [sized] 1).mem_iff.mp (List.mem_flatten.mpr ⟨_, List.getElem_mem below, dealt⟩)
        rw [List.mem_singleton.mp only, same] at named
        exact ⟨target, written, named, writes⟩

/-- When the source lists its tables, those with the requested name in any spelling are looked through for the first.
It alone is taken and all that is written goes into it; it is the table with exactly this name, if there is one, unless
another spelling stands in front of it. Without any such table nothing is asked of the databases any more, and the name
is announced and reported as skipped. -/
theorem migrateTable_takes (m : Migration σ) (named : name ≠ "") (condition : Option String) {world : World σ}
    {state : σ} (listed : m.source.db.tableNames m.source.config.schemaName world.state = (.ok names, state)) :
    (m.migrateTable name condition).Ensures world fun result events final => ∃ start more,
      start.state = state ∧ events = .sent m.source.db.label (.tableNames m.source.config.schemaName) :: more ∧
      ((∃ other ∈ names, Text.lower other = Text.lower name) →
        ∃ table ∈ names, Text.lower table = Text.lower name ∧
          (name ∈ names →
            (table = name ↔ ∀ other ∈ names.takeWhile (· ≠ name), Text.lower other ≠ Text.lower name)) ∧
          m.Taken condition table start result more final ∧
          ∀ label request, .sent label request ∈ more → request.isWrite = true →
            label = m.target.db.label ∧ ∃ written, (written = table ∨ written = Text.upper table) ∧
              (m.compiler.toward (some m.target.config)).Writes written request) ∧
      ((∀ other ∈ names, Text.lower other ≠ Text.lower name) →
        m.SkipsOnly name "source table does not exist" result more) := by
  rw [migrateTable, Database.listTables, bind_assoc]
  apply Job.ensures_bind
  rw [Job.ensures_send]
  apply Job.ensures_bind
  rw [Job.ensures_answer, listed]
  dsimp only
  by_cases present : ∃ other ∈ names, Text.lower other = Text.lower name
  · obtain ⟨table, among, found, spelled, exactly⟩ := exists_requested? named present
    rw [found]
    apply (m.ensures_takeTable condition table _).imp
    intro result events final taken
    refine ⟨_, events, ?state, rfl, fun _ => ⟨table, among, spelled, exactly, taken, fun _ _ => taken.writes⟩, ?absent⟩
    case state => rfl
    case absent =>
      intro missing
      exact absurd spelled (missing table among)
  · have missing : ∀ other ∈ names, Text.lower other ≠ Text.lower name := by simpa using present
    rw [requested?_eq_none named missing]
    apply Job.ensures_bind
    rw [Job.ensures_note]
    apply (m.ensures_reportSkipped_only name _ _).imp
    intro result events final skips
    exact ⟨{ world with state := state }, events, rfl, rfl, fun there => absurd there present, fun _ => skips⟩

/-- A migration between SQLite databases that have every table, from one that lists these. -/
def listing (names : List String) : Migration Unit :=
  let listed : Database Unit := { refilling.source.db with tableNames := fun _ state => (.ok names, state) }
  { refilling with source := { refilling.source with db := listed } }

theorem migrateTable_takes_orders :
    let names := ["items", "orders", "ORDERS"]
    let start : World Unit := { state := (), now := fun _ => .zero false }
    "orders" ≠ "" ∧ (listing names).source.db.tableNames .null start.state = (.ok names, ()) ∧
    ((listing names).migrateTable "orders" none).Ensures start fun result events final => ∃ listed more,
      events = .sent "src" (.tableNames .null) :: more ∧
        (listing names).Taken none "orders" listed result more final := by
  intro names start
  have named : "orders" ≠ "" := by decide
  have listed : (listing names).source.db.tableNames .null start.state = (.ok names, ()) := rfl
  refine ⟨named, listed, ?_⟩
  apply ((listing names).migrateTable_takes named none listed).imp
  rintro result events final ⟨listed, more, _, sent, takes, _⟩
  obtain ⟨table, _, _, exactly, taken, _⟩ := takes ⟨"orders", by decide, rfl⟩
  have unpreceded : ∀ other ∈ names.takeWhile (· ≠ "orders"), Text.lower other ≠ Text.lower "orders" := by
    decide +kernel
  rw [(exactly (by decide)).mpr unpreceded] at taken
  exact ⟨listed, more, sent, taken⟩

/-- Another spelling stands in front of the requested name, and its table is counted and moved. -/
theorem migrateTable_takes_other :
    let m := listing ["ORDERS", "orders"]
    let start : World Unit := { state := (), now := fun _ => .zero false }
    "orders" ∈ ["ORDERS", "orders"] ∧
    ((m.migrateTable "orders" none).run start).2.trace.filterMap Worker.executed? = [
      ("src", "select count(*) from \"ORDERS\""),
      ("dst", "DROP TABLE \"ORDERS\""),
      ("dst", "CREATE TABLE \"ORDERS\" (\"id\" FAKETYPE NULL)"),
      ("dst", "delete from \"ORDERS\"")] ∧
    m.source.qualifiedName "orders" = .ok "orders" := by
  exact ⟨by decide, by decide +kernel, rfl⟩

end Migration

end TableFerry
