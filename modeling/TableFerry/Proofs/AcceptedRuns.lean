import TableFerry.Proofs.BalancedBuckets
import TableFerry.Proofs.CreationScripts
import TableFerry.Proofs.TableTurns
/-! Runs that nothing stops. From a source that can be read and into an empty target that accepts everything, a run
creates every table that it is given and that is not ignored: the tables that were created before are those that the
target has, so each further one is missing there and is found once it was created. -/

namespace TableFerry

open Compiler (createsTable LeavesTables)
open Job (Gives Succeeds)
open Worker (executed?)

variable {σ : Type}

namespace Database

variable {label : String} {holds : List String → σ → Prop} {created : List String} {db : Database σ}
variable {table : String} {schema : Value}

theorem idle_snapshot {reflected : ReflectedTable} {checked : Table}
    (given : Gives (holds created) (db.reflect table schema) (some reflected)) (filled : reflected.columns ≠ [])
    (passed : ({ reflected with name := table } : ReflectedTable).toTable.checked = .ok checked) :
    (db.snapshot table schema).Idle label holds created (· = some checked) := by
  apply (Job.idle_send db (.reflect table schema) nofun).bind
  intro _ _
  apply (Job.idle_answer_of given).bind
  rintro _ rfl
  dsimp only
  rw [if_neg (by simpa using filled)]
  apply (Job.idle_noteAll _).bind
  intro _ _
  apply (Job.idle_ofExcept passed).bind
  rintro _ rfl
  exact Job.idle_pure rfl

theorem idle_snapshot_none (given : Gives (holds created) (db.reflect table schema) none) :
    (db.snapshot table schema).Idle label holds created (· = none) := by
  apply (Job.idle_send db (.reflect table schema) nofun).bind
  intro _ _
  apply (Job.idle_answer_of given).bind
  rintro _ rfl
  exact Job.idle_pure rfl

end Database

namespace Worker

variable {label : String} {holds : List String → σ → Prop} {created : List String} {db : Database σ}
variable {name : String} {schema : Value}

theorem idle_findTable {found : Table}
    (given : (db.snapshot name schema).Idle label holds created (· = some found)) :
    (findTable db name schema).Idle label holds created (· = some found) := by
  apply given.bind
  rintro _ rfl
  exact Job.idle_pure rfl

theorem idle_findTable_upper {found : Table}
    (missed : (db.snapshot name schema).Idle label holds created (· = none)) (differs : Text.upper name ≠ name)
    (given : (db.snapshot (Text.upper name) schema).Idle label holds created (· = some found)) :
    (findTable db name schema).Idle label holds created (· = some found) := by
  apply missed.bind
  rintro _ rfl
  dsimp only
  rw [if_pos differs]
  exact given

theorem idle_findTable_none (missed : (db.snapshot name schema).Idle label holds created (· = none))
    (missedUpper : (db.snapshot (Text.upper name) schema).Idle label holds created (· = none)) :
    (findTable db name schema).Idle label holds created (· = none) := by
  apply missed.bind
  rintro _ rfl
  dsimp only
  split
  · exact missedUpper
  · exact Job.idle_pure rfl

theorem idle_atPage {good : Nat → Prop} {job : Job σ Nat} (copying : Copying) (page : Nat)
    (idle : job.Idle label holds created good) : (atPage copying page job).Idle label holds created good := by
  apply Job.Idle.bind (Job.Idle.attempt idle)
  rintro _ ⟨value, rfl, value_good⟩
  exact Job.idle_pure value_good

end Worker

namespace Migration

/-- The compiler as it writes to the target. -/
def targetCompiler (m : Migration σ) : Compiler := m.compiler.toward (some m.target.config)

/-- The source has `names`, of which each reads as one of `tables` and counts as many rows as `sizes` says, and the
target accepts whatever it is sent. In the states with `holds created` the target has the tables that were created for
these names and no others. -/
structure Serves (m : Migration σ) (names : List String) (tables : String → Table) (sizes : String → Nat)
    (holds : List String → σ → Prop) : Prop where
  listed : ∀ created, Gives (holds created) (m.source.db.tableNames m.source.config.schemaName) names
  reached : ∀ created, Gives (holds created) m.source.db.connect ()
  reads : ∀ name ∈ names, ∃ reflected : ReflectedTable, reflected.columns ≠ [] ∧
    ({ reflected with name := name } : ReflectedTable).toTable.checked = .ok (tables name) ∧
    ∀ created, Gives (holds created) (m.source.db.reflect name m.source.config.schemaName) (some reflected)
  counts : ∀ created table condition, ∃ (value : Value) (count : Int),
    Gives (holds created) (m.source.db.execute (Worker.query "count(*)" table condition)) value ∧
      (if value.truthy then value.toWholeOrFault else .ok 0) = .ok count
  measures : ∀ name ∈ names, ∃ quoted, m.source.qualifiedName name = .ok quoted ∧ ∀ created, ∃ value : Value,
    Gives (holds created) (m.source.db.execute (Worker.query "count(*)" quoted none)) value ∧
      (if value.truthy then value.toWholeOrFault else .ok 0) = .ok (sizes name : Int)
  pages : ∀ created query, Succeeds (holds created) (m.source.db.page query)
  ordered : ∀ name ∈ names, ∃ order, (Worker.orderColumns (tables name)).mapM m.source.quote = .ok order
  connects : ∀ created, Gives (holds created) m.target.db.connect ()
  begins : ∀ created, Gives (holds created) m.target.db.begin ()
  commits : ∀ created, Gives (holds created) m.target.db.commit ()
  entered : ∀ created state, holds created state → holds created (m.target.db.savepoint state)
  released : ∀ created state, holds created state → holds created (m.target.db.release state)
  inserts : ∀ created statement params, Gives (holds created) (m.target.db.insert statement params) ()
  accepts : ∀ created sql, LeavesTables sql → Succeeds (holds created) (m.target.db.execute sql)
  creates : ∀ created, ∀ name ∈ names, ∀ sql, Text.Opens (m.targetCompiler.creation (tables name)) sql →
    ∀ state, holds created state → ∃ value next, holds (created ++ [name]) next ∧
      m.target.db.execute sql state = (.ok value, next)
  found : ∀ created, ∀ name ∈ created, ∃ (reflected : ReflectedTable) (table : Table), reflected.columns ≠ [] ∧
    ({ reflected with name := m.targetCompiler.createdName name } : ReflectedTable).toTable.checked = .ok table ∧
    Gives (holds created)
      (m.target.db.reflect (m.targetCompiler.createdName name) m.target.config.schemaName) (some reflected)
  missed : ∀ created table, (∀ name ∈ created, m.targetCompiler.createdName name ≠ table) →
    Gives (holds created) (m.target.db.reflect table m.target.config.schemaName) none

/-- The names are distinct, the table created for each is found again under that name, and it is not found under any
other of them; and the statements for each can be written. -/
structure Clear (m : Migration σ) (names : List String) (tables : String → Table) : Prop where
  distinct : names.Nodup
  meets : ∀ name ∈ names, m.targetCompiler.createdName name = name ∨
    m.targetCompiler.createdName name = Text.upper name
  apart : ∀ one ∈ names, ∀ other ∈ names, one ≠ other →
    m.targetCompiler.createdName one ≠ other ∧ m.targetCompiler.createdName one ≠ Text.upper other
  drafted : ∀ name ∈ names, ∀ picks, ∃ statements, m.targetCompiler.statements (tables name) picks = .ok statements

/-- The statements are those for the table of the name, under the random choices from some number on. -/
def Drafted (m : Migration σ) (tables : String → Table) (entry : String × List String) : Prop :=
  ∃ ahead, m.targetCompiler.statements (tables entry.1) (m.targetCompiler.choicesFrom ahead) = .ok entry.2

/-- The tables of `chosen`, each with its statements. -/
def DraftedAll (m : Migration σ) (tables : String → Table) (chosen : List String)
    (made : List (String × List String)) : Prop :=
  made.map (·.1) = chosen ∧ ∀ entry ∈ made, m.Drafted tables entry

section Setting

variable {m : Migration σ} {names : List String} {tables : String → Table} {sizes : String → Nat}
variable {holds : List String → σ → Prop} {created : List String} {name : String} {condition : Option String}

theorem DraftedAll.append {chosen others : List String} {made more : List (String × List String)}
    (first : m.DraftedAll tables chosen made) (second : m.DraftedAll tables others more) :
    m.DraftedAll tables (chosen ++ others) (made ++ more) :=
  ⟨by rw [List.map_append, first.1, second.1], List.forall_mem_append.mpr ⟨first.2, second.2⟩⟩

theorem draftedAll_nil : m.DraftedAll tables [] [] := ⟨rfl, nofun⟩

theorem Serves.tables_name (serves : m.Serves names tables sizes holds) (among : name ∈ names) :
    (tables name).name = name := by
  obtain ⟨reflected, _, passed, _⟩ := serves.reads name among
  rw [Database.checked_name passed]
  rfl

theorem Serves.idle_read {label : String} (serves : m.Serves names tables sizes holds) (among : name ∈ names) :
    (m.source.db.snapshot name m.source.config.schemaName).Idle label holds created (· = some (tables name)) := by
  obtain ⟨reflected, filled, passed, given⟩ := serves.reads name among
  exact Database.idle_snapshot (given created) filled passed

theorem Serves.idle_missed {label table : String} (serves : m.Serves names tables sizes holds)
    (absent : ∀ name ∈ created, m.targetCompiler.createdName name ≠ table) :
    (m.target.db.snapshot table m.target.config.schemaName).Idle label holds created (· = none) :=
  Database.idle_snapshot_none (serves.missed created table absent)

/-- A table that was not created yet is read on the source and not found on the target. -/
theorem Serves.idle_inspect {label : String} (serves : m.Serves names tables sizes holds)
    (clear : m.Clear names tables) (among : name ∈ names) (within : ∀ other ∈ created, other ∈ names)
    (fresh : name ∉ created) (index : Nat) :
    ((m.worker index).inspect name).Idle label holds created (· = .open (tables name) none) := by
  have apart (other : String) (there : other ∈ created) :=
    clear.apart other (within other there) name among (ne_of_mem_of_not_mem there fresh)
  apply (Job.idle_enter _).bind
  intro _ _
  apply Job.Idle.bind
    (m.source.db.makes_withConnection (serves.reached created) (Worker.idle_findTable (serves.idle_read among)))
  rintro _ rfl
  apply (Job.idle_enter _).bind
  intro _ _
  apply Job.Idle.bind (Worker.idle_findTable_none (serves.idle_missed fun other there => (apart other there).1)
    (serves.idle_missed fun other there => (apart other there).2))
  rintro _ rfl
  exact Job.idle_pure rfl

/-- The table that was created last is found. -/
theorem Serves.idle_found (label : String) (serves : m.Serves names tables sizes holds)
    (clear : m.Clear names tables) (among : name ∈ names) (within : ∀ other ∈ created, other ∈ names)
    (fresh : name ∉ created) : ∃ table, (Worker.findTable m.target.db name m.target.config.schemaName).Idle label
      holds (created ++ [name]) (· = some table) := by
  obtain ⟨reflected, table, filled, passed, given⟩ := serves.found (created ++ [name]) name (by simp)
  have seen : (m.target.db.snapshot (m.targetCompiler.createdName name) m.target.config.schemaName).Idle label holds
      (created ++ [name]) (· = some table) :=
    Database.idle_snapshot given filled passed
  refine ⟨table, ?_⟩
  by_cases own : m.targetCompiler.createdName name = name
  · rw [own] at seen
    exact Worker.idle_findTable seen
  · have upper := (clear.meets name among).resolve_left own
    rw [upper] at seen
    apply Worker.idle_findTable_upper (serves.idle_missed ?_) (fun same => own (upper.trans same)) seen
    intro other there
    rcases List.mem_append.mp there with before | last
    · exact (clear.apart other (within other before) name among (ne_of_mem_of_not_mem before fresh)).1
    · rw [List.mem_singleton.mp last]
      exact own

/-- The creation of a table sends the statements that were drafted for it. -/
theorem Serves.makes_create (serves : m.Serves names tables sizes holds) (clear : m.Clear names tables)
    (among : name ∈ names) (index : Nat) :
    ((m.worker index).create (tables name)).Makes m.target.db.label holds created fun statements made =>
      made = [(name, statements)] ∧ m.Drafted tables (name, statements) := by
  intro world start
  apply Job.ensures_bind
  rw [Job.ensures_draft]
  obtain ⟨statements, written⟩ := clear.drafted name among (m.targetCompiler.choicesFrom world.draft.drawn)
  have given : (((m.worker index).targetCompiler.createDdl (tables name)).run world.draft).1 = .ok statements :=
    (m.targetCompiler.run_createDdl (tables name) world.draft).trans written
  obtain ⟨head, tail, rfl, opens, leaving⟩ :=
    (m.worker index).targetCompiler.gives_createDdl (tables name) world.draft _ given
  rw [given]
  -- The first statement leads to a state with the table, and the others stay among such states.
  have running : ((m.worker index).runDdl (tables name).name (head :: tail)).Executes (holds created)
      (holds (created ++ [name])) ((head :: tail).map ((m.target.db.label, ·))) := by
    have batch := m.target.db.executes_runBatch_cons
      (Database.toleranceOf m.compiler (some (tables name).name)) m.compiler.transactional
      (serves.creates created name among head opens) (serves.entered created) (serves.released (created ++ [name]))
      (m.target.db.executes_runBatch _ _ tail
        (fun sql member => serves.accepts (created ++ [name]) sql (leaving sql member))
        (serves.entered (created ++ [name])) (serves.released (created ++ [name]))) {}
    have whole := batch.bind fun _ => Job.executes_pure ()
    rwa [List.append_nil] at whole
  have ran := running
    { world with draft := (((m.worker index).targetCompiler.createDdl (tables name)).run world.draft).2 } start
  apply Job.ensures_bind
  apply ran.imp
  intro result events final outcome
  rcases outcome with ⟨⟨_, rfl⟩, sent, reached⟩
  refine (Job.ensures_pure _).mpr ⟨_, _, rfl, ⟨rfl, world.draft.drawn, written⟩, ?_, reached⟩
  have script : CreationScript m.target.db.label [(name, head :: tail)]
      ([] ++ ((head :: tail).map ((m.target.db.label, ·)) ++ [])) :=
    .table nofun (Compiler.creation_creates _ _ opens) (fun sql member => (leaving sql member).2) (.quiet nofun)
  rw [List.nil_append, List.append_nil, ← sent] at script
  rwa [List.nil_append, List.append_nil]

/-- A table that is rebuilt is created once, and found. -/
theorem Serves.makes_rebuild (serves : m.Serves names tables sizes holds) (clear : m.Clear names tables)
    (among : name ∈ names) (within : ∀ other ∈ created, other ∈ names) (fresh : name ∉ created) (index : Nat) :
    ((m.worker index).rebuild (tables name) none).Makes m.target.db.label holds created fun _ made =>
      m.DraftedAll tables [name] made := by
  obtain ⟨table, found⟩ := serves.idle_found m.target.db.label clear among within fresh
  rw [← serves.tables_name among] at found
  have nothing_dropped : (pure [] : Job σ (List String)).Idle m.target.db.label holds created fun _ => True :=
    Job.idle_pure trivial
  apply Job.Idle.bind nothing_dropped
  intro dropped _
  apply (serves.makes_create clear among index).bind
  rintro statements _ ⟨rfl, drafted⟩
  rw [serves.tables_name among] at found ⊢
  apply Job.Idle.bind found
  rintro _ rfl
  apply (Job.idle_announce _ _).bind
  intro _ _
  exact Job.makes_pure ⟨rfl, List.forall_mem_singleton.mpr drafted⟩

theorem Serves.idle_rowCount {label : String} (serves : m.Serves names tables sizes holds) (index : Nat)
    (table : SizedTable) (quoted : String) :
    ((m.worker index).rowCount table quoted condition).Idle label holds created fun _ => True := by
  obtain ⟨value, count, given, number⟩ := serves.counts created quoted condition
  unfold Worker.rowCount
  split
  · exact Job.idle_pure trivial
  · exact (m.source.db.idle_number (Worker.query_leaves _ quoted condition).2 given number).imp
      fun _ _ outcome => ⟨outcome.1, trivial⟩

theorem Serves.idle_copyPage {label : String} (serves : m.Serves names tables sizes holds) (index : Nat)
    (copying : Worker.Copying) (page pages : Nat) :
    ((m.worker index).copyPage copying page pages).Idle label holds created fun _ => True := by
  have inserted (rows : List Row) : (m.target.db.insertRows copying.targetName rows).Idle label holds created
      fun _ => True := by
    cases rows with
    | nil => exact Job.idle_pure trivial
    | cons first rest =>
        apply (Job.idle_send _ (.insert _ _) nofun).bind
        intro _ _
        apply (Job.idle_answer_of (serves.inserts created _ _)).bind
        intro _ _
        exact Job.idle_pure trivial
  have asked : (m.source.db.pageOf copying.rowQuery page copying.pageSize copying.order).Idle label holds created
      fun _ => True := by
    apply (Job.idle_send _ (.page _) nofun).bind
    intro _ _
    exact Job.idle_answer (serves.pages created _)
  apply Job.Idle.bind asked
  intro rows _
  apply Job.Idle.bind (inserted (Mapping.mapRows copying.mapping rows))
  intro count _
  apply (Job.idle_announce _ _).bind
  intro _ _
  exact Job.idle_pure trivial

theorem Serves.idle_fill {label : String} (serves : m.Serves names tables sizes holds) (index : Nat)
    (copying : Worker.Copying) (count : Int) :
    ((m.worker index).fill copying count).Idle label holds created fun _ => True := by
  have leaves : LeavesTables s!"delete from {copying.targetName}" :=
    Compiler.leavesTables (Text.opens_append "delete from " copying.targetName) (by decide)
  have paged (pages left page copied : Nat) :
      ((m.worker index).copyPages copying pages left page copied).Idle label holds created fun _ => True := by
    induction left generalizing page copied with
    | zero => exact Job.idle_pure trivial
    | succ left ih =>
        apply Job.Idle.bind (Worker.idle_atPage copying page (serves.idle_copyPage index copying page pages))
        intro inserted _
        exact ih (page + 1) (copied + inserted)
  have emptied : (m.target.db.run s!"delete from {copying.targetName}").Idle label holds created fun _ => True := by
    apply m.target.db.idle_run leaves.2
    intro state start
    obtain ⟨value, next, reached, answered⟩ := serves.accepts created _ leaves state start
    exact ⟨value, next, trivial, reached, answered⟩
  apply Job.Idle.bind emptied
  intro _ _
  split
  · apply (Job.idle_note _ _).bind
    intro _ _
    exact Job.idle_pure trivial
  · exact paged _ _ 0 0

/-- Rows are copied without a table being created. -/
theorem Serves.idle_copyRows {label : String} (serves : m.Serves names tables sizes holds) (among : name ∈ names)
    (index : Nat) (table : SizedTable) (target : Table) :
    ((m.worker index).copyRows table (tables name) target condition).Idle label holds created fun _ => True := by
  obtain ⟨quoted, named, _⟩ := serves.measures name among
  obtain ⟨order, ordered⟩ := serves.ordered name among
  unfold Worker.copyRows
  rw [serves.tables_name among]
  apply (Job.idle_ofExcept named).bind
  rintro _ rfl
  apply (Job.idle_ofExcept ordered).bind
  rintro _ rfl
  apply (Job.idle_noteAll _).bind
  intro _ _
  apply Worker.idle_atPage
  apply m.source.db.makes_withConnection (serves.reached created)
  apply Job.Idle.bind (serves.idle_rowCount index table _)
  intro count _
  exact serves.idle_fill index _ count

/-- A table that is taken through its course is created. -/
theorem Serves.makes_moveContents (serves : m.Serves names tables sizes holds) (clear : m.Clear names tables)
    {table : SizedTable} (among : table.name ∈ names) (within : ∀ other ∈ created, other ∈ names)
    (fresh : table.name ∉ created) (index : Nat) :
    ((m.worker index).moveContents table condition).Makes m.target.db.label holds created fun _ made =>
      m.DraftedAll tables [table.name] made := by
  rw [Worker.moveContents_eq]
  apply Job.Idle.bind (serves.idle_inspect clear among within fresh index)
  rintro _ rfl
  apply (Job.idle_enter _).bind
  intro _ _
  apply (serves.makes_rebuild clear among within fresh index).bind
  intro target made drafted
  split
  · apply Job.makes_pure
    rwa [List.append_nil]
  · apply (Job.idle_enter _).bind
    intro _ _
    apply Job.Idle.bind (serves.idle_copyRows among index table target)
    intro rows _
    apply (Job.idle_enter _).bind
    intro _ _
    apply Job.makes_pure
    rwa [List.append_nil]

theorem Serves.makes_inSavepoint {α : Type} {job : Job σ α} {post : α → List (String × List String) → Prop}
    {label : String} {index : Nat} (serves : m.Serves names tables sizes holds)
    (makes : job.Makes label holds created post) :
    ((m.worker index).inSavepoint job).Makes label holds created post := by
  unfold Worker.inSavepoint
  split
  · exact m.target.db.makes_withSavepoint serves.entered serves.released makes
  · exact makes

/-- The names of tables that are not ignored. -/
def unignored (m : Migration σ) (names : List String) : List String :=
  names.filter fun name => !m.strategy.ignores name

/-- The tables are to be moved yet: they are on the source, small enough, and none of them was created. -/
structure Awaits (m : Migration σ) (names created : List String) (tables : List SizedTable) : Prop where
  known : ∀ name ∈ created, name ∈ names
  listed : ∀ table ∈ tables, table.name ∈ names
  small : ∀ table ∈ tables, m.strategy.exceeds table.rows = false
  distinct : (created ++ tables.map (·.name)).Nodup

/-- Behind some of the tables the others are to be moved yet. -/
theorem Awaits.behind {front back : List SizedTable} (awaits : m.Awaits names created (front ++ back)) :
    m.Awaits names (created ++ m.unignored (front.map (·.name))) back where
  known := by
    intro name there
    rcases List.mem_append.mp there with before | moved
    · exact awaits.known name before
    · obtain ⟨table, among, rfl⟩ := List.mem_map.mp (List.mem_of_mem_filter moved)
      exact awaits.listed table (List.mem_append_left _ among)
  listed table among := awaits.listed table (List.mem_append_right _ among)
  small table among := awaits.small table (List.mem_append_right _ among)
  distinct := by
    have distinct := awaits.distinct
    rw [List.map_append, ← List.append_assoc] at distinct
    exact distinct.sublist ((List.filter_sublist.append_left created).append_right _)

theorem Awaits.front {front back : List SizedTable} (awaits : m.Awaits names created (front ++ back)) :
    m.Awaits names created front where
  known := awaits.known
  listed table among := awaits.listed table (List.mem_append_left _ among)
  small table among := awaits.small table (List.mem_append_left _ among)
  distinct := by
    have distinct := awaits.distinct
    rw [List.map_append, ← List.append_assoc] at distinct
    exact distinct.sublist (List.sublist_append_left _ _)

/-- A table that is to be moved is created, unless it is ignored. -/
theorem Serves.makes_moveTable (serves : m.Serves names tables sizes holds) (clear : m.Clear names tables)
    {table : SizedTable} (awaits : m.Awaits names created [table]) (index : Nat) (position total : Int) :
    ((m.worker index).moveTable table position total condition).Makes m.target.db.label holds created fun _ made =>
      m.DraftedAll tables (m.unignored [table.name]) made := by
  have among := awaits.listed table List.mem_cons_self
  have fresh : table.name ∉ created := by
    have apart := List.disjoint_of_nodup_append awaits.distinct
    exact fun there => apart there List.mem_cons_self
  have taken : (m.worker index).reasonToSkip table =
      if m.strategy.ignores table.name then some "matches an ignored table pattern" else none :=
    if_neg (Bool.eq_false_iff.mp (awaits.small table List.mem_cons_self))
  apply (Job.idle_enter _).bind
  intro _ _
  apply (Job.idle_announce _ _).bind
  intro _ _
  rw [taken]
  cases ignored : m.strategy.ignores table.name with
  | true =>
      apply (Job.idle_announce _ _).bind
      intro _ _
      apply Job.makes_pure
      rw [unignored, List.filter_cons_of_neg (by simp [ignored]), List.filter_nil]
      exact draftedAll_nil
  | false =>
      rw [unignored, List.filter_cons_of_pos (by simp [ignored]), List.filter_nil]
      apply Job.idle_clock.bind
      intro started _
      apply (serves.makes_inSavepoint (serves.makes_moveContents clear among awaits.known fresh index)).attempt.bind
      rintro _ made ⟨moved, rfl, drafted⟩
      cases moved with
      | none =>
          apply Job.makes_pure
          rwa [List.append_nil]
      | some rows =>
          apply Job.idle_clock.bind
          intro now _
          apply (Job.idle_announce _ _).bind
          intro _ _
          apply Job.makes_pure
          rwa [List.append_nil]

/-- The tables of a bucket are created one after the other. -/
theorem Serves.makes_moveFrom (serves : m.Serves names tables sizes holds) (clear : m.Clear names tables)
    {bucket : List SizedTable} (awaits : m.Awaits names created bucket) (index : Nat) (position total : Int) :
    ((m.worker index).moveFrom total condition position bucket).Makes m.target.db.label holds created fun _ made =>
      m.DraftedAll tables (m.unignored (bucket.map (·.name))) made := by
  -- Along the bucket the created tables become more and the awaited ones fewer.
  induction bucket generalizing created position with
  | nil => exact Job.makes_pure draftedAll_nil
  | cons table rest ih =>
      have awaits : m.Awaits names created ([table] ++ rest) := awaits
      apply (serves.makes_moveTable clear awaits.front index position total).bind
      intro passed made drafted
      rw [drafted.1]
      apply (ih awaits.behind (position + 1)).bind
      intro failed more others
      apply Job.makes_pure
      rw [List.append_nil, List.map_cons, unignored, ← List.singleton_append, List.filter_append]
      exact drafted.append others

theorem Serves.makes_runBucket (serves : m.Serves names tables sizes holds) (clear : m.Clear names tables)
    {bucket : List SizedTable} (awaits : m.Awaits names created bucket) (index : Nat) :
    (m.runBucket condition index bucket).Makes m.target.db.label holds created fun ended made =>
      ended.isOk = true ∧ m.DraftedAll tables (m.unignored (bucket.map (·.name))) made := by
  have work : (m.bucketWork index bucket condition).Makes m.target.db.label holds created fun _ made =>
      m.DraftedAll tables (m.unignored (bucket.map (·.name))) made := by
    apply m.target.db.makes_withConnection (serves.connects created)
    apply m.target.db.makes_withTransaction (serves.begins created) serves.commits
    apply (serves.makes_moveFrom clear awaits index 1 _).bind
    intro failed made drafted
    apply Job.makes_pure
    rwa [List.append_nil]
  rw [runBucket_eq]
  apply (Job.idle_note _ _).bind
  intro _ _
  apply work.attempt.bind
  rintro _ made ⟨_, rfl, drafted⟩
  apply (Job.idle_announce _ _).bind
  intro _ _
  apply Job.makes_pure
  rw [List.append_nil]
  exact ⟨rfl, drafted⟩

/-- So are those of all buckets, which all end well. -/
theorem Serves.makes_inOrder (serves : m.Serves names tables sizes holds) (clear : m.Clear names tables)
    {jobs : List (List SizedTable × Nat)} (awaits : m.Awaits names created (jobs.flatMap (·.1))) :
    (m.inOrder condition jobs).Makes m.target.db.label holds created fun ends made =>
      (∀ entry ∈ ends, entry.2.isOk = true) ∧
        m.DraftedAll tables (m.unignored ((jobs.flatMap (·.1)).map (·.name))) made := by
  induction jobs generalizing created with
  | nil => exact Job.makes_pure ⟨nofun, draftedAll_nil⟩
  | cons job rest ih =>
      rcases job with ⟨bucket, index⟩
      have awaits : m.Awaits names created (bucket ++ rest.flatMap (·.1)) := awaits
      rw [inOrder_cons]
      apply (serves.makes_runBucket clear awaits.front index).bind
      rintro ended made ⟨well, drafted⟩
      rw [drafted.1]
      apply (ih awaits.behind).bind
      rintro ends more ⟨all_well, others⟩
      apply Job.makes_pure
      rw [List.append_nil, List.flatMap_cons, List.map_append, unignored, List.filter_append]
      exact ⟨List.forall_mem_cons.mpr ⟨well, all_well⟩, drafted.append others⟩

theorem idle_beginReport {label : String} : (beginReport : Job σ Unit).Idle label holds created fun _ => True := by
  apply Job.idle_clock.bind
  intro now _
  exact Job.idle_modify (fun _ => rfl) fun _ => rfl

theorem idle_noteStart {label : String} (m : Migration σ) (count buckets : Nat) :
    (m.noteStart count buckets).Idle label holds created fun _ => True := by
  apply (Job.idle_note _ _).bind
  intro _ _
  split
  · exact Job.idle_trace rfl
  · exact Job.idle_pure trivial

theorem idle_endReport {label : String} : (endReport : Job σ Report).Idle label holds created fun _ => True := by
  apply Job.idle_clock.bind
  intro now _
  refine Job.Idle.bind (Job.idle_modify (fun _ => rfl) fun _ => rfl) ?_
  intro _ _
  apply Job.Idle.bind (Job.idle_silent fun world => Job.ensures_get.mpr ⟨⟨_, rfl⟩, rfl, rfl⟩)
  intro _ _
  exact Job.idle_pure trivial

/-- A run creates all tables that it is given and that are not ignored, in some order. -/
theorem Serves.makes_run (serves : m.Serves names tables sizes holds) (clear : m.Clear names tables)
    {given : List SizedTable} (awaits : m.Awaits names created given) (workers : Int) :
    (m.run given workers condition).Makes m.target.db.label holds created fun _ made =>
      (made.map (·.1)).Perm (m.unignored (given.map (·.name))) ∧ ∀ entry ∈ made, m.Drafted tables entry := by
  have perm := partition_flatten_perm given workers
  have flat : (partition given workers).zipIdx.flatMap (·.1) = (partition given workers).flatten := by
    rw [List.flatMap_def, List.zipIdx_map_fst]
  have dealt : m.Awaits names created ((partition given workers).zipIdx.flatMap (·.1)) := by
    rw [flat]
    exact {
      known := awaits.known
      listed := fun table among => awaits.listed table (perm.mem_iff.mp among)
      small := fun table among => awaits.small table (perm.mem_iff.mp among)
      distinct := ((perm.map (·.name)).append_left created).nodup_iff.mpr awaits.distinct }
  rw [run_eq]
  apply Job.Idle.bind idle_beginReport
  intro _ _
  apply Job.Idle.bind (m.idle_noteStart given.length (partition given workers).length)
  intro _ _
  apply (serves.makes_inOrder clear dealt).bind
  rintro ends made ⟨well, drafted⟩
  apply Job.Idle.bind idle_endReport
  intro report _
  apply (Job.idle_note _ _).bind
  intro _ _
  rw [failures_eq_nil.mpr well]
  apply Job.makes_pure
  have names_perm := perm.map fun table => table.name
  rw [List.append_nil, drafted.1, flat]
  exact ⟨names_perm.filter _, drafted.2⟩

end Setting

end Migration

end TableFerry
