import TableFerry.Proofs.CreatedNames
import TableFerry.Proofs.Requests
import TableFerry.Proofs.TableStatements
/-! Names in statements and names in lookups. CREATE TABLE names a table by the folded name; afterwards it is
looked up under its own name and under its name in upper case. On a target with an exact catalogue the two meet
for a name unless folding makes a third spelling of it. -/

namespace TableFerry

namespace Database

variable {σ : Type} {db : Database σ}

/-- A target that finds a table under its exact stored name only, creates the table that CREATE TABLE for
`source` names, and keeps its tables through all statements that leave tables where they are. -/
structure ExactCatalogue (db : Database σ) (c : Compiler) (source : Table) (schema : Value)
    (stored : σ → String → Prop) : Prop where
  found : ∀ state table, stored state table →
    ∃ reflected, (db.reflect table schema state).1 = .ok (some reflected) ∧ reflected.columns ≠ []
  missed : ∀ state table, ¬stored state table → (db.reflect table schema state).1 = .ok none
  looked : ∀ state table other, stored (db.reflect table schema state).2 other ↔ stored state other
  created : ∀ state sql, Text.Opens (c.creation source) sql → ∀ other,
    stored (db.execute sql state).2 other ↔ stored state other ∨ other = c.createdName source.name
  left : ∀ state sql, Compiler.LeavesTables sql → ∀ other,
    stored (db.execute sql state).2 other ↔ stored state other
  entered : ∀ state other, stored (db.savepoint state) other ↔ stored state other
  released : ∀ state other, stored (db.release state) other ↔ stored state other

/-- A statement is accepted in every state. -/
def Accepts (db : Database σ) (sql : String) : Prop :=
  ∀ state, ∃ value next, db.execute sql state = (.ok value, next)

theorem passes_run {before after : σ → Prop} {sql : String} (accepted : db.Accepts sql)
    (leads : ∀ state, before state → after (db.execute sql state).2) : (db.run sql).Passes before after := by
  apply (Job.passes_note _ _).bind
  intro _
  apply (Job.passes_send _ _).bind
  intro _
  apply Job.passes_answer
  intro state start
  obtain ⟨value, next, answered⟩ := accepted state
  refine ⟨value, next, ?_, answered⟩
  have reached := leads state start
  rwa [answered] at reached

theorem passes_withSavepoint {α : Type} {job : Job σ α} {before after : σ → Prop}
    (entered : ∀ state, before state → before (db.savepoint state))
    (released : ∀ state, after state → after (db.release state)) (passed : job.Passes before after) :
    (db.withSavepoint job).Passes before after := by
  apply (Job.passes_send _ _).bind
  intro _
  apply (Job.passes_change entered).bind
  intro _
  apply passed.attempt_bind
  intro value
  apply (Job.passes_send _ _).bind
  intro _
  apply (Job.passes_change released).bind
  intro _
  exact Job.passes_pure value

/-- One statement of a batch that is accepted, and the rest of the batch. -/
theorem passes_runBatch_cons {before between after : σ → Prop} (tolerance : Tolerance) (savepoint : Bool)
    {sql : String} {rest : List String} (accepted : db.Accepts sql)
    (leads : ∀ state, before state → between (db.execute sql state).2)
    (entered : ∀ state, before state → before (db.savepoint state))
    (released : ∀ state, between state → between (db.release state))
    (then_ : ∀ result, (db.runBatch tolerance savepoint rest result).Passes between after)
    (result : BatchResult) :
    (db.runBatch tolerance savepoint (sql :: rest) result).Passes before after := by
  have statement : (do let _ ← db.run sql : Job σ Unit).Passes before between := by
    apply (passes_run accepted leads).bind
    intro _
    exact Job.passes_pure ()
  rw [runBatch]
  apply Job.Passes.attempt_bind
  · split
    · exact passes_withSavepoint entered released statement
    · exact statement
  · intro _
    apply (Job.passes_pure _).bind
    intro _
    exact then_ _

/-- The stored tables are those of `names`. -/
def Stores (stored : σ → String → Prop) (names : String → Prop) (state : σ) : Prop :=
  ∀ other, stored state other ↔ names other

variable {c : Compiler} {source : Table} {schema : Value} {stored : σ → String → Prop}
variable {names : String → Prop}

theorem ExactCatalogue.stores_savepoint (catalogue : db.ExactCatalogue c source schema stored) (state : σ)
    (stores : Stores stored names state) : Stores stored names (db.savepoint state) :=
  fun other => (catalogue.entered state other).trans (stores other)

theorem ExactCatalogue.stores_release (catalogue : db.ExactCatalogue c source schema stored) (state : σ)
    (stores : Stores stored names state) : Stores stored names (db.release state) :=
  fun other => (catalogue.released state other).trans (stores other)

/-- Statements that leave tables where they are do so one after the other. -/
theorem ExactCatalogue.passes_leaving (catalogue : db.ExactCatalogue c source schema stored)
    (tolerance : Tolerance) (savepoint : Bool) (statements : List String)
    (accepted : ∀ sql ∈ statements, db.Accepts sql)
    (leaving : ∀ sql ∈ statements, Compiler.LeavesTables sql) (result : BatchResult) :
    (db.runBatch tolerance savepoint statements result).Passes (Stores stored names) (Stores stored names) := by
  induction statements generalizing result with
  | nil => exact Job.passes_pure result
  | cons head tail ih =>
      have left (state : σ) (stores : Stores stored names state) :
          Stores stored names (db.execute head state).2 := fun other =>
        (catalogue.left state head (leaving head List.mem_cons_self) other).trans (stores other)
      have rest := ih (fun sql member => accepted sql (List.mem_cons_of_mem _ member))
        fun sql member => leaving sql (List.mem_cons_of_mem _ member)
      exact passes_runBatch_cons tolerance savepoint (accepted head List.mem_cons_self) left
        catalogue.stores_savepoint catalogue.stores_release rest result

/-- The statements that create a table add the one created name to the catalogue. -/
theorem ExactCatalogue.passes_creating (catalogue : db.ExactCatalogue c source schema stored)
    (tolerance : Tolerance) (savepoint : Bool) {head : String} {rest : List String}
    (opens : Text.Opens (c.creation source) head) (leaving : ∀ sql ∈ rest, Compiler.LeavesTables sql)
    (accepted : ∀ sql ∈ head :: rest, db.Accepts sql) (result : BatchResult) :
    (db.runBatch tolerance savepoint (head :: rest) result).Passes (Stores stored names)
      (Stores stored fun other => names other ∨ other = c.createdName source.name) := by
  have created (state : σ) (stores : Stores stored names state) :
      Stores stored (fun other => names other ∨ other = c.createdName source.name)
        (db.execute head state).2 := by
    intro other
    rw [catalogue.created state head opens, stores other]
  exact passes_runBatch_cons tolerance savepoint (accepted head List.mem_cons_self) created
    catalogue.stores_savepoint catalogue.stores_release
    (catalogue.passes_leaving tolerance savepoint rest
      (fun sql member => accepted sql (List.mem_cons_of_mem _ member)) leaving) result

end Database

namespace Worker

variable {σ : Type} {w : Worker σ} {source : Table} {stored : σ → String → Prop}

/-- A statement of the rebuild of a table. -/
def Rebuilds (w : Worker σ) (source : Table) (existing : Option Table) (sql : String) : Prop :=
  (∃ table ∈ existing, sql ∈ w.targetCompiler.deleteDdl table) ∨
    ∃ draft statements, ((w.targetCompiler.createDdl source).run draft).1 = .ok statements ∧ sql ∈ statements

/-- The catalogue of the target of a worker is exact for a table. -/
abbrev OnExactCatalogue (w : Worker σ) (source : Table) (stored : σ → String → Prop) : Prop :=
  w.target.db.ExactCatalogue w.targetCompiler source w.target.config.schemaName stored

theorem passes_create (catalogue : w.OnExactCatalogue source stored)
    (drafted : ∀ draft, ∃ statements, ((w.targetCompiler.createDdl source).run draft).1 = .ok statements)
    (accepted : ∀ sql, w.Rebuilds source none sql → w.target.db.Accepts sql) {names : String → Prop} :
    (w.create source).Passes (Database.Stores stored names)
      (Database.Stores stored fun other => names other ∨ other = w.targetCompiler.createdName source.name) := by
  intro world start
  apply Job.ensures_bind
  rw [Job.ensures_draft]
  obtain ⟨statements, given⟩ := drafted world.draft
  obtain ⟨head, rest, rfl, opens, leaving⟩ := w.targetCompiler.gives_createDdl source world.draft _ given
  rw [given]
  have accepts : ∀ sql ∈ head :: rest, w.target.db.Accepts sql := fun sql member =>
    accepted sql (Or.inr ⟨world.draft, _, given, member⟩)
  have running : (w.runDdl source.name (head :: rest)).Passes (Database.Stores stored names)
      (Database.Stores stored fun other =>
        names other ∨ other = w.targetCompiler.createdName source.name) := by
    apply (catalogue.passes_creating _ _ opens leaving accepts _).bind
    intro _
    exact Job.passes_pure ()
  have whole := running.bind fun _ => Job.passes_pure (head :: rest)
  exact whole _ start

theorem passes_dropExisting (existing : Option Table)
    (accepted : ∀ sql, w.Rebuilds source existing sql → w.target.db.Accepts sql) :
    (w.dropExisting source.name existing).Passes (fun _ => True) fun _ => True := by
  cases existing with
  | none => exact Job.passes_pure []
  | some existing =>
      have accepts : ∀ sql ∈ w.targetCompiler.deleteDdl existing, w.target.db.Accepts sql := fun sql member =>
        accepted sql (Or.inl ⟨existing, rfl, member⟩)
      have running (statements : List String) (within : ∀ sql ∈ statements, w.target.db.Accepts sql)
          (result : Database.BatchResult) : (w.target.db.runBatch
            (Database.toleranceOf w.compiler (some source.name)) w.compiler.transactional statements
            result).Passes (fun _ => True) fun _ => True := by
        induction statements generalizing result with
        | nil => exact Job.passes_pure result
        | cons head tail ih =>
            exact Database.passes_runBatch_cons _ _ (within head List.mem_cons_self) (fun _ _ => trivial)
              (fun _ _ => trivial) (fun _ _ => trivial)
              (ih fun sql member => within sql (List.mem_cons_of_mem _ member)) result
      apply Job.Passes.bind
      · apply (running _ accepts _).bind
        intro _
        exact Job.passes_pure ()
      · intro _
        exact Job.passes_pure _

/-! The lookup after the creation. -/

theorem checked_error {table : Table} {fault : Fault} (refused : table.checked = .error fault)
    (name : String) : fault ≠ notFound name := by
  unfold Table.checked at refused
  split at refused
  · cases refused
    intro same
    simp only [Fault.metadata, Fault.single, notFound, Fault.mk.injEq, List.cons.injEq,
      ErrorNode.mk.injEq, Value.text.injEq, String.append_assoc] at same
    refine absurd same.1.1.2.1.1 (Text.append_ne _ _ ?_)
    decide
  · cases refused

/-- The outcome of a lookup that is not empty-handed. -/
def Seen (result : Except Fault (Option Table)) : Prop :=
  (∃ table, result = .ok (some table)) ∨ ∃ fault, result = .error fault ∧ ∀ name, fault ≠ notFound name

theorem ensures_snapshot_stored (catalogue : w.OnExactCatalogue source stored) (world : World σ)
    {table : String} (present : stored world.state table) :
    (w.target.db.snapshot table w.target.config.schemaName).Ensures world fun result _ _ => Seen result := by
  obtain ⟨reflected, answered, filled⟩ := catalogue.found world.state table present
  apply Job.ensures_bind
  rw [Job.ensures_send]
  apply Job.ensures_bind
  rw [Job.ensures_answer]
  rw [answered]
  dsimp only
  rw [if_neg (by simpa using filled)]
  apply Job.ensures_bind
  rw [Job.ensures_noteAll]
  apply Job.ensures_bind
  rw [Job.ensures_ofExcept]
  cases passed : Table.checked _ with
  | ok checked => exact (Job.ensures_pure _).mpr (Or.inl ⟨checked, rfl⟩)
  | error fault => exact Or.inr ⟨fault, rfl, checked_error passed⟩

theorem ensures_snapshot_missing (catalogue : w.OnExactCatalogue source stored) (world : World σ)
    {table : String} (absent : ¬stored world.state table) :
    (w.target.db.snapshot table w.target.config.schemaName).Ensures world fun result _ final =>
      result = .ok none ∧ ∀ other, stored final.state other ↔ stored world.state other := by
  apply Job.ensures_bind
  rw [Job.ensures_send]
  apply Job.ensures_bind
  rw [Job.ensures_answer]
  rw [catalogue.missed world.state table absent]
  refine (Job.ensures_pure _).mpr ⟨rfl, ?_⟩
  exact catalogue.looked world.state table

/-- A table that is stored under the name, or under the name in upper case, is found. -/
theorem ensures_findTable_stored (catalogue : w.OnExactCatalogue source stored) (world : World σ)
    {name : String} (present : stored world.state name ∨ stored world.state (Text.upper name)) :
    (findTable w.target.db name w.target.config.schemaName).Ensures world fun result _ _ => Seen result := by
  by_cases own : stored world.state name
  · apply Job.ensures_bind
    apply (ensures_snapshot_stored catalogue world own).imp
    intro result events final outcome
    rcases outcome with ⟨table, rfl⟩ | ⟨fault, rfl, other⟩
    · exact (Job.ensures_pure _).mpr (Or.inl ⟨table, rfl⟩)
    · exact Or.inr ⟨fault, rfl, other⟩
  · have upper : stored world.state (Text.upper name) := present.resolve_left own
    have differs : Text.upper name ≠ name := by
      intro same
      rw [same] at upper
      exact own upper
    apply Job.ensures_bind
    apply (ensures_snapshot_missing catalogue world own).imp
    intro result events final outcome
    rcases outcome with ⟨rfl, kept⟩
    dsimp only
    rw [if_pos differs]
    apply (ensures_snapshot_stored catalogue final ((kept _).mpr upper)).imp
    intro result events final seen
    exact seen

theorem ensures_findTable_missing (catalogue : w.OnExactCatalogue source stored) (world : World σ)
    {name : String} (absent : ¬stored world.state name) (absentUpper : ¬stored world.state (Text.upper name)) :
    (findTable w.target.db name w.target.config.schemaName).Ensures world fun result _ _ =>
      result = .ok none := by
  apply Job.ensures_bind
  apply (ensures_snapshot_missing catalogue world absent).imp
  intro result events final outcome
  rcases outcome with ⟨rfl, kept⟩
  dsimp only
  split
  · apply (ensures_snapshot_missing catalogue final fun present => absentUpper ((kept _).mp present)).imp
    intro result events last outcome
    rcases outcome with ⟨missing, _⟩
    exact missing
  · exact (Job.ensures_pure _).mpr rfl

/-- Where names meet, a rebuild whose statements are accepted finds what it created. -/
theorem ensures_rebuild_found (catalogue : w.OnExactCatalogue source stored)
    (plain : Text.Plain source.name) (meets : w.targetCompiler.NamesMeet source.name)
    (drafted : ∀ draft, ∃ statements, ((w.targetCompiler.createDdl source).run draft).1 = .ok statements)
    {existing : Option Table} (accepted : ∀ sql, w.Rebuilds source existing sql → w.target.db.Accepts sql)
    (world : World σ) :
    (w.rebuild source existing).Ensures world fun result _ _ => result ≠ .error (notFound source.name) := by
  have creating : ∀ sql, w.Rebuilds source none sql → w.target.db.Accepts sql := by
    intro sql rebuilding
    rcases rebuilding with ⟨table, none_there, _⟩ | drafting
    · cases none_there
    · exact accepted sql (Or.inr drafting)
  obtain ⟨_, _, met⟩ := w.targetCompiler.created_last plain
  apply Job.ensures_bind
  apply (passes_dropExisting existing accepted world trivial).imp
  intro result events dropped outcome
  rcases outcome with ⟨⟨statements, rfl⟩, _⟩
  apply Job.ensures_bind
  apply (passes_create catalogue drafted creating dropped fun other => Iff.rfl).imp
  intro result events created outcome
  rcases outcome with ⟨⟨more, rfl⟩, stores⟩
  have there : stored created.state source.name ∨ stored created.state (Text.upper source.name) := by
    rcases met.mpr meets with same | upper
    · exact Or.inl ((stores _).mpr (Or.inr same.symm))
    · exact Or.inr ((stores _).mpr (Or.inr upper.symm))
  apply Job.ensures_bind
  apply (ensures_findTable_stored catalogue created there).imp
  intro result events final outcome
  rcases outcome with ⟨table, rfl⟩ | ⟨fault, rfl, other⟩
  · apply Job.ensures_bind
    apply (Job.ensures_announce _ _ _).imp
    intro result events last outcome
    rcases outcome with ⟨rfl, _⟩
    exact (Job.ensures_pure _).mpr nofun
  · intro same
    cases same
    exact other _ rfl

/-- Where names do not meet, a table that is new on the target is created and not found. -/
theorem ensures_rebuild_lost (catalogue : w.OnExactCatalogue source stored)
    (plain : Text.Plain source.name) (missed : ¬w.targetCompiler.NamesMeet source.name)
    (drafted : ∀ draft, ∃ statements, ((w.targetCompiler.createDdl source).run draft).1 = .ok statements)
    (accepted : ∀ sql, w.Rebuilds source none sql → w.target.db.Accepts sql) (world : World σ)
    (absent : ¬stored world.state source.name) (absentUpper : ¬stored world.state (Text.upper source.name)) :
    (w.rebuild source none).Ensures world fun result _ _ => result = .error (notFound source.name) := by
  obtain ⟨_, _, met⟩ := w.targetCompiler.created_last plain
  have other : ¬(w.targetCompiler.createdName source.name = source.name ∨
      w.targetCompiler.createdName source.name = Text.upper source.name) := fun found => missed (met.mp found)
  apply Job.ensures_bind
  rw [show w.dropExisting source.name none = pure [] from rfl, Job.ensures_pure]
  apply Job.ensures_bind
  apply (passes_create catalogue drafted accepted world fun other => Iff.rfl).imp
  intro result events created outcome
  rcases outcome with ⟨⟨more, rfl⟩, stores⟩
  apply Job.ensures_bind
  apply (ensures_findTable_missing catalogue created ?_ ?_).imp
  · intro result events final same
    rcases same with rfl
    exact (Job.ensures_throw _).mpr rfl
  · intro present
    rcases (stores _).mp present with before | created
    · exact absent before
    · exact other (Or.inl created.symm)
  · intro present
    rcases (stores _).mp present with before | created
    · exact absentUpper before
    · exact other (Or.inr created.symm)

/-- The created name is one of the two that are looked up exactly where names meet. There a rebuild whose
statements are accepted finds its table, whatever the catalogue holds; anywhere else it creates a table that was
not there before and does not find it. -/
theorem rebuild_found_iff_namesMeet (catalogue : w.OnExactCatalogue source stored)
    (plain : Text.Plain source.name)
    (drafted : ∀ draft, ∃ statements, ((w.targetCompiler.createDdl source).run draft).1 = .ok statements) :
    let c := w.targetCompiler
    ((c.createdName source.name = source.name ∨ c.createdName source.name = Text.upper source.name) ↔
      c.NamesMeet source.name) ∧
    (c.NamesMeet source.name → ∀ existing world,
      (∀ sql, w.Rebuilds source existing sql → w.target.db.Accepts sql) →
        (w.rebuild source existing).Ensures world fun result _ _ =>
          result ≠ .error (notFound source.name)) ∧
    (¬c.NamesMeet source.name → ∀ world : World σ,
      (∀ sql, w.Rebuilds source none sql → w.target.db.Accepts sql) →
        ¬stored world.state source.name → ¬stored world.state (Text.upper source.name) →
          (w.rebuild source none).Ensures world fun result _ _ =>
            result = .error (notFound source.name)) := by
  refine ⟨?_, ?_, ?_⟩
  · obtain ⟨_, _, met⟩ := w.targetCompiler.created_last plain
    exact met
  · intro meets existing world accepted
    exact ensures_rebuild_found catalogue plain meets drafted accepted world
  · intro missed world accepted absent absentUpper
    exact ensures_rebuild_lost catalogue plain missed drafted accepted world absent absentUpper

end Worker

/-- What stands between the double quotes of a statement, the first of which is the character before `start`. -/
def quotedName (start : Nat) (sql : String) : String :=
  String.ofList ((sql.toList.drop start).takeWhile (· ≠ '"'))

/-- The names of the stored tables behind a statement. -/
def namesAfter (sql : String) (names : List String) : List String :=
  if Compiler.createsTable sql then quotedName 14 sql :: names
  else if Compiler.dropsTable sql then names.filter (· ≠ quotedName 12 sql)
  else names

/-- A database that keeps nothing but the names of its tables. -/
def Database.names (label dialectName : String) : Database (List String) :=
  { Database.still label dialectName (fun _ => none) (fun _ => []) with
    reflect := fun table _ state =>
      (.ok (if table ∈ state then some (onlyId table) else none), state)
    execute := fun sql state => (.ok .null, namesAfter sql state) }

namespace Worker

/-- Rebuilds tables on a PostgreSQL target. -/
def namesRebuilder : Worker (List String) :=
  between .postgresql (Database.still "src" "sqlite" (fun _ => none) fun _ => [])
    (Database.names "dst" "postgresql")

theorem names_exact : namesRebuilder.OnExactCatalogue (.numbered "orders") fun state name => name ∈ state where
  found := by
    intro state table present
    refine ⟨Database.onlyId table, ?_, nofun⟩
    change Except.ok (if table ∈ state then some (Database.onlyId table) else none) = _
    rw [if_pos present]
  missed := by
    intro state table absent
    change Except.ok (if table ∈ state then some (Database.onlyId table) else none) = _
    rw [if_neg absent]
  looked := fun _ _ _ => Iff.rfl
  created := by
    intro state sql opens other
    rcases opens with ⟨rest, rfl⟩
    have creates : Compiler.createsTable
        (namesRebuilder.targetCompiler.creation (.numbered "orders") ++ rest) = true :=
      (((Text.opens_append "CREATE TABLE " _).append _).append rest).starts
    have added : namesAfter (namesRebuilder.targetCompiler.creation (.numbered "orders") ++ rest) state =
        "orders" :: state := by
      rw [namesAfter, if_pos creates, quotedName, String.toList_append]
      rfl
    change other ∈ namesAfter _ state ↔ _
    rw [added, List.mem_cons, Or.comm]
    exact Iff.rfl
  left := by
    intro state sql leaves other
    rcases leaves with ⟨drops, creates⟩
    change other ∈ namesAfter sql state ↔ _
    rw [namesAfter, creates, drops]
    exact Iff.rfl
  entered := fun _ _ => Iff.rfl
  released := fun _ _ => Iff.rfl

theorem rebuild_found_iff_namesMeet_orders :
    Text.Plain "orders" ∧
      (namesRebuilder.rebuild (.numbered "orders") none).Ensures { state := [], now := fun _ => .zero false }
        fun result _ _ => result ≠ .error (notFound "orders") := by
  have plain : Text.Plain "orders" := by decide +kernel
  have found := rebuild_found_iff_namesMeet names_exact plain fun draft => ⟨_, rfl⟩
  refine ⟨plain, found.2.1 (Or.inl ?_) none _ fun sql _ state => ⟨_, _, rfl⟩⟩
  decide +kernel

/-- Statements that PostgreSQL accepts for a name in mixed case, and a table that is lost. -/
theorem rebuild_loses_mixed_case :
    let ran := (namesRebuilder.rebuild (.numbered "Orders") none).run { state := [], now := fun _ => .zero false }
    ran.1 = .error (notFound "Orders") ∧ ran.2.state = ["orders"] :=
  ⟨rfl, rfl⟩

end Worker

end TableFerry
