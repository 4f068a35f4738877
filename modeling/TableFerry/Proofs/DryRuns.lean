import TableFerry.Proofs.AcceptedRuns
import TableFerry.Proofs.ExitStatus
/-! What a dry run shows and what the run itself creates. From a source that can be read and into an empty target that
accepts everything, both write the same statements under the same random choices, but they choose their tables in two
ways: a dry run shows all whose names hold a fragment, and the run creates those that were asked for, small enough and
not ignored. -/

namespace TableFerry

open Compiler (createsTable)
open Worker (executed?)

variable {σ : Type}

namespace Migration

section Setting

variable {m : Migration σ} {names : List String} {tables : String → Table} {sizes : String → Nat}
variable {holds : List String → σ → Prop} {created : List String} {name : String}

theorem selectNames_sublist (names fragments : List String) : (selectNames names fragments).Sublist names := by
  unfold selectNames
  split
  · exact .refl names
  · exact List.filter_sublist

theorem requested?_mem {wanted found : String} (given : requested? names wanted = some found) :
    found ∈ selectNames names [wanted] :=
  List.mem_of_find?_eq_some given

/-- The tables of a run among names that were counted. -/
def sized (m : Migration σ) (sizes : String → Nat) (names : List String) : List SizedTable :=
  names.filterMap fun name => if m.strategy.exceeds (some (sizes name)) then none else some ⟨name, some (sizes name)⟩

/-- The names of tables that are not too large. -/
def moderate (m : Migration σ) (sizes : String → Nat) (names : List String) : List String :=
  names.filter fun name => !m.strategy.exceeds (some (sizes name))

theorem names_sized (m : Migration σ) (sizes : String → Nat) (names : List String) :
    (m.sized sizes names).map (·.name) = m.moderate sizes names := by
  induction names with
  | nil => rfl
  | cons head tail ih =>
      rw [sized, List.filterMap_cons, moderate]
      cases large : m.strategy.exceeds (some (sizes head)) with
      | true =>
          rw [List.filter_cons_of_neg (by simp [large])]
          exact ih
      | false =>
          rw [List.filter_cons_of_pos (by simp [large])]
          exact congrArg (head :: ·) ih

/-- Nothing was created yet, and distinct names of the source were counted. -/
theorem awaits_sized (m : Migration σ) (sizes : String → Nat) {chosen : List String} (distinct : chosen.Nodup)
    (within : ∀ name ∈ chosen, name ∈ names) : m.Awaits names [] (m.sized sizes chosen) where
  known := nofun
  listed := by
    intro table member
    have among := List.mem_map_of_mem (f := (·.name)) member
    rw [names_sized] at among
    exact within _ (List.mem_of_mem_filter among)
  small := by
    intro table member
    obtain ⟨name, _, given⟩ := List.mem_filterMap.mp member
    split at given
    · cases given
    · rename_i small
      cases given
      exact Bool.eq_false_iff.mpr small
  distinct := by
    rw [List.nil_append, names_sized]
    exact distinct.filter _

theorem Serves.idle_listTables {label : String} (serves : m.Serves names tables sizes holds) :
    (m.source.db.listTables m.source.config.schemaName).Idle label holds created (· = names) := by
  apply (Job.idle_send _ (.tableNames _) nofun).bind
  intro _ _
  exact Job.idle_answer_of (serves.listed created)

theorem Serves.idle_sourceTables {label : String} (serves : m.Serves names tables sizes holds)
    (fragments : List String) :
    (m.sourceTables fragments).Idle label holds created (· = selectNames names fragments) := by
  apply Job.Idle.bind serves.idle_listTables
  rintro _ rfl
  exact Job.idle_pure rfl

theorem Serves.idle_measure {label : String} (serves : m.Serves names tables sizes holds) (among : name ∈ names) :
    (m.measure name).Idle label holds created fun found =>
      found = if m.strategy.exceeds (some (sizes name)) then none else some ⟨name, some (sizes name)⟩ := by
  obtain ⟨quoted, named, counted⟩ := serves.measures name among
  obtain ⟨value, given, number⟩ := counted created
  have counting : (do
      let quoted ← Job.ofExcept (m.source.qualifiedName name)
      m.source.db.number (Worker.query "count(*)" quoted none) : Job σ Int).Idle label holds created
        (· = (sizes name : Int)) := by
    apply (Job.idle_ofExcept named).bind
    rintro _ rfl
    exact m.source.db.idle_number (Worker.query_leaves _ _ none).2 given number
  apply Job.Idle.bind counting.attempt
  rintro _ ⟨_, rfl, rfl⟩
  dsimp only
  rw [Int.toNat_natCast, decide_eq_true (Int.natCast_nonneg _), Bool.true_and]
  split
  · apply (Job.idle_note _ _).bind
    intro _ _
    exact Job.idle_pure rfl
  · have sized : SizedTable.ofCount name (sizes name : Int) = .ok ⟨name, some (sizes name)⟩ := by
      unfold SizedTable.ofCount
      rw [if_neg (by omega), if_neg (by omega), Int.toNat_natCast]
    apply (Job.idle_ofExcept sized).bind
    rintro _ rfl
    exact Job.idle_pure rfl

theorem Serves.idle_discover {label : String} (serves : m.Serves names tables sizes holds)
    (fragments : List String) :
    (m.discover fragments).Idle label holds created (· = m.sized sizes (selectNames names fragments)) := by
  have measured (chosen : List String) (within : ∀ name ∈ chosen, name ∈ names) :
      (chosen.mapM m.measure).Idle label holds created fun found =>
        found.filterMap id = m.sized sizes chosen := by
    induction chosen with
    | nil => exact Job.idle_pure rfl
    | cons head tail ih =>
        rw [List.mapM_cons]
        apply Job.Idle.bind (serves.idle_measure (within head List.mem_cons_self))
        intro found same
        apply Job.Idle.bind (ih fun name member => within name (List.mem_cons_of_mem _ member))
        intro others rest
        apply Job.idle_pure
        rw [sized, List.filterMap_cons, List.filterMap_cons, rest, ← same]
        rfl
  have found : (m.source.db.withConnection do
      let names ← m.sourceTables fragments
      let found ← names.mapM m.measure
      pure (found.filterMap id)).Idle label holds created (· = m.sized sizes (selectNames names fragments)) := by
    apply m.source.db.makes_withConnection (serves.reached created)
    apply Job.Idle.bind (serves.idle_sourceTables fragments)
    rintro _ rfl
    apply Job.Idle.bind (measured _ fun name member => (selectNames_sublist names fragments).subset member)
    intro found same
    exact Job.idle_pure same
  apply Job.Idle.bind found
  rintro _ rfl
  apply (Job.idle_note _ _).bind
  intro _ _
  exact Job.idle_pure rfl

theorem idle_reportSkipped {label : String} (m : Migration σ) (name reason : String) :
    (m.reportSkipped name reason).Idle label holds created fun _ => True := by
  apply Job.Idle.bind idle_beginReport
  intro _ _
  apply (Job.idle_announce _ _).bind
  intro _ _
  exact idle_endReport

theorem Clear.idle_draft {label : String} (clear : m.Clear names tables) (among : name ∈ names) :
    (Job.draft (m.targetCompiler.createDdl (tables name)) : Job σ (List String)).Idle label holds created
      fun statements => m.Drafted tables (name, statements) := by
  intro world start
  obtain ⟨statements, written⟩ := clear.drafted name among (m.targetCompiler.choicesFrom world.draft.drawn)
  rw [Job.ensures_draft, m.targetCompiler.run_createDdl (tables name) world.draft, written]
  refine ⟨statements, [], rfl, ⟨rfl, world.draft.drawn, written⟩, .quiet nofun, ?_⟩
  rwa [List.map_nil, List.append_nil]

/-- A dry run shows the selected tables, each with its statements. -/
theorem Serves.idle_preview (label : String) (serves : m.Serves names tables sizes holds)
    (clear : m.Clear names tables) (fragments : List String) :
    (m.preview fragments).Idle label holds created (m.DraftedAll tables (selectNames names fragments)) := by
  have within := (selectNames_sublist names fragments).subset
  have distinct := clear.distinct.sublist (selectNames_sublist names fragments)
  apply m.source.db.makes_withConnection (serves.reached created)
  apply Job.Idle.bind (serves.idle_sourceTables fragments)
  rintro _ rfl
  -- The tables before the one under way were shown, each under a name of its own.
  apply Job.idle_foldlM draftedAll_nil
  intro shown name left previews all drafted
  have among : name ∈ names := within (all ▸ List.mem_append_right _ List.mem_cons_self)
  have fresh : name ∉ shown := by
    rw [all] at distinct
    exact fun there => List.disjoint_of_nodup_append distinct there List.mem_cons_self
  apply Job.Idle.bind (serves.idle_read among)
  rintro _ rfl
  apply Job.Idle.bind (clear.idle_draft among)
  intro statements own
  rw [putEntry_fresh statements (drafted.1 ▸ fresh)]
  exact Job.idle_pure (drafted.append ⟨rfl, List.forall_mem_singleton.mpr own⟩)

end Setting

end Migration

namespace Command

open Migration (selectNames requested?)

variable {m : Migration σ} {names : List String} {tables : String → Table} {sizes : String → Nat}
variable {holds : List String → σ → Prop}

/-- The tables that are asked for: the one with the given name, those whose names hold a fragment of the list, or all.
A list without fragments is refused. -/
def asked (options : Options) (names : List String) : List String :=
  if isGiven options.table then (requested? names (options.table.getD "")).toList
  else if isGiven options.tables then
    if (splitNames (options.tables.getD "")).isEmpty then []
    else selectNames names (splitNames (options.tables.getD ""))
  else names

/-- The tables that a run creates: those that are asked for, not too large and not ignored. -/
def chosen (m : Migration σ) (options : Options) (names : List String) (sizes : String → Nat) : List String :=
  m.unignored (m.moderate sizes (asked options names))

theorem mem_chosen {options : Options} {name : String} :
    name ∈ chosen m options names sizes ↔ name ∈ asked options names ∧
      m.strategy.exceeds (some (sizes name)) = false ∧ m.strategy.ignores name = false := by
  simp only [chosen, Migration.unignored, Migration.moderate, List.mem_filter, Bool.not_eq_true', and_assoc]

/-- Whatever is asked for is shown. -/
theorem asked_subset {options : Options} : asked options names ⊆ selectNames names (fragments options) := by
  intro name member
  unfold asked at member
  unfold fragments
  split at member
  · rename_i given
    rw [if_pos given]
    obtain ⟨wanted, same⟩ : ∃ wanted, options.table = some wanted := by
      cases table : options.table with
      | some wanted => exact ⟨wanted, rfl⟩
      | none =>
          rw [table] at given
          cases given
    rw [same] at member ⊢
    exact Migration.requested?_mem (Option.mem_toList.mp member)
  · rename_i not_given
    rw [if_neg not_given]
    split at member
    · rename_i given
      rw [if_pos given]
      split at member
      · cases member
      · exact member
    · rename_i not_given
      rw [if_neg not_given]
      exact member

/-- What is selected is what a run is to create: the tables that are handed over were not created yet, and those of
them that are not ignored are the chosen ones. -/
def Fits (m : Migration σ) (options : Options) (names : List String) (sizes : String → Nat) : Selection → Prop
  | .skipped .. => chosen m options names sizes = []
  | .handed tables _ _ =>
    m.Awaits names [] tables ∧ m.unignored (tables.map (·.name)) = chosen m options names sizes

theorem fits_sized (sizes : String → Nat) (clear : m.Clear names tables) {options : Options} {wanted : List String}
    (within : wanted.Sublist names) (all : asked options names = wanted) (workers : Int) (condition : Option String) :
    Fits m options names sizes (.handed (m.sized sizes wanted) workers condition) := by
  refine ⟨m.awaits_sized sizes (clear.distinct.sublist within) fun name member => within.subset member, ?_⟩
  rw [Migration.names_sized, chosen, all]

/-- One table is selected by its name, and the others by fragments. -/
theorem idle_select {label : String} (serves : m.Serves names tables sizes holds) (clear : m.Clear names tables)
    {options : Options} (asks : isGiven options.table = false → isGiven options.tables = true →
      (splitNames (options.tables.getD "")).isEmpty = false) :
    (select m options).Idle label holds [] (Fits m options names sizes) := by
  have found (wanted : List String) (all : asked options names = selectNames names wanted) (workers : Int) :
      (m.discover wanted >>= fun tables => pure (.handed tables workers none) : Job σ Selection).Idle label holds []
        (Fits m options names sizes) := by
    apply Job.Idle.bind (serves.idle_discover wanted)
    rintro _ rfl
    exact Job.idle_pure (fits_sized sizes clear (Migration.selectNames_sublist names wanted) all workers none)
  unfold select
  split
  · rename_i given
    apply Job.Idle.bind serves.idle_listTables
    intro listed same
    rw [same]
    cases wanted : requested? names (options.table.getD "") with
    | none =>
        apply (Job.idle_note _ _).bind
        intro _ _
        apply Job.idle_pure
        rw [Fits, chosen, asked, if_pos given, wanted]
        rfl
    | some name =>
        have among := (Migration.selectNames_sublist _ _).subset (Migration.requested?_mem wanted)
        have alone : asked options names = [name] := by
          rw [asked, if_pos given, wanted]
          rfl
        apply Job.Idle.bind (m.source.db.makes_withConnection (serves.reached []) (serves.idle_measure among))
        rintro _ rfl
        cases large : m.strategy.exceeds (some (sizes name)) with
        | true =>
            apply Job.idle_pure
            simp [Fits, chosen, Migration.moderate, Migration.unignored, alone, large]
        | false =>
            have fits := fits_sized sizes clear (List.singleton_sublist.mpr among) alone 1 options.condition
            rw [show m.sized sizes [name] = [⟨name, some (sizes name)⟩] by simp [Migration.sized, large]] at fits
            exact Job.idle_pure fits
  · rename_i not_given
    split
    · rename_i given
      have some_asked := asks (Bool.eq_false_iff.mpr not_given) given
      dsimp only
      rw [if_neg (Bool.eq_false_iff.mp some_asked)]
      apply found
      rw [asked, if_neg not_given, if_pos given, if_neg (Bool.eq_false_iff.mp some_asked)]
    · rename_i not_list
      apply found
      rw [asked, if_neg not_given, if_neg not_list]
      rfl

theorem makes_carry (serves : m.Serves names tables sizes holds) (clear : m.Clear names tables) {options : Options}
    {selection : Selection} (fits : Fits m options names sizes selection) :
    (carry m selection).Makes m.target.db.label holds [] fun _ made =>
      (made.map (·.1)).Perm (chosen m options names sizes) ∧ ∀ entry ∈ made, m.Drafted tables entry := by
  cases selection with
  | skipped name reason =>
      have none_chosen : chosen m options names sizes = [] := fits
      apply (m.idle_reportSkipped name reason).imp
      rintro report _ ⟨rfl, _⟩
      rw [none_chosen]
      exact ⟨.refl [], nofun⟩
  | handed wanted workers condition =>
      obtain ⟨awaits, names_chosen⟩ := fits
      rw [← names_chosen]
      exact serves.makes_run clear awaits workers

/-- A run creates the tables that it chooses. -/
theorem makes_sync (serves : m.Serves names tables sizes holds) (clear : m.Clear names tables) {options : Options}
    (asks : isGiven options.table = false → isGiven options.tables = true →
      (splitNames (options.tables.getD "")).isEmpty = false) :
    (sync m options).Makes m.target.db.label holds [] fun _ made =>
      (made.map (·.1)).Perm (chosen m options names sizes) ∧ ∀ entry ∈ made, m.Drafted tables entry := by
  rw [sync_eq]
  apply Job.Idle.bind (idle_select serves clear asks)
  intro selection fits
  exact makes_carry serves clear fits

/-- Whatever the options ask for, the run creates the chosen tables and no others. -/
theorem ensures_sync (serves : m.Serves names tables sizes holds) (clear : m.Clear names tables) (options : Options)
    (world : World σ) (start : holds [] world.state) :
    ∃ made : List (String × List String),
      (sync m options).Ensures world (fun _ events _ =>
        CreationScript m.target.db.label made (events.filterMap executed?)) ∧
      (made.map (·.1)).Perm (chosen m options names sizes) ∧ ∀ entry ∈ made, m.Drafted tables entry := by
  -- A list without fragments is refused before the tables are looked for.
  by_cases asks : isGiven options.table = false → isGiven options.tables = true →
      (splitNames (options.tables.getD "")).isEmpty = false
  · obtain ⟨events, grown, _, made, _, ⟨perm, drafted⟩, script, _⟩ := makes_sync serves clear asks world start
    exact ⟨made, ⟨events, grown, script⟩, perm, drafted⟩
  · simp only [Classical.not_imp, Bool.not_eq_false] at asks
    rcases asks with ⟨not_table, given, empty⟩
    refine ⟨[], ?_, ?_, nofun⟩
    · unfold sync
      rw [if_neg (Bool.eq_false_iff.mp not_table), if_pos given]
      unfold Migration.migrateMatching
      rw [if_pos empty]
      exact (Job.ensures_throw _).mpr (.quiet nofun)
    · rw [chosen, asked, if_neg (Bool.eq_false_iff.mp not_table), if_pos given, if_pos empty]
      exact .refl []

/-- From a source that can be read and into an empty target that accepts everything, a dry run shows every table whose
name holds a fragment, and the run creates those that are asked for, not too large and not ignored, each by one
CREATE TABLE. What is shown and what is sent for a table are the same statements, but for the random choices that each
of them draws. So the two agree on the tables exactly if every table that is shown is asked for, not too large and not
ignored. -/
theorem dryRun_agrees_iff (serves : m.Serves names tables sizes holds) (clear : m.Clear names tables)
    (options : Options) (world : World σ) (start : holds [] world.state) :
    ∃ shown made : List (String × List String),
      (dryRun m options).Ensures world (fun result _ _ => result = .ok ⟨0, shown.flatMap fun preview =>
        ("-- " ++ preview.1) :: preview.2.map fun statement => statement ++ ";"⟩) ∧
      (sync m options).Ensures world (fun _ events _ =>
        CreationScript m.target.db.label made (events.filterMap executed?)) ∧
      shown.map (·.1) = selectNames names (fragments options) ∧
      (made.map (·.1)).Perm (chosen m options names sizes) ∧
      (∀ one ∈ shown, ∀ other ∈ made, one.1 = other.1 → ∃ ahead behind,
        m.targetCompiler.statements (tables one.1) (m.targetCompiler.choicesFrom ahead) = .ok one.2 ∧
        m.targetCompiler.statements (tables one.1) (m.targetCompiler.choicesFrom behind) = .ok other.2 ∧
        (m.targetCompiler.choicesFrom ahead = m.targetCompiler.choicesFrom behind → one.2 = other.2)) ∧
      ((∀ name, name ∈ shown.map (·.1) ↔ name ∈ made.map (·.1)) ↔
        ∀ name ∈ selectNames names (fragments options), name ∈ asked options names ∧
          m.strategy.exceeds (some (sizes name)) = false ∧ m.strategy.ignores name = false) := by
  obtain ⟨events, grown, shown, _, listed, ⟨_, of_names, drafted_shown⟩, _, _⟩ :=
    serves.idle_preview m.target.db.label clear (fragments options) world start
  obtain ⟨made, created, perm, drafted_made⟩ := ensures_sync serves clear options world start
  refine ⟨shown, made, ?_, created, of_names, perm, ?_, ?_⟩
  · apply Job.ensures_bind
    refine ⟨events, grown, ?_⟩
    rw [listed]
    apply Job.ensures_bind
    rw [Job.ensures_note]
    exact (Job.ensures_pure _).mpr rfl
  · intro one member other also same
    obtain ⟨ahead, written⟩ := drafted_shown one member
    obtain ⟨behind, rewritten⟩ := drafted_made other also
    rw [← same] at rewritten
    refine ⟨ahead, behind, written, rewritten, ?_⟩
    intro alike
    rw [alike, rewritten] at written
    exact (Except.ok.inj written).symm
  · rw [of_names]
    constructor
    · intro agree name member
      exact mem_chosen.mp (perm.mem_iff.mp ((agree name).mp member))
    · intro all name
      constructor
      · exact fun member => perm.mem_iff.mpr (mem_chosen.mpr (all name member))
      · exact fun member => asked_subset (mem_chosen.mp (perm.mem_iff.mp member)).1

/-- A source with two tables, the name of one of which holds that of the other, and a target that keeps the names of its
tables. -/
def twoOrders : Migration (List String) :=
  let w := Worker.namesMover
  { source := { w.source with db := { w.source.db with
      tableNames := fun _ state => (.ok ["orders", "orders_archive"], state) } }
    target := w.target
    compiler := w.compiler
    strategy := w.strategy
    listeners := w.listeners }

/-- The stored names are those that were created. -/
def StoresCreated (created state : List String) : Prop :=
  ∀ other, other ∈ state ↔ ∃ name ∈ created, twoOrders.targetCompiler.createdName name = other

theorem serves_twoOrders :
    twoOrders.Serves ["orders", "orders_archive"] Worker.idTable (fun _ => 0) StoresCreated where
  listed := fun _ state start => ⟨state, start, rfl⟩
  reached := fun _ state start => ⟨state, start, rfl⟩
  reads := fun name _ => ⟨Database.onlyId name, List.cons_ne_nil _ _, rfl, fun _ state start => ⟨state, start, rfl⟩⟩
  counts := fun _ _ _ => ⟨.null, 0, fun state start => ⟨state, start, rfl⟩, rfl⟩
  measures := by
    intro name among
    rcases List.mem_pair.mp among with rfl | rfl
    · exact ⟨"orders", rfl, fun _ => ⟨.null, fun state start => ⟨state, start, rfl⟩, rfl⟩⟩
    · exact ⟨"orders_archive", rfl, fun _ => ⟨.null, fun state start => ⟨state, start, rfl⟩, rfl⟩⟩
  pages := fun _ _ state start => ⟨_, state, start, rfl⟩
  ordered := by
    have unordered : ∀ name ∈ ["orders", "orders_archive"], Worker.orderColumns (Worker.idTable name) = [] := by
      decide +kernel
    intro name among
    rw [unordered name among]
    exact ⟨[], rfl⟩
  connects := fun _ state start => ⟨state, start, rfl⟩
  begins := fun _ state start => ⟨state, start, rfl⟩
  commits := fun _ state start => ⟨state, start, rfl⟩
  entered := fun _ _ start => start
  released := fun _ _ start => start
  inserts := fun _ _ _ state start => ⟨state, start, rfl⟩
  accepts := by
    intro created sql leaves state start
    refine ⟨.null, namesAfter sql state, ?_, rfl⟩
    rw [namesAfter, leaves.1, leaves.2]
    exact start
  creates := by
    intro created name among sql opens state start
    have creates := Compiler.creation_creates _ _ opens
    have quoted : quotedName 14 sql = twoOrders.targetCompiler.createdName name := by
      rcases opens with ⟨rest, rfl⟩
      rw [quotedName, String.toList_append]
      rcases List.mem_pair.mp among with rfl | rfl <;> rfl
    refine ⟨.null, namesAfter sql state, ?_, rfl⟩
    rw [namesAfter, if_pos creates, quoted]
    intro other
    rw [List.mem_cons, start other]
    simp [or_comm, eq_comm]
  found := by
    intro created name there
    refine ⟨Database.onlyId (twoOrders.targetCompiler.createdName name), _, List.cons_ne_nil _ _, rfl, ?_⟩
    intro state start
    refine ⟨state, start, ?_⟩
    exact congrArg (fun found => (Except.ok found, state)) (if_pos ((start _).mpr ⟨name, there, rfl⟩))
  missed := by
    intro created table absent state start
    refine ⟨state, start, ?_⟩
    apply congrArg (fun found => (Except.ok found, state))
    apply if_neg
    intro there
    obtain ⟨name, among, same⟩ := (start table).mp there
    exact absent name among same

theorem clear_twoOrders : twoOrders.Clear ["orders", "orders_archive"] Worker.idTable where
  distinct := by decide
  meets := by decide +kernel
  apart := by decide +kernel
  drafted := fun _ _ _ => ⟨_, rfl⟩

/-- Asked for all tables, a dry run and the run agree. -/
theorem dryRun_agrees_iff_twoOrders :
    ∃ shown made : List (String × List String),
      (sync twoOrders { all := true }).Ensures { state := [], now := fun _ => .zero false } (fun _ events _ =>
        CreationScript "dst" made (events.filterMap executed?)) ∧
      shown.map (·.1) = ["orders", "orders_archive"] ∧
      ∀ name, name ∈ shown.map (·.1) ↔ name ∈ made.map (·.1) := by
  obtain ⟨shown, made, _, created, of_names, _, _, agree⟩ :=
    dryRun_agrees_iff serves_twoOrders clear_twoOrders { all := true }
      { state := [], now := fun _ => .zero false } (by simp [StoresCreated])
  refine ⟨shown, made, created, of_names, agree.mpr ?_⟩
  intro name member
  exact ⟨member, rfl, rfl⟩

/-- Asked for one table, a dry run shows two and the run creates one. -/
theorem dryRun_shows_more :
    let options : Options := { table := some "orders" }
    let start : World (List String) := { state := [], now := fun _ => .zero false }
    (((dryRun twoOrders options).run start).1.map (·.printed)).toOption = some [
      "-- orders", "CREATE TABLE \"orders\" (\"id\" FAKETYPE NULL);",
      "-- orders_archive", "CREATE TABLE \"orders_archive\" (\"id\" FAKETYPE NULL);"] ∧
    (((sync twoOrders options).run start).2.trace.filterMap executed?).filter (createsTable ·.2) =
      [("dst", "CREATE TABLE \"orders\" (\"id\" FAKETYPE NULL)")] := by
  decide +kernel

end Command

end TableFerry
