import TableFerry.Proofs.CopyExactness
/-! A copy whose pages are cut each from a list of its own. What is inserted are the cut rows, mapped, in the order
of the pages; nothing else is inserted, and their number is what the copy reports. -/

namespace TableFerry

open Job (Gives Succeeds)

/-- The values that an event brings into a table, row by row. -/
def Event.insertedValues : Event → List (List Value)
  | .sent _ (.insert _ rows) => rows.map fun row => row.map (·.2)
  | _ => []

namespace Database

variable {σ : Type} {kept : σ → Prop}

theorem yields_withConnection {α : Type} {job : Job σ α} {post : α → List Event → Prop} (db : Database σ)
    (connects : Gives kept db.connect ()) (yields : job.Yields kept fun value events =>
      post value (.sent db.label .connect :: events ++ [.sent db.label .close])) :
    (db.withConnection job).Yields kept post := by
  apply (Job.performs_answer connects).yields_bind
  apply (Job.performs_send db .connect).yields_bind
  apply yields.attempt_bind
  intro value events met
  apply (Job.performs_send db .close).yields_bind
  exact (Job.performs_ofExcept rfl).yields met

theorem yields_run (db : Database σ) (sql : String) (succeeds : Succeeds kept (db.execute sql)) :
    (db.run sql).Yields kept fun _ events => events = [.sent db.label (.execute sql)] := by
  apply (Job.performs_note _ _).yields_bind
  apply (Job.performs_send _ _).yields_bind
  apply Job.yields_answer
  intro state start
  obtain ⟨value, next, next_kept, answered⟩ := succeeds state start
  exact ⟨value, next, rfl, next_kept, answered⟩

end Database

namespace Worker

variable {σ : Type}

/-- Every page is answered with a cut from a list that is admitted for it, which may be another one each time. -/
def CutsPages (w : Worker σ) (copying : Copying) (kept : σ → Prop) (admits : Nat → List Row → Prop)
    (answer : PageQuery → Answer σ (List Row)) : Prop :=
  ∀ page state, kept state → ∃ rows next, admits page rows ∧ kept next ∧
    answer (w.pageQuery copying page) state = (.ok (slice rows copying.pageSize page), next)

/-- The events of copying a page, which is announced to whoever records. -/
def servedEvents (w : Worker σ) (copying : Copying) (pages : Nat) (rows : List Row) (page : Nat) : List Event :=
  .sent w.source.db.label (.page (w.pageQuery copying page)) ::
    (w.target.db.insertions copying.targetName (batch copying rows page) ++
      List.replicate (w.listeners.count .recorder)
        (.announced (.pageCopied w.bucket copying.table page pages (batch copying rows page).length)))

/-- A source whose name can be written and whose rows can be counted, and a target that accepts every statement. -/
structure Ready (w : Worker σ) (table : SizedTable) (source : Table) (condition : Option String)
    (kept : σ → Prop) (sourceName : String) (count : Nat) : Prop where
  named : w.source.qualifiedName source.name = .ok sourceName
  connects : Gives kept w.source.db.connect ()
  counts : w.Counts table sourceName condition kept count
  executes : ∀ sql, Succeeds kept (w.target.db.execute sql)
  inserts : ∀ statement params, Gives kept (w.target.db.insert statement params) ()

variable {w : Worker σ} {copying : Copying} {kept : σ → Prop} {admits : Nat → List Row → Prop}

theorem yields_atPage {α : Type} {job : Job σ α} {post : α → List Event → Prop} (copying : Copying) (page : Nat)
    (yields : job.Yields kept post) : (atPage copying page job).Yields kept post := by
  apply yields.attempt_bind
  intro value events met
  apply (Job.performs_pure value).yields
  rwa [List.append_nil]

theorem yields_copyPage (cuts : w.CutsPages copying kept admits w.source.db.page)
    (inserts : ∀ statement params, Gives kept (w.target.db.insert statement params) ())
    (page pages : Nat) :
    (w.copyPage copying page pages).Yields kept fun copied events => ∃ rows, admits page rows ∧
      copied = (batch copying rows page).length ∧ events = w.servedEvents copying pages rows page := by
  have asked : (w.source.db.pageOf copying.rowQuery page copying.pageSize copying.order).Yields kept
      fun answered events => ∃ rows, admits page rows ∧ answered = slice rows copying.pageSize page ∧
        events = [.sent w.source.db.label (.page (w.pageQuery copying page))] := by
    apply (Job.performs_send _ _).yields_bind
    apply Job.yields_answer
    intro state start
    obtain ⟨rows, next, admitted, next_kept, answered⟩ := cuts page state start
    exact ⟨_, next, ⟨rows, admitted, rfl, rfl⟩, next_kept, answered⟩
  apply asked.bind
  intro answered events outcome
  rcases outcome with ⟨rows, admitted, rfl, rfl⟩
  apply (w.target.db.performs_insertRows copying.targetName (batch copying rows page) inserts).yields_bind
  apply (Job.performs_announcement _ _).yields_bind
  apply (Job.performs_pure _).yields
  rw [List.append_nil]
  exact ⟨rows, admitted, rfl, rfl⟩

/-- A run of copying pages, each of which is cut from a list of its own. -/
theorem yields_copyPages (cuts : w.CutsPages copying kept admits w.source.db.page)
    (inserts : ∀ statement params, Gives kept (w.target.db.insert statement params) ())
    (pages left page copied : Nat) :
    (w.copyPages copying pages left page copied).Yields kept fun total events => ∃ rows : Nat → List Row,
      (∀ number ∈ List.range' page left, admits number (rows number)) ∧
      total = copied + ((List.range' page left).map fun number => (batch copying (rows number) number).length).sum ∧
      events = (List.range' page left).flatMap fun number => w.servedEvents copying pages (rows number) number := by
  induction left generalizing page copied with
  | zero => exact (Job.performs_pure copied).yields ⟨fun _ => [], nofun, rfl, rfl⟩
  | succ left ih =>
      apply (yields_atPage copying page (yields_copyPage cuts inserts page pages)).bind
      intro inserted events outcome
      rcases outcome with ⟨first, admitted, rfl, rfl⟩
      intro world start
      apply (ih (page + 1) (copied + (batch copying first page).length) world start).imp
      intro result more final outcome
      rcases outcome with ⟨total, rfl, ⟨rows, each, rfl, rfl⟩, final_kept⟩
      let all (number : Nat) : List Row := if number = page then first else rows number
      have own : all page = first := if_pos rfl
      have later : ∀ number ∈ List.range' (page + 1) left, all number = rows number := by
        intro number member
        have behind := (List.mem_range'_1.mp member).1
        exact if_neg (by omega)
      refine ⟨_, rfl, ⟨all, ?_, ?_, ?_⟩, final_kept⟩
      · rw [List.range'_succ, List.forall_mem_cons, own]
        refine ⟨admitted, ?_⟩
        intro number member
        rw [later number member]
        exact each number member
      · have lengths := List.map_congr_left fun number member =>
          congrArg (fun rows => (batch copying rows number).length) (later number member)
        rw [List.range'_succ, List.map_cons, List.sum_cons, own, lengths, Nat.add_assoc]
      · have pageEvents := List.flatMap_congr fun number member =>
          congrArg (fun rows => w.servedEvents copying pages rows number) (later number member)
        rw [List.range'_succ, List.flatMap_cons, own, pageEvents]

/-- The events of a whole copy whose pages are cut from lists of their own. -/
def cutEvents (w : Worker σ) (table : SizedTable) (sourceName : String) (condition : Option String)
    (copying : Copying) (pages : Nat) (rows : Nat → List Row) : List Event :=
  .sent w.source.db.label .connect ::
    ((w.countStatements table sourceName condition).map (fun sent => .sent sent.1 sent.2) ++
      .sent w.target.db.label (.execute s!"delete from {copying.targetName}") ::
        (List.range pages).flatMap fun page => w.servedEvents copying pages (rows page) page) ++
    [.sent w.source.db.label .close]

variable {table : SizedTable} {source target : Table} {condition : Option String}
variable {sourceName : String} {order : List String} {count : Nat}

/-- The run of a copy, event by event. -/
theorem Ready.yields_copyRows (ready : w.Ready table source condition kept sourceName count)
    (ordered : (orderColumns source).mapM w.source.quote = .ok order)
    (cuts : w.CutsPages (w.copyingOf source target condition sourceName order) kept admits w.source.db.page)
    (mapped : Mapping.ofTables w.compiler source target ≠ [])
    (countBound : count ≤ 2 ^ 53) (sizeBound : w.strategy.pageSize ≤ 2 ^ 53) :
    let copying := w.copyingOf source target condition sourceName order
    let pages := (count + copying.pageSize - 1) / copying.pageSize
    (w.copyRows table source target condition).Yields kept fun total events => ∃ rows : Nat → List Row,
      (∀ page < pages, admits page (rows page)) ∧
      total = ((List.range pages).map fun page => (batch copying (rows page) page).length).sum ∧
      events = w.cutEvents table sourceName condition copying pages rows := by
  intro copying pages
  have paging : pageCount count copying.pageSize = pages :=
    pageCount_exact count _ w.strategy.pageSize_pos countBound sizeBound
  have filled : copying.mapping.isEmpty = false := List.isEmpty_eq_false_iff.mpr mapped
  have fills : (w.fill copying count).Yields kept fun total events => ∃ rows : Nat → List Row,
      (∀ page < pages, admits page (rows page)) ∧
      total = ((List.range pages).map fun page => (batch copying (rows page) page).length).sum ∧
      events = .sent w.target.db.label (.execute s!"delete from {copying.targetName}") ::
        (List.range pages).flatMap fun page => w.servedEvents copying pages (rows page) page := by
    simp only [fill, filled, paging]
    apply (w.target.db.yields_run _ (ready.executes _)).bind
    intro _ events given
    rw [given]
    intro world start
    apply (yields_copyPages cuts ready.inserts pages pages 0 0 world start).imp
    intro result more final outcome
    rcases outcome with ⟨total, rfl, ⟨rows, each, rfl, rfl⟩, final_kept⟩
    rw [← List.range_eq_range'] at each ⊢
    refine ⟨_, rfl, ⟨rows, ?_, Nat.zero_add _, rfl⟩, final_kept⟩
    exact fun page below => each page (List.mem_range.mpr below)
  apply (Job.performs_ofExcept ready.named).yields_bind
  apply (Job.performs_ofExcept ordered).yields_bind
  apply (Job.performs_noteAll _).yields_bind
  apply yields_atPage
  apply w.source.db.yields_withConnection ready.connects
  apply (performs_rowCount ready.counts).yields_bind
  intro world start
  apply (fills world start).imp
  intro result events final outcome
  rcases outcome with ⟨total, rfl, ⟨rows, each, sum, rfl⟩, final_kept⟩
  exact ⟨total, rfl, ⟨rows, each, sum, rfl⟩, final_kept⟩

/-! What is inserted. -/

section Inserted

variable (w table sourceName condition copying) (pages : Nat) (rows : Nat → List Row)

/-- All pages one after the other. -/
def cutRows : List Row := (List.range pages).flatMap fun page => slice (rows page) copying.pageSize page

/-- What is inserted for all pages; nothing is for a page without rows. -/
def cutBatches : List (List Row) :=
  ((List.range pages).map fun page => batch copying (rows page) page).filter fun rows => !rows.isEmpty

theorem flatten_cutBatches :
    (cutBatches copying pages rows).flatten = Mapping.mapRows copying.mapping (cutRows copying pages rows) := by
  rw [cutBatches, List.flatten_filter_not_isEmpty, Mapping.mapRows, cutRows, List.map_flatMap, List.flatMap_def]
  rfl

theorem sum_cutRows : ((List.range pages).map fun page => (batch copying (rows page) page).length).sum =
    (cutRows copying pages rows).length := by
  rw [cutRows, List.length_flatMap]
  simp only [length_batch]

theorem statements_servedEvents (page : Nat) :
    (w.servedEvents copying pages (rows page) page).filterMap Event.statement? =
      ([batch copying (rows page) page].filter fun rows => !rows.isEmpty).map fun rows =>
        (w.target.db.label, Database.insertion copying.targetName rows) := by
  have silent (event : Lifecycle) (times : Nat) :
      (List.replicate times (Event.announced event)).filterMap Event.statement? = [] := by
    simp [Event.statement?]
  unfold servedEvents Database.insertions
  cases batch copying (rows page) page with
  | nil => simp [List.filterMap_cons, Event.statement?]
  | cons head tail => simp [List.filterMap_cons, silent, Event.statement?, Database.insertion]

theorem statements_cutEvents :
    (w.cutEvents table sourceName condition copying pages rows).filterMap Event.statement? =
      w.countStatements table sourceName condition ++
        (w.target.db.label, .execute s!"delete from {copying.targetName}") ::
          (cutBatches copying pages rows).map fun rows =>
            (w.target.db.label, Database.insertion copying.targetName rows) := by
  obtain ⟨_, _, counting⟩ := events_countStatements w table sourceName condition
  have each : ((List.range pages).flatMap fun page => w.servedEvents copying pages (rows page) page).filterMap
      Event.statement? = (cutBatches copying pages rows).map fun rows =>
        (w.target.db.label, Database.insertion copying.targetName rows) := by
    rw [cutBatches, List.filterMap_flatMap]
    induction List.range pages with
    | nil => rfl
    | cons head tail ih =>
        rw [List.flatMap_cons, statements_servedEvents, ih, ← List.map_append, ← List.filter_append]
        rfl
  simp only [cutEvents, List.cons_append, List.append_assoc, List.filterMap_cons, List.filterMap_append,
    counting, each, Event.statement?, List.filterMap_nil, List.append_nil]

theorem insertedValues_countStatements :
    ((w.countStatements table sourceName condition).map fun sent => Event.sent sent.1 sent.2).flatMap
      Event.insertedValues = [] := by
  unfold countStatements
  split <;> rfl

variable {rows}

theorem insertedValues_servedEvents (page : Nat)
    (alike : ∀ one ∈ rows page, ∀ other ∈ rows page, one.names = other.names) :
    (w.servedEvents copying pages (rows page) page).flatMap Event.insertedValues =
      (batch copying (rows page) page).map fun row => row.map (·.2) := by
  have values := List.map_congr_left (values_batch copying (rows page) page alike)
  have silent (event : Lifecycle) (times : Nat) :
      (List.replicate times (Event.announced event)).flatMap Event.insertedValues = [] := by
    simp [Event.insertedValues]
  simp only [servedEvents, List.flatMap_cons, List.flatMap_append, silent, List.append_nil, Database.insertions]
  split
  · rename_i empty
    rw [List.isEmpty_iff.mp empty]
    rfl
  · simpa [Event.insertedValues, Database.insertion, Function.comp_def] using values

/-- Rows that have the same names are inserted with all of their values. -/
theorem insertedValues_cutEvents
    (alike : ∀ page < pages, ∀ one ∈ rows page, ∀ other ∈ rows page, one.names = other.names) :
    (w.cutEvents table sourceName condition copying pages rows).flatMap Event.insertedValues =
      (Mapping.mapRows copying.mapping (cutRows copying pages rows)).map fun row => row.map (·.2) := by
  have each : ((List.range pages).flatMap fun page => w.servedEvents copying pages (rows page) page).flatMap
      Event.insertedValues = (Mapping.mapRows copying.mapping (cutRows copying pages rows)).map
        fun row => row.map (·.2) := by
    have pageValues := List.flatMap_congr fun page member =>
      insertedValues_servedEvents w copying pages page (alike page (List.mem_range.mp member))
    rw [List.flatMap_assoc, pageValues, cutRows, Mapping.mapRows,
      List.map_flatMap, List.map_flatMap]
    rfl
  simp only [cutEvents, List.cons_append, List.append_assoc, List.flatMap_cons, List.flatMap_append,
    insertedValues_countStatements, each, Event.insertedValues, List.nil_append, List.flatMap_nil, List.append_nil]

end Inserted

end Worker

end TableFerry
