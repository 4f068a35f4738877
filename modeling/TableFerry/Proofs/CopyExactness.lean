import TableFerry.Proofs.PageCounts
import TableFerry.Proofs.Requests
import TableFerry.Proofs.RowMapping
/-! Copying the rows of one table, exactly. From a source whose pages are slices of one list of rows, and into
a target that accepts every statement, the pages are asked for in order and once each, and the insertions
together carry every row of these pages once. -/

namespace TableFerry

open Job (Gives Succeeds)

/-- The rows of page `index` when a page has `size` rows. -/
def slice (rows : List Row) (size index : Nat) : List Row := (rows.drop (index * size)).take size

theorem slices_tile (rows : List Row) (size pages : Nat) :
    (List.range pages).flatMap (slice rows size) = rows.take (pages * size) := by
  induction pages with
  | zero => simp
  | succ pages ih =>
      rw [List.range_succ, List.flatMap_append, ih, Nat.succ_mul, List.take_add, List.flatMap_singleton]
      rfl

namespace Database

variable {σ : Type} {kept : σ → Prop}

theorem performs_run_then {β : Type} {next : Value → Job σ β} {last : β} {more : List Event}
    (db : Database σ) (sql : String) (succeeds : Succeeds kept (db.execute sql))
    (then_ : ∀ value, (next value).Performs kept last more) :
    (db.run sql >>= next).Performs kept last (.sent db.label (.execute sql) :: more) := by
  simp only [run, bind_assoc]
  exact (Job.performs_note _ _).bind
    ((Job.performs_send _ _).bind (Job.performs_answer_then succeeds then_))

theorem performs_number (db : Database σ) (sql : String) {value : Value} {count : Int}
    (given : Gives kept (db.execute sql) value)
    (counts : (if value.truthy then value.toWholeOrFault else .ok 0) = .ok count) :
    (db.number sql).Performs kept count [.sent db.label (.execute sql)] := by
  have run : (db.run sql).Performs kept value [.sent db.label (.execute sql)] :=
    (Job.performs_note _ _).bind ((Job.performs_send _ _).bind (Job.performs_answer given))
  apply run.bind
  split at counts
  · rename_i truthy
    rw [if_pos truthy]
    exact Job.performs_ofExcept counts
  · rename_i falsy
    rw [if_neg falsy]
    cases counts
    exact Job.performs_pure 0

theorem performs_pageOf (db : Database σ) (sql : String) (index size : Nat) (order : List String)
    {rows : List Row} (given : Gives kept (db.page ⟨sql, db.pageOrder order, size, index * size⟩) rows) :
    (db.pageOf sql index size order).Performs kept rows
      [.sent db.label (.page ⟨sql, db.pageOrder order, size, index * size⟩)] :=
  (Job.performs_send _ _).bind (Job.performs_answer given)

/-- The events of inserting rows; no rows need no insertion. -/
def insertions (db : Database σ) (table : String) (rows : List Row) : List Event :=
  if rows.isEmpty then [] else [.sent db.label (insertion table rows)]

theorem performs_insertRows (db : Database σ) (table : String) (rows : List Row)
    (given : ∀ statement params, Gives kept (db.insert statement params) ()) :
    (db.insertRows table rows).Performs kept rows.length (db.insertions table rows) := by
  cases rows with
  | nil => exact Job.performs_pure 0
  | cons first rest =>
      rw [← List.length_map (f := bindRow (columnsOf (first :: rest)))]
      exact (Job.performs_send _ _).bind ((Job.performs_answer (given _ _)).bind (Job.performs_pure _))

end Database

namespace Worker

variable {σ : Type} {kept : σ → Prop}

theorem performs_atPage {α : Type} {job : Job σ α} {value : α} {events : List Event} (copying : Copying)
    (page : Nat) (performed : job.Performs kept value events) :
    (atPage copying page job).Performs kept value events := by
  rw [← List.append_nil events]
  exact performed.attempt.bind (Job.performs_pure value)

/-- The page with number `page` as the source is asked for it. -/
def pageQuery (w : Worker σ) (copying : Copying) (page : Nat) : PageQuery :=
  ⟨copying.rowQuery, w.source.db.pageOrder copying.order, copying.pageSize, page * copying.pageSize⟩

/-- The rows that are inserted for page `page` of `rows`. -/
def batch (copying : Copying) (rows : List Row) (page : Nat) : List Row :=
  Mapping.mapRows copying.mapping (slice rows copying.pageSize page)

theorem length_batch (copying : Copying) (rows : List Row) (page : Nat) :
    (batch copying rows page).length = (slice rows copying.pageSize page).length :=
  List.length_map _

/-- The events of copying page `page` of `rows`. -/
def pageEvents (w : Worker σ) (copying : Copying) (pages : Nat) (rows : List Row) (page : Nat) : List Event :=
  .sent w.source.db.label (.page (w.pageQuery copying page)) ::
    (w.target.db.insertions copying.targetName (batch copying rows page) ++
      [.announced (.pageCopied w.bucket copying.table page pages (batch copying rows page).length)])

/-- What a source and a target answer while rows are copied: the source gives slices of `rows`, and the target
accepts what it is sent. -/
structure Steady (w : Worker σ) (copying : Copying) (kept : σ → Prop) (rows : List Row) : Prop where
  paged : ∀ page,
    Gives kept (w.source.db.page (w.pageQuery copying page)) (slice rows copying.pageSize page)
  executes : ∀ sql, Succeeds kept (w.target.db.execute sql)
  inserts : ∀ statement params, Gives kept (w.target.db.insert statement params) ()

variable {w : Worker σ} {copying : Copying} {rows : List Row}

theorem Steady.performs_copyPage (steady : w.Steady copying kept rows)
    (recorded : w.listeners.count .recorder = 1) (page pages : Nat) :
    (w.copyPage copying page pages).Performs kept (batch copying rows page).length
      (w.pageEvents copying pages rows page) := by
  have asked := w.source.db.performs_pageOf copying.rowQuery page copying.pageSize copying.order
    (steady.paged page)
  have inserted := w.target.db.performs_insertRows copying.targetName (batch copying rows page) steady.inserts
  exact asked.bind (inserted.bind ((Job.performs_announce recorded _).bind (Job.performs_pure _)))

/-- A run of copying pages copies each of them, in order. -/
theorem Steady.performs_copyPages (steady : w.Steady copying kept rows)
    (recorded : w.listeners.count .recorder = 1) (pages left page copied : Nat) :
    (w.copyPages copying pages left page copied).Performs kept
      (copied + ((List.range' page left).map fun page => (batch copying rows page).length).sum)
      ((List.range' page left).flatMap (w.pageEvents copying pages rows)) := by
  induction left generalizing page copied with
  | zero => exact Job.performs_pure copied
  | succ left ih =>
      have first := performs_atPage copying page (steady.performs_copyPage recorded page pages)
      simp only [List.range'_succ, List.map_cons, List.sum_cons, List.flatMap_cons, ← Nat.add_assoc]
      exact first.bind (ih (page + 1) (copied + (batch copying rows page).length))

theorem sum_batches (copying : Copying) (rows : List Row) (pages : Nat) :
    ((List.range pages).map fun page => (batch copying rows page).length).sum =
      (rows.take (pages * copying.pageSize)).length := by
  rw [← slices_tile, List.length_flatMap]
  simp only [length_batch]

/-- What is inserted for all pages; nothing is for a page without rows. -/
def batches (copying : Copying) (rows : List Row) (pages : Nat) : List (List Row) :=
  ((List.range pages).map (batch copying rows)).filter fun rows => !rows.isEmpty

theorem mem_batches {copying : Copying} {rows inserted : List Row} {pages : Nat}
    (member : inserted ∈ batches copying rows pages) :
    inserted ≠ [] ∧ ∃ page, inserted = batch copying rows page := by
  obtain ⟨among, filled⟩ := List.mem_filter.mp member
  obtain ⟨page, _, rfl⟩ := List.mem_map.mp among
  refine ⟨?_, page, rfl⟩
  intro empty
  rw [empty] at filled
  cases filled

/-- The insertions of all pages carry the mapped rows of all pages. -/
theorem flatten_batches (copying : Copying) (rows : List Row) (pages : Nat) :
    (batches copying rows pages).flatten =
      Mapping.mapRows copying.mapping (rows.take (pages * copying.pageSize)) := by
  rw [batches, List.flatten_filter_not_isEmpty, ← slices_tile, Mapping.mapRows, List.map_flatMap, List.flatMap_def]
  rfl

theorem Steady.performs_fill (steady : w.Steady copying kept rows)
    (recorded : w.listeners.count .recorder = 1) (mapped : copying.mapping ≠ []) {count : Int} {pages : Nat}
    (paging : pageCount count copying.pageSize = pages) :
    (w.fill copying count).Performs kept (rows.take (pages * copying.pageSize)).length
      (.sent w.target.db.label (.execute s!"delete from {copying.targetName}") ::
        (List.range pages).flatMap (w.pageEvents copying pages rows)) := by
  have copied := steady.performs_copyPages recorded pages pages 0 0
  rw [Nat.zero_add, ← List.range_eq_range', sum_batches] at copied
  have filled : copying.mapping.isEmpty = false := List.isEmpty_eq_false_iff.mpr mapped
  simp only [fill, filled, paging]
  exact w.target.db.performs_run_then _ (steady.executes _) fun _ => copied

/-! What the events of the pages say about requests, statements and numbers of rows. -/

theorem pageQueries_pageEvents (w : Worker σ) (copying : Copying) (pages : Nat) (rows : List Row) (page : Nat) :
    (w.pageEvents copying pages rows page).filterMap Event.pageQuery? =
      [(w.source.db.label, w.pageQuery copying page)] := by
  unfold pageEvents Database.insertions
  split <;> rfl

theorem statements_pageEvents (w : Worker σ) (copying : Copying) (pages : Nat) (rows : List Row) (page : Nat) :
    (w.pageEvents copying pages rows page).filterMap Event.statement? =
      ([batch copying rows page].filter fun rows => !rows.isEmpty).map fun rows =>
        (w.target.db.label, Database.insertion copying.targetName rows) := by
  unfold pageEvents Database.insertions
  cases batch copying rows page <;> rfl

theorem copiedRows_pageEvents (w : Worker σ) (copying : Copying) (pages : Nat) (rows : List Row) (page : Nat) :
    (w.pageEvents copying pages rows page).filterMap Event.copiedRows? =
      [((batch copying rows page).length : Int)] := by
  unfold pageEvents Database.insertions
  split <;> rfl

theorem statements_pages (w : Worker σ) (copying : Copying) (pages : Nat) (rows : List Row)
    (numbers : List Nat) :
    (numbers.flatMap (w.pageEvents copying pages rows)).filterMap Event.statement? =
      ((numbers.map (batch copying rows)).filter fun rows => !rows.isEmpty).map fun rows =>
        (w.target.db.label, Database.insertion copying.targetName rows) := by
  induction numbers with
  | nil => rfl
  | cons head tail ih =>
      rw [List.flatMap_cons, List.filterMap_append, statements_pageEvents, ih, ← List.map_append,
        ← List.filter_append]
      rfl

/-- What is inserted for a page keeps all values of its rows. -/
theorem values_batch (copying : Copying) (rows : List Row) (page : Nat)
    (same : ∀ one ∈ rows, ∀ other ∈ rows, one.names = other.names) :
    ∀ row ∈ batch copying rows page,
      (Database.bindRow (Database.columnsOf (batch copying rows page)) row).map (·.2) = row.map (·.2) := by
  have origin : ∀ row ∈ batch copying rows page, ∃ one ∈ rows, Mapping.mapRow copying.mapping one = row := by
    intro row member
    obtain ⟨one, sliced, rfl⟩ := List.mem_map.mp member
    exact ⟨one, List.mem_of_mem_drop (List.mem_of_mem_take sliced), rfl⟩
  apply Database.values_kept
  · intro row member
    obtain ⟨one, _, rfl⟩ := origin row member
    exact Mapping.nodup_mapRow _ one
  · intro row member other also
    obtain ⟨one, present, rfl⟩ := origin row member
    obtain ⟨two, present', rfl⟩ := origin other also
    exact Mapping.names_mapRow _ one two (same one present two present')

/-! The whole copy. -/

/-- The count of the rows that the copy goes by: the known one, or else what the source answers to a count. -/
def Counts (w : Worker σ) (table : SizedTable) (sourceName : String) (condition : Option String)
    (kept : σ → Prop) (count : Nat) : Prop :=
  match condition.filter (· ≠ ""), table.rows with
  | none, some known => known = count
  | _, _ => ∃ value : Value,
      Gives kept (w.source.db.execute (query "count(*)" sourceName condition)) value ∧
        (if value.truthy then value.toWholeOrFault else .ok 0) = .ok (count : Int)

/-- The statement that counts the rows, where their number is not known. -/
def countStatements (w : Worker σ) (table : SizedTable) (sourceName : String) (condition : Option String) :
    List (String × Request) :=
  match condition.filter (· ≠ ""), table.rows with
  | none, some _ => []
  | _, _ => [(w.source.db.label, .execute (query "count(*)" sourceName condition))]

theorem performs_rowCount {w : Worker σ} {table : SizedTable} {sourceName : String}
    {condition : Option String} {count : Nat} (counts : w.Counts table sourceName condition kept count) :
    (w.rowCount table sourceName condition).Performs kept (count : Int)
      ((w.countStatements table sourceName condition).map fun sent => .sent sent.1 sent.2) := by
  revert counts
  unfold Counts rowCount countStatements
  cases condition.filter (· ≠ "") with
  | some text =>
      intro counts
      rcases counts with ⟨value, given, number⟩
      exact w.source.db.performs_number _ given number
  | none =>
      cases table.rows with
      | none =>
          intro counts
          rcases counts with ⟨value, given, number⟩
          exact w.source.db.performs_number _ given number
      | some known =>
          intro counts
          obtain rfl : known = count := counts
          exact Job.performs_pure _

/-- The events of a whole copy. -/
def copyEvents (w : Worker σ) (table : SizedTable) (sourceName : String) (condition : Option String)
    (copying : Copying) (pages : Nat) (rows : List Row) : List Event :=
  .sent w.source.db.label .connect ::
    ((w.countStatements table sourceName condition).map (fun sent => .sent sent.1 sent.2) ++
      .sent w.target.db.label (.execute s!"delete from {copying.targetName}") ::
        (List.range pages).flatMap (w.pageEvents copying pages rows)) ++
    [.sent w.source.db.label .close]

section Events

variable (w : Worker σ) (table : SizedTable) (sourceName : String) (condition : Option String)
variable (copying : Copying) (pages : Nat) (rows : List Row)

/-- Counting is a statement; it asks for no page and copies no row. -/
theorem events_countStatements :
    let events := (w.countStatements table sourceName condition).map fun sent => Event.sent sent.1 sent.2
    events.filterMap Event.pageQuery? = [] ∧ events.filterMap Event.copiedRows? = [] ∧
      events.filterMap Event.statement? = w.countStatements table sourceName condition := by
  unfold countStatements
  split <;> exact ⟨rfl, rfl, rfl⟩

theorem pageQueries_copyEvents :
    (w.copyEvents table sourceName condition copying pages rows).filterMap Event.pageQuery? =
      (List.range pages).map fun page => (w.source.db.label, w.pageQuery copying page) := by
  obtain ⟨counting, _, _⟩ := events_countStatements w table sourceName condition
  simp only [copyEvents, List.cons_append, List.append_assoc, List.filterMap_cons, List.filterMap_append,
    counting, Event.pageQuery?, List.filterMap_nil, List.append_nil, List.nil_append]
  rw [List.filterMap_flatMap, List.map_eq_flatMap]
  simp only [pageQueries_pageEvents]

theorem copiedRows_copyEvents :
    ((w.copyEvents table sourceName condition copying pages rows).filterMap Event.copiedRows?).sum =
      (rows.take (pages * copying.pageSize)).length := by
  obtain ⟨_, counting, _⟩ := events_countStatements w table sourceName condition
  simp only [copyEvents, List.cons_append, List.append_assoc, List.filterMap_cons, List.filterMap_append,
    counting, Event.copiedRows?, List.filterMap_nil, List.append_nil, List.nil_append]
  rw [List.filterMap_flatMap, ← sum_batches, Nat.cast_list_sum, List.map_map]
  simp only [copiedRows_pageEvents]
  rw [← List.map_eq_flatMap]
  rfl

theorem statements_copyEvents :
    (w.copyEvents table sourceName condition copying pages rows).filterMap Event.statement? =
      w.countStatements table sourceName condition ++
        (w.target.db.label, .execute s!"delete from {copying.targetName}") ::
          (batches copying rows pages).map fun rows =>
            (w.target.db.label, Database.insertion copying.targetName rows) := by
  obtain ⟨_, _, counting⟩ := events_countStatements w table sourceName condition
  simp only [copyEvents, List.cons_append, List.append_assoc, List.filterMap_cons, List.filterMap_append,
    counting, statements_pages, Event.statement?, List.filterMap_nil, List.append_nil, batches]

end Events

/-! Only empty names cannot be written in queries. -/

theorem quote_defined (provider : Provider σ) {name : String} (named : name ≠ "") :
    ∃ quoted, provider.quote name = .ok quoted := by
  unfold Provider.quote SourceName.quote?
  rw [if_neg named]
  exact ⟨_, rfl⟩

theorem qualifiedName_defined (provider : Provider σ) {table : String} (named : table ≠ "")
    (schema : provider.config.schemaName.shown ≠ "") :
    ∃ qualified, provider.qualifiedName table = .ok qualified := by
  obtain ⟨quoted, table_quoted⟩ := quote_defined provider named
  obtain ⟨prefixed, schema_quoted⟩ := quote_defined provider schema
  unfold Provider.qualifiedName
  split
  · rw [schema_quoted, table_quoted]
    exact ⟨_, rfl⟩
  · exact ⟨quoted, table_quoted⟩

theorem order_defined (provider : Provider σ) {names : List String} (named : ∀ name ∈ names, name ≠ "") :
    ∃ order, names.mapM provider.quote = .ok order := by
  induction names with
  | nil => exact ⟨[], rfl⟩
  | cons head tail ih =>
      obtain ⟨quoted, head_quoted⟩ := quote_defined provider (named head List.mem_cons_self)
      obtain ⟨order, tail_quoted⟩ := ih fun name member => named name (List.mem_cons_of_mem _ member)
      refine ⟨quoted :: order, ?_⟩
      rw [List.mapM_cons, head_quoted, tail_quoted]
      rfl

/-- A source and a target between which rows can be copied, and how the names of the table and of the columns
that order its rows are written. -/
structure Copyable (w : Worker σ) (table : SizedTable) (source target : Table) (condition : Option String)
    (kept : σ → Prop) (sourceName : String) (order : List String) (count : Nat) (rows : List Row) :
    Prop where
  named : w.source.qualifiedName source.name = .ok sourceName
  ordered : (orderColumns source).mapM w.source.quote = .ok order
  connects : Gives kept w.source.db.connect ()
  counts : w.Counts table sourceName condition kept count
  steady : w.Steady (w.copyingOf source target condition sourceName order) kept rows

variable {table : SizedTable} {source target : Table} {condition : Option String}
variable {sourceName : String} {order : List String} {count : Nat}

/-- The run of a copy, event by event. -/
theorem Copyable.performs_copyRows
    (copyable : w.Copyable table source target condition kept sourceName order count rows)
    (recorded : w.listeners.count .recorder = 1) (mapped : Mapping.ofTables w.compiler source target ≠ [])
    (countBound : count ≤ 2 ^ 53) (sizeBound : w.strategy.pageSize ≤ 2 ^ 53) :
    let copying := w.copyingOf source target condition sourceName order
    let pages := (count + copying.pageSize - 1) / copying.pageSize
    (w.copyRows table source target condition).Performs kept
      (rows.take (pages * copying.pageSize)).length
      (w.copyEvents table sourceName condition copying pages rows) := by
  intro copying pages
  have paging : pageCount count w.strategy.pageSize = pages :=
    pageCount_exact count _ w.strategy.pageSize_pos countBound sizeBound
  have filled := copyable.steady.performs_fill recorded mapped paging
  exact (Job.performs_ofExcept copyable.named).bind ((Job.performs_ofExcept copyable.ordered).bind
    ((Job.performs_noteAll _).bind (performs_atPage copying 0
      (w.source.db.performs_withConnection copyable.connects
        ((performs_rowCount copyable.counts).bind filled)))))

/-- A copy asks for every page once and in order, empties the target once before it inserts, inserts the mapped
rows of these pages and nothing else, and reports their number. If the count is right these are all rows; and
if rows have the same names, no value gets lost on the way. -/
theorem copyRows_exact
    (copyable : w.Copyable table source target condition kept sourceName order count rows)
    (recorded : w.listeners.count .recorder = 1) (mapped : Mapping.ofTables w.compiler source target ≠ [])
    (countBound : count ≤ 2 ^ 53) (sizeBound : w.strategy.pageSize ≤ 2 ^ 53)
    {world : World σ} (start : kept world.state) :
    let copying := w.copyingOf source target condition sourceName order
    let pages := (count + copying.pageSize - 1) / copying.pageSize
    let copied := rows.take (pages * copying.pageSize)
    (w.copyRows table source target condition).Ensures world fun result events _ =>
      result = .ok copied.length ∧
      copied.length = min rows.length (pages * copying.pageSize) ∧
      (count = rows.length → copied = rows) ∧
      events.filterMap Event.pageQuery? =
        (List.range pages).map (fun page => (w.source.db.label, w.pageQuery copying page)) ∧
      (events.filterMap Event.copiedRows?).sum = copied.length ∧
      ∃ batches : List (List Row),
        events.filterMap Event.statement? =
          w.countStatements table sourceName condition ++
            (w.target.db.label, .execute s!"delete from {copying.targetName}") ::
              batches.map (fun batch => (w.target.db.label, Database.insertion copying.targetName batch)) ∧
        (∀ batch ∈ batches, batch ≠ []) ∧
        batches.flatten = Mapping.mapRows copying.mapping copied ∧
        ((∀ one ∈ rows, ∀ other ∈ rows, one.names = other.names) →
          ∀ batch ∈ batches, ∀ row ∈ batch,
            (Database.bindRow (Database.columnsOf batch) row).map (·.2) = row.map (·.2)) := by
  intro copying pages copied
  apply (copyable.performs_copyRows recorded mapped countBound sizeBound world start).imp
  intro result events final outcome
  rcases outcome with ⟨rfl, rfl, _⟩
  refine ⟨rfl, ?length, ?all, ?queries, ?total,
    batches copying rows pages, ?statements, ?filled, ?rows, ?values⟩
  case length => rw [List.length_take, Nat.min_comm]
  case all =>
    intro same
    rcases same with rfl
    apply List.take_of_length_le
    exact (Number.Double.ceilDiv_bounds _ _ w.strategy.pageSize_pos).1
  case queries => exact pageQueries_copyEvents w table sourceName condition copying pages rows
  case total => exact copiedRows_copyEvents w table sourceName condition copying pages rows
  case statements => exact statements_copyEvents w table sourceName condition copying pages rows
  case filled =>
    intro inserted member
    exact (mem_batches member).1
  case rows => exact flatten_batches copying rows pages
  case values =>
    intro same inserted member
    obtain ⟨_, page, rfl⟩ := mem_batches member
    exact values_batch copying rows page same

def threeRows : List Row := [[("id", .int 1)], [("id", .int 2)], [("id", .int 3)]]

/-- Copies three rows by pages of two, between two databases that stay as they are. -/
def pairwiseCopier : Worker Unit :=
  { between .sqlite
      (Database.still "src" "sqlite" (fun _ => none) fun query => (threeRows.drop query.offset).take query.limit)
      (Database.still "dst" "sqlite" (fun _ => none) fun _ => []) with
    strategy := { pageSize := 2 } }

theorem copyRows_exact_pairwise :
    (pairwiseCopier.copyRows ⟨"orders", some 3⟩ (.numbered "orders") (.numbered "orders") none).Ensures
      { state := (), now := fun _ => .zero false } fun result events _ =>
        result = .ok 3 ∧ (events.filterMap Event.copiedRows?).sum = 3 := by
  have copyable : pairwiseCopier.Copyable ⟨"orders", some 3⟩ (.numbered "orders") (.numbered "orders") none
      (fun _ => True) "orders" ["id"] 3 threeRows := {
    named := rfl
    ordered := rfl
    connects := fun state _ => ⟨state, trivial, rfl⟩
    counts := rfl
    steady := {
      paged := fun page state _ => ⟨state, trivial, rfl⟩
      executes := fun sql state _ => ⟨.null, state, trivial, rfl⟩
      inserts := fun statement params state _ => ⟨state, trivial, rfl⟩ } }
  apply (copyRows_exact copyable rfl (by decide +kernel) (by decide) (by decide) trivial).imp
  intro result events final outcome
  rcases outcome with ⟨given, _, _, _, total, _⟩
  exact ⟨given, total⟩

end Worker

end TableFerry

