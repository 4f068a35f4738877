import TableFerry.Proofs.Arrangements
import TableFerry.Proofs.CutPages
/-! Copying from a source that orders the rows anew for every page. By a primary key there is only one order, and
every row arrives once. Without a key the rows are ordered by the columns that can be ordered, and every row
arrives once exactly if no page ends between two rows that these columns do not tell apart. -/

namespace TableFerry

namespace Worker

variable {σ : Type}

/-- Every page is cut from some order of the rows that the columns named in its query admit. -/
def CutsOrdered (w : Worker σ) (copying : Copying) (kept : σ → Prop) (collation : Collation) (rows : List Row)
    (answer : PageQuery → Answer σ (List Row)) : Prop :=
  w.CutsPages copying kept (fun page => collation.Arranges (w.pageQuery copying page).order rows) answer

variable {w : Worker σ} {copying : Copying} {kept : σ → Prop} {table : SizedTable} {source target : Table}
variable {condition : Option String} {sourceName : String} {order : List String} {count : Nat}
variable {collation : Collation} {rows : List Row}

/-- If no page puts a tie apart, then the pages hold every row once. -/
theorem Ready.yields_uncut (ready : w.Ready table source condition kept sourceName rows.length)
    (ordered : (orderColumns source).mapM w.source.quote = .ok order)
    (cuts : w.CutsOrdered (w.copyingOf source target condition sourceName order) kept collation rows
      w.source.db.page)
    (mapped : Mapping.ofTables w.compiler source target ≠ [])
    (countBound : rows.length ≤ 2 ^ 53) (sizeBound : w.strategy.pageSize ≤ 2 ^ 53)
    (uncut : ∀ page, ¬collation.Cuts (w.source.db.pageOrder order) rows ((page + 1) * w.strategy.pageSize)) :
    let copying := w.copyingOf source target condition sourceName order
    let pages := (rows.length + copying.pageSize - 1) / copying.pageSize
    (w.copyRows table source target condition).Yields kept fun total events => ∃ served : Nat → List Row,
      (∀ page < pages, (served page).Perm rows) ∧ (cutRows copying pages served).Perm rows ∧
      total = rows.length ∧ events = w.cutEvents table sourceName condition copying pages served := by
  intro copying pages world start
  apply (ready.yields_copyRows ordered cuts mapped countBound sizeBound world start).imp
  intro result events final outcome
  rcases outcome with ⟨total, rfl, ⟨served, each, rfl, rfl⟩, final_kept⟩
  have enough : rows.length ≤ pages * copying.pageSize :=
    (Number.Double.ceilDiv_bounds _ _ w.strategy.pageSize_pos).1
  have arrangement : ∃ arrangement, collation.Arranges (w.source.db.pageOrder order) rows arrangement := by
    rcases Nat.eq_zero_or_pos pages with none | some
    · rw [none, Nat.zero_mul, Nat.le_zero, List.length_eq_zero_iff] at enough
      rw [enough]
      exact ⟨[], .nil, .nil⟩
    · exact ⟨served 0, each 0 some⟩
  rcases arrangement with ⟨arrangement, arranges⟩
  have perm := Collation.slices_perm uncut arranges served pages each
  rw [List.take_of_length_le (by rwa [arranges.perm.length_eq])] at perm
  have all : (cutRows copying pages served).Perm rows := perm.trans arranges.perm
  refine ⟨_, rfl, ⟨served, fun page below => (each page below).perm, all, ?_, rfl⟩, final_kept⟩
  rw [sum_cutRows, all.length_eq]

theorem alike_of_perm {some : List Row} (perm : some.Perm rows)
    (alike : ∀ one ∈ rows, ∀ other ∈ rows, one.names = other.names) :
    ∀ one ∈ some, ∀ other ∈ some, one.names = other.names := by
  intro one one_member other other_member
  exact alike one (perm.mem_iff.mp one_member) other (perm.mem_iff.mp other_member)

theorem mem_of_mapM_ok {names written : List String} {provider : Provider σ} {name : String}
    (given : names.mapM provider.quote = .ok written) (member : name ∈ names) :
    ∃ column ∈ written, provider.quote name = .ok column := by
  induction names generalizing written with
  | nil => cases member
  | cons head tail ih =>
      rw [List.mapM_cons] at given
      cases head_written : provider.quote head with
      | error fault =>
          rw [head_written] at given
          cases given
      | ok column =>
          cases tail_written : tail.mapM provider.quote with
          | error fault =>
              rw [head_written, tail_written] at given
              cases given
          | ok rest =>
              rw [head_written, tail_written] at given
              cases given
              rcases List.mem_cons.mp member with rfl | later
              · exact ⟨column, List.mem_cons_self, head_written⟩
              · obtain ⟨found, among, found_written⟩ := ih tail_written later
                exact ⟨found, List.mem_cons_of_mem _ among, found_written⟩

/-- Rows that differ in the primary key, as far as the source tells values apart, are inserted once each, although
every page comes from an order of its own among those that the source admits. -/
theorem copyRows_keyed_perm (ready : w.Ready table source condition kept sourceName rows.length)
    (keyed : source.keyNames ≠ []) (ordered : source.keyNames.mapM w.source.quote = .ok order)
    (cuts : w.CutsOrdered (w.copyingOf source target condition sourceName order) kept collation rows
      w.source.db.page)
    (distinct : rows.Pairwise fun one other => ∃ name ∈ source.keyNames, ∀ column,
      w.source.quote name = .ok column → ¬(collation.le column one other ∧ collation.le column other one))
    (mapped : Mapping.ofTables w.compiler source target ≠ [])
    (countBound : rows.length ≤ 2 ^ 53) (sizeBound : w.strategy.pageSize ≤ 2 ^ 53)
    {world : World σ} (start : kept world.state) :
    let copying := w.copyingOf source target condition sourceName order
    (w.copyRows table source target condition).Ensures world fun result events _ =>
      result = .ok rows.length ∧ ∃ batches : List (List Row),
        events.filterMap Event.statement? =
          w.countStatements table sourceName condition ++
            (w.target.db.label, .execute s!"delete from {copying.targetName}") ::
              batches.map (fun batch => (w.target.db.label, Database.insertion copying.targetName batch)) ∧
        batches.flatten.Perm (Mapping.mapRows copying.mapping rows) ∧
        ((∀ one ∈ rows, ∀ other ∈ rows, one.names = other.names) →
          events.flatMap Event.insertedValues = batches.flatten.map fun row => row.map (·.2)) := by
  intro copying
  have by_key : (orderColumns source).mapM w.source.quote = .ok order := by
    rw [orderColumns, if_neg (by simpa using keyed)]
    exact ordered
  obtain ⟨key, others, keys⟩ := List.exists_cons_of_ne_nil keyed
  obtain ⟨written, among, _⟩ := mem_of_mapM_ok ordered (keys ▸ List.mem_cons_self : key ∈ source.keyNames)
  have same_order : w.source.db.pageOrder order = order := by
    unfold Database.pageOrder
    have filled : order.isEmpty = false := List.isEmpty_eq_false_iff.mpr (List.ne_nil_of_mem among)
    simp [filled]
  have apart : rows.Pairwise fun one other => ¬collation.Ties order one other := by
    apply distinct.imp
    intro one other differ tie
    rcases differ with ⟨name, member, differs⟩
    obtain ⟨column, present, name_written⟩ := mem_of_mapM_ok ordered member
    exact differs column name_written (Collation.ties_iff.mp tie column present)
  have uncut : ∀ page, ¬collation.Cuts (w.source.db.pageOrder order) rows ((page + 1) * w.strategy.pageSize) := by
    intro page
    rw [same_order]
    exact Collation.not_cuts_of_apart apart _
  apply (ready.yields_uncut by_key cuts mapped countBound sizeBound uncut world start).imp
  intro result events final outcome
  rcases outcome with ⟨total, rfl, ⟨served, each, all, rfl, rfl⟩, _⟩
  let pages := (rows.length + copying.pageSize - 1) / copying.pageSize
  refine ⟨rfl, cutBatches copying pages served, ?statements, ?rows, ?values⟩
  case statements => exact statements_cutEvents w copying table condition sourceName pages served
  case rows =>
    rw [flatten_cutBatches]
    exact all.map _
  case values =>
    intro alike
    rw [flatten_cutBatches]
    exact insertedValues_cutEvents w copying table condition sourceName pages fun page below =>
      alike_of_perm (each page below) alike

def numberAt (column : String) (row : Row) : Int :=
  match row.get? column with
  | some (.int number) => number
  | _ => 0

/-- Whole numbers in their order; everything else counts as zero. -/
def byNumber : Collation where
  le column one other := numberAt column one ≤ numberAt column other
  total _ _ _ := Int.le_total _ _
  trans first second := Int.le_trans first second

def keyedOrders : Table := { Table.numbered "orders" with keyNames := ["id"] }

/-- Between databases that stay as they are, only the name of the source may be refused. -/
theorem ready_still (w : Worker Unit) {label other dialect otherDialect : String}
    {read written : PageQuery → List Row}
    (reads : w.source.db = Database.still label dialect (fun _ => none) read)
    (writes : w.target.db = Database.still other otherDialect (fun _ => none) written) (name : String)
    (source : Table) (count : Nat) (named : w.source.qualifiedName source.name = .ok sourceName) :
    w.Ready ⟨name, some count⟩ source none (fun _ => True) sourceName count where
  named := named
  connects := by
    rw [reads]
    exact fun state _ => ⟨state, trivial, rfl⟩
  counts := rfl
  executes := by
    rw [writes]
    exact fun _ state _ => ⟨.null, state, trivial, rfl⟩
  inserts := by
    rw [writes]
    exact fun _ _ state _ => ⟨state, trivial, rfl⟩

theorem copyRows_keyed_perm_threeRows :
    (pairwiseCopier.copyRows ⟨"orders", some 3⟩ keyedOrders keyedOrders none).Ensures
      { state := (), now := fun _ => .zero false } fun result events _ =>
        result = .ok 3 ∧ (events.flatMap Event.insertedValues).Perm [[.int 3], [.int 1], [.int 2]] := by
  let rows : List Row := [[("id", .int 3)], [("id", .int 1)], [("id", .int 2)]]
  have arranges : byNumber.Arranges ["id"] rows threeRows := {
    perm := (List.perm_append_comm : ([_, _] ++ [_] : List Row).Perm _)
    sorted := by simp [threeRows, Collation.Before, byNumber, numberAt, Fields.get?] }
  have ready := ready_still pairwiseCopier rfl rfl "orders" keyedOrders 3 rfl
  have cuts : pairwiseCopier.CutsOrdered (pairwiseCopier.copyingOf keyedOrders keyedOrders none "orders" ["id"])
      (fun _ => True) byNumber rows pairwiseCopier.source.db.page :=
    fun page state _ => ⟨threeRows, state, arranges, trivial, rfl⟩
  have distinct : rows.Pairwise fun one other => ∃ name ∈ keyedOrders.keyNames, ∀ column,
      pairwiseCopier.source.quote name = .ok column →
        ¬(byNumber.le column one other ∧ byNumber.le column other one) := by
    have quoted : pairwiseCopier.source.quote "id" = .ok "id" := rfl
    simp [rows, keyedOrders, quoted, byNumber, numberAt, Fields.get?]
  apply (copyRows_keyed_perm ready (by decide) rfl cuts distinct (by decide +kernel) (by decide) (by decide)
    trivial).imp
  intro result events final outcome
  rcases outcome with ⟨given, batches, _, perm, values⟩
  have inserted := values (by simp [rows, Fields.names])
  rw [inserted]
  exact ⟨given, perm.map _⟩

/-! Pages that put a tie apart. -/

/-- The worker on a source that answers pages otherwise. -/
def paging (w : Worker σ) (answer : PageQuery → Answer σ (List Row)) : Worker σ :=
  { w with source := { w.source with db := { w.source.db with page := answer } } }

theorem Ready.paging (ready : w.Ready table source condition kept sourceName count)
    (answer : PageQuery → Answer σ (List Row)) :
    (w.paging answer).Ready table source condition kept sourceName count :=
  ⟨ready.named, ready.connects, ready.counts, ready.executes, ready.inserts⟩

/-- Whatever order the source takes for every page, all rows are inserted once with all of their values. -/
def CopiesEveryRow (w : Worker σ) (table : SizedTable) (source target : Table) (condition : Option String)
    (copying : Copying) (kept : σ → Prop) (collation : Collation) (rows : List Row) (world : World σ) : Prop :=
  ∀ answer, w.CutsOrdered copying kept collation rows answer →
    ((w.paging answer).copyRows table source target condition).Ensures world fun result events _ =>
      result = .ok rows.length ∧ (events.flatMap Event.insertedValues).Perm
        ((Mapping.mapRows copying.mapping rows).map fun row => row.map (·.2))

/-- A source that takes one order for the first `turn` pages and another one for those behind. -/
def switching (copying : Copying) (before after : List Row) (turn : Nat) (query : PageQuery) :
    Answer σ (List Row) := fun state =>
  let rows := if query.offset < turn * copying.pageSize then before else after
  (.ok ((rows.drop query.offset).take copying.pageSize), state)

theorem cutsPages_switching (w : Worker σ) (copying : Copying) (kept : σ → Prop) (before after : List Row)
    (turn : Nat) (positive : 0 < copying.pageSize) :
    w.CutsPages copying kept (fun page rows => rows = if page < turn then before else after)
      (switching copying before after turn) := by
  intro page state start
  refine ⟨_, state, rfl, start, ?_⟩
  have same : (page * copying.pageSize < turn * copying.pageSize) = (page < turn) :=
    propext (Nat.mul_lt_mul_right positive)
  simp only [switching, pageQuery, same]
  rfl

/-- Such a source has the first pages of one order inserted and the last pages of the other. -/
theorem Ready.yields_switching (ready : w.Ready table source condition kept sourceName count)
    (ordered : (orderColumns source).mapM w.source.quote = .ok order)
    (mapped : Mapping.ofTables w.compiler source target ≠ [])
    (countBound : count ≤ 2 ^ 53) (sizeBound : w.strategy.pageSize ≤ 2 ^ 53) {before after : List Row}
    (beforeAlike : ∀ one ∈ before, ∀ other ∈ before, one.names = other.names)
    (afterAlike : ∀ one ∈ after, ∀ other ∈ after, one.names = other.names)
    (whole : after.length = count) {turn : Nat} (within : turn * w.strategy.pageSize ≤ count) :
    let copying := w.copyingOf source target condition sourceName order
    let switched := before.take (turn * copying.pageSize) ++ after.drop (turn * copying.pageSize)
    ((w.paging (switching copying before after turn)).copyRows table source target condition).Yields kept
      fun total events => total = switched.length ∧
        events.flatMap Event.insertedValues =
          (Mapping.mapRows copying.mapping switched).map fun row => row.map (·.2) := by
  intro copying switched world start
  have switches := cutsPages_switching w copying kept before after turn w.strategy.pageSize_pos
  have paged := ready.paging (switching copying before after turn)
  apply (paged.yields_copyRows ordered switches mapped countBound sizeBound world start).imp
  intro result events final outcome
  rcases outcome with ⟨total, rfl, ⟨served, each, rfl, rfl⟩, final_kept⟩
  refine ⟨_, rfl, ?_, final_kept⟩
  let pages := (count + copying.pageSize - 1) / copying.pageSize
  have each : ∀ page < pages, served page = if page < turn then before else after := each
  have enough : count ≤ pages * copying.pageSize :=
    (Number.Double.ceilDiv_bounds _ _ w.strategy.pageSize_pos).1
  have turned : turn ≤ pages := Nat.le_of_mul_le_mul_right (within.trans enough) w.strategy.pageSize_pos
  have servedAlike : ∀ page < pages, ∀ one ∈ served page, ∀ other ∈ served page, one.names = other.names := by
    intro page below
    rw [each page below]
    split
    · exact beforeAlike
    · exact afterAlike
  have pageRows := List.flatMap_congr fun page member =>
    congrArg (fun rows => slice rows copying.pageSize page) (each page (List.mem_range.mp member))
  have cut : cutRows copying pages served = switched := by
    rw [cutRows, pageRows]
    exact slices_switched before after copying.pageSize turn turned (whole ▸ enough)
  rw [← cut]
  exact ⟨sum_cutRows copying pages served,
    insertedValues_cutEvents _ copying table condition sourceName pages servedAlike⟩

theorem values_injective {one other : Row} (names : one.names = other.names)
    (values : one.map (·.2) = other.map (·.2)) : one = other := by
  rw [← List.zip_unzip one, ← List.zip_unzip other, List.unzip_eq_map, List.unzip_eq_map]
  exact congr (congrArg List.zip names) values

/-- Where a page ends within a tie, some source that orders its rows properly makes one row of the tie be inserted
twice and another one never. -/
theorem Ready.not_copiesEveryRow (ready : w.Ready table source condition kept sourceName rows.length)
    (ordered : (orderColumns source).mapM w.source.quote = .ok order)
    (mapped : Mapping.ofTables w.compiler source target ≠ [])
    (countBound : rows.length ≤ 2 ^ 53) (sizeBound : w.strategy.pageSize ≤ 2 ^ 53)
    (alike : ∀ one ∈ rows, ∀ other ∈ rows, one.names = other.names) (distinct : rows.Nodup)
    (faithful : ∀ one ∈ rows, ∀ other ∈ rows, Mapping.mapRow (Mapping.ofTables w.compiler source target) one =
      Mapping.mapRow (Mapping.ofTables w.compiler source target) other → one = other)
    {page : Nat} (cut : collation.Cuts (w.source.db.pageOrder order) rows ((page + 1) * w.strategy.pageSize))
    {world : World σ} (start : kept world.state) :
    ¬w.CopiesEveryRow table source target condition (w.copyingOf source target condition sourceName order) kept
      collation rows world := by
  intro copies
  rcases cut with ⟨front, one, other, back, arranges, place, tie⟩
  let copying := w.copyingOf source target condition sourceName order
  let before := front ++ one :: other :: back
  let after := front ++ other :: one :: back
  have swapped : collation.Arranges (w.source.db.pageOrder order) rows after := arranges.swap tie
  have honest : w.CutsOrdered copying kept collation rows (switching copying before after (page + 1)) := by
    intro number state state_kept
    obtain ⟨served, next, rfl, next_kept, answered⟩ :=
      cutsPages_switching w copying kept before after (page + 1) w.strategy.pageSize_pos number state state_kept
    refine ⟨_, next, ?_, next_kept, answered⟩
    dsimp only
    split
    · exact arranges
    · exact swapped
  have within : (page + 1) * w.strategy.pageSize ≤ rows.length := by
    rw [← arranges.perm.length_eq, ← place, List.length_append, List.length_cons]
    omega
  obtain ⟨events, _, ⟨_, exactly⟩, total, _, ⟨_, inserted⟩, _⟩ := (copies _ honest).and
    (ready.yields_switching ordered mapped countBound sizeBound (alike_of_perm arranges.perm alike)
      (alike_of_perm swapped.perm alike) swapped.perm.length_eq within world start)
  have cut_before : before.take ((page + 1) * copying.pageSize) = front ++ [one] := by
    have regrouped : before = (front ++ [one]) ++ other :: back := by simp [before]
    rw [regrouped]
    apply List.take_left'
    rw [List.length_append, List.length_singleton]
    exact place
  have cut_after : after.drop ((page + 1) * copying.pageSize) = one :: back := by
    have regrouped : after = (front ++ [other]) ++ one :: back := by simp [after]
    rw [regrouped]
    apply List.drop_left'
    rw [List.length_append, List.length_singleton]
    exact place
  let values (row : Row) : List Value := (Mapping.mapRow copying.mapping row).map (·.2)
  have twice : (front.map values ++ values one :: values one :: back.map values).Perm (rows.map values) := by
    rw [inserted, cut_before, cut_after] at exactly
    simpa [Mapping.mapRows, values, Function.comp_def] using exactly
  have once : (front.map values ++ values one :: values other :: back.map values).Perm (rows.map values) := by
    simpa [before] using arranges.perm.map values
  have rest := ((List.perm_append_left_iff _).mp (twice.trans once.symm)).cons_inv
  have same : values one = values other :=
    List.singleton_perm_singleton.mp ((List.perm_append_right_iff (back.map values)).mp rest)
  have one_member : one ∈ rows := arranges.perm.mem_iff.mp (by simp)
  have other_member : other ∈ rows := arranges.perm.mem_iff.mp (by simp)
  have names := Mapping.names_mapRow copying.mapping one other (alike one one_member other other_member)
  have equal := faithful one one_member other other_member (values_injective names same)
  have apart := arranges.perm.nodup_iff.mpr distinct
  rw [equal] at apart
  simp [List.nodup_append] at apart

/-- Without a key every row is inserted once, whatever order the source takes for every page, if no page ends
between two rows that the columns to order by do not tell apart. Where no two rows become equal by the mapping,
this is needed as well. -/
theorem copyRows_keyless_iff (ready : w.Ready table source condition kept sourceName rows.length)
    (keyless : source.keyNames = [])
    (ordered : ((source.columns.filter (·.isSortable)).map (·.name)).mapM w.source.quote = .ok order)
    (mapped : Mapping.ofTables w.compiler source target ≠ [])
    (countBound : rows.length ≤ 2 ^ 53) (sizeBound : w.strategy.pageSize ≤ 2 ^ 53)
    (alike : ∀ one ∈ rows, ∀ other ∈ rows, one.names = other.names) (distinct : rows.Nodup)
    {world : World σ} (start : kept world.state) :
    let copying := w.copyingOf source target condition sourceName order
    let copies := w.CopiesEveryRow table source target condition copying kept collation rows world
    let uncut := ∀ page, ¬collation.Cuts (w.source.db.pageOrder order) rows ((page + 1) * w.strategy.pageSize)
    (uncut → copies) ∧
      ((∀ one ∈ rows, ∀ other ∈ rows,
        Mapping.mapRow copying.mapping one = Mapping.mapRow copying.mapping other → one = other) →
          (copies ↔ uncut)) := by
  intro copying copies uncut
  have by_columns : (orderColumns source).mapM w.source.quote = .ok order := by
    rw [orderColumns, if_pos (by simp [keyless])]
    exact ordered
  have enough : uncut → copies := by
    intro unbroken answer cuts
    apply ((ready.paging answer).yields_uncut by_columns cuts mapped countBound sizeBound unbroken world
      start).imp
    intro result events final outcome
    rcases outcome with ⟨total, rfl, ⟨served, each, all, rfl, rfl⟩, _⟩
    refine ⟨rfl, ?_⟩
    rw [insertedValues_cutEvents _ _ _ _ _ _ fun page below => alike_of_perm (each page below) alike]
    exact (all.map _).map _
  refine ⟨enough, ?_⟩
  intro faithful
  refine ⟨?_, enough⟩
  intro every page cut
  exact ready.not_copiesEveryRow by_columns mapped countBound sizeBound alike distinct faithful cut start
    every

theorem copyRows_keyless_iff_threeRows :
    pairwiseCopier.CopiesEveryRow ⟨"orders", some 3⟩ (.numbered "orders") (.numbered "orders") none
      (pairwiseCopier.copyingOf (.numbered "orders") (.numbered "orders") none "orders" ["id"]) (fun _ => True)
      byNumber threeRows { state := (), now := fun _ => .zero false } := by
  have alike : ∀ one ∈ threeRows, ∀ other ∈ threeRows, one.names = other.names := by
    simp [threeRows, Fields.names]
  have distinct : threeRows.Nodup := by simp [threeRows]
  have apart : threeRows.Pairwise fun one other => ¬byNumber.Ties ["id"] one other := by
    simp [threeRows, Collation.ties_iff, byNumber, numberAt, Fields.get?]
  exact (copyRows_keyless_iff (ready_still pairwiseCopier rfl rfl "orders" (.numbered "orders") 3 rfl) rfl rfl (by decide +kernel)
    (by decide) (by decide) alike distinct trivial).1 fun page => Collation.not_cuts_of_apart apart _

/-- A table with one column, whose long texts are not ordered by. -/
def notes : Table :=
  { name := "notes", columns := [{ name := "body", typeName := some "TEXT", category := .longVarchar }] }

def twoNotes : List Row := [[("body", .text "a")], [("body", .text "b")]]

/-- Copies one row a page, between two databases that stay as they are. -/
def rowwiseCopier : Worker Unit :=
  { between .sqlite (Database.still "src" "sqlite" (fun _ => none) fun _ => [])
      (Database.still "dst" "sqlite" (fun _ => none) fun _ => []) with
    strategy := { pageSize := 1 } }

def noteCopying : Copying := rowwiseCopier.copyingOf notes notes none "notes" []

/-- Two notes in one order for the first page and in the other one for the second. -/
def turnedNotes : PageQuery → Answer Unit (List Row) := switching noteCopying twoNotes twoNotes.reverse 1

/-- Without a column to order by, one note is inserted twice and the other one never, although no order was ever
wrong and two rows are reported. -/
theorem copyRows_loses_turned_note :
    notes.keyNames = [] ∧ Mapping.unmatched notes notes = [] ∧ twoNotes.Nodup ∧
    (∀ collation, rowwiseCopier.CutsOrdered noteCopying (fun _ => True) collation twoNotes turnedNotes) ∧
    ((rowwiseCopier.paging turnedNotes).copyRows ⟨"notes", some 2⟩ notes notes none).Ensures
      { state := (), now := fun _ => .zero false } fun result events _ =>
        result = .ok 2 ∧ events.flatMap Event.insertedValues = [[.text "a"], [.text "a"]] ∧
        ¬(events.flatMap Event.insertedValues).Perm
          ((Mapping.mapRows noteCopying.mapping twoNotes).map fun row => row.map (·.2)) := by
  have mapping : noteCopying.mapping = [("body", "\"body\"")] := by decide +kernel
  have ready := ready_still rowwiseCopier rfl rfl "notes" notes 2 rfl
  refine ⟨rfl, by decide +kernel, by simp [twoNotes], ?ordered, ?run⟩
  case ordered =>
    intro collation page state start
    have switches := cutsPages_switching rowwiseCopier noteCopying (fun _ => True) twoNotes twoNotes.reverse 1
      (by decide)
    obtain ⟨served, next, rfl, next_kept, answered⟩ := switches page state start
    have unordered (rows : List Row) : rows.Pairwise (collation.Before []) :=
      List.pairwise_of_forall fun _ _ => trivial
    refine ⟨_, next, ⟨?_, unordered _⟩, next_kept, answered⟩
    split
    · exact .refl _
    · exact List.reverse_perm _
  case run =>
    have alike (rows : List Row) (perm : rows.Perm twoNotes) := alike_of_perm perm (by simp [twoNotes, Fields.names])
    apply (ready.yields_switching rfl (by decide +kernel) (by decide) (by decide) (alike _ (.refl _))
      (alike _ (List.reverse_perm _)) rfl (by decide) _ trivial).imp
    intro result events final outcome
    rcases outcome with ⟨total, rfl, ⟨rfl, inserted⟩, _⟩
    rw [inserted]
    change _ ∧ (Mapping.mapRows noteCopying.mapping _).map _ = _ ∧ _
    rw [mapping]
    refine ⟨rfl, rfl, ?_⟩
    change ¬[[Value.text "a"], [.text "a"]].Perm [[.text "a"], [.text "b"]]
    intro perm
    have missing := perm.symm.subset (List.mem_cons_of_mem _ List.mem_cons_self)
    simp at missing

end Worker

end TableFerry
