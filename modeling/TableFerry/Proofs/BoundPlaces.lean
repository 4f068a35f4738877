import Mathlib.Data.List.Forall2
import TableFerry.Proofs.CarriedValues
import TableFerry.Proofs.Jobs
/-! At which places of an insertion the values of a row are bound. The columns of an insertion are those of its first
row, and every row binds its values under the names of their places: so the rows may have their keys in any order, as
long as they are the same keys but for case. -/

namespace TableFerry

namespace Database

theorem bindName_inj {place other : Nat} (same : bindName place = bindName other) : place = other := by
  have chars := congrArg String.toList same
  simp only [bindName, String.toList_append, Nat.toString_eq_ofList_toDigits, String.toList_ofList] at chars
  have numbers := congrArg (fun digits => Nat.ofDigitChars 10 digits 0) (List.append_cancel_left chars)
  simpa using numbers

theorem names_bindRow (columns : List String) (row : Row) :
    (bindRow columns row).names = (List.range columns.length).map bindName := by
  rw [Fields.names, bindRow, List.map_map, List.range_eq_range', ← List.zipIdx_map_snd 0 columns, List.map_map]
  rfl

/-- The value at the place of a column is the one that the row holds for it. -/
theorem get?_bindRow {columns : List String} {place : Nat} {column : String} (placed : columns[place]? = some column)
    (row : Row) : (bindRow columns row).get? (bindName place) = some ((row.get? column).getD .null) := by
  have distinct : (bindRow columns row).names.Nodup := by
    rw [names_bindRow]
    exact List.nodup_range.map fun _ _ => bindName_inj
  rw [Fields.get?, ← mem_iff_lookup distinct, bindRow, List.mem_map]
  exact ⟨(column, place), List.mem_zipIdx_iff_getElem?.mpr placed, rfl⟩

variable {σ : Type}

/-- Rows are inserted by one request, whatever the answer. -/
theorem ensures_insertRows (db : Database σ) (table : String) {rows : List Row} (some_row : rows ≠ [])
    (world : World σ) :
    (db.insertRows table rows).Ensures world fun _ events _ => events = [.sent db.label (insertion table rows)] := by
  cases rows with
  | nil => exact absurd rfl some_row
  | cons first rest =>
      apply Job.ensures_bind
      rw [Job.ensures_send]
      apply Job.ensures_bind
      rw [Job.ensures_answer]
      split
      · exact (Job.ensures_pure _).mpr rfl
      · rfl

end Database

namespace Mapping

variable {c : Compiler} {source target : Table} {row : Row}

/-- If the names of a table differ in more than case, then the twin of a column is the one that is found for it. -/
theorem column?_twin (target_apart : (target.columns.map fun twin => Text.lower twin.name).Nodup) {column twin : Column}
    (among : twin ∈ target.columns) (twins : Twins column twin) : target.column? column.name = some twin := by
  cases found : target.column? column.name with
  | none => exact absurd twins (column?_eq_none_iff.mp found twin among)
  | some other =>
      obtain ⟨listed, own⟩ := Table.column?_found found
      rw [List.inj_on_of_nodup_map target_apart listed among (own.trans twins.symm)]

theorem mem_writtenTargets (target_apart : (target.columns.map fun twin => Text.lower twin.name).Nodup)
    {written : String} : written ∈ writtenTargets c source target ↔
      ∃ twin ∈ target.columns, (∃ column ∈ source.columns, Twins column twin) ∧ c.wrap twin.name = written := by
  simp only [writtenTargets, List.mem_filterMap, written?, Option.map_eq_some_iff]
  constructor
  · intro given
    rcases given with ⟨column, member, twin, found, same⟩
    obtain ⟨among, twins⟩ := Table.column?_found found
    exact ⟨twin, among, ⟨column, member, twins⟩, same⟩
  · intro given
    rcases given with ⟨twin, among, ⟨column, member, twins⟩, same⟩
    exact ⟨column, member, twin, column?_twin target_apart among twins, same⟩

theorem values_carried (apart : (writtenTargets c source target).Nodup) (carried : Carries source row) :
    (mapRow (ofTables c source target) row).map (·.2) =
      (row.filter fun field => (target.column? field.1).isSome).map (·.2) := by
  rw [mapRow_carried apart carried, List.map_filterMap, ← List.filterMap_eq_map, ← List.filterMap_eq_filter,
    List.filterMap_filterMap]
  apply List.filterMap_congr
  intro field _
  cases found : target.column? field.1 <;> simp [written?, Option.guard, found]

/-- A row holds a value for a column: under its name, in whatever case. -/
def Holds (row : Row) (column : Column) (value : Value) : Prop :=
  ∃ name, (name, value) ∈ row ∧ Text.lower name = Text.lower column.name

/-- The parameters of an insertion for one row: one for each column, under the name of its place the value that the row
holds for the source column, and all values of the row but those of columns without a target. -/
structure Binds (c : Compiler) (source target : Table) (columns : List String) (row binds : Row) : Prop where
  names : binds.names = (List.range columns.length).map Database.bindName
  placed : ∀ column ∈ source.columns, ∀ twin ∈ target.columns, Twins column twin → ∀ value, Holds row column value →
    ∀ place : Nat, columns[place]? = some (c.wrap twin.name) → binds.get? (Database.bindName place) = some value
  complete : (binds.map (·.2)).Perm ((row.filter fun field => (target.column? field.1).isSome).map (·.2))

theorem binds_bindRow (target_apart : (target.columns.map fun twin => Text.lower twin.name).Nodup)
    (apart : (writtenTargets c source target).Nodup) (carried : Carries source row) {columns : List String}
    (columns_perm : columns.Perm (writtenTargets c source target)) :
    Binds c source target columns row (Database.bindRow columns (mapRow (ofTables c source target) row)) := by
  refine ⟨Database.names_bindRow _ _, ?placed, ?complete⟩
  case placed =>
    intro column _ twin among twins value holds place at_place
    rcases holds with ⟨name, present, same⟩
    have written : written? c target name = some (c.wrap twin.name) := by
      rw [written?_congr same, written?, column?_twin target_apart among twins]
      rfl
    rw [Database.get?_bindRow at_place, (get?_carried apart carried).mpr ⟨name, present, written⟩]
    rfl
  case complete =>
    have names_perm : columns.Perm (mapRow (ofTables c source target) row).names := by
      rw [names_carried apart carried]
      exact columns_perm.trans carried.perm_targets.symm
    rw [← values_carried apart carried, Database.values_bindRow, ← Fields.values_by_names _ (nodup_mapRow _ row)]
    exact names_perm.map _

/-- If neither table has names that differ in case only and the target columns are written differently, then every row
of an insertion brings its values to their own columns. The insertion names the targets of the source columns, each of
them once; under the name of its place it binds what the row holds for the source column, in whatever order and case
the row has its keys; and what is left out are the values of the columns without a target, each with one line. -/
theorem insertRows_places {σ : Type} (db : Database σ) (into : String) (c : Compiler) {source target : Table}
    (source_apart : (source.columns.map fun column => Text.lower column.name).Nodup)
    (target_apart : (target.columns.map fun twin => Text.lower twin.name).Nodup)
    (written_apart : (target.columns.map fun twin => c.wrap twin.name).Nodup) {rows : List Row} (some_row : rows ≠ [])
    (carried : ∀ row ∈ rows, Carries source row) :
    let batch := mapRows (ofTables c source target) rows
    let columns := Database.columnsOf batch
    let params := batch.map (Database.bindRow columns)
    (∀ world, (db.insertRows into batch).Ensures world fun _ events _ =>
      events = [.sent db.label (.insert (Database.insertText into columns) params)]) ∧
    columns.Nodup ∧
    (∀ written, written ∈ columns ↔
      ∃ twin ∈ target.columns, (∃ column ∈ source.columns, Twins column twin) ∧ c.wrap twin.name = written) ∧
    List.Forall₂ (Binds c source target columns) rows params ∧
    (unmatchedNotes source target).Nodup ∧
    (∀ line, line ∈ unmatchedNotes source target ↔ ∃ column ∈ source.columns,
      (∀ twin ∈ target.columns, ¬Twins column twin) ∧ noMatchNote source column = line) := by
  intro batch columns params
  have apart : (writtenTargets c source target).Nodup := nodup_writtenTargets source_apart written_apart
  have columns_perm : columns.Perm (writtenTargets c source target) := by
    obtain ⟨first, rest, rfl⟩ := List.exists_cons_of_ne_nil some_row
    have carries := carried first List.mem_cons_self
    change (mapRow (ofTables c source target) first).names.Perm _
    rw [names_carried apart carries]
    exact carries.perm_targets
  refine ⟨?sent, columns_perm.nodup_iff.mpr apart, ?columns, ?rows, ?once, ?notes⟩
  case sent =>
    intro world
    exact db.ensures_insertRows into (by simpa [batch, mapRows] using some_row) world
  case columns =>
    intro written
    rw [columns_perm.mem_iff, mem_writtenTargets target_apart]
  case rows =>
    have one_by_one : params = rows.map fun row => Database.bindRow columns (mapRow (ofTables c source target) row) :=
      List.map_map
    rw [one_by_one, List.forall₂_map_right_iff, List.forall₂_same]
    exact fun row member => binds_bindRow target_apart apart (carried row member) columns_perm
  case once =>
    change ((unmatched source target).map (noMatchNote source)).Nodup
    rw [List.Nodup, List.pairwise_map]
    apply ((List.pairwise_map.mp source_apart).filter _).imp
    intro one other differ same
    exact differ (congrArg Text.lower (noMatchNote_inj same))
  case notes =>
    intro line
    rw [mem_unmatchedNotes]
    simp only [column?_eq_none_iff]

theorem insertRows_places_people :
    let c : Compiler := { engine := .postgresql, config := none }
    let rows : List Row := [[("ID", .int 1), ("firstname", .text "Ada"), ("memo", .null)],
      [("Memo", .text "late"), ("FIRSTNAME", .text "Bo"), ("id", .int 2)]]
    (∀ row ∈ rows, Carries people row) ∧
    ∀ (db : Database Nat) (world : World Nat),
      (db.insertRows "\"people\"" (mapRows (ofTables c people foldedPeople) rows)).Ensures world fun _ events _ =>
        ∃ first second : Row, events = [.sent db.label (.insert
          "INSERT INTO \"people\" (\"id\", \"firstname\") VALUES (:p0, :p1)" [first, second])] ∧
        first.get? "p0" = some (.int 1) ∧ second.get? "p0" = some (.int 2) := by
  intro c rows
  have carried : ∀ row ∈ rows, Carries people row := by
    intro row member
    simp only [rows, List.mem_cons, List.not_mem_nil, or_false] at member
    rcases member with rfl | rfl <;> decide +kernel
  refine ⟨carried, ?_⟩
  intro db world
  have source_apart : (people.columns.map fun column => Text.lower column.name).Nodup := by decide +kernel
  have target_apart : (foldedPeople.columns.map fun twin => Text.lower twin.name).Nodup := by decide +kernel
  obtain ⟨sent, _, _, bound, _⟩ := insertRows_places db "\"people\"" c source_apart target_apart (by decide +kernel)
    (List.cons_ne_nil _ _) carried
  have columns : Database.columnsOf (mapRows (ofTables c people foldedPeople) rows) = ["\"id\"", "\"firstname\""] := by
    decide +kernel
  have twins : Twins { name := "Id", typeName := some "INTEGER", category := .integer }
      { name := "id", typeName := some "INTEGER", category := .integer } := by
    unfold Twins
    decide +kernel
  have at_place : ["\"id\"", "\"firstname\""][0]? = some (c.wrap "id") := by decide +kernel
  rw [columns] at sent bound
  cases bound with
  | cons first_bound rest =>
    cases rest with
    | cons second_bound _ =>
      apply (sent world).imp
      intro _ events _ same
      refine ⟨_, _, same, ?_, ?_⟩
      · exact first_bound.placed _ List.mem_cons_self _ List.mem_cons_self twins _
          ⟨"ID", List.mem_cons_self, by decide +kernel⟩ 0 at_place
      · exact second_bound.placed _ List.mem_cons_self _ List.mem_cons_self twins _
          ⟨"id", List.mem_cons_of_mem _ (List.mem_cons_of_mem _ List.mem_cons_self), rfl⟩ 0 at_place

end Mapping

end TableFerry
