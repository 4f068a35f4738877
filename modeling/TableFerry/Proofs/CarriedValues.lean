import Mathlib.Data.List.Nodup
import TableFerry.Proofs.ColumnMatching
import TableFerry.Proofs.PrimaryKeys
/-! Which values of a row reach the target. A value goes to the column that the target has of its name, whatever its
case, and a line tells of every column that the target has not. Two columns whose targets are written alike overwrite
each other without such a line, and a table may have names that differ in case only. -/

namespace TableFerry.Mapping

variable {c : Compiler} {source target : Table} {row : Row}

/-! Rows whose keys are the columns of the source. -/

/-- Whether columns of the source and the target have one name but for its case. -/
def Twins (column twin : Column) : Prop := Text.lower twin.name = Text.lower column.name

/-- The keys of a row are the columns of a table, in whatever order and case. -/
def Carries (table : Table) (row : Row) : Prop :=
  (row.names.map Text.lower).Perm (table.columns.map fun column => Text.lower column.name)

instance (table : Table) (row : Row) : Decidable (Carries table row) :=
  inferInstanceAs (Decidable (List.Perm _ _))

/-- The targets of the source columns that have one, as they are written. -/
def writtenTargets (c : Compiler) (source target : Table) : List String :=
  source.columns.filterMap fun column => written? c target column.name

theorem written?_congr {one other : String} (same : Text.lower one = Text.lower other) :
    written? c target one = written? c target other := by
  rw [written?, written?, Table.column?, Table.column?, same]

theorem Carries.exists_column (carried : Carries source row) {name : String} (member : name ∈ row.names) :
    ∃ column ∈ source.columns, Text.lower column.name = Text.lower name :=
  List.mem_map.mp (carried.mem_iff.mp (List.mem_map_of_mem member))

theorem Carries.lookup (carried : Carries source row) {name : String} (member : name ∈ row.names) :
    (ofTables c source target).lookup (Text.lower name) = written? c target name := by
  obtain ⟨column, among, same⟩ := carried.exists_column member
  rw [← same, lookup_ofTables among, written?_congr same]

theorem Carries.filterMap_lookup (carried : Carries source row) :
    (row.names.filterMap fun name => (ofTables c source target).lookup (Text.lower name)) =
      row.names.filterMap (written? c target) :=
  List.filterMap_congr fun _ member => carried.lookup member

/-- Such a row is written to the targets of the source columns. -/
theorem Carries.perm_targets (carried : Carries source row) :
    (row.names.filterMap (written? c target)).Perm (writtenTargets c source target) := by
  let byLower (lowered : String) : Option String :=
    (target.columns.find? fun twin => Text.lower twin.name == lowered).map fun twin => c.wrap twin.name
  have lowered := carried.filterMap byLower
  rwa [List.filterMap_map, List.filterMap_map] at lowered

section

variable (apart : (writtenTargets c source target).Nodup) (carried : Carries source row)
include apart carried

theorem nodup_written : (row.names.filterMap (written? c target)).Nodup :=
  carried.perm_targets.nodup_iff.mpr apart

theorem mapRow_carried : mapRow (ofTables c source target) row =
    row.filterMap fun field => (written? c target field.1).map fun name => (name, field.2) := by
  have distinct := nodup_written apart carried
  rw [← carried.filterMap_lookup] at distinct
  rw [mapRow_eq_filterMap distinct]
  apply List.filterMap_congr
  intro field member
  rw [carried.lookup (List.mem_map_of_mem member)]

theorem names_carried : (mapRow (ofTables c source target) row).names = row.names.filterMap (written? c target) := by
  rw [mapRow_carried apart carried, Fields.names, List.map_filterMap, Fields.names, List.filterMap_map]
  apply List.filterMap_congr
  intro field _
  rw [Option.map_map]
  exact Option.map_id'

/-- What a mapped row holds is what the row itself holds for a column with that target. -/
theorem get?_carried {written : String} {value : Value} :
    (mapRow (ofTables c source target) row).get? written = some value ↔
      ∃ name, (name, value) ∈ row ∧ written? c target name = some written := by
  have distinct : ((mapRow (ofTables c source target) row).map (·.1)).Nodup := nodup_mapRow _ row
  rw [Fields.get?, ← mem_iff_lookup distinct, mapRow_carried apart carried]
  simp only [List.mem_filterMap, Option.map_eq_some_iff, Prod.mk.injEq, Prod.exists]
  constructor
  · intro given
    rcases given with ⟨name, _, member, _, found, rfl, rfl⟩
    exact ⟨name, member, found⟩
  · intro given
    rcases given with ⟨name, member, found⟩
    exact ⟨name, value, member, written, found, rfl, rfl⟩

end

/-! The lines for columns that the target has not. -/

def noMatchNote (source : Table) (column : Column) : LogLine :=
  ⟨.warning, s!"Table[{source.name}] column {column.name} has no match in target, " ++
    "its values will not be copied"⟩

theorem noMatchNote_inj {one other : Column} (same : noMatchNote source one = noMatchNote source other) :
    one.name = other.name := by
  have texts := congrArg (fun line => line.text.toList) same
  simp only [noMatchNote, String.toList_append] at texts
  exact String.toList_inj.mp (List.append_cancel_left (List.append_cancel_right (List.append_cancel_right texts)))

theorem mem_unmatchedNotes {line : LogLine} : line ∈ unmatchedNotes source target ↔
    ∃ column ∈ source.columns, target.column? column.name = none ∧ noMatchNote source column = line := by
  change line ∈ (unmatched source target).map (noMatchNote source) ↔ _
  simp only [unmatched, List.mem_map, List.mem_filter, Option.isNone_iff_eq_none, and_assoc]

theorem column?_eq_none_iff {column : Column} :
    target.column? column.name = none ↔ ∀ twin ∈ target.columns, ¬Twins column twin := by
  simp only [Table.column?, List.find?_eq_none, beq_iff_eq, Twins]

/-- Two names lead to one column of the target iff they are equal but for case. -/
theorem column?_eq_iff {name other : String} (found : (target.column? name).isSome) :
    target.column? name = target.column? other ↔ Text.lower name = Text.lower other := by
  obtain ⟨twin, found⟩ := Option.isSome_iff_exists.mp found
  constructor
  · intro same
    have also_found : target.column? other = some twin := same ▸ found
    rw [← (Table.column?_found found).2, (Table.column?_found also_found).2]
  · intro same
    rw [Table.column?, Table.column?, same]

theorem noMatchNote_mem_iff {column : Column} (member : column ∈ source.columns) :
    noMatchNote source column ∈ unmatchedNotes source target ↔ target.column? column.name = none := by
  rw [mem_unmatchedNotes]
  constructor
  · intro warned
    rcases warned with ⟨other, _, missing, same⟩
    rwa [noMatchNote_inj same] at missing
  · exact fun missing => ⟨column, member, missing, rfl⟩

/-- The source columns for which no line is logged. -/
def unwarned (source target : Table) : List Column :=
  source.columns.filter fun column => noMatchNote source column ∉ unmatchedNotes source target

theorem mem_unwarned {column : Column} :
    column ∈ unwarned source target ↔ column ∈ source.columns ∧ (target.column? column.name).isSome := by
  rw [unwarned, List.mem_filter, decide_eq_true_eq]
  apply and_congr_right
  intro member
  rw [noMatchNote_mem_iff member, Option.isSome_iff_ne_none]

theorem nodup_writtenTargets_iff : (writtenTargets c source target).Nodup ↔
    (unwarned source target).Pairwise fun one other => written? c target one.name ≠ written? c target other.name := by
  have targets : writtenTargets c source target =
      (unwarned source target).filterMap fun column => written? c target column.name := by
    rw [unwarned, List.filterMap_filter, writtenTargets]
    apply List.filterMap_congr
    intro column member
    by_cases warned : noMatchNote source column ∈ unmatchedNotes source target
    · rw [if_neg (by simpa using warned), written?, (noMatchNote_mem_iff member).mp warned]
      rfl
    · rw [if_pos (decide_eq_true warned)]
  rw [targets, List.Nodup, List.pairwise_filterMap]
  apply List.Pairwise.iff_of_mem
  intro one other member also
  obtain ⟨first, found⟩ := Option.isSome_iff_exists.mp (mem_unwarned.mp member).2
  obtain ⟨second, also_found⟩ := Option.isSome_iff_exists.mp (mem_unwarned.mp also).2
  simp only [written?, found, also_found, Option.map_some, Option.some.injEq, forall_eq', ne_eq]

/-- Every row with the columns of the source keeps the values of all that have a target. -/
def KeepsValues (c : Compiler) (source target : Table) : Prop :=
  ∀ row : Row, row.names.Perm (source.columns.map (·.name)) → ∀ column ∈ source.columns, ∀ twin,
    target.column? column.name = some twin →
      (mapRow (ofTables c source target) row).get? (c.wrap twin.name) = row.get? column.name

theorem carries_of_perm (own : row.names.Perm (source.columns.map (·.name))) : Carries source row := by
  have lowered := own.map Text.lower
  rwa [List.map_map] at lowered

theorem keepsValues_of_nodup (named : (source.columns.map (·.name)).Nodup)
    (apart : (writtenTargets c source target).Nodup) : KeepsValues c source target := by
  intro row own column member twin found
  have distinct : (row.map (·.1)).Nodup := own.nodup_iff.mpr named
  have carried := carries_of_perm own
  have written : written? c target column.name = some (c.wrap twin.name) := by rw [written?, found]; rfl
  obtain ⟨⟨name, value⟩, among, rfl⟩ := List.mem_map.mp (own.mem_iff.mpr (List.mem_map_of_mem member))
  rw [Fields.get?, Fields.get?, (mem_iff_lookup distinct).mp among]
  exact (get?_carried apart carried).mpr ⟨column.name, among, written⟩

/-- Two columns with one target lose a value in a row that tells them apart. -/
theorem nodup_of_keepsValues (named : (source.columns.map (·.name)).Nodup) (keeps : KeepsValues c source target) :
    (writtenTargets c source target).Nodup := by
  -- every column has its own name for a value
  let told : Row := source.columns.map fun column => (column.name, .text column.name)
  have names : told.names = source.columns.map (·.name) := by rw [Fields.names, List.map_map]; rfl
  have distinct : told.names.Nodup := names ▸ named
  have kept {column : Column} (member : column ∈ unwarned source target) {written : String}
      (found : written? c target column.name = some written) :
      (mapRow (ofTables c source target) told).get? written = some (.text column.name) := by
    obtain ⟨twin, twin_found, rfl⟩ := Option.map_eq_some_iff.mp found
    have own := (mem_unwarned.mp member).1
    rw [keeps told (names ▸ List.Perm.refl _) column own twin twin_found]
    exact (mem_iff_lookup distinct).mp (List.mem_map_of_mem own)
  rw [nodup_writtenTargets_iff]
  have apart : (unwarned source target).Pairwise fun one other => one.name ≠ other.name :=
    (List.pairwise_map.mp named).filter _
  apply apart.imp_of_mem
  intro one other member also differ same
  obtain ⟨written, found⟩ : ∃ written, written? c target one.name = some written := by
    rw [← Option.isSome_iff_exists, written?, Option.isSome_map]
    exact (mem_unwarned.mp member).2
  have texts := (kept member found).symm.trans (kept also (same ▸ found))
  exact differ (Value.text.inj (Option.some.inj texts))

/-- Columns that differ in more than case have different targets if those are written differently. -/
theorem nodup_writtenTargets (source_apart : (source.columns.map fun column => Text.lower column.name).Nodup)
    (written_apart : (target.columns.map fun twin => c.wrap twin.name).Nodup) :
    (writtenTargets c source target).Nodup := by
  rw [nodup_writtenTargets_iff]
  apply ((List.pairwise_map.mp source_apart).filter _).imp_of_mem
  intro one other member also differ same
  obtain ⟨first, found⟩ := Option.isSome_iff_exists.mp (mem_unwarned.mp member).2
  obtain ⟨second, also_found⟩ := Option.isSome_iff_exists.mp (mem_unwarned.mp also).2
  obtain ⟨among, own⟩ := Table.column?_found found
  obtain ⟨also_among, also_own⟩ := Table.column?_found also_found
  rw [written?, written?, found, also_found, Option.map_some, Option.map_some, Option.some.injEq] at same
  apply differ
  rw [← own, ← also_own, List.inj_on_of_nodup_map written_apart among also_among same]

/-- The source columns without a warning are mapped to different targets iff every row keeps the values of all of them.
Then no two of them differ in case only; and they are, if the source columns differ in more than case and the columns of
the target are written differently. -/
theorem unwarned_kept_iff (c : Compiler) {source : Table} (target : Table) (accepted : source.checked = .ok source) :
    let mapped (column : Column) := (ofTables c source target).lookup (Text.lower column.name)
    let apart := (unwarned source target).Pairwise fun one other => mapped one ≠ mapped other
    (∀ column ∈ unwarned source target, ∃ twin,
      target.column? column.name = some twin ∧ mapped column = some (c.wrap twin.name)) ∧
    (apart ↔ KeepsValues c source target) ∧
    ((unwarned source target).Pairwise (fun one other => target.column? one.name ≠ target.column? other.name) ↔
      ((unwarned source target).map fun column => Text.lower column.name).Nodup) ∧
    (apart → ((unwarned source target).map fun column => Text.lower column.name).Nodup) ∧
    ((source.columns.map fun column => Text.lower column.name).Nodup →
      (target.columns.map fun twin => c.wrap twin.name).Nodup → apart) := by
  intro mapped apart
  have named := Table.nodup_of_checked accepted
  have mapped_eq {column : Column} (member : column ∈ unwarned source target) :
      mapped column = written? c target column.name := lookup_ofTables (mem_unwarned.mp member).1
  have apart_iff : apart ↔ (writtenTargets c source target).Nodup := by
    rw [nodup_writtenTargets_iff]
    apply List.Pairwise.iff_of_mem
    intro one other member also
    rw [mapped_eq member, mapped_eq also]
  refine ⟨?found, ?kept, ?targets, ?lowered, ?sufficient⟩
  case found =>
    intro column member
    obtain ⟨twin, found⟩ := Option.isSome_iff_exists.mp (mem_unwarned.mp member).2
    refine ⟨twin, found, ?_⟩
    rw [mapped_eq member, written?, found]
    rfl
  case kept =>
    rw [apart_iff]
    exact ⟨keepsValues_of_nodup named, nodup_of_keepsValues named⟩
  case targets =>
    rw [List.Nodup, List.pairwise_map]
    apply List.Pairwise.iff_of_mem
    intro one other member _
    exact not_congr (column?_eq_iff (mem_unwarned.mp member).2)
  case lowered =>
    intro differ
    rw [List.Nodup, List.pairwise_map]
    apply List.Pairwise.imp _ differ
    intro one other unlike same
    apply unlike
    change (ofTables c source target).lookup _ = (ofTables c source target).lookup _
    rw [same]
  case sufficient =>
    intro source_apart written_apart
    exact apart_iff.mpr (nodup_writtenTargets source_apart written_apart)

/-- A source with a column that `foldedPeople` has not. -/
def people : Table :=
  { name := "people"
    columns := [{ name := "Id", typeName := some "INTEGER", category := .integer },
      { name := "firstName", typeName := some "VARCHAR", category := .varchar },
      { name := "memo", typeName := some "VARCHAR", category := .varchar }] }

def foldedPeople : Table :=
  { name := "people"
    columns := [{ name := "id", typeName := some "INTEGER", category := .integer },
      { name := "firstname", typeName := some "VARCHAR", category := .varchar },
      { name := "note", typeName := some "VARCHAR", category := .varchar }] }

theorem unwarned_kept_iff_people :
    people.checked = .ok people ∧ KeepsValues { engine := .postgresql, config := none } people foldedPeople := by
  have accepted : people.checked = .ok people := rfl
  obtain ⟨_, kept, _, _, sufficient⟩ :=
    unwarned_kept_iff { engine := .postgresql, config := none } foldedPeople accepted
  exact ⟨accepted, kept.mp (sufficient (by decide +kernel) (by decide +kernel))⟩

/-- Columns that differ in case only are both accepted and both matched, and one overwrites the other. -/
theorem mapRow_overwrites_caseTwin :
    let c : Compiler := { engine := .sqlite, config := none }
    let twice : Table :=
      { name := "people"
        columns := [{ name := "Id", typeName := some "INTEGER", category := .integer },
          { name := "ID", typeName := some "INTEGER", category := .integer }] }
    twice.checked = .ok twice ∧ unmatchedNotes twice twice = [] ∧
    twice.column? "Id" = twice.column? "ID" ∧
    ∀ one other : Value, mapRow (ofTables c twice twice) [("Id", one), ("ID", other)] = [("\"Id\"", other)] := by
  intro c twice
  refine ⟨rfl, by decide +kernel, by decide +kernel, ?_⟩
  intro one other
  have upper : (ofTables c twice twice).lookup (Text.lower "ID") = some "\"Id\"" := by decide +kernel
  have mixed : (ofTables c twice twice).lookup (Text.lower "Id") = some "\"Id\"" := by decide +kernel
  simp only [mapRow_eq, List.foldl_cons, List.foldl_nil, mapField, upper, mixed, Fields.put, if_pos]

end TableFerry.Mapping
