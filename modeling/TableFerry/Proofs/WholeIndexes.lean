import Mathlib.Data.List.Forall2
import TableFerry.Proofs.PrimaryKeys
import TableFerry.Proofs.Requests
/-! Indexes in the snapshot of a table. A member of an index that is an expression has no column name, and the index
cannot be built again without it. A snapshot leaves out what has no plain column at all, but of an index with both sorts
of members it keeps the plain columns, so that it shows whole indexes alone exactly if there is no such index. -/

namespace TableFerry

theorem Table.firstRepeated_of_nodup {seen names : List String} (distinct : names.Nodup)
    (apart : ∀ name ∈ names, name ∉ seen) : firstRepeated? seen names = none := by
  induction names generalizing seen with
  | nil => rfl
  | cons head tail ih =>
      have fresh : seen.contains head = false := by simpa using apart head List.mem_cons_self
      have unrepeated := List.nodup_cons.mp distinct
      rw [firstRepeated?, fresh]
      apply ih unrepeated.2
      intro name later among
      rcases List.mem_cons.mp among with rfl | earlier
      · exact unrepeated.1 later
      · exact apart name (List.mem_cons_of_mem _ later) earlier

theorem Table.checked_of_nodup {table : Table} (distinct : (table.columns.map (·.name)).Nodup) :
    table.checked = .ok table := by
  rw [checked, firstRepeated_of_nodup distinct fun _ _ => List.not_mem_nil]

/-- The column of a table is the reflected one, and it is marked exactly if the key has it. -/
structure ReflectedColumn.Shown (keyNames : List String) (column : ReflectedColumn) (shown : Column) : Prop where
  name : shown.name = column.name
  nullable : shown.nullable = column.nullable.truthy
  comment : shown.comment = column.comment
  key : shown.isKey = true ↔ column.name ∈ keyNames

theorem ReflectedColumn.shown_toColumn (column : ReflectedColumn) (table : String) (keyNames : List String) :
    column.Shown keyNames (column.toColumn table keyNames) :=
  ⟨rfl, rfl, rfl, List.contains_iff_mem⟩

namespace ReflectedIndex

variable {table : String} {index : ReflectedIndex} {indexes kept : List ReflectedIndex} {built : Index}

/-- A member with a name is a plain column, and one without is an expression. -/
def isPlain (member : Option String) : Bool := member.getD "" ≠ ""

/-- An index that can be built again: it has a name and members, and all of them are plain columns. -/
structure Whole (index : ReflectedIndex) : Prop where
  named : index.name.getD "" ≠ ""
  inhabited : index.columnNames ≠ []
  plain : ∀ member ∈ index.columnNames, isPlain member

instance (index : ReflectedIndex) : Decidable index.Whole :=
  decidable_of_iff (index.name.getD "" ≠ "" ∧ index.columnNames ≠ [] ∧ ∀ member ∈ index.columnNames, isPlain member)
    ⟨fun holds => ⟨holds.1, holds.2.1, holds.2.2⟩, fun whole => ⟨whole.named, whole.inhabited, whole.plain⟩⟩

/-- An index with a name, a plain column and an expression. -/
structure Mixed (index : ReflectedIndex) : Prop where
  named : index.name.getD "" ≠ ""
  plain : ∃ member ∈ index.columnNames, isPlain member
  expression : ∃ member ∈ index.columnNames, ¬ isPlain member

/-- What is left of an index without its expressions. -/
def plainPart (index : ReflectedIndex) : ReflectedIndex :=
  { index with columnNames := index.columnNames.filter isPlain }

/-- The index of a table is the reflected one, with all its members in their order. -/
structure Faithful (table : String) (index : ReflectedIndex) (built : Index) : Prop where
  name : built.name = index.name
  owner : built.table = some table
  members : built.columns.map some = index.columnNames
  unique : built.unique = index.unique.truthy

theorem whole_plainPart_iff : index.plainPart.Whole ↔
    index.name.getD "" ≠ "" ∧ ∃ member ∈ index.columnNames, isPlain member := by
  constructor
  · intro whole
    obtain ⟨member, among⟩ := List.exists_mem_of_ne_nil _ whole.inhabited
    exact ⟨whole.named, member, List.mem_of_mem_filter among, whole.plain member among⟩
  · intro left
    obtain ⟨named, member, among, plain⟩ := left
    exact ⟨named, List.ne_nil_of_mem (List.mem_filter.mpr ⟨among, plain⟩), fun _ => List.of_mem_filter⟩

theorem mixed_iff : index.Mixed ↔ index.plainPart.Whole ∧ ¬ index.Whole := by
  rw [whole_plainPart_iff]
  constructor
  · intro mixed
    refine ⟨⟨mixed.named, mixed.plain⟩, ?_⟩
    intro whole
    obtain ⟨member, among, expression⟩ := mixed.expression
    exact expression (whole.plain member among)
  · intro part
    obtain ⟨⟨named, member, among, plain⟩, broken⟩ := part
    refine ⟨named, ⟨member, among, plain⟩, ?_⟩
    by_contra all
    push Not at all
    exact broken ⟨named, List.ne_nil_of_mem among, all⟩

theorem Whole.plainPart_eq (whole : index.Whole) : index.plainPart = index := by
  rw [plainPart, List.filter_eq_self.mpr whole.plain]

theorem map_some_plainColumns (index : ReflectedIndex) :
    index.plainColumns.map some = index.columnNames.filter isPlain := by
  unfold plainColumns
  induction index.columnNames with
  | nil => rfl
  | cons member members ih =>
      cases member with
      | none => simpa [isPlain] using ih
      | some column =>
          by_cases blank : column = ""
          · simpa [isPlain, blank] using ih
          · simpa [isPlain, blank] using ih

/-- What is built of an index is what is left of it, if that is an index at all. -/
theorem toIndex?_of_whole (table : String) (whole : index.plainPart.Whole) :
    ∃ built, index.toIndex? table = some built ∧ index.plainPart.Faithful table built := by
  have members := index.map_some_plainColumns
  have inhabited : index.plainColumns ≠ [] := by
    intro empty
    rw [empty] at members
    exact whole.inhabited members.symm
  have named := whole.named
  change index.name.getD "" ≠ "" at named
  unfold toIndex?
  cases given : index.name with
  | none => simp [given] at named
  | some name =>
      have filled : name ≠ "" := by simpa [given] using named
      simp only [filled, inhabited, decide_false, List.isEmpty_iff, Bool.false_or, if_false]
      exact ⟨_, rfl, given.symm, rfl, members, rfl⟩

theorem toIndex?_of_not_whole (broken : ¬ index.plainPart.Whole) : index.toIndex? table = none := by
  unfold toIndex?
  cases given : index.name with
  | none => rfl
  | some name =>
      dsimp only
      rw [if_pos]
      by_contra builds
      have filled : name ≠ "" ∧ index.plainColumns ≠ [] := by simpa using builds
      have members := index.map_some_plainColumns
      refine broken ⟨by simpa [plainPart, given] using filled.1, ?_, fun _ => List.of_mem_filter⟩
      intro empty
      exact filled.2 (List.map_eq_nil_iff.mp (members.trans empty))

/-- What is built follows what is left of those indexes of which an index is left. -/
theorem forall₂_filterMap_toIndex? (table : String) (indexes : List ReflectedIndex) :
    List.Forall₂ (fun index built => index.plainPart.Faithful table built) (indexes.filter (·.plainPart.Whole))
      (indexes.filterMap (·.toIndex? table)) := by
  induction indexes with
  | nil => exact .nil
  | cons index indexes ih =>
      by_cases whole : index.plainPart.Whole
      · obtain ⟨built, made, faithful⟩ := toIndex?_of_whole table whole
        simpa [whole, made] using ⟨faithful, ih⟩
      · simpa [whole, toIndex?_of_not_whole whole] using ih

theorem Faithful.whole (faithful : index.Faithful table built) {other : ReflectedIndex}
    (same : other.Faithful table built) (whole : other.Whole) : index.Whole := by
  have names : index.name = other.name := faithful.name.symm.trans same.name
  have members : index.columnNames = other.columnNames := faithful.members.symm.trans same.members
  refine ⟨?_, ?_, ?_⟩
  · rw [names]
    exact whole.named
  · rw [members]
    exact whole.inhabited
  · rw [members]
    exact whole.plain

/-- If no index is mixed then those that are built are the whole ones. -/
theorem forall₂_whole (unmixed : ∀ index ∈ indexes, ¬ index.Mixed) :
    List.Forall₂ (Faithful table) (indexes.filter (·.Whole)) (indexes.filterMap (·.toIndex? table)) := by
  have left : indexes.filter (·.plainPart.Whole) = indexes.filter (·.Whole) := by
    apply List.filter_congr
    intro index among
    have clear := unmixed index among
    rw [mixed_iff, not_and_not_right] at clear
    rw [decide_eq_decide]
    refine ⟨clear, fun whole => ?_⟩
    rwa [whole.plainPart_eq]
  have same : ∀ index ∈ indexes.filter (·.Whole), index.plainPart = index := by
    intro index member
    have whole := of_decide_eq_true (List.mem_filter.mp member).2
    exact whole.plainPart_eq
  have follows := forall₂_filterMap_toIndex? table indexes
  rw [left] at follows
  have both := (List.forall₂_and_left _ _).mpr ⟨same, follows⟩
  apply both.imp
  intro index built outcome
  rw [← outcome.1]
  exact outcome.2

theorem whole_of_faithful (faithful : List.Forall₂ (Faithful table) kept (indexes.filterMap (·.toIndex? table))) :
    ∀ index ∈ kept, index.Whole := by
  have built_whole : ∀ built ∈ indexes.filterMap (·.toIndex? table),
      ∃ index : ReflectedIndex, index.Whole ∧ index.Faithful table built := by
    intro built member
    obtain ⟨index, _, made⟩ := List.mem_filterMap.mp member
    by_cases whole : index.plainPart.Whole
    · obtain ⟨_, same, shown⟩ := toIndex?_of_whole table whole
      rw [Option.some.inj (made.symm.trans same)]
      exact ⟨_, whole, shown⟩
    · rw [toIndex?_of_not_whole whole] at made
      cases made
  have both := (List.forall₂_and_left _ _).mpr ⟨built_whole, faithful.flip⟩
  have matched : List.Forall₂ (fun index built => index.Whole ∧ index.Faithful table built) kept
      (indexes.filterMap (·.toIndex? table)) := by
    apply both.flip.imp
    intro index built outcome
    obtain ⟨⟨other, whole, same⟩, shown⟩ := outcome
    exact ⟨Faithful.whole shown same whole, shown⟩
  exact ((List.forall₂_and_left _ _).mp matched).1

/-- What is left of a mixed index is one index more than there are whole ones to account for. -/
theorem unmixed_of_faithful (sublist : kept.Sublist indexes)
    (faithful : List.Forall₂ (Faithful table) kept (indexes.filterMap (·.toIndex? table))) :
    ∀ index ∈ indexes, ¬ index.Mixed := by
  have whole := whole_of_faithful faithful
  have among : kept.Sublist (indexes.filter (·.Whole)) := by
    rw [← List.filter_eq_self.mpr fun index member => decide_eq_true (whole index member)]
    exact sublist.filter _
  have fewer : (indexes.filter (·.Whole)).Sublist (indexes.filter (·.plainPart.Whole)) := by
    apply List.monotone_filter_right
    intro index holds
    have whole := of_decide_eq_true holds
    rwa [whole.plainPart_eq]
  have as_many : kept.length = (indexes.filter (·.plainPart.Whole)).length :=
    faithful.length_eq.trans (forall₂_filterMap_toIndex? table indexes).length_eq.symm
  -- Whole indexes are among those of which anything is left, and here they are as many.
  have same := fewer.eq_of_length_le (as_many ▸ among.length_le)
  intro index member mixed
  obtain ⟨part, broken⟩ := mixed_iff.mp mixed
  have counted : index ∈ indexes.filter (·.plainPart.Whole) := List.mem_filter.mpr ⟨member, decide_eq_true part⟩
  rw [← same] at counted
  exact broken (of_decide_eq_true (List.mem_filter.mp counted).2)

end ReflectedIndex

namespace Database

open ReflectedIndex (Faithful)

variable {σ : Type}

theorem ensures_snapshot_filled (db : Database σ) (table : String) (schema : Value) {entry : ReflectedTable}
    {world : World σ} (answered : (db.reflect table schema world.state).1 = .ok (some entry))
    (distinct : (entry.columns.map (·.name)).Nodup) :
    (db.snapshot table schema).Ensures world fun result events _ =>
      events = [.sent db.label (.reflect table schema)] ∧
      result = .ok
        (if entry.columns = [] then none else some ({ entry with name := table } : ReflectedTable).toTable) := by
  apply Job.ensures_bind
  rw [Job.ensures_send]
  apply Job.ensures_bind
  rw [Job.ensures_answer, answered]
  dsimp only
  by_cases empty : entry.columns = []
  · rw [if_pos (List.isEmpty_iff.mpr empty), if_pos empty]
    exact (Job.ensures_pure _).mpr ⟨rfl, rfl⟩
  · have names : ((({ entry with name := table } : ReflectedTable).toTable.columns).map (·.name)).Nodup := by
      simpa [ReflectedTable.toTable, ReflectedColumn.toColumn, Function.comp_def] using distinct
    rw [if_neg (mt List.isEmpty_iff.mp empty), if_neg empty]
    apply Job.ensures_bind
    rw [Job.ensures_noteAll]
    apply Job.ensures_bind
    rw [Job.ensures_ofExcept, Table.checked_of_nodup names]
    exact (Job.ensures_pure _).mpr ⟨rfl, rfl⟩

/-- The snapshot of a table that a catalogue describes has its columns in their order, those of the key being marked.
Its indexes follow what is left of those that the catalogue has. They are, each with its name, its uniqueness and all
its members, indexes that the catalogue has exactly if no index there is mixed, and then they are all whole ones. -/
theorem snapshot_faithful_iff (db : Database σ) (table : String) (schema : Value) {entry : ReflectedTable}
    {world : World σ} (answered : (db.reflect table schema world.state).1 = .ok (some entry))
    (distinct : (entry.columns.map (·.name)).Nodup) :
    (db.snapshot table schema).Ensures world fun result events _ =>
      events = [.sent db.label (.reflect table schema)] ∧
      ∃ found, result = .ok found ∧ (found = none ↔ entry.columns = []) ∧ ∀ snapshot ∈ found,
        snapshot.name = table ∧ snapshot.keyNames = entry.keyNames ∧
        List.Forall₂ (ReflectedColumn.Shown entry.keyNames) entry.columns snapshot.columns ∧
        List.Forall₂ (fun index built => index.plainPart.Faithful table built)
          (entry.indexes.filter (·.plainPart.Whole)) snapshot.indexes ∧
        ((∃ kept, kept.Sublist entry.indexes ∧ List.Forall₂ (Faithful table) kept snapshot.indexes) ↔
          ∀ index ∈ entry.indexes, ¬ index.Mixed) ∧
        ((∀ index ∈ entry.indexes, ¬ index.Mixed) →
          List.Forall₂ (Faithful table) (entry.indexes.filter (·.Whole)) snapshot.indexes) := by
  apply (db.ensures_snapshot_filled table schema answered distinct).imp
  rintro result events final ⟨rfl, rfl⟩
  refine ⟨rfl, _, rfl, by simp, ?_⟩
  intro snapshot member
  split at member
  · cases member
  · obtain rfl := Option.some.inj member
    refine ⟨rfl, rfl, ?columns, ReflectedIndex.forall₂_filterMap_toIndex? table entry.indexes, ⟨?whole, ?unmixed⟩,
      ReflectedIndex.forall₂_whole⟩
    case columns =>
      rw [ReflectedTable.toTable, List.forall₂_map_right_iff, List.forall₂_same]
      exact fun column _ => column.shown_toColumn table entry.keyNames
    case whole =>
      rintro ⟨kept, sublist, faithful⟩
      exact ReflectedIndex.unmixed_of_faithful sublist faithful
    case unmixed =>
      intro unmixed
      exact ⟨_, List.filter_sublist, ReflectedIndex.forall₂_whole unmixed⟩

/-- The entry of a table with a key and these indexes. -/
def ordersEntry (indexes : List ReflectedIndex) : ReflectedTable where
  name := "orders"
  columns := ["id", "code"].map fun name => { name := name, type := {} }
  keyNames := ["id"]
  indexes := indexes

def ordersCatalogue (indexes : List ReflectedIndex) : Database Unit :=
  .still "src" "sqlite" (fun table => if table = "orders" then some (ordersEntry indexes) else none) fun _ => []

theorem snapshot_faithful_iff_orders :
    let indexes : List ReflectedIndex :=
      [⟨some "by_code", [some "code", some "id"], .bool true⟩, ⟨some "by_lower", [none], .null⟩]
    let start : World Unit := { state := (), now := fun _ => .zero false }
    (ordersEntry indexes).columns.map (·.name) = ["id", "code"] ∧ (∀ index ∈ indexes, ¬ index.Mixed) ∧
    ((ordersCatalogue indexes).snapshot "orders" .null).Ensures start fun result _ _ =>
      ∃ snapshot, result = .ok (some snapshot) ∧ List.Forall₂ (Faithful "orders") (indexes.take 1) snapshot.indexes := by
  intro indexes start
  have unmixed : ∀ index ∈ indexes, ¬ index.Mixed := by
    simp only [ReflectedIndex.mixed_iff]
    decide
  have answered : ((ordersCatalogue indexes).reflect "orders" .null start.state).1 =
      .ok (some (ordersEntry indexes)) := rfl
  have shows := snapshot_faithful_iff (ordersCatalogue indexes) "orders" .null answered (by decide)
  refine ⟨rfl, unmixed, shows.imp ?_⟩
  rintro result events final ⟨_, found, rfl, present, same⟩
  cases found with
  | none => cases present.mp rfl
  | some snapshot =>
      obtain ⟨_, _, _, _, _, whole⟩ := same snapshot rfl
      exact ⟨snapshot, rfl, whole unmixed⟩

/-- A unique index on a column and an expression becomes one on the column alone, which is no index of the table. -/
theorem snapshot_cuts_index :
    let index : ReflectedIndex := ⟨some "by_code", [some "code", none], .bool true⟩
    let cut : Index := ⟨some "by_code", some "orders", ["code"], true⟩
    let start : World Unit := { state := (), now := fun _ => .zero false }
    let result := (((ordersCatalogue [index]).snapshot "orders" .null).run start).1
    ((ordersEntry [index]).columns.map (·.name)).Nodup ∧ result.toOption.map (·.map (·.indexes)) = some (some [cut]) ∧
      ¬ ∃ kept, kept.Sublist [index] ∧ List.Forall₂ (Faithful "orders") kept [cut] := by
  intro index cut start result
  refine ⟨by decide, by decide +kernel, ?_⟩
  rintro ⟨kept, sublist, faithful⟩
  cases faithful with
  | cons first rest =>
      obtain rfl := List.mem_singleton.mp (sublist.subset List.mem_cons_self)
      cases first.members

end Database

end TableFerry
