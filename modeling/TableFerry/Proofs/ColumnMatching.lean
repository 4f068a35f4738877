import Mathlib.Data.List.Nodup
import TableFerry.Proofs.CreatedNames
import TableFerry.Proofs.Entries
import TableFerry.Proofs.RowMapping
import TableFerry.Proofs.SettledCase
import TableFerry.Proofs.TableStatements
/-! Which columns of a created table are found again when its rows are copied. The statement that creates the
table writes names without blanks and folded, but the copy looks for them as the source has them, whatever their
case: a name with a blank is never found, and a plain one is if folding does not change its lower case. -/

namespace TableFerry

namespace Text

theorem mem_of_mem_splitWhere {cut : Char → Bool} {cs part : List Char} (among : part ∈ splitWhere cut cs)
    {c : Char} (member : c ∈ part) : c ∈ cs := by
  induction cs generalizing part with
  | nil =>
      rw [List.mem_singleton.mp among] at member
      cases member
  | cons head tail ih =>
      rw [splitWhere] at among
      split at among
      · rcases List.mem_cons.mp among with rfl | later
        · cases member
        · exact List.mem_cons_of_mem _ (ih later member)
      · split at among
        · rw [List.mem_singleton.mp among] at member
          rw [List.mem_singleton.mp member]
          exact List.mem_cons_self
        · rename_i first parts split_tail
          rw [split_tail] at ih
          rcases List.mem_cons.mp among with rfl | later
          · rcases List.mem_cons.mp member with rfl | behind
            · exact List.mem_cons_self
            · exact List.mem_cons_of_mem _ (ih List.mem_cons_self behind)
          · exact List.mem_cons_of_mem _ (ih (List.mem_cons_of_mem _ later) member)

theorem mem_joinWith {separator : String} {parts : List String} {c : Char}
    (member : c ∈ (joinWith separator parts).toList) :
    c ∈ separator.toList ∨ ∃ part ∈ parts, c ∈ part.toList := by
  induction parts with
  | nil => cases member
  | cons head tail ih =>
      cases tail with
      | nil => exact Or.inr ⟨head, List.mem_cons_self, member⟩
      | cons next rest =>
          rw [joinWith, String.toList_append, String.toList_append, List.mem_append, List.mem_append] at member
          · rcases member with (own | between) | later
            · exact Or.inr ⟨head, List.mem_cons_self, own⟩
            · exact Or.inl between
            · rcases ih later with between | ⟨part, among, present⟩
              · exact Or.inl between
              · exact Or.inr ⟨part, List.mem_cons_of_mem _ among, present⟩
          · exact List.cons_ne_nil _ _

theorem opens_joinWith (separator head : String) (tail : List String) :
    Opens head (joinWith separator (head :: tail)) := by
  cases tail with
  | nil => exact ⟨"", by simp [joinWith]⟩
  | cons next rest => exact ⟨separator ++ joinWith separator (next :: rest), String.append_assoc ..⟩

end Text

theorem CaseRule.blank_not_mem_fold (rule : CaseRule) {blank : Char} (blanks : Text.isBlankChar blank = true)
    {name : String} (free : blank ∉ name.toList) : blank ∉ (rule.fold name).toList := by
  rwa [rule.mem_fold (Text.caseless_blank blanks)]

namespace Compiler

variable (c : Compiler) {name : String}

/-- What stands between the outer marks of a name in a statement. -/
def identifier (name : String) : String :=
  Text.joinWith (c.engine.delimiters.2 ++ "." ++ c.engine.delimiters.1)
    (Text.splitAt '.' (c.foldCase (Text.removeBlanks name)))

theorem joinWith_delimit {parts : List String} (some_part : parts ≠ []) :
    Text.joinWith "." (parts.map c.delimit) =
      c.delimit (Text.joinWith (c.engine.delimiters.2 ++ "." ++ c.engine.delimiters.1) parts) := by
  induction parts with
  | nil => exact absurd rfl some_part
  | cons head tail ih =>
      cases tail with
      | nil => rfl
      | cons next rest =>
          have joined := ih (List.cons_ne_nil _ _)
          simp only [List.map_cons, Text.joinWith, delimit, String.append_assoc] at joined ⊢
          rw [joined]

/-- A name is written as its identifier between marks. -/
theorem wrap_eq_delimit (named : Text.removeBlanks name ≠ "") : c.wrap name = c.delimit (c.identifier name) := by
  have parts : Text.splitAt '.' (c.foldCase (Text.removeBlanks name)) ≠ [] := by
    rw [Text.splitAt, ne_eq, List.map_eq_nil_iff]
    exact Text.splitWhere_ne_nil _ _
  rw [wrap, if_neg named, c.joinWith_delimit parts]
  rfl

theorem blank_not_mem_identifier {blank : Char} (blanks : Text.isBlankChar blank = true) (name : String) :
    blank ∉ (c.identifier name).toList := by
  intro member
  rcases Text.mem_joinWith member with between | ⟨part, among, present⟩
  · have marks : (c.engine.delimiters.2 ++ "." ++ c.engine.delimiters.1).toList.all (!Text.isBlankChar ·) = true := by
      cases c.engine <;> rfl
    have unblank := List.all_eq_true.mp marks blank between
    rw [blanks] at unblank
    cases unblank
  · obtain ⟨chars, split_off, rfl⟩ := List.mem_map.mp among
    rw [String.toList_ofList] at present
    apply c.engine.caseRule.blank_not_mem_fold blanks _ (Text.mem_of_mem_splitWhere split_off present)
    rw [Text.removeBlanks, String.toList_ofList, List.mem_filter, blanks]
    exact fun kept => Bool.false_ne_true kept.2

/-- A name without blanks and points whose lower case folding does not change. -/
structure Retraceable (name : String) : Prop where
  plain : Text.Plain name
  named : name ≠ ""
  lower_fold : Text.lower (c.foldCase name) = Text.lower name

variable {c}

theorem identifier_plain (plain : Text.Plain name) : c.identifier name = c.foldCase name := by
  have unsplit := Text.splitAt_single _ (c.engine.caseRule.dot_not_mem_fold plain.dot_not_mem)
  rw [String.ofList_toList] at unsplit
  rw [identifier, plain.removeBlanks, foldCase, unsplit]
  rfl

theorem plain_fold (plain : Text.Plain name) : Text.Plain (c.foldCase name) := by
  intro ch member
  constructor
  · by_contra blanks
    rw [Bool.not_eq_false] at blanks
    apply c.engine.caseRule.blank_not_mem_fold blanks _ member
    intro present
    rw [(plain ch present).1] at blanks
    cases blanks
  · intro dot
    rw [dot] at member
    exact c.engine.caseRule.dot_not_mem_fold plain.dot_not_mem member

theorem fold_fold (name : String) : c.foldCase (c.foldCase name) = c.foldCase name := by
  unfold foldCase
  cases c.engine.caseRule with
  | upper => exact Text.upper_upper name
  | lower => exact Text.lower_lower name
  | remain => rfl

/-- Only upper case may lead astray, and never in ASCII. -/
theorem retraceable_of_plain (plain : Text.Plain name) (named : name ≠ "")
    (ascii : c.engine.caseRule = .upper → Text.IsAscii name.toList) : c.Retraceable name := by
  refine ⟨plain, named, ?_⟩
  unfold foldCase
  cases rule : c.engine.caseRule with
  | upper =>
      rw [CaseRule.fold, Text.upper, Text.lower, String.toList_ofList, Text.lowerChars_upperChars (ascii rule)]
      rfl
  | lower => exact Text.lower_lower name
  | remain => rfl

/-- Such a name is written alike as the source and as the target has it. -/
theorem Retraceable.wrap_identifier (retraceable : c.Retraceable name) :
    c.wrap (c.identifier name) = c.wrap name := by
  have fold_plain : Text.Plain (c.foldCase name) := plain_fold retraceable.plain
  have folded : c.foldCase name ≠ "" := by
    intro empty
    have lowered := retraceable.lower_fold
    rw [empty] at lowered
    exact Text.lower_ne_empty retraceable.named lowered.symm
  rw [identifier_plain retraceable.plain, wrap_eq_delimit, wrap_eq_delimit]
  · rw [identifier_plain fold_plain, identifier_plain retraceable.plain, fold_fold]
  · rw [retraceable.plain.removeBlanks]
    exact retraceable.named
  · rw [fold_plain.removeBlanks]
    exact folded

theorem delimit_injective {one other : String} (same : c.delimit one = c.delimit other) : one = other := by
  have chars := congrArg String.toList same
  simp only [delimit, String.toList_append] at chars
  exact String.toList_inj.mp (List.append_cancel_left (List.append_cancel_right chars))

/-- Such names are written alike only if they differ in case at most. -/
theorem Retraceable.lower_eq {one other : String} (retraceable : c.Retraceable one) (also : c.Retraceable other)
    (same : c.wrap one = c.wrap other) : Text.lower one = Text.lower other := by
  have filled {name : String} (retraceable : c.Retraceable name) : Text.removeBlanks name ≠ "" := by
    rw [retraceable.plain.removeBlanks]
    exact retraceable.named
  rw [wrap_eq_delimit c (filled retraceable), wrap_eq_delimit c (filled also), identifier_plain retraceable.plain,
    identifier_plain also.plain] at same
  rw [← retraceable.lower_fold, ← also.lower_fold, delimit_injective same]

/-- The target has a column for every identifier that the source declares, and no other one. -/
def Redeclares (c : Compiler) (source target : Table) : Prop :=
  ∀ name, name ∈ target.columns.map (·.name) ↔ name ∈ source.columns.map fun column => c.identifier column.name

/-- Some declared identifier is a name but for its case. -/
def Recognises (c : Compiler) (source : Table) (name : String) : Prop :=
  ∃ other ∈ source.columns, Text.lower (c.identifier other.name) = Text.lower name

variable {source target : Table}

theorem Redeclares.column? (redeclares : c.Redeclares source target) (name : String) :
    (target.column? name).isSome ↔ c.Recognises source name := by
  simp only [Table.column?, List.find?_isSome, beq_iff_eq]
  constructor
  · intro found
    rcases found with ⟨twin, among, same⟩
    obtain ⟨other, member, declared⟩ := List.mem_map.mp ((redeclares twin.name).mp (List.mem_map_of_mem among))
    exact ⟨other, member, declared ▸ same⟩
  · intro recognised
    rcases recognised with ⟨other, member, same⟩
    obtain ⟨twin, among, declared⟩ := List.mem_map.mp
      ((redeclares (c.identifier other.name)).mpr (List.mem_map_of_mem member))
    exact ⟨twin, among, declared ▸ same⟩

/-- Blanks are no matter of case. -/
theorem not_recognises_blank {blank : Char} (blanks : Text.isBlankChar blank = true) (present : blank ∈ name.toList) :
    ¬c.Recognises source name := by
  intro recognised
  rcases recognised with ⟨other, _, same⟩
  have kept : blank ∈ (Text.lower name).toList := by
    rw [Text.lower, String.toList_ofList]
    exact (Text.blank_mem_lowerFrom blanks [] _).mpr present
  rw [← same, Text.lower, String.toList_ofList] at kept
  exact c.blank_not_mem_identifier blanks other.name ((Text.blank_mem_lowerFrom blanks [] _).mp kept)

theorem Retraceable.recognised {column : Column} (retraceable : c.Retraceable column.name)
    (member : column ∈ source.columns) : c.Recognises source column.name :=
  ⟨column, member, by rw [identifier_plain retraceable.plain, retraceable.lower_fold]⟩

end Compiler

theorem Table.column?_found {table : Table} {name : String} {twin : Column} (found : table.column? name = some twin) :
    twin ∈ table.columns ∧ Text.lower twin.name = Text.lower name := by
  have same := List.find?_some found
  exact ⟨List.mem_of_find?_eq_some found, beq_iff_eq.mp same⟩

namespace Mapping

variable {c : Compiler} {source target : Table} {mapping : FieldMapping}

theorem unmatchedNotes_eq_nil_iff :
    unmatchedNotes source target = [] ↔ ∀ column ∈ source.columns, (target.column? column.name).isSome := by
  rw [unmatchedNotes, List.map_eq_nil_iff, unmatched, List.filter_eq_nil_iff]
  simp [Option.isSome_iff_ne_none]

/-- One step of `ofTables`. -/
def addColumn (c : Compiler) (target : Table) (mapping : FieldMapping) (column : Column) : FieldMapping :=
  match target.column? column.name with
  | some twin => putEntry (Text.lower column.name) (c.wrap twin.name) mapping
  | none => mapping

/-- The target column of a name, as it is written. -/
def written? (c : Compiler) (target : Table) (name : String) : Option String :=
  (target.column? name).map fun twin => c.wrap twin.name

theorem lookup_addColumn (column : Column) (name : String) :
    (addColumn c target mapping column).lookup (Text.lower name) =
      if Text.lower name = Text.lower column.name then (written? c target name).or (mapping.lookup (Text.lower name))
      else mapping.lookup (Text.lower name) := by
  by_cases same : Text.lower name = Text.lower column.name
  · have twins : target.column? column.name = target.column? name := by rw [Table.column?, Table.column?, same]
    rw [if_pos same, addColumn, written?, twins]
    cases target.column? name with
    | none => rfl
    | some twin => simp [lookup_putEntry, same]
  · rw [if_neg same, addColumn]
    cases target.column? column.name with
    | none => rfl
    | some twin => simp [lookup_putEntry, same]

/-- Once a name is mapped, further columns do not change that. -/
theorem lookup_foldl_addColumn (columns : List Column) {name : String}
    (settled : mapping.lookup (Text.lower name) = written? c target name) :
    (columns.foldl (addColumn c target) mapping).lookup (Text.lower name) = written? c target name := by
  induction columns generalizing mapping with
  | nil => exact settled
  | cons head tail ih =>
      apply ih
      rw [lookup_addColumn, settled, Option.or_self, ite_self]

/-- A column is mapped to the one that the target has of its name. -/
theorem lookup_ofTables {column : Column} (member : column ∈ source.columns) :
    (ofTables c source target).lookup (Text.lower column.name) = written? c target column.name := by
  change (source.columns.foldl (addColumn c target) []).lookup _ = _
  cases unwritten : written? c target column.name with
  | none =>
      rw [← unwritten]
      apply lookup_foldl_addColumn
      rw [unwritten]
      rfl
  | some written =>
      obtain ⟨front, back, columns⟩ := List.append_of_mem member
      rw [columns, List.foldl_append, List.foldl_cons, ← unwritten]
      apply lookup_foldl_addColumn
      rw [lookup_addColumn, if_pos rfl, unwritten]
      rfl

/-- A value without a target column is left out. -/
theorem mapRow_skips {name : String} (absent : mapping.lookup (Text.lower name) = none) (before after : Row)
    (value : Value) : mapRow mapping (before ++ (name, value) :: after) = mapRow mapping (before ++ after) := by
  simp only [mapRow_eq, List.foldl_append, List.foldl_cons, mapField, absent]

/-- Values with target columns of their own are all kept. -/
theorem mapRow_all {row : Row} {written : String → String}
    (found : ∀ name ∈ row.names, mapping.lookup (Text.lower name) = some (written name))
    (distinct : (row.names.map written).Nodup) :
    mapRow mapping row = row.map fun field => (written field.1, field.2) := by
  have named : (row.names.filterMap fun name => mapping.lookup (Text.lower name)) = row.names.map written := by
    rw [← List.filterMap_eq_map]
    exact List.filterMap_congr found
  rw [mapRow_eq_filterMap (named ▸ distinct), ← List.filterMap_eq_map]
  apply List.filterMap_congr
  intro field member
  rw [found field.1 (List.mem_map_of_mem member)]
  rfl

/-- Names that folding changes in case only, and that differ in more than case, are found by themselves. -/
theorem written?_redeclared {column : Column} (redeclares : c.Redeclares source target)
    (member : column ∈ source.columns) (retraceable : ∀ column ∈ source.columns, c.Retraceable column.name)
    (distinct : (source.columns.map fun column => Text.lower column.name).Nodup) :
    written? c target column.name = some (c.wrap column.name) := by
  have own := retraceable column member
  have present := (redeclares.column? column.name).mpr (own.recognised member)
  obtain ⟨twin, found⟩ := Option.isSome_iff_exists.mp present
  obtain ⟨listed, twin_lower⟩ := Table.column?_found found
  obtain ⟨other, among, declared⟩ := List.mem_map.mp ((redeclares twin.name).mp (List.mem_map_of_mem listed))
  have also := retraceable other among
  have same_lower : Text.lower other.name = Text.lower column.name := by
    rw [← also.lower_fold, ← Compiler.identifier_plain also.plain, declared, twin_lower]
  have same : other = column := List.inj_on_of_nodup_map distinct among member same_lower
  rw [written?, found, Option.map_some, ← declared, same, own.wrap_identifier]

/-- The copy finds every column whose name is one of the declared identifiers but for its case. All values of other
columns are left out, and every column with a blank in its name is among those. If folding changes no name in lower
case, then no column is missing, and if these names differ in more than case, every value is copied. Folding does not
change plain names in lower case, unless it is to upper case and the name is not ASCII. -/
theorem unmatched_redeclared_iff (redeclares : c.Redeclares source target) :
    (unmatchedNotes source target = [] ↔ ∀ column ∈ source.columns, c.Recognises source column.name) ∧
    (∀ column ∈ source.columns, ¬c.Recognises source column.name → ∀ before value after,
      mapRow (ofTables c source target) (before ++ (column.name, value) :: after) =
        mapRow (ofTables c source target) (before ++ after)) ∧
    (∀ column ∈ source.columns, ∀ blank ∈ column.name.toList, Text.isBlankChar blank = true →
      ¬c.Recognises source column.name) ∧
    ((∀ column ∈ source.columns, c.Retraceable column.name) →
      unmatchedNotes source target = [] ∧
        ((source.columns.map fun column => Text.lower column.name).Nodup →
          ∀ row : Row, row.names = source.columns.map (·.name) →
            mapRow (ofTables c source target) row = row.map fun field => (c.wrap field.1, field.2))) ∧
    (∀ name, Text.Plain name → name ≠ "" → (c.engine.caseRule = .upper → Text.IsAscii name.toList) →
      c.Retraceable name) := by
  have notes : unmatchedNotes source target = [] ↔
      ∀ column ∈ source.columns, c.Recognises source column.name := by
    rw [unmatchedNotes_eq_nil_iff]
    simp only [redeclares.column?]
  refine ⟨notes, ?lost, ?blanks, ?copied, fun name => Compiler.retraceable_of_plain⟩
  case lost =>
    intro column member unrecognised before value after
    apply mapRow_skips
    rw [lookup_ofTables member, written?, Option.map_eq_none_iff, ← Option.not_isSome_iff_eq_none,
      redeclares.column?]
    exact unrecognised
  case blanks =>
    intro column _ blank present blanks
    exact Compiler.not_recognises_blank blanks present
  case copied =>
    intro retraceable
    refine ⟨notes.mpr fun column member => (retraceable column member).recognised member, ?_⟩
    intro distinct row names
    apply mapRow_all
    · intro name among
      rw [names] at among
      obtain ⟨column, member, rfl⟩ := List.mem_map.mp among
      rw [lookup_ofTables member, written?_redeclared redeclares member retraceable distinct]
    · rw [names, List.map_map, List.Nodup, List.pairwise_map]
      apply (List.pairwise_map.mp distinct).imp_of_mem
      intro one other member also differ same
      exact differ ((retraceable one member).lower_eq (retraceable other also) same)

def mixedCase : Table :=
  { name := "people"
    columns := [{ name := "Id", typeName := some "INTEGER", category := .integer },
      { name := "firstName", typeName := some "VARCHAR", category := .varchar }] }

theorem unmatched_redeclared_iff_mixedCase :
    let folded : Table :=
      { name := "people"
        columns := [{ name := "id", typeName := some "INTEGER", category := .integer },
          { name := "firstname", typeName := some "VARCHAR", category := .varchar }] }
    unmatchedNotes mixedCase folded = [] ∧ ∀ number name : Value,
      mapRow (ofTables { engine := .postgresql, config := none } mixedCase folded)
        [("Id", number), ("firstName", name)] = [("\"id\"", number), ("\"firstname\"", name)] := by
  intro folded
  let c : Compiler := { engine := .postgresql, config := none }
  have redeclares : c.Redeclares mixedCase folded := by
    have names : folded.columns.map (·.name) = mixedCase.columns.map fun column => c.identifier column.name := by
      decide +kernel
    intro name
    rw [names]
  have retraceable : ∀ column ∈ mixedCase.columns, c.Retraceable column.name := by
    intro column member
    have plain : ∀ column ∈ mixedCase.columns, Text.Plain column.name ∧ column.name ≠ "" := by decide
    exact Compiler.retraceable_of_plain (plain column member).1 (plain column member).2 nofun
  obtain ⟨none, copies⟩ := (unmatched_redeclared_iff redeclares).2.2.2.1 retraceable
  refine ⟨none, ?_⟩
  intro number name
  have written : c.wrap "Id" = "\"id\"" ∧ c.wrap "firstName" = "\"firstname\"" := by decide +kernel
  rw [copies (by decide +kernel) [("Id", number), ("firstName", name)] rfl, ← written.1, ← written.2]
  rfl

/-- A name with a blank is declared without it and not found again. -/
theorem unmatched_spaced_name :
    let c : Compiler := { engine := .sqlite, config := none }
    let source : Table :=
      { name := "people"
        columns := [{ name := "id", typeName := some "INTEGER", category := .integer },
          { name := "first name", typeName := some "VARCHAR", category := .varchar }] }
    let target : Table :=
      { name := "people"
        columns := [{ name := "id", typeName := some "INTEGER", category := .integer },
          { name := "firstname", typeName := some "VARCHAR", category := .varchar }] }
    source.columns.map (fun column => c.wrap column.name) = ["\"id\"", "\"firstname\""] ∧
    target.columns.map (·.name) = source.columns.map (fun column => c.identifier column.name) ∧
    unmatchedNotes source target = [⟨.warning,
      "Table[people] column first name has no match in target, its values will not be copied"⟩] ∧
    ∀ number name : Value, mapRow (ofTables c source target) [("id", number), ("first name", name)] =
      [("\"id\"", number)] := by
  intro c source target
  refine ⟨by decide +kernel, by decide +kernel, by decide +kernel, ?_⟩
  intro number name
  have kept : (ofTables c source target).lookup (Text.lower "id") = some "\"id\"" := by decide +kernel
  have lost : (ofTables c source target).lookup (Text.lower "first name") = none := by decide +kernel
  simp only [mapRow_eq, List.foldl_cons, List.foldl_nil, mapField, kept, lost, Fields.put]

end Mapping

end TableFerry
