import Mathlib.Data.List.Nodup
import TableFerry.Proofs.TableStatements
/-! Where a script defines the primary key. Four hooks write it, behind a column, behind all columns or in a statement
of its own, and each looks at other data of the table; but in every dialect and for every key exactly one of them
writes, and what it writes covers the columns of the key. -/

namespace TableFerry

theorem Text.joinWith_concat {separator last : String} {parts : List String} (some_part : parts ≠ []) :
    joinWith separator (parts ++ [last]) = joinWith separator parts ++ separator ++ last := by
  induction parts with
  | nil => exact absurd rfl some_part
  | cons head tail ih =>
      cases tail with
      | nil => rfl
      | cons next rest =>
          have joined := ih (List.cons_ne_nil _ _)
          simp only [List.cons_append, joinWith, String.append_assoc] at joined ⊢
          rw [joined]

namespace Table

theorem firstRepeated_eq_none {seen names : List String} (fresh : firstRepeated? seen names = none) :
    names.Nodup ∧ ∀ name ∈ names, name ∉ seen := by
  induction names generalizing seen with
  | nil => exact ⟨List.nodup_nil, nofun⟩
  | cons head tail ih =>
      rw [firstRepeated?] at fresh
      split at fresh
      · cases fresh
      · rename_i unseen
        obtain ⟨distinct, apart⟩ := ih fresh
        rw [List.contains_iff_mem] at unseen
        refine ⟨List.nodup_cons.mpr ⟨fun later => apart head later List.mem_cons_self, distinct⟩, ?_⟩
        intro name member
        rcases List.mem_cons.mp member with rfl | later
        · exact unseen
        · exact fun among => apart name later (List.mem_cons_of_mem _ among)

/-- No two columns of a checked table have one name. -/
theorem nodup_of_checked {table checked : Table} (passed : table.checked = .ok checked) :
    (table.columns.map (·.name)).Nodup := by
  unfold Table.checked at passed
  split at passed
  · cases passed
  · rename_i fresh
    exact (firstRepeated_eq_none fresh).1

end Table

namespace Drafting

variable {α : Type}

theorem gives_lift (result : Except Fault α) : Gives (fun value => result = .ok value) (liftM result) := by
  intro draft value given
  cases result with
  | error fault => cases given
  | ok own => exact given

end Drafting

namespace Compiler

open Text (Opens)

variable (c : Compiler)

/-- The definition of a column of some type, without a mark of the key. -/
def columnEntry (column : Column) (type : String) : String :=
  let default := Literal.defaultValue column
  Text.joinWith " " ([
    c.wrap column.name,
    type,
    if default = "" then "" else "DEFAULT " ++ default,
    if column.nullable then "NULL" else "NOT NULL",
    if c.engine.commentPlace == .inside && !isBlankOption column.comment then c.inlineColumnComment column
    else ""].filter (· ≠ ""))

/-- Whether a column takes NULL is never left out. -/
theorem filled_nullability (front back : List String) (nullable : Bool) :
    (front ++ (if nullable then "NULL" else "NOT NULL") :: back).filter (· ≠ "") ≠ [] := by
  apply List.ne_nil_of_mem (a := if nullable then "NULL" else "NOT NULL")
  apply List.mem_filter.mpr
  refine ⟨by simp, ?_⟩
  cases nullable <;> rfl

/-- A definition with a mark behind it, if there is one. -/
def marked (entry mark : String) : String := if mark = "" then entry else entry ++ " " ++ mark

theorem gives_columnDdl_marked (column : Column) (table : Table) :
    (c.columnDdl column table).Gives fun entry => ∃ type, c.mapType column = .ok type ∧
      entry = marked (c.columnEntry column type) (c.keyModifier column table) := by
  unfold columnDdl
  refine (Drafting.gives_lift (c.mapType column)).bind ?_
  intro type mapped
  refine Drafting.gives_pure ⟨type, mapped, ?_⟩
  rw [marked, columnEntry]
  generalize c.wrap column.name = name, Literal.defaultValue column = default, c.keyModifier column table = mark
  generalize (if c.engine.commentPlace == .inside && !isBlankOption column.comment then c.inlineColumnComment column
    else "") = comment
  have split : [name, type, if default = "" then "" else "DEFAULT " ++ default,
      if column.nullable then "NULL" else "NOT NULL", comment, mark] =
    [name, type, if default = "" then "" else "DEFAULT " ++ default,
      if column.nullable then "NULL" else "NOT NULL", comment] ++ [mark] := rfl
  rw [split, List.filter_append, List.filter_singleton]
  by_cases unmarked : mark = ""
  · simp only [unmarked, ne_eq, not_true_eq_false, decide_false, cond_false, List.append_nil, if_true]
  · rw [decide_eq_true unmarked, if_neg unmarked]
    apply Text.joinWith_concat
    exact filled_nullability [name, type, if default = "" then "" else "DEFAULT " ++ default] [comment] column.nullable

/-- Where and how a script defines the primary key of a table. -/
inductive KeyDefinition where
  | behind (column text : String)
  | entry (text : String)
  | statement (text : String)
  deriving DecidableEq, Repr

/-- A text that says last that a key follows, or that what stands before it is one. -/
def MarksKey (text : String) : Prop := ∃ front, text = front ++ "PRIMARY KEY" ∨ text = front ++ "primary key"

/-- A definition covers the columns of the key: the only one, or all of them as a list in their order. -/
def KeyDefinition.Covers (table : Table) : KeyDefinition → Prop
  | .behind column text => table.keyNames = [column] ∧ MarksKey text
  | .entry text => ∃ front separator, MarksKey front ∧ separator ∈ [",", ", "] ∧
      text = front ++ " (" ++ c.keyList separator table ++ ")"
  | .statement text => ∃ front separator, MarksKey front ∧ separator ∈ [",", ", "] ∧
      Opens ("ALTER TABLE " ++ c.qualify table.name ++ " ADD ") front ∧
      text = front ++ " (" ++ c.keyList separator table ++ ")"

/-- A script that creates a table, in the pieces between which a key may be defined. -/
structure KeylessScript where
  opening : String
  columns : List (String × String)
  closing : String
  others : List String

/-- The statements of a script with a definition of the key, if there is one. -/
def KeylessScript.write (script : KeylessScript) (key? : Option KeyDefinition) : List String :=
  let create (entries : List String) := script.opening ++ Text.joinWith ", " entries ++ script.closing
  let plain := script.columns.map (·.2)
  match key? with
  | none => create plain :: script.others
  | some (.behind name text) =>
    create (script.columns.map fun column => if column.1 = name then column.2 ++ " " ++ text else column.2) ::
      script.others
  | some (.entry text) => create (plain ++ [text]) :: script.others
  | some (.statement text) => create plain :: script.others ++ [text]

/-- The pieces are those of a table, and none of them regards the key. -/
structure KeylessScript.Describes (table : Table) (script : KeylessScript) : Prop where
  opening : script.opening = c.creation table
  columns : List.Forall₂ (fun column entry => ∃ type, c.mapType column = .ok type ∧
    entry = (column.name, c.columnEntry column type)) table.columns script.columns
  closing : ∃ place, script.closing = ")" ++
    (if c.engine.commentPlace == .inside && !isBlankOption table.comment then " " ++ c.inlineTableComment table
    else "") ++ place
  others : ∀ sql ∈ script.others, kind? sql = some .createIndex ∨ kind? sql = some .comment ∨
    kind? sql = some .searchIndex

/-- The one definition of the key that a dialect writes. -/
def keyDefinition? (table : Table) : Option KeyDefinition :=
  match table.keyNames with
  | [] => none
  | name :: more =>
    match c.engine with
    | .mysql | .sqlite => some (.entry ("PRIMARY KEY (" ++ c.keyList ", " table ++ ")"))
    | .sqlserver =>
      if more.isEmpty then some (.behind name "PRIMARY KEY")
      else some (.entry ("PRIMARY KEY (" ++ c.keyList ", " table ++ ")"))
    | .postgresql => some (.entry
        ("CONSTRAINT " ++ c.wrap (keyName table) ++ " PRIMARY KEY (" ++ c.keyList ", " table ++ ")"))
    | .vastbase => some (.entry
        ("CONSTRAINT " ++ c.wrap (table.name ++ "_pkey") ++ " PRIMARY KEY (" ++ c.keyList "," table ++ ")"))
    | .kingbase =>
      if more.isEmpty then some (.behind name ("constraint " ++ keyName table ++ " primary key"))
      else some (.entry ("constraint " ++ keyName table ++ " primary key (" ++ c.keyList ", " table ++ ")"))
    | .oracle => some (.statement
        ("ALTER TABLE " ++ c.qualify table.name ++ " ADD PRIMARY KEY (" ++ c.keyList "," table ++ ")"))

variable {c} {table : Table}

theorem keyDefinition_eq_none_iff : c.keyDefinition? table = none ↔ table.keyNames = [] := by
  unfold keyDefinition?
  cases table.keyNames with
  | nil => simp
  | cons name more => cases c.engine <;> cases more <;> simp

theorem keyDefinition_covers : ∀ key ∈ c.keyDefinition? table, key.Covers c table := by
  have cut {front back whole : String} (lead : String) (same : whole = front ++ back) :
      lead ++ whole = lead ++ front ++ back := by rw [same, String.append_assoc]
  have marks_upper (front : String) : MarksKey (front ++ " PRIMARY KEY") :=
    ⟨front ++ " ", Or.inl (cut front (by decide))⟩
  have marks_lower (front : String) : MarksKey (front ++ " primary key") :=
    ⟨front ++ " ", Or.inr (cut front (by decide))⟩
  have bare : KeyDefinition.Covers c table (.entry ("PRIMARY KEY (" ++ c.keyList ", " table ++ ")")) :=
    ⟨"PRIMARY KEY", ", ", ⟨"", Or.inl rfl⟩, by simp, rfl⟩
  have named (name separator : String) (among : separator ∈ [",", ", "]) : KeyDefinition.Covers c table
      (.entry ("CONSTRAINT " ++ name ++ " PRIMARY KEY (" ++ c.keyList separator table ++ ")")) :=
    ⟨"CONSTRAINT " ++ name ++ " PRIMARY KEY", separator, marks_upper _, among,
      congrArg (· ++ _ ++ _) (cut _ (by decide))⟩
  intro key defined
  unfold keyDefinition? at defined
  cases names : table.keyNames with
  | nil =>
      rw [names] at defined
      cases defined
  | cons name more =>
      rw [names] at defined
      cases engine : c.engine with
      | mysql | sqlite =>
          rw [engine] at defined
          cases defined
          exact bare
      | sqlserver =>
          rw [engine] at defined
          cases more with
          | nil =>
              cases defined
              exact ⟨names, "", Or.inl rfl⟩
          | cons _ _ =>
              cases defined
              exact bare
      | postgresql =>
          rw [engine] at defined
          cases defined
          exact named _ ", " (by simp)
      | vastbase =>
          rw [engine] at defined
          cases defined
          exact named _ "," (by simp)
      | kingbase =>
          rw [engine] at defined
          cases more with
          | nil =>
              cases defined
              exact ⟨names, marks_lower _⟩
          | cons _ _ =>
              cases defined
              exact ⟨"constraint " ++ keyName table ++ " primary key", ", ", marks_lower _, by simp,
                congrArg (· ++ _ ++ _) (cut _ (by decide))⟩
      | oracle =>
          rw [engine] at defined
          cases defined
          let altering := "ALTER TABLE " ++ c.qualify table.name
          have marks : altering ++ " ADD PRIMARY KEY" = altering ++ " ADD " ++ "PRIMARY KEY" := cut _ (by decide)
          exact ⟨altering ++ " ADD PRIMARY KEY", ",", ⟨_, Or.inl marks⟩, by simp, ⟨_, marks⟩,
            congrArg (· ++ _ ++ _) (cut _ (by decide))⟩

theorem tableConstraints_eq : c.tableConstraints table =
    match c.keyDefinition? table with
    | some (.entry text) => [text]
    | _ => [] := by
  unfold tableConstraints keyDefinition?
  cases table.keyNames with
  | nil => cases c.engine <;> rfl
  | cons name more => cases c.engine <;> cases more <;> simp

theorem deferredKey_eq : c.deferredKey table =
    match c.keyDefinition? table with
    | some (.statement text) => [text]
    | _ => [] := by
  unfold deferredKey keyDefinition?
  cases table.keyNames with
  | nil => cases c.engine <;> rfl
  | cons name more => cases c.engine <;> cases more <;> simp

theorem keyModifier_eq {column : Column} (flagged : column.isKey = table.keyNames.contains column.name) :
    c.keyModifier column table =
      match c.keyDefinition? table with
      | some (.behind name text) => if column.name = name then text else ""
      | _ => "" := by
  unfold keyModifier keyDefinition?
  rw [flagged]
  cases table.keyNames with
  | nil => cases c.engine <;> rfl
  | cons name more => cases c.engine <;> cases more <;> simp

theorem MarksKey.ne_empty {text : String} (marks : MarksKey text) : text ≠ "" := by
  rcases marks with ⟨front, rfl | rfl⟩ <;> simp

theorem marked_behind {text : String} (filled : text ≠ "") (entry name own : String) :
    marked entry (if name = own then text else "") = if name = own then entry ++ " " ++ text else entry := by
  split
  · exact if_neg filled
  · exact if_pos rfl

/-- What a definition of the key puts behind the column of a name. -/
def markBehind (key? : Option KeyDefinition) (name : String) : String :=
  match key? with
  | some (.behind own text) => if name = own then text else ""
  | _ => ""

theorem gives_tablespaceText : c.tablespaceText.Gives fun place => place = "" ∨ Opens " " place := by
  unfold tablespaceText
  split
  · exact Drafting.gives_pure (Or.inl rfl)
  · split
    · exact Drafting.gives_pure (Or.inl rfl)
    · split
      · exact Drafting.gives_pure (Or.inr (Text.opens_append _ _))
      · exact nofun

theorem gives_structureDdl_pieces : (c.structureDdl table).Gives fun head => ∃ entries place,
    List.Forall₂ (fun column entry => ∃ type, c.mapType column = .ok type ∧
      entry = marked (c.columnEntry column type) (c.keyModifier column table)) table.columns entries ∧
    (place = "" ∨ Opens " " place) ∧
    head = c.creation table ++ Text.joinWith ", " (entries ++ c.tableConstraints table) ++ (")" ++
      (if c.engine.commentPlace == .inside && !isBlankOption table.comment then " " ++ c.inlineTableComment table
      else "") ++ place) := by
  unfold structureDdl
  cases table.isPresent with
  | false => exact Drafting.gives_throw_bind _ _
  | true =>
      refine (Drafting.gives_mapM_forall₂ fun column _ => c.gives_columnDdl_marked column table).bind ?_
      intro entries written
      refine gives_tablespaceText.bind ?_
      intro place behind
      refine Drafting.gives_pure ⟨entries, place, written, behind, ?_⟩
      simp only [creation, String.append_assoc]

/-- Definitions with marks that depend on the names of their columns only are definitions without, marked by name. -/
theorem exists_unmarked {mark : String → String} {columns : List Column} {entries : List String}
    (marks : ∀ column ∈ columns, c.keyModifier column table = mark column.name)
    (written : List.Forall₂ (fun column entry => ∃ type, c.mapType column = .ok type ∧
      entry = marked (c.columnEntry column type) (c.keyModifier column table)) columns entries) :
    ∃ named : List (String × String), List.Forall₂ (fun column entry => ∃ type, c.mapType column = .ok type ∧
      entry = (column.name, c.columnEntry column type)) columns named ∧
      entries = named.map fun entry => marked entry.2 (mark entry.1) := by
  induction written with
  | nil => exact ⟨[], .nil, rfl⟩
  | @cons column entry columns entries own _ ih =>
      obtain ⟨type, mapped, rfl⟩ := own
      obtain ⟨named, described, rfl⟩ := ih fun other member => marks other (List.mem_cons_of_mem _ member)
      refine ⟨(column.name, c.columnEntry column type) :: named, .cons ⟨type, mapped, rfl⟩ described, ?_⟩
      rw [marks column List.mem_cons_self]
      rfl

theorem gives_createDdl_script
    (flagged : ∀ column ∈ table.columns, column.isKey = table.keyNames.contains column.name) :
    (c.createDdl table).Gives fun statements =>
      ∃ script, KeylessScript.Describes c table script ∧ statements = script.write (c.keyDefinition? table) := by
  intro draft statements given
  obtain ⟨head, indexes, searches, rfl, ⟨entries, place, written, _, rfl⟩, indexes_kind, searches_kind⟩ :=
    c.gives_createDdl_parts table gives_structureDdl_pieces draft statements given
  have marks (column : Column) (member : column ∈ table.columns) :
      c.keyModifier column table = markBehind (c.keyDefinition? table) column.name :=
    keyModifier_eq (flagged column member)
  obtain ⟨named, described, rfl⟩ := exists_unmarked marks written
  let script : KeylessScript :=
    { opening := c.creation table
      columns := named
      closing := ")" ++ (if c.engine.commentPlace == .inside && !isBlankOption table.comment then
        " " ++ c.inlineTableComment table else "") ++ place
      others := indexes ++ c.commentDdl table ++ searches }
  have others_kind : ∀ sql ∈ script.others, kind? sql = some .createIndex ∨ kind? sql = some .comment ∨
      kind? sql = some .searchIndex := by
    intro sql member
    rcases List.mem_append.mp member with early | ofSearch
    · rcases List.mem_append.mp early with ofIndex | ofComment
      · exact Or.inl (indexes_kind sql ofIndex)
      · exact Or.inr (Or.inl (c.commentDdl_kind table sql ofComment))
    · exact Or.inr (Or.inr (searches_kind sql ofSearch))
  refine ⟨script, ⟨rfl, described, ⟨place, rfl⟩, others_kind⟩, ?_⟩
  rw [tableConstraints_eq, deferredKey_eq]
  have covers : ∀ key ∈ c.keyDefinition? table, key.Covers c table := keyDefinition_covers
  cases defined : c.keyDefinition? table with
  | none => simp [KeylessScript.write, script, markBehind, marked]
  | some key =>
      cases key with
      | behind own text =>
          have filled : text ≠ "" := (covers _ defined).2.ne_empty
          simp [KeylessScript.write, script, markBehind, marked_behind filled]
      | entry text => simp [KeylessScript.write, script, markBehind, marked]
      | statement text => simp [KeylessScript.write, script, markBehind, marked]

/-- How many definitions of the key there are: marks behind columns, entries behind all of them, and statements that
alter a table. -/
def keyCount (c : Compiler) (table : Table) (statements : List String) : Nat :=
  table.columns.countP (fun column => c.keyModifier column table ≠ "") + (c.tableConstraints table).length +
    statements.countP fun sql => kind? sql = some .alterTable

theorem countP_marked (checked : table.checked = .ok table)
    (listed : ∀ name ∈ table.keyNames, name ∈ table.columns.map (·.name))
    (flagged : ∀ column ∈ table.columns, column.isKey = table.keyNames.contains column.name) :
    table.columns.countP (fun column => c.keyModifier column table ≠ "") =
      match c.keyDefinition? table with
      | some (.behind _ _) => 1
      | _ => 0 := by
  have marks (column : Column) (member : column ∈ table.columns) :
      c.keyModifier column table = markBehind (c.keyDefinition? table) column.name :=
    keyModifier_eq (flagged column member)
  have unmarked (plain : ∀ name, markBehind (c.keyDefinition? table) name = "") :
      table.columns.countP (fun column => c.keyModifier column table ≠ "") = 0 := by
    apply List.countP_eq_zero.mpr
    intro column member
    rw [marks column member, plain]
    simp
  cases defined : c.keyDefinition? table with
  | none => exact unmarked fun name => by rw [defined]; rfl
  | some key =>
      cases key with
      | behind own text =>
          obtain ⟨only, marks_key⟩ := keyDefinition_covers _ defined
          have named : own ∈ table.columns.map (·.name) := listed own (only ▸ List.mem_cons_self)
          have at_own : ∀ column ∈ table.columns,
              decide (c.keyModifier column table ≠ "") = (column.name == own) := by
            intro column member
            rw [marks column member, defined, markBehind]
            by_cases same : column.name = own
            · simp [same, marks_key.ne_empty]
            · simp [same]
          calc
            table.columns.countP (fun column => c.keyModifier column table ≠ "")
              = table.columns.countP fun column => column.name == own :=
                List.countP_congr fun column member => by rw [at_own column member]
            _ = (table.columns.map (·.name)).count own := by rw [List.count, List.countP_map]; rfl
            _ = 1 := List.count_eq_one_of_mem (Table.nodup_of_checked checked) named
      | entry text => exact unmarked fun name => by rw [defined]; rfl
      | statement text => exact unmarked fun name => by rw [defined]; rfl

theorem KeylessScript.Describes.countP_altering {script : KeylessScript} (describes : script.Describes c table) :
    (script.write (c.keyDefinition? table)).countP (fun sql => kind? sql = some .alterTable) =
      match c.keyDefinition? table with
      | some (.statement _) => 1
      | _ => 0 := by
  have created (entries : List String) :
      kind? (script.opening ++ Text.joinWith ", " entries ++ script.closing) = some .createTable := by
    rw [describes.opening]
    exact c.creation_kind table (((Text.opens_append (c.creation table) _).append _))
  have others : script.others.countP (fun sql => kind? sql = some .alterTable) = 0 := by
    apply List.countP_eq_zero.mpr
    intro sql member
    rcases describes.others sql member with kind | kind | kind <;> simp [kind]
  have deferred := c.deferredKey_kind table
  rw [deferredKey_eq] at deferred
  cases defined : c.keyDefinition? table with
  | none => simp [write, created, others]
  | some key =>
      rw [defined] at deferred
      cases key with
      | behind own text => simp [write, created, others]
      | entry text => simp [write, created, others]
      | statement text => simp [write, created, others, deferred text List.mem_cons_self]

/-- The statements that create a table define its primary key once if it has one, and otherwise not at all: they are
pieces that do not regard the key, with one definition put between them that covers the columns of the key. -/
theorem createDdl_definesKey (c : Compiler) (table : Table) (checked : table.checked = .ok table)
    (listed : ∀ name ∈ table.keyNames, name ∈ table.columns.map (·.name))
    (flagged : ∀ column ∈ table.columns, column.isKey = table.keyNames.contains column.name) :
    ((c.createDdl table).Gives fun statements =>
      (∃ script, KeylessScript.Describes c table script ∧ statements = script.write (c.keyDefinition? table)) ∧
      c.keyCount table statements = if table.keyNames = [] then 0 else 1) ∧
    (c.keyDefinition? table = none ↔ table.keyNames = []) ∧
    (∀ key ∈ c.keyDefinition? table, key.Covers c table) ∧
    (table.isPresent = true → (∀ column ∈ table.columns, ∃ type, c.mapType column = .ok type) → c.PlacesByText →
      (c.createDdl table).Succeeds) := by
  refine ⟨?_, keyDefinition_eq_none_iff, keyDefinition_covers, succeeds_createDdl⟩
  intro draft statements given
  obtain ⟨script, describes, rfl⟩ := gives_createDdl_script flagged draft statements given
  refine ⟨⟨script, describes, rfl⟩, ?_⟩
  rw [keyCount, countP_marked checked listed flagged, describes.countP_altering, tableConstraints_eq]
  cases defined : c.keyDefinition? table with
  | none => rw [if_pos (keyDefinition_eq_none_iff.mp defined)]; rfl
  | some key =>
      have keyed : table.keyNames ≠ [] := by
        intro none
        rw [keyDefinition_eq_none_iff.mpr none] at defined
        cases defined
      rw [if_neg keyed]
      cases key <;> rfl

/-- A table whose key lists its columns in another order. -/
def shipments : Table :=
  { name := "shipments"
    columns := [{ name := "id", typeName := some "INTEGER", category := .integer, nullable := false, isKey := true },
      { name := "region", typeName := some "VARCHAR", category := .varchar, nullable := false, isKey := true },
      { name := "weight", typeName := some "INTEGER", category := .integer }]
    keyNames := ["region", "id"] }

theorem createDdl_definesKey_shipments :
    let c : Compiler := { engine := .kingbase, config := none }
    (c.createDdl shipments).Succeeds ∧
    ((c.createDdl shipments).Gives fun statements => c.keyCount shipments statements = 1) ∧
    c.keyDefinition? shipments =
      some (.entry "constraint shipments_pkey primary key (\"region\", \"id\")") := by
  intro c
  obtain ⟨defines, _, _, compiles⟩ := createDdl_definesKey c shipments rfl (by decide) (by decide)
  refine ⟨compiles rfl (fun column _ => ⟨_, rfl⟩) nofun, ?_, by decide +kernel⟩
  exact fun draft statements given => (defines draft statements given).2

end Compiler

end TableFerry
