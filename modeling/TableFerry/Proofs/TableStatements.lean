import Mathlib.Data.List.Forall2
import TableFerry.Dialect.Ddl
/-! The statements that create and that drop a table. The first one that creates it names the table, and of
those that drop it only the last does; all others leave every table where it is. Each statement is of a kind that its
first words tell, and a table with columns gets its statements whenever its columns have types. -/

namespace TableFerry

namespace Text

/-- Whether a text is `front` and something behind it. -/
def Opens (front s : String) : Prop := ∃ rest, s = front ++ rest

theorem opens_append (front rest : String) : Opens front (front ++ rest) := ⟨rest, rfl⟩

theorem Opens.append {front s : String} (opens : Opens front s) (rest : String) : Opens front (s ++ rest) := by
  rcases opens with ⟨middle, rfl⟩
  exact ⟨middle ++ rest, String.append_assoc⟩

theorem Opens.starts {front s : String} (opens : Opens front s) : hasStart s front = true := by
  rcases opens with ⟨rest, rfl⟩
  rw [hasStart, String.toList_append, List.isPrefixOf_iff_prefix]
  exact List.prefix_append _ _

theorem opens_of_hasStart {front s : String} (starts : hasStart s front = true) : Opens front s := by
  rw [hasStart, List.isPrefixOf_iff_prefix] at starts
  obtain ⟨rest, chars⟩ := starts
  refine ⟨String.ofList rest, String.toList_inj.mp ?_⟩
  rw [String.toList_append, String.toList_ofList, chars]

theorem isPrefixOf_append {start front rest : List Char}
    (starts : start.isPrefixOf (front ++ rest) = true) :
    start.isPrefixOf front = true ∨ front.isPrefixOf start = true := by
  induction start generalizing front with
  | nil => exact Or.inl (by cases front <;> rfl)
  | cons head tail ih =>
      cases front with
      | nil => exact Or.inr rfl
      | cons first more =>
          rw [List.cons_append, List.isPrefixOf_cons_cons, Bool.and_eq_true] at starts
          have same := beq_iff_eq.mp starts.1
          simp only [List.isPrefixOf_cons_cons, same, beq_self_eq_true, Bool.true_and]
          exact ih starts.2

/-- A text that opens otherwise has another start. -/
theorem Opens.not_hasStart {front start s : String} (opens : Opens front s)
    (apart : (start.toList.isPrefixOf front.toList || front.toList.isPrefixOf start.toList) = false) :
    hasStart s start = false := by
  rcases opens with ⟨rest, rfl⟩
  rw [Bool.or_eq_false_iff] at apart
  apply Bool.eq_false_iff.mpr
  intro starts
  rw [hasStart, String.toList_append] at starts
  rcases isPrefixOf_append starts with shorter | longer
  · rw [apart.1] at shorter
    cases shorter
  · rw [apart.2] at longer
    cases longer

theorem append_ne {front other : String} (rest more : String)
    (apart : (other.toList.isPrefixOf front.toList || front.toList.isPrefixOf other.toList) = false) :
    front ++ rest ≠ other ++ more := by
  intro same
  have starts := (opens_append other more).starts
  rw [← same, (opens_append front rest).not_hasStart apart] at starts
  cases starts

end Text

namespace Drafting

variable {α β : Type}

/-- Every value that the computation gives is good. -/
def Gives (good : α → Prop) (drafting : Drafting α) : Prop :=
  ∀ draft value, (drafting.run draft).1 = .ok value → good value

/-- The computation gives a value, whatever was drawn before. -/
def Succeeds (drafting : Drafting α) : Prop := ∀ draft, ∃ value after, drafting.run draft = (.ok value, after)

variable {good : α → Prop} {fine : β → Prop} {drafting : Drafting α}

theorem run_bind {next : α → Drafting β} {value : α} {before after : Draft}
    (ran : drafting.run before = (.ok value, after)) : (drafting >>= next).run before = (next value).run after := by
  change ExceptT.bindCont next (drafting.run before).1 (drafting.run before).2 = _
  rw [ran]
  rfl

theorem succeeds_pure (value : α) : (pure value : Drafting α).Succeeds := fun draft => ⟨value, draft, rfl⟩

theorem Succeeds.bind {next : α → Drafting β} (first : drafting.Succeeds)
    (then_ : ∀ value, (next value).Succeeds) : (drafting >>= next).Succeeds := by
  intro draft
  obtain ⟨value, after, ran⟩ := first draft
  obtain ⟨result, last, ran_next⟩ := then_ value after
  exact ⟨result, last, (run_bind ran).trans ran_next⟩

theorem succeeds_mapM {f : α → Drafting β} {items : List α} (each : ∀ item ∈ items, (f item).Succeeds) :
    (items.mapM f).Succeeds := by
  induction items with
  | nil => exact succeeds_pure []
  | cons head tail ih =>
      rw [List.mapM_cons]
      apply (each head List.mem_cons_self).bind
      intro value
      apply (ih fun item member => each item (List.mem_cons_of_mem _ member)).bind
      intro values
      exact succeeds_pure _

theorem gives_any (drafting : Drafting α) : drafting.Gives fun _ => True := fun _ _ _ => trivial

theorem gives_pure {value : α} (value_good : good value) : (pure value : Drafting α).Gives good := by
  intro draft _ same
  cases same
  exact value_good

theorem gives_throw_bind (fault : Fault) (next : β → Drafting α) :
    ((throw fault : Drafting β) >>= next).Gives good := nofun

theorem Gives.bind {next : α → Drafting β} (first : drafting.Gives good)
    (then_ : ∀ value, good value → (next value).Gives fine) : (drafting >>= next).Gives fine := by
  intro draft value given
  change (ExceptT.bindCont next (drafting.run draft).1 (drafting.run draft).2).1 = .ok value at given
  cases ran : (drafting.run draft).1 with
  | error fault =>
      rw [ran] at given
      cases given
  | ok middle =>
      rw [ran] at given
      exact then_ middle (first draft middle ran) _ value given

theorem exists_of_forall₂ {fits : α → β → Prop} {items : List α} {values : List β}
    (paired : List.Forall₂ fits items values) {item : α} (member : item ∈ items) :
    ∃ value ∈ values, fits item value := by
  induction paired with
  | nil => cases member
  | cons head_fits _ ih =>
      rcases List.mem_cons.mp member with rfl | later
      · exact ⟨_, List.mem_cons_self, head_fits⟩
      · obtain ⟨value, among, value_fits⟩ := ih later
        exact ⟨value, List.mem_cons_of_mem _ among, value_fits⟩

/-- The values stand in the order of the items that they were given for. -/
theorem gives_mapM_forall₂ {f : α → Drafting β} {fits : α → β → Prop} {items : List α}
    (each : ∀ item ∈ items, (f item).Gives (fits item)) : (items.mapM f).Gives (List.Forall₂ fits items) := by
  induction items with
  | nil => exact gives_pure .nil
  | cons head tail ih =>
      rw [List.mapM_cons]
      refine (each head List.mem_cons_self).bind ?_
      intro value value_fits
      refine (ih fun item member => each item (List.mem_cons_of_mem _ member)).bind ?_
      intro values values_fit
      exact gives_pure (.cons value_fits values_fit)

theorem gives_mapM {f : α → Drafting β} {items : List α} (each : ∀ item ∈ items, (f item).Gives fine) :
    (items.mapM f).Gives fun values => ∀ value ∈ values, fine value := by
  intro draft values given value member
  have turned : List.Forall₂ (flip fun _ value => fine value) values items :=
    (gives_mapM_forall₂ each draft values given).flip
  obtain ⟨_, _, value_fine⟩ := exists_of_forall₂ turned member
  exact value_fine

end Drafting

namespace Compiler

open Text (Opens opens_append)

def dropsTable (sql : String) : Bool := Text.hasStart sql "DROP TABLE "

def createsTable (sql : String) : Bool := Text.hasStart sql "CREATE TABLE "

/-- A statement that neither drops nor creates a table. -/
def LeavesTables (sql : String) : Prop := dropsTable sql = false ∧ createsTable sql = false

/-- Whether texts that open with `front` and with `start` are different ones. -/
def apart (front start : String) : Bool :=
  !(start.toList.isPrefixOf front.toList || front.toList.isPrefixOf start.toList)

theorem leavesTables {front sql : String} (opens : Opens front sql)
    (other : (apart front "DROP TABLE " && apart front "CREATE TABLE ") = true) : LeavesTables sql := by
  obtain ⟨drop, create⟩ := Bool.and_eq_true_iff.mp other
  exact ⟨opens.not_hasStart (Bool.not_eq_true' _ ▸ drop), opens.not_hasStart (Bool.not_eq_true' _ ▸ create)⟩

/-- What a statement of the compiler is for. -/
inductive StatementKind where
  | dropIndex
  | dropTable
  | createTable
  | createIndex
  | comment
  | searchIndex
  | alterTable
  deriving DecidableEq, Repr

/-- The words that statements open with. -/
def openings : List (String × StatementKind) :=
  [("DROP INDEX ", .dropIndex), ("DROP TABLE ", .dropTable), ("CREATE TABLE ", .createTable),
    ("CREATE INDEX ", .createIndex), ("CREATE UNIQUE INDEX ", .createIndex),
    ("COMMENT ON COLUMN ", .comment), ("COMMENT ON TABLE ", .comment),
    ("comment on column ", .comment), ("comment on table ", .comment),
    ("EXEC SP_ADDEXTENDEDPROPERTY 'MS_Description', ", .comment),
    ("CREATE SEARCH INDEX ", .searchIndex), ("ALTER TABLE ", .alterTable)]

/-- What a statement is for, by its first words. -/
def kind? (sql : String) : Option StatementKind :=
  (openings.find? fun opening => Text.hasStart sql opening.1).map (·.2)

theorem kind_of_opens {front sql : String} {kind : StatementKind} (listed : (front, kind) ∈ openings)
    (opens : Opens front sql) : kind? sql = some kind := by
  have distinct : ∀ one ∈ openings, ∀ other ∈ openings, one = other ∨ apart other.1 one.1 = true := by
    decide +kernel
  cases found : openings.find? fun opening => Text.hasStart sql opening.1 with
  | none => exact absurd opens.starts (List.find?_eq_none.mp found _ listed)
  | some opening =>
      rcases distinct opening (List.mem_of_find?_eq_some found) _ listed with same | other
      · rw [kind?, found, same]
        rfl
      · have started := List.find?_some found
        rw [opens.not_hasStart (Bool.not_eq_true' _ ▸ other)] at started
        cases started

/-- Only the statements of two kinds name a table that comes or goes. -/
theorem leavesTables_of_kind {sql : String} {kind : StatementKind} (known : kind? sql = some kind)
    (drops : kind ≠ .dropTable) (creates : kind ≠ .createTable) : LeavesTables sql := by
  have unstarted {front : String} {other : StatementKind} (listed : (front, other) ∈ openings)
      (differ : kind ≠ other) : Text.hasStart sql front = false := by
    apply Bool.eq_false_iff.mpr
    intro starts
    rw [kind_of_opens listed (Text.opens_of_hasStart starts)] at known
    exact differ (Option.some.inj known).symm
  exact ⟨unstarted (by decide) drops, unstarted (by decide) creates⟩

variable (c : Compiler) (table : Table)

/-- How the statement opens that creates a table. -/
def creation : String := "CREATE TABLE " ++ c.qualify table.name ++ " ("

theorem gives_structureDdl : (c.structureDdl table).Gives (Opens (c.creation table)) := by
  unfold structureDdl
  cases table.isPresent with
  | false => exact Drafting.gives_throw_bind _ _
  | true =>
      refine (Drafting.gives_any _).bind ?_
      intro columns _
      refine (Drafting.gives_any _).bind ?_
      intro tablespace _
      apply Drafting.gives_pure
      exact (((opens_append (c.creation table) _).append _).append _).append _

theorem creation_kind {sql : String} (opens : Opens (c.creation table) sql) : kind? sql = some .createTable := by
  rcases opens with ⟨rest, rfl⟩
  exact kind_of_opens (by decide) (((opens_append "CREATE TABLE " _).append _).append rest)

theorem gives_createIndexDdl (index : Index) :
    (c.createIndexDdl table index).Gives fun statement => ∀ sql ∈ statement, kind? sql = some .createIndex := by
  unfold createIndexDdl
  dsimp only
  split
  · exact Drafting.gives_pure nofun
  · refine (Drafting.gives_any _).bind ?_
    intro name _
    apply Drafting.gives_pure
    intro sql same
    cases same
    split
    · simp only [String.append_assoc]
      exact kind_of_opens (by decide) (opens_append "CREATE UNIQUE INDEX " _)
    · simp only [String.append_assoc]
      exact kind_of_opens (by decide) (opens_append "CREATE INDEX " _)

theorem columnComment_kind (column : Column) (written : c.columnCommentDdl table column ≠ "") :
    kind? (c.columnCommentDdl table column) = some .comment := by
  unfold columnCommentDdl at written ⊢
  cases engine : c.engine with
  | oracle => exact kind_of_opens (by decide) (((opens_append "COMMENT ON COLUMN " _).append _).append _)
  | kingbase => exact kind_of_opens (by decide) (((opens_append "comment on column " _).append _).append _)
  | postgresql =>
      simp only [String.append_assoc]
      exact kind_of_opens (by decide) (opens_append "COMMENT ON COLUMN " _)
  | sqlserver =>
      dsimp only [describeProperty]
      simp only [String.append_assoc]
      exact kind_of_opens (by decide +kernel) (opens_append "EXEC SP_ADDEXTENDEDPROPERTY 'MS_Description', " _)
  | _ =>
      rw [engine] at written
      exact absurd rfl written

theorem tableComment_kind (written : c.tableCommentDdl table ≠ "") :
    kind? (c.tableCommentDdl table) = some .comment := by
  unfold tableCommentDdl at written ⊢
  cases engine : c.engine with
  | oracle => exact kind_of_opens (by decide) (((opens_append "COMMENT ON TABLE " _).append _).append _)
  | kingbase => exact kind_of_opens (by decide) (((opens_append "comment on table " _).append _).append _)
  | postgresql => exact kind_of_opens (by decide) (((opens_append "COMMENT ON TABLE " _).append _).append _)
  | sqlserver =>
      dsimp only [describeProperty]
      simp only [String.append_assoc]
      exact kind_of_opens (by decide +kernel) (opens_append "EXEC SP_ADDEXTENDEDPROPERTY 'MS_Description', " _)
  | _ =>
      rw [engine] at written
      exact absurd rfl written

theorem commentDdl_kind : ∀ sql ∈ c.commentDdl table, kind? sql = some .comment := by
  unfold commentDdl
  split
  · intro sql member
    obtain ⟨among, filled⟩ := List.mem_filter.mp member
    have written : sql ≠ "" := of_decide_eq_true filled
    rcases List.mem_append.mp among with ofColumn | ofTable
    · obtain ⟨column, _, rfl⟩ := List.mem_map.mp ofColumn
      exact c.columnComment_kind table column written
    · split at ofTable
      · cases ofTable
      · rcases List.mem_singleton.mp ofTable with rfl
        exact c.tableComment_kind table written
  · exact nofun

theorem gives_searchIndexDdl (column : Column) :
    (c.searchIndexDdl table column).Gives fun sql => kind? sql = some .searchIndex := by
  have searches (name : String) : (pure ("CREATE SEARCH INDEX " ++ c.qualify (c.engine.indexPrefix ++ name) ++
      " ON " ++ c.qualify table.name ++ " (" ++ c.wrap column.name ++ ") FOR JSON") :
        Drafting String).Gives fun sql => kind? sql = some .searchIndex := by
    apply Drafting.gives_pure
    simp only [String.append_assoc]
    exact kind_of_opens (by decide) (opens_append "CREATE SEARCH INDEX " _)
  unfold searchIndexDdl
  dsimp only
  split
  · exact (Drafting.gives_any _).bind fun name _ => searches name
  · exact searches _

/-- The statement that puts a primary key on a table that exists, where a dialect writes one. -/
def deferredKey : List String :=
  if c.engine = .oracle ∧ table.keyNames ≠ [] then
    ["ALTER TABLE " ++ c.qualify table.name ++ " ADD PRIMARY KEY (" ++ c.keyList "," table ++ ")"]
  else []

theorem deferredKey_kind : ∀ sql ∈ c.deferredKey table, kind? sql = some .alterTable := by
  unfold deferredKey
  split
  · intro sql member
    rw [List.mem_singleton.mp member]
    simp only [String.append_assoc]
    exact kind_of_opens (by decide) (opens_append "ALTER TABLE " _)
  · exact nofun

theorem gives_afterwardsDdl {good : String → Prop}
    (searched : ∀ column ∈ table.columns, Text.lower (Text.strip column.typeText) = "json" →
      (c.searchIndexDdl table column).Gives good) :
    (c.afterwardsDdl table).Gives fun statements =>
      ∃ searches, statements = searches ++ c.deferredKey table ∧ ∀ sql ∈ searches, good sql := by
  unfold afterwardsDdl deferredKey
  cases c.engine with
  | oracle =>
      have key : (if table.keyNames.isEmpty then []
          else ["ALTER TABLE " ++ c.qualify table.name ++ " ADD PRIMARY KEY (" ++ c.keyList "," table ++ ")"]) =
          if Engine.oracle = .oracle ∧ table.keyNames ≠ [] then
            ["ALTER TABLE " ++ c.qualify table.name ++ " ADD PRIMARY KEY (" ++ c.keyList "," table ++ ")"]
          else [] := by
        cases table.keyNames <;> rfl
      cases c.searchesJson with
      | true =>
          have each : ∀ column ∈ table.columns.filter fun column => Text.lower (Text.strip column.typeText) == "json",
              (c.searchIndexDdl table column).Gives good := by
            intro column member
            obtain ⟨own, json⟩ := List.mem_filter.mp member
            exact searched column own (beq_iff_eq.mp json)
          refine (Drafting.gives_mapM each).bind ?_
          intro searches searches_good
          exact Drafting.gives_pure ⟨searches, congrArg _ key, searches_good⟩
      | false => exact Drafting.gives_pure ⟨[], key, nofun⟩
  | _ => exact Drafting.gives_pure ⟨[], rfl, nofun⟩

/-- The statement that creates a table comes first, then come indexes, comments, search indexes and the key. -/
theorem gives_createDdl_each {created searching : String → Prop} {made : Index → Option String → Prop}
    (head_created : (c.structureDdl table).Gives created)
    (indexed : ∀ index ∈ c.ownIndexes table, (c.createIndexDdl table index).Gives (made index))
    (searched : ∀ column ∈ table.columns, Text.lower (Text.strip column.typeText) = "json" →
      (c.searchIndexDdl table column).Gives searching) :
    (c.createDdl table).Gives fun statements => ∃ head indexes searches,
      statements = head :: indexes.filterMap id ++ c.commentDdl table ++ (searches ++ c.deferredKey table) ∧
        created head ∧ List.Forall₂ made (c.ownIndexes table) indexes ∧ ∀ sql ∈ searches, searching sql := by
  refine head_created.bind ?_
  intro head head_good
  refine (Drafting.gives_mapM_forall₂ indexed).bind ?_
  intro indexes indexes_made
  refine (c.gives_afterwardsDdl table searched).bind ?_
  rintro _ ⟨searches, rfl, searches_good⟩
  exact Drafting.gives_pure ⟨head, indexes, searches, rfl, head_good, indexes_made, searches_good⟩

/-- The statements behind the first one are of the kinds of their parts. -/
theorem gives_createDdl_parts {good : String → Prop} (created : (c.structureDdl table).Gives good) :
    (c.createDdl table).Gives fun statements => ∃ head indexes searches,
      statements = head :: indexes ++ c.commentDdl table ++ (searches ++ c.deferredKey table) ∧ good head ∧
        (∀ sql ∈ indexes, kind? sql = some .createIndex) ∧ ∀ sql ∈ searches, kind? sql = some .searchIndex := by
  intro draft statements given
  obtain ⟨head, indexes, searches, rfl, head_good, indexes_kind, searches_kind⟩ :=
    c.gives_createDdl_each table created (fun index _ => c.gives_createIndexDdl table index)
      (fun column _ _ => c.gives_searchIndexDdl table column) draft statements given
  refine ⟨head, indexes.filterMap id, searches, rfl, head_good, ?_, searches_kind⟩
  intro sql member
  obtain ⟨statement, listed, given⟩ := List.mem_filterMap.mp member
  obtain ⟨_, _, kind⟩ := Drafting.exists_of_forall₂ indexes_kind.flip listed
  exact kind sql given

/-- The statement that creates a table comes first, and those behind it leave all tables. -/
theorem gives_createDdl : (c.createDdl table).Gives fun statements =>
    ∃ head rest, statements = head :: rest ∧ Opens (c.creation table) head ∧ ∀ sql ∈ rest, LeavesTables sql := by
  intro draft statements given
  obtain ⟨head, indexes, searches, rfl, opens, indexes_kind, searches_kind⟩ :=
    c.gives_createDdl_parts table (c.gives_structureDdl table) draft statements given
  refine ⟨head, _, rfl, opens, ?_⟩
  intro sql member
  rcases List.mem_append.mp member with early | late
  · rcases List.mem_append.mp early with ofIndex | ofComment
    · exact leavesTables_of_kind (indexes_kind sql ofIndex) nofun nofun
    · exact leavesTables_of_kind (c.commentDdl_kind table sql ofComment) nofun nofun
  · rcases List.mem_append.mp late with ofSearch | ofKey
    · exact leavesTables_of_kind (searches_kind sql ofSearch) nofun nofun
    · exact leavesTables_of_kind (c.deferredKey_kind table sql ofKey) nofun nofun

theorem creation_drops {sql : String} (opens : Opens (c.creation table) sql) : dropsTable sql = false := by
  rcases opens with ⟨rest, rfl⟩
  simp only [creation, String.append_assoc]
  exact (opens_append "CREATE TABLE " _).not_hasStart (by decide)

theorem creation_creates {sql : String} (opens : Opens (c.creation table) sql) : createsTable sql = true := by
  rcases opens with ⟨rest, rfl⟩
  exact (((opens_append "CREATE TABLE " _).append _).append rest).starts

theorem dropIndexDdl_kind (index : Index) : kind? (c.dropIndexDdl table index) = some .dropIndex := by
  unfold dropIndexDdl
  cases c.engine with
  | mysql => exact kind_of_opens (by decide) (((opens_append "DROP INDEX " _).append _).append _)
  | _ => exact kind_of_opens (by decide) (opens_append "DROP INDEX " _)

theorem dropIndexDdl_leaves (index : Index) : LeavesTables (c.dropIndexDdl table index) :=
  leavesTables_of_kind (c.dropIndexDdl_kind table index) nofun nofun

/-- The table itself is all that is dropped. -/
theorem deleteDdl_drops (sql : String) (member : sql ∈ c.deleteDdl table) (drops : dropsTable sql = true) :
    sql = "DROP TABLE " ++ c.qualify table.name := by
  rcases List.mem_append.mp member with ofIndex | ofTable
  · obtain ⟨index, _, rfl⟩ := List.mem_map.mp ofIndex
    rw [(c.dropIndexDdl_leaves table index).1] at drops
    cases drops
  · exact List.mem_singleton.mp ofTable

/-! Which tables compile. -/

variable {c} {table}

theorem succeeds_truncate (name label : String) (reserved : Int) : (c.truncate name label reserved).Succeeds :=
  fun _ => ⟨_, _, rfl⟩

theorem succeeds_createIndexDdl (index : Index) : (c.createIndexDdl table index).Succeeds := by
  have named (label owner : String) (columns : List String) : (c.indexName label owner columns).Succeeds := by
    unfold indexName
    dsimp only
    split
    · exact succeeds_truncate _ _ _
    · exact Drafting.succeeds_pure _
  have qualified (label owner : String) (columns : List String) :
      (c.indexName label owner columns >>= fun name => pure (c.qualify name)).Succeeds :=
    (named label owner columns).bind fun name => Drafting.succeeds_pure _
  have created : (c.createIndexName table index).Succeeds := by
    unfold createIndexName
    cases c.engine with
    | kingbase => exact named _ _ _
    | _ => exact qualified _ _ _
  unfold createIndexDdl
  dsimp only
  split
  · exact Drafting.succeeds_pure none
  · exact created.bind fun name => Drafting.succeeds_pure _

theorem succeeds_afterwardsDdl : (c.afterwardsDdl table).Succeeds := by
  have search (column : Column) : (c.searchIndexDdl table column).Succeeds := by
    unfold searchIndexDdl
    dsimp only
    split
    · exact (succeeds_truncate _ _ _).bind fun name => Drafting.succeeds_pure _
    · exact Drafting.succeeds_pure _
  unfold afterwardsDdl
  split
  · dsimp only
    split
    · exact (Drafting.succeeds_mapM fun column _ => search column).bind fun searches => Drafting.succeeds_pure _
    · exact Drafting.succeeds_pure _
  · exact Drafting.succeeds_pure []

/-- The target asks for no tablespace, or for one by a text. -/
def PlacesByText (c : Compiler) : Prop :=
  ∀ config, c.destination = some config → config.tablespace.isBlank = true ∨ ∃ place, config.tablespace = .text place

theorem succeeds_structureDdl (present : table.isPresent = true)
    (mapped : ∀ column ∈ table.columns, ∃ type, c.mapType column = .ok type) (placed : c.PlacesByText) :
    (c.structureDdl table).Succeeds := by
  have column (column : Column) (member : column ∈ table.columns) : (c.columnDdl column table).Succeeds := by
    obtain ⟨type, own⟩ := mapped column member
    unfold columnDdl
    rw [own]
    exact fun _ => ⟨_, _, rfl⟩
  have tablespace : c.tablespaceText.Succeeds := by
    unfold tablespaceText
    split
    · exact Drafting.succeeds_pure ""
    · rename_i config destination
      rcases placed config destination with blank | ⟨place, text⟩
      · rw [if_pos blank]
        exact Drafting.succeeds_pure ""
      · split
        · exact Drafting.succeeds_pure ""
        · rw [text]
          exact Drafting.succeeds_pure _
  unfold structureDdl
  rw [present]
  apply (Drafting.succeeds_mapM column).bind
  intro entries
  apply tablespace.bind
  intro place
  exact Drafting.succeeds_pure _

/-- A table with columns compiles when every column has a type in the dialect and the tablespace is a text. -/
theorem succeeds_createDdl (present : table.isPresent = true)
    (mapped : ∀ column ∈ table.columns, ∃ type, c.mapType column = .ok type) (placed : c.PlacesByText) :
    (c.createDdl table).Succeeds := by
  apply (succeeds_structureDdl present mapped placed).bind
  intro head
  apply (Drafting.succeeds_mapM fun index _ => succeeds_createIndexDdl index).bind
  intro indexes
  apply succeeds_afterwardsDdl.bind
  intro afterwards
  exact Drafting.succeeds_pure _

end Compiler

end TableFerry
