import TableFerry.Proofs.CommentStatements
import TableFerry.Proofs.Jobs
import TableFerry.Proofs.SearchIndexNames
/-! Indexes that are created and dropped again. The statement that creates an index declares its identifier, and the
target keeps the last part of that as the name of the index. Folding a folded name again changes nothing, also behind a
schema, so that the statement that drops the index finds the declared identifier; only MySQL puts the schema in front of
one and not of the other. -/

namespace TableFerry

namespace Text

/-- An ASCII text may be put in lower case before the whole is. -/
theorem lower_append_lower (front : String) {name : String} (ascii : IsAscii name.toList) :
    lower (front ++ lower name) = lower (front ++ name) := by
  have same : List.Forall₂ Alike front.toList front.toList := List.forall₂_same.mpr fun c _ => alike_refl c
  have folded : List.Forall₂ Alike (lower name).toList name.toList := by
    rw [lower, String.toList_ofList, lowerChars_ascii ascii, List.forall₂_map_left_iff]
    exact List.forall₂_same.mpr fun c _ => alike_toLower c
  have whole (behind : String) : lower (front ++ behind) =
      String.ofList (lowerFrom [] (front.toList ++ behind.toList)) := by
    rw [lower, lowerChars, String.toList_append]
  rw [whole, whole, lowerFrom_alike .nil (List.rel_append same folded)]

end Text

theorem CaseRule.fold_append_fold (rule : CaseRule) (front : String) {name : String}
    (ascii : Text.IsAscii name.toList) : rule.fold (front ++ rule.fold name) = rule.fold (front ++ name) := by
  cases rule with
  | upper =>
      have settled : Text.upperChars (Text.upperChars name.toList) = Text.upperChars name.toList := by
        have same := congrArg String.toList (Text.upper_upper name)
        simpa only [Text.upper, String.toList_ofList] using same
      simp only [fold, Text.upper, String.toList_append, String.toList_ofList, Text.upperChars_append, settled]
  | lower => exact Text.lower_append_lower front ascii
  | remain => rfl

namespace Compiler

/-! The names of indexes. -/

theorem Undotted.upper {name : String} (undotted : Undotted name) : Undotted (Text.upper name) := by
  have each : ∀ n < 128, (Char.ofNat n ≠ '.') → (Char.ofNat n).toUpper.toNat < 128 ∧ (Char.ofNat n).toUpper ≠ '.' := by
    decide
  have ascii : Text.IsAscii name.toList := fun ch member => (undotted ch member).1
  rw [Undotted, Text.upper, String.toList_ofList, Text.upperChars_ascii ascii, List.forall_mem_map]
  intro ch member
  exact Text.forall_ascii (motive := fun ch => ch ≠ '.' → ch.toUpper.toNat < 128 ∧ ch.toUpper ≠ '.') each
    (ascii ch member) (undotted ch member).2

variable (c : Compiler)

theorem bare_fullIndexName {owner : String} {columns : List String}
    (undotted : ∀ name ∈ owner :: columns, Undotted name) : Bare (c.fullIndexName owner columns) := by
  refine c.bare_indexPrefix.append fun ch member => ?_
  rcases Text.mem_joinWith member with between | ⟨part, among, present⟩
  · exact (by decide : Bare "_") ch between
  · obtain ⟨name, listed, rfl⟩ := List.mem_map.mp (List.mem_of_mem_filter among)
    exact (undotted name listed).bare_removeBlanks ch present

/-- A name that an index may have: its characters are bare, and one of them is an underscore. -/
structure Indexing (name : String) : Prop where
  bare : Bare name
  named : '_' ∈ name.toList

theorem Indexing.filled {name : String} (indexing : Indexing name) : name ≠ "" := by
  rintro rfl
  cases indexing.named

theorem run_indexName_indexing (label : String) {owner : String} {columns : List String}
    (undotted : ∀ name ∈ owner :: columns, Undotted name) (draft : Draft) :
    ∃ name after, (c.indexName label owner columns).run draft = (.ok name, after) ∧ Indexing name := by
  have bare := c.bare_fullIndexName undotted
  by_cases fits : (c.fullIndexName owner columns).length + c.engine.indexPrefix.length ≤ c.maxNameLength
  · exact ⟨_, _, c.run_indexName fits draft, bare, c.underscore_mem_fullIndexName owner columns⟩
  · obtain ⟨after, ran⟩ := c.run_indexName_long label (Nat.lt_of_not_le fits) draft
    exact ⟨_, after, ran, c.bare_cutName _ _ bare, c.underscore_mem_cutName _ _ _⟩

section

variable {name : String} (indexing : Indexing name)
include indexing

/-- The name as the target keeps it. -/
theorem Indexing.fold_plain : Text.Plain (c.foldCase name) := plain_fold indexing.bare.plain

theorem Indexing.wrap_behind (front : String) :
    c.wrap (front ++ c.foldCase name) = c.wrap (front ++ name) := by
  have same :
      c.foldCase (Text.removeBlanks (front ++ c.foldCase name)) = c.foldCase (Text.removeBlanks (front ++ name)) := by
    rw [Text.removeBlanks_append, Text.removeBlanks_append, indexing.bare.plain.removeBlanks,
      (indexing.fold_plain c).removeBlanks]
    exact c.engine.caseRule.fold_append_fold _ indexing.bare.isAscii
  have filled {behind : String} (plain : Text.Plain behind) (given : behind ≠ "") :
      Text.removeBlanks (front ++ behind) ≠ "" := by
    rw [Text.removeBlanks_append, plain.removeBlanks]
    exact fun none => given (String.append_eq_empty_iff.mp none).2
  rw [wrap, wrap, if_neg (filled (indexing.fold_plain c) (c.engine.caseRule.fold_ne_empty indexing.filled)),
    if_neg (filled indexing.bare.plain indexing.filled), same]

/-- A name that was folded is written as it was written before. -/
theorem Indexing.qualify_fold : c.qualify (c.foldCase name) = c.qualify name := by
  unfold qualify
  cases c.schemaText? with
  | none =>
      have same := indexing.wrap_behind c ""
      rwa [String.empty_append, String.empty_append] at same
  | some schema => exact indexing.wrap_behind c (schema ++ ".")

end

/-- The delimiters of a name add no other character to it. -/
theorem not_mem_delimit {ch : Char} (outside : ch ∉ (c.engine.delimiters.1 ++ c.engine.delimiters.2).toList)
    {part : String} (free : ch ∉ part.toList) : ch ∉ (c.delimit part).toList := by
  rw [String.toList_append, List.mem_append, not_or] at outside
  rw [delimit, String.toList_append, String.toList_append, List.mem_append, List.mem_append, not_or, not_or]
  exact ⟨⟨outside.1, free⟩, outside.2⟩

section

variable {name : String} (indexing : Indexing name)
include indexing

theorem Indexing.dot_not_mem_delimit : '.' ∉ (c.delimit (c.foldCase name)).toList :=
  c.not_mem_delimit (by cases c.engine <;> decide) (indexing.fold_plain c).dot_not_mem

/-- The name is written between delimiters, and behind the schema if there is one. -/
theorem Indexing.qualify_cases :
    (c.schemaText? = none ∧ c.qualify name = c.delimit (c.foldCase name)) ∨
      c.schemaText? ≠ none ∧ ∃ front, c.qualify name = front ++ "." ++ c.delimit (c.foldCase name) := by
  have own : c.delimited (c.foldCase name) = c.delimit (c.foldCase name) := by
    have single := Text.splitAt_single _ (indexing.fold_plain c).dot_not_mem
    rw [String.ofList_toList] at single
    rw [delimited, single]
    rfl
  have named : Text.removeBlanks name ≠ "" := by
    rw [indexing.bare.plain.removeBlanks]
    exact indexing.filled
  have written := c.delimits_qualify indexing.bare.isAscii named
  rw [indexing.bare.plain.removeBlanks, Delimits, own] at written
  cases given : c.schemaText? with
  | none =>
      rw [given] at written
      exact .inl ⟨rfl, written⟩
  | some schema =>
      rw [given] at written
      obtain ⟨front, written⟩ := written
      exact .inr ⟨nofun, _, written⟩

theorem Indexing.dot_mem_qualify_iff : '.' ∈ (c.qualify name).toList ↔ c.schemaText? ≠ none := by
  rcases indexing.qualify_cases c with ⟨none, written⟩ | ⟨given, front, written⟩
  · rw [written]
    exact ⟨fun member => absurd member (indexing.dot_not_mem_delimit c), fun given => absurd none given⟩
  · rw [written, String.toList_append, String.toList_append]
    exact ⟨fun _ => given, fun _ => List.mem_append_left _ (List.mem_append_right _ List.mem_cons_self)⟩

end

/-- The last of the parts between the points of an identifier. -/
def lastPart (written : String) : String := (Text.splitAt '.' written).getLast?.getD ""

theorem Indexing.lastPart_qualify {name : String} (indexing : Indexing name) :
    lastPart (c.qualify name) = c.delimit (c.foldCase name) := by
  have part := Text.splitAt_single _ (indexing.dot_not_mem_delimit c)
  rw [String.ofList_toList] at part
  unfold lastPart
  rcases indexing.qualify_cases c with ⟨_, written⟩ | ⟨_, front, written⟩
  · rw [written, part]
    rfl
  · rw [written, Text.splitAt_cut rfl, part, List.getLast?_append]
    rfl

theorem blank_not_mem_wrap (name : String) : ' ' ∉ (c.wrap name).toList := by
  by_cases named : Text.removeBlanks name = ""
  · rw [wrap, if_pos named]
    exact List.not_mem_nil
  · rw [c.wrap_eq_delimit named]
    exact c.not_mem_delimit (by cases c.engine <;> decide) (c.blank_not_mem_identifier rfl name)

theorem blank_not_mem_qualify (name : String) : ' ' ∉ (c.qualify name).toList := by
  rw [qualify_eq]
  exact c.blank_not_mem_wrap _

/-! What statements say of indexes. -/

/-- The word behind the words that a statement begins with. -/
def wordBehind? (front sql : String) : Option String :=
  if Text.hasStart sql front then some (String.ofList ((sql.toList.drop front.length).takeWhile (· ≠ ' '))) else none

/-- How statements begin that create an index. -/
def indexCreations : List String := ["CREATE INDEX ", "CREATE UNIQUE INDEX ", "CREATE SEARCH INDEX "]

/-- The identifier that a statement creates an index under. -/
def createdIndex? (sql : String) : Option String := indexCreations.findSome? fun front => wordBehind? front sql

/-- The identifier of the index that a statement drops. -/
def droppedIndex? (sql : String) : Option String := wordBehind? "DROP INDEX " sql

theorem wordBehind?_append {front word : String} (free : ' ' ∉ word.toList) {rest : String}
    (ends : rest = "" ∨ Text.Opens " " rest) : wordBehind? front (front ++ word ++ rest) = some word := by
  have kept : ∀ ch ∈ word.toList, decide (ch ≠ ' ') = true := by
    intro ch member
    simpa using ne_of_mem_of_not_mem member free
  have starts : Text.hasStart (front ++ word ++ rest) front = true := by
    rw [String.append_assoc]
    exact (Text.opens_append front _).starts
  rw [wordBehind?, if_pos starts, String.toList_append, String.toList_append, List.append_assoc,
    List.drop_left' (String.length_toList ..)]
  refine congrArg some (String.toList_inj.mp ?_)
  rw [String.toList_ofList, List.takeWhile_append_of_pos kept]
  rcases ends with rfl | ⟨behind, rfl⟩
  · exact List.append_nil _
  · rw [String.toList_append]
    exact List.append_nil _

theorem wordBehind?_apart {front start sql : String} (opens : Text.Opens front sql) (other : apart front start = true) :
    wordBehind? start sql = none :=
  if_neg (by rw [opens.not_hasStart (Bool.not_eq_true' _ ▸ other)]; exact Bool.false_ne_true)

theorem createdIndex?_append {front word : String} (listed : front ∈ indexCreations) (free : ' ' ∉ word.toList)
    {rest : String} (ends : rest = "" ∨ Text.Opens " " rest) :
    createdIndex? (front ++ word ++ rest) = some word := by
  have apart_each : ∀ one ∈ indexCreations, ∀ other ∈ indexCreations, one = other ∨ apart one other = true := by decide
  have own : wordBehind? front (front ++ word ++ rest) = some word := wordBehind?_append free ends
  have opens : Text.Opens front (front ++ word ++ rest) := (Text.opens_append front word).append rest
  cases found : createdIndex? (front ++ word ++ rest) with
  | none =>
      rw [createdIndex?, List.findSome?_eq_none_iff] at found
      cases own.symm.trans (found front listed)
  | some name =>
      obtain ⟨start, among, read⟩ := List.exists_of_findSome?_eq_some found
      rcases apart_each front listed start among with rfl | other
      · exact read.symm.trans own
      · cases read.symm.trans (wordBehind?_apart opens other)

/-- Only two kinds of statements create indexes. -/
theorem createdIndex?_of_kind {sql : String} {kind : StatementKind} (known : kind? sql = some kind)
    (unindexed : kind ≠ .createIndex) (unsearched : kind ≠ .searchIndex) : createdIndex? sql = none := by
  have kinds : ∀ front ∈ indexCreations, (front, StatementKind.createIndex) ∈ openings ∨
      (front, StatementKind.searchIndex) ∈ openings := by decide
  rw [createdIndex?, List.findSome?_eq_none_iff]
  intro front listed
  apply if_neg
  intro starts
  rcases kinds front listed with index | search
  · exact unindexed (Option.some.inj (known.symm.trans (kind_of_opens index (Text.opens_of_hasStart starts))))
  · exact unsearched (Option.some.inj (known.symm.trans (kind_of_opens search (Text.opens_of_hasStart starts))))

variable {table : Table}

theorem opens_on (rest : String) : Text.Opens " " (" ON " ++ rest) :=
  have on : " ON " = " " ++ "ON " := by decide
  (on ▸ Text.opens_append " " "ON ").append rest

theorem createdIndex?_indexCreation (index : Index) (name : String) :
    createdIndex? (c.indexCreation table index (c.qualify name)) = some (c.qualify name) := by
  have listed : "CREATE " ++ (if index.unique then "UNIQUE " else "") ++ "INDEX " ∈ indexCreations := by
    cases index.unique <;> decide
  have shape : ∃ rest, c.indexCreation table index (c.qualify name) =
      "CREATE " ++ (if index.unique then "UNIQUE " else "") ++ "INDEX " ++ c.qualify name ++ (" ON " ++ rest) := by
    refine ⟨c.qualify table.name ++ " (" ++
      Text.joinWith ", " ((index.columns.filter fun name => !Text.isBlankText name).map c.wrap) ++ ")", ?_⟩
    unfold indexCreation
    simp only [String.append_assoc]
  obtain ⟨rest, shape⟩ := shape
  rw [shape]
  exact createdIndex?_append listed (c.blank_not_mem_qualify name) (Or.inr (opens_on rest))

theorem createdIndex?_searchCreation (column : Column) (name : String) :
    createdIndex? (c.searchCreation table column (c.qualify name)) = some (c.qualify name) := by
  have listed : "CREATE SEARCH INDEX " ∈ indexCreations := by decide
  have shape : ∃ rest, c.searchCreation table column (c.qualify name) =
      "CREATE SEARCH INDEX " ++ c.qualify name ++ (" ON " ++ rest) := by
    refine ⟨c.qualify table.name ++ " (" ++ c.wrap column.name ++ ") FOR JSON", ?_⟩
    unfold searchCreation
    simp only [String.append_assoc]
  obtain ⟨rest, shape⟩ := shape
  rw [shape]
  exact createdIndex?_append listed (c.blank_not_mem_qualify name) (Or.inr (opens_on rest))

/-! The indexes of a table. -/

/-- The names that the indexes of a table are made of are ASCII names without points. -/
structure PlainlyIndexed (table : Table) : Prop where
  own : Undotted table.name
  indexed : ∀ index ∈ table.indexes, ∀ name ∈ index.tableOr table.name :: index.columns, Undotted name
  searched : ∀ column ∈ table.columns, Text.lower (Text.strip column.typeText) = "json" → Undotted column.name

theorem undotted_indexParts {index : Index}
    (undotted : ∀ name ∈ index.tableOr table.name :: index.columns, Undotted name) :
    ∀ name ∈ c.indexOwner table index :: c.indexColumns index, Undotted name := by
  unfold indexOwner indexColumns
  split
  · rw [← List.map_cons, List.forall_mem_map]
    exact fun name member => (undotted name member).upper
  · exact undotted

/-- The statement for an index, if it has a column to stand on. -/
def indexStatement? (table : Table) (index : Index) (name : String) : Option String :=
  if index.columns.all Text.isBlankText then none else some (c.indexCreation table index (c.qualify name))

/-- An index is created under a name of its own kind. -/
theorem run_createIndexDdl_indexing (engine : c.engine ≠ .kingbase) {index : Index}
    (undotted : ∀ name ∈ index.tableOr table.name :: index.columns, Undotted name) (draft : Draft) :
    ∃ name after, Indexing name ∧
      (c.createIndexDdl table index).run draft = (.ok (c.indexStatement? table index name), after) := by
  have written (name : String) : c.writtenIndex name = c.qualify name := by
    unfold writtenIndex
    split
    · exact absurd ‹_› engine
    · rfl
  obtain ⟨name, after, named, indexing⟩ :=
    c.run_indexName_indexing (c.indexOwner table index) (c.undotted_indexParts undotted) draft
  have ran := c.run_createIndexDdl_of (c.run_createIndexName_of named)
  rw [written] at ran
  unfold indexStatement?
  split at ran
  · rename_i blank
    exact ⟨name, draft, indexing, ran.trans (by rw [if_pos blank])⟩
  · rename_i filled
    exact ⟨name, after, indexing, ran.trans (by rw [if_neg filled])⟩

theorem gives_searchIndexDdl_indexing {column : Column} (owner : Undotted table.name) (own : Undotted column.name) :
    (c.searchIndexDdl table column).Gives fun sql =>
      ∃ name, Indexing name ∧ createdIndex? sql = some (c.qualify name) := by
  intro draft sql given
  obtain ⟨after, ran⟩ := c.run_searchIndexDdl table column draft
  rw [ran] at given
  cases given
  have bare := c.bare_indexPrefix.append (c.bare_shownSearchName draft.drawn (bare_searchName owner own))
  exact ⟨_, ⟨bare, c.underscore_mem_indexPrefix _⟩, c.createdIndex?_searchCreation column _⟩

/-- Every index that has a column to stand on is created, and each is created under a name of its own kind. -/
theorem gives_createDdl_indexing (engine : c.engine ≠ .kingbase) (plain : PlainlyIndexed table) :
    (c.createDdl table).Gives fun statements =>
      (∀ index ∈ c.ownIndexes table, (∃ name ∈ index.columns, Text.isBlankText name = false) →
        ∃ name, c.indexCreation table index (c.qualify name) ∈ statements) ∧
      ∀ sql ∈ statements, ∀ declared, createdIndex? sql = some declared →
        ∃ name, Indexing name ∧ declared = c.qualify name := by
  have indexed : ∀ index ∈ c.ownIndexes table, (c.createIndexDdl table index).Gives fun statement =>
      ∃ name, Indexing name ∧ statement = c.indexStatement? table index name := by
    intro index own draft statement given
    obtain ⟨name, _, indexing, ran⟩ :=
      c.run_createIndexDdl_indexing engine (plain.indexed index (List.mem_of_mem_filter own)) draft
    rw [ran] at given
    exact ⟨name, indexing, (Except.ok.inj given).symm⟩
  intro draft statements given
  obtain ⟨head, indexes, searches, rfl, opens, made, searched⟩ := c.gives_createDdl_each table
    (c.gives_structureDdl table) indexed
    (fun column own json => c.gives_searchIndexDdl_indexing plain.own (plain.searched column own json))
    draft statements given
  constructor
  · intro index own filled
    obtain ⟨statement, listed, name, _, rfl⟩ := Drafting.exists_of_forall₂ made own
    refine ⟨name, List.mem_append_left _ (List.mem_append_left _ (List.mem_cons_of_mem _ ?_))⟩
    exact List.mem_filterMap.mpr ⟨_, listed, if_neg (not_all_blank filled)⟩
  · intro sql member declared created
    have other {kind : StatementKind} (known : kind? sql = some kind) (unindexed : kind ≠ .createIndex)
        (unsearched : kind ≠ .searchIndex) : ∃ name, Indexing name ∧ declared = c.qualify name := by
      rw [createdIndex?_of_kind known unindexed unsearched] at created
      cases created
    rcases List.mem_append.mp member with early | late
    · rcases List.mem_append.mp early with first | of_comment
      · rcases List.mem_cons.mp first with rfl | of_index
        · exact other (c.creation_kind table opens) nofun nofun
        · obtain ⟨statement, listed, rfl⟩ := List.mem_filterMap.mp of_index
          obtain ⟨index, _, name, indexing, same⟩ := Drafting.exists_of_forall₂ made.flip listed
          obtain ⟨_, written⟩ := Option.ite_none_left_eq_some.mp same.symm
          rw [← Option.some.inj written, createdIndex?_indexCreation] at created
          exact ⟨name, indexing, (Option.some.inj created).symm⟩
      · exact other (c.commentDdl_kind table sql of_comment) nofun nofun
    · rcases List.mem_append.mp late with of_search | of_key
      · obtain ⟨name, indexing, read⟩ := searched sql of_search
        exact ⟨name, indexing, Option.some.inj (created.symm.trans read)⟩
      · exact other (c.deferredKey_kind table sql of_key) nofun nofun

/-! Indexes that are dropped. -/

theorem droppedIndex?_dropIndexDdl (index : Index) (free : ' ' ∉ (c.dropIndexName table index).toList) :
    droppedIndex? (c.dropIndexDdl table index) = some (c.dropIndexName table index) := by
  have bare : "DROP INDEX " ++ c.dropIndexName table index = "DROP INDEX " ++ c.dropIndexName table index ++ "" :=
    String.append_empty.symm
  unfold dropIndexDdl
  cases c.engine with
  | mysql =>
      dsimp only
      rw [String.append_assoc]
      exact wordBehind?_append free (Or.inr (opens_on _))
  | _ =>
      dsimp only
      rw [bare]
      exact wordBehind?_append free (Or.inl rfl)

/-- An index is dropped under the schema, but by MySQL, which knows it by the table. -/
theorem dropIndexName_eq (engine : c.engine ≠ .sqlserver) {index : Index} {stored : String}
    (named : index.name = some stored) :
    c.dropIndexName table index = if c.engine = .mysql then c.wrap stored else c.qualify stored := by
  unfold dropIndexName
  split
  · rename_i mysql
    rw [if_pos mysql, Index.nameText, named]
    rfl
  · rename_i sqlserver
    exact absurd sqlserver engine
  · rename_i other _
    rw [if_neg other, named]
    rfl

theorem Indexing.wrap_eq_delimit {name : String} (indexing : Indexing name) :
    c.wrap name = c.delimit (c.foldCase name) := by
  have filled : Text.removeBlanks name ≠ "" := by
    rw [indexing.bare.plain.removeBlanks]
    exact indexing.filled
  rw [c.wrap_eq_delimit filled, identifier_plain indexing.bare.plain]

/-- A kept name is dropped as it was written, unless a schema stood in front of it that the drop leaves out. -/
theorem Indexing.drop_iff {name : String} (indexing : Indexing name) :
    (if c.engine = .mysql then c.wrap (c.foldCase name) else c.qualify (c.foldCase name)) = c.qualify name ↔
      (c.engine = .mysql → c.schemaText? = none) := by
  by_cases mysql : c.engine = .mysql
  · have kept : c.foldCase name = name := by
      rw [foldCase, mysql]
      rfl
    rw [if_pos mysql, kept, indexing.wrap_eq_delimit]
    constructor
    · intro same _
      by_contra given
      exact indexing.dot_not_mem_delimit c (same ▸ (indexing.dot_mem_qualify_iff c).mpr given)
    · intro unqualified
      rcases indexing.qualify_cases c with ⟨_, written⟩ | ⟨given, _⟩
      · exact written.symm
      · exact absurd (unqualified mysql) given
  · rw [if_neg mysql, indexing.qualify_fold]
    exact iff_of_true rfl fun same => absurd same mysql

/-- Every index of a table that has a column to stand on is created, whatever is drawn, and each statement that creates
an index declares an identifier whose last part the target keeps as its name. A table that is read again with an index
of this name has a statement that drops this index, and it names the very identifier that was declared, with a schema as
without one; only MySQL puts the schema in front of the name of an index that is created, and never in front of one that
is dropped. -/
theorem deleteDdl_drops_created_iff (c : Compiler)
    (engine : c.engine ∈ [.oracle, .postgresql, .vastbase, .mysql, .sqlite]) {table : Table}
    (plain : PlainlyIndexed table) :
    (∀ index ∈ c.ownIndexes table, (∃ name ∈ index.columns, Text.isBlankText name = false) →
      ∀ draft, ∃ declared after, (c.createIndexDdl table index).run draft =
          (.ok (some (c.indexCreation table index declared)), after) ∧
        createdIndex? (c.indexCreation table index declared) = some declared) ∧
    (c.createDdl table).Gives fun statements =>
      (∀ index ∈ c.ownIndexes table, (∃ name ∈ index.columns, Text.isBlankText name = false) →
        ∃ declared, c.indexCreation table index declared ∈ statements ∧
          createdIndex? (c.indexCreation table index declared) = some declared) ∧
      ∀ sql ∈ statements, ∀ declared, createdIndex? sql = some declared →
        ∃ stored, lastPart declared = c.delimit stored ∧
          ∀ reread : Table, ∀ found ∈ c.ownIndexes reread, found.name = some stored →
            c.dropIndexDdl reread found ∈ c.deleteDdl reread ∧
            (droppedIndex? (c.dropIndexDdl reread found) = some declared ↔
              (c.engine = .mysql → c.schemaText? = none)) := by
  have not_kingbase : c.engine ≠ .kingbase := fun same => by
    rw [same] at engine
    exact absurd engine (by decide)
  have not_sqlserver : c.engine ≠ .sqlserver := fun same => by
    rw [same] at engine
    exact absurd engine (by decide)
  refine ⟨?_, fun draft statements given => ?_⟩
  · intro index own filled draft
    obtain ⟨name, after, _, ran⟩ :=
      c.run_createIndexDdl_indexing not_kingbase (plain.indexed index (List.mem_of_mem_filter own)) draft
    rw [indexStatement?, if_neg (not_all_blank filled)] at ran
    exact ⟨_, after, ran, c.createdIndex?_indexCreation index name⟩
  obtain ⟨created, declares⟩ := c.gives_createDdl_indexing not_kingbase plain draft statements given
  constructor
  · intro index own filled
    obtain ⟨name, listed⟩ := created index own filled
    exact ⟨_, listed, c.createdIndex?_indexCreation index name⟩
  · intro sql member declared read
    obtain ⟨name, indexing, rfl⟩ := declares sql member declared read
    refine ⟨c.foldCase name, indexing.lastPart_qualify c, ?_⟩
    intro reread found own named
    have dropped : c.dropIndexName reread found =
        if c.engine = .mysql then c.wrap (c.foldCase name) else c.qualify (c.foldCase name) :=
      c.dropIndexName_eq not_sqlserver named
    have free : ' ' ∉ (c.dropIndexName reread found).toList := by
      rw [dropped]
      split
      · exact c.blank_not_mem_wrap _
      · exact c.blank_not_mem_qualify _
    refine ⟨List.mem_append_left _ (List.mem_map_of_mem own), ?_⟩
    rw [c.droppedIndex?_dropIndexDdl found free, dropped, Option.some.injEq]
    exact indexing.drop_iff c

/-- A table with an index on a column whose name holds a blank. -/
def bookings : Table :=
  { name := "Bookings"
    columns := [{ name := "Seat No", typeName := some "INTEGER", category := .integer }]
    indexes := [{ name := some "by_seat", table := some "Bookings", columns := ["Seat No"] }] }

theorem deleteDdl_drops_created_iff_bookings :
    let c := under .postgresql "Sales"
    let sql := "CREATE INDEX \"sales\".\"idx_bookings_seatno\" ON \"sales\".\"bookings\" (\"seatno\")"
    let found : Index := { name := some "idx_bookings_seatno", table := some "bookings", columns := ["seatno"] }
    let reread : Table := { bookings with name := "bookings", indexes := [found] }
    c.dropIndexDdl reread found ∈ c.deleteDdl reread ∧
      droppedIndex? (c.dropIndexDdl reread found) = createdIndex? sql := by
  intro c sql found reread
  have plain : PlainlyIndexed bookings := ⟨by decide, by decide, by decide⟩
  have given : ((c.createDdl bookings).run {}).1 =
      .ok ["CREATE TABLE \"sales\".\"bookings\" (\"seatno\" INTEGER NULL)", sql] :=
    Job.ok_of_toOption (by decide +kernel)
  have read : createdIndex? sql = some "\"sales\".\"idx_bookings_seatno\"" := by decide +kernel
  obtain ⟨_, drops⟩ := (deleteDdl_drops_created_iff c (by decide) plain).2 {} _ given
  obtain ⟨stored, kept, drop⟩ := drops sql (List.mem_cons_of_mem _ List.mem_cons_self) _ read
  have named : found.name = some stored := by
    have same : c.delimit "idx_bookings_seatno" = c.delimit stored :=
      (by decide +kernel : c.delimit "idx_bookings_seatno" = lastPart "\"sales\".\"idx_bookings_seatno\"").trans kept
    exact congrArg some (delimit_injective same)
  obtain ⟨listed, dropped⟩ := drop reread found (by decide) named
  exact ⟨listed, (dropped.mpr nofun).trans read.symm⟩

/-- MySQL creates an index under the schema, and drops one without it. -/
theorem dropIndexDdl_loses_schema :
    let c := under .mysql "shop"
    let own : Index := { name := some "by_a", table := some "t", columns := ["a"] }
    let table : Table :=
      { name := "t", columns := [{ name := "a", typeName := some "INTEGER", category := .integer }], indexes := [own] }
    let found : Index := { name := some "IDX_t_a", table := some "t", columns := ["a"] }
    let reread : Table := { table with indexes := [found] }
    let sql := "CREATE INDEX \x60shop\x60.\x60IDX_t_a\x60 ON \x60shop\x60.\x60t\x60 (\x60a\x60)"
    let declared := "\x60shop\x60.\x60IDX_t_a\x60"
    PlainlyIndexed table ∧
    ((c.createDdl table).run {}).1.toOption =
      some ["CREATE TABLE \x60shop\x60.\x60t\x60 (\x60a\x60 INT NULL)", sql] ∧
    createdIndex? sql = some declared ∧ lastPart declared = c.delimit "IDX_t_a" ∧ found ∈ c.ownIndexes reread ∧
    c.deleteDdl reread =
      ["DROP INDEX \x60IDX_t_a\x60 ON \x60shop\x60.\x60t\x60", "DROP TABLE \x60shop\x60.\x60t\x60"] ∧
    droppedIndex? (c.dropIndexDdl reread found) = some "\x60IDX_t_a\x60" := by
  intro c own table found reread sql declared
  exact ⟨⟨by decide, by decide, by decide⟩, by decide +kernel, by decide +kernel, by decide +kernel, by decide,
    by decide +kernel, by decide +kernel⟩

end Compiler

end TableFerry
