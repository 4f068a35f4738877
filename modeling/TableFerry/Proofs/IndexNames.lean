import TableFerry.Dialect.Ddl
import TableFerry.Proofs.ColumnMatching
/-! Which indexes of a table get one name. An index is named after the table and its columns, with underscores
between them, and an underscore may stand in a name as well: so two indexes are told apart by the words between
underscores only, and not by where one column ends and the next one begins. -/

namespace TableFerry

namespace Text

variable {mark : Char} {separator : String}

theorem joinWith_cons {head : String} {tail : List String} (more : tail ≠ []) :
    joinWith separator (head :: tail) = head ++ separator ++ joinWith separator tail := by
  cases tail with
  | nil => exact absurd rfl more
  | cons next rest => rfl

theorem joinWith_append (front head : String) (tail : List String) :
    joinWith separator ((front ++ head) :: tail) = front ++ joinWith separator (head :: tail) := by
  cases tail with
  | nil => rfl
  | cons next rest =>
      rw [joinWith_cons (List.cons_ne_nil _ _), joinWith_cons (List.cons_ne_nil _ _), String.append_assoc,
        String.append_assoc, String.append_assoc]

theorem splitAt_ne_nil (mark : Char) (s : String) : splitAt mark s ≠ [] := by
  rw [splitAt, ne_eq, List.map_eq_nil_iff]
  exact splitWhere_ne_nil _ _

/-- What stands before a mark and what stands behind it are split one by one. -/
theorem splitAt_cut (single : separator.toList = [mark]) (before after : String) :
    splitAt mark (before ++ separator ++ after) = splitAt mark before ++ splitAt mark after := by
  rw [splitAt, String.toList_append, String.toList_append, single, List.append_assoc, List.singleton_append,
    splitWhere_cut (· == mark) (beq_self_eq_true mark), List.map_append]
  rfl

/-- Joining the parts again puts the separator where the mark was. -/
theorem joinWith_splitAt (separator : String) (mark : Char) (s : String) :
    joinWith separator (splitAt mark s) =
      String.ofList (s.toList.flatMap fun ch => if ch = mark then separator.toList else [ch]) := by
  unfold splitAt
  induction s.toList with
  | nil => rfl
  | cons head tail ih =>
      obtain ⟨part, parts, split_tail⟩ := List.exists_cons_of_ne_nil (splitWhere_ne_nil (· == mark) tail)
      rw [split_tail, List.map_cons] at ih
      rw [splitWhere, split_tail, List.flatMap_cons]
      by_cases same : head = mark
      · rw [if_pos (beq_iff_eq.mpr same), if_pos same, List.map_cons, List.map_cons, joinWith_cons
          (List.cons_ne_nil _ _), ih, String.ofList_append, String.ofList_toList]
        exact String.empty_append ▸ rfl
      · rw [if_neg (by rwa [beq_iff_eq]), if_neg same, String.ofList_append, ← ih, ← joinWith_append,
          ← String.ofList_append]
        rfl

theorem joinWith_splitAt_self (mark : Char) (s : String) :
    joinWith (String.singleton mark) (splitAt mark s) = s := by
  have kept : (fun ch => if ch = mark then (String.singleton mark).toList else [ch]) = fun ch => [ch] := by
    funext ch
    split
    · rename_i here
      rw [here]
      exact String.toList_singleton mark
    · rfl
  rw [joinWith_splitAt, kept, List.flatMap_singleton', String.ofList_toList]

theorem splitAt_injective {one other : String} (same : splitAt mark one = splitAt mark other) : one = other := by
  rw [← joinWith_splitAt_self mark one, same, joinWith_splitAt_self]

theorem splitAt_joinWith (single : separator.toList = [mark]) {names : List String} (some_name : names ≠ []) :
    splitAt mark (joinWith separator names) = names.flatMap (splitAt mark) := by
  induction names with
  | nil => exact absurd rfl some_name
  | cons head tail ih =>
      cases tail with
      | nil => exact (List.flatMap_singleton ..).symm
      | cons next rest =>
          rw [joinWith_cons (List.cons_ne_nil _ _), splitAt_cut single, ih (List.cons_ne_nil _ _)]
          rfl

/-- Names are joined to the same text iff they have the same words between marks. -/
theorem joinWith_eq_iff (single : separator.toList = [mark]) {names others : List String}
    (filled : ∀ name ∈ names, name ≠ "") (also : ∀ name ∈ others, name ≠ "") :
    joinWith separator names = joinWith separator others ↔
      names.flatMap (splitAt mark) = others.flatMap (splitAt mark) := by
  have empty_or_not {one two : List String} (filled : ∀ name ∈ two, name ≠ "") (none : one = []) :
      joinWith separator one = joinWith separator two ↔ one.flatMap (splitAt mark) = two.flatMap (splitAt mark) := by
    subst none
    cases two with
    | nil => exact Iff.intro (fun _ => rfl) (fun _ => rfl)
    | cons head tail =>
        constructor
        · intro same
          obtain ⟨rest, opened⟩ := opens_joinWith separator head tail
          rw [opened] at same
          exact absurd (String.append_eq_empty_iff.mp same.symm).1 (filled head List.mem_cons_self)
        · intro same
          rw [List.flatMap_nil, List.flatMap_cons] at same
          exact absurd (List.append_eq_nil_iff.mp same.symm).1 (splitAt_ne_nil mark head)
  by_cases none : names = []
  · exact empty_or_not also none
  by_cases no_other : others = []
  · rw [eq_comm, empty_or_not filled no_other, eq_comm]
  rw [← splitAt_joinWith single none, ← splitAt_joinWith single no_other]
  exact ⟨fun same => same ▸ rfl, splitAt_injective⟩

theorem removeBlanks_append (before after : String) :
    removeBlanks (before ++ after) = removeBlanks before ++ removeBlanks after := by
  rw [removeBlanks, String.toList_append, List.filter_append, String.ofList_append]
  rfl

theorem removeBlanks_removeBlanks (s : String) : removeBlanks (removeBlanks s) = removeBlanks s := by
  rw [removeBlanks, removeBlanks, String.toList_ofList, List.filter_filter]
  simp only [Bool.and_self]

/-- A blank stays a blank in upper case, and no other character becomes one. -/
theorem removeBlanks_upper (s : String) : removeBlanks (upper s) = upper (removeBlanks s) := by
  rw [removeBlanks, removeBlanks, upper, upper, String.toList_ofList, String.toList_ofList, upperChars, upperChars]
  apply congrArg String.ofList
  induction s.toList with
  | nil => rfl
  | cons head tail ih =>
      rw [List.flatMap_cons, List.filter_append, ih]
      cases blanks : isBlankChar head with
      | true =>
          rw [upperChar_blank blanks, List.filter_cons_of_neg (by simp [blanks]), List.filter_nil,
            List.filter_cons_of_neg (by simp [blanks]), List.nil_append]
      | false =>
          have kept : ∀ ch ∈ upperChar head, (!isBlankChar ch) = true := by
            intro ch member
            by_contra blank
            rw [Bool.not_eq_true, Bool.not_eq_false'] at blank
            rw [eq_of_blank_mem_upperChar blank member, blank] at blanks
            cases blanks
          rw [List.filter_eq_self.mpr kept, List.filter_cons_of_pos (by simp [blanks]), List.flatMap_cons]

end Text

namespace CaseRule

theorem underscore_not_mem_fold (rule : CaseRule) {name : String} (free : '_' ∉ name.toList) :
    '_' ∉ (rule.fold name).toList := by
  rwa [rule.mem_fold Text.caseless_underscore]

theorem fold_ne_empty (rule : CaseRule) {name : String} (filled : name ≠ "") : rule.fold name ≠ "" := by
  cases rule with
  | upper => exact Text.upper_ne_empty filled
  | lower => exact Text.lower_ne_empty filled
  | remain => exact filled

/-- Names with an underscore between them are folded one by one. -/
theorem fold_underscore (rule : CaseRule) (before after : String) :
    rule.fold (before ++ "_" ++ after) = rule.fold before ++ "_" ++ rule.fold after := by
  have chars : (before ++ "_" ++ after).toList = before.toList ++ '_' :: after.toList := by
    simp [String.toList_append]
  apply String.toList_inj.mp
  cases rule with
  | upper =>
      simp only [fold, Text.upper, chars, Text.upperChars_append, String.toList_append, String.toList_ofList,
        List.append_assoc]
      rfl
  | lower =>
      simp only [fold, Text.lower, chars, Text.lowerChars, Text.endsWord_underscore.lowerFrom_cut,
        String.toList_append, String.toList_ofList, List.append_assoc]
      rfl
  | remain => rfl

end CaseRule

namespace Compiler

variable (c : Compiler)

/-- Names with an underscore between them are written one by one. -/
theorem identifier_underscore (before after : String) :
    c.identifier (before ++ "_" ++ after) = c.identifier before ++ "_" ++ c.identifier after := by
  have unblank : Text.removeBlanks "_" = "_" := by decide
  have undotted : ('_' = '.') = False := eq_false (by decide)
  rw [identifier, identifier, identifier, Text.joinWith_splitAt, Text.joinWith_splitAt, Text.joinWith_splitAt,
    Text.removeBlanks_append, Text.removeBlanks_append, unblank, foldCase, CaseRule.fold_underscore]
  simp only [String.toList_append, List.flatMap_append, String.ofList_append]
  rfl

theorem identifier_removeBlanks (name : String) : c.identifier (Text.removeBlanks name) = c.identifier name := by
  rw [identifier, Text.removeBlanks_removeBlanks]
  rfl

theorem identifier_upper (rule : c.engine.caseRule = .upper) (name : String) :
    c.identifier (Text.upper name) = c.identifier name := by
  have folds (s : String) : c.foldCase s = Text.upper s := by rw [foldCase, rule]; rfl
  rw [identifier, identifier, Text.removeBlanks_upper, folds, folds, Text.upper_upper]

theorem identifier_joinWith (names : List String) :
    c.identifier (Text.joinWith "_" names) = Text.joinWith "_" (names.map c.identifier) := by
  induction names with
  | nil =>
      have none : c.foldCase "" = "" := by unfold foldCase; cases c.engine.caseRule <;> rfl
      rw [Text.joinWith, identifier, show Text.removeBlanks "" = "" from rfl, none]
      rfl
  | cons head tail ih =>
      cases tail with
      | nil => rfl
      | cons next rest =>
          rw [Text.joinWith_cons (List.cons_ne_nil _ _), identifier_underscore, ih]
          rfl

theorem identifier_ne_empty {name : String} (named : Text.removeBlanks name ≠ "") : c.identifier name ≠ "" := by
  have folded : c.foldCase (Text.removeBlanks name) ≠ "" := c.engine.caseRule.fold_ne_empty named
  obtain ⟨head, tail, chars⟩ := List.exists_cons_of_ne_nil fun empty => folded (String.toList_eq_nil_iff.mp empty)
  intro empty
  have none := congrArg String.toList empty
  rw [identifier, Text.joinWith_splitAt, String.toList_ofList, chars, List.flatMap_cons] at none
  have first := (List.append_eq_nil_iff.mp none).1
  split at first
  · simp [String.toList_append] at first
  · cases first

/-- The identifiers of names, those of blank names left out. -/
def nameParts (names : List String) : List String := (names.map c.identifier).filter (· ≠ "")

/-- The words that underscores cut names into, as the target has them. -/
def nameWords (names : List String) : List String := (c.nameParts names).flatMap (Text.splitAt '_')

theorem nameParts_ne_empty (names : List String) : ∀ part ∈ c.nameParts names, part ≠ "" := by
  intro part member
  exact of_decide_eq_true (List.mem_filter.mp member).2

theorem map_identifier_filled (names : List String) :
    ((names.map Text.removeBlanks).filter (· ≠ "")).map c.identifier = c.nameParts names := by
  have blank : c.identifier "" = "" := c.identifier_joinWith []
  rw [nameParts, List.filter_map, List.map_map, List.filter_map]
  have same_filter (name : String) :
      ((fun part : String => decide (part ≠ "")) ∘ Text.removeBlanks) name =
        ((fun part : String => decide (part ≠ "")) ∘ c.identifier) name := by
    apply decide_eq_decide.mpr
    refine ⟨c.identifier_ne_empty, ?_⟩
    intro filled unnamed
    rw [← c.identifier_removeBlanks, unnamed] at filled
    exact filled blank
  rw [List.filter_congr fun name _ => same_filter name]
  exact List.map_congr_left fun name _ => c.identifier_removeBlanks name

theorem nameParts_upper (rule : c.engine.caseRule = .upper) (names : List String) :
    c.nameParts (names.map Text.upper) = c.nameParts names := by
  rw [nameParts, List.map_map]
  exact congrArg _ (List.map_congr_left fun name _ => c.identifier_upper rule name)

/-- The prefix of index names without its underscore. -/
def indexStem : String :=
  match c.engine with
  | .vastbase | .kingbase => "idx"
  | _ => "IDX"

theorem indexPrefix_eq : c.engine.indexPrefix = c.indexStem ++ "_" := by
  unfold indexStem
  cases c.engine <;> rfl

theorem identifier_fullIndexName (front owner : String) (columns : List String) :
    c.identifier (front ++ c.fullIndexName owner columns) =
      c.identifier (front ++ c.indexStem) ++ "_" ++ Text.joinWith "_" (c.nameParts (owner :: columns)) := by
  rw [fullIndexName, indexPrefix_eq, ← String.append_assoc, ← String.append_assoc, identifier_underscore,
    identifier_joinWith, map_identifier_filled]

variable (table : Table) (index : Index)

/-- The name of an index before it is cut or put under the schema. -/
def composedName : String :=
  let owner := index.tableOr table.name
  match c.engine with
  | .oracle => c.fullIndexName (Text.upper owner) (index.columns.map Text.upper)
  | _ => c.fullIndexName owner index.columns

/-- The name of an index needs no cut. -/
def NamedInFull : Prop := (c.composedName table index).length + c.engine.indexPrefix.length ≤ c.maxNameLength

instance : Decidable (c.NamedInFull table index) := Nat.decLe ..

/-- The name of an index in CREATE INDEX, if it is not cut. -/
def fullCreatedName : String :=
  match c.engine with
  | .kingbase => c.composedName table index
  | _ => c.qualify (c.composedName table index)

/-- The name of an index as the target has it: KingBase folds a bare name itself. -/
def indexAsRead (name : String) : String :=
  match c.engine with
  | .kingbase => c.wrap name
  | _ => name

/-- The table of an index as its name has it. -/
def indexOwner : String :=
  match c.engine with
  | .oracle => Text.upper (index.tableOr table.name)
  | _ => index.tableOr table.name

/-- The columns of an index as its name has them. -/
def indexColumns : List String :=
  match c.engine with
  | .oracle => index.columns.map Text.upper
  | _ => index.columns

/-- The name of an index as it is written. -/
def writtenIndex (name : String) : String :=
  match c.engine with
  | .kingbase => name
  | _ => c.qualify name

theorem composedName_eq :
    c.composedName table index = c.fullIndexName (c.indexOwner table index) (c.indexColumns index) := by
  unfold composedName indexOwner indexColumns
  cases c.engine <;> rfl

theorem fullCreatedName_eq : c.fullCreatedName table index = c.writtenIndex (c.composedName table index) := by
  unfold fullCreatedName writtenIndex
  cases c.engine <;> rfl

theorem identifier_composedName (front : String) :
    c.identifier (front ++ c.composedName table index) = c.identifier (front ++ c.indexStem) ++ "_" ++
      Text.joinWith "_" (c.nameParts (index.tableOr table.name :: index.columns)) := by
  unfold composedName
  split
  · rename_i oracle
    have rule : c.engine.caseRule = .upper := by rw [oracle]; rfl
    rw [identifier_fullIndexName, ← List.map_cons, c.nameParts_upper rule]
  · rw [identifier_fullIndexName]

theorem wrap_composedName (front : String) : c.wrap (front ++ c.composedName table index) =
    c.delimit (c.identifier (front ++ c.indexStem) ++ "_" ++
      Text.joinWith "_" (c.nameParts (index.tableOr table.name :: index.columns))) := by
  rw [← identifier_composedName]
  apply c.wrap_eq_delimit
  intro blank
  have none : c.identifier (front ++ c.composedName table index) = "" := by
    rw [← identifier_removeBlanks, blank]
    exact c.identifier_joinWith []
  rw [identifier_composedName] at none
  simp at none

theorem exists_dotted_eq : ∃ front, ∀ name, c.dotted name = front ++ name := by
  unfold dotted
  cases c.schemaText? with
  | none => exact ⟨"", fun name => String.empty_append.symm⟩
  | some schema => exact ⟨schema ++ ".", fun name => rfl⟩

/-- The names of all indexes begin alike, and then come the parts that they are made of. -/
theorem indexAsRead_eq : ∃ front, ∀ index, c.indexAsRead (c.fullCreatedName table index) =
    c.delimit (front ++ "_" ++ Text.joinWith "_" (c.nameParts (index.tableOr table.name :: index.columns))) := by
  obtain ⟨front, dotted_eq⟩ := c.exists_dotted_eq
  unfold indexAsRead fullCreatedName
  cases c.engine with
  | kingbase =>
      refine ⟨c.identifier ("" ++ c.indexStem), ?_⟩
      intro index
      rw [← wrap_composedName, String.empty_append]
  | _ =>
      refine ⟨c.identifier (front ++ c.indexStem), ?_⟩
      intro index
      rw [← wrap_composedName, ← dotted_eq, ← qualify_eq]

theorem indexAsRead_eq_iff (first second : Index) :
    c.indexAsRead (c.fullCreatedName table first) = c.indexAsRead (c.fullCreatedName table second) ↔
      c.nameWords (first.tableOr table.name :: first.columns) =
        c.nameWords (second.tableOr table.name :: second.columns) := by
  obtain ⟨front, read⟩ := c.indexAsRead_eq table
  have single : "_".toList = ['_'] := rfl
  rw [read, read, nameWords, nameWords,
    ← Text.joinWith_eq_iff single (c.nameParts_ne_empty _) (c.nameParts_ne_empty _)]
  constructor
  · intro same
    have chars := congrArg String.toList (delimit_injective same)
    rw [String.toList_append, String.toList_append (t := Text.joinWith ..)] at chars
    exact String.toList_inj.mp (List.append_cancel_left chars)
  · intro same
    rw [same]

theorem nameWords_cons (name : String) (names : List String) :
    c.nameWords (name :: names) = c.nameWords [name] ++ c.nameWords names := by
  rw [nameWords, nameWords, nameWords, ← List.flatMap_append, nameParts, nameParts, nameParts, ← List.filter_append]
  rfl

/-- A plain name without underscores is a word. -/
theorem nameWords_plain {names : List String}
    (plain : ∀ name ∈ names, Text.Plain name ∧ name ≠ "" ∧ '_' ∉ name.toList) :
    c.nameWords names = names.map c.foldCase := by
  induction names with
  | nil => rfl
  | cons head tail ih =>
      obtain ⟨unblank, filled, single⟩ := plain head List.mem_cons_self
      have kept : c.foldCase head ≠ "" := c.engine.caseRule.fold_ne_empty filled
      have word := Text.splitAt_single _ (c.engine.caseRule.underscore_not_mem_fold single)
      rw [String.ofList_toList] at word
      rw [nameWords_cons, ih fun name member => plain name (List.mem_cons_of_mem _ member), nameWords, nameParts,
        List.map_singleton, identifier_plain unblank, List.filter_singleton, decide_eq_true kept, cond_true,
        List.flatMap_singleton, foldCase, word]
      rfl

/-- The statement that creates an index under a name. -/
def indexCreation (name : String) : String :=
  "CREATE " ++ (if index.unique then "UNIQUE " else "") ++ "INDEX " ++ name ++ " ON " ++ c.qualify table.name ++
    " (" ++ Text.joinWith ", " ((index.columns.filter fun name => !Text.isBlankText name).map c.wrap) ++ ")"

theorem run_indexName {label owner : String} {columns : List String}
    (fits : (c.fullIndexName owner columns).length + c.engine.indexPrefix.length ≤ c.maxNameLength) (draft : Draft) :
    (c.indexName label owner columns).run draft = (.ok (c.fullIndexName owner columns), draft) := by
  have short :
      ¬((c.fullIndexName owner columns).length : Int) > (c.maxNameLength : Int) - c.engine.indexPrefix.length := by
    omega
  rw [indexName, if_neg short]
  rfl

/-- An index is created under the name made of its parts. -/
theorem run_createIndexName_of {table : Table} {index : Index} {name : String} {draft after : Draft}
    (ran : (c.indexName (c.indexOwner table index) (c.indexOwner table index) (c.indexColumns index)).run draft =
      (.ok name, after)) :
    (c.createIndexName table index).run draft = (.ok (c.writtenIndex name), after) := by
  unfold indexOwner indexColumns at ran
  unfold createIndexName writtenIndex
  cases engine : c.engine <;> rw [engine] at ran
  case kingbase => exact ran
  all_goals exact Drafting.run_bind ran

theorem run_createIndexName (full : c.NamedInFull table index) (draft : Draft) :
    (c.createIndexName table index).run draft = (.ok (c.fullCreatedName table index), draft) := by
  rw [NamedInFull, composedName_eq] at full
  rw [fullCreatedName_eq, composedName_eq]
  exact c.run_createIndexName_of (c.run_indexName full draft)

/-- CREATE INDEX for an index, unless all of its columns are blank. -/
theorem run_createIndexDdl_of {table : Table} {index : Index} {written : String} {draft after : Draft}
    (ran : (c.createIndexName table index).run draft = (.ok written, after)) :
    (c.createIndexDdl table index).run draft =
      if index.columns.all Text.isBlankText then (.ok none, draft)
      else (.ok (some (c.indexCreation table index written)), after) := by
  have names_none : (index.columns.filter fun name => !Text.isBlankText name).map c.wrap = [] ↔
      index.columns.all Text.isBlankText = true := by
    rw [List.map_eq_nil_iff, List.filter_eq_nil_iff, List.all_eq_true]
    simp only [Bool.not_eq_true', Bool.not_eq_false]
  unfold createIndexDdl
  dsimp only
  by_cases blank : index.columns.all Text.isBlankText = true
  · rw [if_pos blank, if_pos (List.isEmpty_iff.mpr (names_none.mpr blank))]
    rfl
  · rw [if_neg blank, if_neg (by rwa [List.isEmpty_iff, names_none])]
    exact Drafting.run_bind ran

theorem not_all_blank {names : List String} (filled : ∃ name ∈ names, Text.isBlankText name = false) :
    ¬names.all Text.isBlankText = true := by
  obtain ⟨name, member, unblank⟩ := filled
  intro all
  rw [List.all_eq_true.mp all name member] at unblank
  cases unblank

theorem run_createIndexDdl (full : c.NamedInFull table index)
    (filled : ∃ name ∈ index.columns, Text.isBlankText name = false) (draft : Draft) :
    (c.createIndexDdl table index).run draft =
      (.ok (some (c.indexCreation table index (c.fullCreatedName table index))), draft) := by
  rw [c.run_createIndexDdl_of (c.run_createIndexName table index full draft), if_neg (not_all_blank filled)]

/-- The statements that create a table create the index under its name. -/
theorem gives_createDdl_index (own : index ∈ c.ownIndexes table) (full : c.NamedInFull table index)
    (filled : ∃ name ∈ index.columns, Text.isBlankText name = false) :
    (c.createDdl table).Gives fun statements =>
      c.indexCreation table index (c.fullCreatedName table index) ∈ statements := by
  have created : ∀ other ∈ c.ownIndexes table, (c.createIndexDdl table other).Gives fun statement =>
      other = index → statement = some (c.indexCreation table index (c.fullCreatedName table index)) := by
    intro other _ draft statement given same
    rw [same, c.run_createIndexDdl table index full filled] at given
    exact (Except.ok.inj given).symm
  intro draft statements given
  obtain ⟨_, indexes, _, rfl, _, made, _⟩ := c.gives_createDdl_each table (Drafting.gives_any _) created
    (fun column _ _ => Drafting.gives_any _) draft statements given
  obtain ⟨statement, listed, same⟩ := Drafting.exists_of_forall₂ made own
  apply List.mem_append_left
  apply List.mem_append_left
  exact List.mem_cons_of_mem _ (List.mem_filterMap.mpr ⟨statement, listed, same rfl⟩)

/-- Two indexes of a table whose names are not cut are created under names that the target takes for one and the same
iff underscores cut the names of their tables and columns into the same words. With one owner the columns decide, and
if none of them holds a blank, a point or an underscore, then the names differ whenever the folded columns do. -/
theorem createIndexDdl_meet_iff (c : Compiler) (table : Table) {first second : Index}
    (own : first ∈ c.ownIndexes table) (also : second ∈ c.ownIndexes table)
    (first_full : c.NamedInFull table first) (second_full : c.NamedInFull table second)
    (first_filled : ∃ name ∈ first.columns, Text.isBlankText name = false)
    (second_filled : ∃ name ∈ second.columns, Text.isBlankText name = false) :
    let meet := c.indexAsRead (c.fullCreatedName table first) = c.indexAsRead (c.fullCreatedName table second)
    (∀ draft, (c.createIndexDdl table first).run draft =
        (.ok (some (c.indexCreation table first (c.fullCreatedName table first))), draft) ∧
      (c.createIndexDdl table second).run draft =
        (.ok (some (c.indexCreation table second (c.fullCreatedName table second))), draft)) ∧
    ((c.createDdl table).Gives fun statements =>
      c.indexCreation table first (c.fullCreatedName table first) ∈ statements ∧
        c.indexCreation table second (c.fullCreatedName table second) ∈ statements) ∧
    (meet ↔ c.nameWords (first.tableOr table.name :: first.columns) =
      c.nameWords (second.tableOr table.name :: second.columns)) ∧
    (first.tableOr table.name = second.tableOr table.name →
      (meet ↔ c.nameWords first.columns = c.nameWords second.columns) ∧
      ((∀ name ∈ first.columns ++ second.columns, Text.Plain name ∧ name ≠ "" ∧ '_' ∉ name.toList) →
        (meet ↔ first.columns.map c.foldCase = second.columns.map c.foldCase))) := by
  intro meet
  have meet_iff : meet ↔ c.nameWords (first.tableOr table.name :: first.columns) =
      c.nameWords (second.tableOr table.name :: second.columns) := c.indexAsRead_eq_iff table first second
  refine ⟨?_, ?_, meet_iff, ?_⟩
  · intro draft
    exact ⟨c.run_createIndexDdl table first first_full first_filled draft,
      c.run_createIndexDdl table second second_full second_filled draft⟩
  · intro draft statements given
    exact ⟨c.gives_createDdl_index table first own first_full first_filled draft statements given,
      c.gives_createDdl_index table second also second_full second_filled draft statements given⟩
  · intro one_owner
    have columns_decide : meet ↔ c.nameWords first.columns = c.nameWords second.columns := by
      rw [meet_iff, one_owner, c.nameWords_cons _ first.columns, c.nameWords_cons _ second.columns,
        List.append_cancel_left_eq]
    refine ⟨columns_decide, ?_⟩
    intro plain
    rw [columns_decide, c.nameWords_plain fun name member => plain name (List.mem_append_left _ member),
      c.nameWords_plain fun name member => plain name (List.mem_append_right _ member)]

/-- A table with an index on two columns, one on a column with both their names, and one on the first of them. -/
def visits : Table :=
  { name := "visits"
    columns := [{ name := "day", typeName := some "DATE", category := .date },
      { name := "room", typeName := some "INTEGER", category := .integer },
      { name := "day_room", typeName := some "INTEGER", category := .integer }]
    indexes := [{ name := some "by_two", table := some "visits", columns := ["day", "room"] },
      { name := some "by_one", table := some "visits", columns := ["day_room"] },
      { name := some "by_day", table := some "visits", columns := ["day"] }] }

theorem createIndexDdl_meet_iff_visits :
    let c : Compiler := { engine := .sqlite, config := none }
    let byTwo : Index := { name := some "by_two", table := some "visits", columns := ["day", "room"] }
    let byDay : Index := { name := some "by_day", table := some "visits", columns := ["day"] }
    c.indexAsRead (c.fullCreatedName visits byTwo) ≠ c.indexAsRead (c.fullCreatedName visits byDay) := by
  intro c byTwo byDay
  have full : c.NamedInFull visits byTwo ∧ c.NamedInFull visits byDay := by decide
  have own : byTwo ∈ c.ownIndexes visits ∧ byDay ∈ c.ownIndexes visits := by decide
  obtain ⟨_, _, _, one_owner⟩ := createIndexDdl_meet_iff c visits own.1 own.2 full.1 full.2
    (by decide) (by decide)
  have plain : ∀ name ∈ byTwo.columns ++ byDay.columns, Text.Plain name ∧ name ≠ "" ∧ '_' ∉ name.toList := by
    decide
  rw [ne_eq, (one_owner rfl).2 plain]
  decide

/-- An index on two columns and one on a column with both their names are created under one name. -/
theorem createDdl_repeats_name :
    let c : Compiler := { engine := .sqlite, config := none }
    let byTwo : Index := { name := some "by_two", table := some "visits", columns := ["day", "room"] }
    let byOne : Index := { name := some "by_one", table := some "visits", columns := ["day_room"] }
    byTwo ∈ c.ownIndexes visits ∧ byOne ∈ c.ownIndexes visits ∧
    c.NamedInFull visits byTwo ∧ c.NamedInFull visits byOne ∧
    (∀ name ∈ byTwo.columns ++ byOne.columns, Text.Plain name ∧ name ≠ "") ∧
    byTwo.columns.map c.foldCase ≠ byOne.columns.map c.foldCase ∧
    ((c.createDdl visits).run {}).1 = .ok [
      "CREATE TABLE \"visits\" (\"day\" TEXT NULL, \"room\" INTEGER NULL, \"day_room\" INTEGER NULL)",
      "CREATE INDEX \"IDX_visits_day_room\" ON \"visits\" (\"day\", \"room\")",
      "CREATE INDEX \"IDX_visits_day_room\" ON \"visits\" (\"day_room\")",
      "CREATE INDEX \"IDX_visits_day\" ON \"visits\" (\"day\")"] := by
  exact ⟨by decide, by decide, by decide, by decide, by decide, by decide, rfl⟩

end Compiler

end TableFerry
