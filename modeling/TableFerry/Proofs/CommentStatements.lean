import TableFerry.Proofs.NamePaths
import TableFerry.Proofs.PrimaryKeys
import TableFerry.Proofs.TextDefaults
/-! Whether the statements that set comments address the table that was created. They name it once more, by the dialect
between marks or in literals, behind a statement that has freed its names of blanks and folded them. The last theorem says
for each of these statements whether a database reads in it what the statement that creates the table declares. -/

namespace TableFerry

open Text

/-- What words leave of a text that opens with them in any case. -/
def skip (words : String) (cs : List Char) : Option (List Char) :=
  if (cs.take words.length).map Char.toUpper = words.toList then some (cs.drop words.length) else none

theorem skip_append {words front : String} (raised : front.toList.map Char.toUpper = words.toList) (rest : List Char) :
    skip words (front.toList ++ rest) = some rest := by
  have long : front.toList.length = words.length := by
    rw [← String.length_toList, ← raised, List.length_map]
  rw [skip, ← long, List.take_left, if_pos raised, List.drop_left]

theorem skip_other {words other front : String} (raised : front.toList.map Char.toUpper = other.toList)
    (long : words.length ≤ other.length) (differ : other.toList.take words.length ≠ words.toList) (rest : List Char) :
    skip words (front.toList ++ rest) = none := by
  have length : front.toList.length = other.length := by
    rw [← String.length_toList, ← raised, List.length_map]
  rw [skip, List.take_append_of_le_length (length.symm ▸ long), List.map_take, raised, if_neg differ]

theorem eq_of_skip {words : String} {cs rest : List Char} (found : skip words cs = some rest) :
    ∃ front, cs = front ++ rest ∧ front.map Char.toUpper = words.toList := by
  unfold skip at found
  split at found
  next raised =>
    cases found
    exact ⟨_, (List.take_append_drop _ _).symm, raised⟩
  next => cases found

/-- A comment as a database takes it: on a table or on a column of it, by their names. -/
structure Remark where
  path : List String
  column : Option String
  text : List Char
  deriving DecidableEq, Repr

namespace Remark

/-! SQL Server takes comments by a procedure, whose arguments are literals. -/

/-- At most `n` literals with commas between them. -/
def readArguments : Nat → List Char → Option (List (List Char))
  | 0, _ => none
  | n + 1, cs =>
    (Literal.readNational cs).bind fun read =>
      if read.2.2 = [] then some [read.2.1]
      else (skip ", " read.2.2).bind fun rest => (readArguments n rest).map fun texts => read.2.1 :: texts

/-- What the arguments say that describe a table or one of its columns. -/
def arguments (text : List Char) (schema table : String) (column : Option String) : List (List Char) :=
  ["MS_Description".toList, text, "SCHEMA".toList, schema.toList, "TABLE".toList, table.toList] ++
    (column.map fun column => ["COLUMN".toList, column.toList]).getD []

/-- What is described by arguments that say this. -/
def ofArguments (texts : List (List Char)) : Option Remark :=
  match texts with
  | _ :: text :: _ :: schema :: _ :: table :: rest =>
    let column := rest[1]?.map String.ofList
    if texts = arguments text (String.ofList schema) (String.ofList table) column then
      some ⟨[String.ofList schema, String.ofList table], column, text⟩
    else none
  | _ => none

/-- The procedure takes the name and the text of a property and at most three levels, each by its kind and its name. -/
def readProperty (cs : List Char) : Option Remark :=
  ((skip "EXEC SP_ADDEXTENDEDPROPERTY " cs).bind (readArguments 8)).bind ofArguments

variable {text rest cs : List Char} {schema table : String} {column : Option String} {texts : List (List Char)}

theorem ofArguments_arguments (text : List Char) (schema table : String) (column : Option String) :
    ofArguments (arguments text schema table column) = some ⟨[schema, table], column, text⟩ := by
  cases column <;> simp [ofArguments, arguments]

theorem eq_arguments {path : List String} (described : ofArguments texts = some ⟨path, column, text⟩) :
    ∃ schema table, path = [schema, table] ∧ texts = arguments text schema table column := by
  unfold ofArguments at described
  split at described
  next =>
    dsimp only at described
    split at described
    next same =>
      cases described
      exact ⟨_, _, rfl, same⟩
    next => cases described
  next => cases described

/-- A literal is read as a text in front of everything that does not go on with a quote. -/
def Reads (literal : String) (text : List Char) : Prop :=
  ∀ rest, rest.head? ≠ some '\'' → ∃ marked, Literal.readNational (literal.toList ++ rest) = some (marked, text, rest)

theorem reads_national (text : String) : Reads (Literal.national text) text.toList :=
  fun rest apart => ⟨_, (Literal.readNational_national_iff text rest).mpr apart⟩

theorem reads_bare {name : String} (free : '\'' ∉ name.toList) : Reads ("'" ++ name ++ "'") name.toList := by
  intro rest apart
  have found : Literal.read ('\'' :: (name.toList ++ '\'' :: rest)) = some (name.toList, rest) := by
    rw [Literal.read, readBetween_eq_some_iff, doubleMark_free free]
    exact ⟨rfl, apart⟩
  have chars : ("'" ++ name ++ "'").toList ++ rest = '\'' :: (name.toList ++ '\'' :: rest) := by simp
  refine ⟨false, ?_⟩
  rw [chars, Literal.readNational, if_neg (by decide), found]
  rfl

theorem readArguments_joinWith {literals : List String} (some_literal : literals ≠ [])
    (reads : List.Forall₂ Reads literals texts) {n : Nat} (bound : literals.length ≤ n) :
    readArguments n (joinWith ", " literals).toList = some texts := by
  induction reads generalizing n with
  | nil => exact absurd rfl some_literal
  | @cons literal text literals texts own others ih =>
      obtain ⟨n, rfl⟩ : ∃ m, n = m + 1 := Nat.exists_eq_succ_of_ne_zero (by rintro rfl; simp at bound)
      by_cases last : literals = []
      · subst last
        cases others
        obtain ⟨marked, read⟩ := own [] (by simp)
        rw [List.append_nil] at read
        simp [joinWith, readArguments, read]
      · have more := ih last (Nat.le_of_succ_le_succ bound)
        obtain ⟨marked, read⟩ := own (", ".toList ++ (joinWith ", " literals).toList) (by simp)
        have raised : ", ".toList.map Char.toUpper = ", ".toList := rfl
        have goes_on : ", ".toList ++ (joinWith ", " literals).toList ≠ [] := by simp
        rw [joinWith_cons last, String.append_assoc, String.toList_append, String.toList_append, readArguments, read,
          Option.bind_some, if_neg goes_on, skip_append raised, Option.bind_some, more]
        rfl

theorem count_read (read : Literal.read cs = some (text, rest)) :
    cs.count '\'' = 2 * text.count '\'' + 2 + rest.count '\'' := by
  have doubled : (doubleMark '\'' text).count '\'' = 2 * text.count '\'' := Literal.count_doubleQuotes text
  rw [(readBetween_eq_some_iff.mp read).1]
  simp [doubled]
  omega

theorem count_readNational {marked : Bool} (read : Literal.readNational cs = some (marked, text, rest)) :
    cs.count '\'' = 2 * text.count '\'' + 2 + rest.count '\'' := by
  cases cs with
  | nil => cases read
  | cons c cs =>
      rw [Literal.readNational] at read
      split at read
      next mark =>
        have inner : Literal.read cs = some (text, rest) ∧ marked = true := by simpa using read
        rw [mark, List.count_cons_of_ne (by decide), count_read inner.1]
      next =>
        have inner : Literal.read (c :: cs) = some (text, rest) ∧ marked = false := by simpa using read
        exact count_read inner.1

theorem count_skip {words : String} (plain : '\'' ∉ words.toList) (skipped : skip words cs = some rest) :
    cs.count '\'' = rest.count '\'' := by
  obtain ⟨front, rfl, raised⟩ := eq_of_skip skipped
  have free : '\'' ∉ front := by
    intro member
    have quote : Char.toUpper '\'' ∈ words.toList := raised ▸ List.mem_map_of_mem member
    exact plain quote
  rw [List.count_append, List.count_eq_zero.mpr free, Nat.zero_add]

/-- Every argument has its quotes twice and two around it. -/
theorem count_readArguments {n : Nat} (read : readArguments n cs = some texts) :
    cs.count '\'' = 2 * texts.flatten.count '\'' + 2 * texts.length := by
  induction n generalizing cs texts with
  | zero => cases read
  | succ n ih =>
      obtain ⟨⟨marked, text, rest⟩, first, later⟩ := Option.bind_eq_some_iff.mp read
      have own := count_readNational first
      dsimp only at later
      split at later
      next last =>
        cases later
        simpa [last] using own
      next =>
        simp only [Option.bind_eq_some_iff, Option.map_eq_some_iff] at later
        obtain ⟨tail, skipped, others, deeper, rfl⟩ := later
        have behind := ih deeper
        rw [← count_skip (by decide) skipped] at behind
        rw [List.flatten_cons, List.count_append, List.length_cons]
        omega

/-- The literals by which a table or one of its columns is described. -/
def literals (comment schema table : String) (column : Option String) : List String :=
  ["'MS_Description'", Literal.national comment, "'SCHEMA'", "'" ++ schema ++ "'", "'TABLE'", "'" ++ table ++ "'"] ++
    (column.map fun column => ["'COLUMN'", "'" ++ column ++ "'"]).getD []

def property (comment schema table : String) (column : Option String) : String :=
  "EXEC SP_ADDEXTENDEDPROPERTY " ++ joinWith ", " (literals comment schema table column)

theorem readProperty_call (rest : List Char) :
    readProperty ("EXEC SP_ADDEXTENDEDPROPERTY ".toList ++ rest) = (readArguments 8 rest).bind ofArguments := by
  have raised : "EXEC SP_ADDEXTENDEDPROPERTY ".toList.map Char.toUpper = "EXEC SP_ADDEXTENDEDPROPERTY ".toList := by
    decide +kernel
  unfold readProperty
  rw [skip_append raised, Option.bind_some]

theorem readProperty_eq (comment schema table : String) (column : Option String) :
    readProperty (property comment schema table column).toList =
      (readArguments 8 (joinWith ", " (literals comment schema table column)).toList).bind ofArguments := by
  unfold property
  rw [String.toList_append]
  exact readProperty_call _

theorem readProperty_property {comment : String} (free : ∀ name ∈ schema :: table :: column.toList, '\'' ∉ name.toList) :
    readProperty (property comment schema table column).toList = some ⟨[schema, table], column, comment.toList⟩ := by
  have reads : List.Forall₂ Reads (literals comment schema table column)
      (arguments comment.toList schema table column) := by
    have word (name : String) (plain : '\'' ∉ name.toList) : Reads ("'" ++ name ++ "'") name.toList := reads_bare plain
    have front : List.Forall₂ Reads
        ["'MS_Description'", Literal.national comment, "'SCHEMA'", "'" ++ schema ++ "'", "'TABLE'", "'" ++ table ++ "'"]
        ["MS_Description".toList, comment.toList, "SCHEMA".toList, schema.toList, "TABLE".toList, table.toList] :=
      .cons (word "MS_Description" (by decide)) (.cons (reads_national comment) (.cons (word "SCHEMA" (by decide))
        (.cons (word schema (free schema (by simp))) (.cons (word "TABLE" (by decide))
          (.cons (word table (free table (by simp))) .nil)))))
    cases column with
    | none => exact front
    | some column =>
        exact List.rel_append front (.cons (word "COLUMN" (by decide)) (.cons (word column (free column (by simp))) .nil))
  have bound : (literals comment schema table column).length ≤ 8 := by cases column <;> simp [literals]
  rw [readProperty_eq, readArguments_joinWith (by simp [literals]) reads bound, Option.bind_some, ofArguments_arguments]

/-- How many quotes there are in names. -/
def quotes (names : List String) : Nat := (names.flatMap String.toList).count '\''

theorem quotes_cons (name : String) (names : List String) :
    quotes (name :: names) = name.toList.count '\'' + quotes names := by
  rw [quotes, List.flatMap_cons, List.count_append]
  rfl

theorem quotes_append (names others : List String) : quotes (names ++ others) = quotes names + quotes others := by
  simp [quotes]

theorem quotes_eq_zero_iff {names : List String} : quotes names = 0 ↔ ∀ name ∈ names, '\'' ∉ name.toList := by
  simp [quotes, List.count_eq_zero]

theorem count_joinWith {separator : String} (free : '\'' ∉ separator.toList) (parts : List String) :
    (joinWith separator parts).toList.count '\'' = quotes parts := by
  induction parts with
  | nil => rfl
  | cons part parts ih =>
      by_cases last : parts = []
      · simp [last, joinWith, quotes]
      · rw [joinWith_cons last, quotes_cons, ← ih]
        simp [List.count_eq_zero.mpr free]

theorem count_national (text : String) :
    (Literal.national text).toList.count '\'' = 2 * text.toList.count '\'' + 2 := by
  obtain ⟨marked, read⟩ := reads_national text [] (by simp)
  rw [List.append_nil] at read
  exact count_readNational read

/-- The quotes around as many literals as describe a table or one of its columns. -/
def enclosing (column : Option String) : Nat := if column.isSome then 16 else 12

theorem enclosing_none : enclosing none = 12 := rfl

theorem enclosing_some (column : String) : enclosing (some column) = 16 := rfl

theorem count_bare (name : String) : ("'" ++ name ++ "'").toList.count '\'' = name.toList.count '\'' + 2 := by
  simp

/-- Of the words that stand in a call, none has quotes but the ones around it. -/
theorem count_words : ("'MS_Description'".toList.count '\'' = 2 ∧ "'SCHEMA'".toList.count '\'' = 2 ∧
    "'TABLE'".toList.count '\'' = 2 ∧ "'COLUMN'".toList.count '\'' = 2) ∧
    "MS_Description".toList.count '\'' = 0 ∧ "SCHEMA".toList.count '\'' = 0 ∧ "TABLE".toList.count '\'' = 0 ∧
    "COLUMN".toList.count '\'' = 0 := by decide

theorem quotes_literals (comment schema table : String) (column : Option String) :
    quotes (literals comment schema table column) =
      2 * comment.toList.count '\'' + quotes (schema :: table :: column.toList) + enclosing column := by
  obtain ⟨⟨description, schemas, tables, columns⟩, _⟩ := count_words
  have none_left : quotes [] = 0 := rfl
  unfold literals
  rw [quotes_append]
  cases column with
  | none =>
      simp only [Option.map_none, Option.getD_none, Option.toList_none, quotes_cons, none_left, count_national, count_bare,
        description, schemas, tables, enclosing_none]
      omega
  | some column =>
      simp only [Option.map_some, Option.getD_some, Option.toList_some, quotes_cons, none_left, count_national, count_bare,
        description, schemas, tables, columns, enclosing_some]
      omega

theorem quotes_arguments (comment : List Char) (schema table : String) (column : Option String) :
    2 * (arguments comment schema table column).flatten.count '\'' + 2 * (arguments comment schema table column).length =
      2 * comment.count '\'' + 2 * quotes (schema :: table :: column.toList) + enclosing column := by
  obtain ⟨_, description, schemas, tables, columns⟩ := count_words
  have none_left : quotes [] = 0 := rfl
  unfold arguments
  cases column with
  | none =>
      simp only [Option.map_none, Option.getD_none, Option.toList_none, List.append_nil, quotes_cons, none_left,
        List.flatten_cons, List.flatten_nil, List.count_append, List.length_cons, List.length_nil, description, schemas,
        tables, enclosing_none]
      omega
  | some column =>
      simp only [Option.map_some, Option.getD_some, Option.toList_some, List.cons_append, List.nil_append, quotes_cons,
        none_left, List.flatten_cons, List.flatten_nil, List.count_append, List.count_nil, List.length_cons,
        List.length_nil, description, schemas, tables, columns, enclosing_some]
      omega

/-- Names with as many quotes as the ones that were written are read only where there are none. -/
theorem unquoted_of_readProperty {comment : String} {path : List String} {other : Option String}
    (read : readProperty (property comment schema table column).toList = some ⟨path, other, comment.toList⟩)
    (alike : other.isSome = column.isSome)
    (kept : quotes (path ++ other.toList) = quotes (schema :: table :: column.toList)) :
    ∀ name ∈ schema :: table :: column.toList, '\'' ∉ name.toList := by
  rw [readProperty_eq] at read
  obtain ⟨texts, taken, described⟩ := Option.bind_eq_some_iff.mp read
  obtain ⟨first, second, rfl, rfl⟩ := eq_arguments described
  have same : enclosing other = enclosing column := by rw [enclosing, enclosing, alike]
  have counted := count_readArguments taken
  rw [count_joinWith (by decide)] at counted
  rw [quotes_literals, quotes_arguments, same] at counted
  change quotes (first :: second :: other.toList) = _ at kept
  exact quotes_eq_zero_iff.mp (by omega)

end Remark

namespace Compiler

variable (c : Compiler)

/-! The other dialects have a statement for comments, with names between marks. -/

/-- Names, and the text of a literal behind them that ends the statement. -/
def readNamed (cs : List Char) : Option (List String × List Char) :=
  (c.readNames cs).bind fun named =>
    ((skip " IS " named.2).bind Literal.read).bind fun read => if read.2 = [] then some (named.1, read.1) else none

/-- A statement that sets the comment of a table or of one of its columns. -/
def readCommentOn (cs : List Char) : Option Remark :=
  match skip "COMMENT ON TABLE " cs with
  | some rest => (c.readNamed rest).map fun named => ⟨named.1, none, named.2⟩
  | none =>
    (skip "COMMENT ON COLUMN " cs).bind fun rest =>
      (c.readNamed rest).map fun named => ⟨named.1.dropLast, named.1.getLast?, named.2⟩

/-- The comment that a statement sets, as the database of the dialect reads it. -/
def readRemark (sql : String) : Option Remark :=
  if c.engine = .sqlserver then Remark.readProperty sql.toList else c.readCommentOn sql.toList

/-- A text gives these names in front of a space. -/
def Spells (written : String) (names : List String) : Prop :=
  ∀ rest, c.readNames (written.toList ++ ' ' :: rest) = some (names, ' ' :: rest)

variable {c} {written between schema : String} {names : List String}

theorem spells_path (some_name : names ≠ []) (free : ∀ name ∈ names, c.engine.closingMark ∉ name.toList)
    (path : written.toList = Text.path c.engine.marks.1 c.engine.closingMark (names.map String.toList)) :
    c.Spells written names := by
  intro rest
  have unspaced : c.engine.closingMark ≠ ' ' := by cases c.engine <;> decide
  rw [path]
  exact c.readNames_path some_name free (by simpa using unspaced.symm) (by simp)

theorem free_namePath {name : String} (free : c.engine.closingMark ∉ name.toList) :
    ∀ part ∈ c.namePath name, c.engine.closingMark ∉ part.toList := by
  intro part among member
  exact free (c.closingMark_mem_namePath.mp ⟨part, among, member⟩)

theorem spells_wrap {name : String} (filled : isBlankText name = false) (free : c.engine.closingMark ∉ name.toList) :
    c.Spells (c.wrap name) (c.namePath name) := by
  have named : removeBlanks name ≠ "" := by
    rw [ne_eq, removeBlanks_eq_empty_iff, filled]
    exact Bool.false_ne_true
  exact spells_path (splitAt_ne_nil _ _) (free_namePath free) (c.toList_wrap named)

/-- The words of a statement in front of a name and behind it, in any case. -/
structure CommentWords (opening front between : String) : Prop where
  opens : front.toList.map Char.toUpper = opening.toList
  spaced : between.toList.head? = some ' '
  joins : between.toList.map Char.toUpper = " IS ".toList

section

variable {front : String} (spells : c.Spells written names) (comment : String) (drop : Bool)
include spells

theorem readNamed_quote {opening : String} (words : CommentWords opening front between) :
    c.readNamed (written ++ between ++ Literal.quote comment drop).toList = some (names, Literal.kept drop comment) := by
  have read := (Literal.read_quote_iff comment drop []).mpr (by simp)
  obtain ⟨rest, chars⟩ := List.head?_eq_some_iff.mp words.spaced
  have named := spells (rest ++ (Literal.quote comment drop).toList)
  rw [← List.cons_append, ← chars] at named
  rw [List.append_nil] at read
  rw [String.toList_append, String.toList_append, List.append_assoc, readNamed, named, Option.bind_some,
    skip_append words.joins, Option.bind_some, read, Option.bind_some, if_pos rfl]

theorem readCommentOn_table (words : CommentWords "COMMENT ON TABLE " front between) :
    c.readCommentOn (front ++ written ++ between ++ Literal.quote comment drop).toList =
      some ⟨names, none, Literal.kept drop comment⟩ := by
  have split : (front ++ written ++ between ++ Literal.quote comment drop).toList =
      front.toList ++ (written ++ between ++ Literal.quote comment drop).toList := by simp
  rw [split, readCommentOn, skip_append words.opens]
  exact congrArg (Option.map _) (readNamed_quote spells comment drop words)

theorem readCommentOn_column (words : CommentWords "COMMENT ON COLUMN " front between) :
    c.readCommentOn (front ++ written ++ between ++ Literal.quote comment drop).toList =
      some ⟨names.dropLast, names.getLast?, Literal.kept drop comment⟩ := by
  have split : (front ++ written ++ between ++ Literal.quote comment drop).toList =
      front.toList ++ (written ++ between ++ Literal.quote comment drop).toList := by simp
  rw [split, readCommentOn, skip_other words.opens (by decide) (by decide), skip_append words.opens]
  exact congrArg (Option.map _) (readNamed_quote spells comment drop words)

end

end Compiler

namespace Table

/-- The columns with a comment, and behind them the table itself if it has one. -/
def commented (table : Table) : List (Option Column) :=
  (table.columns.filter fun column => !Compiler.isBlankOption column.comment).map some ++
    if Compiler.isBlankOption table.comment then [] else [none]

/-- The comment of a table or of one of its columns. -/
def commentOf (table : Table) (target : Option Column) : String := ((target.elim table.comment (·.comment))).getD ""

end Table

namespace Compiler

variable (c : Compiler)

/-- The statement that sets the comment of a table or of one of its columns. -/
def commentStatement (table : Table) (target : Option Column) : String :=
  target.elim (c.tableCommentDdl table) (c.columnCommentDdl table)

/-- What this statement should say where the table was created under a schema. -/
def addressed (schema : String) (table : Table) (target : Option Column) : Remark :=
  { path := c.namePath (schema ++ "." ++ table.name)
    column := target.map fun column => c.foldCase (removeBlanks column.name)
    text := Literal.kept (c.engine == .oracle || c.engine == .kingbase) (table.commentOf target) }

/-- Two names with a point between them are folded one by one. -/
def FoldsApart (one other : String) : Prop := c.foldCase (one ++ "." ++ other) = c.foldCase one ++ "." ++ c.foldCase other

variable {c} {schema : String} {table : Table} {target : Option Column}

theorem namePath_single {name : String} (free : '.' ∉ name.toList) : c.namePath name = [c.foldCase (removeBlanks name)] := by
  have undotted : '.' ∉ (c.foldCase (removeBlanks name)).toList := by
    apply c.engine.caseRule.dot_not_mem_fold
    rwa [mem_removeBlanks (by decide)]
  have single := splitAt_single _ undotted
  rwa [String.ofList_toList] at single

theorem namePath_behind_iff {front name : String} (free : '.' ∉ name.toList) :
    c.namePath (front ++ "." ++ name) = c.namePath front ++ [c.foldCase (removeBlanks name)] ↔
      c.FoldsApart (removeBlanks front) (removeBlanks name) := by
  have dot : removeBlanks "." = "." := by decide
  have apart : c.namePath front ++ [c.foldCase (removeBlanks name)] =
      splitAt '.' (c.foldCase (removeBlanks front) ++ "." ++ c.foldCase (removeBlanks name)) := by
    rw [splitAt_cut rfl, ← namePath_single free]
    rfl
  rw [apart, namePath, removeBlanks_append, removeBlanks_append, dot]
  exact ⟨fun same => splitAt_injective same, fun folds => congrArg (splitAt '.') folds⟩

theorem foldsApart_of_rule (rule : c.engine.caseRule ≠ .lower) (one other : String) : c.FoldsApart one other := by
  unfold FoldsApart foldCase
  cases own : c.engine.caseRule with
  | upper =>
      apply String.toList_inj.mp
      simp [CaseRule.fold, Text.upper, upperChars_append]
      rfl
  | lower => exact absurd own rule
  | remain => rfl

/-- Only a capital sigma is folded otherwise behind a point or in front of one. -/
theorem foldsApart_without_sigma {one other : String} (absent : capitalSigma ∉ one.toList ∧ capitalSigma ∉ other.toList) :
    c.FoldsApart one other := by
  by_cases rule : c.engine.caseRule = .lower
  · have lowered (s : String) (free : capitalSigma ∉ s.toList) : (Text.lower s).toList = s.toList.flatMap lowerChar := by
      rw [Text.lower, String.toList_ofList, lowerChars, lowerFrom_without_sigma [] free]
    apply String.toList_inj.mp
    have whole : capitalSigma ∉ (one ++ "." ++ other).toList := by
      simp [absent]
      decide
    simp only [foldCase, rule, CaseRule.fold, String.toList_append, lowered _ whole, lowered _ absent.1, lowered _ absent.2,
      List.flatMap_append]
    rfl
  · exact foldsApart_of_rule rule one other

/-- At the end of a name it is folded to a final sigma, but not in front of a point and another letter. -/
example : ¬ FoldsApart { engine := .kingbase, config := none } "ΑΣ" "Β" := by
  unfold FoldsApart
  decide +kernel

theorem qualify_schema (given : c.schemaText? = some schema) (name : String) :
    c.qualify name = c.wrap (schema ++ "." ++ name) := by
  rw [qualify, given]

theorem spells_qualify (given : c.schemaText? = some schema) (name : String)
    (schema_free : c.engine.closingMark ∉ schema.toList) (free : c.engine.closingMark ∉ name.toList) :
    c.Spells (c.qualify name) (c.namePath (schema ++ "." ++ name)) := by
  have undotted : c.engine.closingMark ≠ '.' := by cases c.engine <;> decide
  rw [qualify_schema given]
  apply spells_wrap
  · simp [isBlankText, isBlankChar]
  · simp [schema_free, free, undotted]

/-- A table under a schema whose statement declares it: its names have no points, those of columns are not blank, and no
closing mark stands in a name. -/
structure Declarable (c : Compiler) (schema : String) (table : Table) : Prop where
  given : c.schemaText? = some schema
  undotted : ∀ name ∈ table.name :: table.columns.map (·.name), '.' ∉ name.toList
  filled : ∀ column ∈ table.columns, isBlankText column.name = false
  unclosed : ∀ name ∈ schema :: table.name :: table.columns.map (·.name), c.engine.closingMark ∉ name.toList

theorem remark_eq_iff {names path : List String} {column : String} {text : List Char} :
    some (Remark.mk names.dropLast names.getLast? text) = some ⟨path, some column, text⟩ ↔ names = path ++ [column] := by
  rw [Option.some.injEq, Remark.mk.injEq, and_iff_left rfl]
  constructor
  · rintro ⟨rfl, last⟩
    exact (List.dropLast_append_getLast? _ last).symm
  · rintro rfl
    simp

def commentOpening (target : Option Column) : String :=
  match target with
  | none => "COMMENT ON TABLE "
  | some _ => "COMMENT ON COLUMN "

/-- How a statement refers to a table or to one of its columns: PostgreSQL writes the name of a column by itself. -/
def reference (c : Compiler) (table : Table) : Option Column → String
  | none => c.qualify table.name
  | some column =>
    if c.engine = .postgresql then c.qualify table.name ++ "." ++ c.wrap column.name
    else c.qualify (table.name ++ "." ++ column.name)

/-- What dialects with a statement for comments write. -/
theorem exists_commentWords (marked : c.engine = .oracle ∨ c.engine = .postgresql ∨ c.engine = .kingbase)
    (table : Table) (target : Option Column) : ∃ front between,
      CommentWords (commentOpening target) front between ∧
      c.commentStatement table target = front ++ c.reference table target ++ between ++
        Literal.quote (table.commentOf target) (c.engine == .oracle || c.engine == .kingbase) := by
  cases target with
  | none =>
      have upper : CommentWords "COMMENT ON TABLE " "COMMENT ON TABLE " " IS " := ⟨by decide, rfl, by decide⟩
      have lower : CommentWords "COMMENT ON TABLE " "comment on table " " is " := ⟨by decide, rfl, by decide⟩
      unfold commentStatement Option.elim tableCommentDdl
      rcases marked with engine | engine | engine <;> rw [engine]
      · exact ⟨_, _, upper, rfl⟩
      · exact ⟨_, _, upper, rfl⟩
      · exact ⟨_, _, lower, rfl⟩
  | some column =>
      have upper : CommentWords "COMMENT ON COLUMN " "COMMENT ON COLUMN " " IS " := ⟨by decide, rfl, by decide⟩
      have lower : CommentWords "COMMENT ON COLUMN " "comment on column " " is " := ⟨by decide, rfl, by decide⟩
      unfold commentStatement Option.elim columnCommentDdl reference
      rcases marked with engine | engine | engine <;> rw [engine]
      · exact ⟨_, _, upper, rfl⟩
      · refine ⟨_, _, upper, ?_⟩
        simp only [String.append_assoc, if_true]
        rfl
      · exact ⟨_, _, lower, rfl⟩

theorem readRemark_table (declarable : c.Declarable schema table)
    (marked : c.engine = .oracle ∨ c.engine = .postgresql ∨ c.engine = .kingbase) :
    c.readRemark (c.commentStatement table none) = some (c.addressed schema table none) := by
  have unlike : c.engine ≠ .sqlserver := by rcases marked with engine | engine | engine <;> rw [engine] <;> decide
  have spells := spells_qualify declarable.given table.name (declarable.unclosed schema (by simp))
    (declarable.unclosed table.name (by simp))
  obtain ⟨front, between, words, written⟩ := exists_commentWords marked table none
  rw [readRemark, if_neg unlike, written]
  exact readCommentOn_table spells _ _ words

theorem readRemark_column {column : Column} (spells : c.Spells (c.reference table (some column)) names)
    (marked : c.engine = .oracle ∨ c.engine = .postgresql ∨ c.engine = .kingbase) :
    c.readRemark (c.commentStatement table (some column)) = some ⟨names.dropLast, names.getLast?,
      Literal.kept (c.engine == .oracle || c.engine == .kingbase) (table.commentOf (some column))⟩ := by
  have unlike : c.engine ≠ .sqlserver := by rcases marked with engine | engine | engine <;> rw [engine] <;> decide
  obtain ⟨front, between, words, written⟩ := exists_commentWords marked table (some column)
  rw [readRemark, if_neg unlike, written]
  exact readCommentOn_column spells _ _ words

theorem spells_behind {one other : String} (one_named : removeBlanks one ≠ "") (other_named : removeBlanks other ≠ "")
    (one_free : c.engine.closingMark ∉ one.toList) (other_free : c.engine.closingMark ∉ other.toList) :
    c.Spells (c.wrap one ++ "." ++ c.wrap other) (c.namePath one ++ c.namePath other) := by
  have one_parts : c.namePath one ≠ [] := splitAt_ne_nil _ _
  have other_parts : c.namePath other ≠ [] := splitAt_ne_nil _ _
  have free := List.forall_mem_append.mpr ⟨free_namePath one_free, free_namePath other_free⟩
  refine spells_path (by simp [one_parts]) free ?_
  rw [List.map_append, path_append (by simpa using one_parts) (by simpa using other_parts), String.toList_append,
    String.toList_append, c.toList_wrap one_named, c.toList_wrap other_named, List.append_assoc]
  rfl

theorem readRemark_column_iff (declarable : c.Declarable schema table)
    (marked : c.engine = .oracle ∨ c.engine = .postgresql ∨ c.engine = .kingbase) {column : Column}
    (member : column ∈ table.columns) :
    c.readRemark (c.commentStatement table (some column)) = some (c.addressed schema table (some column)) ↔
      (c.engine = .kingbase → c.FoldsApart (removeBlanks (schema ++ "." ++ table.name)) (removeBlanks column.name)) := by
  have among : column.name ∈ table.columns.map (·.name) := List.mem_map_of_mem member
  have column_free := declarable.unclosed column.name (by simp [among])
  have table_free := declarable.unclosed table.name (by simp)
  have schema_free := declarable.unclosed schema (by simp)
  have undotted := declarable.undotted column.name (by simp [among])
  have unmarked : c.engine.closingMark ≠ '.' := by cases c.engine <;> decide
  have front_free : c.engine.closingMark ∉ (schema ++ "." ++ table.name).toList := by
    simp [schema_free, table_free, unmarked]
  by_cases engine : c.engine = .postgresql
  · have spells : c.Spells (c.reference table (some column))
        (c.namePath (schema ++ "." ++ table.name) ++ [c.foldCase (removeBlanks column.name)]) := by
      rw [reference, if_pos engine, qualify_schema declarable.given, ← namePath_single undotted]
      apply spells_behind _ _ front_free column_free
      · simp [removeBlanks, isBlankChar]
      · rw [ne_eq, removeBlanks_eq_empty_iff, declarable.filled column member]
        exact Bool.false_ne_true
    rw [readRemark_column spells marked, addressed, Option.map_some]
    refine iff_of_true (remark_eq_iff.mpr rfl) ?_
    exact fun other => absurd (engine.symm.trans other) (by decide)
  · have spells : c.Spells (c.reference table (some column))
        (c.namePath (schema ++ "." ++ table.name ++ "." ++ column.name)) := by
      have own := spells_qualify declarable.given (table.name ++ "." ++ column.name) schema_free
        (by simp [table_free, column_free, unmarked])
      rw [reference, if_neg engine]
      simpa only [String.append_assoc] using own
    rw [readRemark_column spells marked, addressed, Option.map_some]
    calc _ ↔ c.FoldsApart (removeBlanks (schema ++ "." ++ table.name)) (removeBlanks column.name) :=
          remark_eq_iff.trans (namePath_behind_iff undotted)
      _ ↔ _ := by
          by_cases lower : c.engine = .kingbase
          · exact ⟨fun folds _ => folds, fun folds => folds lower⟩
          · have rule : c.engine.caseRule ≠ .lower := by
              rcases marked with oracle | other | other
              · rw [oracle]; decide
              · exact absurd other engine
              · exact absurd other lower
            exact iff_of_true (foldsApart_of_rule rule _ _) fun same => absurd same lower

/-! What SQL Server reads. -/

/-- A name that stands in a literal as the statement that creates a table has it. -/
def Verbatim (name : String) : Prop := ∀ ch ∈ name.toList, isBlankChar ch = false ∧ ch ≠ '\''

theorem describeProperty_eq (comment schema table : String) :
    describeProperty (Literal.national comment) schema table = Remark.property comment schema table none := by
  have opening : "EXEC SP_ADDEXTENDEDPROPERTY 'MS_Description', " =
      "EXEC SP_ADDEXTENDEDPROPERTY " ++ ("'MS_Description'" ++ ", ") := by decide +kernel
  have level : ", 'SCHEMA', '" = ", " ++ ("'SCHEMA'" ++ (", " ++ "'")) := by decide +kernel
  have next : "', 'TABLE', '" = "'" ++ (", " ++ ("'TABLE'" ++ (", " ++ "'"))) := by decide +kernel
  have whole : describeProperty (Literal.national comment) schema table =
      "EXEC SP_ADDEXTENDEDPROPERTY 'MS_Description', " ++ Literal.national comment ++ ", 'SCHEMA', '" ++ schema ++
    "', 'TABLE', '" ++ table ++ "'" := rfl
  rw [whole, opening, level, next]
  unfold Remark.property Remark.literals
  simp only [joinWith, String.append_assoc, List.append_nil, Option.map_none, Option.getD_none, -String.reduceAppend]

theorem property_column (comment schema table column : String) :
    Remark.property comment schema table (some column) =
      Remark.property comment schema table none ++ (", 'COLUMN', '" ++ column ++ "'") := by
  have level : ", 'COLUMN', '" = ", " ++ ("'COLUMN'" ++ (", " ++ "'")) := by decide +kernel
  rw [level]
  unfold Remark.property Remark.literals
  simp only [joinWith, String.append_assoc, List.append_nil, Option.map_none,
    Option.getD_none, Option.map_some, Option.getD_some, List.cons_append, List.nil_append, -String.reduceAppend]

/-- For SQL Server a comment is set by the property that describes its table or column. -/
theorem commentStatement_property (given : c.schemaText? = some schema) (engine : c.engine = .sqlserver)
    (target : Option Column) :
    c.commentStatement table target =
      Remark.property (table.commentOf target) schema table.name (target.map (·.name)) := by
  have named : c.commentSchema = schema := by rw [commentSchema, given, Option.getD_some]
  cases target with
  | none =>
      rw [Option.map_none, ← describeProperty_eq, ← named]
      simp only [commentStatement, Option.elim_none, tableCommentDdl, engine]
      rfl
  | some column =>
      rw [Option.map_some, property_column, ← describeProperty_eq, ← named]
      simp only [commentStatement, Option.elim_some, columnCommentDdl, engine]
      rfl

theorem verbatim_iff {name : String} : Verbatim name ↔ '\'' ∉ name.toList ∧ removeBlanks name = name := by
  have kept : removeBlanks name = name ↔ ∀ ch ∈ name.toList, isBlankChar ch = false := by
    rw [← String.toList_inj, removeBlanks, String.toList_ofList, List.filter_eq_self]
    simp
  rw [kept]
  constructor
  · exact fun bare => ⟨fun member => (bare _ member).2 rfl, fun ch member => (bare ch member).1⟩
  · rintro ⟨free, visible⟩ ch member
    exact ⟨visible ch member, fun same => free (same ▸ member)⟩

theorem quotes_splitAt (s : String) : Remark.quotes (splitAt '.' s) = s.toList.count '\'' := by
  have free : '\'' ∉ (String.singleton '.').toList := by decide
  rw [← Remark.count_joinWith free, joinWith_splitAt_self]

theorem count_removeBlanks (s : String) : (removeBlanks s).toList.count '\'' = s.toList.count '\'' := by
  rw [removeBlanks, String.toList_ofList, List.count_filter (by decide)]

theorem splitAt_eq_singleton_iff {s : String} : splitAt '.' s = [s] ↔ '.' ∉ s.toList := by
  constructor
  · intro single member
    obtain ⟨before, after, cut⟩ := List.append_of_mem member
    have split : s = String.ofList before ++ "." ++ String.ofList after := by
      apply String.toList_inj.mp
      simp [cut]
    have parts := congrArg List.length single
    rw [split, splitAt_cut rfl, List.length_append] at parts
    have front := List.length_pos_of_ne_nil (splitAt_ne_nil '.' (String.ofList before))
    have back := List.length_pos_of_ne_nil (splitAt_ne_nil '.' (String.ofList after))
    rw [List.length_singleton] at parts
    omega
  · intro free
    have whole := splitAt_single s.toList free
    rwa [String.ofList_toList] at whole

theorem addressed_sqlserver (declarable : c.Declarable schema table) (engine : c.engine = .sqlserver)
    (target : Option Column) :
    c.addressed schema table target = ⟨splitAt '.' (removeBlanks schema) ++ [removeBlanks table.name],
      target.map fun column => removeBlanks column.name, (table.commentOf target).toList⟩ := by
  have rule : c.engine.caseRule = .remain := by rw [engine]; rfl
  have same (name : String) : c.foldCase name = name := by rw [foldCase, rule]; rfl
  have path : c.namePath (schema ++ "." ++ table.name) = c.namePath schema ++ [c.foldCase (removeBlanks table.name)] :=
    (namePath_behind_iff (declarable.undotted _ List.mem_cons_self)).mpr (foldsApart_of_rule (by rw [rule]; decide) _ _)
  have front : c.namePath schema = splitAt '.' (removeBlanks schema) := by rw [namePath, same]
  rw [addressed, path, front]
  simp only [same, engine]
  rfl

/-- SQL Server reads what was created exactly if there is nothing to take out of the names and nothing to double in them. -/
theorem readRemark_property_iff (declarable : c.Declarable schema table) (engine : c.engine = .sqlserver)
    (target : Option Column) :
    c.readRemark (c.commentStatement table target) = some (c.addressed schema table target) ↔
      '.' ∉ schema.toList ∧ ∀ name ∈ schema :: table.name :: (target.map (·.name)).toList, Verbatim name := by
  rw [readRemark, if_pos engine, commentStatement_property declarable.given engine, addressed_sqlserver declarable engine]
  constructor
  · intro read
    have free := Remark.unquoted_of_readProperty read (by cases target <;> rfl) (by
      cases target <;>
        simp [Remark.quotes_append, Remark.quotes_cons, quotes_splitAt, count_removeBlanks])
    rw [Remark.readProperty_property free, Option.some.injEq, Remark.mk.injEq] at read
    obtain ⟨path, columns, -⟩ := read
    obtain ⟨front, table_kept⟩ := List.append_inj' (show [schema] ++ _ = _ ++ _ from path) rfl
    have schema_kept : removeBlanks schema = schema := by
      rw [← joinWith_splitAt_self '.' (removeBlanks schema), ← front]
      rfl
    rw [schema_kept] at front
    refine ⟨splitAt_eq_singleton_iff.mp front.symm, fun name among => verbatim_iff.mpr ⟨free name among, ?_⟩⟩
    simp only [List.mem_cons, Option.mem_toList] at among
    rcases among with rfl | rfl | column
    · exact schema_kept
    · exact (List.singleton_inj.mp table_kept).symm
    · cases target with
      | none => cases column
      | some own =>
          cases column
          exact (Option.some.inj columns).symm
  · rintro ⟨undotted, bare⟩
    have kept (name : String) (among : name ∈ schema :: table.name :: (target.map (·.name)).toList) :
        removeBlanks name = name := (verbatim_iff.mp (bare name among)).2
    have free := fun name among => (verbatim_iff.mp (bare name among)).1
    rw [Remark.readProperty_property free, kept schema (by simp), kept table.name (by simp),
      splitAt_eq_singleton_iff.mpr undotted]
    cases target with
    | none => rfl
    | some column =>
        rw [Option.map_some, Option.map_some, kept column.name (by simp)]
        rfl

/-! What the statement declares that creates the table. -/

/-- A statement creates a table of a path of names, with columns of these names. -/
def Declares (c : Compiler) (head : String) (path columns : List String) : Prop :=
  ∃ entries others behind,
    (skip "CREATE TABLE " head.toList).bind c.readNames =
      some (path, (" (" ++ joinWith ", " (entries ++ others) ++ ")" ++ behind).toList) ∧
    List.Forall₂ (fun entry column => ∃ rest, c.readNames entry.toList = some ([column], rest)) entries columns

/-- The definition of a column opens with its name and a space. -/
theorem opens_columnEntry {column : Column} (filled : isBlankText column.name = false) (type : String) :
    Opens (c.wrap column.name ++ " ") (c.columnEntry column type) := by
  have named : removeBlanks column.name ≠ "" := by
    rw [ne_eq, removeBlanks_eq_empty_iff, filled]
    exact Bool.false_ne_true
  have written : c.wrap column.name ≠ "" := by
    rw [c.wrap_eq_delimit named, delimit, c.engine.delimiters_eq]
    simp
  rw [columnEntry, List.filter_cons_of_pos (by simpa using written), joinWith_cons]
  · exact opens_append _ _
  · exact filled_nullability [_, _] [_] column.nullable

theorem opens_marked {front entry : String} (opens : Opens front entry) (mark : String) :
    Opens front (marked entry mark) := by
  unfold marked
  split
  · exact opens
  · exact (opens.append " ").append mark

theorem readNames_columnEntry (declarable : c.Declarable schema table) {column : Column}
    (member : column ∈ table.columns) (type mark : String) :
    ∃ rest, c.readNames (marked (c.columnEntry column type) mark).toList =
      some ([c.foldCase (removeBlanks column.name)], rest) := by
  have among : column.name ∈ table.columns.map (·.name) := List.mem_map_of_mem member
  have filled := declarable.filled column member
  obtain ⟨rest, written⟩ := opens_marked (opens_columnEntry filled type) mark
  have named := spells_wrap filled (declarable.unclosed _ (by simp [among])) rest.toList
  rw [namePath_single (declarable.undotted _ (by simp [among]))] at named
  rw [written]
  exact ⟨' ' :: rest.toList, by simpa using named⟩

/-- The statement declares the table under its schema and the columns, all by their names without blanks and folded. -/
theorem gives_structureDdl_declares (declarable : c.Declarable schema table) :
    (c.structureDdl table).Gives fun head => c.Declares head (c.namePath (schema ++ "." ++ table.name))
      (table.columns.map fun column => c.foldCase (removeBlanks column.name)) := by
  intro draft head given
  obtain ⟨entries, place, written, _, rfl⟩ := gives_structureDdl_pieces draft head given
  generalize (if c.engine.commentPlace == .inside && !isBlankOption table.comment then
    " " ++ c.inlineTableComment table else "") = comment
  refine ⟨entries, c.tableConstraints table, comment ++ place, ?_, ?_⟩
  · have spells := spells_qualify declarable.given table.name (declarable.unclosed schema (by simp))
      (declarable.unclosed table.name (by simp))
    have named := spells ("(" ++ joinWith ", " (entries ++ c.tableConstraints table) ++ ")" ++ (comment ++ place)).toList
    have raised : "CREATE TABLE ".toList.map Char.toUpper = "CREATE TABLE ".toList := by decide
    have opening (rest : String) : (" (" ++ rest).toList = ' ' :: ("(" ++ rest).toList := by simp
    simp only [creation, String.append_assoc] at named ⊢
    rw [String.toList_append, skip_append raised, Option.bind_some, String.toList_append, opening]
    exact named
  · rw [List.forall₂_map_right_iff]
    have columns := (List.forall₂_and_left table.columns entries).mpr ⟨fun _ member => member, written⟩
    refine columns.flip.imp ?_
    rintro entry column ⟨member, type, _, rfl⟩
    exact readNames_columnEntry declarable member type _

/-! The statements of a script. -/

theorem marked_of_external (external : c.engine ∈ [.oracle, .sqlserver, .postgresql, .kingbase])
    (unlike : c.engine ≠ .sqlserver) : c.engine = .oracle ∨ c.engine = .postgresql ∨ c.engine = .kingbase := by
  simp only [List.mem_cons, List.not_mem_nil, or_false] at external
  tauto

theorem commentStatement_ne_empty (external : c.engine ∈ [.oracle, .sqlserver, .postgresql, .kingbase])
    (given : c.schemaText? = some schema) (target : Option Column) : c.commentStatement table target ≠ "" := by
  by_cases engine : c.engine = .sqlserver
  · rw [commentStatement_property given engine]
    unfold Remark.property
    intro empty
    exact absurd (String.append_eq_empty_iff.mp empty).1 (by decide)
  · obtain ⟨front, between, _, written⟩ := exists_commentWords (marked_of_external external engine) table target
    rw [written]
    exact fun empty => Literal.quote_filled _ _ (String.append_eq_empty_iff.mp empty).2

theorem commentDdl_eq (external : c.engine ∈ [.oracle, .sqlserver, .postgresql, .kingbase])
    (given : c.schemaText? = some schema) : c.commentDdl table = table.commented.map (c.commentStatement table) := by
  have outside : (c.engine.commentPlace == .outside) = true := by
    simp only [List.mem_cons, List.not_mem_nil, or_false] at external
    rcases external with engine | engine | engine | engine <;> rw [engine] <;> rfl
  have statements : ((table.columns.filter fun column => !isBlankOption column.comment).map (c.columnCommentDdl table) ++
      if isBlankOption table.comment then [] else [c.tableCommentDdl table]) =
      table.commented.map (c.commentStatement table) := by
    rw [Table.commented, List.map_append, List.map_map]
    congr 1
    split <;> rfl
  rw [commentDdl, if_pos outside]
  dsimp only
  rw [statements, List.filter_eq_self]
  intro sql among
  obtain ⟨target, _, rfl⟩ := List.mem_map.mp among
  simpa using commentStatement_ne_empty external given target

/-- What names must be like for their comment to be found. -/
structure Addressable (c : Compiler) (schema : String) (table : Table) (target : Option Column) : Prop where
  /-- SQL Server gets the names as the source has them, in literals. -/
  bare : c.engine = .sqlserver →
    '.' ∉ schema.toList ∧ ∀ name ∈ schema :: table.name :: (target.map (·.name)).toList, Verbatim name
  /-- KingBase gets the name of a column folded together with those of its table and schema. -/
  apart : c.engine = .kingbase → ∀ column ∈ target,
    c.FoldsApart (removeBlanks (schema ++ "." ++ table.name)) (removeBlanks column.name)

theorem readRemark_iff (external : c.engine ∈ [.oracle, .sqlserver, .postgresql, .kingbase])
    (declarable : c.Declarable schema table) (among : target ∈ table.commented) :
    c.readRemark (c.commentStatement table target) = some (c.addressed schema table target) ↔
      c.Addressable schema table target := by
  by_cases engine : c.engine = .sqlserver
  · have unlike : c.engine ≠ .kingbase := by rw [engine]; decide
    refine (readRemark_property_iff declarable engine target).trans ?_
    exact ⟨fun bare => ⟨fun _ => bare, fun other => absurd other unlike⟩, fun addressable => addressable.bare engine⟩
  · have marked := marked_of_external external engine
    cases target with
    | none => exact iff_of_true (readRemark_table declarable marked) ⟨fun other => absurd other engine, by simp⟩
    | some column =>
        have member : column ∈ table.columns := by
          simp only [Table.commented, List.mem_append, List.mem_map, List.mem_filter, Option.some.injEq] at among
          rcases among with ⟨own, ⟨member, _⟩, rfl⟩ | other
          · exact member
          · split at other <;> simp at other
        rw [readRemark_column_iff declarable marked member]
        constructor
        · intro folds
          refine ⟨fun other => absurd other engine, fun lower own same => ?_⟩
          cases same
          exact folds lower
        · exact fun addressable lower => addressable.apart lower column rfl

/-- A script has one statement for each comment, and such a statement addresses the table or the column that the head of the
script declares exactly if its names are addressable. -/
theorem createDdl_addresses_iff (external : c.engine ∈ [.oracle, .sqlserver, .postgresql, .kingbase])
    (declarable : c.Declarable schema table) :
    ((c.createDdl table).Gives fun statements => ∃ head others, statements = head :: others ∧
      c.Declares head (c.namePath (schema ++ "." ++ table.name))
        (table.columns.map fun column => c.foldCase (removeBlanks column.name)) ∧
      others.filter (kind? · = some .comment) = table.commented.map (c.commentStatement table)) ∧
    (∀ target ∈ table.commented,
      c.readRemark (c.commentStatement table target) = some (c.addressed schema table target) ↔
        c.Addressable schema table target) ∧
    (table.isPresent = true → (∀ column ∈ table.columns, ∃ type, c.mapType column = .ok type) → c.PlacesByText →
      (c.createDdl table).Succeeds) := by
  refine ⟨?_, fun target => readRemark_iff external declarable, succeeds_createDdl⟩
  intro draft statements given
  obtain ⟨head, indexes, searches, rfl, declares, indexes_kind, searches_kind⟩ :=
    c.gives_createDdl_parts table (gives_structureDdl_declares declarable) draft statements given
  refine ⟨head, _, rfl, declares, ?_⟩
  have others (statements : List String) (kind : StatementKind) (other : kind ≠ .comment)
      (known : ∀ sql ∈ statements, kind? sql = some kind) : statements.filter (kind? · = some .comment) = [] := by
    rw [List.filter_eq_nil_iff]
    intro sql among
    simp [known sql among, other]
  have comments : (c.commentDdl table).filter (kind? · = some .comment) = c.commentDdl table := by
    rw [List.filter_eq_self]
    intro sql among
    simp [c.commentDdl_kind table sql among]
  change ((indexes ++ c.commentDdl table) ++ (searches ++ c.deferredKey table)).filter _ = _
  rw [← commentDdl_eq external declarable.given, List.filter_append, List.filter_append, List.filter_append, comments,
    others indexes .createIndex (by decide) indexes_kind, others searches .searchIndex (by decide) searches_kind,
    others (c.deferredKey table) .alterTable (by decide) (c.deferredKey_kind table)]
  simp

/-- A compiler for a target with a schema. -/
def under (engine : Engine) (schema : String) : Compiler :=
  let target : Datasource :=
    { id := .null, url := .null, user := .null, password := .null, engine := engine, schemaName := .text schema }
  { engine := engine, config := some target }

/-- A table with a blank in its name and two comments. -/
def orderItems : Table :=
  { name := "order items"
    columns := [{ name := "id", typeName := some "INTEGER", category := .integer, comment := some "key" }]
    comment := some "what was ordered" }

theorem createDdl_addresses_iff_orderItems :
    let c := under .postgresql "Sales"
    (c.createDdl orderItems).Succeeds ∧
    ((c.createDdl orderItems).Gives fun statements => ∃ head others, statements = head :: others ∧
      c.Declares head ["sales", "orderitems"] ["id"] ∧ (others.filter (kind? · = some .comment)).length = 2) ∧
    c.readRemark (c.commentStatement orderItems none) =
      some ⟨["sales", "orderitems"], none, "what was ordered".toList⟩ := by
  intro c
  have declarable : c.Declarable "Sales" orderItems :=
    ⟨rfl, by decide, by decide, by decide⟩
  obtain ⟨declares, addresses, compiles⟩ := createDdl_addresses_iff (c := c) (by decide) declarable
  have path : c.namePath ("Sales" ++ "." ++ orderItems.name) = ["sales", "orderitems"] := by decide +kernel
  have columns : (orderItems.columns.map fun column => c.foldCase (removeBlanks column.name)) = ["id"] := by decide +kernel
  refine ⟨compiles rfl (fun column _ => ⟨_, rfl⟩) ?_, ?_, ?_⟩
  · intro config same
    cases same
    exact Or.inl rfl
  · intro draft statements given
    obtain ⟨head, others, written, declared, comments⟩ := declares draft statements given
    rw [path, columns] at declared
    refine ⟨head, others, written, declared, ?_⟩
    rw [comments]
    rfl
  · have addressed : c.addressed "Sales" orderItems none =
        ⟨["sales", "orderitems"], none, "what was ordered".toList⟩ := by
      rw [Compiler.addressed, path]
      rfl
    have other : c.engine ≠ .sqlserver ∧ c.engine ≠ .kingbase := by decide
    rw [← addressed]
    exact (addresses none (by decide)).mpr ⟨fun same => absurd same other.1, fun same => absurd same other.2⟩

/-- SQL Server creates a table without the blank in its name, and is to comment on one with it. -/
theorem comment_misses_table :
    let c := under .sqlserver "dbo"
    let id : Column := { name := "id", typeName := some "INTEGER", category := .integer, comment := some "key" }
    let table : Table := { name := "order items", columns := [id] }
    c.Declarable "dbo" table ∧
    ((c.createDdl table).run {}).1.toOption = some ["CREATE TABLE [dbo].[orderitems] ([id] INT NULL)",
      "EXEC SP_ADDEXTENDEDPROPERTY 'MS_Description', 'key', 'SCHEMA', 'dbo', 'TABLE', 'order items', 'COLUMN', 'id'"] ∧
    c.addressed "dbo" table (some id) = ⟨["dbo", "orderitems"], some "id", "key".toList⟩ ∧
    c.readRemark (c.commentStatement table (some id)) = some ⟨["dbo", "order items"], some "id", "key".toList⟩ := by
  intro c id table
  exact ⟨⟨rfl, by decide, by decide, by decide⟩, by decide +kernel, by decide +kernel, by decide +kernel⟩

end Compiler

end TableFerry
