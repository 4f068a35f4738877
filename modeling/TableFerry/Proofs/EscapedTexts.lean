import TableFerry.Proofs.IndexNames
import TableFerry.Proofs.MarkedTexts
import TableFerry.Proofs.PrimaryKeys
import TableFerry.Proofs.TextDefaults
/-! How MySQL reads the literals of CREATE TABLE: there a backslash escapes the character behind it, but quotes are all
that is doubled when a literal is written. The last theorem says which defaults and comments are read as they were. -/

namespace TableFerry

namespace Literal

open Text

variable {cs text rest : List Char}

/-- Characters that stand for another one behind a backslash. -/
def escapes : List (Char × Char) :=
  [('0', '\x00'), ('b', '\x08'), ('n', '\n'), ('r', '\x0d'), ('t', '\t'), ('Z', '\x1a')]

/-- The characters that only match patterns; a backslash in front of them stays. -/
def IsWildcard (c : Char) : Prop := c = '%' ∨ c = '_'
deriving Decidable

/-- What a backslash and the character behind it denote. -/
def escaped (c : Char) : List Char := if IsWildcard c then ['\\', c] else [(escapes.lookup c).getD c]

/-- What stands in front of the quote that closes a literal, with backslashes as escapes, and what follows that quote. -/
def readEscaped : List Char → Option (List Char × List Char)
  | [] => none
  | [c] => if c = '\'' then some ([], []) else none
  | c :: d :: rest =>
    if c = '\'' then
      if d = '\'' then (readEscaped rest).map fun read => ('\'' :: read.1, read.2)
      else some ([], d :: rest)
    else if c = '\\' then (readEscaped rest).map fun read => (escaped d ++ read.1, read.2)
    else (readEscaped (d :: rest)).map fun read => (c :: read.1, read.2)

/-- A text in which a backslash stands only where it stands for itself. -/
def Unescaped : List Char → Prop
  | [] => True
  | c :: cs => (c = '\\' → ∃ d ∈ cs.head?, IsWildcard d) ∧ Unescaped cs

theorem readEscaped_end (apart : rest.head? ≠ some '\'') : readEscaped ('\'' :: rest) = some ([], rest) := by
  cases rest with
  | nil => simp [readEscaped]
  | cons c rest =>
      have other : c ≠ '\'' := fun same => apart (congrArg some same)
      simp [readEscaped, other]

theorem readEscaped_twice (cs : List Char) :
    readEscaped ('\'' :: '\'' :: cs) = (readEscaped cs).map fun read => ('\'' :: read.1, read.2) := by
  simp [readEscaped]

theorem readEscaped_escape (d : Char) (cs : List Char) :
    readEscaped ('\\' :: d :: cs) = (readEscaped cs).map fun read => (escaped d ++ read.1, read.2) := by
  simp [readEscaped]

theorem readEscaped_other {c : Char} (unquote : c ≠ '\'') (plain : c ≠ '\\') (cs : List Char) :
    readEscaped (c :: cs) = (readEscaped cs).map fun read => (c :: read.1, read.2) := by
  cases cs <;> simp [readEscaped, unquote, plain]

theorem readEscaped_wildcard {d : Char} (wildcard : IsWildcard d) (cs : List Char) :
    readEscaped ('\\' :: d :: cs) = (readEscaped (d :: cs)).map fun read => ('\\' :: read.1, read.2) := by
  have unquote : d ≠ '\'' := by rintro rfl; exact absurd wildcard (by decide)
  have plain : d ≠ '\\' := by rintro rfl; exact absurd wildcard (by decide)
  rw [readEscaped_escape, escaped, if_pos wildcard, readEscaped_other unquote plain, Option.map_map]
  rfl

theorem length_escaped (d : Char) : (escaped d).length + (escaped d).count '\'' ≤ 2 := by
  unfold escaped
  split_ifs with wildcard
  · rcases wildcard with rfl | rfl <;> decide
  · rw [List.count_singleton]
    split <;> simp

/-- Nothing is longer than what it is read from, even with its quotes counted twice. -/
theorem length_of_readEscaped (found : readEscaped cs = some (text, rest)) :
    text.length + text.count '\'' + rest.length < cs.length := by
  fun_induction readEscaped cs generalizing text with
  | case1 => cases found
  | case2 => simp_all
  | case3 => cases found
  | case4 tail ih =>
      simp only [Option.map_eq_some_iff, Prod.mk.injEq, Prod.exists] at found
      obtain ⟨inside, behind, deeper, rfl, rfl⟩ := found
      have bound := ih deeper
      simp
      omega
  | case5 d tail other =>
      cases found
      simp
  | case6 d tail _ ih =>
      simp only [Option.map_eq_some_iff, Prod.mk.injEq, Prod.exists] at found
      obtain ⟨inside, behind, deeper, rfl, rfl⟩ := found
      have bound := ih deeper
      have short := length_escaped d
      simp
      omega
  | case7 c d tail unquote plain ih =>
      simp only [Option.map_eq_some_iff, Prod.mk.injEq, Prod.exists] at found
      obtain ⟨inside, behind, deeper, rfl, rfl⟩ := found
      have bound := ih deeper
      simp [unquote] at bound ⊢
      omega

theorem map_cons_eq_iff {c : Char} {read : Option (List Char × List Char)} :
    read.map (fun read => (c :: read.1, read.2)) = some (c :: text, rest) ↔ read = some (text, rest) := by
  cases read <;> simp [Prod.ext_iff]

theorem eq_backslash_of_escaped {d : Char} (tame : ¬IsWildcard d) (escapes : escaped d = ['\\']) : d = '\\' := by
  rw [escaped, if_neg tame, List.singleton_inj] at escapes
  cases found : Literal.escapes.lookup d with
  | none => rwa [found] at escapes
  | some other =>
      obtain ⟨_, _, split, _⟩ := List.lookup_eq_some_iff.mp found
      have listed : (d, other) ∈ Literal.escapes := split ▸ List.mem_append_right _ List.mem_cons_self
      have denoted : ∀ entry ∈ Literal.escapes, entry.2 ≠ '\\' := by decide
      rw [found] at escapes
      exact absurd escapes (denoted _ listed)

/-- A backslash in front of anything but a wildcard is not read as a backslash: for one of two backslashes there would have
to be another character behind them. -/
theorem readEscaped_backslash_ne (tame : ∀ d ∈ text.head?, ¬IsWildcard d) :
    readEscaped ('\\' :: (doubleQuotes text ++ '\'' :: rest)) ≠ some ('\\' :: text, rest) := by
  intro found
  have first (d : Char) (cs : List Char) (split : doubleQuotes text ++ '\'' :: rest = d :: cs) (mild : ¬IsWildcard d) :
      d = '\\' ∧ readEscaped cs = some (text, rest) := by
    rw [split, readEscaped_escape, Option.map_eq_some_iff] at found
    obtain ⟨read, deeper, same⟩ := found
    have single : escaped d = [(Literal.escapes.lookup d).getD d] := if_neg mild
    rw [single, List.singleton_append, Prod.mk.injEq, List.cons.injEq] at same
    obtain ⟨⟨backslash, rfl⟩, rfl⟩ := same
    exact ⟨eq_backslash_of_escaped mild (single.trans (congrArg (fun c => [c]) backslash)), deeper⟩
  cases text with
  | nil => exact absurd (first '\'' rest rfl (by decide)).1 (by decide)
  | cons d tail =>
      by_cases quote : d = '\''
      · subst quote
        exact absurd (first '\'' ('\'' :: (doubleQuotes tail ++ '\'' :: rest)) rfl (by decide)).1 (by decide)
      · have written : doubleQuotes (d :: tail) ++ '\'' :: rest = d :: (doubleQuotes tail ++ '\'' :: rest) := by
          simp [doubleQuotes, quote]
        have deeper := (first d _ written (tame d rfl)).2
        have bound := length_of_readEscaped deeper
        have length : (doubleQuotes tail).length = tail.length + tail.count '\'' := length_doubleMark '\'' tail
        rw [List.length_append, length, List.length_cons, List.length_cons, List.count_cons_of_ne quote] at bound
        omega

/-- A text between quotes is read as it is exactly if its backslashes stand for themselves and no quote follows. -/
theorem readEscaped_doubleQuotes_iff : readEscaped (doubleQuotes text ++ '\'' :: rest) = some (text, rest) ↔
    Unescaped text ∧ rest.head? ≠ some '\'' := by
  induction text with
  | nil =>
      by_cases apart : rest.head? = some '\''
      · obtain ⟨tail, rfl⟩ := List.head?_eq_some_iff.mp apart
        simp [doubleQuotes, readEscaped_twice]
      · simp [doubleQuotes, readEscaped_end apart, Unescaped, apart]
  | cons c text ih =>
      by_cases quote : c = '\''
      · have written : doubleQuotes (c :: text) ++ '\'' :: rest =
            '\'' :: '\'' :: (doubleQuotes text ++ '\'' :: rest) := by simp [doubleQuotes, quote]
        rw [written, readEscaped_twice, quote, map_cons_eq_iff, ih]
        simp [Unescaped]
      have written : doubleQuotes (c :: text) ++ '\'' :: rest = c :: (doubleQuotes text ++ '\'' :: rest) := by
        simp [doubleQuotes, quote]
      rw [written]
      by_cases plain : c = '\\'
      · subst plain
        by_cases stands : ∃ d ∈ text.head?, IsWildcard d
        · obtain ⟨d, first, wildcard⟩ := stands
          obtain ⟨tail, rfl⟩ := List.head?_eq_some_iff.mp first
          have unquote : d ≠ '\'' := by rintro rfl; exact absurd wildcard (by decide)
          have front : doubleQuotes (d :: tail) ++ '\'' :: rest = d :: (doubleQuotes tail ++ '\'' :: rest) := by
            simp [doubleQuotes, unquote]
          rw [front, readEscaped_wildcard wildcard, map_cons_eq_iff, ← front, ih]
          simp [Unescaped, wildcard]
        · refine iff_of_false (readEscaped_backslash_ne fun d first wildcard => stands ⟨d, first, wildcard⟩) ?_
          exact fun unescaped => stands (unescaped.1.1 rfl)
      · rw [readEscaped_other quote plain, map_cons_eq_iff, ih]
        simp [Unescaped, plain]

/-- A literal in which a backslash escapes the character behind it, and what follows the literal. -/
def readEscapedLiteral : List Char → Option (List Char × List Char)
  | [] => none
  | c :: cs => if c = '\'' then readEscaped cs else none

theorem readEscapedLiteral_quote_iff (text behind : String) :
    readEscapedLiteral (quote text ++ behind).toList = some (text.toList, behind.toList) ↔
      Unescaped text.toList ∧ behind.toList.head? ≠ some '\'' := by
  rw [String.toList_append, toList_quote, List.append_assoc, List.singleton_append, ← readEscaped_doubleQuotes_iff]
  rfl

end Literal

/-! A statement is put together from pieces. -/

/-- Words of a statement, or a literal behind the words that lead to it. -/
inductive Piece where
  | words (text : String)
  | literal (lead text : String)

namespace Piece

def write : Piece → String
  | words text => text
  | literal lead text => lead ++ Literal.quote text

def text? : Piece → Option String
  | words _ => none
  | literal _ text => some text

def writeAll (pieces : List Piece) : String := String.join (pieces.map write)

/-- The texts of the literals. -/
def literals (pieces : List Piece) : List String := pieces.filterMap text?

def Unquoted (s : String) : Prop := s.toList.head? ≠ some '\''
deriving Decidable

/-- No quote stands directly behind a literal. -/
def Apart : List Piece → Prop
  | [] => True
  | piece :: pieces => (piece.text? ≠ none → Unquoted (writeAll pieces)) ∧ Apart pieces

theorem writeAll_cons (piece : Piece) (pieces : List Piece) : writeAll (piece :: pieces) = piece.write ++ writeAll pieces :=
  String.join_cons

theorem writeAll_append (front back : List Piece) : writeAll (front ++ back) = writeAll front ++ writeAll back := by
  rw [writeAll, List.map_append, String.join_append]
  rfl

theorem Unquoted.append_of_ne {one : String} (front : Unquoted one) (filled : one ≠ "") (other : String) :
    Unquoted (one ++ other) := by
  obtain ⟨c, rest, chars⟩ := List.exists_cons_of_ne_nil (fun empty => filled (String.toList_eq_nil_iff.mp empty))
  rw [Unquoted, chars] at front
  rw [Unquoted, String.toList_append, chars]
  exact front

theorem Unquoted.append {one other : String} (front : Unquoted one) (back : Unquoted other) : Unquoted (one ++ other) := by
  by_cases empty : one = ""
  · rwa [empty, String.empty_append]
  · exact front.append_of_ne empty other

theorem apart_append {front back : List Piece} (first : Apart front) (second : Apart back)
    (unquoted : Unquoted (writeAll back)) : Apart (front ++ back) := by
  induction front with
  | nil => exact second
  | cons piece front ih =>
      refine ⟨fun literal => ?_, ih first.2⟩
      have split : writeAll (front ++ back) = writeAll front ++ writeAll back := writeAll_append front back
      exact split ▸ (first.1 literal).append unquoted

theorem Apart.behind {before after : List Piece} {lead text : String}
    (apart : Apart (before ++ literal lead text :: after)) : Unquoted (writeAll after) := by
  induction before with
  | nil => exact apart.1 (Option.some_ne_none text)
  | cons piece before ih => exact ih apart.2

/-- A text is put together from pieces with these texts in literals. -/
def Holds (sql : String) (texts : List String) : Prop :=
  ∃ pieces, sql = writeAll pieces ∧ literals pieces = texts ∧ Apart pieces

theorem holds_words (text : String) : Holds text [] :=
  ⟨[words text], by simp [writeAll, write], rfl, by simp [Apart, text?]⟩

theorem holds_literal (lead text : String) : Holds (lead ++ Literal.quote text) [text] :=
  ⟨[literal lead text], by simp [writeAll, write], rfl, by simp [Apart, writeAll, Unquoted]⟩

variable {one other : String} {texts more : List String}

theorem Holds.behind_words (holds : Holds one texts) (text : String) : Holds (text ++ one) texts := by
  obtain ⟨pieces, rfl, rfl, apart⟩ := holds
  exact ⟨words text :: pieces, (writeAll_cons (words text) pieces).symm, rfl, fun literal => absurd rfl literal, apart⟩

theorem Holds.append (front : Holds one texts) (back : Holds other more) (unquoted : Unquoted other) :
    Holds (one ++ other) (texts ++ more) := by
  obtain ⟨first, rfl, rfl, first_apart⟩ := front
  obtain ⟨second, rfl, rfl, second_apart⟩ := back
  exact ⟨first ++ second, (writeAll_append ..).symm, List.filterMap_append, apart_append first_apart second_apart unquoted⟩

theorem Holds.texts_of_empty (holds : Holds "" texts) : texts = [] := by
  obtain ⟨pieces, empty, rfl, apart⟩ := holds
  clear apart
  induction pieces with
  | nil => rfl
  | cons piece pieces ih =>
      rw [writeAll_cons, eq_comm, String.append_eq_empty_iff] at empty
      cases piece with
      | words text => exact (ih empty.2.symm : literals pieces = [])
      | literal lead text => exact absurd (String.append_eq_empty_iff.mp empty.1).2 (Literal.quote_ne_empty text)

/-- What is joined holds the texts of the parts. -/
theorem holds_joinWith {separator : String} (filled : separator ≠ "") (unquoted : Unquoted separator)
    {entries : List String} {held : List (List String)} (each : List.Forall₂ Holds entries held) :
    Holds (Text.joinWith separator entries) held.flatten := by
  induction each with
  | nil => exact holds_words ""
  | @cons entry texts entries held own rest ih =>
      by_cases last : entries = []
      · subst last
        cases rest
        simpa [Text.joinWith] using own
      · rw [Text.joinWith_cons last, String.append_assoc, List.flatten_cons]
        exact own.append (ih.behind_words separator) (unquoted.append_of_ne filled _)

/-- Parts that are left out because they are empty hold no texts. -/
theorem exists_filled {entries : List String} {held : List (List String)} (each : List.Forall₂ Holds entries held) :
    ∃ kept, List.Forall₂ Holds (entries.filter (· ≠ "")) kept ∧ kept.flatten = held.flatten := by
  induction each with
  | nil => exact ⟨[], .nil, rfl⟩
  | @cons entry texts entries held own _ ih =>
      obtain ⟨kept, fit, same⟩ := ih
      by_cases empty : entry = ""
      · subst empty
        exact ⟨kept, fit, by rw [own.texts_of_empty, List.flatten_cons, List.nil_append, same]⟩
      · rw [List.filter_cons_of_pos (by simpa using empty)]
        exact ⟨texts :: kept, .cons own fit, by rw [List.flatten_cons, List.flatten_cons, same]⟩

end Piece

/-- The texts that the definition of a column has in literals: its default if that is textual, and its comment. -/
def Column.literalTexts (column : Column) : List String :=
  (column.default.filter (Literal.IsTextual ·)).toList ++ (column.comment.filter (!Text.isBlankText ·)).toList

/-- The texts that the statement has in literals that creates a table. -/
def Table.literalTexts (table : Table) : List String :=
  table.columns.flatMap Column.literalTexts ++ (table.comment.filter (!Text.isBlankText ·)).toList

namespace Compiler

open Piece

variable {c : Compiler} {table : Table}

theorem holds_default (column : Column) :
    Holds (if Literal.defaultValue column = "" then "" else "DEFAULT " ++ Literal.defaultValue column)
      (column.default.filter (Literal.IsTextual ·)).toList := by
  cases given : column.default with
  | none =>
      have empty : Literal.defaultValue column = "" := by rw [Literal.defaultValue, given]
      rw [if_pos empty]
      exact holds_words ""
  | some value =>
      rw [Literal.defaultValue_eq given, Literal.written]
      by_cases textual : Literal.IsTextual value
      · simp only [if_pos textual, if_neg (Literal.quote_ne_empty value), Option.filter_some, decide_eq_true textual,
          if_true, Option.toList_some]
        exact holds_literal "DEFAULT " value
      · simp only [if_neg textual, Option.filter_some, decide_eq_false textual, Bool.false_eq_true, if_false,
          Option.toList_none]
        exact holds_words _

theorem holds_comment (lead : String) (comment : Option String) :
    Holds (if isBlankOption comment then "" else lead ++ Literal.quote (comment.getD ""))
      (comment.filter (!Text.isBlankText ·)).toList := by
  cases comment with
  | none => exact holds_words ""
  | some text =>
      simp only [isBlankOption, Option.getD_some, Option.filter_some]
      by_cases blank : Text.isBlankText text = true
      · simp [blank, holds_words]
      · simp [blank, holds_literal]

theorem holds_columnEntry (mysql : c.engine = .mysql) (column : Column) (type : String) :
    Holds (c.columnEntry column type) column.literalTexts := by
  have comment : (if c.engine.commentPlace == .inside && !isBlankOption column.comment then c.inlineColumnComment column
      else "") = if isBlankOption column.comment then "" else "COMMENT " ++ Literal.quote (column.comment.getD "") := by
    rw [mysql, inlineColumnComment, mysql]
    cases isBlankOption column.comment <;> rfl
  rw [columnEntry, comment]
  obtain ⟨kept, fit, same⟩ := exists_filled
    (.cons (holds_words (c.wrap column.name)) (.cons (holds_words type) (.cons (holds_default column)
      (.cons (holds_words (if column.nullable then "NULL" else "NOT NULL"))
        (.cons (holds_comment "COMMENT " column.comment) .nil)))))
  have texts : kept.flatten = column.literalTexts := by
    rw [same]
    simp [Column.literalTexts]
  rw [← texts]
  exact holds_joinWith (by decide) (by decide) fit

/-- The statement that creates a table holds the texts of its columns, and then its own. -/
theorem gives_structureDdl_holds (mysql : c.engine = .mysql) :
    (c.structureDdl table).Gives fun head => Holds head table.literalTexts := by
  intro draft head given
  obtain ⟨entries, place, written, behind, rfl⟩ := gives_structureDdl_pieces draft head given
  have unmarked (column : Column) : c.keyModifier column table = "" := by rw [keyModifier, mysql]
  have columns : List.Forall₂ Holds entries (table.columns.map Column.literalTexts) := by
    rw [List.forall₂_map_right_iff]
    refine written.flip.imp ?_
    rintro entry column ⟨type, _, rfl⟩
    rw [unmarked]
    exact holds_columnEntry mysql column type
  have constraints : List.Forall₂ Holds (c.tableConstraints table) ((c.tableConstraints table).map fun _ => []) := by
    rw [List.forall₂_map_right_iff]
    exact List.forall₂_same.mpr fun entry _ => holds_words entry
  have inside : Holds (Text.joinWith ", " (entries ++ c.tableConstraints table))
      (table.columns.flatMap Column.literalTexts) := by
    have joined := holds_joinWith (by decide : ", " ≠ "") (by decide) (List.rel_append columns constraints)
    simpa [List.flatMap] using joined
  have comment : Holds (if c.engine.commentPlace == .inside && !isBlankOption table.comment then
      " " ++ c.inlineTableComment table else "") (table.comment.filter (!Text.isBlankText ·)).toList := by
    have own : (if c.engine.commentPlace == .inside && !isBlankOption table.comment then
        " " ++ c.inlineTableComment table else "") =
        if isBlankOption table.comment then "" else " COMMENT=" ++ Literal.quote (table.comment.getD "") := by
      rw [mysql, inlineTableComment, mysql, ← String.append_assoc]
      cases isBlankOption table.comment <;> rfl
    rw [own]
    exact holds_comment " COMMENT=" table.comment
  have unquoted : Unquoted place := by
    rcases behind with rfl | ⟨rest, rfl⟩
    · decide
    · exact Unquoted.append_of_ne (by decide) (by decide) rest
  have closing := (comment.append (holds_words place) unquoted).behind_words ")"
  have whole := (inside.behind_words (c.creation table)).append closing (Unquoted.append_of_ne (by decide) (by decide) _)
  simpa only [String.append_assoc, List.append_nil, Table.literalTexts] using whole

/-- The statement that creates a table is put together from pieces with a literal for every textual default and for every
comment. At its place each of them is read by MySQL as its text, up to what follows it, exactly if backslashes stand in
that text only in front of percent signs and underscores. -/
theorem createDdl_literals_iff (mysql : c.engine = .mysql) (table : Table) :
    ((c.createDdl table).Gives fun statements => ∃ pieces others, statements = writeAll pieces :: others ∧
      literals pieces = table.literalTexts ∧
      ∀ before lead text after, pieces = before ++ .literal lead text :: after →
        (Literal.readEscapedLiteral (Literal.quote text ++ writeAll after).toList =
          some (text.toList, (writeAll after).toList) ↔ Literal.Unescaped text.toList)) ∧
    (table.isPresent = true → c.PlacesByText → (c.createDdl table).Succeeds) := by
  refine ⟨?_, fun present placed => succeeds_createDdl present (fun column _ => ⟨mysqlType column, ?_⟩) placed⟩
  · intro draft statements given
    obtain ⟨_, indexes, searches, rfl, ⟨pieces, rfl, texts, apart⟩, _⟩ :=
      c.gives_createDdl_parts table (gives_structureDdl_holds mysql) draft statements given
    refine ⟨pieces, _, rfl, texts, ?_⟩
    rintro before lead text after rfl
    rw [Literal.readEscapedLiteral_quote_iff]
    exact and_iff_left apart.behind
  · rw [mapType, mysql]

/-- A table with quotes and wildcards in its texts. -/
def prices : Table :=
  { name := "prices"
    columns := [
      { name := "note", typeName := some "VARCHAR", category := .varchar, default := some "it's",
        comment := some "50\\% off" }]
    comment := some "'" }

theorem createDdl_literals_iff_prices :
    let c : Compiler := { engine := .mysql, config := none }
    (c.createDdl prices).Succeeds ∧
    (c.createDdl prices).Gives fun statements => ∃ pieces others, statements = writeAll pieces :: others ∧
      literals pieces = ["it's", "50\\% off", "'"] ∧
      ∀ before lead text after, pieces = before ++ .literal lead text :: after →
        Literal.readEscapedLiteral (Literal.quote text ++ writeAll after).toList =
          some (text.toList, (writeAll after).toList) := by
  intro c
  obtain ⟨holds, compiles⟩ := createDdl_literals_iff (c := c) rfl prices
  refine ⟨compiles rfl nofun, ?_⟩
  intro draft statements given
  obtain ⟨pieces, others, written, texts, denote⟩ := holds draft statements given
  have listed : literals pieces = ["it's", "50\\% off", "'"] := texts.trans (by decide)
  refine ⟨pieces, others, written, listed, ?_⟩
  rintro before lead text after split
  have among : text ∈ ["it's", "50\\% off", "'"] := by
    rw [← listed, split]
    exact List.mem_filterMap.mpr ⟨.literal lead text, by simp, rfl⟩
  have unescaped : ∀ text ∈ ["it's", "50\\% off", "'"], Literal.Unescaped text.toList := by
    simp [Literal.Unescaped, Literal.IsWildcard]
  exact (denote before lead text after split).mpr (unescaped text among)

/-- A table with a path in a comment. -/
def folders : Table :=
  { name := "folders"
    columns := [{ name := "path", typeName := some "TEXT", category := .longVarchar, comment := some "C:\\temp" }]
    comment := some "in C:\\" }

/-- A comment loses its backslash, and one that ends with a backslash does not end where it should. -/
theorem createDdl_loses_backslash :
    let c : Compiler := { engine := .mysql, config := none }
    ((c.createDdl folders).run {}).1 =
      .ok ["CREATE TABLE \x60folders\x60 (\x60path\x60 LONGTEXT NULL COMMENT 'C:\\temp') COMMENT='in C:\\'"] ∧
    Literal.readEscapedLiteral "'C:\\temp') COMMENT='in C:\\'".toList =
      some ("C:\temp".toList, ") COMMENT='in C:\\'".toList) ∧ "C:\temp" ≠ "C:\\temp" ∧
    Literal.readEscapedLiteral "'in C:\\'".toList = none := by
  exact ⟨rfl, by decide, by decide, by decide⟩

end Compiler

end TableFerry
