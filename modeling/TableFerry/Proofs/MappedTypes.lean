import TableFerry.Dialect.TypeMapping
import TableFerry.Proofs.NamePaths
/-! The types that columns are mapped to. Every dialect has something to write for every column: a word of its own or
the declared type, with sizes behind it. Only where sized text is stretched by the width of characters does a mapping
depend on the encoding of the target, and there the one encoding that refuses all texts makes it fail. -/

namespace TableFerry

namespace Text

theorem isBlankText_append (before after : String) :
    isBlankText (before ++ after) = (isBlankText before && isBlankText after) := by
  simp only [isBlankText, String.toList_append, List.all_append]

/-- What begins with something visible is not blank. -/
theorem visible_append {before : String} (visible : isBlankText before = false) (after : String) :
    isBlankText (before ++ after) = false := by
  rw [isBlankText_append, visible, Bool.false_and]

theorem isBlankText_upper (s : String) : isBlankText (upper s) = isBlankText s := by
  rw [Bool.eq_iff_iff, ← removeBlanks_eq_empty_iff, ← removeBlanks_eq_empty_iff, removeBlanks_upper]
  constructor
  · intro none
    by_contra filled
    exact upper_ne_empty filled none
  · intro none
    rw [none]
    rfl

theorem all_dropWhile_blank (cs : List Char) : (cs.dropWhile isBlankChar).all isBlankChar = cs.all isBlankChar := by
  induction cs with
  | nil => rfl
  | cons head tail ih =>
      cases blank : isBlankChar head with
      | true => rw [List.dropWhile_cons_of_pos blank, ih, List.all_cons, blank, Bool.true_and]
      | false => rw [List.dropWhile_cons_of_neg (by simp [blank])]

theorem isBlankText_strip (s : String) : isBlankText (strip s) = isBlankText s := by
  rw [isBlankText, strip, String.toList_ofList, stripChars, List.all_reverse, all_dropWhile_blank, List.all_reverse,
    all_dropWhile_blank, isBlankText]

end Text

namespace Compiler

open Text

theorem visible_sized {type : String} (visible : isBlankText type = false) (size digits : Option Int)
    (positiveDigits : Bool) : isBlankText (sized type size digits positiveDigits) = false := by
  have shown (n : Int) (behind : String) :
      isBlankText (toString type ++ toString "(" ++ toString n ++ behind) = false :=
    visible_append (visible_append (visible_append visible _) _) behind
  unfold sized
  split
  · exact visible
  · split
    · split
      · exact visible_append (visible_append (shown _ _) _) _
      · exact shown _ _
    · exact shown _ _

/-- A column whose declared type is missing, empty or visible. -/
def Declared (column : Column) : Prop := column.typeText = "" ∨ isBlankText column.typeText = false

section

variable {column : Column} (declared : Declared column)
include declared

theorem Declared.visible_or {other : String} (visible : isBlankText other = false) :
    isBlankText (declaredOr column other) = false := by
  unfold declaredOr
  split
  · exact visible
  · rename_i given
    exact declared.resolve_left given

/-- The stripped type, or another word where nothing is left of it. -/
theorem Declared.visible_strip_or {other : String} (visible : isBlankText other = false) :
    isBlankText (if strip column.typeText = "" then other else strip column.typeText) = false := by
  split
  · exact visible
  · rename_i given
    rw [isBlankText_strip]
    refine declared.resolve_left fun none => given ?_
    rw [none]
    rfl

theorem visible_mysqlType : isBlankText (mysqlType column) = false := by
  have sized_word (word : String) (n : Int) (visible : isBlankText word = false) :
      isBlankText (toString word ++ toString n ++ toString ")") = false :=
    visible_append (visible_append visible _) _
  unfold mysqlType
  split
  case h_9 | h_10 =>
    split
    · decide
    · exact visible_sized (by decide) _ _ _
  case h_11 => exact sized_word "CHAR(" _ (by decide)
  case h_12 =>
    split
    · exact sized_word "VARCHAR(" _ (by decide)
    · split <;> decide
  case h_13 | h_14 => split <;> decide
  case h_15 => exact sized_word "BINARY(" _ (by decide)
  case h_16 => exact sized_word "VARBINARY(" _ (by decide)
  case h_24 =>
    refine visible_sized ?_ _ _ _
    rw [isBlankText_upper]
    exact declared.visible_or (by decide)
  all_goals decide

theorem visible_postgresqlType : isBlankText (postgresqlType column) = false := by
  unfold postgresqlType
  split
  case h_9 | h_10 | h_11 | h_12 => exact visible_sized (by decide) _ _ _
  case h_22 | h_23 => split <;> decide
  case h_24 =>
    refine visible_sized ?_ _ _ _
    rw [isBlankText_upper]
    exact declared.visible_or (by decide)
  all_goals decide

theorem visible_sqliteType : isBlankText (sqliteType column) = false := by
  unfold sqliteType
  split
  case h_9 | h_10 | h_11 | h_12 => exact visible_sized (by decide) _ _ _
  case h_24 =>
    rw [isBlankText_upper]
    exact declared.visible_or (by decide)
  all_goals decide

theorem visible_vastbaseType : isBlankText (vastbaseType column) = false := by
  have own : isBlankText (sized (if strip column.typeText = "" then "TEXT" else strip column.typeText) column.size
      column.digits true) = false :=
    visible_sized (declared.visible_strip_or (by decide)) _ _ _
  have word_or_own (p : Prop) [Decidable p] : isBlankText (if p then "TEXT" else
      sized (if strip column.typeText = "" then "TEXT" else strip column.typeText) column.size column.digits true) =
      false := by
    split
    · decide
    · exact own
  unfold vastbaseType
  dsimp only
  split
  case h_8 | h_9 => exact visible_sized (by decide) _ _ _
  case h_13 | h_14 | h_15 | h_16 => exact word_or_own _
  case h_17 => exact own
  all_goals decide

theorem visible_kingbaseType : isBlankText (kingbaseType column) = false := by
  unfold kingbaseType
  dsimp only
  split
  case h_2 | h_5 => exact visible_sized (by decide) _ _ _
  case h_6 | h_7 =>
    split
    · decide
    · exact declared.visible_strip_or (by decide)
  case h_10 =>
    split
    · decide
    · exact declared.visible_strip_or (by decide)
  case h_11 =>
    split
    · rename_i unsigned
      -- an empty type has no word in it
      have filled : column.typeText ≠ "" := by
        intro none
        rw [none] at unsigned
        revert unsigned
        decide
      rw [isBlankText_strip]
      exact declared.resolve_left filled
    · exact visible_sized (declared.visible_strip_or (by decide)) _ _ _
  all_goals decide

end

/-! Encodings. -/

/-- The encoding of the target, if it has any. -/
def encoding (c : Compiler) : Value := (c.config.map (·.encoding)).getD .null

/-- The encoding of the target is the one that refuses all texts, however its name is written. -/
def RefusesTexts (c : Compiler) : Prop :=
  ∃ name, c.encoding = .text name ∧ String.ofList (normalizeName false false name.toList) = "undefined"

/-- The result is a visible type, or a fault that is not handled if `fails` holds. -/
def MapsUnless (fails : Prop) (result : Except Fault String) : Prop :=
  (¬ fails ∧ ∃ type, result = .ok type ∧ isBlankText type = false) ∨
    (fails ∧ ∃ fault, result = .error fault ∧ fault.kind.isHandled = false)

theorem mapsUnless_ok {fails : Prop} {type : String} (never : ¬ fails) (visible : isBlankText type = false) :
    MapsUnless fails (.ok type) := Or.inl ⟨never, type, rfl, visible⟩

theorem ideographWidth?_eq_none_iff (name : String) : ideographWidth? name = none ↔
    String.ofList (normalizeName false false name.toList) = "undefined" := by
  unfold ideographWidth?
  dsimp only
  split
  · rename_i undefined
    exact iff_of_true rfl undefined
  · rename_i known
    refine iff_of_false ?_ known
    split <;> exact Option.some_ne_none _

theorem encodingWidth_text (name : String) :
    (ideographWidth? name ≠ none ∧ ∃ width, encodingWidth (.text name) = .ok width) ∨
      (ideographWidth? name = none ∧ ∃ fault, encodingWidth (.text name) = .error fault ∧
        fault.kind.isHandled = false) := by
  have usual : ideographWidth? "utf-8" = some 3 := by decide
  unfold encodingWidth
  dsimp only
  split
  · rename_i given
    cases given
    refine Or.inl ⟨by decide, 3, ?_⟩
    rw [usual]
    rfl
  · rename_i given
    cases given
    cases ideographWidth? name with
    | none => exact Or.inr ⟨rfl, _, rfl, rfl⟩
    | some width => exact Or.inl ⟨Option.some_ne_none _, width, rfl⟩
  · rename_i other
    exact absurd rfl (other name)

theorem charWidth_or {c : Compiler} (named : c.encoding = .null ∨ ∃ name, c.encoding = .text name) :
    (¬ c.RefusesTexts ∧ ∃ width, c.charWidth = .ok width) ∨
      (c.RefusesTexts ∧ ∃ fault, c.charWidth = .error fault ∧ fault.kind.isHandled = false) := by
  have own : c.charWidth = encodingWidth c.encoding := rfl
  rw [own]
  unfold RefusesTexts
  rcases named with none | ⟨name, given⟩
  · rw [none]
    refine Or.inl ⟨?_, 3, rfl⟩
    rintro ⟨_, given, _⟩
    cases given
  · have refuses : (∃ other, c.encoding = .text other ∧
        String.ofList (normalizeName false false other.toList) = "undefined") ↔ ideographWidth? name = none := by
      rw [ideographWidth?_eq_none_iff, given]
      simp
    rw [refuses, given]
    exact encodingWidth_text name

/-- Sized text is stretched by the width of characters. -/
theorem mapsUnless_stretched {c : Compiler} (named : c.encoding = .null ∨ ∃ name, c.encoding = .text name)
    {stretch : Int → String} (visible : ∀ width, isBlankText (stretch width) = false) :
    MapsUnless c.RefusesTexts (c.charWidth >>= fun width => pure (stretch width)) := by
  rcases charWidth_or named with ⟨admits, width, read⟩ | ⟨refuses, fault, failed, unhandled⟩
  · rw [read]
    exact mapsUnless_ok admits (visible width)
  · rw [failed]
    exact Or.inr ⟨refuses, fault, rfl, unhandled⟩

/-- The size of a column of characters is given. -/
def Stretched (column : Column) : Prop := column.category.isCharacter = true ∧ givenSize column.size ≠ none

theorem not_stretched {column : Column} {category : Category} (kind : column.category = category)
    (other : category.isCharacter = false) : ¬ Stretched column := by
  rintro ⟨character, _⟩
  rw [kind, other] at character
  cases character

section

variable {c : Compiler} {column : Column} (named : c.encoding = .null ∨ ∃ name, c.encoding = .text name)
variable (declared : Declared column)
include named declared

theorem oracleType_maps : MapsUnless (Stretched column ∧ c.RefusesTexts) (c.oracleType column) := by
  have plain {type : String} (kind : column.category.isCharacter = false) (visible : isBlankText type = false) :
      MapsUnless (Stretched column ∧ c.RefusesTexts) (.ok type) :=
    mapsUnless_ok (fun fails => not_stretched rfl kind fails.1) visible
  unfold oracleType
  split
  all_goals rename_i kind
  case h_9 | h_10 =>
    split
    · exact plain (by rw [kind]; rfl) (by decide)
    · exact plain (by rw [kind]; rfl) (visible_sized (by rw [kind]; decide) _ _ _)
  case h_16 | h_17 =>
    have character : column.category.isCharacter = true := by rw [kind]; rfl
    dsimp only
    split
    · rename_i none
      refine mapsUnless_ok (fun fails => fails.1.2 none) ?_
      exact visible_append (visible_append (by decide) _) _
    · rename_i size given
      have stretched : Stretched column := ⟨character, by rw [given]; exact Option.some_ne_none size⟩
      rw [and_iff_right stretched]
      exact mapsUnless_stretched named fun width => visible_append (visible_append (by decide) _) _
  case h_22 | h_23 =>
    split
    · exact plain (by rw [kind]; rfl) (visible_append (visible_append (by decide) _) _)
    · exact plain (by rw [kind]; rfl) (by decide)
  case h_24 =>
    refine plain (by rw [kind]; rfl) (visible_sized ?_ _ _ _)
    rw [isBlankText_upper]
    exact declared.visible_or (by decide)
  all_goals exact plain (by rw [kind]; rfl) (by decide)

theorem sqlserverType_maps : MapsUnless (Stretched column ∧ c.RefusesTexts) (c.sqlserverType column) := by
  have plain {type : String} (kind : column.category.isCharacter = false) (visible : isBlankText type = false) :
      MapsUnless (Stretched column ∧ c.RefusesTexts) (.ok type) :=
    mapsUnless_ok (fun fails => not_stretched rfl kind fails.1) visible
  unfold sqlserverType
  split
  all_goals rename_i kind
  case h_9 | h_10 =>
    split
    · exact plain (by rw [kind]; rfl) (by decide)
    · exact plain (by rw [kind]; rfl) (visible_sized (by decide) _ _ _)
  case h_16 | h_17 =>
    have character : column.category.isCharacter = true := by rw [kind]; rfl
    split
    · rename_i none
      exact mapsUnless_ok (fun fails => fails.1.2 none) (by decide)
    · rename_i size given
      have stretched : Stretched column := ⟨character, by rw [given]; exact Option.some_ne_none size⟩
      rw [and_iff_right stretched]
      refine mapsUnless_stretched named fun width => ?_
      split
      · decide
      · exact visible_append (visible_append (by decide) _) _
  case h_22 | h_23 =>
    split
    · refine plain (by rw [kind]; rfl) ?_
      exact visible_append (visible_append (visible_append (visible_append (by decide) _) _) _) _
    · exact plain (by rw [kind]; rfl) (by decide)
  case h_24 =>
    refine plain (by rw [kind]; rfl) ?_
    rw [isBlankText_upper]
    exact declared.visible_or (by decide)
  all_goals exact plain (by rw [kind]; rfl) (by decide)

end

/-- The dialects that stretch sized text. -/
def stretchesText (engine : Engine) : Bool := engine == .oracle || engine == .sqlserver

/-- An Oracle target with an encoding. -/
def encodedTarget (encoding : String) : Compiler where
  engine := .oracle
  config := some {
    id := .text "dst", url := .text "oracle://db/shop", user := .text "u", password := .text "p", engine := .oracle,
    encoding := .text encoding }

/-- A text of ten characters. -/
def sizedText : Column := { name := "c", typeName := some "VARCHAR", category := .varchar, size := some 10 }

end Compiler

end TableFerry
