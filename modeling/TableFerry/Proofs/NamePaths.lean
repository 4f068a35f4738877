import TableFerry.Proofs.IndexNameLengths
import TableFerry.Proofs.MarkedTexts
/-! How a name in a statement is read: part by part, each between the marks of the dialect, where the closing mark written
twice stands for itself. The last theorem says which names are read as they are meant: a closing mark in a name is written
once, so that the name ends there and the rest of it stands in the statement as it is. -/

namespace TableFerry

namespace Text

variable {opening closing mark : Char} {cs rest : List Char} {parts : List (List Char)}

theorem mem_removeBlanks {c : Char} (visible : isBlankChar c = false) (s : String) :
    c ∈ (removeBlanks s).toList ↔ c ∈ s.toList := by
  simp [removeBlanks, visible]

theorem removeBlanks_eq_empty_iff (s : String) : removeBlanks s = "" ↔ isBlankText s = true := by
  simp [removeBlanks, isBlankText, ← String.toList_eq_nil_iff]

theorem mem_splitAt {c : Char} (other : c ≠ mark) (s : String) :
    (∃ part ∈ splitAt mark s, c ∈ part.toList) ↔ c ∈ s.toList := by
  constructor
  · rintro ⟨part, among, member⟩
    obtain ⟨chars, split_off, rfl⟩ := List.mem_map.mp among
    rw [String.toList_ofList] at member
    exact mem_of_mem_splitWhere split_off member
  · intro member
    rw [← joinWith_splitAt_self mark s] at member
    have own := mem_joinWith member
    rw [String.toList_singleton, List.mem_singleton] at own
    exact own.resolve_left other

theorem toList_joinWith (separator : String) (parts : List String) :
    (joinWith separator parts).toList = List.intercalate separator.toList (parts.map String.toList) := by
  induction parts with
  | nil => rfl
  | cons head tail ih =>
      cases tail with
      | nil => simp [joinWith]
      | cons next rest =>
          rw [joinWith_cons (List.cons_ne_nil _ _), String.toList_append, String.toList_append, ih]
          exact List.intercalate_cons_cons.symm

/-- Texts between marks, with points between them. -/
def path (opening closing : Char) (parts : List (List Char)) : List Char :=
  List.intercalate ['.'] (parts.map fun part => opening :: part ++ [closing])

theorem path_cons (part : List Char) (more : parts ≠ []) :
    path opening closing (part :: parts) = opening :: part ++ closing :: '.' :: path opening closing parts := by
  obtain ⟨next, parts, rfl⟩ := List.exists_cons_of_ne_nil more
  simp [path, List.intercalate_cons_cons]

theorem path_append {more : List (List Char)} (some_part : parts ≠ []) (some_more : more ≠ []) :
    path opening closing (parts ++ more) = path opening closing parts ++ '.' :: path opening closing more := by
  induction parts with
  | nil => exact absurd rfl some_part
  | cons part parts ih =>
      by_cases last : parts = []
      · subst last
        rw [List.singleton_append, path_cons part some_more]
        simp [path]
      · rw [List.cons_append, path_cons part (by simp [last]), path_cons part last, ih last]
        simp

theorem path_single (part : List Char) : path opening closing [part] = opening :: part ++ [closing] := by
  simp [path]

/-- Doubling makes a path longer by every closing mark in its parts. -/
theorem length_path_doubleMark (opening closing : Char) (parts : List (List Char)) :
    (path opening closing (parts.map (doubleMark closing))).length =
      (path opening closing parts).length + parts.flatten.count closing := by
  induction parts with
  | nil => rfl
  | cons part parts ih =>
      by_cases last : parts = []
      · subst last
        simp [path_single, length_doubleMark]
        omega
      · rw [List.map_cons, path_cons _ (by simpa using last), path_cons _ last]
        simp [length_doubleMark, ih]
        omega

/-- Doubling leaves a path as it is exactly if no closing mark stands in its parts. -/
theorem path_doubleMark_iff : path opening closing (parts.map (doubleMark closing)) = path opening closing parts ↔
    ∀ part ∈ parts, closing ∉ part := by
  constructor
  · intro same
    have longer := length_path_doubleMark opening closing parts
    rw [same] at longer
    have none_left : closing ∉ parts.flatten := List.count_eq_zero.mp (by omega)
    exact fun part among member => none_left (List.mem_flatten.mpr ⟨part, among, member⟩)
  · intro free
    rw [List.map_congr_left fun part among => doubleMark_free (free part among), List.map_id']

theorem length_readBetween {inside : List Char} (found : readBetween opening closing cs = some (inside, rest)) :
    rest.length < cs.length := by
  rw [(readBetween_eq_some_iff.mp found).1]
  simp
  omega

/-- Texts between marks with points between them, and what follows the last of them. -/
def readPath (opening closing : Char) (cs : List Char) : Option (List (List Char) × List Char) :=
  match found : readBetween opening closing cs with
  | none => none
  | some (part, rest) =>
    have _shorter : rest.length < cs.length := length_readBetween found
    if rest.head? = some '.' then (readPath opening closing rest.tail).map fun read => (part :: read.1, read.2)
    else some ([part], rest)
termination_by cs.length

theorem readPath_of_between {part : List Char} (found : readBetween opening closing cs = some (part, rest)) :
    readPath opening closing cs =
      if rest.head? = some '.' then (readPath opening closing rest.tail).map fun read => (part :: read.1, read.2)
      else some ([part], rest) := by
  rw [readPath]
  split
  next missing => simp [found] at missing
  next own remains same =>
    obtain ⟨rfl, rfl⟩ : own = part ∧ remains = rest := by simpa [found] using same.symm
    rfl

theorem readPath_path (distinct : closing ≠ '.') (apart : rest.head? ≠ some closing) (ended : rest.head? ≠ some '.')
    (some_part : parts ≠ []) :
    readPath opening closing (path opening closing (parts.map (doubleMark closing)) ++ rest) = some (parts, rest) := by
  induction parts with
  | nil => exact absurd rfl some_part
  | cons part parts ih =>
      by_cases last : parts = []
      · subst last
        have found : readBetween opening closing (path opening closing [doubleMark closing part] ++ rest) =
            some (part, rest) := readBetween_eq_some_iff.mpr ⟨by simp [path_single], apart⟩
        rw [List.map_singleton, readPath_of_between found, if_neg ended]
      · have found : readBetween opening closing (path opening closing ((part :: parts).map (doubleMark closing)) ++ rest) =
            some (part, '.' :: (path opening closing (parts.map (doubleMark closing)) ++ rest)) := by
          refine readBetween_eq_some_iff.mpr ⟨?_, by simpa using Ne.symm distinct⟩
          rw [List.map_cons, path_cons _ (by simpa using last)]
          simp
        rw [readPath_of_between found, List.head?_cons, if_pos rfl, List.tail_cons, ih last]
        rfl

theorem eq_of_readPath (read : readPath opening closing cs = some (parts, rest)) :
    parts ≠ [] ∧ cs = path opening closing (parts.map (doubleMark closing)) ++ rest ∧
      rest.head? ≠ some closing ∧ rest.head? ≠ some '.' := by
  fun_induction readPath opening closing cs generalizing parts with
  | case1 => cases read
  | case2 cs part remains found _ dotted ih =>
      simp only [Option.map_eq_some_iff, Prod.mk.injEq, Prod.exists] at read
      obtain ⟨later, tail, more, rfl, rfl⟩ := read
      obtain ⟨some_part, written, ends⟩ := ih more
      obtain ⟨cut, _⟩ := readBetween_eq_some_iff.mp found
      refine ⟨List.cons_ne_nil _ _, ?_, ends⟩
      rw [cut, List.map_cons, path_cons _ (by simpa using some_part), ← List.cons_head?_tail dotted, written]
      simp
  | case3 cs part remains found _ undotted =>
      obtain ⟨cut, apart⟩ := readBetween_eq_some_iff.mp found
      simp only [Option.some.injEq, Prod.mk.injEq] at read
      obtain ⟨rfl, rfl⟩ := read
      exact ⟨List.cons_ne_nil _ _, by simp [cut, path_single], apart, undotted⟩

/-- Parts are read exactly from the path that they make with their closing marks doubled, if it ends there. -/
theorem readPath_eq_some_iff (distinct : closing ≠ '.') : readPath opening closing cs = some (parts, rest) ↔
    parts ≠ [] ∧ cs = path opening closing (parts.map (doubleMark closing)) ++ rest ∧
      rest.head? ≠ some closing ∧ rest.head? ≠ some '.' :=
  ⟨eq_of_readPath, fun ⟨some_part, written, apart, ended⟩ => written ▸ readPath_path distinct apart ended some_part⟩

end Text

namespace Engine

/-- The mark in front of a name and the one behind it. -/
def marks (engine : Engine) : Char × Char :=
  match engine with
  | mysql => ('\x60', '\x60')
  | sqlserver => ('[', ']')
  | _ => ('"', '"')

def closingMark (engine : Engine) : Char := engine.marks.2

theorem delimiters_eq (engine : Engine) :
    engine.delimiters = (String.singleton engine.marks.1, String.singleton engine.marks.2) := by
  cases engine <;> rfl

theorem caseless_closingMark (engine : Engine) : Text.Caseless engine.closingMark := by
  have backtick : Text.Caseless '\x60' :=
    Text.caseless_ascii (by decide) (by decide) (by decide) (by decide) (by decide +kernel)
  have bracket : Text.Caseless ']' :=
    Text.caseless_ascii (by decide) (by decide) (by decide) (by decide) (by decide +kernel)
  have quote : Text.Caseless '"' :=
    Text.caseless_ascii (by decide) (by decide) (by decide) (by decide) (by decide +kernel)
  cases engine with
  | mysql => exact backtick
  | sqlserver => exact bracket
  | _ => exact quote

end Engine

namespace Compiler

variable (c : Compiler) {name : String}

/-- The names that a statement gives one after another, with points between them, and what follows. -/
def readNames (cs : List Char) : Option (List String × List Char) :=
  (Text.readPath c.engine.marks.1 c.engine.marks.2 cs).map fun read => (read.1.map String.ofList, read.2)

/-- The parts of a name without blanks and folded. -/
def namePath (name : String) : List String := Text.splitAt '.' (c.foldCase (Text.removeBlanks name))

theorem toList_wrap (named : Text.removeBlanks name ≠ "") :
    (c.wrap name).toList = Text.path c.engine.marks.1 c.engine.marks.2 ((c.namePath name).map String.toList) := by
  rw [wrap, if_neg named, Text.toList_joinWith, Text.path, namePath, List.map_map, List.map_map]
  congr 1
  apply List.map_congr_left
  intro part _
  simp [delimit, c.engine.delimiters_eq]

theorem closingMark_mem_namePath :
    (∃ part ∈ c.namePath name, c.engine.closingMark ∈ part.toList) ↔ c.engine.closingMark ∈ name.toList := by
  have undotted : c.engine.closingMark ≠ '.' := by cases c.engine <;> decide
  have visible : Text.isBlankChar c.engine.closingMark = false := by cases c.engine <;> decide
  rw [namePath, Text.mem_splitAt undotted, foldCase, c.engine.caseRule.mem_fold c.engine.caseless_closingMark,
    Text.mem_removeBlanks visible]

theorem readNames_eq_some_iff {cs rest : List Char} {names : List String} : c.readNames cs = some (names, rest) ↔
    names ≠ [] ∧
      cs = Text.path c.engine.marks.1 c.engine.closingMark
        ((names.map String.toList).map (Text.doubleMark c.engine.closingMark)) ++ rest ∧
      rest.head? ≠ some c.engine.closingMark ∧ rest.head? ≠ some '.' := by
  have undotted : c.engine.closingMark ≠ '.' := by cases c.engine <;> decide
  have same (parts : List (List Char)) : parts.map String.ofList = names ↔ parts = names.map String.toList := by
    constructor
    · rintro rfl
      simp
    · rintro rfl
      simp
  simp only [readNames, Option.map_eq_some_iff, Prod.mk.injEq, Prod.exists, same]
  constructor
  · rintro ⟨parts, tail, read, rfl, rfl⟩
    obtain ⟨some_part, written, ends⟩ := (Text.readPath_eq_some_iff undotted).mp read
    exact ⟨by simpa using some_part, written, ends⟩
  · rintro ⟨some_name, written, ends⟩
    exact ⟨_, _, (Text.readPath_eq_some_iff undotted).mpr ⟨by simpa using some_name, written, ends⟩, rfl, rfl⟩

/-- Names without closing marks are read from the path that they make. -/
theorem readNames_path {names : List String} (some_name : names ≠ [])
    (free : ∀ name ∈ names, c.engine.closingMark ∉ name.toList) {rest : List Char}
    (apart : rest.head? ≠ some c.engine.closingMark) (ended : rest.head? ≠ some '.') :
    c.readNames (Text.path c.engine.marks.1 c.engine.closingMark (names.map String.toList) ++ rest) =
      some (names, rest) := by
  refine c.readNames_eq_some_iff.mpr ⟨some_name, ?_, apart, ended⟩
  rw [Text.path_doubleMark_iff.mpr]
  simpa using free

/-- A name is read part by part as it is meant, up to what follows it, exactly if no closing mark stands in it and what
follows does not go on with one or with a point. -/
theorem readNames_wrap_iff (filled : Text.isBlankText name = false) (rest : List Char) :
    c.readNames ((c.wrap name).toList ++ rest) = some (c.namePath name, rest) ↔
      c.engine.closingMark ∉ name.toList ∧ rest.head? ≠ some c.engine.closingMark ∧ rest.head? ≠ some '.' := by
  have named : Text.removeBlanks name ≠ "" := by
    rw [ne_eq, Text.removeBlanks_eq_empty_iff, filled]
    exact Bool.false_ne_true
  have some_name : c.namePath name ≠ [] := Text.splitAt_ne_nil _ _
  have free : (∀ part ∈ (c.namePath name).map String.toList, c.engine.closingMark ∉ part) ↔
      c.engine.closingMark ∉ name.toList := by
    rw [← c.closingMark_mem_namePath]
    simp
  calc c.readNames ((c.wrap name).toList ++ rest) = some (c.namePath name, rest)
      ↔ Text.path c.engine.marks.1 c.engine.closingMark
            (((c.namePath name).map String.toList).map (Text.doubleMark c.engine.closingMark)) =
          Text.path c.engine.marks.1 c.engine.closingMark ((c.namePath name).map String.toList) ∧
            rest.head? ≠ some c.engine.closingMark ∧ rest.head? ≠ some '.' := by
        rw [readNames_eq_some_iff, and_iff_right some_name, c.toList_wrap named, List.append_cancel_right_eq, eq_comm]
        rfl
    _ ↔ _ := by rw [Text.path_doubleMark_iff, free]

theorem readNames_wrap_iff_lines :
    let c : Compiler := { engine := .postgresql, config := none }
    Text.isBlankText "Sales.Order Lines" = false ∧
      c.readNames ((c.wrap "Sales.Order Lines").toList ++ " (".toList) = some (["sales", "orderlines"], " (".toList) := by
  intro c
  have filled : Text.isBlankText "Sales.Order Lines" = false := by decide
  have parts : c.namePath "Sales.Order Lines" = ["sales", "orderlines"] := by decide +kernel
  refine ⟨filled, ?_⟩
  rw [← parts]
  exact (c.readNames_wrap_iff filled _).mpr (by decide)

/-- A quote in a name ends it, and the rest of the name stands outside of all marks. -/
theorem wrap_quote_ends :
    let c : Compiler := { engine := .postgresql, config := none }
    Text.isBlankText "a\"b" = false ∧ c.namePath "a\"b" = ["a\"b"] ∧
      c.readNames (c.wrap "a\"b").toList = some (["a"], "b\"".toList) ∧
      c.readNames (c.wrap "a\"b").toList ≠ some (c.namePath "a\"b", []) := by
  intro c
  have parts : c.namePath "a\"b" = ["a\"b"] := by decide +kernel
  have cut : c.readNames (c.wrap "a\"b").toList = some (["a"], "b\"".toList) :=
    c.readNames_eq_some_iff.mpr (by decide +kernel)
  refine ⟨by decide, parts, cut, ?_⟩
  rw [cut, parts]
  decide

end Compiler

end TableFerry
