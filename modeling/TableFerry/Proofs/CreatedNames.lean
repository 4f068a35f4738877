import TableFerry.Dialect.Compiler
import TableFerry.Proofs.CaseFolding
/-! The name of a table in a statement. It stands there behind the schema, without blanks, folded and between
marks; folding leaves it one of the two spellings of a lookup, or makes a third one. -/

namespace TableFerry

namespace Text

theorem splitWhere_free {cut : Char → Bool} {cs : List Char} (free : ∀ c ∈ cs, cut c = false) :
    splitWhere cut cs = [cs] := by
  induction cs with
  | nil => rfl
  | cons head tail ih =>
      rw [splitWhere, free head List.mem_cons_self, ih fun c member => free c (List.mem_cons_of_mem _ member)]
      rfl

theorem splitWhere_absent {mark : Char} {cs : List Char} (absent : mark ∉ cs) :
    splitWhere (· == mark) cs = [cs] := by
  apply splitWhere_free
  intro c member
  apply beq_eq_false_iff_ne.mpr
  intro same
  rcases same with rfl
  exact absent member

theorem splitWhere_ne_nil (cut : Char → Bool) (cs : List Char) : splitWhere cut cs ≠ [] := by
  cases cs with
  | nil => exact List.cons_ne_nil _ _
  | cons head tail =>
      rw [splitWhere]
      split
      · exact List.cons_ne_nil _ _
      · split <;> exact List.cons_ne_nil _ _

/-- What stands before a cut and what stands behind it are split one by one. -/
theorem splitWhere_cut (cut : Char → Bool) {mark : Char} (marks : cut mark = true) (cs rest : List Char) :
    splitWhere cut (cs ++ mark :: rest) = splitWhere cut cs ++ splitWhere cut rest := by
  induction cs with
  | nil => exact if_pos marks
  | cons head tail ih =>
      rw [List.cons_append, splitWhere, splitWhere, ih]
      by_cases cuts : cut head = true
      · rw [if_pos cuts, if_pos cuts, List.cons_append]
      · rw [if_neg cuts, if_neg cuts]
        cases split_tail : splitWhere cut tail with
        | nil => exact absurd split_tail (splitWhere_ne_nil cut tail)
        | cons part parts => rfl

/-- The last part of a dotted text. -/
theorem splitAt_last (front last : List Char) (free : '.' ∉ last) :
    ∃ parts, splitAt '.' (String.ofList (front ++ '.' :: last)) = parts ++ [String.ofList last] := by
  refine ⟨(splitWhere (· == '.') front).map String.ofList, ?_⟩
  rw [splitAt, String.toList_ofList, splitWhere_cut (· == '.') (beq_self_eq_true '.'), splitWhere_absent free,
    List.map_append]
  rfl

theorem splitAt_single {mark : Char} (name : List Char) (free : mark ∉ name) :
    splitAt mark (String.ofList name) = [String.ofList name] := by
  rw [splitAt, String.toList_ofList, splitWhere_absent free]
  rfl

theorem joinWith_last (separator : String) (parts : List String) (last : String) :
    ∃ front, joinWith separator (parts ++ [last]) = front ++ last := by
  induction parts with
  | nil => exact ⟨"", by rw [List.nil_append, joinWith, String.empty_append]⟩
  | cons head tail ih =>
      rcases ih with ⟨front, joined⟩
      refine ⟨head ++ separator ++ front, ?_⟩
      rw [String.append_assoc, ← joined]
      cases tail <;> rfl

/-- A name without blanks and points. -/
def Plain (name : String) : Prop := ∀ c ∈ name.toList, isBlankChar c = false ∧ c ≠ '.'

instance (name : String) : Decidable (Plain name) := List.decidableBAll _ name.toList

theorem Plain.dot_not_mem {name : String} (plain : Plain name) : '.' ∉ name.toList :=
  fun member => (plain '.' member).2 rfl

theorem Plain.filter_blanks {name : String} (plain : Plain name) :
    name.toList.filter (!isBlankChar ·) = name.toList := by
  apply List.filter_eq_self.mpr
  intro c member
  rw [(plain c member).1]
  rfl

theorem Plain.removeBlanks {name : String} (plain : Plain name) : Text.removeBlanks name = name := by
  rw [Text.removeBlanks, plain.filter_blanks, String.ofList_toList]

end Text

namespace CaseRule

theorem mem_fold (rule : CaseRule) {mark : Char} (caseless : Text.Caseless mark) (name : String) :
    mark ∈ (rule.fold name).toList ↔ mark ∈ name.toList := by
  cases rule with
  | upper =>
      rw [fold, Text.upper, String.toList_ofList]
      exact caseless.mem_upperChars _
  | lower =>
      rw [fold, Text.lower, String.toList_ofList]
      exact caseless.mem_lowerFrom [] _
  | remain => rfl

theorem dot_not_mem_fold (rule : CaseRule) {name : String} (free : '.' ∉ name.toList) :
    '.' ∉ (rule.fold name).toList := by
  rwa [rule.mem_fold Text.caseless_dot]

/-- Folding a dotted text folds its last part. What stands before that part may matter, but never for whether
the part comes out as it was or in upper case. -/
theorem fold_last (rule : CaseRule) (front : List Char) {name : String} (free : '.' ∉ name.toList) :
    ∃ folded last, rule.fold (String.ofList (front ++ '.' :: name.toList)) =
        String.ofList (folded ++ '.' :: last) ∧ '.' ∉ last ∧
      ((String.ofList last = name ∨ String.ofList last = Text.upper name) ↔
        (rule.fold name = name ∨ rule.fold name = Text.upper name)) := by
  cases rule with
  | upper =>
      have undotted : '.' ∉ Text.upperChars name.toList := mt (Text.caseless_dot.mem_upperChars _).mp free
      refine ⟨Text.upperChars front, Text.upperChars name.toList, ?_, undotted, Iff.rfl⟩
      rw [fold, Text.upper, String.toList_ofList, Text.upperChars_dot]
  | lower =>
      obtain ⟨folded, lowered⟩ := Text.lowerFrom_dot [] front name.toList
      have undotted (before : List Char) : '.' ∉ Text.lowerFrom before name.toList :=
        mt (Text.caseless_dot.mem_lowerFrom before _).mp free
      refine ⟨folded, Text.lowerFrom ('.' :: (front.reverse ++ [])) name.toList, ?_, undotted _, ?_⟩
      · rw [fold, Text.lower, String.toList_ofList, Text.lowerChars, lowered]
      · have same (cs : List Char) : String.ofList cs = name ↔ cs = name.toList := by
          rw [← String.toList_inj, String.toList_ofList]
        have upper (cs : List Char) : String.ofList cs = Text.upper name ↔ cs = Text.upperChars name.toList := by
          rw [Text.upper, ← String.toList_inj, String.toList_ofList, String.toList_ofList]
        rw [fold, Text.lower, same, same, upper, upper]
        exact Text.lowerFrom_found_iff _ _
  | remain => exact ⟨front, name.toList, rfl, free, by rw [String.ofList_toList]; rfl⟩

end CaseRule

namespace Compiler

variable (c : Compiler)

/-- What stands in a statement for a name, before it is folded: the name under the schema, if there is one. -/
def dotted (name : String) : String :=
  match c.schemaText? with
  | some schema => schema ++ "." ++ name
  | none => name

theorem qualify_eq (name : String) : c.qualify name = c.wrap (c.dotted name) := by
  unfold qualify dotted
  cases c.schemaText? <;> rfl

/-- The name that a statement on a table names: the last part, without its marks. -/
def createdName (name : String) : String :=
  ((Text.splitAt '.' (c.foldCase (Text.removeBlanks (c.dotted name)))).getLast?).getD ""

/-- Folding leaves a name as it is or puts it into upper case. -/
def NamesMeet (name : String) : Prop := c.foldCase name = name ∨ c.foldCase name = Text.upper name

theorem namesMeet_of_caseRule {name : String} (rule : c.engine.caseRule ≠ .lower) : c.NamesMeet name := by
  unfold NamesMeet foldCase
  cases same : c.engine.caseRule with
  | upper => exact Or.inr rfl
  | lower => exact absurd same rule
  | remain => exact Or.inl rfl

theorem created_last {name : String} (plain : Text.Plain name) :
    ∃ parts, Text.splitAt '.' (c.foldCase (Text.removeBlanks (c.dotted name))) = parts ++ [c.createdName name] ∧
      ((c.createdName name = name ∨ c.createdName name = Text.upper name) ↔ c.NamesMeet name) := by
  have free := plain.dot_not_mem
  have created {parts : List String} {last : String}
      (given : Text.splitAt '.' (c.foldCase (Text.removeBlanks (c.dotted name))) = parts ++ [last]) :
      c.createdName name = last := by
    rw [createdName, given, List.getLast?_concat, Option.getD_some]
  cases given : c.schemaText? with
  | none =>
      have whole : Text.splitAt '.' (c.foldCase (Text.removeBlanks (c.dotted name))) =
          [] ++ [c.foldCase name] := by
        have unsplit := Text.splitAt_single _ (c.engine.caseRule.dot_not_mem_fold free)
        rw [String.ofList_toList] at unsplit
        simp only [dotted, given, plain.removeBlanks]
        exact unsplit
      refine ⟨[], ?_, ?_⟩
      · rw [created whole, whole]
      · rw [created whole]
        exact Iff.rfl
  | some schema =>
      have bare : Text.removeBlanks (c.dotted name) =
          String.ofList (schema.toList.filter (!Text.isBlankChar ·) ++ '.' :: name.toList) := by
        simp only [dotted, given, Text.removeBlanks, String.toList_append, List.filter_append,
          plain.filter_blanks, List.append_assoc]
        rfl
      obtain ⟨folded, last, fold_all, last_free, found⟩ :=
        c.engine.caseRule.fold_last (schema.toList.filter (!Text.isBlankChar ·)) free
      obtain ⟨parts, split_all⟩ := Text.splitAt_last folded last last_free
      have whole : Text.splitAt '.' (c.foldCase (Text.removeBlanks (c.dotted name))) =
          parts ++ [String.ofList last] := by
        rw [bare, foldCase, fold_all, split_all]
      refine ⟨parts, ?_, ?_⟩
      · rw [created whole, whole]
      · rw [created whole]
        exact found

/-- A statement names the created name, between marks, behind the schema if there is one. -/
theorem qualify_created {name : String} (plain : Text.Plain name) (named : name ≠ "") :
    ∃ front, c.qualify name = front ++ c.delimit (c.createdName name) := by
  obtain ⟨parts, split_all, _⟩ := c.created_last plain
  have filled : Text.removeBlanks (c.dotted name) ≠ "" := by
    have some_char : name.toList ≠ [] := fun empty => named (String.toList_eq_nil_iff.mp empty)
    obtain ⟨first, rest, chars⟩ := List.exists_cons_of_ne_nil some_char
    have present : first ∈ (c.dotted name).toList := by
      unfold dotted
      split
      · simp [String.toList_append, chars]
      · simp [chars]
    intro empty
    have kept : first ∈ (Text.removeBlanks (c.dotted name)).toList := by
      rw [Text.removeBlanks, String.toList_ofList, List.mem_filter]
      refine ⟨present, ?_⟩
      rw [(plain first (chars ▸ List.mem_cons_self)).1]
      rfl
    rw [empty] at kept
    cases kept
  rw [qualify_eq, wrap, if_neg filled, split_all, List.map_append]
  exact Text.joinWith_last "." _ _

end Compiler

end TableFerry
