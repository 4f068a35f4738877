import Mathlib.Data.List.Infix
import TableFerry.Config.Placeholder
/-! Texts with placeholders in them. Such a text is made of literals with placeholders between them, and it is resolved in
one pass: every placeholder gives way to its value, and what is put in is not looked through again. Of a nested value the
texts are resolved, each at its place, and all else stays. -/

namespace TableFerry

namespace Value

/-! Nested values. What a value is apart from its texts is its outline. -/

mutual

/-- The value with every text in it emptied; names of fields stay. -/
def outline : Value → Value
  | text _ => text ""
  | list items => list (outlineItems items)
  | record fields => record (outlineFields fields)
  | value => value

def outlineItems : List Value → List Value
  | [] => []
  | item :: items => item.outline :: outlineItems items

def outlineFields : List (String × Value) → List (String × Value)
  | [] => []
  | (name, value) :: fields => (name, value.outline) :: outlineFields fields

end

mutual

/-- The texts of a value in their order. -/
def heldTexts : Value → List String
  | text s => [s]
  | list items => heldInItems items
  | record fields => heldInFields fields
  | _ => []

def heldInItems : List Value → List String
  | [] => []
  | item :: items => item.heldTexts ++ heldInItems items

def heldInFields : List (String × Value) → List String
  | [] => []
  | (_, value) :: fields => value.heldTexts ++ heldInFields fields

end

mutual

theorem length_heldTexts_outline : ∀ value : Value, value.outline.heldTexts.length = value.heldTexts.length
  | .text _ => rfl
  | .list items => length_heldInItems_outline items
  | .record fields => length_heldInFields_outline fields
  | .null | .bool _ | .int _ | .real _ | .tuple _ => rfl

theorem length_heldInItems_outline :
    ∀ items, (heldInItems (outlineItems items)).length = (heldInItems items).length
  | [] => rfl
  | item :: items => by
      simp [outlineItems, heldInItems, length_heldTexts_outline item, length_heldInItems_outline items]

theorem length_heldInFields_outline :
    ∀ fields, (heldInFields (outlineFields fields)).length = (heldInFields fields).length
  | [] => rfl
  | (_, value) :: fields => by
      simp [outlineFields, heldInFields, length_heldTexts_outline value, length_heldInFields_outline fields]

end

/-- Values with one outline have as many texts as each other, so that texts which agree in a row agree in each part. -/
theorem heldTexts_append_inj {one other : Value} {more others : List String} (same : one.outline = other.outline)
    (row : one.heldTexts ++ more = other.heldTexts ++ others) :
    one.heldTexts = other.heldTexts ∧ more = others := by
  apply List.append_inj row
  rw [← length_heldTexts_outline one, same, length_heldTexts_outline other]

mutual

/-- A value is its outline and its texts. -/
theorem eq_of_outline : ∀ {one other : Value}, one.outline = other.outline → one.heldTexts = other.heldTexts →
    one = other
  | .text _, other, same, alike => by
      cases other <;> simp_all [outline, heldTexts]
  | .list items, other, same, alike => by
      cases other with
      | list others => exact congrArg list (eq_of_outlineItems (list.inj same) alike)
      | _ => simp [outline] at same
  | .record fields, other, same, alike => by
      cases other with
      | record others => exact congrArg record (eq_of_outlineFields (record.inj same) alike)
      | _ => simp [outline] at same
  | .null, other, same, _ | .bool _, other, same, _ | .int _, other, same, _ | .real _, other, same, _
  | .tuple _, other, same, _ => by
      cases other <;> simp_all [outline]

theorem eq_of_outlineItems : ∀ {items others : List Value}, outlineItems items = outlineItems others →
    heldInItems items = heldInItems others → items = others
  | [], [], _, _ => rfl
  | [], _ :: _, same, _ | _ :: _, [], same, _ => by simp [outlineItems] at same
  | item :: items, other :: others, same, alike => by
      obtain ⟨here, behind⟩ := List.cons.inj same
      obtain ⟨own, more⟩ := heldTexts_append_inj here alike
      rw [eq_of_outline here own, eq_of_outlineItems behind more]

theorem eq_of_outlineFields : ∀ {fields others : List (String × Value)}, outlineFields fields = outlineFields others →
    heldInFields fields = heldInFields others → fields = others
  | [], [], _, _ => rfl
  | [], _ :: _, same, _ | _ :: _, [], same, _ => by simp [outlineFields] at same
  | (name, value) :: fields, (other, _) :: others, same, alike => by
      obtain ⟨here, behind⟩ := List.cons.inj same
      obtain ⟨named, outlined⟩ := Prod.mk.inj here
      obtain ⟨own, more⟩ := heldTexts_append_inj outlined alike
      rw [named, eq_of_outline outlined own, eq_of_outlineFields behind more]

end

end Value

namespace Placeholder

/-! Texts made of literals and placeholders. -/

/-- A text in which no placeholder is opened. -/
structure Literal where
  text : String
  unopened : ¬ ['$', '{'] <:+: text.toList

/-- A placeholder for the value of a name, with or without a default. -/
structure Slot where
  name : String
  default : Option String := none
  named : name ≠ ""
  name_ends : ∀ c ∈ name.toList, c ≠ '}' ∧ c ≠ ':'
  default_ends : ∀ text ∈ default, '}' ∉ text.toList

namespace Slot

/-- What stands behind the opening brace. -/
def inside (slot : Slot) : List Char :=
  slot.name.toList ++ (slot.default.elim [] fun default => ':' :: default.toList) ++ ['}']

def written (slot : Slot) : String := String.ofList ('$' :: '{' :: slot.inside)

/-- What the placeholder stands for: the value of its name, or else its default, or else nothing. -/
def filled (environment : Environment) (slot : Slot) : String :=
  (environment.lookup slot.name).getD (slot.default.getD "")

end Slot

/-- Literals with placeholders between them. -/
structure Template where
  first : Literal
  rest : List (Slot × Literal)

namespace Template

/-- The text in which every placeholder is shown in a given way. -/
def text (shown : Slot → String) (template : Template) : String :=
  template.first.text ++ template.rest.foldr (fun part behind => shown part.1 ++ part.2.text ++ behind) ""

def written (template : Template) : String := template.text Slot.written

def filled (environment : Environment) (template : Template) : String := template.text (Slot.filled environment)

end Template

variable (environment : Environment)

/-! Reading one placeholder. -/

theorem takeWhile_stopped {p : Char → Bool} {cs : List Char} {c : Char} (kept : ∀ d ∈ cs, p d = true)
    (stopped : p c = false) (rest : List Char) : (cs ++ c :: rest).takeWhile p = cs := by
  rw [List.takeWhile_append_of_pos kept, List.takeWhile_cons_of_neg (by simp [stopped]), List.append_nil]

/-- The name of a placeholder ends in front of the first colon or closing brace, and its default in front of the first
closing brace. -/
theorem read?_inside (slot : Slot) (rest : List Char) :
    read? (slot.inside ++ rest) = some ⟨slot.name.toList, (slot.default.getD "").toList, rest⟩ := by
  have kept : ∀ c ∈ slot.name.toList, (decide (c ≠ '}') && decide (c ≠ ':')) = true := by
    intro c member
    simpa using slot.name_ends c member
  have named : slot.name.toList.isEmpty = false := by simp [slot.named]
  unfold read? Slot.inside
  cases given : slot.default with
  | none =>
      have stopped := takeWhile_stopped kept (by decide : (decide ('}' ≠ '}') && decide ('}' ≠ ':')) = false) rest
      simp only [Option.elim_none, List.append_nil, List.append_assoc, List.singleton_append, stopped, named,
        List.drop_left]
      rfl
  | some default =>
      have stopped := takeWhile_stopped kept (by decide : (decide (':' ≠ '}') && decide (':' ≠ ':')) = false)
        (default.toList ++ '}' :: rest)
      have unclosed : ∀ c ∈ default.toList, decide (c ≠ '}') = true := by
        intro c member
        simpa using ne_of_mem_of_not_mem member (slot.default_ends default given)
      have ended := takeWhile_stopped unclosed (by decide : decide ('}' ≠ '}') = false) rest
      simp only [Option.elim_some, List.append_assoc, List.cons_append, List.nil_append, stopped, named,
        List.drop_left, ended]
      rfl

/-! One pass over a text. -/

theorem resolveChars_opened {cs : List Char} {found : Found} (read : read? cs = some found) :
    resolveChars environment ('$' :: '{' :: cs) =
      valueOf environment found ++ resolveChars environment found.rest := by
  rw [resolveChars, if_pos ⟨rfl, rfl⟩]
  split
  next other same =>
    obtain rfl := Option.some.inj (read.symm.trans same)
    rfl
  next missing => cases read.symm.trans missing

theorem resolveChars_cons {c : Char} {cs : List Char} (unopened : ¬ (c = '$' ∧ cs.head? = some '{')) :
    resolveChars environment (c :: cs) = c :: resolveChars environment cs := by
  cases cs with
  | nil => simp [resolveChars]
  | cons next cs =>
      have other : ¬ (c = '$' ∧ next = '{') := by simpa using unopened
      rw [resolveChars, if_neg other]

/-- A literal stays as it is, also if its last character is a dollar sign, unless an opening brace follows it. -/
theorem resolveChars_literal {cs rest : List Char} (unopened : ¬ ['$', '{'] <:+: cs) (apart : rest.head? ≠ some '{') :
    resolveChars environment (cs ++ rest) = cs ++ resolveChars environment rest := by
  induction cs with
  | nil => rfl
  | cons c cs ih =>
      have here : ¬ (c = '$' ∧ (cs ++ rest).head? = some '{') := by
        intro opened
        cases cs with
        | nil => exact apart opened.2
        | cons next cs =>
            have both : c = '$' ∧ next = '{' := by simpa using opened
            rw [both.1, both.2] at unopened
            exact unopened (List.prefix_append ['$', '{'] cs).isInfix
      have later : ¬ ['$', '{'] <:+: cs := fun inside => unopened (inside.trans (List.suffix_cons c cs).isInfix)
      rw [List.cons_append, resolveChars_cons environment here, ih later]
      rfl

theorem resolveText_written (slot : Slot) (rest : String) :
    resolveText environment (slot.written ++ rest) = slot.filled environment ++ resolveText environment rest := by
  have value : valueOf environment ⟨slot.name.toList, (slot.default.getD "").toList, rest.toList⟩ =
      (slot.filled environment).toList := by
    simp only [valueOf, Slot.filled, String.ofList_toList]
    cases environment.lookup slot.name <;> rfl
  have resolved := resolveChars_opened environment (read?_inside slot rest.toList)
  rw [value] at resolved
  simp [resolveText, Slot.written, resolved]

theorem resolveText_literal (literal : Literal) {rest : String} (apart : rest.toList.head? ≠ some '{') :
    resolveText environment (literal.text ++ rest) = literal.text ++ resolveText environment rest := by
  have kept := resolveChars_literal environment literal.unopened apart
  simp [resolveText, kept]

theorem resolveText_template (template : Template) :
    resolveText environment template.written = template.filled environment := by
  obtain ⟨first, rest⟩ := template
  induction rest generalizing first with
  | nil =>
      have apart : ("" : String).toList.head? ≠ some '{' := by simp
      have resolved := resolveText_literal environment first apart
      simpa [resolveText, resolveChars, Template.written, Template.filled, Template.text] using resolved
  | cons part rest ih =>
      obtain ⟨slot, literal⟩ := part
      have behind : resolveText environment (Template.written ⟨literal, rest⟩) =
          Template.filled environment ⟨literal, rest⟩ := ih literal
      calc
        resolveText environment (Template.written ⟨first, (slot, literal) :: rest⟩) =
            resolveText environment (first.text ++ (slot.written ++ Template.written ⟨literal, rest⟩)) := by
          simp [Template.written, Template.text, String.append_assoc]
        _ = first.text ++ (slot.filled environment ++ resolveText environment (Template.written ⟨literal, rest⟩)) := by
          rw [resolveText_literal environment first (by simp [Slot.written]), resolveText_written]
        _ = Template.filled environment ⟨first, (slot, literal) :: rest⟩ := by
          rw [behind]
          simp [Template.filled, Template.text, String.append_assoc]

/-! Nested values. -/

mutual

theorem outline_resolve : ∀ value, (resolve environment value).outline = value.outline
  | .text _ => rfl
  | .list items => congrArg Value.list (outlineItems_resolve items)
  | .record fields => congrArg Value.record (outlineFields_resolve fields)
  | .null | .bool _ | .int _ | .real _ | .tuple _ => rfl

theorem outlineItems_resolve :
    ∀ items, Value.outlineItems (resolveItems environment items) = Value.outlineItems items
  | [] => rfl
  | item :: items => by
      simp [resolveItems, Value.outlineItems, outline_resolve item, outlineItems_resolve items]

theorem outlineFields_resolve :
    ∀ fields, Value.outlineFields (resolveFields environment fields) = Value.outlineFields fields
  | [] => rfl
  | (_, value) :: fields => by
      simp [resolveFields, Value.outlineFields, outline_resolve value, outlineFields_resolve fields]

end

mutual

theorem heldTexts_resolve :
    ∀ value, (resolve environment value).heldTexts = value.heldTexts.map (resolveText environment)
  | .text _ => rfl
  | .list items => heldInItems_resolve items
  | .record fields => heldInFields_resolve fields
  | .null | .bool _ | .int _ | .real _ | .tuple _ => rfl

theorem heldInItems_resolve : ∀ items, Value.heldInItems (resolveItems environment items) =
    (Value.heldInItems items).map (resolveText environment)
  | [] => rfl
  | item :: items => by
      simp [resolveItems, Value.heldInItems, heldTexts_resolve item, heldInItems_resolve items]

theorem heldInFields_resolve : ∀ fields, Value.heldInFields (resolveFields environment fields) =
    (Value.heldInFields fields).map (resolveText environment)
  | [] => rfl
  | (_, value) :: fields => by
      simp [resolveFields, Value.heldInFields, heldTexts_resolve value, heldInFields_resolve fields]

end

/-- A text made of literals and placeholders is resolved to the same literals with the values of the placeholders between
them, whatever these values hold. Of any value exactly the texts are resolved, each at its place: names of fields, orders
of lists and all that is no text are those of the value. -/
theorem resolve_singlePass (environment : Environment) :
    (∀ template : Template, resolveText environment template.written = template.filled environment) ∧
      ∀ value result : Value, resolve environment value = result ↔
        result.outline = value.outline ∧ result.heldTexts = value.heldTexts.map (resolveText environment) := by
  refine ⟨resolveText_template environment, fun value result => ⟨?resolved, ?determined⟩⟩
  case resolved =>
    rintro rfl
    exact ⟨outline_resolve environment value, heldTexts_resolve environment value⟩
  case determined =>
    intro outcome
    apply Value.eq_of_outline
    · rw [outline_resolve, outcome.1]
    · rw [heldTexts_resolve, outcome.2]

/-- A dollar sign in front of a placeholder stays, and so does a placeholder that comes in with a value. -/
example : resolveText [("USER", "$\x7bHOME\x7d")] "$$\x7bUSER\x7d:$\x7bPORT:80\x7d\x7d$" = "$$\x7bHOME\x7d:80\x7d$" := by
  decide +kernel

end Placeholder

end TableFerry
