import TableFerry.Value
/-!
Placeholders `${NAME}` and `${NAME:DEFAULT}` in the texts of a configuration. Each is replaced in one pass by
the environment's value of the name, or else by its default, or else by nothing.
-/
namespace TableFerry.Placeholder

abbrev Environment := List (String × String)

structure Found where
  name : List Char
  default : List Char
  rest : List Char

/-- The placeholder whose opening brace stands in front of the text: its name has no colon and no closing
brace, its default no closing brace. -/
def read? (cs : List Char) : Option Found :=
  let name := cs.takeWhile fun c => c ≠ '}' && c ≠ ':'
  if name.isEmpty then none
  else
    match cs.drop name.length with
    | '}' :: rest => some ⟨name, [], rest⟩
    | ':' :: rest =>
      let default := rest.takeWhile (· ≠ '}')
      match rest.drop default.length with
      | '}' :: rest => some ⟨name, default, rest⟩
      | _ => none
    | _ => none

theorem read?_shorter {cs : List Char} {found : Found} (h : read? cs = some found) :
    found.rest.length < cs.length := by
  unfold read? at h
  simp only at h
  split at h
  · simp at h
  · split at h
    · rename_i rest hrest
      obtain rfl := Option.some.inj h
      have := congrArg List.length hrest
      simp only [List.length_drop, List.length_cons] at this
      simp only
      omega
    · rename_i rest hrest
      split at h
      · rename_i rest' hrest'
        obtain rfl := Option.some.inj h
        have h1 := congrArg List.length hrest
        have h2 := congrArg List.length hrest'
        simp only [List.length_drop, List.length_cons] at h1 h2
        simp only
        omega
      · simp at h
    · simp at h

def valueOf (environment : Environment) (found : Found) : List Char :=
  match environment.lookup (String.ofList found.name) with
  | some value => value.toList
  | none => found.default

/-- The text with every placeholder replaced; what is put in is not looked through again. -/
def resolveChars (environment : Environment) : List Char → List Char
  | [] => []
  | [c] => [c]
  | a :: b :: cs =>
    if a = '$' ∧ b = '{' then
      match _h : read? cs with
      | some found => valueOf environment found ++ resolveChars environment found.rest
      | none => a :: resolveChars environment (b :: cs)
    else a :: resolveChars environment (b :: cs)
termination_by cs => cs.length
decreasing_by
  · have := read?_shorter _h
    simp only [List.length_cons]
    omega
  all_goals simp

def resolveText (environment : Environment) (s : String) : String :=
  String.ofList (resolveChars environment s.toList)

mutual

/-- Replaces placeholders in every text of a value; names of fields stay. -/
def resolve (environment : Environment) : Value → Value
  | .text s => .text (resolveText environment s)
  | .list items => .list (resolveItems environment items)
  | .record fields => .record (resolveFields environment fields)
  | value => value

def resolveItems (environment : Environment) : List Value → List Value
  | [] => []
  | item :: items => resolve environment item :: resolveItems environment items

def resolveFields (environment : Environment) : List (String × Value) → List (String × Value)
  | [] => []
  | (name, value) :: fields => (name, resolve environment value) :: resolveFields environment fields

end

/-- The names of the placeholders of a text, in their order. -/
def namesInChars : List Char → List String
  | [] => []
  | [_] => []
  | a :: b :: cs =>
    if a = '$' ∧ b = '{' then
      match _h : read? cs with
      | some found => String.ofList found.name :: namesInChars found.rest
      | none => namesInChars (b :: cs)
    else namesInChars (b :: cs)
termination_by cs => cs.length
decreasing_by
  · have := read?_shorter _h
    simp only [List.length_cons]
    omega
  all_goals simp

mutual

/-- The names of the placeholders in all texts of a value. -/
def names : Value → List String
  | .text s => namesInChars s.toList
  | .list items => namesInItems items
  | .record fields => namesInFields fields
  | _ => []

def namesInItems : List Value → List String
  | [] => []
  | item :: items => names item ++ namesInItems items

def namesInFields : List (String × Value) → List String
  | [] => []
  | (_, value) :: fields => names value ++ namesInFields fields

end

end TableFerry.Placeholder
