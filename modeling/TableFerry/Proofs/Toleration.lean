import Mathlib.Data.List.Induction
import TableFerry.Proofs.CaseFolding
import TableFerry.Dialect.Tolerance
/-! Wrapped errors. An error of a driver comes to be tolerated or not inside the errors that were put around it.
The numbers and codes that the driver gives stay what they are inside any wrappers; the dialects that search the
text of the error search that of the outermost wrapper as well, and find there what the error does not say. -/

namespace TableFerry

namespace Text

theorem occursIn_behind {piece cs : List Char} (before : List Char) (occurs : occursIn piece cs = true) :
    occursIn piece (before ++ cs) = true := by
  induction before with
  | nil => exact occurs
  | cons head tail ih =>
      rw [List.cons_append, occursIn, ih, Bool.or_true]

theorem occursIn_before {piece cs : List Char} (after : List Char) (occurs : occursIn piece cs = true) :
    occursIn piece (cs ++ after) = true := by
  induction cs with
  | nil =>
      have empty : piece = [] := List.isEmpty_iff.mp occurs
      cases after with
      | nil => exact occurs
      | cons head tail => simp [occursIn, empty]
  | cons head tail ih =>
      rw [occursIn, Bool.or_eq_true] at occurs
      rw [List.cons_append, occursIn, Bool.or_eq_true]
      rcases occurs with starts | later
      · left
        rw [List.isPrefixOf_iff_prefix] at starts ⊢
        exact starts.trans (List.prefix_append (head :: tail) after)
      · exact Or.inr (ih later)

end Text

/-! Wrappers. -/

/-- An error that is put around another: by the layer above the drivers, or by the migration where a statement or
a copy fails. -/
inductive Wrapper where
  | database (message : String)
  | ddl (statement : Value) (message : String)
  | dataCopy (table page : Value) (message : String)

namespace Wrapper

def message : Wrapper → String
  | database message => message
  | ddl _ message => message
  | dataCopy _ _ message => message

/-- The wrapper of error `behind`, which is its origin or its cause. -/
def node (behind : Nat) : Wrapper → ErrorNode
  | database message => { kind := .database, args := [.text message], origin := .error behind }
  | ddl statement message => { kind := .ddl statement, args := [.text message], cause := .error behind }
  | dataCopy table page message =>
    { kind := .dataCopy table page, args := [.text message], cause := .error behind }

theorem next?_node (wrapper : Wrapper) (behind : Nat) : (wrapper.node behind).next? = some behind := by
  cases wrapper <;> rfl

theorem text_node (wrapper : Wrapper) (behind : Nat) : (wrapper.node behind).text = wrapper.message := by
  cases wrapper <;> rfl

end Wrapper

namespace Fault

def bare (root : ErrorNode) : Fault := { nodes := [root] }

def within (fault : Fault) (wrapper : Wrapper) : Fault :=
  { nodes := fault.nodes ++ [wrapper.node fault.entry], entry := fault.nodes.length }

/-- An error in wrappers, the innermost of them first. -/
def wrapped (root : ErrorNode) (wrappers : List Wrapper) : Fault := wrappers.foldl within (bare root)

/-- A failed statement is wrapped by the batch it is part of. -/
theorem wrap_ddl (fault : Fault) (sql message : String) :
    fault.wrap (.ddl (.text sql)) message = fault.within (.ddl (.text sql) message) := rfl

theorem wrapped_concat (root : ErrorNode) (wrappers : List Wrapper) (outer : Wrapper) :
    wrapped root (wrappers ++ [outer]) = (wrapped root wrappers).within outer := by
  rw [wrapped, List.foldl_append]
  rfl

variable (root : ErrorNode) (wrappers : List Wrapper)

/-- The error itself is number zero, and the wrapper behind which error `n` stands is number `n + 1`. -/
theorem wrapped_eq :
    wrapped root wrappers =
      { nodes := root :: wrappers.zipIdx.map fun (wrapper, index) => wrapper.node index
        entry := wrappers.length } := by
  induction wrappers using List.reverseRecOn with
  | nil => rfl
  | append_singleton wrappers outer ih =>
      rw [wrapped_concat, ih, within]
      simp [List.zipIdx_append]

theorem node?_wrapped (index : Nat) : (wrapped root wrappers).node? (index + 1) =
    (wrappers[index]?).map fun wrapper => wrapper.node index := by
  rw [wrapped_eq, node?, List.getElem?_cons_succ, List.getElem?_map, List.getElem?_zipIdx, Option.map_map]
  simp [Function.comp_def]

theorem next?_wrapped {index : Nat} (below : index < wrappers.length) :
    (wrapped root wrappers).next? (index + 1) = some index := by
  have stands : ((wrapped root wrappers).node? index).isSome := by
    cases index with
    | zero => rw [wrapped_eq]; rfl
    | succ index =>
        rw [node?_wrapped, List.getElem?_eq_getElem (by omega)]
        rfl
  obtain ⟨behind, found⟩ := Option.isSome_iff_exists.mp stands
  rw [next?, node?_wrapped, List.getElem?_eq_getElem below]
  simp [Wrapper.next?_node, found]

/-- Following links that go down by one ends at the bottom. -/
theorem follow_down {fault : Fault} {height : Nat} (bottom : fault.next? 0 = none)
    (down : ∀ index < height, fault.next? (index + 1) = some index) {fuel : Nat} (enough : height < fuel)
    {seen : List Nat} (above : ∀ index ∈ seen, height < index) : fault.follow fuel seen height = 0 := by
  induction height generalizing fuel seen with
  | zero =>
      obtain ⟨fuel, rfl⟩ := Nat.exists_eq_succ_of_ne_zero (Nat.ne_of_gt enough)
      rw [follow, bottom]
      split <;> rfl
  | succ height ih =>
      obtain ⟨fuel, rfl⟩ := Nat.exists_eq_succ_of_ne_zero (Nat.ne_zero_of_lt enough)
      have fresh : seen.contains (height + 1) = false := by
        apply Bool.eq_false_iff.mpr
        intro present
        exact Nat.lt_irrefl _ (above _ (List.contains_iff_mem.mp present))
      rw [follow, fresh, down height (Nat.lt_succ_self height)]
      apply ih (fun index below => down index (Nat.lt_succ_of_lt below)) (Nat.lt_of_succ_lt_succ enough)
      intro index member
      rcases List.mem_cons.mp member with rfl | later
      · exact Nat.lt_succ_self height
      · exact Nat.lt_of_succ_lt (above index later)

variable {root}

/-- Behind all wrappers stands the error itself. -/
theorem rootCause_wrapped (bottom : root.next? = none) : (wrapped root wrappers).rootCause = 0 := by
  have ends : (wrapped root wrappers).next? 0 = none := by
    rw [wrapped_eq]
    simp [next?, node?, bottom]
  have entry : (wrapped root wrappers).entry = wrappers.length := by rw [wrapped_eq]
  have size : (wrapped root wrappers).nodes.length = wrappers.length + 1 := by
    rw [wrapped_eq]
    simp
  rw [rootCause, rootFrom, entry, size]
  exact follow_down ends (fun _ below => next?_wrapped root wrappers below) (by omega) nofun

theorem rootNode_wrapped (bottom : root.next? = none) : (wrapped root wrappers).rootNode = root := by
  rw [rootNode, rootCause_wrapped wrappers bottom, wrapped_eq]
  rfl

theorem fullText_bare (bottom : root.next? = none) : (bare root).fullText = root.text := by
  have rootAt : (bare root).rootCause = (bare root).entry := rootCause_wrapped [] bottom
  rw [fullText, if_pos rootAt]
  rfl

theorem fullText_wrapped (bottom : root.next? = none) (outer : Wrapper) :
    (wrapped root (wrappers ++ [outer])).fullText = outer.message ++ " " ++ root.text := by
  have rootAt := rootCause_wrapped (wrappers ++ [outer]) bottom
  have entry : (wrapped root (wrappers ++ [outer])).entry = wrappers.length + 1 := by
    rw [wrapped_eq, List.length_append]
    rfl
  have own : (wrapped root (wrappers ++ [outer])).textAt (wrappers.length + 1) = outer.message := by
    rw [textAt, node?_wrapped, List.getElem?_concat_length]
    exact outer.text_node _
  have behind : (wrapped root (wrappers ++ [outer])).textAt 0 = root.text := by
    rw [wrapped_eq]
    rfl
  rw [fullText, rootAt, entry, if_neg (Nat.zero_ne_add_one _), text, entry, own, behind]

end Fault

/-! What the dialects look at. -/

namespace Compiler

variable (c : Compiler)

/-- Whether the dialect knows an error by the numbers and codes that its driver gives. -/
def knows (root : ErrorNode) : Bool :=
  match c.engine with
  | .mysql =>
    match root.args with
    | first :: _ => toleratedMysql.any fun code => first.same (.int code)
    | [] => false
  | .sqlserver => (argumentNumbers root.args).any toleratedSqlserver.contains
  | .postgresql | .vastbase | .kingbase =>
    match if root.pgcode.truthy then root.pgcode else root.sqlstate with
    | .text state => toleratedStates.contains state
    | _ => false
  | .oracle | .sqlite => false

/-- Whether the dialect finds the sign of a tolerated error in a text. -/
def finds (text : String) : Bool :=
  match c.engine with
  | .mysql | .postgresql | .vastbase | .kingbase => false
  | .sqlserver => (numbersInText text.toList).any toleratedSqlserver.contains
  | .oracle =>
    Text.hasPiece (Text.upper text) emptyTextCode || toleratedOracle.any (Text.hasPiece (Text.upper text) ·)
  | .sqlite => toleratedSqlite.any (Text.hasPiece (Text.lower text) ·)

theorem tolerates_eq (fault : Fault) : c.tolerates fault = (c.knows fault.rootNode || c.finds fault.fullText) := by
  unfold tolerates knows finds Fault.stateCode
  cases c.engine with
  | sqlserver => exact List.any_append
  | oracle | sqlite => exact (Bool.false_or _).symm
  | mysql | postgresql | vastbase | kingbase => exact (Bool.or_false _).symm

/-! A text between others keeps its signs. -/

theorem numbersInText_behind (before cs : List Char) :
    ∃ front, numbersInText (before ++ cs) = front ++ numbersInText cs := by
  induction before with
  | nil => exact ⟨[], rfl⟩
  | cons head tail ih =>
      obtain ⟨front, tail_read⟩ := ih
      refine ⟨(if head = '(' then (numberAt? (tail ++ cs)).toList else []) ++ front, ?_⟩
      rw [List.cons_append, numbersInText, tail_read, List.append_assoc]

/-- A number is read in front of a space as it is at the end of the text. -/
theorem numberAt?_space (cs after : List Char) : numberAt? (cs ++ ' ' :: after) = numberAt? cs := by
  have blank : Text.isDigit ' ' = false := by decide +kernel
  have digits : (cs ++ ' ' :: after).takeWhile Text.isDigit = cs.takeWhile Text.isDigit := by
    induction cs with
    | nil => simp [blank]
    | cons head tail ih =>
        rw [List.cons_append, List.takeWhile_cons, List.takeWhile_cons, ih]
  have next : (((cs ++ ' ' :: after).drop (cs.takeWhile Text.isDigit).length).head? == some ',') =
      ((cs.drop (cs.takeWhile Text.isDigit).length).head? == some ',') := by
    rw [List.drop_append_of_le_length (List.takeWhile_prefix _).length_le, List.head?_append]
    cases (cs.drop (cs.takeWhile Text.isDigit).length).head? <;> rfl
  simp only [numberAt?, digits, next]

theorem numbersInText_space (cs after : List Char) :
    ∃ more, numbersInText (cs ++ ' ' :: after) = numbersInText cs ++ more := by
  induction cs with
  | nil => exact ⟨_, rfl⟩
  | cons head tail ih =>
      obtain ⟨more, tail_read⟩ := ih
      refine ⟨more, ?_⟩
      rw [List.cons_append, numbersInText, numbersInText, numberAt?_space, tail_read, List.append_assoc]

theorem toList_spaced (before after : String) :
    (before ++ " " ++ after).toList = before.toList ++ ' ' :: after.toList := by
  simp [String.toList_append]

theorem hasPiece_upper {before after piece : String}
    (has : Text.hasPiece (Text.upper before) piece = true ∨ Text.hasPiece (Text.upper after) piece = true) :
    Text.hasPiece (Text.upper (before ++ " " ++ after)) piece = true := by
  have folded : (Text.upper (before ++ " " ++ after)).toList =
      (Text.upper before).toList ++ ' ' :: (Text.upper after).toList := by
    simp only [Text.upper, String.toList_ofList, toList_spaced, Text.upperChars_append]
    rfl
  rw [Text.hasPiece, folded]
  rcases has with front | back
  · exact Text.occursIn_before _ front
  · exact Text.occursIn_behind _ (Text.occursIn_behind [' '] back)

theorem hasPiece_lower {before after piece : String}
    (has : Text.hasPiece (Text.lower before) piece = true ∨ Text.hasPiece (Text.lower after) piece = true) :
    Text.hasPiece (Text.lower (before ++ " " ++ after)) piece = true := by
  have folded : (Text.lower (before ++ " " ++ after)).toList =
      (Text.lower before).toList ++ ' ' :: (Text.lower after).toList := by
    simp only [Text.lower, String.toList_ofList, toList_spaced, Text.endsWord_space.lowerChars_cut]
  rw [Text.hasPiece, folded]
  rcases has with front | back
  · exact Text.occursIn_before _ front
  · exact Text.occursIn_behind _ (Text.occursIn_behind [' '] back)

variable {c}

theorem finds_spaced {before after : String} (found : c.finds before = true ∨ c.finds after = true) :
    c.finds (before ++ " " ++ after) = true := by
  revert found
  unfold finds
  cases c.engine with
  | sqlserver =>
      intro found
      obtain ⟨front, behind⟩ := numbersInText_behind (before.toList ++ [' ']) after.toList
      obtain ⟨more, ahead⟩ := numbersInText_space before.toList after.toList
      dsimp only at found ⊢
      rw [toList_spaced]
      rcases found with early | late
      · rw [ahead, List.any_append, early, Bool.true_or]
      · rw [← List.singleton_append, ← List.append_assoc, behind, List.any_append, late, Bool.or_true]
  | oracle =>
      intro found
      simp only [Bool.or_eq_true, List.any_eq_true] at found ⊢
      rcases found with (code | ⟨code, listed, has⟩) | (code | ⟨code, listed, has⟩)
      · exact Or.inl (hasPiece_upper (Or.inl code))
      · exact Or.inr ⟨code, listed, hasPiece_upper (Or.inl has)⟩
      · exact Or.inl (hasPiece_upper (Or.inr code))
      · exact Or.inr ⟨code, listed, hasPiece_upper (Or.inr has)⟩
  | sqlite =>
      intro found
      simp only [List.any_eq_true] at found ⊢
      rcases found with ⟨sign, listed, has⟩ | ⟨sign, listed, has⟩
      · exact ⟨sign, listed, hasPiece_lower (Or.inl has)⟩
      · exact ⟨sign, listed, hasPiece_lower (Or.inr has)⟩
  | _ => exact fun found => found.elim nofun nofun

variable {root : ErrorNode}

theorem tolerates_bare (bottom : root.next? = none) :
    c.tolerates (.bare root) = (c.knows root || c.finds root.text) := by
  rw [tolerates_eq, Fault.fullText_bare bottom]
  exact congrArg (c.knows · || _) (Fault.rootNode_wrapped [] bottom)

theorem tolerates_wrapped (bottom : root.next? = none) (wrappers : List Wrapper) (outer : Wrapper) :
    c.tolerates (.wrapped root (wrappers ++ [outer])) =
      (c.knows root || c.finds (outer.message ++ " " ++ root.text)) := by
  rw [tolerates_eq, Fault.fullText_wrapped wrappers bottom, Fault.rootNode_wrapped _ bottom]

/-- Wrappers never hide an error that is tolerated. An error that is not is tolerated inside them exactly if a sign
of a tolerated one is found in the text of the outermost wrapper together with that of the error; whatever the
wrapper says counts, so that a statement which a batch refused is refused again only without such a sign in its
own text. Dialects that go by the numbers and codes of their drivers decide on the error alone. -/
theorem tolerates_wrapped_iff (c : Compiler) (bottom : root.next? = none) (wrappers : List Wrapper)
    (outer : Wrapper) :
    (c.tolerates (.wrapped root (wrappers ++ [outer])) = c.tolerates (.bare root) ↔
      (c.finds (outer.message ++ " " ++ root.text) = true → c.tolerates (.bare root) = true)) ∧
    (c.tolerates (.bare root) = true → c.tolerates (.wrapped root (wrappers ++ [outer])) = true) ∧
    (c.finds outer.message = true → c.tolerates (.wrapped root (wrappers ++ [outer])) = true) ∧
    (c.engine ∈ [.mysql, .postgresql, .vastbase, .kingbase] →
      c.tolerates (.wrapped root (wrappers ++ [outer])) = c.tolerates (.bare root)) ∧
    ∀ sql : String, c.tolerates (.wrapped root wrappers) = false →
      (c.tolerates ((Fault.wrapped root wrappers).wrap (.ddl (.text sql)) s!"Statement failed: {sql}") = false ↔
        c.finds (s!"Statement failed: {sql}" ++ " " ++ root.text) = false) := by
  have kept : c.tolerates (.bare root) = true → c.tolerates (.wrapped root (wrappers ++ [outer])) = true := by
    rw [tolerates_bare bottom, tolerates_wrapped bottom, Bool.or_eq_true, Bool.or_eq_true]
    intro tolerated
    rcases tolerated with known | found
    · exact Or.inl known
    · exact Or.inr (finds_spaced (Or.inr found))
  have same_iff : c.tolerates (.wrapped root (wrappers ++ [outer])) = c.tolerates (.bare root) ↔
      (c.finds (outer.message ++ " " ++ root.text) = true → c.tolerates (.bare root) = true) := by
    constructor
    · intro same found
      rw [← same, tolerates_wrapped bottom, found, Bool.or_true]
    · intro explained
      cases bare : c.tolerates (.bare root) with
      | true => exact kept bare
      | false =>
          rw [bare] at explained
          have unknown : c.knows root = false := by
            rw [tolerates_bare bottom, Bool.or_eq_false_iff] at bare
            exact bare.1
          rw [tolerates_wrapped bottom, unknown, Bool.false_or]
          exact Bool.eq_false_iff.mpr fun found => Bool.false_ne_true (explained found)
  refine ⟨same_iff, kept, ?message, ?codes, ?again⟩
  case message =>
    intro said
    rw [tolerates_wrapped bottom, finds_spaced (Or.inl said), Bool.or_true]
  case codes =>
    intro byCode
    apply same_iff.mpr
    intro found
    have silent : c.finds (outer.message ++ " " ++ root.text) = false := by
      unfold finds
      simp only [List.mem_cons, List.not_mem_nil, or_false] at byCode
      rcases byCode with engine | engine | engine | engine <;> rw [engine]
    rw [silent] at found
    cases found
  case again =>
    intro sql refused
    have unknown : c.knows root = false := by
      rw [tolerates_eq, Fault.rootNode_wrapped _ bottom, Bool.or_eq_false_iff] at refused
      exact refused.1
    rw [Fault.wrap_ddl, ← Fault.wrapped_concat, tolerates_wrapped bottom, unknown, Bool.false_or]
    rfl

/-- An error of a disk. -/
def diskError : ErrorNode := { kind := .native, args := [.text "disk I/O error"] }

/-- The wrappers of the error of a statement that creates a table with a default. -/
def creationWrappers (default : String) : List Wrapper :=
  let statement := "CREATE TABLE \"notes\" (\"state\" TEXT DEFAULT '" ++ default ++ "' NULL)"
  [.database "disk I/O error", .ddl (.text statement) ("Statement failed: " ++ statement)]

theorem tolerates_wrapped_iff_plain_default :
    diskError.next? = none ∧
      let c : Compiler := { engine := .sqlite, config := none }
      c.tolerates (.wrapped diskError (creationWrappers "open")) = c.tolerates (.bare diskError) := by
  refine ⟨rfl, ((tolerates_wrapped_iff _ rfl [.database "disk I/O error"] _).1).mpr ?_⟩
  intro found
  revert found
  decide +kernel

/-- The same error is tolerated when the default of a column reads like an error that is. -/
theorem tolerates_misled_by_default :
    let c : Compiler := { engine := .sqlite, config := none }
    c.tolerates (.bare diskError) = false ∧
      c.tolerates (.wrapped diskError (creationWrappers "already exists")) = true :=
  ⟨by decide +kernel, by decide +kernel⟩

end Compiler

end TableFerry
