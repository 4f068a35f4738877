import TableFerry.Proofs.ReflectedDefaults
/-! Which default expressions stay whole. Parentheses are taken off by looking at the first and the last character, and the
quotes of a literal are found by the first and the last one, whatever stands between. The last theorem says for every
expression whether that does damage. -/

namespace TableFerry.Default

open Text

/-- Characters that are neither quotes nor parentheses. -/
def Inert (cs : List Char) : Prop := ∀ c ∈ cs, c ≠ '\'' ∧ c ≠ '(' ∧ c ≠ ')'

/-! Expressions are read with the parentheses that are open and whether a literal is. -/

structure Reading where
  depth : Nat := 0
  quoted : Bool := false
  deriving DecidableEq

namespace Reading

def read (reading : Reading) (c : Char) : Option Reading :=
  if c = '\'' then some { reading with quoted := !reading.quoted }
  else if reading.quoted then some reading
  else if c = '(' then some { reading with depth := reading.depth + 1 }
  else if c = ')' then
    if reading.depth = 0 then none else some { reading with depth := reading.depth - 1 }
  else some reading

def readAll (reading : Reading) (cs : List Char) : Option Reading := cs.foldlM read reading

theorem readAll_append (reading : Reading) (one other : List Char) :
    reading.readAll (one ++ other) = (reading.readAll one).bind (·.readAll other) := List.foldlM_append

theorem readAll_inert (reading : Reading) {cs : List Char} (inert : Inert cs) :
    reading.readAll cs = some reading := by
  induction cs with
  | nil => rfl
  | cons c rest ih =>
      obtain ⟨unquoted, unopened, unclosed⟩ := inert c List.mem_cons_self
      have same : reading.read c = some reading := by
        simp only [read, unquoted, unopened, unclosed, if_false, ite_self]
      rw [readAll, List.foldlM_cons, same]
      exact ih fun d member => inert d (List.mem_cons_of_mem c member)

theorem read_deeper {reading later : Reading} {c : Char} (step : reading.read c = some later) (more : Nat) :
    Reading.read { reading with depth := reading.depth + more } c = some { later with depth := later.depth + more } := by
  obtain ⟨depth, quoted⟩ := reading
  unfold read at step ⊢
  dsimp only at step ⊢
  split_ifs at step ⊢ with quote within opens closes bottom deep
  · obtain rfl := Option.some.inj step
    rfl
  · obtain rfl := Option.some.inj step
    rfl
  · obtain rfl := Option.some.inj step
    simp only [Nat.add_right_comm]
  · omega
  · obtain rfl := Option.some.inj step
    simp only [Option.some.injEq, mk.injEq, and_true]
    omega
  · obtain rfl := Option.some.inj step
    rfl

/-- An open parenthesis more changes nothing where it is not closed. -/
theorem readAll_deeper {reading later : Reading} {cs : List Char} (closes : reading.readAll cs = some later) (more : Nat) :
    Reading.readAll { reading with depth := reading.depth + more } cs =
      some { later with depth := later.depth + more } := by
  induction cs generalizing reading with
  | nil =>
      obtain rfl := Option.some.inj closes
      rfl
  | cons c rest ih =>
      rw [readAll, List.foldlM_cons] at closes ⊢
      obtain ⟨mid, step, closes⟩ := Option.bind_eq_some_iff.mp closes
      rw [read_deeper step more]
      exact ih closes

end Reading

/-- Every parenthesis outside of literals has its other half, and every literal is closed. -/
def Balanced (cs : List Char) : Prop := Reading.readAll {} cs = some {}
deriving Decidable

variable {cs core before behind : List Char}

theorem Balanced.parens (balanced : Balanced cs) : Balanced ('(' :: cs ++ [')']) := by
  have within : Reading.readAll { depth := 1 } cs = some { depth := 1 } := Reading.readAll_deeper balanced 1
  have opened : Reading.readAll {} ('(' :: cs ++ [')']) = Reading.readAll { depth := 1 } (cs ++ [')']) := rfl
  rw [Balanced, opened, Reading.readAll_append, within]
  rfl

theorem balanced_inert (front : Inert before) (back : Inert behind) :
    Balanced (before ++ cs ++ behind) ↔ Balanced cs := by
  rw [Balanced, Reading.readAll_append, Reading.readAll_append, Reading.readAll_inert _ front, Option.bind_some]
  cases reached : Reading.readAll {} cs with
  | none => exact iff_of_false nofun (fun balanced => nomatch reached.symm.trans balanced)
  | some reading => rw [Option.bind_some, Reading.readAll_inert _ back, Balanced, reached]

theorem inert_of_blanks (blanks : Blanks cs) : Inert cs := by
  intro c member
  have blank := blanks c member
  refine ⟨?_, ?_, ?_⟩ <;> rintro rfl <;> exact absurd blank (by decide)

theorem inert_of_castChars {name : List Char} (chars : ∀ c ∈ name, isCastChar c = true) :
    Inert (castTo (some name)) := by
  simp only [Inert, castTo, List.forall_mem_cons]
  refine ⟨by decide, by decide, fun c member => ?_⟩
  have char := chars c member
  refine ⟨?_, ?_, ?_⟩ <;> rintro rfl <;> exact absurd char (by decide +kernel)

theorem Wrapped.balanced (wrapped : Wrapped core cs) (balanced : Balanced core) : Balanced cs := by
  induction wrapped with
  | bare => exact balanced
  | blanks front back _ ih => exact (balanced_inert (inert_of_blanks front) (inert_of_blanks back)).mpr ih
  | parens _ ih => exact ih.parens

theorem balanced_stripChars (cs : List Char) : Balanced (stripChars cs) ↔ Balanced cs := by
  obtain ⟨_, before, behind, front, back, split⟩ := stripChars_spec cs
  have same : Balanced (before ++ stripChars cs ++ behind) ↔ Balanced (stripChars cs) :=
    balanced_inert (inert_of_blanks front) (inert_of_blanks back)
  rw [← split] at same
  exact same.symm

theorem balanced_dropCast (cs : List Char) : Balanced (dropCast cs) ↔ Balanced cs := by
  rcases dropCast_spec cs with same | ⟨name, _, chars, split⟩
  · rw [same]
  · have same : Balanced ([] ++ dropCast cs ++ castTo (some name)) ↔ Balanced (dropCast cs) :=
      balanced_inert nofun (inert_of_castChars chars)
    rw [List.nil_append, ← split] at same
    exact same.symm

/-! What is taken off, and what should be. -/

/-- A text between parentheses that do not belong together. -/
def Crossed (cs : List Char) : Prop := ∃ inner, cs = '(' :: inner ++ [')'] ∧ ¬ Balanced inner

/-- A text with a quote in front and one at its end or in front of a plain cast. -/
def Quoted (cs : List Char) : Prop :=
  ∃ inside cast, cs = '\'' :: inside ++ '\'' :: castTo cast ∧ Plain cast ∧ ∀ type ∈ cast, TypeName type

/-- Blanks, parentheses that belong together and one cast are all that is missing. -/
def TrimmedTo (cs value : List Char) : Prop :=
  ∃ core cast, Wrapped core cs ∧ Balanced core ∧ core = value ++ castTo cast ∧ ∀ type ∈ cast, TypeName type

theorem TrimmedTo.count {value : List Char} (trimmed : TrimmedTo cs value) : cs.count '\'' = value.count '\'' := by
  obtain ⟨core, cast, wrapped, _, rfl, named⟩ := trimmed
  rw [wrapped.count, List.count_append, List.count_eq_zero.mpr (quote_not_mem_castTo named), Nat.add_zero]

theorem count_replacePair_le (cs : List Char) : (replacePair '\'' '\'' ['\''] cs).count '\'' ≤ cs.count '\'' := by
  fun_induction replacePair '\'' '\'' ['\''] cs with
  | case1 a b rest pair ih =>
      rw [pair.1, pair.2, List.singleton_append, List.count_cons_self, List.count_cons_self, List.count_cons_self]
      omega
  | case2 a b rest other ih =>
      rw [List.count_cons, List.count_cons]
      omega
  | case3 => exact Nat.le_refl _

/-- Unquoting takes quotes away. -/
theorem count_unquoted_lt {left inside : List Char} (found : quotedInside? left = some inside) :
    (plainText left).count '\'' < left.count '\'' := by
  obtain ⟨cast, plain, _, rfl⟩ := exists_of_quotedInside? found
  have fewer := count_replacePair_le inside
  rw [plainText_quoted found]
  simp only [List.count_append, List.count_cons_self, List.cons_append]
  omega

theorem typeName_of_trimmed {name : List Char} (trimmed : Trimmed (cs ++ castTo (some name))) (filled : name ≠ [])
    (chars : ∀ c ∈ name, isCastChar c = true) : TypeName name := by
  obtain ⟨front, c, rfl⟩ := (List.eq_nil_or_concat' name).resolve_left filled
  refine ⟨quote_not_mem_castChars chars, c, List.getLast?_concat, trimmed.2 c ?_⟩
  have same : cs ++ castTo (some (front ++ [c])) = (cs ++ ':' :: ':' :: front) ++ [c] := by simp [castTo]
  rw [same, List.getLast?_concat]
  rfl

theorem quoted_of_found {left inside : List Char} (trimmed : Trimmed left) (found : quotedInside? left = some inside) :
    Quoted left := by
  obtain ⟨cast, plain, filled, rfl⟩ := exists_of_quotedInside? found
  refine ⟨inside, cast, rfl, plain, ?_⟩
  rintro type ⟨⟩
  rw [List.append_cons] at trimmed
  exact typeName_of_trimmed trimmed (filled type rfl) (plain type rfl)

theorem normalize_eq_some_iff {text value : String} : normalize text = some value ↔
    ¬ LeftOut (Text.strip text) ∧ value.toList = plainText (stripOuter (stripChars text.toList)) := by
  rw [normalize_eq]
  split_ifs with left
  · exact iff_of_false nofun fun taken => taken.1 left
  · rw [and_iff_right left, Option.some.injEq, ← String.toList_inj, String.toList_ofList, eq_comm]

/-- What is left is whole when no parentheses are crossed on the way. -/
theorem left_whole (balanced : Balanced cs) (uncrossed : ∀ core, Wrapped core cs → Balanced core → ¬ Crossed core) :
    Wrapped (stripOuter (stripChars cs)) cs ∧ Balanced (stripOuter (stripChars cs)) := by
  refine stripOuter_induction (motive := fun left => Wrapped left cs ∧ Balanced left) ?_
    ⟨wrapped_stripChars cs, (balanced_stripChars cs).mpr balanced⟩
  rintro inner ⟨wrapped, whole⟩
  refine ⟨wrapped.trans (wrapped_stripChars inner).parens, (balanced_stripChars inner).mpr ?_⟩
  by_contra broken
  exact uncrossed _ wrapped whole ⟨inner, rfl, broken⟩

/-- Crossed parentheses leave broken ones. -/
theorem left_broken (wrapped : Wrapped core cs) (crossed : Crossed core) : ¬ Balanced (stripOuter (stripChars cs)) := by
  obtain ⟨inner, rfl, broken⟩ := crossed
  rw [wrapped.stripOuter, (trimmed_parens inner).stripChars, stripOuter_parens]
  exact fun whole => broken ((wrapped_stripOuter inner).balanced whole)

/-- An expression stays whole exactly when it is not left out, and when neither crossed parentheses nor the quotes of
different literals can come to stand at its ends. -/
theorem expression_whole_iff (text : String) (balanced : Balanced text.toList) :
    (∃ value, normalize text = some value ∧ TrimmedTo text.toList value.toList ∧ Balanced value.toList) ↔
      ¬ LeftOut (Text.strip text) ∧
        ∀ core, Wrapped core text.toList → Balanced core → ¬ Crossed core ∧ ¬ Quoted core := by
  constructor
  · rintro ⟨value, taken, trimmed, whole⟩
    obtain ⟨present, chars⟩ := normalize_eq_some_iff.mp taken
    have unread : quotedInside? (stripOuter (stripChars text.toList)) = none := by
      cases found : quotedInside? (stripOuter (stripChars text.toList)) with
      | none => rfl
      | some inside =>
          have fewer := count_unquoted_lt found
          rw [← chars, ← trimmed.count, ← (wrapped_stripOuter text.toList).count] at fewer
          exact absurd fewer (Nat.lt_irrefl _)
    rw [plainText_unquoted unread] at chars
    rw [chars, balanced_dropCast] at whole
    refine ⟨present, fun core wrapped _ => ⟨fun crossed => left_broken wrapped crossed whole, ?_⟩⟩
    rintro ⟨inside, cast, rfl, plain, named⟩
    rw [wrapped.literal named plain] at unread
    cases unread
  · rintro ⟨present, undamaged⟩
    obtain ⟨wrapped, whole⟩ := left_whole balanced fun core wrapped inner => (undamaged core wrapped inner).1
    have trimmed := trimmed_stripOuter text.toList
    have unread : plainText (stripOuter (stripChars text.toList)) = dropCast (stripOuter (stripChars text.toList)) := by
      cases found : quotedInside? (stripOuter (stripChars text.toList)) with
      | none => exact plainText_unquoted found
      | some inside => exact absurd (quoted_of_found trimmed found) (undamaged _ wrapped whole).2
    refine ⟨_, normalize_eq_some_iff.mpr ⟨present, String.toList_ofList⟩, ?_⟩
    rw [String.toList_ofList, unread]
    refine ⟨?_, (balanced_dropCast _).mpr whole⟩
    rcases dropCast_spec (stripOuter (stripChars text.toList)) with same | ⟨name, filled, chars, split⟩
    · exact ⟨_, none, wrapped, whole, by rw [same, castTo, List.append_nil], nofun⟩
    · refine ⟨_, some name, wrapped, whole, split, ?_⟩
      rintro _ ⟨⟩
      rw [split] at trimmed
      exact typeName_of_trimmed trimmed filled chars

/-- Parentheses that belong together are taken off. -/
theorem expression_whole_iff_call : Balanced "(lower('A'::text))".toList ∧
    ∀ core, Wrapped core "(lower('A'::text))".toList → Balanced core → ¬ Crossed core ∧ ¬ Quoted core := by
  refine ⟨by decide, ((expression_whole_iff "(lower('A'::text))" (by decide)).mp ?_).2⟩
  have parens : Wrapped "lower('A'::text)".toList ('(' :: "lower('A'::text)".toList ++ [')']) := .parens .bare
  exact ⟨"lower('A'::text)", by decide +kernel, ⟨_, none, parens, by decide, by decide, nofun⟩, by decide⟩

/-- Of two operands between parentheses each loses one. -/
theorem expression_broken : Balanced "(a)+(b)".toList ∧ normalize "(a)+(b)" = some "a)+(b" ∧
    ¬ ∃ value, normalize "(a)+(b)" = some value ∧ TrimmedTo "(a)+(b)".toList value.toList ∧ Balanced value.toList := by
  have taken : normalize "(a)+(b)" = some "a)+(b" := by decide +kernel
  refine ⟨by decide, taken, ?_⟩
  rintro ⟨value, other, _, whole⟩
  obtain rfl := Option.some.inj (taken.symm.trans other)
  exact absurd whole (by decide)

end TableFerry.Default
