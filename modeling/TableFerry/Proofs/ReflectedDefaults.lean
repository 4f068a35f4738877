import Mathlib.Data.List.TakeWhile
import TableFerry.Dialect.Literal
import TableFerry.Proofs.SettledCase
import TableFerry.Schema.Reflected
/-! What engines put around the defaults that they report: blanks, parentheses and casts. Parentheses are taken off as
long as one opens the text and one closes it, then the quotes of a literal, or else a cast. -/

namespace TableFerry.Text

def Blanks (cs : List Char) : Prop := ∀ c ∈ cs, isBlankChar c = true

instance (cs : List Char) : Decidable (Blanks cs) := List.decidableBAll _ cs

/-- A text without blanks at its ends. -/
def Trimmed (cs : List Char) : Prop :=
  (∀ c ∈ cs.head?, isBlankChar c = false) ∧ ∀ c ∈ cs.getLast?, isBlankChar c = false

variable {cs before behind core : List Char}

theorem dropWhile_blanks (blanks : Blanks before) (free : ∀ c ∈ cs.head?, isBlankChar c = false) :
    (before ++ cs).dropWhile isBlankChar = cs := by
  rw [List.dropWhile_append_of_pos blanks]
  cases cs with
  | nil => rfl
  | cons c rest => rw [List.dropWhile_cons_of_neg (by simp [free c rfl])]

theorem dropWhile_all (blanks : Blanks cs) : cs.dropWhile isBlankChar = [] := by
  rw [← List.append_nil cs]
  exact dropWhile_blanks blanks nofun

theorem head_dropWhile (cs : List Char) : ∀ c ∈ (cs.dropWhile isBlankChar).head?, isBlankChar c = false := by
  intro c first
  have unblank := List.head?_dropWhile_not isBlankChar cs
  rw [Option.mem_def.mp first] at unblank
  exact unblank

theorem blanks_takeWhile (cs : List Char) : Blanks (cs.takeWhile isBlankChar) :=
  fun _ member => List.all_eq_true.mp List.all_takeWhile _ member

theorem Blanks.append (front : Blanks before) (back : Blanks behind) : Blanks (before ++ behind) :=
  List.forall_mem_append.mpr ⟨front, back⟩

theorem Blanks.reverse (blanks : Blanks cs) : Blanks cs.reverse := fun c member => blanks c (List.mem_reverse.mp member)

theorem stripChars_of_trimmed (front : Blanks before) (back : Blanks behind) (trimmed : Trimmed core) :
    stripChars (before ++ core ++ behind) = core := by
  by_cases empty : core = []
  · have all : Blanks (before ++ core ++ behind) := by
      rw [empty, List.append_nil]
      exact front.append back
    rw [stripChars, dropWhile_all all, empty]
    rfl
  · have head : ∀ c ∈ (core ++ behind).head?, isBlankChar c = false := by
      obtain ⟨c, rest, rfl⟩ := List.exists_cons_of_ne_nil empty
      exact trimmed.1
    have last : ∀ c ∈ core.reverse.head?, isBlankChar c = false := by
      rw [List.head?_reverse]
      exact trimmed.2
    rw [stripChars, List.append_assoc, dropWhile_blanks front head, List.reverse_append,
      dropWhile_blanks back.reverse last, List.reverse_reverse]

/-- Stripping takes off blanks at both ends, and all of them. -/
theorem stripChars_spec (cs : List Char) :
    Trimmed (stripChars cs) ∧ ∃ before behind, Blanks before ∧ Blanks behind ∧ cs = before ++ stripChars cs ++ behind := by
  have front := List.takeWhile_append_dropWhile (p := isBlankChar) (l := cs)
  have head := head_dropWhile cs
  generalize opened : cs.dropWhile isBlankChar = rest at front head
  have back := congrArg List.reverse (List.takeWhile_append_dropWhile (p := isBlankChar) (l := rest.reverse))
  rw [List.reverse_append, List.reverse_reverse] at back
  have stripped : stripChars cs = (rest.reverse.dropWhile isBlankChar).reverse := by rw [stripChars, opened]
  rw [← stripped] at back
  constructor
  · constructor
    · intro c first
      apply head
      rw [← back, Option.mem_def, List.head?_append, Option.mem_def.mp first]
      rfl
    · rw [stripped, List.getLast?_reverse]
      exact head_dropWhile rest.reverse
  · refine ⟨_, _, blanks_takeWhile cs, (blanks_takeWhile rest.reverse).reverse, ?_⟩
    rw [List.append_assoc, back, front]

theorem stripChars_blanks (front : Blanks before) (back : Blanks behind) :
    stripChars (before ++ cs ++ behind) = stripChars cs := by
  obtain ⟨trimmed, first, last, blank_first, blank_last, split⟩ := stripChars_spec cs
  have joined : before ++ cs ++ behind = (before ++ first) ++ stripChars cs ++ (last ++ behind) := by
    calc
      before ++ cs ++ behind = before ++ (first ++ stripChars cs ++ last) ++ behind := by rw [← split]
      _ = (before ++ first) ++ stripChars cs ++ (last ++ behind) := by simp only [List.append_assoc]
  rw [joined]
  exact stripChars_of_trimmed (front.append blank_first) (blank_last.append back) trimmed

theorem mem_stripChars {c : Char} (member : c ∈ cs) (visible : isBlankChar c = false) : c ∈ stripChars cs := by
  obtain ⟨_, before, behind, front, back, split⟩ := stripChars_spec cs
  rw [split] at member
  rcases List.mem_append.mp member with within | last
  · exact (List.mem_append.mp within).resolve_left fun first => absurd (front c first) (by rw [visible]; decide)
  · exact absurd (back c last) (by rw [visible]; decide)

theorem Trimmed.stripChars (trimmed : Trimmed cs) : stripChars cs = cs := by
  have stripped : Text.stripChars ([] ++ cs ++ []) = cs := stripChars_of_trimmed nofun nofun trimmed
  rwa [List.nil_append, List.append_nil] at stripped

end TableFerry.Text

namespace TableFerry.Literal

theorem toList_quote (text : String) : (quote text).toList = '\'' :: doubleQuotes text.toList ++ ['\''] := by
  rw [quote, String.toList_ofList]
  rfl

theorem quote_ne_empty (text : String) : quote text ≠ "" := by
  intro empty
  have chars := congrArg String.toList empty
  rw [toList_quote] at chars
  cases chars

end TableFerry.Literal

namespace TableFerry.Default

open Text

variable {core cs before behind : List Char}

/-- A text between any number of parentheses, two by two, with blanks anywhere around. -/
inductive Wrapped (core : List Char) : List Char → Prop
  | bare : Wrapped core core
  | blanks {before behind cs : List Char} : Blanks before → Blanks behind → Wrapped core cs →
      Wrapped core (before ++ cs ++ behind)
  | parens {cs : List Char} : Wrapped core cs → Wrapped core ('(' :: cs ++ [')'])

theorem Wrapped.trans {inner : List Char} (outside : Wrapped cs before) (inside : Wrapped inner cs) :
    Wrapped inner before := by
  induction outside with
  | bare => exact inside
  | blanks front back _ ih => exact .blanks front back ih
  | parens _ ih => exact .parens ih

theorem wrapped_stripChars (cs : List Char) : Wrapped (stripChars cs) cs := by
  obtain ⟨_, before, behind, front, back, split⟩ := stripChars_spec cs
  have wrapped : Wrapped (stripChars cs) (before ++ stripChars cs ++ behind) := .blanks front back .bare
  rwa [← split] at wrapped

/-! Taking off parentheses. -/

theorem trimmed_parens (cs : List Char) : Trimmed ('(' :: cs ++ [')']) := by
  constructor
  · rintro _ ⟨⟩
    decide
  · rw [List.getLast?_concat]
    rintro _ ⟨⟩
    decide

theorem stripOuter_parens (cs : List Char) : stripOuter ('(' :: cs ++ [')']) = stripOuter (stripChars cs) := by
  rw [stripOuter, if_pos ⟨rfl, List.getLast?_concat⟩, List.cons_append, List.drop_one, List.tail_cons,
    List.dropLast_concat]

theorem exists_parens (opened : cs.head? = some '(') (closed : cs.getLast? = some ')') :
    ∃ inner, cs = '(' :: inner ++ [')'] := by
  obtain ⟨rest, rfl⟩ := List.head?_eq_some_iff.mp opened
  obtain ⟨front, split⟩ := List.getLast?_eq_some_iff.mp closed
  cases front with
  | nil => cases split
  | cons c inner =>
      obtain ⟨rfl, rfl⟩ := List.cons.inj split
      exact ⟨inner, rfl⟩

/-- What holds of a text and of the inside of parentheses once they are taken off holds when no more can be taken off. -/
theorem stripOuter_induction {motive : List Char → Prop} (step : ∀ inner, motive ('(' :: inner ++ [')']) → motive (stripChars inner))
    (start : motive cs) : motive (stripOuter cs) := by
  fun_induction stripOuter cs with
  | case1 cs outer ih =>
      obtain ⟨inner, rfl⟩ := exists_parens outer.1 outer.2
      apply ih
      simpa using step inner start
  | case2 => exact start

theorem Wrapped.stripOuter (wrapped : Wrapped core cs) :
    Default.stripOuter (stripChars cs) = Default.stripOuter (stripChars core) := by
  induction wrapped with
  | bare => rfl
  | blanks front back _ ih => rw [stripChars_blanks front back, ih]
  | @parens cs _ ih =>
      rw [(trimmed_parens cs).stripChars, stripOuter_parens, ih]

/-- What is left when no more parentheses can be taken off. -/
theorem wrapped_stripOuter (cs : List Char) : Wrapped (Default.stripOuter (stripChars cs)) cs := by
  refine stripOuter_induction (motive := fun left => Wrapped left cs) ?_ (wrapped_stripChars cs)
  intro inner wrapped
  exact wrapped.trans ((wrapped_stripChars inner).parens)

theorem trimmed_stripOuter (cs : List Char) : Trimmed (Default.stripOuter (stripChars cs)) := by
  refine stripOuter_induction (motive := Trimmed) ?_ (stripChars_spec cs).1
  exact fun inner _ => (stripChars_spec inner).1

/-- Blanks and parentheses around a text, as many opened before as closed behind. -/
structure Frames (before behind : List Char) : Prop where
  opens : ∀ c ∈ before, isBlankChar c = true ∨ c = '('
  closes : ∀ c ∈ behind, isBlankChar c = true ∨ c = ')'
  level : before.count '(' = behind.count ')'

theorem Frames.parens (frames : Frames before behind) : Frames ('(' :: before) (behind ++ [')']) := by
  constructor
  · exact List.forall_mem_cons.mpr ⟨Or.inr rfl, frames.opens⟩
  · exact List.forall_mem_append.mpr ⟨frames.closes, by simp⟩
  · simp [frames.level]

theorem Frames.blanks {first last : List Char} (frames : Frames before behind) (front : Blanks first)
    (back : Blanks last) : Frames (first ++ before) (behind ++ last) := by
  have unopened : first.count '(' = 0 := List.count_eq_zero.mpr fun member => absurd (front _ member) (by decide)
  have unclosed : last.count ')' = 0 := List.count_eq_zero.mpr fun member => absurd (back _ member) (by decide)
  constructor
  · exact List.forall_mem_append.mpr ⟨fun c member => Or.inl (front c member), frames.opens⟩
  · exact List.forall_mem_append.mpr ⟨frames.closes, fun c member => Or.inl (back c member)⟩
  · rw [List.count_append, List.count_append, unopened, unclosed, frames.level, Nat.zero_add, Nat.add_zero]

theorem Frames.unquoted (frames : Frames before behind) : '\'' ∉ before ∧ '\'' ∉ behind := by
  constructor
  · exact fun member => absurd (frames.opens _ member) (by decide)
  · exact fun member => absurd (frames.closes _ member) (by decide)

theorem Frames.blanks_of_unclosed (frames : Frames before behind) (unclosed : ')' ∉ behind) : Blanks before ∧ Blanks behind := by
  have unopened : '(' ∉ before := by
    rw [← List.count_eq_zero, frames.level, List.count_eq_zero]
    exact unclosed
  constructor
  · exact fun c member => (frames.opens c member).resolve_right fun opens => unopened (opens ▸ member)
  · exact fun c member => (frames.closes c member).resolve_right fun closes => unclosed (closes ▸ member)

theorem Wrapped.frames (wrapped : Wrapped core cs) : ∃ before behind, Frames before behind ∧ cs = before ++ core ++ behind := by
  induction wrapped with
  | bare => exact ⟨[], [], ⟨nofun, nofun, rfl⟩, (List.append_nil _).symm⟩
  | blanks front back _ ih =>
      obtain ⟨before, behind, frames, split⟩ := ih
      exact ⟨_, _, frames.blanks front back, by simp [split]⟩
  | parens _ ih =>
      obtain ⟨before, behind, frames, split⟩ := ih
      exact ⟨_, _, frames.parens, by simp [split]⟩

section Front

variable {left word first last : List Char} (trimmed : Trimmed left) (frames : Frames before behind)
  (opens : ∀ c ∈ first, isBlankChar c = true ∨ c = '(') (filled : word ≠ [])
  (letters : ∀ c ∈ word, isBlankChar c = false ∧ c ≠ '(' ∧ c ≠ ')')
include trimmed frames opens filled letters

theorem front_of_opened (same : left ++ behind = first ++ (word ++ last)) : left.head? = some '(' ∨ word <+: left := by
  have outside : ∀ c ∈ word, c ∉ behind := by
    intro c member closing
    obtain ⟨visible, _, unclosed⟩ := letters c member
    rcases frames.closes c closing with blank | closes
    · rw [visible] at blank
      cases blank
    · exact unclosed closes
  cases first with
  | nil =>
      right
      rw [List.nil_append] at same
      rcases List.append_eq_append_iff.mp same with ⟨spare, whole, ends⟩ | ⟨spare, whole, _⟩
      · cases spare with
        | nil => exact ⟨[], by rw [whole, List.append_nil, List.append_nil]⟩
        | cons c spare => exact absurd (ends ▸ List.mem_cons_self) (outside c (whole ▸ by simp))
      · exact ⟨spare, whole.symm⟩
  | cons c first =>
      left
      cases left with
      | nil =>
          obtain ⟨letter, rest, rfl⟩ := List.exists_cons_of_ne_nil filled
          have closing : letter ∈ behind := by
            rw [List.nil_append] at same
            simp [same]
          exact absurd closing (outside letter List.mem_cons_self)
      | cons d rest =>
          obtain ⟨rfl, _⟩ := List.cons.inj same
          have visible := trimmed.1 d rfl
          simpa [visible] using opens d List.mem_cons_self

/-- A word behind blanks and parentheses stays in front when blanks and parentheses are taken off, or a parenthesis
does. -/
theorem front_of_frames (split : before ++ left ++ behind = first ++ word ++ last) :
    left.head? = some '(' ∨ word <+: left := by
  rw [List.append_assoc, List.append_assoc] at split
  rcases List.append_eq_append_iff.mp split with ⟨mid, whole, same⟩ | ⟨mid, whole, same⟩
  · exact front_of_opened trimmed frames (fun c member => opens c (whole ▸ List.mem_append_right _ member)) filled letters
      same
  · have none : mid = [] := by
      cases mid with
      | nil => rfl
      | cons c mid =>
          obtain ⟨letter, rest, rfl⟩ := List.exists_cons_of_ne_nil filled
          obtain ⟨rfl, _⟩ := List.cons.inj same
          obtain ⟨visible, unopened, _⟩ := letters letter List.mem_cons_self
          have opening := frames.opens letter (whole ▸ by simp)
          simp [visible, unopened] at opening
    have front : left ++ behind = [] ++ (word ++ last) := by rw [same, none, List.nil_append, List.nil_append]
    exact front_of_opened trimmed frames (by simp) filled letters front

end Front

theorem Wrapped.front {left word first last : List Char} (wrapped : Wrapped left cs) (trimmed : Trimmed left)
    (opens : ∀ c ∈ first, isBlankChar c = true ∨ c = '(') (filled : word ≠ [])
    (letters : ∀ c ∈ word, isBlankChar c = false ∧ c ≠ '(' ∧ c ≠ ')') (split : cs = first ++ word ++ last) :
    left.head? = some '(' ∨ word <+: left := by
  obtain ⟨before, behind, frames, around⟩ := wrapped.frames
  exact front_of_frames trimmed frames opens filled letters (around.symm.trans split)

theorem Wrapped.count (wrapped : Wrapped core cs) : cs.count '\'' = core.count '\'' := by
  obtain ⟨before, behind, frames, rfl⟩ := wrapped.frames
  rw [List.count_append, List.count_append, List.count_eq_zero.mpr frames.unquoted.1,
    List.count_eq_zero.mpr frames.unquoted.2, Nat.zero_add, Nat.add_zero]

/-! Literals and casts. -/

/-- The name of a type behind `::`. -/
structure TypeName (type : List Char) : Prop where
  unquoted : '\'' ∉ type
  ends : ∃ c ∈ type.getLast?, isBlankChar c = false

theorem TypeName.filled {type : List Char} (name : TypeName type) : type ≠ [] := by
  rintro rfl
  obtain ⟨_, ⟨⟩, _⟩ := name.ends

/-- A cast, if there is one. -/
def castTo : Option (List Char) → List Char
  | none => []
  | some type => ':' :: ':' :: type

/-- A cast that is read: the name of its type is words and blanks. -/
def Plain (cast : Option (List Char)) : Prop := ∀ type ∈ cast, ∀ c ∈ type, isCastChar c = true

theorem quote_not_castChar : isCastChar '\'' = false := by decide +kernel

theorem quote_not_mem_castChars {name : List Char} (chars : ∀ c ∈ name, isCastChar c = true) : '\'' ∉ name :=
  fun member => absurd (chars _ member) (by rw [quote_not_castChar]; decide)

theorem quote_not_mem_castTo {cast : Option (List Char)} (named : ∀ type ∈ cast, TypeName type) : '\'' ∉ castTo cast := by
  cases cast with
  | none => exact List.not_mem_nil
  | some type => simp [castTo, (named type rfl).unquoted]

theorem Plain.unquoted {cast : Option (List Char)} (plain : Plain cast) : '\'' ∉ castTo cast := by
  cases cast with
  | none => exact List.not_mem_nil
  | some type => simp [castTo, quote_not_mem_castChars (plain type rfl)]

theorem isCast_castTo {type : List Char} (filled : type ≠ []) :
    isCast (castTo (some type)) = true ↔ Plain (some type) := by
  simp [isCast, castTo, Plain, List.isEmpty_eq_false_iff.mpr filled]

theorem exists_of_isCast (cast : isCast cs = true) : ∃ type, cs = castTo (some type) ∧ type ≠ [] := by
  unfold isCast at cast
  split at cast
  · rename_i name
    rw [Bool.and_eq_true, Bool.not_eq_true', List.isEmpty_eq_false_iff] at cast
    exact ⟨name, rfl, cast.1⟩
  · cases cast

/-- From the back one reads on to the last quote. -/
theorem takeWhile_unquoted (free : '\'' ∉ cs) (mirrored : List Char) :
    (cs.reverse ++ mirrored).takeWhile (· ≠ '\'') = cs.reverse ++ mirrored.takeWhile (· ≠ '\'') := by
  apply List.takeWhile_append_of_pos
  intro c member
  exact decide_eq_true fun same => free (same ▸ List.mem_reverse.mp member)

/-- A literal is found by its last quote. -/
theorem quotedInside?_literal {inside after : List Char} (free : '\'' ∉ after) :
    quotedInside? ('\'' :: inside ++ '\'' :: after) = if after.isEmpty || isCast after then some inside else none := by
  have behind : ((inside ++ '\'' :: after).reverse.takeWhile (· ≠ '\'')).reverse = after := by
    rw [List.reverse_append, List.reverse_cons, List.append_assoc, takeWhile_unquoted free]
    simp
  have shorter : after.length < (inside ++ '\'' :: after).length := by
    rw [List.length_append, List.length_cons]
    omega
  have kept : (inside ++ '\'' :: after).length - after.length - 1 = inside.length := by
    rw [List.length_append, List.length_cons]
    omega
  simp only [quotedInside?, List.cons_append, behind, decide_eq_true shorter, Bool.true_and, kept, List.take_left]

theorem quotedInside?_open {rest : List Char} (free : '\'' ∉ rest) : quotedInside? ('\'' :: rest) = none := by
  have behind : (rest.reverse.takeWhile (· ≠ '\'')).reverse = rest := by
    rw [← List.append_nil rest.reverse, takeWhile_unquoted free]
    simp
  simp only [quotedInside?, behind, Nat.lt_irrefl, decide_false, Bool.false_and, Bool.false_eq_true, if_false]

theorem quotedInside?_unquoted (first : cs.head? ≠ some '\'') : quotedInside? cs = none := by
  unfold quotedInside?
  split
  · exact absurd rfl first
  · rfl

/-- What is found is a literal with a plain cast behind it, if any. -/
theorem exists_of_quotedInside? {inside : List Char} (found : quotedInside? cs = some inside) :
    ∃ cast, Plain cast ∧ (∀ type ∈ cast, type ≠ []) ∧ cs = '\'' :: inside ++ '\'' :: castTo cast := by
  by_cases first : cs.head? = some '\''
  · obtain ⟨rest, rfl⟩ := List.head?_eq_some_iff.mp first
    by_cases closed : '\'' ∈ rest
    · obtain ⟨behind, before, split, free⟩ := List.eq_append_cons_of_mem (List.mem_reverse.mpr closed)
      obtain rfl : rest = before.reverse ++ '\'' :: behind.reverse := by
        rw [← List.reverse_reverse rest, split]
        simp
      have literal : quotedInside? ('\'' :: before.reverse ++ '\'' :: behind.reverse) = _ :=
        quotedInside?_literal fun member => free (List.mem_reverse.mp member)
      rw [List.cons_append, found] at literal
      split at literal
      · rename_i read
        obtain rfl := Option.some.inj literal
        rw [Bool.or_eq_true, List.isEmpty_iff] at read
        rcases read with alone | cast
        · exact ⟨none, nofun, nofun, by rw [alone]; rfl⟩
        · obtain ⟨type, same, filled⟩ := exists_of_isCast cast
          rw [same] at cast ⊢
          refine ⟨some type, (isCast_castTo filled).mp cast, ?_, rfl⟩
          rintro _ ⟨⟩
          exact filled
      · cases literal
    · rw [quotedInside?_open closed] at found
      cases found
  · rw [quotedInside?_unquoted first] at found
    cases found

theorem quotedInside?_plain {inside : List Char} {cast : Option (List Char)} (filled : ∀ type ∈ cast, type ≠ [])
    (plain : Plain cast) : quotedInside? ('\'' :: inside ++ '\'' :: castTo cast) = some inside := by
  cases cast with
  | none => exact quotedInside?_literal List.not_mem_nil
  | some type =>
      rw [quotedInside?_literal plain.unquoted, (isCast_castTo (filled type rfl)).mpr plain, Bool.or_true, if_pos rfl]

/-! A literal, with a cast or not, is all that is left of what is put around it. -/

theorem trimmed_literal {inside : List Char} {cast : Option (List Char)} (named : ∀ type ∈ cast, TypeName type) :
    Trimmed ('\'' :: inside ++ '\'' :: castTo cast) := by
  constructor
  · rintro _ ⟨⟩
    decide
  · intro c last
    rw [List.getLast?_append_of_ne_nil _ (List.cons_ne_nil _ _)] at last
    cases cast with
    | none =>
        obtain rfl := Option.some.inj last
        decide
    | some type =>
        obtain ⟨d, ends, visible⟩ := (named type rfl).ends
        obtain ⟨front, rfl⟩ := List.getLast?_eq_some_iff.mp ends
        have same : '\'' :: castTo (some (front ++ [d])) = ('\'' :: ':' :: ':' :: front) ++ [d] := rfl
        rw [same, List.getLast?_concat] at last
        obtain rfl := Option.some.inj last
        exact visible

theorem stripOuter_literal {rest : List Char} : stripOuter ('\'' :: rest) = '\'' :: rest := by
  rw [stripOuter, if_neg]
  rintro ⟨⟨⟩, _⟩

/-- Between blanks and parentheses a literal is found if its cast is plain. -/
theorem Wrapped.literal {inside : List Char} {cast : Option (List Char)} (named : ∀ type ∈ cast, TypeName type)
    (plain : Plain cast) (wrapped : Wrapped ('\'' :: inside ++ '\'' :: castTo cast) cs) :
    quotedInside? (Default.stripOuter (stripChars cs)) = some inside := by
  rw [wrapped.stripOuter, (trimmed_literal named).stripChars]
  exact (congrArg quotedInside? stripOuter_literal).trans
    (quotedInside?_plain (fun type member => (named type member).filled) plain)

theorem dropCast_spec (cs : List Char) :
    dropCast cs = cs ∨ ∃ name, name ≠ [] ∧ (∀ c ∈ name, isCastChar c = true) ∧ cs = dropCast cs ++ castTo (some name) := by
  have split : cs = (cs.reverse.dropWhile isCastChar).reverse ++ (cs.reverse.takeWhile isCastChar).reverse := by
    rw [← List.reverse_append, List.takeWhile_append_dropWhile, List.reverse_reverse]
  have chars : ∀ c ∈ (cs.reverse.takeWhile isCastChar).reverse, isCastChar c = true :=
    fun c member => List.all_eq_true.mp List.all_takeWhile c (List.mem_reverse.mp member)
  have before : cs.take (cs.length - (cs.reverse.takeWhile isCastChar).reverse.length) =
      (cs.reverse.dropWhile isCastChar).reverse := by
    generalize (cs.reverse.takeWhile isCastChar).reverse = name at split
    generalize (cs.reverse.dropWhile isCastChar).reverse = before at split
    rw [split, List.length_append, Nat.add_sub_cancel, List.take_left]
  simp only [dropCast, before, List.reverse_reverse]
  generalize (cs.reverse.takeWhile isCastChar).reverse = name at split chars
  generalize cs.reverse.dropWhile isCastChar = opened at split
  split
  · rename_i rest
    by_cases empty : name = []
    · exact Or.inl (by rw [empty]; rfl)
    · rw [List.isEmpty_eq_false_iff.mpr empty]
      refine Or.inr ⟨name, empty, chars, ?_⟩
      rw [split]
      simp [castTo]
  · exact Or.inl rfl

theorem count_dropCast (cs : List Char) : (dropCast cs).count '\'' = cs.count '\'' := by
  rcases dropCast_spec cs with same | ⟨name, _, chars, split⟩
  · rw [same]
  · have unquoted : (castTo (some name)).count '\'' = 0 := by
      rw [List.count_eq_zero]
      simp [castTo, quote_not_mem_castChars chars]
    rw [congrArg (List.count '\'') split, List.count_append, unquoted, Nat.add_zero]

/-- The text of a default that is neither `NULL` nor the next value of a sequence. -/
def plainText (cs : List Char) : List Char :=
  (quotedInside? cs).elim (dropCast cs) (replacePair '\'' '\'' ['\''])

theorem plainText_quoted {inside : List Char} (found : quotedInside? cs = some inside) :
    plainText cs = replacePair '\'' '\'' ['\''] inside := by
  rw [plainText, found, Option.elim_some]

theorem plainText_unquoted (unquoted : quotedInside? cs = none) : plainText cs = dropCast cs := by
  rw [plainText, unquoted, Option.elim_none]

/-- The defaults that are left out. -/
def LeftOut (value : String) : Prop :=
  value = "" ∨ Text.upper value = "NULL" ∨ Text.hasStart (Text.lower value) "nextval(" = true
deriving Decidable

theorem normalize_eq (default : String) : normalize default =
    if LeftOut (Text.strip default) then none
    else some (String.ofList (plainText (stripOuter (stripChars default.toList)))) := by
  have chars : (Text.strip default).toList = stripChars default.toList := String.toList_ofList
  rw [normalize, plainText, ← chars]
  generalize Text.strip default = value
  by_cases left : LeftOut value
  · rw [if_pos left]
    rcases left with blank | null | sequence
    · simp [blank]
    · simp [null]
    · simp [sequence]
  · rw [if_neg left]
    simp only [LeftOut, not_or] at left
    simp only [left, decide_false, Bool.or_self, Bool.false_eq_true, if_false]
    cases quotedInside? (stripOuter value.toList) <;> rfl

theorem not_sequence {value : String} {word : List Char} (ascii : IsAscii word) (front : word <+: value.toList)
    (apart : ¬ word.map Char.toLower <+: "nextval(".toList ∧ ¬ "nextval(".toList <+: word.map Char.toLower) :
    Text.hasStart (Text.lower value) "nextval(" = false := by
  obtain ⟨rest, split⟩ := front
  rw [← Bool.not_eq_true]
  intro start
  have chars : (Text.lower value).toList = lowerChars value.toList := String.toList_ofList
  rw [Text.hasStart, List.isPrefixOf_iff_prefix, chars, lowerChars, ← split] at start
  have lowered := lowerFrom_ascii ascii [] rest
  exact (List.prefix_or_prefix_of_prefix start lowered).elim apart.2 apart.1

theorem upper_ne_null {value : String} {mark : Char} (present : mark ∈ value.toList) (fixed : upperChar mark = [mark])
    (other : mark ∉ "NULL".toList) : Text.upper value ≠ "NULL" := by
  intro null
  have member : mark ∈ (Text.upper value).toList := by
    rw [Text.upper, String.toList_ofList]
    exact List.mem_flatMap.mpr ⟨mark, present, fixed ▸ List.mem_cons_self⟩
  rw [null] at member
  exact other member

/-- A default with a mark in it that `NULL` has not, and with a word in front that `nextval` is not, is not left out. -/
theorem not_leftOut {text : String} {mark : Char} {word first last : List Char} (present : mark ∈ text.toList)
    (visible : isBlankChar mark = false) (fixed : upperChar mark = [mark]) (other : mark ∉ "NULL".toList)
    (opens : ∀ c ∈ first, isBlankChar c = true ∨ c = '(') (filled : word ≠ [])
    (letters : ∀ c ∈ word, isBlankChar c = false ∧ c ≠ '(' ∧ c ≠ ')') (split : text.toList = first ++ word ++ last)
    (ascii : IsAscii word)
    (apart : ¬ word.map Char.toLower <+: "nextval(".toList ∧ ¬ "nextval(".toList <+: word.map Char.toLower) :
    ¬ LeftOut (Text.strip text) := by
  have chars : (Text.strip text).toList = stripChars text.toList := String.toList_ofList
  have kept : mark ∈ (Text.strip text).toList := by
    rw [chars]
    exact mem_stripChars present visible
  have front := (wrapped_stripChars text.toList).front (stripChars_spec _).1 opens filled letters split
  rw [← chars] at front
  rintro (empty | upper | sequence)
  · rw [empty] at kept
    cases kept
  · exact upper_ne_null kept fixed other upper
  · refine absurd sequence (Bool.not_eq_true _ ▸ ?_)
    rcases front with opened | whole
    · obtain ⟨rest, split⟩ := List.head?_eq_some_iff.mp opened
      have parenthesis : ['('] <+: (Text.strip text).toList := ⟨rest, split.symm⟩
      exact not_sequence (by decide) parenthesis (by decide)
    · exact not_sequence ascii whole apart

end TableFerry.Default
