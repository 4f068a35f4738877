import TableFerry.Dialect.Literal
import TableFerry.Proofs.ReflectedDefaults
/-! `NULL` as the default of a column. Whether a default is `NULL` is asked before parentheses and casts are taken off, so
that it is seen through blanks alone; behind a parenthesis or in front of a cast it becomes a text, as the last theorem
says. -/

namespace TableFerry.Default

open Text

variable {word cs : List Char}

/-- `NULL` in any letter case. -/
def IsNull (word : List Char) : Prop := word.map Char.toUpper = "NULL".toList
deriving Decidable

theorem ascii_of_toUpper {c : Char} (ascii : c.toUpper.toNat < 128) : c.toNat < 128 := by
  unfold Char.toUpper at ascii
  split at ascii
  · rename_i small
    exact Nat.lt_of_le_of_lt (UInt32.le_iff_toNat_le.mp small.2) (by decide)
  · exact ascii

theorem IsNull.ascii (null : IsNull word) : IsAscii word := by
  intro c member
  have upper : c.toUpper ∈ "NULL".toList := null ▸ List.mem_map_of_mem member
  have ascii : IsAscii "NULL".toList := by decide
  exact ascii_of_toUpper (ascii _ upper)

theorem IsNull.not_mem {mark : Char} (null : IsNull word) (other : mark.toUpper ∉ "NULL".toList) : mark ∉ word :=
  fun member => other (null ▸ List.mem_map_of_mem member)

theorem IsNull.letters (null : IsNull word) : ∀ c ∈ word, isBlankChar c = false ∧ c ≠ '(' ∧ c ≠ ')' := by
  intro c member
  have upper : c.toUpper ∈ "NULL".toList := null ▸ List.mem_map_of_mem member
  revert upper
  exact forall_ascii
    (motive := fun c => c.toUpper ∈ "NULL".toList → isBlankChar c = false ∧ c ≠ '(' ∧ c ≠ ')')
    (by decide) (null.ascii c member)

theorem IsNull.upper (null : IsNull word) : upperChars word = "NULL".toList := (upperChars_ascii null.ascii).trans null

theorem IsNull.lower (null : IsNull word) : word.map Char.toLower = "null".toList := by
  rw [← lowerChars_ascii null.ascii, ← lowerChars_upperChars null.ascii, null.upper]
  decide

theorem IsNull.filled (null : IsNull word) : word ≠ [] := by
  rintro rfl
  cases null

/-- A word between blanks and parentheses, with a cast behind it or not, and blanks and parentheses around that. -/
def Dressed (word cs : List Char) : Prop :=
  ∃ inner cast, (∀ type ∈ cast, TypeName type) ∧ Wrapped word inner ∧ Wrapped (inner ++ castTo cast) cs

/-- A word with nothing but blanks around it. -/
def Bare (word cs : List Char) : Prop := ∃ before behind, Blanks before ∧ Blanks behind ∧ cs = before ++ word ++ behind

theorem Frames.blank_or_opened (frames : Frames before behind) : Blanks before ∧ Blanks behind ∨ '(' ∈ before := by
  by_cases closed : ')' ∈ behind
  · right
    rw [← List.count_pos_iff, frames.level, List.count_pos_iff]
    exact closed
  · exact Or.inl (frames.blanks_of_unclosed closed)

/-- What stands around a dressed word. -/
theorem Dressed.around (dressed : Dressed word cs) : ∃ first last, (∀ c ∈ first, isBlankChar c = true ∨ c = '(') ∧
    cs = first ++ word ++ last ∧ (Bare word cs ∨ '(' ∈ cs ∨ ':' ∈ cs) := by
  obtain ⟨inner, cast, _, inside, outside⟩ := dressed
  obtain ⟨first, last, frames, rfl⟩ := inside.frames
  obtain ⟨before, behind, outer, rfl⟩ := outside.frames
  refine ⟨before ++ first, last ++ castTo cast ++ behind, ?_, by simp, ?_⟩
  · exact List.forall_mem_append.mpr ⟨outer.opens, frames.opens⟩
  · cases cast with
    | some type => exact Or.inr (Or.inr (by simp [castTo]))
    | none =>
        rcases frames.blank_or_opened with ⟨front, back⟩ | opened
        · rcases outer.blank_or_opened with ⟨outward, away⟩ | opened
          · left
            exact ⟨before ++ first, last ++ behind, outward.append front, back.append away, by simp [castTo]⟩
          · exact Or.inr (Or.inl (by simp [opened]))
        · exact Or.inr (Or.inl (by simp [opened]))

theorem normalize_bare {text : String} (null : IsNull word) (bare : Bare word text.toList) : normalize text = none := by
  obtain ⟨before, behind, front, back, split⟩ := bare
  have trimmed : Trimmed word := by
    constructor
    · exact fun c first => (null.letters c (List.mem_of_mem_head? first)).1
    · exact fun c last => (null.letters c (List.mem_of_mem_getLast? last)).1
  have stripped : Text.strip text = String.ofList word := by
    rw [Text.strip, split, stripChars_of_trimmed front back trimmed]
  rw [normalize_eq, stripped, if_pos]
  refine Or.inr (Or.inl ?_)
  rw [Text.upper, String.toList_ofList, null.upper]
  rfl

theorem dropCast_visible {left : List Char} {c : Char} (first : left.head? = some c) (other : c ≠ ':')
    (visible : isBlankChar c = false) : isBlankText (String.ofList (dropCast left)) = false := by
  have present : c ∈ dropCast left := by
    rcases dropCast_spec left with same | ⟨name, _, _, split⟩
    · rw [same]
      exact List.mem_of_mem_head? first
    · generalize dropCast left = value at split
      cases value with
      | nil =>
          rw [split] at first
          exact absurd (Option.some.inj first).symm other
      | cons d rest =>
          rw [split] at first
          obtain rfl := Option.some.inj first
          exact List.mem_cons_self
  rw [isBlankText, String.toList_ofList, List.all_eq_false]
  exact ⟨c, present, by rw [visible]; decide⟩

/-- With a mark around it the word is taken for a text. -/
theorem normalize_marked {text : String} {mark : Char} {first last : List Char} (null : IsNull word)
    (opens : ∀ c ∈ first, isBlankChar c = true ∨ c = '(') (split : text.toList = first ++ word ++ last)
    (present : mark ∈ text.toList) (strange : mark = '(' ∨ mark = ':') :
    ∃ value, normalize text = some value ∧ isBlankText value = false := by
  have taken : ¬ LeftOut (Text.strip text) := by
    refine not_leftOut present ?_ ?_ ?_ opens null.filled null.letters split null.ascii (by rw [null.lower]; decide)
    all_goals rcases strange with rfl | rfl <;> decide
  refine ⟨_, (normalize_eq text).trans (if_neg taken), ?_⟩
  have front := (wrapped_stripOuter text.toList).front (trimmed_stripOuter _) opens null.filled null.letters split
  generalize stripOuter (stripChars text.toList) = left at front
  obtain ⟨c, head, other, unquoted, visible⟩ : ∃ c, left.head? = some c ∧ c ≠ ':' ∧ c ≠ '\'' ∧ isBlankChar c = false := by
    rcases front with opened | ⟨rest, rfl⟩
    · exact ⟨'(', opened, by decide, by decide, by decide⟩
    · obtain ⟨c, letters, rfl⟩ := List.exists_cons_of_ne_nil null.filled
      refine ⟨c, rfl, ?_, ?_, (null.letters c List.mem_cons_self).1⟩
      · rintro rfl
        exact null.not_mem (by decide) List.mem_cons_self
      · rintro rfl
        exact null.not_mem (by decide) List.mem_cons_self
  have unread : quotedInside? left = none := by
    apply quotedInside?_unquoted
    rw [head]
    exact fun same => unquoted (Option.some.inj same)
  rw [plainText_unquoted unread]
  exact dropCast_visible head other visible

theorem defaultValue_ne_empty {column : Column} {value : String} (given : column.default = some value)
    (visible : isBlankText value = false) : Literal.defaultValue column ≠ "" := by
  have filled : value ≠ "" := by
    rintro rfl
    cases visible
  simp only [Literal.defaultValue, given, visible, Bool.false_eq_true, if_false]
  split_ifs
  · exact filled
  · exact Literal.quote_ne_empty value
  · exact filled

/-- A `NULL` is no default, and nothing is written for it, exactly when there is nothing but blanks around it. -/
theorem nullDefault_iff (column : ReflectedColumn) (table : String) (keyNames : List String) {reflected : String}
    (given : column.default = .text reflected) (null : IsNull word) (dressed : Dressed word reflected.toList) :
    (normalize reflected = none ↔ Bare word reflected.toList) ∧
      (Literal.defaultValue (column.toColumn table keyNames) = "" ↔ Bare word reflected.toList) := by
  have default : (column.toColumn table keyNames).default = normalize reflected := by
    simp only [ReflectedColumn.toColumn, ReflectedColumn.default?, given]
    rfl
  obtain ⟨first, last, opens, split, bare | marked⟩ := dressed.around
  · have none := normalize_bare null bare
    refine ⟨iff_of_true none bare, iff_of_true ?_ bare⟩
    rw [Literal.defaultValue, default, none]
  · obtain ⟨value, taken, visible⟩ : ∃ value, normalize reflected = some value ∧ isBlankText value = false := by
      rcases marked with opened | cast
      · exact normalize_marked null opens split opened (Or.inl rfl)
      · exact normalize_marked null opens split cast (Or.inr rfl)
    have covered : ¬ Bare word reflected.toList := by
      intro bare
      rw [normalize_bare null bare] at taken
      cases taken
    refine ⟨iff_of_false ?_ covered, iff_of_false (defaultValue_ne_empty (default.trans taken) visible) covered⟩
    rw [taken]
    exact Option.some_ne_none value

/-- Blanks do not hide a null. -/
theorem nullDefault_iff_blanks : IsNull ['n', 'u', 'l', 'l'] ∧ Dressed ['n', 'u', 'l', 'l'] " null\n".toList ∧
    normalize " null\n" = none := by
  have bare : Bare ['n', 'u', 'l', 'l'] " null\n".toList := ⟨[' '], ['\n'], by decide, by decide, rfl⟩
  have dressed : Dressed ['n', 'u', 'l', 'l'] " null\n".toList := by
    refine ⟨['n', 'u', 'l', 'l'], none, nofun, .bare, ?_⟩
    exact .blanks (by decide : Blanks [' ']) (by decide : Blanks ['\n']) .bare
  exact ⟨by decide, dressed, (nullDefault_iff { name := "note", type := {}, default := .text " null\n" } "notes" []
    rfl (by decide) dressed).1.mpr bare⟩

/-- Between parentheses the null becomes a text that is inserted. -/
theorem nullDefault_quoted : IsNull ['N', 'U', 'L', 'L'] ∧ Dressed ['N', 'U', 'L', 'L'] "(NULL)".toList ∧
    normalize "(NULL)" = some "NULL" ∧
    Literal.defaultValue (ReflectedColumn.toColumn { name := "note", type := {}, default := .text "(NULL)" } "notes" []) =
      "'NULL'" := by
  have parens : Wrapped ['N', 'U', 'L', 'L'] ('(' :: ['N', 'U', 'L', 'L'] ++ [')']) := .parens .bare
  refine ⟨by decide, ⟨_, none, nofun, .bare, parens⟩, ?_, ?_⟩
  · decide +kernel
  · decide +kernel

end TableFerry.Default
