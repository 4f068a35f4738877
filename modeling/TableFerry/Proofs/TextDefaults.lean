import TableFerry.Proofs.ReflectedDefaults
/-! What becomes of a text that an engine reports as a default, between quotes, with a cast and parentheses. It is read
back when the cast is plain and stands right behind the literal. Written again it gets its quotes when letters show it to
be a text; without letters, or with `CURRENT_TIMESTAMP` in it, it stays bare, and a blank one is no default at all. The last
theorem says so for every text, and for which of them that is the literal or the number that it was. -/

namespace TableFerry.Literal

open Text

variable {cs : List Char}

/-! Doubling quotes can be undone. -/

theorem replacePair_cons {first second c : Char} {into : List Char} (other : c ≠ first) (cs : List Char) :
    replacePair first second into (c :: cs) = c :: replacePair first second into cs := by
  cases cs with
  | nil => rfl
  | cons d rest => rw [replacePair, if_neg fun same => other same.1]

theorem replacePair_doubleQuotes (cs : List Char) : replacePair '\'' '\'' ['\''] (doubleQuotes cs) = cs := by
  induction cs with
  | nil => rfl
  | cons c rest ih =>
      rw [doubleQuotes, List.flatMap_cons, ← doubleQuotes]
      by_cases quote : c = '\''
      · rw [if_pos quote, List.cons_append, List.cons_append, List.nil_append, replacePair, if_pos ⟨rfl, rfl⟩, ih, quote]
        rfl
      · rw [if_neg quote, List.cons_append, List.nil_append, replacePair_cons quote, ih]

theorem count_doubleQuotes (cs : List Char) : (doubleQuotes cs).count '\'' = 2 * cs.count '\'' := by
  induction cs with
  | nil => rfl
  | cons c rest ih =>
      rw [doubleQuotes, List.flatMap_cons, ← doubleQuotes, List.count_append, ih]
      by_cases quote : c = '\''
      · subst quote
        rw [if_pos rfl, List.count_cons_self]
        simp
        omega
      · rw [if_neg quote, List.count_cons_of_ne quote]
        simp [quote]

theorem count_quote (text : String) : (quote text).toList.count '\'' = 2 * text.toList.count '\'' + 2 := by
  rw [toList_quote]
  simp [count_doubleQuotes]

theorem quote_ne (text : String) : text ≠ quote text := by
  intro same
  have counted := count_quote text
  rw [← same] at counted
  omega

/-! Numbers and texts. -/

def Digits (cs : List Char) : Prop := cs ≠ [] ∧ ∀ c ∈ cs, isAsciiDigit c = true

/-- A decimal number, perhaps with a sign and a fraction, without a zero in front that could be left out. -/
def CanonicalNumber (cs : List Char) : Prop :=
  ∃ sign whole fraction, cs = sign ++ whole ++ fraction ∧ (sign = [] ∨ sign = ['-']) ∧
    Digits whole ∧ (whole.head? = some '0' → whole = ['0']) ∧
    (fraction = [] ∨ ∃ digits, fraction = '.' :: digits ∧ Digits digits)

/-- A text that is neither blank nor a moment, with a letter or a character of another script in it. -/
def IsTextual (text : String) : Prop :=
  isBlankText text = false ∧ hasPiece (upper text) "CURRENT_TIMESTAMP" = false ∧
    (isAsciiText text = false ∨ text.toList.any isAsciiLetter = true)
deriving Decidable

theorem digit_visible {c : Char} (digit : isAsciiDigit c = true) : isBlankChar c = false := by
  have ascii : c.toNat < 128 := by
    rw [isAsciiDigit, Bool.and_eq_true, decide_eq_true_eq, decide_eq_true_eq] at digit
    exact Nat.lt_of_le_of_lt (UInt32.le_iff_toNat_le.mp digit.2) (by decide)
  revert digit
  exact forall_ascii (motive := fun c => isAsciiDigit c = true → isBlankChar c = false) (by decide) ascii

theorem CanonicalNumber.not_blank {text : String} (number : CanonicalNumber text.toList) : isBlankText text = false := by
  obtain ⟨sign, whole, fraction, split, _, ⟨filled, digits⟩, _⟩ := number
  obtain ⟨c, member⟩ := List.exists_mem_of_ne_nil whole filled
  rw [isBlankText, List.all_eq_false]
  exact ⟨c, by simp [split, member], by simp [digit_visible (digits c member)]⟩

theorem CanonicalNumber.minus_first (number : CanonicalNumber cs) : '-' ∉ cs.tail := by
  have digits {cs : List Char} (digits : Digits cs) : '-' ∉ cs := fun member => absurd (digits.2 '-' member) (by decide)
  obtain ⟨sign, whole, fraction, rfl, signed, wholeDigits, _, fractional⟩ := number
  have unsigned : '-' ∉ whole ++ fraction := by
    rw [List.mem_append, not_or]
    refine ⟨digits wholeDigits, ?_⟩
    rcases fractional with rfl | ⟨behind, rfl, fractionDigits⟩
    · exact List.not_mem_nil
    · exact List.not_mem_cons_of_ne_of_not_mem (by decide) (digits fractionDigits)
  rcases signed with rfl | rfl
  · exact fun member => unsigned (List.mem_of_mem_tail member)
  · exact unsigned

/-! What is written for a default. -/

variable {column : Column} {value : String}

/-- What is written for a text: its literal if it is textual, nothing if it is blank, and the text itself otherwise. -/
def written (text : String) : String := if IsTextual text then quote text else if isBlankText text then "" else text

theorem defaultValue_eq (given : column.default = some value) : defaultValue column = written value := by
  simp only [defaultValue, given, written, IsTextual]
  by_cases blank : isBlankText value
  · simp [blank]
  · by_cases moment : hasPiece (upper value) "CURRENT_TIMESTAMP"
    · simp [blank, moment]
    · simp [blank, moment]

/-- A text stands as its literal, or bare if it is a number. -/
def Stands (text entry : String) : Prop := entry = quote text ∨ CanonicalNumber text.toList ∧ entry = text

theorem stands_written_iff (text : String) : Stands text (written text) ↔ CanonicalNumber text.toList ∨ IsTextual text := by
  rw [Stands, written]
  split_ifs with textual blank
  · exact iff_of_true (Or.inl rfl) (Or.inr textual)
  · have unnumbered : ¬ CanonicalNumber text.toList := fun number => by simp [number.not_blank] at blank
    exact iff_of_false (by simp [unnumbered, (quote_ne_empty text).symm]) (by simp [unnumbered, textual])
  · simp [quote_ne, textual]

end TableFerry.Literal

namespace TableFerry.Default

open Text

/-! A literal is told by its first and its last quote. -/

theorem cut_unique {mark : Char} {one rest other tail : List Char} (free : mark ∉ one) (alsoFree : mark ∉ other)
    (same : one ++ mark :: rest = other ++ mark :: tail) : one = other ∧ rest = tail := by
  induction one generalizing other with
  | nil =>
      cases other with
      | nil => exact ⟨rfl, (List.cons.inj same).2⟩
      | cons c other => exact absurd ((List.cons.inj same).1 ▸ List.mem_cons_self) alsoFree
  | cons c one ih =>
      cases other with
      | nil => exact absurd ((List.cons.inj same).1 ▸ List.mem_cons_self) free
      | cons d other =>
          obtain ⟨rfl, behind⟩ := List.cons.inj same
          obtain ⟨rfl, rfl⟩ := ih (List.not_mem_of_not_mem_cons free) (List.not_mem_of_not_mem_cons alsoFree) behind
          exact ⟨rfl, rfl⟩

theorem cut_last_unique {mark : Char} {one rest other tail : List Char} (free : mark ∉ rest) (alsoFree : mark ∉ tail)
    (same : one ++ mark :: rest = other ++ mark :: tail) : one = other ∧ rest = tail := by
  have mirrored := congrArg List.reverse same
  simp only [List.reverse_append, List.reverse_cons, List.append_assoc, List.singleton_append] at mirrored
  obtain ⟨behind, before⟩ := cut_unique (mt List.mem_reverse.mp free) (mt List.mem_reverse.mp alsoFree) mirrored
  exact ⟨List.reverse_injective before, List.reverse_injective behind⟩

theorem literal_unique {before inside behind first other last : List Char} (front : '\'' ∉ before) (back : '\'' ∉ behind)
    (free : '\'' ∉ first) (alsoFree : '\'' ∉ last)
    (same : before ++ ('\'' :: inside ++ '\'' :: behind) = first ++ ('\'' :: other ++ '\'' :: last)) :
    before = first ∧ inside = other ∧ behind = last := by
  obtain ⟨fronts, rest⟩ := cut_unique front free same
  obtain ⟨insides, backs⟩ := cut_last_unique back alsoFree rest
  exact ⟨fronts, insides, backs⟩

/-- A name that was read up to what is put around holds the whole name of the type, as nothing is left to close it with. -/
theorem castChars_of_prefix {name type back behind : List Char} (named : TypeName type)
    (chars : ∀ c ∈ name, isCastChar c = true) (closes : ∀ c ∈ back, isBlankChar c = true ∨ c = ')')
    (level : back.count ')' = behind.count ')') (rest : name ++ back = type ++ behind) :
    ∀ c ∈ type, isCastChar c = true := by
  rcases List.append_eq_append_iff.mp rest with ⟨spare, whole, ends⟩ | ⟨spare, whole, _⟩
  · have unclosed : ')' ∉ spare := by
      rw [ends, List.count_append] at level
      exact List.count_eq_zero.mp (by omega)
    rcases List.eq_nil_or_concat' spare with rfl | ⟨begun, c, rfl⟩
    · rw [whole, List.append_nil]
      exact chars
    · obtain ⟨d, last, visible⟩ := named.ends
      rw [whole, ← List.append_assoc, List.getLast?_concat] at last
      obtain rfl := Option.some.inj last
      have member : c ∈ begun ++ [c] := List.mem_append_right begun List.mem_cons_self
      rcases closes c (ends ▸ List.mem_append_left _ member) with blank | closed
      · rw [visible] at blank
        cases blank
      · exact absurd (closed ▸ member) unclosed
  · exact fun c member => chars c (whole ▸ List.mem_append_left _ member)

/-- A cast that was read behind a literal is the one that stands there, and stands next to it. -/
theorem plain_of_behind {cast found : Option (List Char)} {first last before behind front back : List Char}
    (named : ∀ type ∈ cast, TypeName type) (frames : Frames first last) (outer : Frames before behind)
    (rim : Frames front back) (plain : Plain found) (fronts : front = before ++ first)
    (backs : castTo found ++ back = last ++ castTo cast ++ behind) : Plain cast ∧ (cast ≠ none → last = []) := by
  cases cast with
  | none => exact ⟨nofun, fun absent => absurd rfl absent⟩
  | some type =>
      cases found with
      | none =>
          have colon : ':' ∈ back := by
            rw [castTo, List.nil_append] at backs
            simp [backs, castTo]
          exact absurd (rim.closes ':' colon) (by decide)
      | some name =>
          have alone : last = [] := by
            cases last with
            | nil => rfl
            | cons c last =>
                obtain ⟨rfl, _⟩ := List.cons.inj backs
                exact absurd (frames.closes ':' List.mem_cons_self) (by decide)
          subst alone
          have rest : name ++ back = type ++ behind := by simpa [castTo] using backs
          have level : back.count ')' = behind.count ')' := by
            rw [← rim.level, fronts, List.count_append, frames.level, outer.level, List.count_nil, Nat.add_zero]
          refine ⟨?_, fun _ => rfl⟩
          rintro _ ⟨⟩
          exact castChars_of_prefix (named type rfl) (plain name rfl) rim.closes level rest

variable {text reflected : String} {inner : List Char} {cast : Option (List Char)}

/-- A cast is plain and stands right behind the literal. -/
def Adjoins (text : String) (inner : List Char) (cast : Option (List Char)) : Prop :=
  Plain cast ∧ (cast ≠ none → (Literal.quote text).toList <:+ inner)

section Reflected

variable (inside : Wrapped (Literal.quote text).toList inner)
include inside

/-- Where a literal ends a text, nothing but blanks stands in front of it. -/
theorem exists_blanks (adjacent : (Literal.quote text).toList <:+ inner) :
    ∃ first, Blanks first ∧ inner = first ++ (Literal.quote text).toList := by
  obtain ⟨first, last, frames, rfl⟩ := inside.frames
  obtain ⟨before, ends⟩ := adjacent
  rcases List.eq_nil_or_concat' last with rfl | ⟨front, c, rfl⟩
  · exact ⟨first, (frames.blanks_of_unclosed List.not_mem_nil).1, List.append_nil _⟩
  · have same := congrArg List.getLast? ends
    rw [Literal.toList_quote, ← List.append_assoc, List.getLast?_concat, ← List.append_assoc, List.getLast?_concat] at same
    obtain rfl := Option.some.inj same
    exact absurd (List.mem_append_right front List.mem_cons_self) frames.unquoted.2

variable (outside : Wrapped (inner ++ castTo cast) reflected.toList)
include outside

theorem exists_around : ∃ first last before behind, Frames first last ∧ Frames before behind ∧
    inner = first ++ (Literal.quote text).toList ++ last ∧
    reflected.toList = (before ++ first) ++
      ('\'' :: Literal.doubleQuotes text.toList ++ '\'' :: (last ++ castTo cast ++ behind)) := by
  obtain ⟨first, last, frames, within⟩ := inside.frames
  obtain ⟨before, behind, outer, around⟩ := outside.frames
  refine ⟨first, last, before, behind, frames, outer, within, ?_⟩
  rw [around, within, Literal.toList_quote]
  simp only [List.append_assoc, List.cons_append, List.nil_append]

theorem normalize_literal :
    normalize reflected = some (String.ofList (plainText (stripOuter (stripChars reflected.toList)))) := by
  obtain ⟨first, last, before, behind, frames, outer, _, split⟩ := exists_around inside outside
  have opens : ∀ c ∈ before ++ first, isBlankChar c = true ∨ c = '(' :=
    List.forall_mem_append.mpr ⟨outer.opens, frames.opens⟩
  have quote : reflected.toList = (before ++ first) ++ ['\''] ++
      (Literal.doubleQuotes text.toList ++ '\'' :: (last ++ castTo cast ++ behind)) := by
    rw [split]
    simp
  have present : '\'' ∈ reflected.toList := quote ▸ by simp
  have letters : ∀ c ∈ ['\''], isBlankChar c = false ∧ c ≠ '(' ∧ c ≠ ')' := List.forall_mem_singleton.mpr (by decide)
  have taken := not_leftOut present (by decide) (by decide) (by decide) opens (List.cons_ne_nil _ _) letters quote
    (by decide) (by decide)
  exact (normalize_eq reflected).trans (if_neg taken)

/-- An adjoining cast belongs to the literal. -/
theorem wrapped_adjoins (adjoins : Adjoins text inner cast) :
    Wrapped ('\'' :: Literal.doubleQuotes text.toList ++ '\'' :: castTo cast) reflected.toList := by
  have literal : '\'' :: Literal.doubleQuotes text.toList ++ '\'' :: castTo cast =
      (Literal.quote text).toList ++ castTo cast := by
    rw [Literal.toList_quote, List.append_assoc]
    rfl
  rw [literal]
  cases cast with
  | none =>
      simp only [castTo, List.append_nil] at outside ⊢
      exact outside.trans inside
  | some type =>
      obtain ⟨first, blanks, rfl⟩ := exists_blanks inside (adjoins.2 (Option.some_ne_none type))
      have wrapped : Wrapped ((Literal.quote text).toList ++ castTo (some type))
          (first ++ ((Literal.quote text).toList ++ castTo (some type)) ++ []) := .blanks blanks (List.forall_mem_nil _) .bare
      refine Wrapped.trans ?_ wrapped
      simpa only [List.append_assoc, List.append_nil] using outside

variable (named : ∀ type ∈ cast, TypeName type)
include named

/-- The text comes back when its cast is read. -/
theorem plainText_adjoins (adjoins : Adjoins text inner cast) :
    plainText (stripOuter (stripChars reflected.toList)) = text.toList := by
  have wrapped := wrapped_adjoins inside outside adjoins
  rw [plainText_quoted (wrapped.literal named adjoins.1), Literal.replacePair_doubleQuotes]

/-- The text comes back only when its cast is read. -/
theorem adjoins_of_plainText (kept : plainText (stripOuter (stripChars reflected.toList)) = text.toList) :
    Adjoins text inner cast := by
  have wrapped := wrapped_stripOuter reflected.toList
  generalize stripOuter (stripChars reflected.toList) = left at wrapped kept
  have quotes : left.count '\'' = 2 * text.toList.count '\'' + 2 := by
    rw [← wrapped.count, outside.count, List.count_append, inside.count, Literal.count_quote,
      List.count_eq_zero.mpr (quote_not_mem_castTo named), Nat.add_zero]
  cases found : quotedInside? left with
  | none =>
      rw [plainText_unquoted found] at kept
      have counted := congrArg (List.count '\'') kept
      rw [count_dropCast] at counted
      omega
  | some unquoted =>
      obtain ⟨read, plain, _, rfl⟩ := exists_of_quotedInside? found
      obtain ⟨first, last, before, behind, frames, outer, within, split⟩ := exists_around inside outside
      obtain ⟨front, back, rim, around⟩ := wrapped.frames
      have same : front ++ ('\'' :: unquoted ++ '\'' :: (castTo read ++ back)) = (before ++ first) ++
          ('\'' :: Literal.doubleQuotes text.toList ++ '\'' :: (last ++ castTo cast ++ behind)) := by
        rw [← split, around]
        simp
      obtain ⟨fronts, _, backs⟩ := literal_unique rim.unquoted.1 (by simp [plain.unquoted, rim.unquoted.2])
        (by simp [frames.unquoted.1, outer.unquoted.1])
        (by simp [frames.unquoted.2, outer.unquoted.2, quote_not_mem_castTo named]) same
      obtain ⟨read, alone⟩ := plain_of_behind named frames outer rim plain fronts backs
      refine ⟨read, fun present => ?_⟩
      rw [within, alone present, List.append_nil]
      exact List.suffix_append _ _

/-- A text is read back exactly when the cast behind its literal is read. -/
theorem normalize_eq_text_iff : normalize reflected = some text ↔ Adjoins text inner cast := by
  rw [normalize_literal inside outside, Option.some.injEq, ← String.toList_inj, String.toList_ofList]
  exact ⟨adjoins_of_plainText inside outside named, plainText_adjoins inside outside named⟩

end Reflected

/-- What is written for a text whose cast is read, and for which texts that is the literal or the number that it was. -/
theorem textDefault_written {column : Column} (given : column.default = normalize reflected)
    (inside : Wrapped (Literal.quote text).toList inner) (outside : Wrapped (inner ++ castTo cast) reflected.toList)
    (named : ∀ type ∈ cast, TypeName type) (adjoins : Adjoins text inner cast) :
    Literal.defaultValue column = Literal.written text ∧
      (Literal.Stands text (Literal.defaultValue column) ↔
        Literal.CanonicalNumber text.toList ∨ Literal.IsTextual text) := by
  rw [(normalize_eq_text_iff inside outside named).mpr adjoins] at given
  have entry := Literal.defaultValue_eq given
  exact ⟨entry, entry ▸ Literal.stands_written_iff text⟩

/-- A text with a quote in it comes back from between parentheses and in front of a cast. -/
theorem textDefault_written_quote :
    Wrapped (Literal.quote "it's").toList (Literal.quote "it's").toList ∧
      Wrapped ((Literal.quote "it's").toList ++ castTo (some "character varying".toList))
        "('it''s'::character varying)".toList ∧
      Literal.Stands "it's" (Literal.defaultValue
        { name := "note", typeName := some "VARCHAR", category := .varchar,
          default := normalize "('it''s'::character varying)" }) := by
  have named : ∀ type ∈ some "character varying".toList, TypeName type := by
    rintro _ ⟨⟩
    exact ⟨by decide, 'g', by decide, by decide⟩
  have parens : Wrapped "'it''s'::character varying".toList ('(' :: "'it''s'::character varying".toList ++ [')']) :=
    .parens .bare
  have outside : Wrapped ((Literal.quote "it's").toList ++ castTo (some "character varying".toList))
      "('it''s'::character varying)".toList := parens
  have adjoins : Adjoins "it's" (Literal.quote "it's").toList (some "character varying".toList) := by
    refine ⟨?_, fun _ => List.suffix_refl _⟩
    rintro _ ⟨⟩
    exact List.all_eq_true.mp (by decide +kernel)
  exact ⟨.bare, outside, (textDefault_written rfl .bare outside named adjoins).2.mpr (Or.inr (by decide +kernel))⟩

/-- A date loses its quotes and becomes a difference. -/
theorem textDefault_unquoted :
    Wrapped (Literal.quote "2024-01-01").toList "'2024-01-01'".toList ∧
      Literal.defaultValue
        { name := "day", typeName := some "VARCHAR", category := .varchar, default := normalize "'2024-01-01'" } =
          "2024-01-01" ∧
      ¬ Literal.Stands "2024-01-01" (Literal.defaultValue
        { name := "day", typeName := some "VARCHAR", category := .varchar, default := normalize "'2024-01-01'" }) := by
  have entry : Literal.defaultValue
      { name := "day", typeName := some "VARCHAR", category := .varchar, default := normalize "'2024-01-01'" } =
        "2024-01-01" := by decide +kernel
  refine ⟨.bare, entry, ?_⟩
  rw [entry]
  rintro (literal | ⟨number, _⟩)
  · exact absurd literal (by decide)
  · exact absurd number.minus_first (by decide)

end TableFerry.Default
