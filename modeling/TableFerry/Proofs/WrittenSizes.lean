import TableFerry.Dialect.TypeMapping
import TableFerry.Proofs.CreatedNames
import TableFerry.Proofs.ReflectedDefaults
/-! Sizes that stand in the name of a type. The numbers of a parenthesis are read wherever it stands between the words,
and the words are what is left without it. So what is written for a type with a size is read as that type again, and a
size in the name counts as much as one that is given beside it; neither the case of letters nor the blanks between the
words make a difference there, as the last theorem says. -/

namespace TableFerry

namespace Text

/-- Texts that differ in the case of ASCII letters only. -/
def SameLetters (one other : String) : Prop := one.toList.map Char.toLower = other.toList.map Char.toLower
deriving Decidable

theorem SameLetters.lower {one other : String} (same : SameLetters one other) : lower one = lower other := by
  -- A sigma that ends a word looks at what stands around it, but not at its case.
  have lowered (s : String) : lowerChars (s.toList.map Char.toLower) = lowerChars s.toList :=
    lowerFrom_alike .nil (List.forall₂_map_left_iff.mpr (List.forall₂_same.mpr fun c _ => alike_toLower c))
  rw [Text.lower, Text.lower, ← lowered one, same, lowered other]

/-! Words between blanks. -/

/-- The words of a text in their order, with blanks between any two of them and around them. -/
inductive Spaced : List String → List Char → Prop
  | nothing : Spaced [] []
  | blank {parts : List String} {cs : List Char} {c : Char} (blanks : isBlankChar c = true) (rest : Spaced parts cs) :
      Spaced parts (c :: cs)
  | last (part : String) : Spaced [part] part.toList
  | word {parts : List String} {cs : List Char} {c : Char} (part : String) (blanks : isBlankChar c = true)
      (rest : Spaced parts cs) : Spaced (part :: parts) (part.toList ++ c :: cs)

variable {parts : List String} {cs : List Char}

theorem words_cut {blank : Char} (blanks : isBlankChar blank = true) (before after : List Char) :
    words (before ++ blank :: after) = words before ++ words after := by
  rw [words, splitWhere_cut isBlankChar blanks, List.filter_append, words, words]

theorem words_single {part : String} (filled : part ≠ "") (visible : ∀ c ∈ part.toList, isBlankChar c = false) :
    words part.toList = [part.toList] := by
  rw [words, splitWhere_free visible]
  simp [filled]

theorem Spaced.words_eq (spaced : Spaced parts cs)
    (visible : ∀ part ∈ parts, part ≠ "" ∧ ∀ c ∈ part.toList, isBlankChar c = false) :
    words cs = parts.map String.toList := by
  induction spaced with
  | nothing => rfl
  | blank blanks _ ih => exact (words_cut blanks [] _).trans (ih visible)
  | last part =>
      obtain ⟨filled, unblank⟩ := visible part List.mem_cons_self
      exact words_single filled unblank
  | word part blanks _ ih =>
      obtain ⟨⟨filled, unblank⟩, others⟩ := List.forall_mem_cons.mp visible
      rw [words_cut blanks, words_single filled unblank, ih others, List.map_cons, List.singleton_append]

theorem map_ofList_toList (parts : List String) : (parts.map String.toList).map String.ofList = parts := by
  simp [Function.comp_def]

theorem Spaced.not_mem {mark : Char} (spaced : Spaced parts cs) (visible : isBlankChar mark = false)
    (absent : ∀ part ∈ parts, mark ∉ part.toList) : mark ∉ cs := by
  have other {blank : Char} (blanks : isBlankChar blank = true) : mark ≠ blank := by
    rintro rfl
    rw [blanks] at visible
    cases visible
  induction spaced with
  | nothing => exact List.not_mem_nil
  | blank blanks _ ih => exact List.not_mem_cons_of_ne_of_not_mem (other blanks) (ih absent)
  | last part => exact absent part List.mem_cons_self
  | word part blanks _ ih =>
      obtain ⟨own, others⟩ := List.forall_mem_cons.mp absent
      rw [List.mem_append, not_or]
      exact ⟨own, List.not_mem_cons_of_ne_of_not_mem (other blanks) (ih others)⟩

/-- The words of a text in lower case are the words of the text in lower case. -/
theorem Spaced.lower (spaced : Spaced parts cs) : Spaced (parts.map lower) (lowerChars cs) := by
  have own (part : String) : lowerChars part.toList = (Text.lower part).toList := String.toList_ofList.symm
  -- Blanks end a word, so that what stands in front of one does not count for the lower case of what stands behind it.
  induction spaced with
  | nothing => exact nothing
  | @blank _ cs _ blanks _ ih =>
      have cut := (endsWord_blank blanks).lowerChars_cut [] cs
      rw [List.nil_append] at cut
      rw [cut]
      exact blank blanks ih
  | last part =>
      rw [own]
      exact last _
  | word part blanks _ ih =>
      rw [(endsWord_blank blanks).lowerChars_cut, own]
      exact word _ blanks ih

/-- A name with these words, in any case of ASCII letters and with any blanks between the words and around them. -/
def Spells (parts : List String) (name : String) : Prop :=
  ∃ text : String, Spaced parts text.toList ∧ SameLetters name text

theorem spaced_joinWith (parts : List String) : Spaced parts (joinWith " " parts).toList := by
  induction parts with
  | nil => exact .nothing
  | cons part others ih =>
      cases others with
      | nil => exact .last part
      | cons next rest =>
          have joined : (joinWith " " (part :: next :: rest)).toList =
              part.toList ++ ' ' :: (joinWith " " (next :: rest)).toList := by
            simp [joinWith]
          rw [joined]
          exact .word part (by decide) ih

theorem spells_joinWith (parts : List String) : Spells parts (joinWith " " parts) :=
  ⟨_, spaced_joinWith parts, rfl⟩

/-! Numbers in decimal digits. -/

/-- What holds of the ten digits one by one holds of every character of a number. -/
theorem forall_decimal {motive : Char → Prop} (each : ∀ code < 58, 48 ≤ code → motive (Char.ofNat code)) {n : Nat}
    {c : Char} (member : c ∈ Nat.toDigits 10 n) : motive c := by
  have decimal : c.isDigit = true := Nat.isDigit_of_mem_toDigits (by decide) (by decide) member
  simp only [Char.isDigit, Bool.and_eq_true, decide_eq_true_eq] at decimal
  have zero : 48 ≤ c.toNat := UInt32.le_iff_toNat_le.mp decimal.1
  have nine : c.toNat ≤ 57 := UInt32.le_iff_toNat_le.mp decimal.2
  have own := each c.toNat (Nat.lt_succ_of_le nine) zero
  rwa [Char.ofNat_toNat] at own

theorem digitValue?_decimal {n : Nat} {c : Char} (member : c ∈ Nat.toDigits 10 n) :
    digitValue? c = some (c.toNat - 48) :=
  forall_decimal (motive := fun c => digitValue? c = some (c.toNat - 48)) (by decide) member

theorem isDigit_decimal {n : Nat} {c : Char} (member : c ∈ Nat.toDigits 10 n) : isDigit c = true := by
  rw [isDigit, digitValue?_decimal member]
  rfl

theorem digitsValue_toDigits (n : Nat) : digitsValue (Nat.toDigits 10 n) = n := by
  calc
    digitsValue (Nat.toDigits 10 n) = Nat.ofDigitChars 10 (Nat.toDigits 10 n) 0 := by
      apply List.foldl_ext
      intro value c member
      rw [digitValue?_decimal member]
      rfl
    _ = n := Nat.ofDigitChars_ten_toDigits

theorem takeWhile_decimal (n : Nat) {stop : Char} (stopped : isDigit stop = false) (rest : List Char) :
    (Nat.toDigits 10 n ++ stop :: rest).takeWhile isDigit = Nat.toDigits 10 n := by
  rw [List.takeWhile_append_of_pos fun c member => isDigit_decimal member,
    List.takeWhile_cons_of_neg (by simp [stopped]), List.append_nil]

theorem isEmpty_toDigits (n : Nat) : (Nat.toDigits 10 n).isEmpty = false := by
  rw [List.isEmpty_eq_false_iff]
  exact Nat.toDigits_ne_nil

theorem isDigit_blank {blank : Char} (blanks : isBlankChar blank = true) : isDigit blank = false := by
  have each : ∀ code ∈ blankCodes, isDigit (Char.ofNat code) = false := by decide +kernel
  have own := each _ (mem_blankCodes blanks)
  rwa [Char.ofNat_toNat] at own

theorem head_decimal (n : Nat) (rest : List Char) :
    ∀ c ∈ (Nat.toDigits 10 n ++ rest).head?, isBlankChar c = false := by
  intro c first
  rw [List.head?_append_of_ne_nil _ Nat.toDigits_ne_nil] at first
  exact forall_decimal (motive := fun c => isBlankChar c = false) (by decide) (List.mem_of_mem_head? first)

end Text

namespace DeclaredType

open Text

/-! Numbers in a parenthesis. -/

/-- A size in decimal digits, or a size and digits with blanks around the comma between them. -/
inductive Numbers (size : Nat) : Option Nat → List Char → Prop
  | size : Numbers size none (Nat.toDigits 10 size)
  | digits (digits : Nat) (before behind : List Char) (front : Blanks before) (back : Blanks behind) :
      Numbers size (some digits) (Nat.toDigits 10 size ++ before ++ ',' :: behind ++ Nat.toDigits 10 digits)

theorem numbersAt?_numbers {n : Nat} {d : Option Nat} {numbers : List Char} (written : Numbers n d numbers)
    (after : List Char) : numbersAt? (numbers ++ ')' :: after) = some (n, d) := by
  have closed (n : Nat) := takeWhile_decimal n (by decide : isDigit ')' = false) after
  cases written with
  | size => simp [numbersAt?, closed, isEmpty_toDigits, digitsValue_toDigits]
  | digits d before behind front back =>
      -- The first number ends at a blank or at the comma, so that the parenthesis goes on behind it.
      obtain ⟨stop, rest, opened, stopped, other⟩ : ∃ stop rest,
          before ++ ',' :: (behind ++ (Nat.toDigits 10 d ++ ')' :: after)) = stop :: rest ∧
            isDigit stop = false ∧ stop ≠ ')' := by
        cases before with
        | nil => exact ⟨',', _, rfl, by decide, by decide⟩
        | cons blank rest =>
            have blanks := front blank List.mem_cons_self
            refine ⟨blank, _, rfl, isDigit_blank blanks, ?_⟩
            rintro rfl
            cases blanks
      have comma : skipBlanks (stop :: rest) = ',' :: (behind ++ (Nat.toDigits 10 d ++ ')' :: after)) := by
        rw [← opened]
        exact dropWhile_blanks front (by simp [isBlankChar])
      have second : skipBlanks (behind ++ (Nat.toDigits 10 d ++ ')' :: after)) = Nat.toDigits 10 d ++ ')' :: after :=
        dropWhile_blanks back (head_decimal d _)
      have first := takeWhile_decimal n stopped rest
      have split : Nat.toDigits 10 n ++ before ++ ',' :: behind ++ Nat.toDigits 10 d ++ ')' :: after =
          Nat.toDigits 10 n ++ stop :: rest := by
        rw [← opened]
        simp only [List.append_assoc, List.cons_append]
      rw [split]
      simp [numbersAt?, first, isEmpty_toDigits, comma, second, closed, digitsValue_toDigits, other]

theorem findNumbers?_behind {before : List Char} (unopened : '(' ∉ before) (rest : List Char) :
    findNumbers? (before ++ rest) = findNumbers? rest := by
  induction before with
  | nil => rfl
  | cons c before ih =>
      rw [List.mem_cons, not_or] at unopened
      rw [List.cons_append, findNumbers?, if_neg (Ne.symm unopened.1), ih unopened.2]

theorem blankParentheses_behind {before : List Char} (unopened : '(' ∉ before) (rest : List Char) :
    blankParentheses (before ++ rest) = before ++ blankParentheses rest := by
  induction before with
  | nil => rfl
  | cons c before ih =>
      rw [List.mem_cons, not_or] at unopened
      have other : (decide (c = '(') && (before ++ rest).contains ')') = false := by
        rw [decide_eq_false (Ne.symm unopened.1), Bool.false_and]
      rw [List.cons_append, blankParentheses, if_neg (by rw [other]; decide), ih unopened.2]
      rfl

theorem blankParentheses_unopened {cs : List Char} (unopened : '(' ∉ cs) : blankParentheses cs = cs := by
  have kept := blankParentheses_behind unopened []
  rwa [blankParentheses, List.append_nil] at kept

theorem blankParentheses_opened {inside : List Char} (unclosed : ')' ∉ inside) (rest : List Char) :
    blankParentheses ('(' :: (inside ++ ')' :: rest)) = ' ' :: blankParentheses rest := by
  have closed : (inside ++ ')' :: rest).contains ')' = true := by simp
  have left : (inside ++ ')' :: rest).dropWhile (· ≠ ')') = ')' :: rest := by
    rw [List.dropWhile_append_of_pos, List.dropWhile_cons_of_neg (by simp)]
    intro c member
    simpa using ne_of_mem_of_not_mem member unclosed
  rw [blankParentheses, if_pos (by rw [closed]; rfl), left]
  rfl

theorem Numbers.unclosed {n : Nat} {d : Option Nat} {numbers : List Char} (written : Numbers n d numbers) :
    ')' ∉ numbers := by
  have decimal (n : Nat) : ')' ∉ Nat.toDigits 10 n := fun member => absurd (isDigit_decimal member) (by decide)
  have blank {cs : List Char} (blanks : Blanks cs) : ')' ∉ cs := fun member => absurd (blanks _ member) (by decide)
  cases written with
  | size => exact decimal n
  | digits d before behind front back =>
      simp only [List.mem_append, List.mem_cons, not_or]
      exact ⟨⟨⟨decimal n, blank front⟩, by decide, blank back⟩, decimal d⟩

theorem Numbers.lower {n : Nat} {d : Option Nat} {numbers : List Char} (written : Numbers n d numbers) :
    lowerChars numbers = numbers := by
  have decimal {n : Nat} {c : Char} (member : c ∈ Nat.toDigits 10 n) : lowerChar c = [c] :=
    forall_decimal (motive := fun c => lowerChar c = [c]) (by decide) member
  apply lowerChars_settled
  intro c member
  cases written with
  | size => exact decimal member
  | digits d before behind front back =>
      simp only [List.mem_append, List.mem_cons] at member
      rcases member with ((size | blank) | rfl | blank) | digit
      · exact decimal size
      · exact lowerChar_blank (front c blank)
      · decide
      · exact lowerChar_blank (back c blank)
      · exact decimal digit

/-! Names of types. -/

/-- A word of the name of a type: no blank stands in it, and no parenthesis is opened. -/
def IsWord (word : String) : Prop := word ≠ "" ∧ ∀ c ∈ word.toList, isBlankChar c = false ∧ c ≠ '('

instance (word : String) : Decidable (IsWord word) := @instDecidableAnd _ _ _ (List.decidableBAll _ word.toList)

theorem IsWord.visible {word : String} (named : IsWord word) :
    word ≠ "" ∧ ∀ c ∈ word.toList, isBlankChar c = false :=
  ⟨named.1, fun c member => (named.2 c member).1⟩

theorem IsWord.lower {word : String} (named : IsWord word) : IsWord (lower word) := by
  refine ⟨lower_ne_empty named.1, fun c member => ?_⟩
  rw [Text.lower, String.toList_ofList] at member
  have kept (caseless : Caseless c) : isBlankChar c = false ∧ c ≠ '(' :=
    named.2 c ((caseless.mem_lowerFrom [] _).mp member)
  constructor
  · by_contra blank
    exact blank (kept (caseless_blank (Bool.of_not_eq_false blank))).1
  · rintro rfl
    exact (kept caseless_opening).2 rfl

theorem forall_lower {parts : List String} (named : ∀ part ∈ parts, IsWord part) :
    ∀ part ∈ parts.map lower, IsWord part :=
  List.forall_mem_map.mpr fun part among => (named part among).lower

variable {front back : List String} {n : Nat} {d : Option Nat} {text : String}

theorem unopened_of_spaced {parts : List String} {cs : List Char} (named : ∀ part ∈ parts, IsWord part)
    (spaced : Spaced parts cs) : '(' ∉ cs :=
  spaced.not_mem (by decide) fun part among member => ((named part among).2 _ member).2 rfl

theorem words_of_spaced {parts : List String} {cs : List Char} (named : ∀ part ∈ parts, IsWord part)
    (spaced : Spaced parts cs) : words cs = parts.map String.toList :=
  spaced.words_eq fun part among => (named part among).visible

/-- A text with the words of a type and the numbers of its parenthesis, which stands between those in `front` and those
in `back` and may touch them. -/
def Written (front back : List String) (n : Nat) (d : Option Nat) (text : String) : Prop :=
  ∃ before numbers after, Spaced front before ∧ Numbers n d numbers ∧ Spaced back after ∧
    text.toList = before ++ '(' :: (numbers ++ ')' :: after)

theorem parse_written (named : ∀ word ∈ front ++ back, IsWord word) (written : Written front back n d text) :
    parse text = ⟨joinWith " " (front ++ back), some n, d⟩ := by
  obtain ⟨before, numbers, after, opens, numbered, closes, chars⟩ := written
  obtain ⟨front_named, back_named⟩ := List.forall_mem_append.mp named
  -- No parenthesis is opened in front of this one, so that it is the first to be found, and none is left behind it.
  have behind := unopened_of_spaced front_named opens
  have found : findNumbers? text.toList = some (n, d) := by
    rw [chars, findNumbers?_behind behind, findNumbers?, if_pos rfl, numbersAt?_numbers numbered]
    rfl
  have left : words (blankParentheses text.toList) = (front ++ back).map String.toList := by
    rw [chars, blankParentheses_behind behind, blankParentheses_opened numbered.unclosed,
      blankParentheses_unopened (unopened_of_spaced back_named closes), words_cut (by decide),
      words_of_spaced front_named opens, words_of_spaced back_named closes, List.map_append]
  rw [parse, found, left, map_ofList_toList]
  rfl

theorem base_parse_spaced {parts : List String} (named : ∀ part ∈ parts, IsWord part)
    (spaced : Spaced parts text.toList) : (parse text).base = joinWith " " parts := by
  rw [parse, blankParentheses_unopened (unopened_of_spaced named spaced), words_of_spaced named spaced,
    map_ofList_toList]

theorem Written.lower (written : Written front back n d text) :
    Written (front.map Text.lower) (back.map Text.lower) n d (lower text) := by
  obtain ⟨before, numbers, after, opens, numbered, closes, chars⟩ := written
  refine ⟨_, numbers, _, opens.lower, numbered, closes.lower, ?_⟩
  rw [Text.lower, String.toList_ofList, chars, endsWord_opening.lowerChars_cut, endsWord_closing.lowerChars_cut,
    numbered.lower]

/-- What is written for a type with a size, and with digits where they are shown. -/
theorem written_sized (parts : List String) (positive : 0 < n) (d : Option Nat) (positiveDigits : Bool) :
    Written parts [] n (d.filter fun d => 0 < d || !positiveDigits)
      (Compiler.sized (joinWith " " parts) (some n) (d.map Int.ofNat) positiveDigits) := by
  have spaced := spaced_joinWith parts
  have shown (n : Nat) : (toString (n : Int)).toList = Nat.toDigits 10 n := Nat.toList_repr
  have given : Compiler.givenSize (some (n : Int)) = some (n : Int) := by
    simp [Compiler.givenSize, positive.ne']
  have size : Written parts [] n none (joinWith " " parts ++ "(" ++ toString (n : Int) ++ ")") := by
    refine ⟨_, _, _, spaced, .size, .nothing, ?_⟩
    simp only [String.toList_append, shown, List.append_assoc]
    rfl
  have both (d : Nat) : Written parts [] n (some d)
      (joinWith " " parts ++ "(" ++ toString (n : Int) ++ "," ++ toString (d : Int) ++ ")") := by
    refine ⟨_, _, _, spaced, .digits d [] [] nofun nofun, .nothing, ?_⟩
    simp only [String.toList_append, shown, List.append_assoc]
    rfl
  rw [Compiler.sized, given]
  cases d with
  | none => exact size
  | some d =>
      have asked : (decide ((d : Int) > 0) || !positiveDigits) = (decide (0 < d) || !positiveDigits) := by
        simp only [gt_iff_lt, Int.natCast_pos]
      change Written parts [] n _ (if decide ((d : Int) > 0) || !positiveDigits then _ else _)
      rw [asked, Option.filter_some]
      split
      · exact both d
      · exact size

theorem parse_sized {parts : List String} (named : ∀ part ∈ parts, IsWord part) (positive : 0 < n) (d : Option Nat)
    (positiveDigits : Bool) :
    parse (Compiler.sized (joinWith " " parts) (some n) (d.map Int.ofNat) positiveDigits) =
      ⟨joinWith " " parts, some n, d.filter fun d => 0 < d || !positiveDigits⟩ := by
  have alone : parts ++ [] = parts := List.append_nil parts
  have parsed := parse_written (alone.symm ▸ named) (written_sized parts positive d positiveDigits)
  rwa [alone] at parsed

theorem base_parse_lower {parts : List String} {name : String} (named : ∀ part ∈ parts, IsWord part)
    (spells : Spells parts name) : (parse (lower name)).base = joinWith " " (parts.map lower) := by
  obtain ⟨text, spaced, same⟩ := spells
  have lowered : (lower name).toList = lowerChars text.toList := by
    rw [same.lower, Text.lower, String.toList_ofList]
  exact base_parse_spaced (forall_lower named) (lowered ▸ spaced.lower)

theorem parse_lower_written {spelled : String} (named : ∀ word ∈ front ++ back, IsWord word)
    (written : Written front back n d text) (same : SameLetters spelled text) :
    parse (lower spelled) = ⟨joinWith " " ((front ++ back).map lower), some n, d⟩ := by
  have others := forall_lower named
  rw [List.map_append] at others ⊢
  rw [same.lower]
  exact parse_written others written.lower

end DeclaredType

namespace Category

open Text DeclaredType

/-- The category of the words of a type with a size. -/
def ofSized (base : String) (size : Option Int) : Category :=
  if base = "tinyint" && size == some 1 then bit else ofWords base

theorem ofDeclared_eq (typeName : String) (size : Option Int) :
    ofDeclared typeName size = ofSized (parse (lower typeName)).base
      (size.orElse fun _ => (parse (lower typeName)).precision.map Int.ofNat) := by
  unfold ofDeclared
  split
  -- An empty name is not read at all, but no words have no category either.
  · rename_i empty
    have parsed : (parse (lower typeName)).base = "" := by
      rw [empty]
      decide +kernel
    have uncategorised : ofWords "" = other := by decide
    rw [parsed, ofSized, uncategorised]
    rfl
  · rfl

example : ofDeclared "TINYINT (1)" none = bit := by decide +kernel

end Category

end TableFerry
