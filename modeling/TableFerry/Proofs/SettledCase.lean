import Mathlib.Data.List.Forall2
import TableFerry.Proofs.CaseFolding
import TableFerry.Text.Blank
/-! Where the tables of cases lead: never to a blank, and never to a code point that they change again. So blanks
come from blanks, and folding a text twice is folding it once. ASCII letters have one lower case in either case. -/

namespace TableFerry.Text

/-! Sets of code points, compared as numbers. -/

/-- A number with one bit for each point. -/
def bits (points : List Nat) : Nat := points.foldr (fun point mask => 1 <<< point ||| mask) 0

theorem testBit_bits {points : List Nat} {n : Nat} (member : n ∈ points) : (bits points).testBit n = true := by
  induction points with
  | nil => cases member
  | cons head tail ih =>
      rw [bits, List.foldr_cons, Nat.testBit_or, Bool.or_eq_true]
      rcases List.mem_cons.mp member with rfl | later
      · left
        rw [Nat.one_shiftLeft, Nat.testBit_two_pow_self]
      · exact Or.inr (ih later)

theorem disjoint_of_bits {one other : List Nat} (apart : bits one &&& bits other = 0) {n : Nat} (member : n ∈ one) :
    n ∉ other := by
  intro also
  have both : (bits one &&& bits other).testBit n = true := by
    rw [Nat.testBit_and, testBit_bits member, testBit_bits also]
    rfl
  rw [apart, Nat.zero_testBit] at both
  cases both

/-- The code points of the blank characters. -/
def blankCodes : List Nat :=
  List.range' 9 5 ++ List.range' 28 5 ++ [0x85, 0xa0, 0x1680] ++ List.range' 0x2000 11 ++
    [0x2028, 0x2029, 0x202f, 0x205f, 0x3000]

theorem mem_blankCodes {blank : Char} (blanks : isBlankChar blank = true) : blank.toNat ∈ blankCodes := by
  simp only [isBlankChar, Bool.or_eq_true, Bool.and_eq_true, decide_eq_true_eq, beq_iff_eq] at blanks
  simp only [blankCodes, List.mem_append, List.mem_range'_1, List.mem_cons, List.not_mem_nil]
  omega

/-! What a table changes and where it leads. -/

def CaseRun.points (run : CaseRun) : List Nat :=
  (List.range ((run.last - run.first) / run.step + 1)).map fun i => run.first + i * run.step

theorem CaseRun.mem_points {run : CaseRun} {n : Nat} (held : run.holds n = true) : n ∈ run.points := by
  simp only [CaseRun.holds, Bool.and_eq_true, decide_eq_true_eq, beq_iff_eq] at held
  obtain ⟨⟨from_first, to_last⟩, even⟩ := held
  apply List.mem_map.mpr
  refine ⟨(n - run.first) / run.step, ?_, ?_⟩
  · rw [List.mem_range, Nat.lt_succ_iff]
    exact Nat.div_le_div_right (by omega)
  · rw [Nat.div_mul_cancel (Nat.dvd_of_mod_eq_zero even)]
    omega

variable (runs : List CaseRun) (expansions : List (Nat × List Nat))

def sources : List Nat := runs.flatMap CaseRun.points ++ expansions.map (·.1)

def targets : List Nat :=
  (runs.flatMap fun run => run.points.map fun (n : Nat) => (n + run.distance).toNat) ++ expansions.flatMap (·.2)

variable {runs expansions}

theorem mapCase_unchanged {c : Char} (unchanged : c.toNat ∉ sources runs expansions) :
    mapCase runs expansions c = [c] := by
  rw [sources, List.mem_append, not_or] at unchanged
  have unlisted : expansions.lookup c.toNat = none := by
    rw [List.lookup_eq_none_iff]
    intro entry member
    rw [bne_iff_ne]
    intro same
    exact unchanged.2 (same ▸ List.mem_map_of_mem member)
  have unmoved : runs.find? (·.holds c.toNat) = none := by
    rw [List.find?_eq_none]
    intro run member held
    exact unchanged.1 (List.mem_flatMap_of_mem member (CaseRun.mem_points held))
  simp only [mapCase, unlisted, moveBy, unmoved, Char.ofNat_toNat]

/-- A character is left alone, or it becomes what the table leads to. -/
theorem mapCase_cases (runs : List CaseRun) (expansions : List (Nat × List Nat)) (c : Char) :
    mapCase runs expansions c = [c] ∨
      ∀ d ∈ mapCase runs expansions c, ∃ code ∈ targets runs expansions, d = Char.ofNat code := by
  unfold mapCase
  split
  · rename_i codes found
    right
    intro d member
    obtain ⟨code, present, rfl⟩ := List.mem_map.mp member
    obtain ⟨before, after, table, _⟩ := List.lookup_eq_some_iff.mp found
    have listed : (c.toNat, codes) ∈ expansions := by
      rw [table]
      exact List.mem_append_right _ List.mem_cons_self
    exact ⟨code, List.mem_append_right _ (List.mem_flatMap_of_mem listed present), rfl⟩
  · unfold moveBy
    split
    · rename_i run found
      right
      intro d member
      have held := List.find?_some found
      refine ⟨_, List.mem_append_left _ ?_, List.mem_singleton.mp member⟩
      apply List.mem_flatMap_of_mem (List.mem_of_find?_eq_some found)
      exact List.mem_map_of_mem (CaseRun.mem_points held)
    · left
      rw [Char.ofNat_toNat]

theorem toNat_ofNat_mem {code : Nat} {codes : List Nat} (member : code ∈ codes) :
    (Char.ofNat code).toNat ∈ 0 :: codes := by
  by_cases valid : code.isValidChar
  · rw [toNat_ofNat valid]
    exact List.mem_cons_of_mem _ member
  · rw [Char.ofNat, dif_neg valid]
    exact List.mem_cons_self

/-- If a table leads to nothing that it changes, and agrees with the function on ASCII, then changing twice is
changing once. -/
theorem foldChar_settled {change : Char → Char}
    (settled : ∀ n ∈ 0 :: targets runs expansions, n ∉ sources runs expansions)
    (small : ∀ n < 128, (change (Char.ofNat n)).toNat < 128)
    (again : ∀ n < 128, change (change (Char.ofNat n)) = change (Char.ofNat n))
    (listed : ∀ n < 128, change (Char.ofNat n) = Char.ofNat n ∨ n ∈ sources runs expansions) {c d : Char}
    (member : d ∈ foldChar change runs expansions c) : foldChar change runs expansions d = [d] := by
  by_cases ascii : c.toNat < 128
  · rw [foldChar, if_pos ascii, List.mem_singleton] at member
    rw [member, foldChar, if_pos (forall_ascii (motive := fun c => (change c).toNat < 128) small ascii),
      forall_ascii (motive := fun c => change (change c) = change c) again ascii]
  · rw [foldChar, if_neg ascii] at member
    rcases mapCase_cases runs expansions c with unchanged | changed
    · rw [unchanged, List.mem_singleton] at member
      rw [member, foldChar, if_neg ascii, unchanged]
    · obtain ⟨code, among, rfl⟩ := changed d member
      have unlisted := settled _ (toNat_ofNat_mem among)
      unfold foldChar
      split
      · rename_i low
        have kept := (listed _ low).resolve_right unlisted
        rw [Char.ofNat_toNat] at kept
        rw [kept]
      · exact mapCase_unchanged unlisted

/-- If a table leads to no blank, then blanks come from themselves only. -/
theorem eq_of_blank_mem_foldChar {change : Char → Char}
    (unreached : ∀ n ∈ 0 :: targets runs expansions, n ∉ blankCodes)
    (ascii : ∀ n < 128, isBlankChar (change (Char.ofNat n)) = true → Char.ofNat n = change (Char.ofNat n))
    {blank c : Char} (blanks : isBlankChar blank = true) (member : blank ∈ foldChar change runs expansions c) :
    c = blank := by
  by_cases small : c.toNat < 128
  · rw [foldChar, if_pos small, List.mem_singleton] at member
    rw [member] at blanks ⊢
    exact forall_ascii (motive := fun c => isBlankChar (change c) = true → c = change c) ascii small blanks
  · rw [foldChar, if_neg small] at member
    rcases mapCase_cases runs expansions c with unchanged | changed
    · rw [unchanged, List.mem_singleton] at member
      exact member.symm
    · obtain ⟨code, among, rfl⟩ := changed blank member
      exact absurd (mem_blankCodes blanks) (unreached _ (toNat_ofNat_mem among))

/-! Both tables. -/

theorem upper_apart : ∀ n ∈ 0 :: targets upperRuns upperExpansions,
    n ∉ sources upperRuns upperExpansions ++ blankCodes :=
  fun _ => disjoint_of_bits (by decide +kernel)

theorem lower_apart : ∀ n ∈ 0 :: targets lowerRuns lowerExpansions,
    n ∉ sources lowerRuns lowerExpansions ++ blankCodes :=
  fun _ => disjoint_of_bits (by decide +kernel)

theorem upperChar_settled {c d : Char} (member : d ∈ upperChar c) : upperChar d = [d] := by
  have letters : ∀ n < 128, (Char.ofNat n).toUpper = Char.ofNat n ∨ CaseRun.holds ⟨0x61, 0x7a, 1, -32⟩ n := by decide
  rw [upperChar_eq] at member ⊢
  apply foldChar_settled _ (by decide) (by decide) _ member
  · exact fun n among source => upper_apart n among (List.mem_append_left _ source)
  · exact fun n small => (letters n small).imp id fun held =>
      List.mem_append_left _ (List.mem_flatMap_of_mem List.mem_cons_self (CaseRun.mem_points held))

theorem lowerChar_settled {c d : Char} (member : d ∈ lowerChar c) : lowerChar d = [d] := by
  have letters : ∀ n < 128, (Char.ofNat n).toLower = Char.ofNat n ∨ CaseRun.holds ⟨0x41, 0x5a, 1, 32⟩ n := by decide
  rw [lowerChar_eq] at member ⊢
  apply foldChar_settled _ (by decide) (by decide) _ member
  · exact fun n among source => lower_apart n among (List.mem_append_left _ source)
  · exact fun n small => (letters n small).imp id fun held =>
      List.mem_append_left _ (List.mem_flatMap_of_mem List.mem_cons_self (CaseRun.mem_points held))

theorem eq_of_blank_mem_upperChar {blank c : Char} (blanks : isBlankChar blank = true)
    (member : blank ∈ upperChar c) : c = blank := by
  rw [upperChar_eq] at member
  apply eq_of_blank_mem_foldChar _ (by decide) blanks member
  exact fun n among coded => upper_apart n among (List.mem_append_right _ coded)

theorem eq_of_blank_mem_lowerChar {blank c : Char} (blanks : isBlankChar blank = true)
    (member : blank ∈ lowerChar c) : c = blank := by
  rw [lowerChar_eq] at member
  apply eq_of_blank_mem_foldChar _ (by decide) blanks member
  exact fun n among coded => lower_apart n among (List.mem_append_right _ coded)

theorem upperChar_blank {blank : Char} (blanks : isBlankChar blank = true) : upperChar blank = [blank] := by
  have kept : ∀ code ∈ blankCodes, upperChar (Char.ofNat code) = [Char.ofNat code] := by decide +kernel
  have own := kept _ (mem_blankCodes blanks)
  rwa [Char.ofNat_toNat] at own

theorem lowerChar_blank {blank : Char} (blanks : isBlankChar blank = true) : lowerChar blank = [blank] := by
  have kept : ∀ code ∈ blankCodes, lowerChar (Char.ofNat code) = [Char.ofNat code] := by decide +kernel
  have own := kept _ (mem_blankCodes blanks)
  rwa [Char.ofNat_toNat] at own

/-! Texts. -/

theorem lowerFrom_settled {before cs : List Char} {d : Char} (member : d ∈ lowerFrom before cs) :
    lowerChar d = [d] := by
  induction cs generalizing before with
  | nil => cases member
  | cons head tail ih =>
      rw [lowerFrom_cons, List.mem_append] at member
      rcases member with own | later
      · unfold lowerAt at own
        split at own
        · split at own
          · rw [List.mem_singleton.mp own]
            decide
          · exact lowerChar_settled own
        · exact lowerChar_settled own
      · exact ih later

theorem lowerChars_settled {cs : List Char} (settled : ∀ c ∈ cs, lowerChar c = [c]) : lowerChars cs = cs := by
  have absent : capitalSigma ∉ cs := fun member => absurd (settled _ member) (by decide)
  rw [lowerChars, lowerFrom_without_sigma [] absent, List.flatMap_congr settled, List.flatMap_singleton']

theorem lower_lower (s : String) : lower (lower s) = lower s := by
  have settled : lowerChars (lowerChars s.toList) = lowerChars s.toList :=
    lowerChars_settled fun _ member => lowerFrom_settled member
  rw [lower, lower, String.toList_ofList, settled]

theorem upper_upper (s : String) : upper (upper s) = upper s := by
  have each : (upperChars s.toList).flatMap upperChar = (upperChars s.toList).flatMap fun d => [d] := by
    apply List.flatMap_congr
    intro d member
    obtain ⟨c, _, reached⟩ := List.mem_flatMap.mp member
    exact upperChar_settled reached
  rw [upper, upper, String.toList_ofList, upperChars, each, List.flatMap_singleton']

theorem caseless_blank {blank : Char} (blanks : isBlankChar blank = true) : Caseless blank := by
  constructor
  · intro c
    refine ⟨eq_of_blank_mem_upperChar blanks, fun same => ?_⟩
    rw [same, upperChar_blank blanks]
    exact List.mem_singleton_self _
  · intro c
    refine ⟨eq_of_blank_mem_lowerChar blanks, fun same => ?_⟩
    rw [same, lowerChar_blank blanks]
    exact List.mem_singleton_self _

theorem endsWord_blank {blank : Char} (blanks : isBlankChar blank = true) : EndsWord blank := by
  have plain : ∀ code ∈ blankCodes, isCaseIgnorable (Char.ofNat code) = false ∧ isCased (Char.ofNat code) = false ∧
      Char.ofNat code ≠ capitalSigma := by
    decide +kernel
  obtain ⟨unignored, uncased, other⟩ := plain _ (mem_blankCodes blanks)
  rw [Char.ofNat_toNat] at unignored uncased other
  refine ⟨unignored, uncased, fun before after => ?_⟩
  rw [lowerAt, if_neg other, lowerChar_blank blanks]

/-- A text in lower case has the blanks of the text itself. -/
theorem blank_mem_lowerFrom {blank : Char} (blanks : isBlankChar blank = true) (before cs : List Char) :
    blank ∈ lowerFrom before cs ↔ blank ∈ cs :=
  (caseless_blank blanks).mem_lowerFrom before cs

theorem foldChar_ne_nil {change : Char → Char} {runs : List CaseRun} {expansions : List (Nat × List Nat)}
    (expanded : ∀ entry ∈ expansions, entry.2 ≠ []) (c : Char) : foldChar change runs expansions c ≠ [] := by
  unfold foldChar
  split
  · exact List.cons_ne_nil _ _
  · unfold mapCase
    split
    · rename_i codes found
      obtain ⟨before, after, table, _⟩ := List.lookup_eq_some_iff.mp found
      rw [ne_eq, List.map_eq_nil_iff]
      apply expanded (c.toNat, codes)
      rw [table]
      exact List.mem_append_right _ List.mem_cons_self
    · exact List.cons_ne_nil _ _

theorem upperChar_ne_nil (c : Char) : upperChar c ≠ [] := by
  rw [upperChar_eq]
  exact foldChar_ne_nil (by decide) c

theorem lowerChar_ne_nil (c : Char) : lowerChar c ≠ [] := by
  rw [lowerChar_eq]
  exact foldChar_ne_nil (by decide) c

theorem upper_ne_empty {s : String} (filled : s ≠ "") : upper s ≠ "" := by
  obtain ⟨head, tail, chars⟩ := List.exists_cons_of_ne_nil fun empty => filled (String.toList_eq_nil_iff.mp empty)
  intro empty
  have none := congrArg String.toList empty
  rw [upper, String.toList_ofList, chars, upperChars, List.flatMap_cons] at none
  exact upperChar_ne_nil head (List.append_eq_nil_iff.mp none).1

theorem lower_ne_empty {s : String} (filled : s ≠ "") : lower s ≠ "" := by
  obtain ⟨head, tail, chars⟩ := List.exists_cons_of_ne_nil fun empty => filled (String.toList_eq_nil_iff.mp empty)
  have own : lowerAt [] head tail ≠ [] := by
    unfold lowerAt
    split
    · split
      · exact List.cons_ne_nil _ _
      · exact lowerChar_ne_nil head
    · exact lowerChar_ne_nil head
  intro empty
  have none := congrArg String.toList empty
  rw [lower, String.toList_ofList, chars, lowerChars, lowerFrom_cons] at none
  exact own (List.append_eq_nil_iff.mp none).1

/-! Texts of ASCII characters only. -/

def IsAscii (cs : List Char) : Prop := ∀ c ∈ cs, c.toNat < 128

instance (cs : List Char) : Decidable (IsAscii cs) := List.decidableBAll _ cs

variable {cs : List Char}

theorem upperChars_ascii (ascii : IsAscii cs) : upperChars cs = cs.map Char.toUpper := by
  rw [upperChars, List.map_eq_flatMap]
  apply List.flatMap_congr
  intro c member
  rw [upperChar, if_pos (ascii c member)]

theorem lowerChars_ascii (ascii : IsAscii cs) : lowerChars cs = cs.map Char.toLower := by
  have absent : capitalSigma ∉ cs := fun member => absurd (ascii _ member) (by decide)
  rw [lowerChars, lowerFrom_without_sigma [] absent, List.map_eq_flatMap]
  apply List.flatMap_congr
  intro c member
  rw [lowerChar, if_pos (ascii c member)]

/-- The lower case of ASCII characters does not depend on what stands around them. -/
theorem lowerFrom_ascii (ascii : IsAscii cs) (before after : List Char) :
    cs.map Char.toLower <+: lowerFrom before (cs ++ after) := by
  induction cs generalizing before with
  | nil => exact List.nil_prefix
  | cons c rest ih =>
      have own : lowerAt before c (rest ++ after) = [c.toLower] := by
        have small := ascii c List.mem_cons_self
        have other : c ≠ capitalSigma := by
          rintro rfl
          exact absurd small (by decide)
        rw [lowerAt, if_neg other, lowerChar, if_pos small]
      rw [List.cons_append, lowerFrom_cons, own]
      exact List.prefix_cons_inj _ |>.mpr (ih (fun d member => ascii d (List.mem_cons_of_mem c member)) _)

theorem isAscii_upperChars (ascii : IsAscii cs) : IsAscii (upperChars cs) := by
  rw [upperChars_ascii ascii]
  intro d member
  obtain ⟨c, present, rfl⟩ := List.mem_map.mp member
  exact forall_ascii (motive := fun c => c.toUpper.toNat < 128) (by decide) (ascii c present)

theorem lowerChars_upperChars (ascii : IsAscii cs) : lowerChars (upperChars cs) = lowerChars cs := by
  rw [lowerChars_ascii (isAscii_upperChars ascii), lowerChars_ascii ascii, upperChars_ascii ascii, List.map_map]
  apply List.map_congr_left
  intro c member
  exact forall_ascii (motive := fun c => c.toUpper.toLower = c.toLower) (by decide) (ascii c member)

/-! Letters in either case. -/

/-- Two characters that are alike wherever they stand: they have the same lower case and the same effect on others. -/
structure Alike (one other : Char) : Prop where
  lower : lowerChar one = lowerChar other
  cased : isCased one = isCased other
  ignorable : isCaseIgnorable one = isCaseIgnorable other
  sigma : one = capitalSigma ↔ other = capitalSigma

theorem meetsCased_alike {one other : List Char} (alike : List.Forall₂ Alike one other) :
    meetsCased one = meetsCased other := by
  unfold meetsCased
  induction alike with
  | nil => rfl
  | @cons _ other _ _ head _ ih =>
      rw [List.dropWhile_cons, List.dropWhile_cons, head.ignorable]
      cases isCaseIgnorable other with
      | true => exact ih
      | false => exact head.cased

/-- The lower case of a text does not depend on which of two alike characters stands in it. -/
theorem lowerFrom_alike {before behind one other : List Char} (earlier : List.Forall₂ Alike before behind)
    (alike : List.Forall₂ Alike one other) : lowerFrom before one = lowerFrom behind other := by
  induction alike generalizing before behind with
  | nil => rfl
  | cons head rest ih =>
      rw [lowerFrom_cons, lowerFrom_cons, ih (.cons head earlier), lowerAt, lowerAt, meetsCased_alike earlier,
        meetsCased_alike rest, head.lower]
      simp only [head.sigma]

theorem alike_refl (c : Char) : Alike c c := ⟨rfl, rfl, rfl, Iff.rfl⟩

theorem alike_toLower (c : Char) : Alike c.toLower c := by
  by_cases ascii : c.toNat < 128
  · have each : ∀ n < 128, lowerChar (Char.ofNat n).toLower = lowerChar (Char.ofNat n) ∧
        isCased (Char.ofNat n).toLower = isCased (Char.ofNat n) ∧
        isCaseIgnorable (Char.ofNat n).toLower = isCaseIgnorable (Char.ofNat n) ∧
        ((Char.ofNat n).toLower = capitalSigma ↔ Char.ofNat n = capitalSigma) := by
      decide +kernel
    obtain ⟨lower, cased, ignorable, sigma⟩ := forall_ascii (motive := fun c => lowerChar c.toLower = lowerChar c ∧
      isCased c.toLower = isCased c ∧ isCaseIgnorable c.toLower = isCaseIgnorable c ∧
      (c.toLower = capitalSigma ↔ c = capitalSigma)) each ascii
    exact ⟨lower, cased, ignorable, sigma⟩
  · have kept : c.toLower = c := by
      unfold Char.toLower
      split
      · rename_i letter
        exact absurd (Nat.lt_of_le_of_lt (UInt32.le_iff_toNat_le.mp letter.2) (by decide)) ascii
      · rfl
    rw [kept]
    exact alike_refl c

end TableFerry.Text
