import TableFerry.Text.Case
import TableFerry.Text.Search
/-! What changing the case of a text keeps. Points come from points only, and underscores from underscores, so
that the parts of a name are folded one by one; and only a capital sigma has a lower case that depends on the
characters around it. -/

namespace TableFerry.Text

/-! Characters that a table of cases leads to. -/

theorem toNat_ofNat {code : Nat} (valid : code.isValidChar) : (Char.ofNat code).toNat = code := by
  rw [Char.ofNat, dif_pos valid]
  rfl

/-- What holds of the first 128 code points one by one holds of every ASCII character. -/
theorem forall_ascii {motive : Char → Prop} (each : ∀ n < 128, motive (Char.ofNat n)) {c : Char}
    (small : c.toNat < 128) : motive c := by
  have own := each c.toNat small
  rwa [Char.ofNat_toNat] at own

theorem ofNat_eq {code other : Nat} (valid : code.isValidChar) (positive : 0 < code)
    (same : Char.ofNat other = Char.ofNat code) : other = code := by
  by_cases other_valid : other.isValidChar
  · rw [← toNat_ofNat other_valid, same, toNat_ofNat valid]
  · have zero : Char.ofNat other = Char.ofNat 0 := by
      rw [Char.ofNat, dif_neg other_valid]
      rfl
    have equal := congrArg Char.toNat (zero.symm.trans same)
    rw [toNat_ofNat valid, toNat_ofNat (by decide)] at equal
    omega

/-- Whether a run of code points leads to `code`. -/
def CaseRun.reaches (code : Nat) (run : CaseRun) : Bool := run.holds ((code : Int) - run.distance).toNat

/-- Whether tables of cases lead to `code` from some other character. -/
def reaches (runs : List CaseRun) (expansions : List (Nat × List Nat)) (code : Nat) : Bool :=
  runs.any (·.reaches code) || expansions.any fun entry => entry.2.contains code

theorem moveBy_ne {runs : List CaseRun} {code n : Nat} (positive : 0 < code)
    (unreached : runs.any (·.reaches code) = false) (other : n ≠ code) : moveBy runs n ≠ code := by
  unfold moveBy
  split
  · rename_i run found
    intro reached
    have held := List.find?_some found
    have origin : ((code : Int) - run.distance).toNat = n := by omega
    have unheld := List.any_eq_false.mp unreached run (List.mem_of_find?_eq_some found)
    rw [CaseRun.reaches, origin] at unheld
    exact unheld held
  · exact other

theorem not_mem_mapCase {runs : List CaseRun} {expansions : List (Nat × List Nat)} {code : Nat}
    (valid : code.isValidChar) (positive : 0 < code) (unreached : reaches runs expansions code = false)
    {c : Char} (other : c.toNat ≠ code) : Char.ofNat code ∉ mapCase runs expansions c := by
  obtain ⟨unmoved, unexpanded⟩ := Bool.or_eq_false_iff.mp unreached
  unfold mapCase
  split
  · rename_i codes found
    intro member
    obtain ⟨n, present, same⟩ := List.mem_map.mp member
    obtain ⟨before, after, table, _⟩ := List.lookup_eq_some_iff.mp found
    have listed : (c.toNat, codes) ∈ expansions := by
      rw [table]
      exact List.mem_append_right _ List.mem_cons_self
    have absent := List.any_eq_false.mp unexpanded _ listed
    rw [ofNat_eq valid positive same] at present
    exact absent (List.contains_iff_mem.mpr present)
  · intro member
    exact moveBy_ne positive unmoved other (ofNat_eq valid positive (List.mem_singleton.mp member).symm)

/-! Single characters. -/

/-- Changing the case of a character: by a function in ASCII, and otherwise by a table. -/
def foldChar (change : Char → Char) (runs : List CaseRun) (expansions : List (Nat × List Nat)) (c : Char) :
    List Char :=
  if c.toNat < 128 then [change c] else mapCase runs expansions c

theorem upperChar_eq : upperChar = foldChar Char.toUpper upperRuns upperExpansions := rfl

theorem lowerChar_eq : lowerChar = foldChar Char.toLower lowerRuns lowerExpansions := rfl

theorem not_mem_foldChar {change : Char → Char} {runs : List CaseRun} {expansions : List (Nat × List Nat)}
    {mark : Char} (positive : 0 < mark.toNat) (ascii : ∀ n < 128, change (Char.ofNat n) = mark → Char.ofNat n = mark)
    (unreached : reaches runs expansions mark.toNat = false) {c : Char} (other : c ≠ mark) :
    mark ∉ foldChar change runs expansions c := by
  have origin : c.toNat ≠ mark.toNat := fun same => other (Char.toNat_inj.mp same)
  have valid : mark.toNat.isValidChar := mark.valid
  have unmoved := not_mem_mapCase valid positive unreached origin
  rw [Char.ofNat_toNat] at unmoved
  unfold foldChar
  split
  · rename_i small
    have own := forall_ascii (motive := fun c => change c = mark → c = mark) ascii small
    rw [List.mem_singleton]
    exact fun same => other (own same.symm)
  · exact unmoved

theorem mem_foldChar_iff {change : Char → Char} {runs : List CaseRun} {expansions : List (Nat × List Nat)}
    {mark : Char} (code : 0 < mark.toNat ∧ mark.toNat < 128) (kept : change mark = mark)
    (ascii : ∀ n < 128, change (Char.ofNat n) = mark → Char.ofNat n = mark)
    (unreached : reaches runs expansions mark.toNat = false) (c : Char) :
    mark ∈ foldChar change runs expansions c ↔ c = mark := by
  constructor
  · intro member
    exact Decidable.byContradiction fun other => not_mem_foldChar code.1 ascii unreached other member
  · intro same
    rw [same, foldChar, if_pos code.2, kept]
    exact List.mem_singleton_self _

/-- A mark that changing the case leaves as it is and makes of nothing else. -/
structure Caseless (mark : Char) : Prop where
  upper : ∀ c, mark ∈ upperChar c ↔ c = mark
  lower : ∀ c, mark ∈ lowerChar c ↔ c = mark

theorem caseless_ascii {mark : Char} (code : 0 < mark.toNat ∧ mark.toNat < 128)
    (kept : mark.toUpper = mark ∧ mark.toLower = mark)
    (raised : ∀ n < 128, (Char.ofNat n).toUpper = mark → Char.ofNat n = mark)
    (lowered : ∀ n < 128, (Char.ofNat n).toLower = mark → Char.ofNat n = mark)
    (unreached : reaches upperRuns upperExpansions mark.toNat = false ∧
      reaches lowerRuns lowerExpansions mark.toNat = false) : Caseless mark := by
  constructor
  · rw [upperChar_eq]
    exact mem_foldChar_iff code kept.1 raised unreached.1
  · rw [lowerChar_eq]
    exact mem_foldChar_iff code kept.2 lowered unreached.2

theorem caseless_dot : Caseless '.' :=
  caseless_ascii (by decide) (by decide) (by decide) (by decide) (by decide +kernel)

theorem caseless_underscore : Caseless '_' :=
  caseless_ascii (by decide) (by decide) (by decide) (by decide) (by decide +kernel)

theorem caseless_opening : Caseless '(' :=
  caseless_ascii (by decide) (by decide) (by decide) (by decide) (by decide +kernel)

theorem lowerChar_capitalSigma : lowerChar capitalSigma = [Char.ofNat 0x3c3] := by decide

theorem upperChar_capitalSigma : upperChar capitalSigma = [capitalSigma] := by decide

theorem capitalSigma_not_mem_lowerChar (c : Char) : capitalSigma ∉ lowerChar c := by
  by_cases same : c = capitalSigma
  · rw [same, lowerChar_capitalSigma]
    decide
  · rw [lowerChar_eq]
    exact not_mem_foldChar (by decide) (by decide) (by decide +kernel) same

/-! Texts. -/

theorem upperChars_append (before after : List Char) :
    upperChars (before ++ after) = upperChars before ++ upperChars after :=
  List.flatMap_append

theorem upperChars_dot (before after : List Char) :
    upperChars (before ++ '.' :: after) = upperChars before ++ '.' :: upperChars after := by
  rw [upperChars_append]
  rfl

theorem Caseless.mem_upperChars {mark : Char} (caseless : Caseless mark) (cs : List Char) :
    mark ∈ upperChars cs ↔ mark ∈ cs := by
  simp [upperChars, List.mem_flatMap, caseless.upper]

theorem capitalSigma_mem_upperChars {cs : List Char} (present : capitalSigma ∈ cs) :
    capitalSigma ∈ upperChars cs := by
  apply List.mem_flatMap.mpr
  refine ⟨capitalSigma, present, ?_⟩
  rw [upperChar_capitalSigma]
  exact List.mem_singleton.mpr rfl

/-- What one character in front of `after` becomes in lower case. -/
def lowerAt (before : List Char) (c : Char) (after : List Char) : List Char :=
  if c = capitalSigma then
    if meetsCased before && !meetsCased after then [finalSigma] else lowerChar c
  else lowerChar c

theorem lowerFrom_cons (before : List Char) (c : Char) (cs : List Char) :
    lowerFrom before (c :: cs) = lowerAt before c cs ++ lowerFrom (c :: before) cs := rfl

theorem not_mem_lowerAt {before after : List Char} {c other : Char} (final : other ≠ finalSigma)
    (unreached : other ∉ lowerChar c) : other ∉ lowerAt before c after := by
  unfold lowerAt
  split
  · split
    · exact fun member => final (List.mem_singleton.mp member)
    · exact unreached
  · exact unreached

theorem Caseless.mem_lowerAt {mark : Char} (caseless : Caseless mark) (before after : List Char) (c : Char) :
    mark ∈ lowerAt before c after ↔ c = mark := by
  have unfinal : mark ≠ finalSigma := by
    intro same
    exact absurd ((caseless.upper mark).mpr rfl) (by rw [same]; decide +kernel)
  have unsigma : capitalSigma ≠ mark := by
    intro same
    exact capitalSigma_not_mem_lowerChar mark (same.symm ▸ (caseless.lower mark).mpr rfl)
  unfold lowerAt
  split
  · rename_i sigma
    split
    · simp [unfinal, sigma, unsigma]
    · exact caseless.lower c
  · exact caseless.lower c

theorem Caseless.mem_lowerFrom {mark : Char} (caseless : Caseless mark) (before cs : List Char) :
    mark ∈ lowerFrom before cs ↔ mark ∈ cs := by
  induction cs generalizing before with
  | nil => rfl
  | cons c cs ih => rw [lowerFrom_cons, List.mem_append, caseless.mem_lowerAt, ih, List.mem_cons, eq_comm]

theorem capitalSigma_not_mem_lowerFrom (before cs : List Char) : capitalSigma ∉ lowerFrom before cs := by
  induction cs generalizing before with
  | nil => exact List.not_mem_nil
  | cons head tail ih =>
      rw [lowerFrom_cons, List.mem_append]
      intro member
      rcases member with own | later
      · exact not_mem_lowerAt (by decide) (capitalSigma_not_mem_lowerChar head) own
      · exact ih (head :: before) later

/-- Without a capital sigma every character has a lower case of its own, whatever stands before it. -/
theorem lowerFrom_without_sigma {cs : List Char} (before : List Char) (absent : capitalSigma ∉ cs) :
    lowerFrom before cs = cs.flatMap lowerChar := by
  induction cs generalizing before with
  | nil => rfl
  | cons head tail ih =>
      have other := List.ne_of_not_mem_cons absent
      have rest := List.not_mem_of_not_mem_cons absent
      rw [lowerFrom_cons, lowerAt, if_neg (Ne.symm other), ih _ rest, List.flatMap_cons]

theorem lowerFrom_dot (before cs after : List Char) :
    ∃ front, lowerFrom before (cs ++ '.' :: after) =
      front ++ '.' :: lowerFrom ('.' :: (cs.reverse ++ before)) after := by
  induction cs generalizing before with
  | nil => exact ⟨[], rfl⟩
  | cons head tail ih =>
      obtain ⟨front, tail_folded⟩ := ih (head :: before)
      refine ⟨lowerAt before head (tail ++ '.' :: after) ++ front, ?_⟩
      rw [List.cons_append, lowerFrom_cons, tail_folded, List.append_assoc, List.reverse_cons,
        List.append_assoc]
      rfl

/-- A text in lower case is the text itself or its upper case, or neither, whatever stands before it. -/
theorem lowerFrom_found_iff (before cs : List Char) :
    (lowerFrom before cs = cs ∨ lowerFrom before cs = upperChars cs) ↔
      (lowerChars cs = cs ∨ lowerChars cs = upperChars cs) := by
  by_cases present : capitalSigma ∈ cs
  · have upper := capitalSigma_mem_upperChars present
    have missed (before : List Char) :
        ¬(lowerFrom before cs = cs ∨ lowerFrom before cs = upperChars cs) := by
      have absent := capitalSigma_not_mem_lowerFrom before cs
      intro found
      rcases found with same | same
      · rw [same] at absent
        exact absent present
      · rw [same] at absent
        exact absent upper
    exact ⟨fun found => absurd found (missed before), fun found => absurd found (missed [])⟩
  · rw [lowerChars, lowerFrom_without_sigma before present, lowerFrom_without_sigma [] present]

/-- A mark that ends a word and stays as it is: what stands before it does not count for a sigma behind it. -/
structure EndsWord (mark : Char) : Prop where
  unignored : isCaseIgnorable mark = false
  uncased : isCased mark = false
  lowered : ∀ before after, lowerAt before mark after = [mark]

theorem endsWord_space : EndsWord ' ' := ⟨by decide +kernel, by decide +kernel, fun _ _ => rfl⟩

theorem endsWord_underscore : EndsWord '_' := ⟨by decide +kernel, by decide +kernel, fun _ _ => rfl⟩

theorem endsWord_opening : EndsWord '(' := ⟨by decide +kernel, by decide +kernel, fun _ _ => rfl⟩

theorem endsWord_closing : EndsWord ')' := ⟨by decide +kernel, by decide +kernel, fun _ _ => rfl⟩

section

variable {mark : Char} (ends : EndsWord mark)
include ends

theorem EndsWord.meetsCased_cut (cs more : List Char) : meetsCased (cs ++ mark :: more) = meetsCased cs := by
  induction cs with
  | nil =>
      rw [List.nil_append, meetsCased,
        List.dropWhile_cons_of_neg (by rw [ends.unignored]; exact Bool.false_ne_true)]
      exact ends.uncased
  | cons head tail ih =>
      rw [List.cons_append, meetsCased, meetsCased, List.dropWhile_cons, List.dropWhile_cons]
      cases isCaseIgnorable head with
      | true => exact ih
      | false => rfl

theorem EndsWord.lowerFrom_behind (before more cs : List Char) :
    lowerFrom (before ++ mark :: more) cs = lowerFrom before cs := by
  induction cs generalizing before with
  | nil => rfl
  | cons head tail ih =>
      have own : lowerAt (before ++ mark :: more) head tail = lowerAt before head tail := by
        rw [lowerAt, lowerAt, ends.meetsCased_cut]
      rw [lowerFrom_cons, lowerFrom_cons, own, ← List.cons_append, ih]

theorem EndsWord.lowerFrom_cut (before cs after : List Char) :
    lowerFrom before (cs ++ mark :: after) = lowerFrom before cs ++ mark :: lowerChars after := by
  induction cs generalizing before with
  | nil =>
      rw [List.nil_append, lowerFrom_cons, ends.lowered]
      exact congrArg ([mark] ++ ·) (ends.lowerFrom_behind [] before after)
  | cons head tail ih =>
      have own : lowerAt before head (tail ++ mark :: after) = lowerAt before head tail := by
        rw [lowerAt, lowerAt, ends.meetsCased_cut]
      rw [List.cons_append, lowerFrom_cons, lowerFrom_cons, own, ih, List.append_assoc]

/-- Texts with such a mark between them are folded one by one. -/
theorem EndsWord.lowerChars_cut (before after : List Char) :
    lowerChars (before ++ mark :: after) = lowerChars before ++ mark :: lowerChars after :=
  ends.lowerFrom_cut [] before after

end

end TableFerry.Text
