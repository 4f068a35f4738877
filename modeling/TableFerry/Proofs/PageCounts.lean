import TableFerry.Proofs.QuotientRounding
/-! When a number of pages is the exact one. The quotient of rows and page size is rounded to a double before it is
rounded up, so that the rows of the last page can get lost. The last theorem says for all numbers when they do not; up
to `2 ^ 53` rows they never do. -/

namespace TableFerry.Number.Double

theorem ceil_shiftedDown (bits whole shift : Nat) :
    ⌈(bits : ℚ) * 2 ^ (-(shift : Int))⌉ = whole + 1 ↔ whole * 2 ^ shift < bits ∧ bits ≤ (whole + 1) * 2 ^ shift := by
  have unit : (0 : ℚ) < 2 ^ shift := by positivity
  rw [zpow_neg, zpow_natCast, ← div_eq_mul_inv, Int.ceil_eq_iff, lt_div_iff₀ unit, div_le_iff₀ unit]
  push_cast
  rw [add_sub_cancel_right]
  constructor
  · rintro ⟨above, below⟩
    exact ⟨by exact_mod_cast above, by exact_mod_cast below⟩
  · rintro ⟨above, below⟩
    exact ⟨by exact_mod_cast above, by exact_mod_cast below⟩

variable {den full rest : Nat}

/-- With no bits lost above the point, a rounded quotient stays above the whole number below it if the rest is more than
half of the last bit, or a half of it next to an odd number. -/
theorem ceil_rounded_down {shift : Nat} (denPositive : 0 < den) (restPositive : 0 < rest) (rest_le : rest ≤ den)
    (exponent : exponentFor (full * den + rest) den = -(shift : Int)) :
    (roundedRatio (full * den + rest) den < 2 ^ 1024 ∧ ⌈roundedRatio (full * den + rest) den⌉ = full + 1) ↔
      den < rest * 2 ^ (shift + 1) ∨ den = rest * 2 ^ (shift + 1) ∧ full * 2 ^ shift % 2 = 1 := by
  have numPositive : 0 < full * den + rest := by omega
  have most := keptBits_le _ den numPositive denPositive
  have bits : keptBits (full * den + rest) den = nearestEven ((full * den + rest) * 2 ^ shift) den := by
    rw [keptBits, exponent, scaled_down]
  have limited : roundedRatio (full * den + rest) den < 2 ^ 1024 := by
    have power : (2 : ℚ) ^ (-(shift : Int)) ≤ 1 := zpow_le_one_of_nonpos₀ (by norm_num) (by omega)
    have bounded : (keptBits (full * den + rest) den : ℚ) ≤ 2 ^ 53 := by exact_mod_cast most
    calc
      roundedRatio (full * den + rest) den ≤ 2 ^ 53 * 1 := by
        rw [roundedRatio, exponent]
        gcongr
      _ < 2 ^ 1024 := by
        rw [mul_one]
        exact pow_lt_pow_right₀ (by norm_num) (by norm_num)
  have reached : nearestEven ((full * den + rest) * 2 ^ shift) den ≤ (full + 1) * 2 ^ shift := by
    apply nearestEven_le _ _ _ denPositive
    calc
      (full * den + rest) * 2 ^ shift ≤ (full * den + den) * 2 ^ shift := by gcongr
      _ = (full + 1) * 2 ^ shift * den := by ring
  have doubled : 2 * ((full * den + rest) * 2 ^ shift) = 2 * (full * 2 ^ shift * den) + rest * 2 ^ (shift + 1) := by ring
  rw [and_iff_right limited, roundedRatio, exponent, bits, ceil_shiftedDown, and_iff_left reached,
    lt_nearestEven_iff _ _ _ denPositive, doubled]
  omega

/-- With bits lost above the point, the next whole number is found if all of those bits of it are zero. -/
theorem ceil_rounded_up {shift : Nat} (denPositive : 0 < den) (restPositive : 0 < rest) (rest_le : rest ≤ den)
    (lost : 0 < shift) (exponent : exponentFor (full * den + rest) den = shift) :
    (roundedRatio (full * den + rest) den < 2 ^ 1024 ∧ ⌈roundedRatio (full * den + rest) den⌉ = full + 1) ↔
      2 ^ shift ∣ full + 1 ∧ full + 1 < 2 ^ 1024 := by
  have bits : keptBits (full * den + rest) den = nearestEven (full * den + rest) (den * 2 ^ shift) := by
    rw [keptBits, exponent, scaled_up]
  have value : roundedRatio (full * den + rest) den =
      ((nearestEven (full * den + rest) (den * 2 ^ shift) * 2 ^ shift : Nat) : ℚ) := by
    rw [roundedRatio, exponent, bits, zpow_natCast]
    push_cast
    rfl
  rw [value, Int.ceil_natCast]
  have scale : 0 < den * 2 ^ shift := Nat.mul_pos denPositive (Nat.pow_pos (by decide))
  have wide : den * 2 ^ 1 ≤ den * 2 ^ shift := Nat.mul_le_mul_left den (Nat.pow_le_pow_right (by decide) lost)
  have whole : nearestEven (full * den + rest) (den * 2 ^ shift) * 2 ^ shift = full + 1 ↔ 2 ^ shift ∣ full + 1 := by
    constructor
    · exact fun same => ⟨_, same.symm.trans (Nat.mul_comm _ _)⟩
    · rintro ⟨bits, same⟩
      have total : (full + 1) * den = bits * (den * 2 ^ shift) := by rw [same]; ring
      rw [Nat.succ_mul] at total
      generalize den * 2 ^ shift = unit at scale wide total ⊢
      have one_bit : 1 * unit ≤ bits * unit := by
        apply Nat.mul_le_mul_right
        by_contra none
        rw [show bits = 0 by omega] at same
        cases same
      have most : nearestEven (full * den + rest) unit ≤ bits := nearestEven_le _ _ _ scale (by omega)
      have least : bits - 1 < nearestEven (full * den + rest) unit := by
        rw [lt_nearestEven_iff _ _ _ scale, Nat.sub_mul]
        left
        omega
      have rounded : nearestEven (full * den + rest) unit = bits := by omega
      rw [rounded, same, Nat.mul_comm]
  constructor
  · rintro ⟨limited, reached⟩
    have same : nearestEven (full * den + rest) (den * 2 ^ shift) * 2 ^ shift = full + 1 := by exact_mod_cast reached
    rw [same] at limited
    exact ⟨whole.mp same, by exact_mod_cast limited⟩
  · rintro ⟨divides, limited⟩
    rw [whole.mpr divides]
    exact ⟨by exact_mod_cast limited, by push_cast; rfl⟩

/-- Whether the double next to a quotient has its ceiling `full + 1`, `rest` of `den` being left beyond `full`. A quotient
below one must not vanish. Up to `2 ^ 53` the rest is to be more than half of the last bit that is kept at `full`, or a
half of it next to an odd number. Beyond, the ceiling is to be a double itself. -/
def TellsCeiling (den full rest : Nat) : Prop :=
  if full = 0 then den < rest * 2 ^ 1075
  else if full < 2 ^ 53 then den < rest * 2 ^ (53 - full.log2) ∨ den = rest * 2 ∧ 2 ^ 52 ≤ full ∧ full % 2 = 1
  else 2 ^ (full.log2 - 52) ∣ full + 1 ∧ full + 1 < 2 ^ 1024
deriving Decidable

theorem tellsCeiling_whole (fullPositive : 0 < full) (below : full < 2 ^ 53) (denPositive : 0 < den) :
    TellsCeiling den full den := by
  rw [TellsCeiling, if_neg fullPositive.ne', if_pos below]
  have short : full.log2 < 53 := (Nat.log2_lt fullPositive.ne').mpr below
  have doubled : 2 ^ 1 ≤ 2 ^ (53 - full.log2) := Nat.pow_le_pow_right (by decide) (by omega)
  left
  calc
    den < den * 2 ^ 1 := by omega
    _ ≤ den * 2 ^ (53 - full.log2) := Nat.mul_le_mul_left den doubled

theorem tellsCeiling_down {shift : Nat} (denPositive : 0 < den) (rest_le : rest ≤ den) (fullPositive : 0 < full)
    (above : 2 ^ 52 * den ≤ (full * den + rest) * 2 ^ shift) (below : (full * den + rest) * 2 ^ shift < 2 ^ 53 * den) :
    TellsCeiling den full rest ↔
      den < rest * 2 ^ (shift + 1) ∨ den = rest * 2 ^ (shift + 1) ∧ full * 2 ^ shift % 2 = 1 := by
  have fullBelow : full * 2 ^ shift < 2 ^ 53 := by
    apply Nat.lt_of_mul_lt_mul_right (a := den)
    calc
      full * 2 ^ shift * den = full * den * 2 ^ shift := by ring
      _ ≤ (full * den + rest) * 2 ^ shift := Nat.mul_le_mul_right _ (by omega)
      _ < 2 ^ 53 * den := below
  have shifted : 1 * 2 ^ shift ≤ full * 2 ^ shift := Nat.mul_le_mul_right _ fullPositive
  have unshifted : full * 1 ≤ full * 2 ^ shift := Nat.mul_le_mul_left _ (Nat.pow_pos (by decide))
  have fewer : shift < 53 := (Nat.pow_lt_pow_iff_right (a := 2) (by decide)).mp (by omega)
  have split : 2 ^ (52 - shift) * 2 ^ shift = 2 ^ 52 := by rw [← Nat.pow_add, Nat.sub_add_cancel (by omega)]
  by_cases normal : 2 ^ 52 ≤ full * 2 ^ shift
  · have bits : full.log2 = 52 - shift := by
      rw [Nat.log2_eq_iff fullPositive.ne']
      constructor
      · exact Nat.le_of_mul_le_mul_right (split ▸ normal) (Nat.pow_pos (by decide))
      · apply Nat.lt_of_mul_lt_mul_right (a := 2 ^ shift)
        rw [Nat.pow_succ, Nat.mul_right_comm, split]
        exact fullBelow
    rw [TellsCeiling, if_neg fullPositive.ne', if_pos (by omega), bits, show 53 - (52 - shift) = shift + 1 by omega]
    rcases Nat.eq_zero_or_pos shift with rfl | lost
    · rw [Nat.pow_zero, Nat.mul_one] at normal ⊢
      tauto
    · have even : full * 2 ^ shift % 2 = 0 := by
        obtain ⟨fewer, rfl⟩ := Nat.exists_eq_succ_of_ne_zero lost.ne'
        rw [Nat.pow_succ, ← Nat.mul_assoc, Nat.mul_mod_left]
      have doubled : full * 2 ^ 1 ≤ full * 2 ^ shift := Nat.mul_le_mul_left _ (Nat.pow_le_pow_right (by decide) lost)
      omega
  · -- the quotient is the power of two above `full`
    have fullNext : full + 1 ≤ 2 ^ (52 - shift) := by
      apply Nat.lt_of_mul_lt_mul_right (a := 2 ^ shift)
      rw [split]
      exact Nat.lt_of_not_le normal
    have exact : rest = den := by
      by_contra other
      have missing : full * den + rest < (full + 1) * den := by rw [Nat.succ_mul]; omega
      have short : (full * den + rest) * 2 ^ shift < 2 ^ 52 * den := by
        calc
          (full * den + rest) * 2 ^ shift < (full + 1) * den * 2 ^ shift :=
            Nat.mul_lt_mul_of_pos_right missing (Nat.pow_pos (by decide))
          _ ≤ 2 ^ (52 - shift) * den * 2 ^ shift := Nat.mul_le_mul_right _ (Nat.mul_le_mul_right den fullNext)
          _ = 2 ^ 52 * den := by rw [Nat.mul_right_comm, split]
      omega
    have doubled : 2 ^ 1 ≤ 2 ^ (shift + 1) := Nat.pow_le_pow_right (by decide) (by omega)
    have wide : den * 2 ^ 1 ≤ den * 2 ^ (shift + 1) := Nat.mul_le_mul_left den doubled
    rw [exact]
    exact iff_of_true (tellsCeiling_whole fullPositive (by omega) denPositive) (Or.inl (by omega))

theorem tellsCeiling_up {shift : Nat} (denPositive : 0 < den) (rest_le : rest ≤ den) (lost : 0 < shift)
    (above : 2 ^ 52 * (den * 2 ^ shift) ≤ full * den + rest) (below : full * den + rest < 2 ^ 53 * (den * 2 ^ shift)) :
    TellsCeiling den full rest ↔ 2 ^ shift ∣ full + 1 ∧ full + 1 < 2 ^ 1024 := by
  have fullBelow : full < 2 ^ (53 + shift) := by
    apply Nat.lt_of_mul_lt_mul_right (a := den)
    calc
      full * den ≤ full * den + rest := Nat.le_add_right _ _
      _ < 2 ^ 53 * (den * 2 ^ shift) := below
      _ = 2 ^ (53 + shift) * den := by rw [Nat.pow_add]; ring
  have fullAbove : 2 ^ (52 + shift) ≤ full + 1 := by
    apply Nat.le_of_mul_le_mul_right _ denPositive
    calc
      2 ^ (52 + shift) * den = 2 ^ 52 * (den * 2 ^ shift) := by rw [Nat.pow_add]; ring
      _ ≤ full * den + rest := above
      _ ≤ (full + 1) * den := by rw [Nat.succ_mul]; omega
  have large : 2 ^ (52 + 1) ≤ 2 ^ (52 + shift) := Nat.pow_le_pow_right (by decide) (by omega)
  have fullPositive : full ≠ 0 := by omega
  by_cases normal : 2 ^ (52 + shift) ≤ full
  · have bits : full.log2 = 52 + shift :=
      (Nat.log2_eq_iff fullPositive).mpr ⟨normal, by rwa [Nat.add_right_comm]⟩
    rw [TellsCeiling, if_neg fullPositive, if_neg (by omega), bits, Nat.add_sub_cancel_left]
  · -- the quotient is the power of two above `full`
    have power : full + 1 = 2 ^ (52 + shift) := by omega
    have divides (bits : Nat) (within : bits ≤ 52 + shift) : 2 ^ bits ∣ full + 1 := power ▸ Nat.pow_dvd_pow 2 within
    by_cases small : full < 2 ^ 53
    · have exact : rest = den := by
        have filled : (full + 1) * den ≤ full * den + rest := by
          calc
            (full + 1) * den = 2 ^ 52 * (den * 2 ^ shift) := by rw [power, Nat.pow_add]; ring
            _ ≤ full * den + rest := above
        rw [Nat.succ_mul] at filled
        omega
      have limit {bits : Nat} (more : 53 < bits) : 2 ^ 53 < 2 ^ bits := Nat.pow_lt_pow_right (by decide) more
      rw [exact]
      exact iff_of_true (tellsCeiling_whole (by omega) small denPositive)
        ⟨divides _ (by omega), Nat.lt_of_le_of_lt small (limit (by decide))⟩
    · have bits : full.log2 < 53 + shift := (Nat.log2_lt fullPositive).mpr fullBelow
      rw [TellsCeiling, if_neg fullPositive, if_neg small]
      exact and_congr_left fun _ => iff_of_true (divides _ (by omega)) (divides _ (by omega))

/-- The ceiling of a quotient and that of the double next to it agree exactly where the double tells it. -/
theorem ceil_rounded_iff (denPositive : 0 < den) (restPositive : 0 < rest) (rest_le : rest ≤ den) :
    (roundedRatio (full * den + rest) den < 2 ^ 1024 ∧ ⌈roundedRatio (full * den + rest) den⌉ = full + 1) ↔
      TellsCeiling den full rest := by
  obtain ⟨least, below, normal⟩ := exponentFor_bounds (full * den + rest) den (by omega) denPositive
  obtain ⟨shift, exponent | ⟨exponent, lost⟩⟩ : ∃ shift : Nat, exponentFor (full * den + rest) den = -(shift : Int) ∨
      exponentFor (full * den + rest) den = shift ∧ 0 < shift := ⟨(exponentFor (full * den + rest) den).natAbs, by omega⟩
  · rw [ceil_rounded_down denPositive restPositive rest_le exponent]
    rw [exponent] at least below normal
    rw [scaled_down] at below normal
    unfold leastExponent at least normal
    dsimp only at below normal
    rcases Nat.eq_zero_or_pos full with rfl | fullPositive
    · have even : 0 * 2 ^ shift % 2 ≠ 1 := by rw [Nat.zero_mul]; decide
      rw [TellsCeiling, if_pos rfl, or_iff_left fun half => even half.2]
      rcases normal with last | above
      · rw [show shift = 1074 by omega]
      · have fewer {bits : Nat} (more : shift + 1 ≤ bits) : 2 ^ (shift + 1) ≤ 2 ^ bits :=
          Nat.pow_le_pow_right (by decide) more
        have present : den < rest * 2 ^ (shift + 1) := by
          rw [Nat.zero_mul, Nat.zero_add] at above
          rw [Nat.pow_succ, ← Nat.mul_assoc]
          omega
        exact iff_of_true present (present.trans_le (Nat.mul_le_mul_left rest (fewer (by omega))))
    · have above : 2 ^ 52 * den ≤ (full * den + rest) * 2 ^ shift := by
        apply normal.resolve_left
        intro last
        have wide : den * 2 ^ 53 ≤ (full * den + rest) * 2 ^ shift := by
          apply Nat.mul_le_mul
          · have one_full : 1 * den ≤ full * den := Nat.mul_le_mul_right den fullPositive
            omega
          · exact Nat.pow_le_pow_right (by decide) (by omega)
        omega
      rw [tellsCeiling_down denPositive rest_le fullPositive above below]
  · rw [ceil_rounded_up denPositive restPositive rest_le lost exponent]
    rw [exponent] at below normal
    rw [scaled_up] at below normal
    dsimp only at below normal
    have above : 2 ^ 52 * (den * 2 ^ shift) ≤ full * den + rest := normal.resolve_left (by unfold leastExponent; omega)
    rw [tellsCeiling_up denPositive rest_le lost above below]

end TableFerry.Number.Double

namespace TableFerry

open Number (Double)

/-- The rows that are left when all pages but the last are full. -/
def lastRows (rows pageSize : Nat) : Nat := rows - (rows - 1) / pageSize * pageSize

theorem lastRows_spec {rows pageSize : Nat} (rowsPositive : 0 < rows) (sizePositive : 0 < pageSize) :
    rows = (rows - 1) / pageSize * pageSize + lastRows rows pageSize ∧
      0 < lastRows rows pageSize ∧ lastRows rows pageSize ≤ pageSize := by
  have split := Nat.div_add_mod (rows - 1) pageSize
  have small := Nat.mod_lt (rows - 1) sizePositive
  rw [Nat.mul_comm] at split
  rw [lastRows]
  omega

/-- Pages hold all rows and none of them is empty. -/
def HoldsExactly (pages rows pageSize : Nat) : Prop :=
  ((pages : Int) - 1) * pageSize < rows ∧ (rows : Int) ≤ pages * pageSize
deriving Decidable

theorem holdsExactly_iff {pages rows pageSize : Nat} (rowsPositive : 0 < rows) (sizePositive : 0 < pageSize) :
    HoldsExactly pages rows pageSize ↔ pages = (rows - 1) / pageSize + 1 := by
  obtain ⟨split, restPositive, rest_le⟩ := lastRows_spec rowsPositive sizePositive
  generalize (rows - 1) / pageSize = full at split
  generalize lastRows rows pageSize = rest at split restPositive rest_le
  subst split
  have size : (0 : Int) < pageSize := by omega
  rw [HoldsExactly]
  push_cast
  constructor
  · rintro ⟨before, within⟩
    have most : (pages : Int) - 1 < full + 1 := by
      apply lt_of_mul_lt_mul_right _ size.le
      rw [add_mul]
      omega
    have least : (full : Int) < pages := by
      apply lt_of_mul_lt_mul_right _ size.le
      omega
    omega
  · rintro rfl
    push_cast
    rw [add_sub_cancel_right, add_mul]
    omega

theorem countPages_eq_iff {rows pageSize : Nat} (rowsPositive : 0 < rows) (sizePositive : 0 < pageSize) (pages : Nat) :
    countPages rows pageSize = .ok (pages + 1) ↔
      Double.roundedRatio rows pageSize < 2 ^ 1024 ∧ ⌈Double.roundedRatio rows pageSize⌉ = pages + 1 := by
  have unsigned : (decide ((rows : Int) < 0) != decide ((pageSize : Int) < 0)) = false := by
    rw [decide_eq_false (by omega), decide_eq_false (by omega)]
    rfl
  rw [countPages, if_neg (by omega), Double.ofQuotient, unsigned, Int.natAbs_natCast, Int.natAbs_natCast,
    Double.ceiling?_ofRatio rows pageSize rowsPositive sizePositive]
  by_cases limited : Double.roundedRatio rows pageSize < 2 ^ 1024
  · rw [if_pos limited, and_iff_right limited]
    dsimp only
    rw [Except.ok.injEq]
    omega
  · rw [if_neg limited]
    exact iff_of_false nofun fun reached => limited reached.1

theorem countPages_tells_iff {rows pageSize : Nat} (rowsPositive : 0 < rows) (sizePositive : 0 < pageSize) :
    countPages rows pageSize = .ok ((rows - 1) / pageSize + 1) ↔
      Double.TellsCeiling pageSize ((rows - 1) / pageSize) (lastRows rows pageSize) := by
  obtain ⟨split, restPositive, rest_le⟩ := lastRows_spec rowsPositive sizePositive
  rw [countPages_eq_iff rowsPositive sizePositive, ← Double.ceil_rounded_iff sizePositive restPositive rest_le, ← split]

theorem tellsCeiling_of_le {rows pageSize : Nat} (rowsPositive : 0 < rows) (sizePositive : 0 < pageSize)
    (rowsBound : rows ≤ 2 ^ 53) (sizeBound : pageSize ≤ 2 ^ 53) :
    Double.TellsCeiling pageSize ((rows - 1) / pageSize) (lastRows rows pageSize) := by
  obtain ⟨split, restPositive, _⟩ := lastRows_spec rowsPositive sizePositive
  generalize (rows - 1) / pageSize = full at split
  generalize lastRows rows pageSize = rest at split restPositive
  have single {bits : Nat} : 2 ^ bits ≤ rest * 2 ^ bits := Nat.le_mul_of_pos_left _ restPositive
  rw [Double.TellsCeiling]
  rcases Nat.eq_zero_or_pos full with rfl | fullPositive
  · have grown {bits : Nat} (more : 53 < bits) : pageSize < 2 ^ bits :=
      sizeBound.trans_lt (Nat.pow_lt_pow_right (by decide) more)
    rw [if_pos rfl]
    exact (grown (by decide)).trans_le single
  · have power : 2 ^ full.log2 ≤ full := Nat.log2_self_le fullPositive.ne'
    have one_page : full * 1 ≤ full * pageSize := Nat.mul_le_mul_left full sizePositive
    have short : full.log2 < 53 := (Nat.log2_lt fullPositive.ne').mpr (by omega)
    rw [if_neg fullPositive.ne', if_pos (by omega)]
    left
    apply Nat.lt_of_lt_of_le _ single
    apply Nat.lt_of_mul_lt_mul_right (a := 2 ^ full.log2)
    calc
      pageSize * 2 ^ full.log2 ≤ pageSize * full := Nat.mul_le_mul_left _ power
      _ < 2 ^ 53 := by rw [Nat.mul_comm]; omega
      _ = 2 ^ (53 - full.log2) * 2 ^ full.log2 := by rw [← Nat.pow_add, Nat.sub_add_cancel short.le]

/-- A number of pages is the exact one for up to `2 ^ 53` rows. -/
theorem pageCount_exact (rows pageSize : Nat) (sizePositive : 0 < pageSize)
    (rowsBound : rows ≤ 2 ^ 53) (sizeBound : pageSize ≤ 2 ^ 53) :
    pageCount rows pageSize = (rows + pageSize - 1) / pageSize := by
  rcases Nat.eq_zero_or_pos rows with rfl | rowsPositive
  · rw [pageCount, countPages, if_pos (by simp), Nat.zero_add, Nat.div_eq_of_lt (by omega)]
    rfl
  · have told := (countPages_tells_iff rowsPositive sizePositive).mpr
      (tellsCeiling_of_le rowsPositive sizePositive rowsBound sizeBound)
    have next : rows + pageSize - 1 = rows - 1 + pageSize := by omega
    rw [pageCount, told, next, Nat.add_div_right _ sizePositive]
    rfl

/-- Rows fill a number of pages exactly where the double of their quotient tells its ceiling. -/
theorem countPages_exact_iff (rows pageSize : Nat) (rowsPositive : 0 < rows) (sizePositive : 0 < pageSize) :
    (∃ pages, countPages rows pageSize = .ok pages ∧ HoldsExactly pages rows pageSize) ↔
      Double.TellsCeiling pageSize ((rows - 1) / pageSize) (lastRows rows pageSize) := by
  rw [← countPages_tells_iff rowsPositive sizePositive]
  constructor
  · rintro ⟨pages, counted, held⟩
    rw [counted, (holdsExactly_iff rowsPositive sizePositive).mp held]
  · intro counted
    exact ⟨_, counted, (holdsExactly_iff rowsPositive sizePositive).mpr rfl⟩

/-- A half that is left next to an odd number of full pages is rounded up. -/
theorem countPages_exact_iff_odd :
    0 < 9007199254740995 ∧ 0 < 2 ∧
      ∃ pages, countPages (9007199254740995 : Nat) 2 = .ok pages ∧ HoldsExactly pages 9007199254740995 2 :=
  ⟨by decide, by decide, (countPages_exact_iff 9007199254740995 2 (by decide) (by decide)).mpr (by decide)⟩

/-- Of `2 ^ 53 + 1` rows in pages of one the last is lost. -/
theorem countPages_loses_row : countPages 9007199254740993 1 = .ok 9007199254740992 ∧
    ¬ ∃ pages, countPages 9007199254740993 1 = .ok pages ∧ HoldsExactly pages 9007199254740993 1 := by
  have counted : countPages 9007199254740993 1 = .ok 9007199254740992 := by rfl
  refine ⟨counted, ?_⟩
  rintro ⟨pages, given, held⟩
  obtain rfl := Except.ok.inj (counted.symm.trans given)
  exact absurd held (by decide)

end TableFerry
