import Mathlib.Data.Rat.Floor
import Mathlib.Tactic
import TableFerry.Transfer.Partition
/-! Rounded quotients of whole numbers. The double nearest to `num / den` keeps the first 53 bits of the quotient,
fewer if it is too small, and there is none for a quotient too large. The last statement gives its ceiling as that of
an exact number: the rounded significand times a power of two. -/

namespace TableFerry.Number.Double

theorem ceilDiv_bounds (num den : Nat) (positive : 0 < den) :
    num ≤ (num + den - 1) / den * den ∧ (num + den - 1) / den * den < num + den := by
  have split := Nat.div_add_mod (num + den - 1) den
  have small := Nat.mod_lt (num + den - 1) positive
  rw [Nat.mul_comm] at split
  omega

theorem ceil_ratio (num den : Nat) (positive : 0 < den) :
    ⌈(num : ℚ) / den⌉ = ((num + den - 1) / den : Nat) := by
  obtain ⟨above, below⟩ := ceilDiv_bounds num den positive
  have above' : (num : ℚ) ≤ ((num + den - 1) / den : Nat) * den := by exact_mod_cast above
  have below' : (((num + den - 1) / den : Nat) : ℚ) * den < num + den := by exact_mod_cast below
  have denPositive : (0 : ℚ) < den := by exact_mod_cast positive
  rw [Int.ceil_eq_iff]
  constructor
  · rw [lt_div_iff₀ denPositive, Int.cast_natCast]
    linarith
  · rw [div_le_iff₀ denPositive]
    exact_mod_cast above

/-! Rounding to a whole number. -/

theorem nearestEven_cases (num den : Nat) :
    nearestEven num den = num / den ∧ 2 * (num % den) ≤ den ∨
      nearestEven num den = num / den + 1 ∧ den ≤ 2 * (num % den) := by
  unfold nearestEven
  dsimp only
  split_ifs <;> omega

theorem nearestEven_le (num den bound : Nat) (positive : 0 < den) (below : num ≤ bound * den) :
    nearestEven num den ≤ bound := by
  have split := Nat.div_add_mod num den
  rcases nearestEven_cases num den with ⟨rounded, _⟩ | ⟨rounded, half⟩
  · rw [rounded]
    exact Nat.div_le_of_le_mul (by rwa [Nat.mul_comm])
  · rw [rounded]
    have strict : den * (num / den) < den * bound := by
      rw [Nat.mul_comm den bound]
      omega
    exact Nat.lt_of_mul_lt_mul_left strict

theorem le_nearestEven (num den bound : Nat) (positive : 0 < den) (above : bound * den ≤ num) :
    bound ≤ nearestEven num den := by
  have quotient : bound ≤ num / den := (Nat.le_div_iff_mul_le positive).mpr above
  rcases nearestEven_cases num den with ⟨rounded, _⟩ | ⟨rounded, _⟩ <;> omega

/-- A rounded quotient passes a whole number by more than a half, or by a half if that number is odd. -/
theorem lt_nearestEven_iff (num den bound : Nat) (positive : 0 < den) :
    bound < nearestEven num den ↔
      2 * (bound * den) + den < 2 * num ∨ 2 * (bound * den) + den = 2 * num ∧ bound % 2 = 1 := by
  have split := Nat.div_add_mod num den
  have small := Nat.mod_lt num positive
  rw [Nat.mul_comm] at split
  unfold nearestEven
  dsimp only
  generalize num / den = quotient at split ⊢
  generalize num % den = rest at split small ⊢
  rcases Nat.lt_trichotomy bound quotient with below | rfl | above
  · have least : (bound + 1) * den ≤ quotient * den := Nat.mul_le_mul_right den below
    rw [Nat.succ_mul] at least
    split_ifs <;> omega
  · split_ifs <;> omega
  · have most : (quotient + 1) * den ≤ bound * den := Nat.mul_le_mul_right den above
    rw [Nat.succ_mul] at most
    split_ifs <;> omega

/-! The scale of a quotient. -/

theorem scaled_down (num den shift : Nat) : scaled num den (-(shift : Int)) = (num * 2 ^ shift, den) := by
  rcases Nat.eq_zero_or_pos shift with rfl | positive
  · simp [scaled]
  · rw [scaled, if_pos (by omega), Int.natAbs_neg, Int.natAbs_natCast]

theorem scaled_up (num den shift : Nat) : scaled num den shift = (num, den * 2 ^ shift) := by
  rw [scaled, if_neg (by omega), Int.natAbs_natCast]

theorem scaled_ratio (num den : Nat) (exponent : Int) :
    ((scaled num den exponent).1 : ℚ) / (scaled num den exponent).2 = (num : ℚ) / den / 2 ^ exponent := by
  obtain ⟨shift, rfl | rfl⟩ := Int.eq_nat_or_neg exponent
  · rw [scaled_up, zpow_natCast]
    push_cast
    field_simp
  · rw [scaled_down, zpow_neg, zpow_natCast]
    push_cast
    field_simp

theorem scaled_positive (num den : Nat) (exponent : Int) (positive : 0 < den) :
    0 < (scaled num den exponent).2 := by
  unfold scaled
  split_ifs
  · exact positive
  · exact Nat.mul_pos positive (Nat.pow_pos (by decide))

theorem magnitude_ratio (significand : Nat) (exponent : Int) :
    ((magnitude significand exponent).1 : ℚ) / (magnitude significand exponent).2 =
      significand * 2 ^ exponent := by
  unfold magnitude
  split_ifs with negative
  · have whole : exponent = -(exponent.natAbs : Int) := by omega
    rw [whole, zpow_neg, zpow_natCast, Int.natAbs_neg, Int.natAbs_natCast]
    push_cast
    field_simp
  · have whole : exponent = (exponent.natAbs : Int) := by omega
    rw [whole, zpow_natCast, Int.natAbs_natCast]
    push_cast
    field_simp

theorem ceiling?_finite (significand : Nat) (exponent : Int) :
    ceiling? (.finite false significand exponent) = some ⌈(significand : ℚ) * 2 ^ exponent⌉ := by
  have positive : 0 < (magnitude significand exponent).2 := by
    unfold magnitude
    split_ifs
    · exact Nat.pow_pos (by decide)
    · exact Nat.one_pos
  rw [← magnitude_ratio, ceil_ratio _ _ positive]
  simp [ceiling?]

theorem ratio_log2 (num den : Nat) (numPositive : 0 < num) (denPositive : 0 < den) :
    (2 : ℚ) ^ ((num.log2 : Int) - den.log2 - 1) < (num : ℚ) / den ∧
      (num : ℚ) / den < 2 ^ ((num.log2 : Int) - den.log2 + 1) := by
  have numLow : ((2 ^ num.log2 : Nat) : ℚ) ≤ num := by
    exact_mod_cast Nat.log2_self_le (by omega)
  have numHigh : (num : ℚ) < ((2 ^ (num.log2 + 1) : Nat) : ℚ) := by
    exact_mod_cast Nat.lt_log2_self
  have denLow : ((2 ^ den.log2 : Nat) : ℚ) ≤ den := by
    exact_mod_cast Nat.log2_self_le (by omega)
  have denHigh : (den : ℚ) < ((2 ^ (den.log2 + 1) : Nat) : ℚ) := by
    exact_mod_cast Nat.lt_log2_self
  have denReal : (0 : ℚ) < den := by exact_mod_cast denPositive
  push_cast at numLow numHigh denLow denHigh
  rw [← zpow_natCast] at numLow numHigh denLow denHigh
  constructor
  · rw [lt_div_iff₀ denReal]
    calc
      (2 : ℚ) ^ ((num.log2 : Int) - den.log2 - 1) * den <
          2 ^ ((num.log2 : Int) - den.log2 - 1) * 2 ^ ((den.log2 + 1 : Nat) : Int) :=
        mul_lt_mul_of_pos_left denHigh (by positivity)
      _ = 2 ^ (num.log2 : Int) := by
        rw [← zpow_add₀ (by norm_num)]
        congr 1
        push_cast
        ring
      _ ≤ num := numLow
  · rw [div_lt_iff₀ denReal]
    calc
      (num : ℚ) < 2 ^ ((num.log2 + 1 : Nat) : Int) := numHigh
      _ = 2 ^ ((num.log2 : Int) - den.log2 + 1) * 2 ^ (den.log2 : Int) := by
        rw [← zpow_add₀ (by norm_num)]
        congr 1
        push_cast
        ring
      _ ≤ 2 ^ ((num.log2 : Int) - den.log2 + 1) * den :=
        mul_le_mul_of_nonneg_left denLow (by positivity)

/-- The exponent before it is kept from falling below the least one: a quotient has 53 bits with it. -/
def freeExponent (num den : Nat) : Int :=
  let guess : Int := (num.log2 : Int) - (den.log2 : Int) - 53
  if (scaled num den guess).1 < 2 ^ 53 * (scaled num den guess).2 then guess else guess + 1

theorem freeExponent_bounds (num den : Nat) (numPositive : 0 < num) (denPositive : 0 < den) :
    (2 : ℚ) ^ 52 * 2 ^ freeExponent num den ≤ (num : ℚ) / den ∧
      (num : ℚ) / den < 2 ^ 53 * 2 ^ freeExponent num den := by
  obtain ⟨low, high⟩ := ratio_log2 num den numPositive denPositive
  generalize bits : (num.log2 : Int) - den.log2 = length at low high
  have guessed : (scaled num den (length - 53)).1 < 2 ^ 53 * (scaled num den (length - 53)).2 ↔
      (num : ℚ) / den < 2 ^ 53 * 2 ^ (length - 53) := by
    have denominator : (0 : ℚ) < (scaled num den (length - 53)).2 := by
      exact_mod_cast scaled_positive num den (length - 53) denPositive
    rw [← div_lt_iff₀ (by positivity), ← scaled_ratio, div_lt_iff₀ denominator]
    exact_mod_cast Iff.rfl
  have lower : (2 : ℚ) ^ (length - 1) = 2 ^ 52 * 2 ^ (length - 53) := by
    rw [← zpow_natCast, ← zpow_add₀ (by norm_num)]
    congr 1
    push_cast
    ring
  have upper : (2 : ℚ) ^ (length + 1) = 2 ^ 54 * 2 ^ (length - 53) := by
    rw [← zpow_natCast, ← zpow_add₀ (by norm_num)]
    congr 1
    push_cast
    ring
  have next : (2 : ℚ) ^ (length - 53 + 1) = 2 ^ (length - 53) * 2 := by
    rw [zpow_add₀ (by norm_num), zpow_one]
  simp only [freeExponent, bits, guessed]
  split_ifs with fits
  · exact ⟨lower ▸ low.le, fits⟩
  · rw [next]
    constructor <;> linarith

/-- A quotient scaled by its exponent has 53 bits, or fewer with the least exponent. -/
theorem exponentFor_bounds (num den : Nat) (numPositive : 0 < num) (denPositive : 0 < den) :
    leastExponent ≤ exponentFor num den ∧
      (scaled num den (exponentFor num den)).1 < 2 ^ 53 * (scaled num den (exponentFor num den)).2 ∧
      (exponentFor num den = leastExponent ∨
        2 ^ 52 * (scaled num den (exponentFor num den)).2 ≤ (scaled num den (exponentFor num den)).1) := by
  obtain ⟨low, high⟩ := freeExponent_bounds num den numPositive denPositive
  have least : leastExponent ≤ exponentFor num den := le_max_right _ _
  have free : freeExponent num den ≤ exponentFor num den := le_max_left _ _
  have kept : exponentFor num den = leastExponent ∨ exponentFor num den = freeExponent num den :=
    (max_choice _ _).symm
  have grown : (2 : ℚ) ^ freeExponent num den ≤ 2 ^ exponentFor num den := zpow_le_zpow_right₀ (by norm_num) free
  have denominator : (0 : ℚ) < (scaled num den (exponentFor num den)).2 := by
    exact_mod_cast scaled_positive num den _ denPositive
  have ratio := scaled_ratio num den (exponentFor num den)
  refine ⟨least, ?_, kept.imp_right fun same => ?_⟩
  · have below : (num : ℚ) / den < 2 ^ 53 * 2 ^ exponentFor num den := by linarith
    rw [← div_lt_iff₀ (by positivity), ← ratio, div_lt_iff₀ denominator] at below
    exact_mod_cast below
  · rw [← same, ← le_div_iff₀ (by positivity), ← ratio, le_div_iff₀ denominator] at low
    exact_mod_cast low

/-! The double of a quotient. -/

/-- The bits of a quotient that are kept, rounded; they may be as many as `2 ^ 53` ones and one more. -/
def keptBits (num den : Nat) : Nat :=
  nearestEven (scaled num den (exponentFor num den)).1 (scaled num den (exponentFor num den)).2

/-- What a quotient is rounded to, if there were no greatest double. -/
def roundedRatio (num den : Nat) : ℚ := keptBits num den * 2 ^ exponentFor num den

theorem keptBits_le (num den : Nat) (numPositive : 0 < num) (denPositive : 0 < den) : keptBits num den ≤ 2 ^ 53 := by
  obtain ⟨_, below, _⟩ := exponentFor_bounds num den numPositive denPositive
  exact nearestEven_le _ _ _ (scaled_positive _ _ _ denPositive) below.le

theorem le_keptBits (num den : Nat) (numPositive : 0 < num) (denPositive : 0 < den)
    (normal : exponentFor num den ≠ leastExponent) : 2 ^ 52 ≤ keptBits num den := by
  obtain ⟨_, _, least | above⟩ := exponentFor_bounds num den numPositive denPositive
  · exact absurd least normal
  · exact le_nearestEven _ _ _ (scaled_positive _ _ _ denPositive) above

theorem ofRatio_eq (negative : Bool) (num den : Nat) (numPositive : 0 < num) :
    let (significand, exponent) :=
      if keptBits num den = 2 ^ 53 then (2 ^ 52, exponentFor num den + 1) else (keptBits num den, exponentFor num den)
    ofRatio negative num den =
      if significand = 0 then zero negative
      else if greatestExponent < exponent then .infinite negative
      else .finite negative significand exponent := by
  rw [ofRatio, if_neg numPositive.ne']
  rfl

/-- A significand makes a number below the limit of doubles exactly with an exponent that doubles have. -/
theorem lt_limit_iff {significand : Nat} {exponent : Int} (below : significand < 2 ^ 53)
    (normal : exponent ≠ leastExponent → 2 ^ 52 ≤ significand) :
    (significand : ℚ) * 2 ^ exponent < 2 ^ 1024 ↔ exponent ≤ greatestExponent := by
  have reached (beyond : greatestExponent < exponent) : (2 : ℚ) ^ 1024 ≤ significand * 2 ^ exponent := by
    have least : (2 : ℚ) ^ 52 ≤ significand := by
      exact_mod_cast normal (by unfold greatestExponent at beyond; unfold leastExponent; omega)
    have grown : (2 : ℚ) ^ (972 : Int) ≤ 2 ^ exponent := zpow_le_zpow_right₀ (by norm_num) beyond
    calc
      (2 : ℚ) ^ 1024 = 2 ^ 52 * 2 ^ (972 : Int) := by
        rw [← zpow_natCast, ← zpow_natCast, ← zpow_add₀ (by norm_num)]
        rfl
      _ ≤ (significand : ℚ) * 2 ^ exponent := by gcongr
  have within (exponent_le : exponent ≤ greatestExponent) : (significand : ℚ) * 2 ^ exponent < 2 ^ 1024 := by
    have most : (significand : ℚ) < 2 ^ 53 := by exact_mod_cast below
    have grown : (2 : ℚ) ^ exponent ≤ 2 ^ (971 : Int) := zpow_le_zpow_right₀ (by norm_num) exponent_le
    calc
      (significand : ℚ) * 2 ^ exponent < 2 ^ 53 * 2 ^ exponent := by gcongr
      _ ≤ 2 ^ 53 * 2 ^ (971 : Int) := by gcongr
      _ = 2 ^ 1024 := by
        rw [← zpow_natCast, ← zpow_natCast, ← zpow_add₀ (by norm_num)]
        rfl
  exact ⟨fun limited => not_lt.mp fun beyond => (reached beyond).not_gt limited, within⟩

theorem ceiling?_limited {significand : Nat} {exponent : Int} (below : significand < 2 ^ 53)
    (normal : exponent ≠ leastExponent → 2 ^ 52 ≤ significand) :
    ceiling? (if significand = 0 then zero false
      else if greatestExponent < exponent then .infinite false
      else .finite false significand exponent) =
        if (significand : ℚ) * 2 ^ exponent < 2 ^ 1024 then some ⌈(significand : ℚ) * 2 ^ exponent⌉ else none := by
  simp only [lt_limit_iff below normal, ← not_lt]
  by_cases vanished : significand = 0
  · have least : exponent = leastExponent := by
      by_contra other
      have present := normal other
      omega
    rw [if_pos vanished, if_pos (by rw [least]; decide), vanished, zero, ceiling?_finite]
    simp
  · rw [if_neg vanished]
    by_cases beyond : greatestExponent < exponent
    · rw [if_pos beyond, if_neg (not_not_intro beyond)]
      rfl
    · rw [if_neg beyond, if_pos beyond, ceiling?_finite]

/-- The ceiling of the double next to a quotient; there is none if the quotient is rounded to `2 ^ 1024` or more. -/
theorem ceiling?_ofRatio (num den : Nat) (numPositive : 0 < num) (denPositive : 0 < den) :
    ceiling? (ofRatio false num den) =
      if roundedRatio num den < 2 ^ 1024 then some ⌈roundedRatio num den⌉ else none := by
  have most := keptBits_le num den numPositive denPositive
  have normal := le_keptBits num den numPositive denPositive
  have assembled := ofRatio_eq false num den numPositive
  rw [roundedRatio]
  by_cases carried : keptBits num den = 2 ^ 53
  · have value : (keptBits num den : ℚ) * 2 ^ exponentFor num den =
        (2 ^ 52 : Nat) * 2 ^ (exponentFor num den + 1) := by
      rw [carried, zpow_add₀ (by norm_num), zpow_one]
      push_cast
      ring
    simp only [if_pos carried] at assembled
    rw [assembled, value, ceiling?_limited (by decide) fun _ => le_refl _]
  · simp only [if_neg carried] at assembled
    rw [assembled, ceiling?_limited (by omega) normal]

end TableFerry.Number.Double
