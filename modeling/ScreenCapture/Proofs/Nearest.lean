import Mathlib.Algebra.Order.Field.Basic
import Mathlib.Algebra.Order.Field.Power
import Mathlib.Algebra.Order.Ring.Rat
import Mathlib.Tactic.FieldSimp
import Mathlib.Tactic.Linarith
import Mathlib.Tactic.Ring
import ScreenCapture.Proofs.Rounding

set_option autoImplicit false

namespace ScreenCapture

def HasDigits (digits : Nat) (value : Rat) : Prop :=
  ∃ part places : Int, part.natAbs < 2 ^ digits ∧ value = part * 2 ^ places

-- No number of so many digits is nearer to a value, and where another one is as near, a digit less
-- is enough.
structure IsNearest (digits : Nat) (value near : Rat) : Prop where
  short : HasDigits digits near
  least : ∀ other, HasDigits digits other → |value - near| ≤ |value - other|
  even : ∀ other, HasDigits digits other → other ≠ near → |value - other| = |value - near| →
    HasDigits (digits - 1) near

def IsWhole (value : Rat) (whole : Int) : Prop :=
  2 * |value - whole| ≤ 1 ∧ (2 * |value - whole| = 1 → |value| < |(whole : Rat)|)

section Digits

variable {digits : Nat} {value near other : Rat}

theorem HasDigits.neg (short : HasDigits digits value) : HasDigits digits (-value) := by
  obtain ⟨part, places, below, rfl⟩ := short
  exact ⟨-part, places, by omega, by push_cast; ring⟩

theorem HasDigits.scale (short : HasDigits digits value) (places : Int) :
    HasDigits digits (value * 2 ^ places) := by
  obtain ⟨part, before, below, rfl⟩ := short
  exact ⟨part, before + places, below, by rw [zpow_add₀ two_ne_zero, mul_assoc]⟩

theorem hasDigits_scale_iff (places : Int) :
    HasDigits digits (value * 2 ^ places) ↔ HasDigits digits value := by
  constructor
  next =>
    intro short
    have back := short.scale (-places)
    rwa [mul_assoc, ← zpow_add₀ two_ne_zero, add_neg_cancel, zpow_zero, mul_one] at back
  next => exact fun short => short.scale places

theorem hasDigits_of_le (some : 0 < digits) {part : Int} (below : part.natAbs ≤ 2 ^ digits) :
    HasDigits digits part := by
  rcases Nat.lt_or_eq_of_le below with less | full
  next => exact ⟨part, 0, less, by simp⟩
  next =>
    refine ⟨part.sign, digits, ?_, ?_⟩
    next =>
      rw [Int.natAbs_sign]
      exact Nat.lt_of_le_of_lt (by split <;> omega) (Nat.one_lt_two_pow (Nat.ne_of_gt some))
    next =>
      have size : part = part.sign * 2 ^ digits := by
        conv_lhs => rw [← Int.sign_mul_natAbs part, full]
        norm_cast
      rw [zpow_natCast]
      exact_mod_cast size

theorem HasDigits.exists_eq (short : HasDigits digits value) (high : 2 ^ digits ≤ 2 * |value|) :
    ∃ whole : Int, value = whole := by
  obtain ⟨part, places, below, rfl⟩ := short
  by_cases before : 0 ≤ places
  next =>
    obtain ⟨count, rfl⟩ := Int.eq_ofNat_of_zero_le before
    exact ⟨part * 2 ^ count, by push_cast; rw [zpow_natCast]⟩
  next =>
    have half : (2 : Rat) ^ places ≤ 2⁻¹ := by
      rw [← zpow_neg_one]
      exact zpow_le_zpow_right₀ one_le_two (by omega)
    have size : |(part : Rat)| < 2 ^ digits := by
      rw [← Int.cast_abs, Int.abs_eq_natAbs]
      exact_mod_cast below
    have positive : (0 : Rat) < 2 ^ places := zpow_pos two_pos places
    rw [abs_mul, abs_of_pos positive] at high
    have less := mul_le_mul_of_nonneg_left half (abs_nonneg (part : Rat))
    linarith

theorem IsNearest.neg (nearest : IsNearest digits value near) :
    IsNearest digits (-value) (-near) := by
  have turned (other : Rat) : |-value - other| = |value - -other| := by
    rw [← abs_neg]
    congr 1
    ring
  refine ⟨nearest.short.neg, fun other short => ?_, fun other short apart tie => ?_⟩
  next =>
    rw [turned, turned, neg_neg]
    exact nearest.least _ short.neg
  next =>
    rw [turned, turned, neg_neg] at tie
    exact (nearest.even _ short.neg (fun same => apart (by rw [← same, neg_neg])) tie).neg

theorem IsNearest.scale (nearest : IsNearest digits value near) (places : Int) :
    IsNearest digits (value * 2 ^ places) (near * 2 ^ places) := by
  have positive : (0 : Rat) < 2 ^ places := zpow_pos two_pos places
  have scaled (other : Rat) :
      |value * 2 ^ places - other * 2 ^ places| = |value - other| * 2 ^ places := by
    rw [← sub_mul, abs_mul, abs_of_pos positive]
  have onto (other : Rat) : other = other * 2 ^ (-places) * 2 ^ places := by
    rw [mul_assoc, ← zpow_add₀ two_ne_zero, neg_add_cancel, zpow_zero, mul_one]
  refine ⟨nearest.short.scale places, fun other short => ?_, fun other short apart tie => ?_⟩
  next =>
    rw [onto other, scaled, scaled]
    exact mul_le_mul_of_nonneg_right (nearest.least _ (short.scale _)) positive.le
  next =>
    rw [onto other, scaled, scaled] at tie
    apply (nearest.even _ (short.scale (-places)) _ (mul_right_cancel₀ positive.ne' tie)).scale
    intro same
    exact apart ((onto other).trans (by rw [same]))

theorem isNearest_self (short : HasDigits digits value) : IsNearest digits value value := by
  refine ⟨short, fun other _ => ?_, fun other _ apart tie => ?_⟩
  next =>
    rw [sub_self, abs_zero]
    exact abs_nonneg _
  next =>
    rw [sub_self, abs_zero, abs_eq_zero, sub_eq_zero] at tie
    exact absurd tie.symm apart

theorem IsNearest.eq_of_hasDigits (nearest : IsNearest digits value near)
    (short : HasDigits digits value) : near = value := by
  have least := nearest.least value short
  rw [sub_self, abs_zero] at least
  have none := le_antisymm least (abs_nonneg _)
  rw [abs_eq_zero, sub_eq_zero] at none
  exact none.symm

theorem IsNearest.not_tie (some : 0 < digits) {part places beyond : Int}
    (nearest : IsNearest digits value (part * 2 ^ places)) (below : part.natAbs < 2 ^ (digits - 1))
    (less : part < beyond) : |value - beyond * 2 ^ places| ≠ |value - part * 2 ^ places| := by
  intro tie
  have positive : (0 : Rat) < 2 ^ places := zpow_pos two_pos places
  have twice := Nat.two_pow_pred_mul_two some
  have further : (part : Rat) * 2 ^ places < beyond * 2 ^ places :=
    mul_lt_mul_of_pos_right (by exact_mod_cast less) positive
  have middle : 2 * value = part * 2 ^ places + beyond * 2 ^ places := by
    rcases abs_eq_abs.mp tie with same | opposite
    next => linarith
    next => linarith
  by_cases next : beyond = part + 1
  next =>
    have half : value = ((2 * part + 1 : Int) : Rat) * 2 ^ (places - 1) := by
      rw [next] at middle
      rw [zpow_sub_one₀ two_ne_zero]
      push_cast at middle ⊢
      linarith
    have short : HasDigits digits value := ⟨2 * part + 1, places - 1, by omega, half⟩
    have same := nearest.eq_of_hasDigits short
    linarith
  next =>
    have step : HasDigits digits ((part + 1 : Int) * 2 ^ places) :=
      ⟨part + 1, places, by omega, rfl⟩
    have least := nearest.least _ step
    have rest : ((part + 1 : Int) : Rat) * 2 ^ places < beyond * 2 ^ places :=
      mul_lt_mul_of_pos_right (by exact_mod_cast (by omega : part + 1 < beyond)) positive
    have split : ((part + 1 : Int) : Rat) * 2 ^ places = part * 2 ^ places + 2 ^ places := by
      push_cast
      ring
    rw [abs_of_pos (by linarith), le_abs'] at least
    rcases least with least | least
    next => linarith
    next => linarith

theorem IsNearest.ne_of_le (some : 0 < digits) {part places whole more : Int}
    (nearest : IsNearest digits value (part * 2 ^ places))
    (nearestToo : IsNearest digits value (whole * 2 ^ more)) (below : part.natAbs < 2 ^ (digits - 1))
    (le : places ≤ more) : (part : Rat) * 2 ^ places = whole * 2 ^ more := by
  obtain ⟨count, rfl⟩ := Int.le.dest le
  have lengthened : (whole : Rat) * 2 ^ (places + count) = (whole * 2 ^ count : Int) * 2 ^ places := by
    push_cast
    rw [zpow_add₀ two_ne_zero, zpow_natCast]
    ring
  have tie : |value - whole * 2 ^ (places + count)| = |value - part * 2 ^ places| :=
    le_antisymm (nearestToo.least _ nearest.short) (nearest.least _ nearestToo.short)
  rw [lengthened] at tie ⊢
  rcases lt_trichotomy part (whole * 2 ^ count) with less | same | greater
  next => exact absurd tie (nearest.not_tie some below less)
  next => rw [← same]
  next =>
    have turned := nearest.neg
    rw [← neg_mul, ← Int.cast_neg] at turned
    refine absurd ?_ (turned.not_tie some (by omega) (Int.neg_lt_neg greater))
    rw [← abs_neg, ← abs_neg (-value - _)]
    convert tie using 2 <;> push_cast <;> ring

theorem IsNearest.unique (some : 0 < digits) (nearest : IsNearest digits value near)
    (nearestToo : IsNearest digits value other) : near = other := by
  by_contra apart
  have tie : |value - other| = |value - near| :=
    le_antisymm (nearestToo.least _ nearest.short) (nearest.least _ nearestToo.short)
  obtain ⟨part, places, below, rfl⟩ := nearest.even _ nearestToo.short (Ne.symm apart) tie
  obtain ⟨whole, more, belowToo, rfl⟩ := nearestToo.even _ nearest.short apart tie.symm
  rcases le_total places more with le | ge
  next => exact apart (nearest.ne_of_le some nearestToo below le)
  next => exact apart (nearestToo.ne_of_le some nearest belowToo ge).symm

end Digits

section Whole

variable {value : Rat} {whole other : Int}

theorem near_of_ne (near : 2 * |value - whole| ≤ 1) (apart : other ≠ whole) :
    1 ≤ 2 * |value - other| := by
  have step : (1 : Rat) ≤ |(other : Rat) - whole| := by
    rw [← Int.cast_sub, ← Int.cast_abs]
    exact_mod_cast Int.one_le_abs (sub_ne_zero.mpr apart)
  have triangle := abs_sub_le (other : Rat) value whole
  rw [abs_sub_comm (other : Rat) value] at triangle
  linarith

theorem near_le (near : 2 * |value - whole| ≤ 1) (other : Int) :
    |value - whole| ≤ |value - other| := by
  by_cases same : other = whole
  next => rw [same]
  next =>
    have far := near_of_ne near same
    linarith

theorem IsWhole.unique (isWhole : IsWhole value whole) (isOther : IsWhole value other) :
    whole = other := by
  by_contra apart
  have tie := near_of_ne isOther.1 apart
  have tieToo := near_of_ne isWhole.1 (Ne.symm apart)
  have half := le_antisymm isWhole.1 tie
  have halfToo := le_antisymm isOther.1 tieToo
  have middle : 2 * value = (whole + other : Int) := by
    rcases abs_eq_abs.mp (mul_left_cancel₀ two_ne_zero (half.trans halfToo.symm)) with same | opposite
    next => exact absurd (by exact_mod_cast sub_right_injective same) apart
    next =>
      push_cast
      linarith
  have less (bound : Int) (below : |value| < |(bound : Rat)|) : |whole + other| < 2 * |bound| := by
    have doubled : |2 * value| < 2 * |(bound : Rat)| := by
      rw [abs_mul, abs_two]
      linarith
    rw [middle] at doubled
    exact_mod_cast doubled
  have step : 2 * (value - whole) = (other - whole : Int) := by
    push_cast
    push_cast at middle
    linarith
  have one : |other - whole| = 1 := by
    rw [← abs_two, ← abs_mul, step] at half
    exact_mod_cast half
  have first := less whole (isWhole.2 half)
  have second := less other (isOther.2 halfToo)
  rw [Int.abs_eq_natAbs] at first second one
  rw [Int.abs_eq_natAbs] at first second
  omega

end Whole

section Rounding

variable {digits : Nat} {value : Rat}

theorem nearestEven_even {num den : Nat} (positive : 0 < den)
    (tie : 2 * num = 2 * (nearestEven num den * den) + den ∨
      2 * (nearestEven num den * den) = 2 * num + den) : 2 ∣ nearestEven num den := by
  have parts := Nat.div_add_mod' num den
  have rest := Nat.mod_lt num positive
  simp only [nearestEven] at tie ⊢
  split at tie
  next kept =>
    rw [if_pos kept]
    omega
  next raised =>
    rw [if_neg raised]
    rw [Nat.add_mul] at tie
    omega

theorem nearestEven_isNear (num : Nat) {den : Nat} (positive : 0 < den) :
    2 * |(num : Rat) / den - (nearestEven num den : Int)| ≤ 1 ∧
      (2 * |(num : Rat) / den - (nearestEven num den : Int)| = 1 → 2 ∣ nearestEven num den) := by
  have scale : (0 : Rat) < den := by exact_mod_cast positive
  have away : 2 * |(num : Rat) / den - (nearestEven num den : Int)| =
      |(2 * num - 2 * (nearestEven num den * den) : Rat)| / den := by
    rw [← abs_of_pos scale, ← abs_div, ← abs_two, ← abs_mul, abs_of_pos scale, abs_two]
    congr 1
    push_cast
    field_simp
  rw [away]
  constructor
  next =>
    obtain ⟨low, high⟩ := nearestEven_near num positive
    rw [div_le_one scale, abs_le]
    constructor
    next =>
      have high : (2 * (nearestEven num den * den) : Rat) ≤ 2 * num + den := by exact_mod_cast high
      linarith
    next =>
      have low : (2 * num : Rat) ≤ 2 * (nearestEven num den * den) + den := by exact_mod_cast low
      linarith
  next =>
    intro tie
    rw [div_eq_one_iff_eq scale.ne', abs_eq scale.le] at tie
    apply nearestEven_even positive
    rcases tie with above | below
    next =>
      have above : (2 * num : Rat) = 2 * (nearestEven num den * den) + den := by linarith
      exact .inl (by exact_mod_cast above)
    next =>
      have below : (2 * (nearestEven num den * den) : Rat) = 2 * num + den := by linarith
      exact .inr (by exact_mod_cast below)

theorem isNearest_of_even (some : 1 < digits) {whole : Nat} (low : 2 ^ digits ≤ 2 * value)
    (high : value < 2 ^ digits) (near : 2 * |value - (whole : Int)| ≤ 1)
    (even : 2 * |value - (whole : Int)| = 1 → 2 ∣ whole) : IsNearest digits value (whole : Int) := by
  have most : whole ≤ 2 ^ digits := by
    have upper := (abs_le.mp (show |value - (whole : Int)| ≤ 2⁻¹ by linarith)).1
    have less : ((whole : Int) : Rat) < (2 ^ digits + 1 : Nat) := by
      push_cast at upper ⊢
      linarith
    rw [Int.cast_natCast, Nat.cast_lt] at less
    omega
  have double := Nat.two_pow_pred_mul_two (Nat.lt_of_succ_lt some)
  have twice : (2 : Rat) ^ (digits - 1) * 2 = 2 ^ digits := by exact_mod_cast double
  -- A number with digits behind the point is further away than the least one without.
  have far (other : Rat) (small : 2 * |other| < 2 ^ digits) :
      |value - (whole : Int)| < |value - other| := by
    have least := near_le near (2 ^ (digits - 1))
    push_cast at least
    rw [abs_of_nonneg (show 0 ≤ value - 2 ^ (digits - 1) by linarith)] at least
    have away := le_abs_self (value - other)
    have size := le_abs_self other
    push_cast
    linarith
  refine ⟨hasDigits_of_le (by omega) (by omega), fun other short => ?_, fun other short apart tie => ?_⟩
  next =>
    by_cases small : 2 * |other| < 2 ^ digits
    next => exact (far other small).le
    next =>
      obtain ⟨whole, rfl⟩ := short.exists_eq (not_lt.mp small)
      exact near_le near whole
  next =>
    by_cases small : 2 * |other| < 2 ^ digits
    next => exact absurd tie (far other small).ne'
    next =>
      obtain ⟨another, rfl⟩ := short.exists_eq (not_lt.mp small)
      have half := near_of_ne near (by exact_mod_cast apart)
      rw [tie] at half
      obtain ⟨part, rfl⟩ := even (le_antisymm near half)
      have doubled : (((2 * part : Nat) : Int) : Rat) = (part : Int) * 2 ^ (1 : Int) := by
        rw [zpow_one]
        push_cast
        ring
      rw [doubled, hasDigits_scale_iff]
      exact hasDigits_of_le (by omega) (by omega)

theorem shiftLeft_eq_zpow (value : Nat) {places : Int} (up : 0 ≤ places) :
    ((value <<< places.toNat : Nat) : Rat) = value * 2 ^ places := by
  obtain ⟨count, rfl⟩ := Int.eq_ofNat_of_zero_le up
  rw [Int.toNat_natCast, Nat.shiftLeft_eq, zpow_natCast]
  push_cast
  rfl

theorem binaryExponent_bounds {num den : Nat} (some : 0 < num) (positive : 0 < den) :
    (den : Rat) * 2 ^ binaryExponent num den ≤ num ∧
      (num : Rat) < den * 2 ^ (binaryExponent num den + 1) := by
  have numLow : (2 : Rat) ^ (num.log2 : Int) ≤ num := by
    exact_mod_cast Nat.log2_self_le (by omega : num ≠ 0)
  have numHigh : (num : Rat) < 2 ^ (num.log2 + 1 : Int) := by
    exact_mod_cast Nat.lt_log2_self
  have denLow : (2 : Rat) ^ (den.log2 : Int) ≤ den := by
    exact_mod_cast Nat.log2_self_le (by omega : den ≠ 0)
  have denHigh : (den : Rat) < 2 ^ (den.log2 + 1 : Int) := by
    exact_mod_cast Nat.lt_log2_self
  have scaled (places : Int) : (0 : Rat) < 2 ^ places := zpow_pos two_pos places
  unfold binaryExponent
  generalize apart : (num.log2 : Int) - den.log2 = guess
  have reached : (if 0 ≤ guess then den <<< guess.toNat ≤ num else den ≤ num <<< (-guess).toNat) ↔
      (den : Rat) * 2 ^ guess ≤ num := by
    split
    next up => rw [← shiftLeft_eq_zpow _ up, Nat.cast_le]
    next down =>
      rw [← Nat.cast_le (α := Rat), shiftLeft_eq_zpow _ (by omega), zpow_neg,
        le_mul_inv_iff₀ (scaled guess)]
  dsimp only
  rw [if_congr reached rfl rfl]
  split
  next long =>
    refine ⟨long, ?_⟩
    calc (num : Rat)
      _ < 2 ^ (num.log2 + 1 : Int) := numHigh
      _ = 2 ^ (den.log2 : Int) * 2 ^ (guess + 1) := by
        rw [← zpow_add₀ two_ne_zero]
        congr 1
        omega
      _ ≤ den * 2 ^ (guess + 1) := mul_le_mul_of_nonneg_right denLow (scaled _).le
  next short =>
    rw [Int.sub_add_cancel]
    refine ⟨?_, not_le.mp short⟩
    calc (den : Rat) * 2 ^ (guess - 1)
      _ ≤ 2 ^ (den.log2 + 1 : Int) * 2 ^ (guess - 1) :=
        mul_le_mul_of_nonneg_right denHigh.le (scaled _).le
      _ = 2 ^ (num.log2 : Int) := by
        rw [← zpow_add₀ two_ne_zero]
        congr 1
        omega
      _ ≤ num := numLow

theorem isNearest_quotient (some : 1 < digits) {num den part whole : Nat} (solid : 0 < num)
    (positive : 0 < den) (known : 0 < whole) {places : Int}
    (exponent : binaryExponent num den - (digits - 1 : Nat) = places)
    (moved : (part : Rat) / whole * 2 ^ places = num / den) :
    IsNearest digits (num / den) ((nearestEven part whole : Int) * 2 ^ places) := by
  obtain ⟨low, high⟩ := binaryExponent_bounds solid positive
  have scale : (0 : Rat) < den := by exact_mod_cast positive
  have step : (0 : Rat) < 2 ^ places := zpow_pos two_pos places
  have reached : binaryExponent num den + 1 = places + digits := by omega
  have below : binaryExponent num den = places + digits - 1 := by omega
  rw [reached, ← div_lt_iff₀' scale, ← moved, zpow_add₀ two_ne_zero, mul_comm,
    mul_lt_mul_iff_right₀ step, zpow_natCast] at high
  rw [below, ← le_div_iff₀' scale, ← moved, zpow_sub_one₀ two_ne_zero, zpow_add₀ two_ne_zero,
    mul_comm _ (2 ^ places), mul_assoc, mul_le_mul_iff_right₀ step, zpow_natCast] at low
  obtain ⟨near, even⟩ := nearestEven_isNear part known
  rw [← moved]
  exact (isNearest_of_even some (by linarith) high near even).scale places

theorem natAbs_div_den (value : Rat) : (value.num.natAbs : Rat) / value.den = |value| := by
  conv_rhs => rw [← Rat.num_div_den value]
  rw [abs_div, Nat.abs_cast, ← Int.cast_natCast, Int.natCast_natAbs, Int.cast_abs]

theorem roundToDigits_isNearest (some : 1 < digits) (value : Rat) :
    IsNearest digits value (roundToDigits digits value) := by
  unfold roundToDigits
  generalize exponent : binaryExponent value.num.natAbs value.den - (digits - 1 : Nat) = places
  dsimp only
  rw [exponent]
  by_cases none : value.num = 0
  next =>
    have zero := Rat.num_eq_zero.mp none
    subst zero
    exact isNearest_self ⟨0, 0, by simp, by simp⟩
  next =>
    have step : (2 : Rat) ^ places ≠ 0 := zpow_ne_zero places two_ne_zero
    have size : IsNearest digits |value|
        (if value.num.natAbs = 0 then 0
        else if 0 ≤ places then
          ((nearestEven value.num.natAbs (value.den <<< places.toNat) <<< places.toNat : Nat) : Rat)
        else mkRat (nearestEven (value.num.natAbs <<< (-places).toNat) value.den)
          (1 <<< (-places).toNat)) := by
      rw [if_neg (by omega), ← natAbs_div_den]
      split
      next up =>
        rw [shiftLeft_eq_zpow _ up]
        apply isNearest_quotient some (by omega) value.den_pos _ exponent
        next =>
          rw [shiftLeft_eq_zpow _ up, div_mul_eq_div_div, div_mul_cancel₀ _ step]
        next =>
          rw [Nat.shiftLeft_eq]
          exact Nat.mul_pos value.den_pos (Nat.two_pow_pos _)
      next down =>
        rw [Rat.mkRat_eq_div, shiftLeft_eq_zpow 1 (by omega), Nat.cast_one, one_mul, zpow_neg,
          div_inv_eq_mul]
        apply isNearest_quotient some (by omega) value.den_pos value.den_pos exponent
        rw [shiftLeft_eq_zpow _ (by omega), zpow_neg, div_mul_eq_mul_div, inv_mul_cancel_right₀ step]
    split
    next negative =>
      rw [abs_of_neg (Rat.num_neg.mp negative)] at size
      simpa only [neg_neg] using size.neg
    next proper => rwa [abs_of_nonneg (Rat.num_nonneg.mp (not_lt.mp proper))] at size

theorem IsWhole.neg {whole : Int} (isWhole : IsWhole value whole) : IsWhole (-value) (-whole) := by
  unfold IsWhole
  rw [Int.cast_neg, neg_sub_neg, abs_sub_comm, abs_neg, abs_neg]
  exact isWhole

theorem isWhole_half (num : Nat) {den : Nat} (positive : 0 < den) :
    IsWhole ((num : Rat) / den) ((2 * num + den) / (2 * den) : Nat) := by
  have parts := Nat.div_add_mod' (2 * num + den) (2 * den)
  have rest := Nat.mod_lt (2 * num + den) (by omega : 0 < 2 * den)
  have scale : (0 : Rat) < den := by exact_mod_cast positive
  generalize (2 * num + den) / (2 * den) = size at parts
  have low : (size : Rat) * (2 * den) ≤ 2 * num + den := by exact_mod_cast (by omega)
  have high : (2 * num + den : Rat) < size * (2 * den) + 2 * den := by exact_mod_cast (by omega)
  have above : (size : Rat) ≤ num / den + 2⁻¹ := by
    rw [← sub_le_iff_le_add, le_div_iff₀ scale]
    linarith
  have below : (num : Rat) / den < size + 2⁻¹ := by
    rw [div_lt_iff₀ scale]
    linarith
  have proper : (0 : Rat) ≤ num / den := div_nonneg num.cast_nonneg den.cast_nonneg
  rw [IsWhole, Int.cast_natCast, abs_of_nonneg proper, Nat.abs_cast]
  refine ⟨?_, fun tie => ?_⟩
  next =>
    have near : |(num : Rat) / den - size| ≤ 2⁻¹ := abs_le.mpr ⟨by linarith, by linarith⟩
    linarith
  next =>
    have half : |(num : Rat) / den - size| = 2⁻¹ := by linarith
    rcases (abs_eq (by norm_num)).mp half with more | less
    next => linarith
    next => linarith

theorem roundHalfAway_isWhole (value : Rat) : IsWhole value (roundHalfAway value) := by
  have half := isWhole_half value.num.natAbs value.den_pos
  rw [natAbs_div_den] at half
  unfold roundHalfAway
  dsimp only
  split
  next negative =>
    rw [abs_of_neg (Rat.num_neg.mp negative)] at half
    simpa only [neg_neg] using half.neg
  next proper => rwa [abs_of_nonneg (Rat.num_nonneg.mp (not_lt.mp proper))] at half

end Rounding

namespace Factor

-- What a factor adds to a distance: the distance multiplied by what the factor has above one, where
-- each operation keeps 53 digits, as the whole coordinate nearest to it.
def Adds (factor : Factor) (distance added : Int) : Prop :=
  match factor with
  | .finite value => ∃ excess product : Rat, ∃ whole : Int, IsNearest 53 (value - 1) excess ∧
      IsNearest 53 (excess * distance) product ∧ IsWhole product whole ∧
        added = max (-2147483648) (min whole 2147483647)
  | .infinite negative => (distance = 0 → added = 0) ∧
      (0 < distance → added = if negative then -2147483648 else 2147483647) ∧
        (distance < 0 → added = if negative then 2147483647 else -2147483648)
  | .undefined => added = 0

theorem adds_growth (factor : Factor) (distance : Int) :
    factor.Adds distance (factor.growth distance) := by
  cases factor with
  | finite value =>
    refine ⟨_, _, _, roundToDigits_isNearest (by decide) _, roundToDigits_isNearest (by decide) _,
      roundHalfAway_isWhole _, ?_⟩
    rw [growth, clampToCoordinate, double, double, min_comm]
  | infinite negative =>
    unfold Adds growth
    refine ⟨fun none => ?_, fun ahead => ?_, fun behind => ?_⟩
    next => exact if_pos none
    next => cases negative <;> simp [Int.ne_of_gt ahead, ahead.le]
    next => cases negative <;> simp [Int.ne_of_lt behind, behind]
  | undefined => rfl

variable {factor : Factor} {distance added other : Int}

theorem Adds.unique (adds : factor.Adds distance added) (addsToo : factor.Adds distance other) :
    added = other := by
  cases factor with
  | finite value =>
    obtain ⟨excess, product, whole, nearest, rounded, isWhole, rfl⟩ := adds
    obtain ⟨excessToo, productToo, wholeToo, nearestToo, roundedToo, isWholeToo, rfl⟩ := addsToo
    obtain rfl := nearest.unique (by decide) nearestToo
    obtain rfl := rounded.unique (by decide) roundedToo
    rw [isWhole.unique isWholeToo]
  | infinite negative =>
    rcases lt_trichotomy distance 0 with behind | none | ahead
    next => exact (adds.2.2 behind).trans (addsToo.2.2 behind).symm
    next => exact (adds.1 none).trans (addsToo.1 none).symm
    next => exact (adds.2.1 ahead).trans (addsToo.2.1 ahead).symm
  | undefined => exact adds.trans addsToo.symm

theorem adds_of_hasDigits {value : Rat} (whole : Int) (excess : HasDigits 53 (value - 1))
    (product : HasDigits 53 ((value - 1) * distance)) (isWhole : IsWhole ((value - 1) * distance) whole) :
    (Factor.finite value).Adds distance (max (-2147483648) (min whole 2147483647)) :=
  ⟨_, _, _, isNearest_self excess, isNearest_self product, isWhole, rfl⟩

theorem adds_iff : factor.Adds distance added ↔ added = factor.growth distance :=
  ⟨fun adds => adds.unique (factor.adds_growth distance), fun same => same ▸ factor.adds_growth distance⟩

theorem one_adds_iff : Factor.one.Adds distance added ↔ added = 0 := by
  have none : HasDigits 53 (0 : Rat) := ⟨0, 0, by decide, by simp⟩
  have adds : Factor.one.Adds distance 0 := by
    apply adds_of_hasDigits 0
    next => rwa [sub_self]
    next => rwa [sub_self, zero_mul]
    next =>
      rw [sub_self, zero_mul]
      exact ⟨by norm_num, by norm_num⟩
  constructor
  next => exact fun same => same.unique adds
  next => exact fun zero => zero ▸ adds

end Factor

end ScreenCapture
