import Mathlib.Algebra.Group.Nat.Defs
import ScreenCapture.Display

set_option autoImplicit false

namespace ScreenCapture

theorem nearestEven_one (value : Nat) : nearestEven value 1 = value := by
  simpa using nearestEven_mul value Nat.one_pos

theorem binaryExponent_one {value : Nat} (positive : value ≠ 0) :
    binaryExponent value 1 = value.log2 := by
  have reached : 1 <<< value.log2 ≤ value := by
    rw [Nat.one_shiftLeft]
    exact Nat.log2_self_le positive
  have none : Nat.log2 1 = 0 := by decide
  simp [binaryExponent, none, reached]

theorem mkRat_shiftLeft (value count : Nat) :
    mkRat ((value <<< count : Nat) : Int) (1 <<< count) = ((value : Int) : Rat) := by
  rw [Nat.shiftLeft_eq, Nat.shiftLeft_eq, Int.natCast_mul,
    Rat.mkRat_mul_right (Nat.ne_of_gt (Nat.two_pow_pos _)), Rat.mkRat_one]

def lastUnit (digits value : Nat) : Nat := 2 ^ (value.log2 - (digits - 1))

def roundedTo (digits value : Nat) : Nat :=
  nearestEven value (lastUnit digits value) * lastUnit digits value

def FitsDigits (digits value : Nat) : Prop :=
  ∃ part zeros, part < 2 ^ digits ∧ value = part * 2 ^ zeros

section Digits

theorem lastUnit_pos (digits value : Nat) : 0 < lastUnit digits value := Nat.two_pow_pos _

variable {digits value : Nat}

theorem lastUnit_of_lt (short : value < 2 ^ digits) : lastUnit digits value = 1 := by
  have bits : value.log2 ≤ digits - 1 := by
    by_cases none : value = 0
    next => simp [none]
    next =>
      have size := (Nat.log2_lt none).mpr short
      omega
  rw [lastUnit, Nat.sub_eq_zero_of_le bits, Nat.pow_zero]

theorem roundedTo_of_lt (short : value < 2 ^ digits) : roundedTo digits value = value := by
  rw [roundedTo, lastUnit_of_lt short, nearestEven_one, Nat.mul_one]

variable (some : 0 < digits)

include some

theorem lt_lastUnit (value : Nat) : value < 2 ^ digits * lastUnit digits value := by
  rw [lastUnit, ← Nat.pow_add]
  refine Nat.lt_of_lt_of_le Nat.lt_log2_self (Nat.pow_le_pow_right Nat.two_pos ?_)
  omega

theorem lastUnit_le (long : 2 ^ digits ≤ value) :
    2 ^ digits * lastUnit digits value ≤ 2 * value := by
  have positive : value ≠ 0 := Nat.ne_of_gt (Nat.lt_of_lt_of_le (Nat.two_pow_pos _) long)
  have bits := (Nat.le_log2 positive).mpr long
  calc 2 ^ digits * lastUnit digits value
    _ = 2 ^ (value.log2 + 1) := by
      rw [lastUnit, ← Nat.pow_add]
      congr 1
      omega
    _ = 2 * 2 ^ value.log2 := Nat.pow_succ'
    _ ≤ 2 * value := Nat.mul_le_mul_left 2 (Nat.log2_self_le positive)

theorem nearestEven_lastUnit_le (value : Nat) :
    nearestEven value (lastUnit digits value) ≤ 2 ^ digits := by
  have near := (nearestEven_near value (lastUnit_pos digits value)).2
  have below := lt_lastUnit some value
  refine Nat.le_of_not_lt fun more => ?_
  have step := Nat.mul_le_mul_right (lastUnit digits value) (Nat.succ_le_of_lt more)
  rw [Nat.succ_mul] at step
  omega

theorem fitsDigits_of_le {part zeros : Nat} (short : part ≤ 2 ^ digits) :
    FitsDigits digits (part * 2 ^ zeros) := by
  rcases Nat.lt_or_eq_of_le short with less | full
  next => exact ⟨part, zeros, less, rfl⟩
  next =>
    refine ⟨1, digits + zeros, Nat.one_lt_two_pow (Nat.ne_of_gt some), ?_⟩
    rw [full, Nat.pow_add, Nat.one_mul]

theorem roundedTo_fits (value : Nat) : FitsDigits digits (roundedTo digits value) :=
  fitsDigits_of_le some (nearestEven_lastUnit_le some value)

theorem lastUnit_dvd_iff : lastUnit digits value ∣ value ↔ FitsDigits digits value := by
  constructor
  next =>
    rintro ⟨part, product⟩
    have below := lt_lastUnit some value
    refine ⟨part, value.log2 - (digits - 1), ?_, product.trans (Nat.mul_comm _ _)⟩
    refine Nat.lt_of_mul_lt_mul_left (a := lastUnit digits value) ?_
    rwa [← product, Nat.mul_comm]
  next =>
    rintro ⟨part, zeros, short, product⟩
    by_cases none : value = 0
    next => exact none ▸ Nat.dvd_zero _
    next =>
      have below : value < 2 ^ (digits + zeros) := by
        rw [product, Nat.pow_add]
        exact Nat.mul_lt_mul_of_pos_right short (Nat.two_pow_pos _)
      have size := (Nat.log2_lt none).mpr below
      have within : value.log2 - (digits - 1) ≤ zeros := by omega
      have unit : lastUnit digits value ∣ 2 ^ zeros := Nat.pow_dvd_pow 2 within
      have whole : 2 ^ zeros ∣ value := ⟨part, product.trans (Nat.mul_comm _ _)⟩
      exact Nat.dvd_trans unit whole

theorem roundedTo_eq_iff : roundedTo digits value = value ↔ FitsDigits digits value := by
  rw [← lastUnit_dvd_iff some]
  constructor
  next =>
    intro same
    exact ⟨_, same.symm.trans (Nat.mul_comm _ _)⟩
  next =>
    rintro ⟨part, product⟩
    have exact := nearestEven_mul part (lastUnit_pos digits value)
    rw [Nat.mul_comm, ← product] at exact
    rw [roundedTo, exact, Nat.mul_comm]
    exact product.symm

theorem roundedTo_near (value : Nat) : 2 ^ digits * roundedTo digits value ≤ (2 ^ digits + 1) * value ∧
    2 ^ digits * value ≤ 2 ^ digits * roundedTo digits value + value := by
  rcases Nat.lt_or_ge value (2 ^ digits) with short | long
  next =>
    rw [roundedTo_of_lt short, Nat.succ_mul]
    exact ⟨Nat.le_add_right _ _, Nat.le_add_right _ _⟩
  next =>
    obtain ⟨lower, upper⟩ := nearestEven_near value (lastUnit_pos digits value)
    have unit := lastUnit_le some long
    have lower := Nat.mul_le_mul_left (2 ^ digits) lower
    have upper := Nat.mul_le_mul_left (2 ^ digits) upper
    rw [← roundedTo] at lower upper
    simp only [Nat.mul_add, Nat.mul_left_comm _ 2] at lower upper
    rw [Nat.succ_mul]
    omega

end Digits

theorem roundToDigits_eq (digits : Nat) (value : Int) :
    roundToDigits digits value = ((value.sign * roundedTo digits value.natAbs : Int) : Rat) := by
  by_cases zero : value = 0
  next =>
    subst zero
    simp [roundToDigits]
  next =>
    have positive : value.natAbs ≠ 0 := by omega
    unfold roundToDigits
    simp only [Rat.num_intCast, Rat.den_intCast, binaryExponent_one positive, if_neg positive]
    generalize size : (if (0 : Int) ≤ _ then (_ : Rat) else _) = rounded
    have exact : rounded = ((roundedTo digits value.natAbs : Int) : Rat) := by
      rw [← size, roundedTo, lastUnit]
      split
      next whole =>
        have unit : ((value.natAbs.log2 : Int) - (digits - 1 : Nat)).toNat =
            value.natAbs.log2 - (digits - 1) := by omega
        rw [unit, Nat.one_shiftLeft, Nat.shiftLeft_eq]
        rfl
      next parts =>
        have unit : value.natAbs.log2 - (digits - 1) = 0 := by omega
        rw [unit, Nat.pow_zero, nearestEven_one, nearestEven_one, mkRat_shiftLeft, Nat.mul_one]
    rw [exact]
    split
    next negative => rw [Int.sign_eq_neg_one_of_neg negative, Int.neg_one_mul, Rat.intCast_neg]
    next proper => rw [Int.sign_eq_one_of_pos (by omega), Int.one_mul]

theorem roundToDigits_intCast {digits : Nat} (some : 0 < digits) {value : Int}
    (short : value.natAbs ≤ 2 ^ digits) : roundToDigits digits value = value := by
  have fits : FitsDigits digits (value.natAbs * 2 ^ 0) := fitsDigits_of_le some short
  rw [Nat.pow_zero, Nat.mul_one] at fits
  rw [roundToDigits_eq, (roundedTo_eq_iff some).mpr fits, Int.sign_mul_natAbs]

def IsSingle (length : Int) : Prop := single length = length

theorem isSingle_of_le {length : Int} (short : length.natAbs ≤ 2 ^ 24) : IsSingle length :=
  roundToDigits_intCast (by decide) short

theorem isSingle_iff (length : Int) : IsSingle length ↔ FitsDigits 24 length.natAbs := by
  rw [IsSingle, single, roundToDigits_eq, ← roundedTo_eq_iff (by decide), Rat.intCast_inj]
  constructor
  next =>
    intro same
    have size := congrArg Int.natAbs same
    by_cases none : length = 0
    next =>
      subst none
      decide
    next => rwa [Int.natAbs_mul, Int.natAbs_sign_of_ne_zero none, Nat.one_mul] at size
  next =>
    intro same
    rw [same, Int.sign_mul_natAbs]

-- Dividing by one rounds a second time, which a number that is already rounded does not notice.
theorem logicalLength_eq {pixels kept : Int} (rounded : single pixels = kept) (exact : IsSingle kept) :
    logicalLength pixels 1 = clampToCoordinate kept := by
  have inverse : (1 : Rat)⁻¹ = 1 := by rw [← Rat.one_mul 1⁻¹, Rat.mul_inv_cancel 1 (by decide)]
  have quotient : single (single (pixels : Rat) / 1) = kept := by
    rw [rounded, Rat.div_def, inverse, Rat.mul_one, exact]
  rw [logicalLength, quotient, truncate, Rat.num_intCast, Rat.den_intCast, Int.natCast_one,
    Int.tdiv_one]

theorem logicalLength_one {pixels : Int} (within : IsCoordinate pixels) (exact : IsSingle pixels) :
    logicalLength pixels 1 = pixels := by
  rw [logicalLength_eq exact exact, clampToCoordinate_of_isCoordinate within]

theorem logicalLength_natCast (length : Nat) :
    logicalLength length 1 = clampToCoordinate (roundedTo 24 length) := by
  have rounded : single ((length : Int) : Rat) = ((roundedTo 24 length : Int) : Rat) := by
    rw [single, roundToDigits_eq, Int.natAbs_natCast]
    rcases Nat.eq_zero_or_pos length with rfl | positive
    next => rw [roundedTo_of_lt (by decide), Int.natCast_zero, Int.mul_zero]
    next => rw [Int.sign_eq_one_of_pos (by omega), Int.one_mul]
  refine logicalLength_eq rounded ((isSingle_iff _).mpr ?_)
  exact roundedTo_fits (by decide) length

end ScreenCapture
