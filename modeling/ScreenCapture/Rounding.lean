import ScreenCapture.Bounds

set_option autoImplicit false

namespace ScreenCapture

def nearestEven (num den : Nat) : Nat :=
  let rest := 2 * (num % den)
  if rest < den ∨ (rest = den ∧ num / den % 2 = 0) then num / den else num / den + 1

theorem nearestEven_mul (value : Nat) {den : Nat} (positive : 0 < den) :
    nearestEven (value * den) den = value := by
  simp [nearestEven, positive]

theorem nearestEven_near (num : Nat) {den : Nat} (positive : 0 < den) :
    2 * num ≤ 2 * (nearestEven num den * den) + den ∧
      2 * (nearestEven num den * den) ≤ 2 * num + den := by
  have parts := Nat.div_add_mod' num den
  have rest := Nat.mod_lt num positive
  simp only [nearestEven]
  split
  next => omega
  next =>
    rw [Nat.add_mul]
    omega

def binaryExponent (num den : Nat) : Int :=
  let guess : Int := (num.log2 : Int) - (den.log2 : Int)
  let reached :=
    if 0 ≤ guess then den <<< guess.toNat ≤ num else den ≤ num <<< (-guess).toNat
  if reached then guess else guess - 1

-- The nearest number with the given count of binary digits, ties to an even last digit. This is
-- what a binary floating point format stores while its exponent does not run out: 24 digits for
-- single, 53 for double precision.
def roundToDigits (digits : Nat) (value : Rat) : Rat :=
  let num := value.num.natAbs
  let unit := binaryExponent num value.den - (digits - 1 : Nat)
  let size : Rat :=
    if num = 0 then 0
    else if 0 ≤ unit then
      ((nearestEven num (value.den <<< unit.toNat) <<< unit.toNat : Nat) : Rat)
    else mkRat (nearestEven (num <<< (-unit).toNat) value.den) (1 <<< (-unit).toNat)
  if value.num < 0 then -size else size

def single (value : Rat) : Rat := roundToDigits 24 value

def double (value : Rat) : Rat := roundToDigits 53 value

def truncate (value : Rat) : Int := value.num.tdiv value.den

def roundHalfAway (value : Rat) : Int :=
  let size : Int := ((2 * value.num.natAbs + value.den) / (2 * value.den) : Nat)
  if value.num < 0 then -size else size

def singleBits (value : Rat) : Nat :=
  let num := value.num.natAbs
  if num = 0 then 0
  else
    let exponent := binaryExponent num value.den
    let digits :=
      if exponent ≤ 23 then num <<< (23 - exponent).toNat / value.den
      else num / (value.den <<< (exponent - 23).toNat)
    let sign := if value.num < 0 then 2147483648 else 0
    sign + (exponent + 127).toNat * 8388608 + (digits - 8388608)

inductive Factor where
  | finite (value : Rat)
  | infinite (negative : Bool)
  | undefined
deriving DecidableEq

namespace Factor

def one : Factor := .finite 1

def ofRat (value : Rat) : Factor :=
  let nearest := double value
  if nearest.num.natAbs < nearest.den <<< 1024 then .finite nearest
  else .infinite (nearest.num < 0)

def growth (factor : Factor) (length : Int) : Int :=
  match factor with
  | .finite value =>
      clampToCoordinate (roundHalfAway (double (double (value - 1) * (length : Rat))))
  | .infinite negative =>
      if length = 0 then 0
      else if negative == (length < 0 : Bool) then 2147483647
      else -2147483648
  | .undefined => 0

end Factor

end ScreenCapture
