import Mathlib.Data.List.TakeWhile
import ScreenCapture.Proofs.Json.Lexing

set_option autoImplicit false

namespace ScreenCapture

namespace Json

theorem digits_toDigits (count : Nat) : digits (Nat.toDigits 10 count) = count := by
  have shown := Nat.ofDigitChars_ten_toDigits (n := count)
  rw [Nat.ofDigitChars_eq_foldl] at shown
  simp only [Nat.mul_comm 10] at shown
  exact shown

theorem toDigits_all (count : Nat) : (Nat.toDigits 10 count).all isDigit = true := by
  rw [List.all_eq_true]
  intro c member
  have digit := Nat.isDigit_of_mem_toDigits (by decide) (Nat.le_refl 10) member
  simpa [isDigit, Char.isDigit, Char.le_def] using digit

theorem toDigits_cases (count : Nat) : (count = 0 ∧ Nat.toDigits 10 count = ['0']) ∨
    ∃ c rest, Nat.toDigits 10 count = c :: rest ∧ c ≠ '0' := by
  induction count using Nat.strongRecOn with
  | ind count ih =>
    rcases Nat.lt_or_ge count 10 with low | high
    next =>
      rw [Nat.toDigits_of_lt_base low]
      by_cases zero : count = 0
      next => exact .inl ⟨zero, by rw [zero]; rfl⟩
      next => exact .inr ⟨_, [], rfl, mt Nat.digitChar_eq_zero.mp zero⟩
    next =>
      obtain ⟨none, _⟩ | ⟨c, rest, shown, leading⟩ := ih (count / 10) (by omega)
      next => omega
      next =>
        rw [Nat.toDigits_of_base_le (by decide) high, shown]
        exact .inr ⟨c, _, rfl, leading⟩

theorem isMagnitude_toDigits (count : Nat) : isMagnitude (Nat.toDigits 10 count) = true := by
  obtain ⟨_, shown⟩ | ⟨c, rest, shown, leading⟩ := toDigits_cases count
  next =>
    rw [shown]
    rfl
  next =>
    have all := toDigits_all count
    rw [shown, List.all_cons, Bool.and_eq_true] at all
    have none : rest.dropWhile isDigit = [] :=
      List.dropWhile_eq_nil_iff.mpr (List.all_eq_true.mp all.2)
    rw [shown, isMagnitude]
    next =>
      rw [all.1, none]
      rfl
    next => exact leading

def numeral (value : Int) : List Char :=
  if 0 ≤ value then Nat.toDigits 10 value.toNat else '-' :: Nat.toDigits 10 (-value).toNat

theorem toString_toList (value : Int) : (toString value).toList = numeral value := by
  rw [Int.toString_eq_repr, Int.repr_eq_if, numeral]
  split
  all_goals simp [Nat.repr_eq_ofList_toDigits]

theorem toDigits_unsigned (count : Nat) (rest : List Char) : Nat.toDigits 10 count ≠ '-' :: rest := by
  intro signed
  have all := toDigits_all count
  rw [signed, List.all_cons, Bool.and_eq_true] at all
  exact absurd all.1 (by decide)

theorem integer?_numeral (value : Int) : integer? (numeral value) = some value := by
  unfold numeral
  split
  next proper =>
    rw [integer?, if_pos (toDigits_all _), digits_toDigits, Int.toNat_of_nonneg proper]
    exact toDigits_unsigned _
  next negative =>
    have nonzero : Nat.toDigits 10 (-value).toNat ≠ ['0'] := by
      obtain ⟨zero, _⟩ | ⟨c, rest, shown, leading⟩ := toDigits_cases (-value).toNat
      next => omega
      next =>
        rw [shown]
        exact fun same => leading (List.cons.inj same).1
    have magnitude : 0 ≤ -value := by omega
    rw [integer?, toDigits_all, digits_toDigits, if_pos (by simpa using nonzero),
      Int.toNat_of_nonneg magnitude, Int.neg_neg]

theorem isNumber_numeral (value : Int) : isNumber (numeral value) = true := by
  unfold numeral
  split
  next =>
    rw [isNumber, isMagnitude_toDigits]
    exact toDigits_unsigned _
  next => exact isMagnitude_toDigits _

theorem toDigits_numeric (count : Nat) : (Nat.toDigits 10 count).all isNumeric = true := by
  refine List.all_eq_true.mpr fun c member => ?_
  have digit := List.all_eq_true.mp (toDigits_all count) c member
  simp only [isNumeric, digit, Bool.true_or]

theorem spells_numeral (value : Int) : Spells (numeral value) [.number (numeral value)] := by
  have number := isNumber_numeral value
  unfold numeral at number ⊢
  split at number
  next proper =>
    have numeric := toDigits_numeric value.toNat
    have all := toDigits_all value.toNat
    obtain ⟨c, rest, shown⟩ : ∃ c rest, Nat.toDigits 10 value.toNat = c :: rest :=
      List.exists_cons_of_ne_nil Nat.toDigits_ne_nil
    rw [if_pos proper]
    rw [shown] at number numeric all ⊢
    rw [List.all_cons, Bool.and_eq_true] at numeric all
    exact spells_number (by rw [all.1, Bool.true_or]) numeric.2 number
  next negative =>
    rw [if_neg negative]
    exact spells_number (by decide) (toDigits_numeric _) number

end Json

end ScreenCapture
