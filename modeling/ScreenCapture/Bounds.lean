import ScreenCapture.Fault

set_option autoImplicit false

namespace ScreenCapture

def IsCoordinate (value : Int) : Prop := -2147483648 ≤ value ∧ value ≤ 2147483647

instance (value : Int) : Decidable (IsCoordinate value) :=
  inferInstanceAs (Decidable (_ ∧ _))

def IsTravel (value : Int) : Prop :=
  -9223372036854775808 ≤ value ∧ value ≤ 9223372036854775807

instance (value : Int) : Decidable (IsTravel value) :=
  inferInstanceAs (Decidable (_ ∧ _))

def addressLimit : Nat := 18446744073709551616

def allocationLimit : Nat := 9223372036854775807

def coordinate (value : Int) : Checked Int :=
  if IsCoordinate value then .ok value else .error .overflow

def travel (value : Int) : Checked Int :=
  if IsTravel value then .ok value else .error .overflow

def address (value : Nat) : Checked Nat :=
  if value < addressLimit then .ok value else .error .overflow

def clampToCoordinate (value : Int) : Int := max (-2147483648) (min 2147483647 value)

def lowHalf (value : Int) : Int := value.bmod 4294967296

theorem coordinate_eq_ok_iff {value result : Int} :
    coordinate value = .ok result ↔ IsCoordinate value ∧ value = result := by
  unfold coordinate
  split <;> simp_all

theorem coordinate_of_isCoordinate {value : Int} (within : IsCoordinate value) :
    coordinate value = .ok value := by
  simp [coordinate, within]

theorem travel_eq_ok_iff {value result : Int} :
    travel value = .ok result ↔ IsTravel value ∧ value = result := by
  unfold travel
  split <;> simp_all

theorem address_eq_ok_iff {value result : Nat} :
    address value = .ok result ↔ value < addressLimit ∧ value = result := by
  unfold address
  split
  next within => simp [within]
  next outside => simp [outside]

theorem clampToCoordinate_of_isCoordinate {value : Int} (within : IsCoordinate value) :
    clampToCoordinate value = value := by
  unfold IsCoordinate at within
  unfold clampToCoordinate
  omega

def sweep {State : Type} (step : Nat → State → Checked State) :
    (count first : Nat) → State → Checked State
  | 0, _, state => .ok state
  | count + 1, first, state => do
      let state ← step first state
      sweep step count (first + 1) state

def sweepAny (test : Nat → Checked Bool) : (count first : Nat) → Checked Bool
  | 0, _ => .ok false
  | count + 1, first => do
      if ← test first then return true
      sweepAny test count (first + 1)

theorem sweep_keeps {State : Type} {step : Nat → State → Checked State}
    (invariant : Nat → State → Prop) (count : Nat) {first : Nat} {state : State}
    (start : invariant first state)
    (keep : ∀ index state, first ≤ index → index < first + count → invariant index state →
      ∃ next, step index state = .ok next ∧ invariant (index + 1) next) :
    ∃ last, sweep step count first state = .ok last ∧ invariant (first + count) last := by
  induction count generalizing first state with
  | zero => exact ⟨state, rfl, start⟩
  | succ count ih =>
    have ⟨next, taken, held⟩ := keep first state (Nat.le_refl _) (by omega) start
    have ⟨last, swept, kept⟩ := ih held fun index state lower upper =>
      keep index state (by omega) (by omega)
    refine ⟨last, ?_, by simpa [Nat.add_assoc, Nat.add_comm 1] using kept⟩
    simp [sweep, taken, Checked.ok_bind, swept]

theorem sweep_leaves {State : Type} {step : Nat → State → Checked State}
    (invariant : Nat → State → Prop) (count : Nat) {first : Nat} {state last : State}
    (start : invariant first state)
    (swept : sweep step count first state = .ok last)
    (keep : ∀ index state next, first ≤ index → index < first + count →
      invariant index state → step index state = .ok next → invariant (index + 1) next) :
    invariant (first + count) last := by
  induction count generalizing first state with
  | zero =>
    cases swept
    exact start
  | succ count ih =>
    obtain ⟨next, taken, rest⟩ := Checked.bind_eq_ok.mp swept
    have held := keep first state next (Nat.le_refl _) (by omega) start taken
    have kept := ih held rest fun index state next lower upper =>
      keep index state next (by omega) (by omega)
    simpa [Nat.add_assoc, Nat.add_comm 1] using kept

theorem sweepAny_eq_ok_true {test : Nat → Checked Bool} {count first : Nat} :
    sweepAny test count first = .ok true ↔
      ∃ index, first ≤ index ∧ index < first + count ∧ test index = .ok true ∧
        ∀ earlier, first ≤ earlier → earlier < index → test earlier = .ok false := by
  induction count generalizing first with
  | zero =>
    constructor
    next =>
      intro found
      cases found
    next =>
      intro ⟨index, lower, upper, _⟩
      omega
  | succ count ih =>
    rw [sweepAny, Checked.bind_eq_ok]
    constructor
    next =>
      intro ⟨answer, tested, rest⟩
      cases answer with
      | true => exact ⟨first, Nat.le_refl _, by omega, tested, by omega⟩
      | false =>
        obtain ⟨index, lower, upper, found, before⟩ := ih.mp rest
        refine ⟨index, by omega, by omega, found, ?_⟩
        intro earlier from_first below
        by_cases same : earlier = first
        next => rw [same, tested]
        next => exact before earlier (by omega) below
    next =>
      intro ⟨index, lower, upper, found, before⟩
      by_cases same : index = first
      next =>
        subst same
        exact ⟨true, found, rfl⟩
      next =>
        refine ⟨false, before first (Nat.le_refl _) (by omega), ?_⟩
        exact ih.mpr ⟨index, by omega, by omega, found, fun earlier lower below =>
          before earlier (by omega) below⟩

theorem sweepAny_eq_ok_false {test : Nat → Checked Bool} {count first : Nat} :
    sweepAny test count first = .ok false ↔
      ∀ index, first ≤ index → index < first + count → test index = .ok false := by
  induction count generalizing first with
  | zero =>
    constructor
    next =>
      intro _ index lower upper
      omega
    next => exact fun _ => rfl
  | succ count ih =>
    rw [sweepAny, Checked.bind_eq_ok]
    constructor
    next =>
      intro ⟨answer, tested, rest⟩ index lower upper
      cases answer with
      | true => cases rest
      | false =>
        by_cases same : index = first
        next => rw [same, tested]
        next => exact ih.mp rest index (by omega) (by omega)
    next =>
      intro none
      refine ⟨false, none first (Nat.le_refl _) (by omega), ?_⟩
      exact ih.mpr fun index lower upper => none index (by omega) (by omega)

end ScreenCapture
