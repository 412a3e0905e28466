import ScreenCapture.Proofs.Changes.Answers
import ScreenCapture.Proofs.Crop.Nesting

set_option autoImplicit false

namespace ScreenCapture

theorem sweep_answers_or {State : Type} {step : Nat → State → Checked State} {fault : Fault}
    {count first : Nat} {state : State} (each : ∀ index state, first ≤ index → index < first + count →
      (∃ next, step index state = .ok next) ∨ step index state = .error fault) :
    (∃ last, sweep step count first state = .ok last) ∨
      sweep step count first state = .error fault := by
  induction count generalizing first state with
  | zero => exact .inl ⟨state, rfl⟩
  | succ count ih =>
    rw [sweep]
    rcases each first state (Nat.le_refl _) (by omega) with ⟨next, taken⟩ | failed
    next =>
      rw [taken, Checked.ok_bind]
      exact ih fun index state lower upper => each index state (by omega) (by omega)
    next => exact .inr (by rw [failed, Checked.error_bind])

namespace Changes

variable {old new : Frame} {store : Store} {rect : Rect} {index : Nat} {output : Region} {size : Size}

theorem addRow_answers_or (fits : old.Fits store) (newFits : new.Fits store)
    (inside : old.bounds.encloses rect = true) (newInside : new.bounds.encloses rect = true)
    (wide : rect.left < rect.right)
    (line : rect.top + ((index * blockSize : Nat) : Int) < rect.bottom) :
    (∃ result, addRow old new rect store index output = .ok result) ∨
      addRow old new rect store index output = .error .overflow := by
  by_cases reached : IsCoordinate (rect.top + ((index * blockSize : Nat) : Int) + (blockSize : Int))
  next => exact .inl ((addRow_answers_iff fits newFits inside newInside wide line).mpr reached)
  next =>
    refine .inr ?_
    rw [addRow]
    dsimp only
    rw [coordinate, if_neg reached, Checked.error_bind]

theorem compare_answers_or (fits : old.Fits store) (newFits : new.Fits store)
    (alike : old.size = new.size) :
    (∃ result, compare old new store rect output = .ok result) ∨
      compare old new store rect output = .error .overflow := by
  have bounds : new.bounds = old.bounds := congrArg Rect.ofSize alike.symm
  obtain hollow | ⟨solid, _, inside⟩ := Rect.meet_cases rect old.bounds
  next =>
    refine .inl ((exists_compare_iff fits newFits).mpr ⟨alike, .inl ?_⟩)
    rw [hollow]
    rfl
  next =>
    have ordered := (Rect.isEmpty_eq_false_iff _).mp solid
    rw [compare, if_neg (not_not_intro alike)]
    dsimp only
    rw [if_neg (Bool.not_eq_true _ ▸ solid)]
    refine sweep_answers_or fun index output _ below =>
      addRow_answers_or fits newFits inside (bounds ▸ inside) ordered.1 ?_
    simp only [blockSize] at below ⊢
    omega

theorem blocksFit_ofSize_iff :
    (∀ rect : Rect, BlocksFit (rect.meet (.ofSize size))) ↔
      size.isEmpty = true ∨ size.height ≤ 2147483616 := by
  constructor
  next =>
    intro room
    cases hollow : size.isEmpty with
    | true => exact .inl rfl
    | false =>
      rw [Size.isEmpty_eq_false_iff] at hollow
      -- The last row of pixels by itself.
      have solid : Rect.isEmpty ⟨0, size.height - 1, 1, size.height⟩ = false := by
        rw [Rect.isEmpty_eq_false_iff]
        dsimp only
        omega
      have inside : (Rect.ofSize size).encloses ⟨0, size.height - 1, 1, size.height⟩ = true := by
        rw [Rect.encloses_iff]
        simp only [Rect.ofSize]
        omega
      have line := room ⟨0, size.height - 1, 1, size.height⟩
      rw [Rect.meet_comm, Rect.meet_of_encloses solid inside] at line
      have reached := line.resolve_left (Bool.not_eq_true _ ▸ solid)
      simp only [blockRows, blockSize, IsCoordinate] at reached
      omega
  next =>
    rintro (hollow | low) rect
    next => exact .inl (Rect.meet_of_isEmpty hollow)
    next => exact blocksFit_of_low low

theorem compare_total (fits : old.Fits store) (newFits : new.Fits store) (alike : old.size = new.size) :
    (∀ rect output, (BlocksFit (rect.meet old.bounds) ∧
        ∃ result, compare old new store rect output = .ok result) ∨
      (¬ BlocksFit (rect.meet old.bounds) ∧ compare old new store rect output = .error .overflow)) ∧
    ((∀ rect output, ∃ result, compare old new store rect output = .ok result) ↔
      old.size.isEmpty = true ∨ old.size.height ≤ 2147483616) := by
  have answers (rect : Rect) (output : Region) :
      (∃ result, compare old new store rect output = .ok result) ↔ BlocksFit (rect.meet old.bounds) := by
    rw [exists_compare_iff fits newFits, and_iff_right alike]
  refine ⟨fun rect output => ?_, ?_⟩
  next =>
    rcases compare_answers_or fits newFits alike with answered | overflows
    next => exact .inl ⟨(answers rect output).mp answered, answered⟩
    next =>
      refine .inr ⟨fun room => ?_, overflows⟩
      obtain ⟨_, answered⟩ := (answers rect output).mpr room
      rw [overflows] at answered
      exact nomatch answered
  next =>
    rw [← blocksFit_ofSize_iff]
    simp only [answers]
    exact ⟨fun room rect => room rect .empty, fun room rect _ => room rect⟩

def column (height : Nat) : Store := ⟨#[⟨.heap, Bytes.zeros (4 * height)⟩], #[], #[]⟩

theorem column_fits (height : Nat) (within : height ≤ 2147483647) :
    (Frame.onBuffer ⟨1, height⟩ 4 0).Fits (column height) := by
  have bytes : ((column height).bytes 0).size = 4 * height := by
    simp only [Store.bytes, column, List.getElem?_toArray, List.getElem?_cons_zero, Bytes.zeros,
      Array.size_replicate]
  refine (Frame.layout_onBuffer ?_ ?_ (Nat.le_refl 4) ?_ ?_).fits
  next =>
    simp only [Size.Bounded, IsCoordinate]
    omega
  next => exact ⟨Int.one_nonneg, Int.natCast_nonneg height⟩
  next => rw [bytes, Int.toNat_natCast]
  next =>
    rw [bytes, addressLimit]
    omega

theorem compare_total_tallest :
    (Frame.onBuffer ⟨1, 2147483616⟩ 4 0).Fits (column 2147483616) ∧ ∀ rect output,
      ∃ result, compare (.onBuffer ⟨1, 2147483616⟩ 4 0) (.onBuffer ⟨1, 2147483616⟩ 4 0)
        (column 2147483616) rect output = .ok result := by
  have fits := column_fits 2147483616 (by decide)
  exact ⟨fits, (compare_total fits fits rfl).2.mpr (.inr (by decide))⟩

-- The last row of blocks of the tallest column would end one coordinate behind the last one.
theorem compare_overflows :
    (Frame.onBuffer ⟨1, 2147483647⟩ 4 0).Fits (column 2147483647) ∧
      4 * 2147483647 ≤ allocationLimit ∧
      compare (.onBuffer ⟨1, 2147483647⟩ 4 0) (.onBuffer ⟨1, 2147483647⟩ 4 0) (column 2147483647)
        ⟨0, 2147483616, 1, 2147483647⟩ .empty = .error .overflow := by
  have fits := column_fits 2147483647 (by decide)
  refine ⟨fits, by decide, (compare_answers_or fits fits rfl).resolve_left ?_⟩
  rw [exists_compare_iff fits fits]
  decide

end Changes

end ScreenCapture
