import ScreenCapture.Changes
import ScreenCapture.Proofs.Pixels.View

set_option autoImplicit false

namespace ScreenCapture

theorem Checked.mapM_eq_ok {A B : Type} {step : A → Checked B} {items : List A} {results : List B}
    (mapped : items.mapM step = .ok results) : results.length = items.length ∧
      ∀ (index : Nat) (item : A), items[index]? = some item →
        ∃ result, results[index]? = some result ∧ step item = .ok result := by
  induction items generalizing results with
  | nil =>
    cases mapped
    exact ⟨rfl, by simp⟩
  | cons first rest ih =>
    rw [List.mapM_cons] at mapped
    obtain ⟨result, taken, mapped⟩ := Checked.bind_eq_ok.mp mapped
    obtain ⟨others, swept, mapped⟩ := Checked.bind_eq_ok.mp mapped
    cases mapped
    obtain ⟨length, each⟩ := ih swept
    refine ⟨by rw [List.length_cons, List.length_cons, length], fun index item found => ?_⟩
    cases index with
    | zero =>
      cases found
      exact ⟨result, rfl, taken⟩
    | succ index => exact each index item found

theorem Bytes.same_pixels_iff (bytes other : Bytes) (count start otherStart : Nat) :
    bytes.same other (count * bytesPerPixel) start otherStart = true ↔
      ∀ x, x < count → bytes.color (start + x * bytesPerPixel) =
        other.color (otherStart + x * bytesPerPixel) := by
  simp only [same_iff, color_eq_iff, bytesPerPixel]
  constructor
  next =>
    intro all x column step below
    simpa only [Nat.add_assoc] using all (x * 4 + step) (by omega)
  next =>
    intro all offset below
    have found := all (offset / 4) (by omega) (offset % 4) (by omega)
    have split : offset / 4 * 4 + offset % 4 = offset := by omega
    simpa only [Nat.add_assoc, split] using found

namespace Plane

variable {old new : Plane} {width height y : Nat} {answer : Bool}

theorem rowDiffers_eq_ok (compared : old.rowDiffers new (width * bytesPerPixel) y = .ok answer) :
    answer = true ↔ ∃ x, x < width ∧ old.pixel x y ≠ new.pixel x y := by
  simp only [rowDiffers, rowStart, Checked.bind_eq_ok, address_eq_ok_iff, twoCuts_eq_ok_iff] at compared
  obtain ⟨_, ⟨_, rfl⟩, _, ⟨_, rfl⟩, _, ⟨_, rfl⟩, _, ⟨_, rfl⟩, compared⟩ := compared
  cases compared
  rw [Bool.not_eq_true', ← Bool.not_eq_true, Bytes.same_pixels_iff]
  simp only [pixel, cell, Nat.add_assoc, Classical.not_forall, exists_prop, ne_eq]

theorem differs_eq_ok (compared : old.differs new (width * bytesPerPixel) height = .ok answer) :
    answer = true ↔ ∃ x y, (x < width ∧ y < height) ∧ old.pixel x y ≠ new.pixel x y := by
  cases answer with
  | true =>
    obtain ⟨y, _, row, tested, _⟩ := sweepAny_eq_ok_true.mp compared
    obtain ⟨x, column, apart⟩ := (rowDiffers_eq_ok tested).mp rfl
    exact ⟨fun _ => ⟨x, y, ⟨column, by omega⟩, apart⟩, fun _ => rfl⟩
  | false =>
    refine ⟨nofun, ?_⟩
    rintro ⟨x, y, ⟨column, row⟩, apart⟩
    have tested := sweepAny_eq_ok_false.mp compared y (by omega) (by omega)
    exact (rowDiffers_eq_ok tested).mpr ⟨x, column, apart⟩

end Plane

namespace Changes

variable {old new : Plane} {width height : Nat}

theorem pixel_skip {plane rest : Plane} {count : Nat}
    (skipped : skip plane (count * bytesPerPixel) = .ok rest) (x y : Nat) :
    rest.pixel x y = plane.pixel (count + x) y := by
  simp only [skip, Checked.bind_eq_ok, twoCuts_eq_ok_iff] at skipped
  obtain ⟨_, ⟨_, rfl⟩, skipped⟩ := skipped
  cases skipped
  simp only [Plane.pixel, Plane.cell, Nat.add_mul]
  congr 1
  omega

theorem blockDiffers_eq_ok {first : Nat} {answer : Bool}
    (compared : blockDiffers old new (first * bytesPerPixel) (width * bytesPerPixel) height =
      .ok answer) :
    answer = true ↔ ∃ x y, (first ≤ x ∧ x < first + width ∧ y < height) ∧
      old.pixel x y ≠ new.pixel x y := by
  obtain ⟨oldRest, oldSkipped, compared⟩ := Checked.bind_eq_ok.mp compared
  obtain ⟨newRest, newSkipped, compared⟩ := Checked.bind_eq_ok.mp compared
  rw [Plane.differs_eq_ok compared]
  simp only [pixel_skip oldSkipped, pixel_skip newSkipped]
  constructor
  next =>
    intro ⟨x, y, ⟨column, row⟩, apart⟩
    exact ⟨first + x, y, ⟨by omega, by omega, row⟩, apart⟩
  next =>
    intro ⟨x, y, ⟨from_first, column, row⟩, apart⟩
    have back : first + (x - first) = x := by omega
    exact ⟨x - first, y, ⟨by omega, row⟩, by rwa [back]⟩

theorem blockBytes_eq {block : Nat} (known : block < (width - 1) / blockSize + 1) :
    (if block < (width - 1) / blockSize then blockBytes
      else (width - (width - 1) / blockSize * blockSize) * bytesPerPixel) =
        (min width ((block + 1) * blockSize) - block * blockSize) * bytesPerPixel := by
  split
  next whole =>
    rw [blockBytes]
    simp only [blockSize] at whole ⊢
    congr 1
    omega
  next last =>
    simp only [blockSize] at last known ⊢
    congr 1
    omega

theorem dirtyBlocks_eq_ok {dirty : List Bool} (solid : 0 < width)
    (found : dirtyBlocks old new width height = .ok dirty) :
    dirty.length = (width - 1) / blockSize + 1 ∧ ∀ block, dirty[block]? = some true ↔
      ∃ x y, (x / blockSize = block ∧ x < width ∧ y < height) ∧ old.pixel x y ≠ new.pixel x y := by
  obtain ⟨length, each⟩ := Checked.mapM_eq_ok found
  rw [List.length_range] at length
  refine ⟨length, fun block => ?_⟩
  by_cases known : block < (width - 1) / blockSize + 1
  next =>
    obtain ⟨answer, listed, compared⟩ := each block block (by simp [known])
    dsimp only at compared
    rw [blockBytes_eq known, blockBytes, ← Nat.mul_assoc] at compared
    rw [listed, Option.some.injEq, blockDiffers_eq_ok compared]
    simp only [blockSize] at known ⊢
    constructor
    next =>
      intro ⟨x, y, ⟨lower, upper, row⟩, apart⟩
      exact ⟨x, y, ⟨by omega, by omega, row⟩, apart⟩
    next =>
      intro ⟨x, y, ⟨same, column, row⟩, apart⟩
      exact ⟨x, y, ⟨by omega, by omega, row⟩, apart⟩
  next =>
    rw [List.getElem?_eq_none (by omega)]
    simp only [blockSize] at known ⊢
    refine ⟨nofun, ?_⟩
    rintro ⟨x, y, ⟨same, column, _⟩, _⟩
    omega

end Changes

end ScreenCapture
