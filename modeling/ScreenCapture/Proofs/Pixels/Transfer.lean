import ScreenCapture.Proofs.Pixels.View

set_option autoImplicit false

namespace ScreenCapture

-- What the bytes of a target are once some cells of a source, the ones that are `done`, have been
-- put where `into` says: each of these cells is there, and no byte besides has changed.
structure Drawn (source target : Plane) (into : Nat → Nat → Nat × Nat) (done : Nat → Nat → Prop)
    (bytes : Bytes) : Prop where
  size : bytes.size = target.bytes.size
  taken : ∀ x y, done x y → bytes.color (target.cell (into x y).1 (into x y).2) = source.pixel x y
  kept : ∀ index, (∀ x y, done x y → ¬ target.Covers (into x y).1 (into x y).2 index) →
    bytes.byte index = target.bytes.byte index

namespace Drawn

variable {source target : Plane} {into : Nat → Nat → Nat × Nat} {done done' : Nat → Nat → Prop}
  {bytes : Bytes}

theorem start (none : ∀ x y, ¬ done x y) : Drawn source target into done target.bytes :=
  ⟨rfl, fun x y member => absurd member (none x y), fun _ _ => rfl⟩

theorem congr (drawn : Drawn source target into done bytes) (same : ∀ x y, done' x y ↔ done x y) :
    Drawn source target into done' bytes := by
  have equal : done' = done := by
    funext x y
    exact propext (same x y)
  exact equal ▸ drawn

theorem extend (drawn : Drawn source target into done bytes) (new : Nat → Nat → Prop)
    {count position place : Nat}
    (fits : place + count ≤ target.bytes.size)
    (made : ∀ x y, new x y → ∃ skip, skip + bytesPerPixel ≤ count ∧
      target.cell (into x y).1 (into x y).2 = place + skip ∧ source.cell x y = position + skip)
    (filled : ∀ index, place ≤ index → index < place + count →
      ∃ x y, new x y ∧ target.Covers (into x y).1 (into x y).2 index)
    (apart : ∀ x y, done x y → ∀ index, target.Covers (into x y).1 (into x y).2 index →
      ¬ (place ≤ index ∧ index < place + count)) :
    Drawn source target into (fun x y => done x y ∨ new x y)
      (source.bytes.copy count position place bytes) := by
  have room : place + count ≤ bytes.size := drawn.size ▸ fits
  refine ⟨by rw [Bytes.size_copy, drawn.size], ?_, ?_⟩
  next =>
    intro x y member
    rcases member with before | added
    next =>
      rw [← drawn.taken x y before, Bytes.color_eq_iff]
      intro offset below
      rw [Bytes.byte_copy _ _ _ _ _ room, if_neg]
      exact apart x y before _ ⟨Nat.le_add_right _ _, Nat.add_lt_add_left below _⟩
    next =>
      obtain ⟨skip, inside, cell, origin⟩ := made x y added
      rw [Plane.pixel, Bytes.color_eq_iff, cell, origin]
      intro offset below
      simp only [bytesPerPixel] at inside
      rw [Bytes.byte_copy _ _ _ _ _ room, if_pos (by omega)]
      congr 1
      omega
  next =>
    intro index untouched
    have outside : ¬ (place ≤ index ∧ index < place + count) := by
      intro within
      obtain ⟨x, y, added, covers⟩ := filled index within.1 within.2
      exact untouched x y (.inr added) covers
    rw [Bytes.byte_copy _ _ _ _ _ room, if_neg outside]
    exact drawn.kept index fun x y before => untouched x y (.inl before)

end Drawn

namespace Plane

variable {source target : Plane} {width height : Nat} {bytes : Bytes}

section Rows

variable {row : Nat} (sourceRoom : source.HasRoom width height)
  (targetRoom : target.HasRoom width height) (within : row < height)

include sourceRoom targetRoom within

theorem copyRow_eq (size : bytes.size = target.bytes.size) :
    source.copyRow target.start target.stride (width * bytesPerPixel) row bytes =
      .ok (source.bytes.copy (width * bytesPerPixel) (source.cell 0 row) (target.cell 0 row) bytes) := by
  have sourceRow := source.row_le_of_lt within
  have targetRow := target.row_le_of_lt within
  have sourceEnd := sourceRoom
  have targetEnd := targetRoom
  simp only [HasRoom] at sourceEnd targetEnd
  simp only [copyRow, rowStart, Checked.bind_eq_ok, address_eq_ok_iff, window_eq_ok_iff, size,
    cell, Nat.zero_mul, Nat.add_zero]
  exact ⟨_, ⟨by omega, rfl⟩, _, ⟨by omega, rfl⟩, _, ⟨by omega, by omega, rfl⟩, _,
    ⟨by omega, by omega, rfl⟩, rfl⟩

theorem copyRow_draws (apart : width * bytesPerPixel ≤ target.stride ∨ height ≤ 1)
    (drawn : Drawn source target Prod.mk (fun x y => x < width ∧ y < row) bytes) :
    ∃ next, source.copyRow target.start target.stride (width * bytesPerPixel) row bytes = .ok next ∧
      Drawn source target Prod.mk (fun x y => x < width ∧ y < row + 1) next := by
  have ends := targetRoom.1
  have above := target.row_le_of_lt within
  refine ⟨_, copyRow_eq sourceRoom targetRoom within drawn.size, ?_⟩
  refine (drawn.extend (fun x y => x < width ∧ y = row) ?_ ?_ ?_ ?_).congr fun x y => ?_
  next =>
    simp only [cell]
    omega
  next =>
    rintro x y ⟨column, rfl⟩
    refine ⟨x * bytesPerPixel, ?_, ?_, ?_⟩
    all_goals
      simp only [cell, bytesPerPixel]
      omega
  next =>
    intro index lower upper
    refine ⟨(index - target.cell 0 row) / bytesPerPixel, row, ⟨?_, rfl⟩, ?_⟩
    all_goals
      simp only [Covers, cell, bytesPerPixel] at lower upper ⊢
      omega
  next =>
    intro x y before index covers strip
    have found : target.Covers ((index - target.cell 0 row) / bytesPerPixel) row index := by
      simp only [Covers, cell, bytesPerPixel] at strip ⊢
      omega
    have inside : (index - target.cell 0 row) / bytesPerPixel < width := by
      simp only [bytesPerPixel] at strip ⊢
      omega
    have same := covers.unique found before.1 inside (by omega)
    omega
  next => omega

end Rows

theorem copyRows_draws (sourceRoom : source.HasRoom width height)
    (targetRoom : target.HasRoom width height)
    (apart : width * bytesPerPixel ≤ target.stride ∨ height ≤ 1) :
    ∃ bytes, source.copyRows (width * bytesPerPixel) height target = .ok bytes ∧
      Drawn source target Prod.mk (fun x y => x < width ∧ y < height) bytes := by
  simp only [copyRows]
  split
  next hollow =>
    refine ⟨_, rfl, .start fun x y inside => ?_⟩
    simp only [bytesPerPixel] at hollow
    omega
  next =>
    have begun : Drawn source target Prod.mk (fun x y => x < width ∧ y < 0) target.bytes :=
      .start (by omega)
    have swept := sweep_keeps
      (fun row bytes => Drawn source target Prod.mk (fun x y => x < width ∧ y < row) bytes) height
      begun fun row bytes _ below drawn =>
        copyRow_draws sourceRoom targetRoom (by omega) apart drawn
    simpa only [Nat.zero_add] using swept

theorem room_of_copyRows (wide : 0 < width) (high : 0 < height)
    (copied : source.copyRows (width * bytesPerPixel) height target = .ok bytes) :
    source.start + ((height - 1) * source.stride + width * bytesPerPixel) ≤ source.bytes.size ∧
      target.start + ((height - 1) * target.stride + width * bytesPerPixel) ≤ target.bytes.size := by
  rw [copyRows, if_neg (by simp only [bytesPerPixel]; omega)] at copied
  have ends := sweep_leaves (fun y bytes => Array.size bytes = target.bytes.size ∧ (y = 0 ∨
      source.start + ((y - 1) * source.stride + width * bytesPerPixel) ≤ source.bytes.size ∧
        target.start + ((y - 1) * target.stride + width * bytesPerPixel) ≤ target.bytes.size))
    height ⟨rfl, .inl rfl⟩ copied fun y bytes next _ _ held stepped => by
    obtain ⟨size, _⟩ := held
    simp only [copyRow, rowStart, Checked.bind_eq_ok, address_eq_ok_iff, window_eq_ok_iff] at stepped
    obtain ⟨_, ⟨_, rfl⟩, _, ⟨_, rfl⟩, _, ⟨_, targetEnd, _⟩, _, ⟨_, sourceEnd, _⟩, stepped⟩ := stepped
    cases stepped
    exact ⟨(Bytes.size_copy ..).trans size, .inr ⟨sourceEnd, size ▸ targetEnd⟩⟩
  rw [Nat.zero_add] at ends
  exact ends.2.resolve_left (by omega)

section Turn

variable {rotation : Rotation} (sourceRoom : source.HasRoom width height)
  (targetRoom : target.HasRoom (rotation.turnExtent width height).1 (rotation.turnExtent width height).2)
  (apart : (rotation.turnExtent width height).1 * bytesPerPixel ≤ target.stride ∨
    (rotation.turnExtent width height).2 ≤ 1)

include sourceRoom targetRoom

theorem turnPixel_eq {x y : Nat} (column : x < width) (row : y < height)
    (size : bytes.size = target.bytes.size) {cell : Nat × Nat}
    (turn : rotation.turnCell width height x y = cell) :
    source.turnPixel target.start target.stride width height rotation y
        (source.start + y * source.stride) x bytes =
      .ok (source.bytes.copy bytesPerPixel (source.cell x y) (target.cell cell.1 cell.2) bytes) := by
  have lands := rotation.turnCell_lt column row
  have sourceEnd := sourceRoom.cell_le column row
  have targetEnd := targetRoom.cell_le lands.1 lands.2
  have sourceLimit := sourceRoom.2
  have targetLimit := targetRoom.2
  rw [turn] at targetEnd
  simp only [Plane.cell] at sourceEnd targetEnd
  simp only [turnPixel, turn, Checked.bind_eq_ok, address_eq_ok_iff, window_eq_ok_iff, size,
    Plane.cell]
  exact ⟨_, ⟨by omega, rfl⟩, _, ⟨by omega, rfl⟩, _, ⟨by omega, rfl⟩, _, ⟨by omega, rfl⟩, _,
    ⟨by omega, by omega, rfl⟩, _, ⟨by omega, by omega, rfl⟩, by simp only [Nat.add_assoc]; rfl⟩

include apart

theorem turnPixel_draws {x y : Nat} (column : x < width) (row : y < height)
    (drawn : Drawn source target (rotation.turnCell width height)
      (fun x' y' => x' < width ∧ (y' < y ∨ y' = y ∧ x' < x)) bytes) :
    ∃ next, source.turnPixel target.start target.stride width height rotation y
        (source.start + y * source.stride) x bytes = .ok next ∧
      Drawn source target (rotation.turnCell width height)
        (fun x' y' => x' < width ∧ (y' < y ∨ y' = y ∧ x' < x + 1)) next := by
  have lands := rotation.turnCell_lt column row
  refine ⟨_, turnPixel_eq sourceRoom targetRoom column row drawn.size rfl, ?_⟩
  refine (drawn.extend (fun x' y' => x' = x ∧ y' = y) ?_ ?_ ?_ ?_).congr fun x' y' => ?_
  next => exact targetRoom.cell_le lands.1 lands.2
  next =>
    rintro x' y' ⟨rfl, rfl⟩
    exact ⟨0, by omega, rfl, rfl⟩
  next => exact fun index lower upper => ⟨x, y, ⟨rfl, rfl⟩, lower, upper⟩
  next =>
    -- Two pixels with a byte in common would be the same cell of the turned block.
    intro x' y' before index covers strip
    have lands' := rotation.turnCell_lt before.1 (show y' < height by omega)
    have same := covers.unique strip lands'.1 lands.1 (apart.imp_right fun flat => by omega)
    have equal := rotation.turnCell_injective before.1 (by omega) column row
      (Prod.ext same.1 same.2)
    omega
  next => omega

theorem turnRow_draws {y : Nat} (row : y < height)
    (drawn : Drawn source target (rotation.turnCell width height)
      (fun x' y' => x' < width ∧ y' < y) bytes) :
    ∃ next, source.turnRow target.start target.stride width height rotation y bytes = .ok next ∧
      Drawn source target (rotation.turnCell width height)
        (fun x' y' => x' < width ∧ y' < y + 1) next := by
  have above := source.row_le_of_lt row
  have ends := sourceRoom
  simp only [HasRoom] at ends
  have begun : source.turnRow target.start target.stride width height rotation y bytes =
      sweep (source.turnPixel target.start target.stride width height rotation y
        (source.start + y * source.stride)) width 0 bytes := by
    have offset : source.rowStart y = .ok (y * source.stride) :=
      address_eq_ok_iff.mpr ⟨by omega, rfl⟩
    have start : twoCuts source.bytes.size source.start (y * source.stride) 0 =
        .ok (source.start + y * source.stride) := twoCuts_eq_ok_iff.mpr ⟨by omega, rfl⟩
    rw [turnRow, offset, Checked.ok_bind, start, Checked.ok_bind]
  have none : Drawn source target (rotation.turnCell width height)
      (fun x' y' => x' < width ∧ (y' < y ∨ y' = y ∧ x' < 0)) bytes := drawn.congr (by omega)
  have swept := sweep_keeps
    (fun x bytes => Drawn source target (rotation.turnCell width height)
      (fun x' y' => x' < width ∧ (y' < y ∨ y' = y ∧ x' < x)) bytes) width
    none fun x bytes _ below drawn =>
      turnPixel_draws sourceRoom targetRoom apart (by omega) row drawn
  obtain ⟨next, ran, painted⟩ := swept
  exact ⟨next, begun.trans ran, painted.congr (by omega)⟩

theorem turnBlock_draws : ∃ bytes, source.turnBlock rotation width height target = .ok bytes ∧
    Drawn source target (rotation.turnCell width height) (fun x y => x < width ∧ y < height) bytes := by
  unfold turnBlock
  split
  next hollow => exact ⟨_, rfl, .start (by omega)⟩
  next =>
    have turned : ∃ bytes, sweep (source.turnRow target.start target.stride width height rotation)
          height 0 target.bytes = .ok bytes ∧
        Drawn source target (rotation.turnCell width height)
          (fun x y => x < width ∧ y < height) bytes := by
      have begun : Drawn source target (rotation.turnCell width height)
          (fun x' y' => x' < width ∧ y' < 0) target.bytes := .start (by omega)
      have swept := sweep_keeps
        (fun y bytes => Drawn source target (rotation.turnCell width height)
          (fun x' y' => x' < width ∧ y' < y) bytes) height
        begun fun y bytes _ below drawn =>
          turnRow_draws sourceRoom targetRoom apart (by omega) drawn
      simpa only [Nat.zero_add] using swept
    cases rotation with
    | deg0 =>
      have bound : width * bytesPerPixel < addressLimit := by
        have ends := sourceRoom
        simp only [HasRoom] at ends
        omega
      simp only [address_eq_ok_iff.mpr ⟨bound, rfl⟩, Checked.ok_bind]
      exact copyRows_draws sourceRoom targetRoom apart
    | deg90 | deg180 | deg270 => exact turned

end Turn

end Plane

end ScreenCapture
