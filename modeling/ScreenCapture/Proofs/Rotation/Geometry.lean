import Mathlib.Algebra.Group.Basic
import Mathlib.Algebra.Group.Int.Defs
import ScreenCapture.Proofs.Region.Bounded
import ScreenCapture.Rotation

set_option autoImplicit false

namespace ScreenCapture

def Point.square (point : Point) : Rect := ⟨point.x, point.y, point.x + 1, point.y + 1⟩

theorem Rect.encloses_trans {outer middle inner : Rect} (first : outer.encloses middle = true)
    (second : middle.encloses inner = true) : outer.encloses inner = true := by
  rw [encloses_iff] at first second ⊢
  omega

theorem Rect.meet_cases (rect other : Rect) : rect.meet other = .zero ∨
    (rect.meet other).isEmpty = false ∧ rect.encloses (rect.meet other) = true ∧
      other.encloses (rect.meet other) = true := by
  unfold meet
  split
  next => exact .inl rfl
  next solid =>
    refine .inr ⟨Bool.not_eq_true _ ▸ solid, ?_⟩
    rw [encloses_iff, encloses_iff]
    simp only [overlap]
    omega

theorem Rect.meet_comm (rect other : Rect) : rect.meet other = other.meet rect := by
  have common : rect.overlap other = other.overlap rect := by
    simp only [overlap, Int.max_comm, Int.min_comm]
  rw [meet, meet, common]

theorem Rect.contains_of_encloses {rect inner : Rect} (inside : rect.encloses inner = true)
    {point : Point} (contained : inner.contains point = true) : rect.contains point = true := by
  rw [encloses_iff] at inside
  rw [contains_iff] at contained ⊢
  omega

namespace Rotation

def turnExtent : Rotation → Nat → Nat → Nat × Nat
  | .deg0, width, height | .deg180, width, height => (width, height)
  | .deg90, width, height | .deg270, width, height => (height, width)

section Cells

variable (rotation : Rotation) {width height x y x' y' : Nat}

theorem turnCell_lt (column : x < width) (row : y < height) :
    (rotation.turnCell width height x y).1 < (rotation.turnExtent width height).1 ∧
      (rotation.turnCell width height x y).2 < (rotation.turnExtent width height).2 := by
  cases rotation <;> simp only [turnCell, turnExtent] <;> omega

theorem turnCell_injective (column : x < width) (row : y < height) (column' : x' < width)
    (row' : y' < height)
    (same : rotation.turnCell width height x y = rotation.turnCell width height x' y') :
    x = x' ∧ y = y' := by
  cases rotation <;> simp only [turnCell, Prod.mk.injEq] at same <;> omega

end Cells

def turned (rotation : Rotation) (size : Size) (rect : Rect) : Rect :=
  match rotation with
  | .deg0 => rect
  | .deg90 =>
      ⟨size.height - rect.bottom, rect.left, size.height - rect.top, rect.right⟩
  | .deg180 =>
      ⟨size.width - rect.right, size.height - rect.bottom,
        size.width - rect.left, size.height - rect.top⟩
  | .deg270 =>
      ⟨rect.top, size.width - rect.right, rect.bottom, size.width - rect.left⟩

def turnedPoint (rotation : Rotation) (size : Size) (point : Point) : Point :=
  (rotation.turned size point.square).topLeft

def landing (rotation : Rotation) (size : Size) (offset : Point) (rect : Rect) : Checked Rect := do
  let turned ← rotation.turnRect size rect
  turned.shift offset

section Turned

variable (rotation next : Rotation) (size : Size) (rect : Rect) (point : Point)

theorem turnRect_eq_ok {target : Rect} (landed : rotation.turnRect size rect = .ok target) :
    target = rotation.turned size rect := by
  cases rotation with
  | deg0 =>
    cases landed
    rfl
  | deg90 | deg180 | deg270 =>
    simp only [turnRect, Rect.place, Rect.width, Rect.height, Checked.bind_eq_ok,
      coordinate_eq_ok_iff, and_assoc, exists_and_left, exists_eq_left', pure, Except.pure,
      Except.ok.injEq] at landed
    obtain ⟨left, top, right, bottom⟩ := target
    simp only [Rect.mk.injEq] at landed
    simp only [turned, Rect.mk.injEq]
    omega

theorem turned_isEmpty : (rotation.turned size rect).isEmpty = rect.isEmpty := by
  rw [Bool.eq_iff_iff, Rect.isEmpty_iff, Rect.isEmpty_iff]
  cases rotation <;> simp only [turned] <;> omega

theorem contains_turned :
    (rotation.turned size rect).contains (rotation.turnedPoint size point) = rect.contains point := by
  rw [Bool.eq_iff_iff, Rect.contains_iff, Rect.contains_iff]
  cases rotation <;> simp only [turnedPoint, turned, Point.square, Rect.topLeft] <;> omega

theorem encloses_turned : (Rect.ofSize (rotation.turnSize size)).encloses (rotation.turned size rect) =
    (Rect.ofSize size).encloses rect := by
  rw [Bool.eq_iff_iff, Rect.encloses_iff, Rect.encloses_iff]
  cases rotation <;> simp only [turned, turnSize, Rect.ofSize] <;> omega

theorem turned_square :
    rotation.turned size point.square = (rotation.turnedPoint size point).square := by
  cases rotation <;>
    simp only [turnedPoint, turned, Point.square, Rect.topLeft, Rect.mk.injEq, true_and, and_true] <;>
      omega

variable {size rect}

theorem turnRect_eq (wide : IsCoordinate size.width) (high : IsCoordinate size.height)
    (inside : (Rect.ofSize size).encloses rect = true) (solid : rect.isEmpty = false) :
    rotation.turnRect size rect = .ok (rotation.turned size rect) := by
  rw [Rect.encloses_iff] at inside
  rw [Rect.isEmpty_eq_false_iff] at solid
  simp only [Rect.ofSize] at inside
  unfold IsCoordinate at wide high
  cases rotation with
  | deg0 => rfl
  | deg90 | deg180 | deg270 =>
    simp only [turnRect, turned, Rect.width, Rect.height, Rect.place]
    simp (disch := unfold IsCoordinate; omega) only [coordinate_of_isCoordinate, Checked.ok_bind]
    simp only [pure, Except.pure, Except.ok.injEq, Rect.mk.injEq, true_and]
    omega

theorem turnedPoint_eq_turnCell {x y : Nat} (column : x < (rect.right - rect.left).toNat)
    (row : y < (rect.bottom - rect.top).toNat) {cell : Nat × Nat}
    (turn : rotation.turnCell (rect.right - rect.left).toNat (rect.bottom - rect.top).toNat x y = cell) :
    rotation.turnedPoint size ⟨rect.left + x, rect.top + y⟩ =
      ⟨(rotation.turned size rect).left + cell.1, (rotation.turned size rect).top + cell.2⟩ := by
  subst turn
  cases rotation <;>
    simp only [turnedPoint, turned, turnCell, Point.square, Rect.topLeft, Point.mk.injEq, true_and,
      and_true] <;>
    omega

end Turned

def plus (rotation next : Rotation) : Rotation :=
  (ofDegrees? (rotation.degrees + next.degrees)).getD .deg0

section Plus

variable (rotation next : Rotation) (size : Size) (rect : Rect) (point : Point)

theorem degrees_plus :
    (rotation.plus next).degrees = (rotation.degrees + next.degrees) % 360 := by
  cases rotation <;> cases next <;> rfl

theorem plus_reverse : rotation.plus rotation.reverse = .deg0 := by
  cases rotation <;> rfl

theorem turnSize_plus : next.turnSize (rotation.turnSize size) = (rotation.plus next).turnSize size := by
  cases rotation <;> cases next <;> rfl

theorem turned_plus : next.turned (rotation.turnSize size) (rotation.turned size rect) =
    (rotation.plus next).turned size rect := by
  obtain ⟨left, top, right, bottom⟩ := rect
  cases rotation <;> cases next <;>
    simp [plus, degrees, ofDegrees?, all, turnSize, turned]

theorem turnedPoint_plus : next.turnedPoint (rotation.turnSize size) (rotation.turnedPoint size point) =
    (rotation.plus next).turnedPoint size point := by
  rw [turnedPoint, ← turned_square, turned_plus]
  rfl

theorem turnedPoint_deg0 : deg0.turnedPoint size point = point := rfl

theorem exists_turnedPoint (contained : (rotation.turned size rect).contains point = true) :
    ∃ origin, rect.contains origin = true ∧ rotation.turnedPoint size origin = point := by
  have back := rotation.reverse.turnedPoint_plus rotation (rotation.turnSize size) point
  have around : rotation.reverse.plus rotation = .deg0 := by
    cases rotation <;> rfl
  rw [turnSize_reverse, around, turnedPoint_deg0] at back
  refine ⟨_, ?_, back⟩
  rw [← back, contains_turned] at contained
  exact contained

end Plus

end Rotation

end ScreenCapture
