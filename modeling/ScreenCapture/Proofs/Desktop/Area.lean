import ScreenCapture.Proofs.Pixels.Overlap

set_option autoImplicit false

namespace ScreenCapture

-- A side that the desktop shows at its full length. The greatest one is rounded up, and then
-- brought back to where coordinates end.
def IsKept (length : Int) : Prop := length = 2147483647 ∨ FitsDigits 24 length.toNat

section Length

variable {length : Int} (proper : 0 ≤ length) (within : IsCoordinate length)

include proper within

theorem logicalLength_rounded :
    logicalLength length 1 = min 2147483647 (roundedTo 24 length.toNat : Int) := by
  obtain ⟨count, rfl⟩ := Int.eq_ofNat_of_zero_le proper
  rw [logicalLength_natCast, clampToCoordinate, Int.toNat_natCast]
  omega

theorem logicalLength_eq_self_iff : logicalLength length 1 = length ↔ IsKept length := by
  rw [logicalLength_rounded proper within, IsKept, ← roundedTo_eq_iff (by decide)]
  by_cases greatest : length = 2147483647
  next =>
    subst greatest
    decide
  next =>
    unfold IsCoordinate at within
    omega

theorem logicalLength_near : 2 ^ 24 * (logicalLength length 1 - length).natAbs ≤ length.natAbs := by
  rw [logicalLength_rounded proper within]
  have near := roundedTo_near (show 0 < 24 by decide) length.toNat
  unfold IsCoordinate at within
  omega

end Length

namespace Frame

variable {frame : Frame} {platform : Platform}

theorem areaOn_eq (plain : platform.scalesPixels = false) : frame.areaOn platform =
    Rect.place frame.info.topLeft.x frame.info.topLeft.y (logicalLength frame.size.width 1)
      (logicalLength frame.size.height 1) := by
  rw [areaOn, scaleOn, Platform.scale_of_not_scalesPixels plain, desktopArea]

theorem areaOn_exact (plain : platform.scalesPixels = false) (typed : frame.size.Bounded)
    (proper : 0 ≤ frame.size.width ∧ 0 ≤ frame.size.height) (reached : frame.desktop.Bounded) :
    (∀ point, frame.desktop.contains point =
      frame.bounds.contains (point.minus frame.info.topLeft)) ∧
    (frame.areaOn platform = .ok frame.desktop ↔
      IsKept frame.size.width ∧ IsKept frame.size.height) ∧
    ∃ width height,
      frame.areaOn platform =
        Rect.place frame.info.topLeft.x frame.info.topLeft.y width height ∧
      2 ^ 24 * (width - frame.size.width).natAbs ≤ frame.size.width.natAbs ∧
      2 ^ 24 * (height - frame.size.height).natAbs ≤ frame.size.height.natAbs := by
  refine ⟨frame.desktop_contains, ?_, _, _, areaOn_eq plain, logicalLength_near proper.1 typed.1,
    logicalLength_near proper.2 typed.2⟩
  rw [areaOn_eq plain, Rect.place_eq_ok_iff, ← logicalLength_eq_self_iff proper.1 typed.1,
    ← logicalLength_eq_self_iff proper.2 typed.2]
  rw [desktop_eq] at reached ⊢
  obtain ⟨_, right, bottom⟩ := reached
  simp only [Rect.mk.injEq, true_and, Int.add_right_inj]
  constructor
  next => exact And.right
  next =>
    rintro ⟨width, height⟩
    rw [width, height]
    exact ⟨⟨right, bottom⟩, rfl, rfl⟩

def wide : Frame :=
  { onBuffer ⟨16777218, 2147483647⟩ 67108872 0 with
    info := { FrameInfo.unset with topLeft := ⟨10, 0⟩, dpi := ⟨192, 192⟩ } }

theorem areaOn_exact_of_wide :
    (Platform.windows.scalesPixels = false ∧ wide.size.Bounded ∧
      (0 ≤ wide.size.width ∧ 0 ≤ wide.size.height) ∧ wide.desktop.Bounded) ∧
    wide.areaOn .windows = .ok ⟨10, 0, 16777228, 2147483647⟩ := by
  refine ⟨by decide, ?_⟩
  have ⟨_, kept, _⟩ := areaOn_exact (show Platform.windows.scalesPixels = false from rfl)
    (show wide.size.Bounded by decide) (by decide) (by decide)
  exact kept.mpr ⟨.inr ⟨8388609, 1, by decide, by decide⟩, .inl rfl⟩

-- The last of 2 ^ 24 + 1 columns is left out. With two columns more the area is one too wide, which is
-- an overflow where the frame ends with the last coordinate there is.
theorem areaOn_misses_column : ∃ (frame edge : Frame) (area : Rect),
    (frame = placed ⟨16777217, 1⟩ 0 .zero ∧ edge = placed ⟨16777219, 1⟩ 0 ⟨2130706428, 0⟩) ∧
    (frame.desktop.Bounded ∧ edge.desktop.Bounded) ∧
    (frame.areaOn .linux = .ok area ∧
      frame.desktop.contains ⟨16777216, 0⟩ = true ∧ area.contains ⟨16777216, 0⟩ = false) ∧
    edge.areaOn .linux = .error .overflow := by
  have less : logicalLength 16777217 1 = 16777216 :=
    (logicalLength_natCast 16777217).trans (by decide)
  have more : logicalLength 16777219 1 = 16777220 :=
    (logicalLength_natCast 16777219).trans (by decide)
  have row : logicalLength 1 1 = 1 := (logicalLength_natCast 1).trans (by decide)
  refine ⟨_, _, ⟨0, 0, 16777216, 1⟩, ⟨rfl, rfl⟩, by decide, ⟨?_, by decide⟩, ?_⟩
  next =>
    rw [areaOn_eq rfl]
    change Rect.place 0 0 (logicalLength 16777217 1) (logicalLength 1 1) = _
    rw [less, row]
    rfl
  next =>
    rw [areaOn_eq rfl]
    change Rect.place 2130706428 0 (logicalLength 16777219 1) (logicalLength 1 1) = _
    rw [more, row]
    rfl

end Frame

end ScreenCapture
