import ScreenCapture.Proofs.Crop.Window
import ScreenCapture.Proofs.Rotation.Composition

set_option autoImplicit false

namespace ScreenCapture

theorem Point.plus_assoc (first second third : Point) :
    (first.plus second).plus third = first.plus (second.plus third) := by
  simp only [plus, Int.add_assoc]

theorem Point.plus_comm (first second : Point) : first.plus second = second.plus first := by
  simp only [plus, Int.add_comm]

namespace Rect

variable {rect other inner : Rect}

theorem topLeft_moved (rect : Rect) (move : Point) :
    (rect.moved move).topLeft = rect.topLeft.plus move := rfl

theorem contains_moved_plus (rect : Rect) (move point : Point) :
    (rect.moved move).contains (point.plus move) = rect.contains point := by
  rw [contains_moved]
  simp only [Point.plus, Int.add_sub_cancel]

theorem meet_of_encloses (solid : inner.isEmpty = false) (inside : rect.encloses inner = true) :
    rect.meet inner = inner := by
  rw [encloses_iff] at inside
  have common : rect.overlap inner = inner := by
    obtain ⟨left, top, right, bottom⟩ := inner
    simp only [overlap, Rect.mk.injEq]
    dsimp only at inside
    omega
  rw [meet, common, if_neg (Bool.not_eq_true _ ▸ solid)]

theorem meet_of_isEmpty (hollow : inner.isEmpty = true) : (rect.meet inner).isEmpty = true := by
  have none : (rect.overlap inner).isEmpty = true := by
    rw [isEmpty_iff] at hollow ⊢
    simp only [overlap]
    omega
  rw [meet, if_pos none]
  rfl

theorem meet_meet_self (rect other : Rect) : rect.meet (rect.meet other) = rect.meet other := by
  obtain hollow | ⟨solid, inside, _⟩ := meet_cases rect other
  next =>
    have none : (rect.overlap zero).isEmpty = true := by
      rw [isEmpty_iff]
      simp only [overlap, zero]
      omega
    rw [hollow, meet, if_pos none]
  next => exact meet_of_encloses solid inside

end Rect

theorem FrameInfo.window_window {info : FrameInfo} {outer inner : Rect}
    (inside : ∀ point, inner.contains point = true →
      outer.contains (point.plus outer.topLeft) = true) :
    (info.window outer).window inner = info.window (inner.moved outer.topLeft) := by
  have corner : (info.topLeft.plus outer.topLeft).plus inner.topLeft =
      info.topLeft.plus (inner.moved outer.topLeft).topLeft := by
    rw [Point.plus_assoc, Point.plus_comm outer.topLeft, Rect.topLeft_moved]
  have updated : ((info.window outer).window inner).updated =
      (info.window (inner.moved outer.topLeft)).updated := by
    refine Region.Canonical.ext (window_canonical _ _) (window_canonical _ _) fun point => ?_
    have far : (point.plus inner.topLeft).plus outer.topLeft =
        point.plus (inner.moved outer.topLeft).topLeft := Point.plus_assoc _ _ _
    rw [contains_window, contains_window, contains_window, ← far, Rect.contains_moved_plus,
      Bool.and_assoc]
    congr 1
    cases contained : inner.contains (point.plus inner.topLeft) with
    | true => rw [inside _ contained, Bool.and_self]
    | false => rw [Bool.and_false]
  unfold window at updated ⊢
  dsimp only at updated ⊢
  rw [updated, corner]

namespace Frame

variable {frame first : Frame} {rect other outer inner : Rect} {store next : Store}

theorem window_bounds_encloses : (frame.window outer).bounds.encloses inner = true ↔
    (0 ≤ inner.left ∧ inner.right ≤ outer.right - outer.left) ∧
      0 ≤ inner.top ∧ inner.bottom ≤ outer.bottom - outer.top :=
  bounds_encloses_iff

theorem window_window (across : 0 ≤ outer.left) (down : 0 ≤ outer.top)
    (inside : (frame.window outer).bounds.encloses inner = true) :
    (frame.window outer).window inner = frame.window (inner.moved outer.topLeft) := by
  have edges := window_bounds_encloses.mp inside
  have place : (frame.window outer).place inner.topLeft =
      frame.place (inner.moved outer.topLeft).topLeft :=
    place_window across down edges.1.1 edges.2.1
  have info : (frame.info.window outer).window inner =
      frame.info.window (inner.moved outer.topLeft) := by
    refine FrameInfo.window_window fun point contained => ?_
    rw [Rect.contains_iff] at contained ⊢
    simp only [Point.plus, Rect.topLeft]
    omega
  have width : inner.right + outer.left - (inner.left + outer.left) = inner.right - inner.left := by
    omega
  have height : inner.bottom + outer.top - (inner.top + outer.top) = inner.bottom - inner.top := by
    omega
  unfold window at place info ⊢
  dsimp only at place ⊢
  rw [place, info]
  simp only [Rect.moved, Rect.topLeft, width, height]

theorem crop_crop (layout : frame.Layout store)
    (taken : frame.crop? rect store = .ok (some first, next)) (other : Rect) :
    first.crop? other next =
      frame.crop? ((first.bounds.meet other).moved (frame.bounds.meet rect).topLeft) store := by
  have firstLayout := crop?_layout layout taken
  obtain ⟨rfl, solid, ⟨whole, rfl⟩ | ⟨proper, placed, rfl⟩⟩ := crop?_eq_some layout taken
  next =>
    have corner : first.bounds.topLeft = .zero := rfl
    rw [whole, corner, Rect.moved_zero, crop?_eq layout, crop?_eq layout, Rect.meet_meet_self]
  next =>
    have inside : frame.bounds.encloses (frame.bounds.meet rect) = true :=
      Region.encloses_meet _ solid
    generalize frame.bounds.meet rect = outer at *
    have edges := bounds_encloses_iff.mp inside
    obtain hollow | ⟨innerSolid, innerInside, _⟩ := Rect.meet_cases (frame.window outer).bounds other
    next =>
      have none : ((frame.window outer).bounds.meet other).isEmpty = true := by
        rw [hollow]
        rfl
      have noneMoved := none
      rw [← Rect.moved_isEmpty _ outer.topLeft] at noneMoved
      rw [crop?_eq firstLayout, if_pos none, crop?_eq layout, if_pos (Rect.meet_of_isEmpty noneMoved)]
      rfl
    next =>
      rw [crop?_eq firstLayout, if_neg (Bool.not_eq_true _ ▸ innerSolid)]
      generalize (frame.window outer).bounds.meet other = inner at *
      have innerEdges := window_bounds_encloses.mp innerInside
      have movedSolid : (inner.moved outer.topLeft).isEmpty = false := by
        rw [Rect.moved_isEmpty]
        exact innerSolid
      have within : outer.encloses (inner.moved outer.topLeft) = true := by
        rw [Rect.encloses_iff]
        simp only [Rect.moved, Rect.topLeft]
        omega
      have movedMeet := Rect.meet_of_encloses movedSolid (Rect.encloses_trans inside within)
      have edgesOf : frame.bounds = ⟨0, 0, frame.size.width, frame.size.height⟩ := rfl
      have movedProper : inner.moved outer.topLeft ≠ frame.bounds := by
        intro same
        apply proper
        rw [same] at within
        have around := (Rect.encloses_iff _ _).mp within
        obtain ⟨left, top, right, bottom⟩ := outer
        rw [edgesOf] at around ⊢
        simp only [Rect.mk.injEq]
        dsimp only at around edges
        omega
      have corner : (frame.window outer).info.topLeft.plus inner.topLeft =
          frame.info.topLeft.plus (inner.moved outer.topLeft).topLeft := by
        rw [Rect.topLeft_moved, Point.plus_comm inner.topLeft, ← Point.plus_assoc]
        rfl
      rw [crop?_eq layout, movedMeet, movedSolid, if_neg Bool.false_ne_true, if_neg movedProper, corner,
        window_window edges.1.1 edges.2.1 innerInside]
      split
      next whole =>
        have same : inner.moved outer.topLeft = outer := by
          obtain ⟨left, top, right, bottom⟩ := outer
          rw [whole]
          simp only [window, bounds, Rect.ofSize, Rect.moved, Rect.topLeft, Rect.mk.injEq]
          omega
        rw [same, if_pos placed]
      next => rfl

theorem crop_crop_of_padded : padded.Layout paddedStore ∧ ∃ first second,
    padded.crop? ⟨1, -5, 9, 2⟩ paddedStore = .ok (some first, paddedStore) ∧
      first.crop? ⟨1, 1, 5, 5⟩ paddedStore = .ok (some second, paddedStore) ∧
        padded.crop? ⟨2, 1, 3, 2⟩ paddedStore = .ok (some second, paddedStore) := by
  have outer : padded.crop? ⟨1, -5, 9, 2⟩ paddedStore =
      .ok (some (padded.window ⟨1, 0, 3, 2⟩), paddedStore) := crop?_eq padded_layout _
  have inner : padded.crop? ⟨2, 1, 3, 2⟩ paddedStore =
      .ok (some (padded.window ⟨2, 1, 3, 2⟩), paddedStore) := crop?_eq padded_layout _
  exact ⟨padded_layout, _, _, outer, (crop_crop padded_layout outer ⟨1, 1, 5, 5⟩).trans inner, inner⟩

end Frame

end ScreenCapture
