import ScreenCapture.Proofs.Pixels.Overlap

set_option autoImplicit false

namespace ScreenCapture

namespace Frame

variable {frame source : Frame} {store : Store}

def Touches (frame source : Frame) : Prop :=
  ∃ point, frame.desktop.contains point = true ∧ source.desktop.contains point = true

theorem overlaps_distanceTo_iff {point : Point} :
    frame.Overlaps source (frame.distanceTo source) (point.minus frame.info.topLeft) ↔
      frame.desktop.contains point = true ∧ source.desktop.contains point = true := by
  have same : (point.minus frame.info.topLeft).minus (frame.distanceTo source) =
      point.minus source.info.topLeft := by
    simp only [Point.minus, distanceTo, Point.mk.injEq]
    omega
  rw [Overlaps, same, desktop_contains, desktop_contains]

theorem touches_iff : frame.Touches source ↔
    ∃ point, frame.Overlaps source (frame.distanceTo source) point := by
  constructor
  next =>
    rintro ⟨point, common⟩
    exact ⟨_, overlaps_distanceTo_iff.mpr common⟩
  next =>
    rintro ⟨point, overlaps⟩
    have back : (point.plus frame.info.topLeft).minus frame.info.topLeft = point := by
      simp only [Point.minus, Point.plus, Int.add_sub_cancel]
    exact ⟨_, overlaps_distanceTo_iff.mp (back.symm ▸ overlaps)⟩

theorem topLeft_bounded (own : frame.desktop.Bounded) : frame.info.topLeft.Bounded := by
  rw [desktop_eq] at own
  exact own.1

section Unscaled

variable (fits : frame.Fits store) (sourceFits : source.Fits store)

include fits sourceFits

theorem Touches.distanceTo_bounded (touches : frame.Touches source) :
    (frame.distanceTo source).Bounded := by
  obtain ⟨point, inside, sourceInside⟩ := touches
  have width := fits.width
  have height := fits.height
  have sourceWidth := sourceFits.width
  have sourceHeight := sourceFits.height
  rw [desktop_contains, bounds_contains_iff] at inside sourceInside
  simp only [IsCoordinate] at width height sourceWidth sourceHeight
  simp only [Point.Bounded, IsCoordinate, distanceTo, Point.minus] at inside sourceInside ⊢
  omega

variable (own : frame.desktop.Bounded) (other : source.desktop.Bounded)

include own other

omit fits sourceFits in
theorem meets_one (near : (frame.distanceTo source).Bounded)
    (back : frame.Touches source → (Point.zero.minus frame.info.topLeft).Bounded) :
    frame.Meets source .zero := by
  refine ⟨near, other, ?_, ?_, own, fun common => back ?_⟩
  next => rwa [Rect.moved_zero]
  next => rwa [offsetTo_zero]
  next => rwa [touches_iff, ← offsetTo_zero]

omit fits sourceFits own other in
theorem copyOverlap_far (far : ¬ (frame.distanceTo source).Bounded) (horizontal vertical : Factor) :
    frame.copyOverlap source horizontal vertical store = .error .overflow := by
  rw [distanceTo] at far
  rw [copyOverlap, alignTo, Point.sub_eq, if_neg far]
  rfl

variable (exact : frame.size.IsExact) (sourceExact : source.size.IsExact)

include exact sourceExact

theorem copyOverlap_one_apart (near : (frame.distanceTo source).Bounded)
    (apart : ¬ frame.Touches source) :
    frame.copyOverlap source .one .one store = .ok (false, store) := by
  refine copyOverlap_apart fits sourceFits exact sourceExact (topLeft_bounded own)
    (topLeft_bounded other) adjustedBy_one
    (meets_one own other near fun touches => absurd touches apart) ?_
  rw [← Bool.not_eq_false]
  intro solid
  have common := contains_overlapWith.mp (contains_topLeft solid)
  rw [offsetTo_zero] at common
  exact apart (touches_iff.mpr ⟨_, common⟩)

theorem copyOverlap_one_touching (writable : frame.isWritable store = true)
    (touches : frame.Touches source) (back : (Point.zero.minus frame.info.topLeft).Bounded) :
    ∃ next, frame.copyOverlap source .one .one store = .ok (true, next) ∧
      Overlaid frame source (frame.distanceTo source) store next := by
  have near := touches.distanceTo_bounded fits sourceFits
  obtain ⟨answer, next, ran, answered, overlaid⟩ := copyOverlap_eq fits sourceFits exact sourceExact
    (topLeft_bounded own) (topLeft_bounded other) adjustedBy_one writable
    (meets_one own other near fun _ => back)
  rw [offsetTo_zero] at answered overlaid
  have yes : answer = true := answered.mpr (touches_iff.mp touches)
  exact ⟨next, yes ▸ ran, overlaid⟩

theorem copyOverlap_one_least (touches : frame.Touches source)
    (least : ¬ (Point.zero.minus frame.info.topLeft).Bounded) :
    frame.copyOverlap source .one .one store = .error .overflow := by
  have near := touches.distanceTo_bounded fits sourceFits
  have aligned : source.alignTo frame.info.topLeft .one .one =
      .ok (frame.distanceTo source, source.desktop) := by
    rw [alignTo_eq_ok_iff ⟨sourceFits.width.2, sourceFits.height.2⟩ sourceExact
      (topLeft_bounded other) adjustedBy_one, offsetTo_zero, Rect.moved_zero]
    exact ⟨⟨near, other, other, near⟩, rfl, rfl⟩
  have placed := (area_eq_ok_iff ⟨fits.width.2, fits.height.2⟩ exact
    (topLeft_bounded own)).mpr ⟨own, rfl⟩
  have solid : (source.desktop.meet frame.desktop).isEmpty = false := by
    obtain ⟨point, inside, sourceInside⟩ := touches
    rw [← Bool.not_eq_true]
    intro hollow
    have none := Rect.contains_of_isEmpty hollow point
    rw [Rect.contains_meet, inside, sourceInside] at none
    cases none
  simp only [copyOverlap, aligned, placed, Checked.ok_bind, solid, Point.neg_eq_sub, Point.sub_eq,
    if_neg least, Checked.error_bind, Bool.false_eq_true, if_false]

-- How far apart the frames are is asked before it is known whether they have anything in common.
theorem copyOverlap_unscaled (writable : frame.isWritable store = true) :
    (¬ frame.Touches source → frame.copyOverlap source .one .one store =
      if (frame.distanceTo source).Bounded then .ok (false, store) else .error .overflow) ∧
    (frame.Touches source →
      if frame.info.topLeft.x = -2147483648 ∨ frame.info.topLeft.y = -2147483648 then
        frame.copyOverlap source .one .one store = .error .overflow
      else ∃ next, frame.copyOverlap source .one .one store = .ok (true, next) ∧
        Overlaid frame source (frame.distanceTo source) store next) := by
  have corner := topLeft_bounded own
  simp only [Point.Bounded, IsCoordinate] at corner
  constructor
  next =>
    intro apart
    split
    next near => exact copyOverlap_one_apart fits sourceFits own other exact sourceExact near apart
    next far => exact copyOverlap_far far .one .one
  next =>
    intro touches
    split
    next least =>
      refine copyOverlap_one_least fits sourceFits own other exact sourceExact touches ?_
      simp only [Point.Bounded, IsCoordinate, Point.minus, Point.zero]
      omega
    next greater =>
      refine copyOverlap_one_touching fits sourceFits own other exact sourceExact writable touches ?_
      simp only [Point.Bounded, IsCoordinate, Point.minus, Point.zero]
      omega

end Unscaled

theorem copyOverlap_unscaled_last : ∃ frame source next,
    (frame = placed ⟨3, 2⟩ 0 ⟨2147483644, -5⟩ ∧ source = placed ⟨2, 2⟩ 1 ⟨2147483645, -6⟩) ∧
    (frame.Fits paired ∧ source.Fits paired ∧ frame.desktop.Bounded ∧ source.desktop.Bounded ∧
      frame.size.IsExact ∧ source.size.IsExact ∧ frame.isWritable paired = true) ∧
    frame.copyOverlap source .one .one paired = .ok (true, next) ∧
    Overlaid frame source ⟨1, -1⟩ paired next := by
  obtain ⟨fits, sourceFits⟩ := placed_fits ⟨2147483644, -5⟩ ⟨2147483645, -6⟩
  obtain ⟨exact, sourceExact⟩ := placed_isExact ⟨2147483644, -5⟩ ⟨2147483645, -6⟩
  obtain ⟨next, ran, overlaid⟩ := (copyOverlap_unscaled fits sourceFits (by decide) (by decide) exact
    sourceExact rfl).2 ⟨⟨2147483645, -5⟩, by decide, by decide⟩
  exact ⟨_, _, next, ⟨rfl, rfl⟩,
    ⟨fits, sourceFits, by decide, by decide, exact, sourceExact, rfl⟩, ran, overlaid⟩

theorem copyOverlap_overflows : ∃ frame source corner neighbour,
    (frame = placed ⟨3, 2⟩ 0 ⟨-2000000000, 0⟩ ∧ source = placed ⟨2, 2⟩ 1 ⟨2000000000, 0⟩ ∧
      corner = placed ⟨3, 2⟩ 0 ⟨-2147483648, 0⟩ ∧ neighbour = placed ⟨2, 2⟩ 1 ⟨-2147483647, 0⟩) ∧
    (frame.Fits paired ∧ source.Fits paired ∧ frame.desktop.Bounded ∧ source.desktop.Bounded ∧
      frame.isWritable paired = true ∧ ¬ frame.Touches source) ∧
    frame.copyOverlap source .one .one paired = .error .overflow ∧
    (corner.Fits paired ∧ neighbour.Fits paired ∧ corner.desktop.Bounded ∧
      neighbour.desktop.Bounded ∧ corner.isWritable paired = true ∧ corner.Touches neighbour) ∧
    corner.copyOverlap neighbour .one .one paired = .error .overflow := by
  obtain ⟨fits, sourceFits⟩ := placed_fits ⟨-2000000000, 0⟩ ⟨2000000000, 0⟩
  obtain ⟨cornerFits, neighbourFits⟩ := placed_fits ⟨-2147483648, 0⟩ ⟨-2147483647, 0⟩
  obtain ⟨exact, neighbourExact⟩ := placed_isExact ⟨-2147483648, 0⟩ ⟨-2147483647, 0⟩
  have far : ¬ ((placed ⟨3, 2⟩ 0 ⟨-2000000000, 0⟩).distanceTo
      (placed ⟨2, 2⟩ 1 ⟨2000000000, 0⟩)).Bounded := by decide
  have apart : ¬ (placed ⟨3, 2⟩ 0 ⟨-2000000000, 0⟩).Touches (placed ⟨2, 2⟩ 1 ⟨2000000000, 0⟩) :=
    fun common => far (common.distanceTo_bounded fits sourceFits)
  have touches : (placed ⟨3, 2⟩ 0 ⟨-2147483648, 0⟩).Touches (placed ⟨2, 2⟩ 1 ⟨-2147483647, 0⟩) :=
    ⟨⟨-2147483647, 0⟩, by decide, by decide⟩
  exact ⟨_, _, _, _, ⟨rfl, rfl, rfl, rfl⟩,
    ⟨fits, sourceFits, by decide, by decide, rfl, apart⟩, copyOverlap_far far .one .one,
    ⟨cornerFits, neighbourFits, by decide, by decide, rfl, touches⟩,
    copyOverlap_one_least cornerFits neighbourFits (by decide) (by decide) exact neighbourExact
      touches (by decide)⟩

end Frame

end ScreenCapture
