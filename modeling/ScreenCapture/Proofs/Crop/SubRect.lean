import ScreenCapture.Proofs.Changes.Answers
import ScreenCapture.Proofs.Crop.Nesting
import ScreenCapture.Proofs.Region.Edits
import ScreenCapture.Proofs.Rotation.Composition

set_option autoImplicit false

namespace ScreenCapture

variable {frame part other otherPart target : Frame} {rect visible : Rect} {store next : Store}

namespace Frame

structure LiesAt (part frame : Frame) (visible : Rect) : Prop where
  size : part.size = ⟨visible.right - visible.left, visible.bottom - visible.top⟩
  stride : part.stride = frame.stride
  buffer : part.buffer = frame.buffer
  place : ∀ point : Point, 0 ≤ point.x → 0 ≤ point.y →
    part.place point = frame.place (point.plus visible.topLeft)

theorem crop?_liesAt (layout : frame.Layout store)
    (taken : frame.crop? rect store = .ok (some part, next)) :
    part.LiesAt frame (frame.bounds.meet rect) := by
  obtain ⟨_, solid, ⟨whole, rfl⟩ | ⟨_, _, rfl⟩⟩ := crop?_eq_some layout taken
  next =>
    rw [whole]
    refine ⟨?_, rfl, rfl, fun point _ _ => ?_⟩
    next => simp only [bounds, Rect.ofSize, Int.sub_zero]
    next => simp only [bounds, Rect.ofSize, Rect.topLeft, Point.plus, Int.add_zero]
  next =>
    have edges := bounds_encloses_iff.mp (Region.encloses_meet _ solid)
    exact ⟨rfl, rfl, rfl, fun point across down => place_window edges.1.1 edges.2.1 across down⟩

namespace LiesAt

variable (lies : part.LiesAt frame visible)

include lies

theorem bounds_eq :
    part.bounds = ⟨0, 0, visible.right - visible.left, visible.bottom - visible.top⟩ := by
  rw [bounds, lies.size]
  rfl

theorem bounds_isEmpty : part.bounds.isEmpty = visible.isEmpty := by
  rw [lies.bounds_eq, Bool.eq_iff_iff, Rect.isEmpty_iff, Rect.isEmpty_iff]
  dsimp only
  omega

theorem corner_zero : part.corner store .zero = frame.corner store visible.topLeft := by
  have place := lies.place .zero (Int.le_refl _) (Int.le_refl _)
  have origin : Point.zero.plus visible.topLeft = visible.topLeft := by
    simp only [Point.plus, Point.zero, Int.zero_add]
  rw [corner, corner, lies.buffer, lies.stride, place, origin]

theorem view {point : Point} (across : 0 ≤ point.x) (down : 0 ≤ point.y) :
    part.view store point = frame.view store (point.plus visible.topLeft) := by
  rw [Frame.view, Frame.view, lies.buffer, lies.place point across down]

end LiesAt

end Frame

namespace Rotation

theorem turned_moved (rotation : Rotation) (size : Size) (rect : Rect) :
    (rotation.turned size rect).moved (Point.zero.minus (rotation.turned size rect).topLeft) =
      .ofSize (rotation.turnSize ⟨rect.right - rect.left, rect.bottom - rect.top⟩) := by
  cases rotation <;>
    simp only [turned, turnSize, Rect.moved, Rect.ofSize, Rect.topLeft, Point.minus, Point.zero,
      Rect.mk.injEq] <;>
    omega

theorem turned_ofSize (rotation : Rotation) (size : Size) :
    rotation.turned size (.ofSize size) = .ofSize (rotation.turnSize size) := by
  cases rotation <;> simp only [turned, turnSize, Rect.ofSize, Int.sub_self, Int.sub_zero]

end Rotation

namespace Frame

theorem bounds_encloses_bounds (frame : Frame) : frame.bounds.encloses frame.bounds = true := by
  rw [Rect.encloses_iff]
  omega

theorem landing_bounds (fits : frame.Fits store) (solid : frame.bounds.isEmpty = false)
    (rotation : Rotation) :
    rotation.landing frame.size .zero frame.bounds = .ok (.ofSize (rotation.turnSize frame.size)) := by
  have landed := rotation.landing_zero fits.width.2 fits.height.2 frame.bounds_encloses_bounds solid
  rw [landed, bounds, rotation.turned_ofSize]

theorem exists_drawTurned_bounds_iff (targetFits : target.Fits store) (fits : frame.Fits store)
    (solid : frame.bounds.isEmpty = false) (rotation : Rotation) :
    (∃ result, target.drawTurned frame frame.bounds rotation .zero store = .ok result) ↔
      target.bounds.encloses (.ofSize (rotation.turnSize frame.size)) = true ∧
        target.isWritable store = true := by
  have landed := landing_bounds fits solid rotation
  have turnedSolid := (Rotation.landing_isEmpty landed).trans solid
  rw [exists_drawTurned_iff targetFits fits, landed]
  simp only [Except.ok.injEq, exists_eq_left', turnedSolid, Bool.false_eq_true, false_or,
    frame.bounds_encloses_bounds, true_and]

theorem LiesAt.drawTurned_eq (lies : part.LiesAt frame visible) (fits : frame.Fits store)
    (partFits : part.Fits store) (inside : frame.bounds.encloses visible = true)
    (solid : visible.isEmpty = false) (rotation : Rotation) :
    ∃ turned back, rotation.turnRect frame.size visible = .ok turned ∧
      turned.topLeft.neg = .ok back ∧ ∀ target : Frame,
        target.drawTurned part part.bounds rotation .zero store =
          target.drawTurned frame visible rotation back store := by
  have partSolid := lies.bounds_isEmpty.trans solid
  have partLanded := landing_bounds partFits partSolid rotation
  have bounded := (Rotation.landing_eq_ok partLanded).2
  have turning := rotation.turnRect_eq fits.width.2 fits.height.2 inside solid
  have moved := rotation.turned_moved frame.size visible
  rw [← lies.size] at moved
  have back : (rotation.turned frame.size visible).topLeft.neg =
      .ok (Point.zero.minus (rotation.turned frame.size visible).topLeft) := by
    have turnedInside := (rotation.encloses_turned frame.size visible).trans inside
    have sized := rotation.isCoordinate_turnSize fits.width.2 fits.height.2
    have turnedSolid := (rotation.turned_isEmpty frame.size visible).trans solid
    rw [Rect.encloses_iff] at turnedInside
    rw [Rect.isEmpty_eq_false_iff] at turnedSolid
    simp only [IsCoordinate, Rect.ofSize] at sized turnedInside
    refine Point.neg_eq ⟨turnedInside.1.1, turnedInside.2.1⟩ ?_
    simp only [Point.Bounded, Rect.topLeft, IsCoordinate]
    omega
  have landed := Rotation.landing_eq_ok_iff.mpr
    ⟨_, turning, Rect.shift_eq_ok_iff.mpr ⟨moved.symm ▸ bounded, moved⟩⟩
  refine ⟨_, _, turning, back, fun target => ?_⟩
  have width : part.bounds.right - part.bounds.left = visible.right - visible.left := by
    rw [lies.bounds_eq]
    exact Int.sub_zero _
  have height : part.bounds.bottom - part.bounds.top = visible.bottom - visible.top := by
    rw [lies.bounds_eq]
    exact Int.sub_zero _
  have corner : part.corner store part.bounds.topLeft = frame.corner store visible.topLeft :=
    lies.corner_zero
  rw [drawTurned_landed partFits partLanded part.bounds_encloses_bounds partSolid,
    drawTurned_landed fits landed inside solid, corner, width, height]

end Frame

namespace Changes

open ScreenCapture.Frame

theorem blockAt_moved (area : Rect) (move point : Point) :
    blockAt (area.moved move) (point.plus move) = (blockAt area point).moved move := by
  have column : point.x + move.x - (area.left + move.x) = point.x - area.left := by omega
  have line : point.y + move.y - (area.top + move.y) = point.y - area.top := by omega
  simp only [blockAt, Rect.moved, Point.plus, column, line, Rect.mk.injEq]
  omega

theorem dirty_moved_iff (lies : part.LiesAt frame visible) (otherLies : otherPart.LiesAt other visible)
    {area : Rect} (across : 0 ≤ area.left) (down : 0 ≤ area.top) :
    Dirty part otherPart store area ↔ Dirty frame other store (area.moved visible.topLeft) := by
  constructor
  next =>
    intro ⟨point, inside, apart⟩
    have edges := (Rect.contains_iff _ _).mp inside
    refine ⟨point.plus visible.topLeft, ?_, ?_⟩
    next =>
      rw [Rect.contains_moved_plus]
      exact inside
    next => rwa [lies.view (by omega) (by omega), otherLies.view (by omega) (by omega)] at apart
  next =>
    intro ⟨point, inside, apart⟩
    obtain ⟨near, rfl⟩ : ∃ near : Point, near.plus visible.topLeft = point :=
      ⟨point.minus visible.topLeft, by simp only [Point.minus, Point.plus, Int.sub_add_cancel]⟩
    rw [Rect.contains_moved_plus] at inside
    have edges := (Rect.contains_iff _ _).mp inside
    refine ⟨near, inside, ?_⟩
    rw [lies.view (by omega) (by omega), otherLies.view (by omega) (by omega)]
    exact apart

variable {direct inner : Region}

theorem compare_isCanonical (compared : compare frame other store rect .empty = .ok direct) :
    direct.Canonical :=
  compare_canonical compared Region.empty_good.canonical

theorem compare_parts (lies : part.LiesAt frame visible) (otherLies : otherPart.LiesAt other visible)
    (whole : rect.meet frame.bounds = visible) (solid : visible.isEmpty = false)
    (compared : compare frame other store rect .empty = .ok direct)
    (partCompared : compare part otherPart store part.bounds .empty = .ok inner) :
    inner = ⟨direct.rects.map (Rect.moved (Point.zero.minus visible.topLeft))⟩ := by
  refine Region.Canonical.ext (compare_isCanonical partCompared)
    (Region.moved_canonical (compare_isCanonical compared) _) fun point => ?_
  have there : Point.mk (point.x - (Point.zero.minus visible.topLeft).x)
      (point.y - (Point.zero.minus visible.topLeft).y) = point.plus visible.topLeft := by
    simp only [Point.minus, Point.plus, Point.zero, Point.mk.injEq]
    omega
  have partSolid := lies.bounds_isEmpty.trans solid
  have partWhole : part.bounds.meet part.bounds = part.bounds :=
    Rect.meet_of_encloses partSolid part.bounds_encloses_bounds
  have area : part.bounds.moved visible.topLeft = visible := by
    simp only [lies.bounds_eq, Rect.moved, Rect.topLeft, Int.sub_add_cancel, Int.zero_add]
  rw [Region.contains_moved, there, Bool.eq_iff_iff, contains_compare partCompared,
    contains_compare compared, partWhole, whole, Region.contains_empty]
  have within : visible.contains (point.plus visible.topLeft) = part.bounds.contains point := by
    rw [← Rect.contains_moved_plus part.bounds visible.topLeft, area]
  have block : blockAt visible (point.plus visible.topLeft) =
      (blockAt part.bounds point).moved visible.topLeft := by
    rw [← blockAt_moved, area]
  rw [within, block]
  refine or_congr Iff.rfl (and_congr_right fun inside => ?_)
  have edges := bounds_contains_iff.mp inside
  have across : 0 ≤ (blockAt part.bounds point).left := by
    simp only [blockAt, bounds, Rect.ofSize, blockSize_cast]
    omega
  have down : 0 ≤ (blockAt part.bounds point).top := by
    simp only [blockAt, bounds, Rect.ofSize, blockSize_cast]
    omega
  exact dirty_moved_iff lies otherLies across down

theorem exists_compare_parts (fits : frame.Fits store) (otherFits : other.Fits store)
    (partFits : part.Fits store) (otherPartFits : otherPart.Fits store)
    (lies : part.LiesAt frame visible) (otherLies : otherPart.LiesAt other visible)
    (whole : rect.meet frame.bounds = visible) (solid : visible.isEmpty = false)
    (inside : frame.bounds.encloses visible = true)
    (compared : compare frame other store rect .empty = .ok direct) :
    ∃ inner, compare part otherPart store part.bounds .empty = .ok inner := by
  have room := ((exists_compare_iff fits otherFits).mp ⟨direct, compared⟩).2
  rw [whole] at room
  have reached := room.resolve_left (by rw [solid]; exact Bool.false_ne_true)
  have edges := bounds_encloses_iff.mp inside
  refine (exists_compare_iff partFits otherPartFits).mpr ⟨lies.size.trans otherLies.size.symm, ?_⟩
  have partSolid := lies.bounds_isEmpty.trans solid
  have partWhole : part.bounds.meet part.bounds = part.bounds :=
    Rect.meet_of_encloses partSolid part.bounds_encloses_bounds
  rw [partWhole]
  refine .inr ?_
  rw [lies.bounds_eq]
  simp only [blockRows, Int.sub_zero] at reached ⊢
  unfold IsCoordinate at reached ⊢
  omega

end Changes

namespace Frame

theorem crop_addressed (layout : frame.Layout store)
    (taken : frame.crop? rect store = .ok (some part, next)) :
    let visible := frame.bounds.meet rect
    (∀ rotation : Rotation, ∃ turned back, rotation.turnRect frame.size visible = .ok turned ∧
      turned.topLeft.neg = .ok back ∧ ∀ target : Frame,
        target.drawTurned part part.bounds rotation .zero store =
          target.drawTurned frame visible rotation back store ∧
        (target.Fits store →
          ((∃ result, target.drawTurned part part.bounds rotation .zero store = .ok result) ↔
            target.bounds.encloses (.ofSize (rotation.turnSize part.size)) = true ∧
              target.isWritable store = true))) ∧
    ∀ (other otherPart : Frame) (otherNext : Store), other.Layout store → other.size = frame.size →
      other.crop? rect store = .ok (some otherPart, otherNext) → ∀ direct,
        Changes.compare frame other store rect .empty = .ok direct → ∃ back inner,
          visible.topLeft.neg = .ok back ∧ direct.shift back = .ok inner ∧
            Changes.compare part otherPart store part.bounds .empty = .ok inner := by
  intro visible
  obtain ⟨same, solid, _⟩ := crop?_eq_some layout taken
  have partLayout := same ▸ crop?_layout layout taken
  have lies := crop?_liesAt layout taken
  have inside : frame.bounds.encloses visible = true := Region.encloses_meet _ solid
  have partSolid := lies.bounds_isEmpty.trans solid
  refine ⟨fun rotation => ?_, ?_⟩
  next =>
    obtain ⟨turned, back, turning, negated, same⟩ :=
      lies.drawTurned_eq layout.fits partLayout.fits inside solid rotation
    exact ⟨turned, back, turning, negated, fun target => ⟨same target, fun fits =>
      exists_drawTurned_bounds_iff fits partLayout.fits partSolid rotation⟩⟩
  intro other otherPart otherNext otherLayout size otherTaken direct compared
  obtain ⟨otherSame, _⟩ := crop?_eq_some otherLayout otherTaken
  have otherPartLayout := otherSame ▸ crop?_layout otherLayout otherTaken
  have bounds : other.bounds = frame.bounds := congrArg Rect.ofSize size
  have otherLies := crop?_liesAt otherLayout otherTaken
  rw [bounds] at otherLies
  have whole : rect.meet frame.bounds = visible := Rect.meet_comm _ _
  obtain ⟨inner, partCompared⟩ := Changes.exists_compare_parts layout.fits otherLayout.fits
    partLayout.fits otherPartLayout.fits lies otherLies whole solid inside compared
  have moved := Changes.compare_parts lies otherLies whole solid compared partCompared
  have edges := bounds_encloses_iff.mp inside
  have ordered := (Rect.isEmpty_eq_false_iff visible).mp solid
  have bounded : visible.Bounded := by
    have wide := layout.width.2
    have high := layout.height.2
    simp only [Rect.Bounded, IsCoordinate] at wide high ⊢
    omega
  refine ⟨_, inner, Point.neg_eq ⟨edges.1.1, edges.2.1⟩ bounded.1, ?_, partCompared⟩
  rw [moved]
  refine (Changes.compare_isCanonical compared).shift_back (fun point contained => ?_)
    ⟨edges.1.1, edges.2.1⟩ bounded
  rw [Changes.contains_compare compared, whole] at contained
  exact (contained.resolve_left Bool.false_ne_true).1

def spotted : Frame := onBuffer ⟨3, 3⟩ 14 1

def spottedStore : Store :=
  ⟨#[⟨.external, Bytes.zeros 42⟩, ⟨.external, ((Bytes.zeros 42).setColor 0 ⟨1, 2, 3, 4⟩).setColor 22
    ⟨5, 6, 7, 8⟩⟩, ⟨.heap, Bytes.zeros 16⟩], #[], #[]⟩

def fourPixels : Frame := onBuffer ⟨2, 2⟩ 8 2

theorem crop_addressed_of_spotted : padded.Layout spottedStore ∧ ∃ part otherPart back result,
    padded.crop? ⟨1, -5, 9, 2⟩ spottedStore = .ok (some part, spottedStore) ∧
    spotted.crop? ⟨1, -5, 9, 2⟩ spottedStore = .ok (some otherPart, spottedStore) ∧
    fourPixels.drawTurned part part.bounds .deg90 .zero spottedStore = .ok result ∧
    fourPixels.drawTurned padded ⟨1, 0, 3, 2⟩ .deg90 back spottedStore = .ok result ∧
    Changes.compare part otherPart spottedStore part.bounds .empty = .ok ⟨[⟨0, 0, 2, 2⟩]⟩ := by
  have layout : padded.Layout spottedStore := by
    refine Layout.withInfo (layout_onBuffer ?_ ?_ ?_ ?_ ?_) _
    all_goals decide +kernel
  have otherLayout : spotted.Layout spottedStore := by
    refine layout_onBuffer ?_ ?_ ?_ ?_ ?_
    all_goals decide +kernel
  have targetFits : fourPixels.Fits spottedStore := by
    refine Layout.fits (layout_onBuffer ?_ ?_ ?_ ?_ ?_)
    all_goals decide +kernel
  have taken : padded.crop? ⟨1, -5, 9, 2⟩ spottedStore =
      .ok (some (padded.window ⟨1, 0, 3, 2⟩), spottedStore) := crop?_eq layout _
  have otherTaken : spotted.crop? ⟨1, -5, 9, 2⟩ spottedStore =
      .ok (some (spotted.window ⟨1, 0, 3, 2⟩), spottedStore) := crop?_eq otherLayout _
  have compared : Changes.compare padded spotted spottedStore ⟨1, -5, 9, 2⟩ .empty =
      .ok ⟨[⟨1, 0, 3, 2⟩]⟩ := by decide +kernel
  have ⟨turns, compares⟩ := crop_addressed layout taken
  obtain ⟨turned, back, _, _, draws⟩ := turns .deg90
  obtain ⟨same, answers⟩ := draws fourPixels
  obtain ⟨result, drew⟩ := (answers targetFits).mpr (by decide)
  obtain ⟨away, inner, negated, shifted, partCompared⟩ :=
    compares spotted _ _ otherLayout rfl otherTaken _ compared
  cases negated
  cases shifted
  exact ⟨layout, _, _, back, result, taken, otherTaken, drew, same.symm.trans drew, partCompared⟩

end Frame

end ScreenCapture
