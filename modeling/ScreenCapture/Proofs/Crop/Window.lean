import ScreenCapture.Proofs.Pixels.Crop
import ScreenCapture.Proofs.Pixels.Overlap
import ScreenCapture.Proofs.Pixels.Painting

set_option autoImplicit false

namespace ScreenCapture

theorem Point.neg_eq {point : Point} (ahead : 0 ≤ point.x ∧ 0 ≤ point.y) (bounded : point.Bounded) :
    point.neg = .ok (zero.minus point) := by
  rw [Point.neg_eq_sub]
  refine Point.sub_eq_ok_iff.mpr ⟨?_, rfl⟩
  simp only [Point.Bounded, Point.minus, Point.zero, IsCoordinate] at bounded ⊢
  omega

theorem Region.Canonical.shift_back {region : Region} {outer : Rect} (canonical : region.Canonical)
    (within : ∀ point, region.contains point = true → outer.contains point = true)
    (corner : 0 ≤ outer.left ∧ 0 ≤ outer.top) (bounded : outer.Bounded) :
    region.shift (Point.zero.minus outer.topLeft) =
      .ok ⟨region.rects.map (Rect.moved (Point.zero.minus outer.topLeft))⟩ := by
  rw [Region.shift_eq, if_pos]
  intro rect member
  have edges := (Rect.encloses_iff outer rect).mp (canonical.encloses_of_contains within rect member)
  have solid := (Rect.isEmpty_eq_false_iff rect).mp (canonical.solid rect member)
  simp only [Rect.Bounded, Rect.moved, Point.minus, Point.zero, Rect.topLeft, IsCoordinate] at bounded ⊢
  omega

def FrameInfo.window (info : FrameInfo) (visible : Rect) : FrameInfo :=
  { info with
    topLeft := info.topLeft.plus visible.topLeft
    updated :=
      ⟨(info.updated.clip visible).rects.map (Rect.moved (Point.zero.minus visible.topLeft))⟩ }

namespace FrameInfo

variable (info : FrameInfo) (visible : Rect)

theorem window_canonical : (info.window visible).updated.Canonical :=
  Region.moved_canonical (Region.ofRects_canonical _) _

theorem contains_window (point : Point) : (info.window visible).updated.contains point =
    (info.updated.contains (point.plus visible.topLeft) &&
      visible.contains (point.plus visible.topLeft)) := by
  have back : Point.mk (point.x - (Point.zero.minus visible.topLeft).x)
      (point.y - (Point.zero.minus visible.topLeft).y) = point.plus visible.topLeft := by
    simp only [Point.minus, Point.plus, Point.zero, Point.mk.injEq]
    omega
  rw [window, Region.contains_moved, Region.contains_clip, back]

variable {visible}

-- Only the corner can be out of range: all that is updated in a part lies between its edges.
theorem crop_eq (corner : 0 ≤ visible.left ∧ 0 ≤ visible.top) (bounded : visible.Bounded) :
    info.crop visible = if (info.topLeft.plus visible.topLeft).Bounded
      then .ok (info.window visible) else .error .overflow := by
  have back : visible.topLeft.neg = .ok (Point.zero.minus visible.topLeft) :=
    Point.neg_eq corner bounded.1
  have clipped : (info.updated.clip visible).Canonical := Region.ofRects_canonical _
  have within (point : Point) (contained : (info.updated.clip visible).contains point = true) :
      visible.contains point = true := by
    rw [Region.contains_clip, Bool.and_eq_true] at contained
    exact contained.2
  unfold crop
  rw [Point.add_eq, back]
  split
  next =>
    rw [Checked.ok_bind, Checked.ok_bind, clipped.shift_back within corner bounded]
    rfl
  next => rfl

end FrameInfo

namespace Frame

def window (frame : Frame) (visible : Rect) : Frame :=
  { frame with
    size := ⟨visible.right - visible.left, visible.bottom - visible.top⟩
    offset := frame.place visible.topLeft
    wrapping := .crop
    isCropped := true
    info := frame.info.window visible }

variable {frame part : Frame} {rect visible : Rect} {store next : Store} {point : Point}

theorem place_window (across : 0 ≤ visible.left) (down : 0 ≤ visible.top)
    (right : 0 ≤ point.x) (below : 0 ≤ point.y) :
    (frame.window visible).place point = frame.place (point.plus visible.topLeft) := by
  have columns : (point.x + visible.left).toNat = point.x.toNat + visible.left.toNat := by omega
  have lines : (point.y + visible.top).toNat = point.y.toNat + visible.top.toNat := by omega
  simp only [place, window, Point.plus, Rect.topLeft, columns, lines, Nat.add_mul]
  omega

theorem crop?_eq (layout : frame.Layout store) (rect : Rect) : frame.crop? rect store =
    if (frame.bounds.meet rect).isEmpty then .ok (none, frame.release store)
    else if frame.bounds.meet rect = frame.bounds then .ok (some frame, store)
    else if (frame.info.topLeft.plus (frame.bounds.meet rect).topLeft).Bounded then
      .ok (some (frame.window (frame.bounds.meet rect)), store)
    else .error .overflow := by
  unfold crop?
  dsimp only
  generalize met : frame.bounds.meet rect = visible
  split
  next => rfl
  next solid =>
    split
    next => rfl
    next =>
      rw [Bool.not_eq_true] at solid
      have inside : frame.bounds.encloses visible = true := by
        rw [← met] at solid ⊢
        exact Region.encloses_meet _ solid
      have edges := bounds_encloses_iff.mp inside
      have ordered := (Rect.isEmpty_eq_false_iff visible).mp solid
      have wide := layout.width.2
      have high := layout.height.2
      unfold IsCoordinate at wide high
      have within : frame.bounds.contains visible.topLeft = true :=
        Rect.contains_of_encloses inside (contains_topLeft solid)
      have reached := layout.fits.place_le within
      have addressable := layout.addressable
      have start : frame.offset ≤ frame.place visible.topLeft := Nat.le_add_right _ _
      have placed : frame.pixelOffset visible.topLeft =
          .ok (frame.place visible.topLeft - frame.offset) := by
        refine pixelOffset_eq_ok_iff.mpr ⟨⟨edges.1.1, edges.2.1⟩, ?_, by omega⟩
        omega
      have sized : visible.size =
          .ok ⟨visible.right - visible.left, visible.bottom - visible.top⟩ := by
        have width : visible.width = .ok (visible.right - visible.left) :=
          coordinate_of_isCoordinate (by unfold IsCoordinate; omega)
        have height : visible.height = .ok (visible.bottom - visible.top) :=
          coordinate_of_isCoordinate (by unfold IsCoordinate; omega)
        rw [Rect.size, width, height]
        rfl
      have bounded : visible.Bounded := by
        simp only [Rect.Bounded, IsCoordinate]
        omega
      rw [placed, Checked.ok_bind, sized, Checked.ok_bind,
        frame.info.crop_eq ⟨edges.1.1, edges.2.1⟩ bounded]
      split
      next =>
        rw [Checked.ok_bind, window, Nat.add_sub_cancel' start]
        rfl
      next => rfl

structure IsWindow (part frame : Frame) (visible : Rect) (store : Store) : Prop where
  size : part.size = ⟨visible.right - visible.left, visible.bottom - visible.top⟩
  stride : part.stride = frame.stride
  pixels : ∀ point, part.bounds.contains point = true → ∃ color,
    part.colorAt point store = .ok color ∧
      frame.colorAt (point.plus visible.topLeft) store = .ok color
  topLeft : part.info.topLeft = frame.info.topLeft.plus visible.topLeft
  updated : ∀ point, part.info.updated.contains point =
    (frame.info.updated.contains (point.plus visible.topLeft) &&
      visible.contains (point.plus visible.topLeft))
  described : part.info =
    { frame.info with topLeft := part.info.topLeft, updated := part.info.updated }
  owner : ∀ later : Store, part.isShared later = frame.isShared later ∧
    part.isWritable later = frame.isWritable later ∧ part.segment? later = frame.segment? later
  writes : part.isWritable store = true → ∀ point color, part.bounds.contains point = true →
    ∃ bytes, part.editAt point (putColor color) store = .ok (store.setBytes frame.buffer bytes) ∧
      bytes.size = (store.bytes frame.buffer).size ∧
      bytes.color (frame.place (point.plus visible.topLeft)) = color ∧
      ∀ index, ¬ frame.Covers (point.plus visible.topLeft) index →
        bytes.byte index = (store.bytes frame.buffer).byte index

theorem window_isWindow (layout : frame.Layout store) (partLayout : (frame.window visible).Layout store)
    (inside : frame.bounds.encloses visible = true) :
    (frame.window visible).IsWindow frame visible store := by
  have edges := bounds_encloses_iff.mp inside
  -- A pixel of the view lies in the frame, at the same place in the buffer.
  have moved {point : Point} (shown : (frame.window visible).bounds.contains point = true) :
      frame.bounds.contains (point.plus visible.topLeft) = true ∧
        (frame.window visible).place point = frame.place (point.plus visible.topLeft) := by
    have shownEdges := bounds_contains_iff.mp shown
    refine ⟨?_, place_window edges.1.1 edges.2.1 shownEdges.1.1 shownEdges.2.1⟩
    rw [bounds_contains_iff]
    simp only [window, Point.plus, Rect.topLeft] at shownEdges ⊢
    omega
  refine ⟨rfl, rfl, fun point shown => ?_, rfl, frame.info.contains_window visible, rfl,
    fun later => ⟨rfl, rfl, rfl⟩, fun writable point color shown => ?_⟩
  next =>
    obtain ⟨within, place⟩ := moved shown
    refine ⟨_, partLayout.fits.colorAt_eq shown, ?_⟩
    rw [layout.fits.colorAt_eq within, view, view, place]
    rfl
  next =>
    obtain ⟨within, place⟩ := moved shown
    have room := layout.fits.place_le within
    have put : putColor color ((frame.window visible).corner store point) =
        .ok ((store.bytes frame.buffer).setColor (frame.place (point.plus visible.topLeft)) color) := by
      unfold putColor corner
      dsimp only
      rw [place]
      exact if_pos room
    refine ⟨_, partLayout.fits.editAt_eq shown writable put, Bytes.size_setColor _ _ _,
      Bytes.color_setColor _ _ _ room, fun index outside => ?_⟩
    rw [Bytes.byte_setColor _ _ _ room]
    exact if_neg outside

theorem crop?_eq_some (layout : frame.Layout store)
    (taken : frame.crop? rect store = .ok (some part, next)) :
    next = store ∧ (frame.bounds.meet rect).isEmpty = false ∧
      (frame.bounds.meet rect = frame.bounds ∧ part = frame ∨
        frame.bounds.meet rect ≠ frame.bounds ∧
          (frame.info.topLeft.plus (frame.bounds.meet rect).topLeft).Bounded ∧
          part = frame.window (frame.bounds.meet rect)) := by
  rw [crop?_eq layout] at taken
  split at taken
  next => cases taken
  next solid =>
    rw [Bool.not_eq_true] at solid
    split at taken
    next whole =>
      cases taken
      exact ⟨rfl, solid, .inl ⟨whole, rfl⟩⟩
    next proper =>
      split at taken
      next placed =>
        cases taken
        exact ⟨rfl, solid, .inr ⟨proper, placed, rfl⟩⟩
      next => cases taken

theorem exists_crop?_none_iff (layout : frame.Layout store) (rect : Rect) :
    (∃ next, frame.crop? rect store = .ok (none, next)) ↔ (frame.bounds.meet rect).isEmpty = true := by
  constructor
  next =>
    rintro ⟨next, taken⟩
    obtain ⟨hollow, _⟩ | ⟨_, _, ⟨_, same⟩ | ⟨_, same, _⟩⟩ := crop?_cases taken
    next => exact hollow
    next => cases same
    next => cases same
  next =>
    intro hollow
    exact ⟨_, (crop?_eq layout rect).trans (if_pos hollow)⟩

theorem crop?_eq_self_iff (layout : frame.Layout store) (rect : Rect) :
    frame.crop? rect store = .ok (some frame, store) ↔
      (frame.bounds.meet rect).isEmpty = false ∧ frame.bounds.meet rect = frame.bounds := by
  constructor
  next =>
    intro taken
    obtain ⟨_, same, _⟩ | ⟨solid, _, ⟨whole, _⟩ | ⟨part, same, isPart⟩⟩ := crop?_cases taken
    next => cases same
    next => exact ⟨solid, whole⟩
    next =>
      cases same
      have edges := bounds_encloses_iff.mp (Region.encloses_meet _ solid)
      have width := congrArg Size.width isPart.size
      have height := congrArg Size.height isPart.size
      refine ⟨solid, ?_⟩
      generalize frame.bounds.meet rect = visible at edges width height ⊢
      obtain ⟨left, top, right, bottom⟩ := visible
      simp only [bounds, Rect.ofSize, Rect.mk.injEq]
      dsimp only at edges width height
      omega
  next =>
    rintro ⟨solid, whole⟩
    rw [crop?_eq layout, if_neg (Bool.not_eq_true _ ▸ solid), if_pos whole]

theorem crop?_proper (layout : frame.Layout store)
    (solid : (frame.bounds.meet rect).isEmpty = false)
    (proper : frame.bounds.meet rect ≠ frame.bounds) : frame.crop? rect store =
      if (frame.info.topLeft.plus (frame.bounds.meet rect).topLeft).Bounded
      then .ok (some (frame.window (frame.bounds.meet rect)), store) else .error .overflow := by
  rw [crop?_eq layout, if_neg (Bool.not_eq_true _ ▸ solid), if_neg proper]

theorem crop_exact (layout : frame.Layout store) (rect : Rect) :
    let visible := frame.bounds.meet rect
    ((∃ next, frame.crop? rect store = .ok (none, next)) ↔ visible.isEmpty = true) ∧
    (frame.crop? rect store = .ok (some frame, store) ↔
      visible.isEmpty = false ∧ visible = frame.bounds) ∧
    (visible.isEmpty = false → visible ≠ frame.bounds →
      ((∃ result, frame.crop? rect store = .ok result) ↔
        (frame.info.topLeft.plus visible.topLeft).Bounded) ∧
      ∀ result next, frame.crop? rect store = .ok (result, next) →
        next = store ∧ ∃ part, result = some part ∧ part.IsWindow frame visible store) := by
  intro visible
  refine ⟨exists_crop?_none_iff layout rect, crop?_eq_self_iff layout rect, fun solid proper => ?_⟩
  have outcome := crop?_proper layout solid proper
  by_cases placed : (frame.info.topLeft.plus visible.topLeft).Bounded
  next =>
    rw [if_pos placed] at outcome
    refine ⟨⟨fun _ => placed, fun _ => ⟨_, outcome⟩⟩, fun result next taken => ?_⟩
    have partLayout := crop?_layout layout outcome
    rw [outcome] at taken
    cases taken
    exact ⟨rfl, _, rfl, window_isWindow layout partLayout (Region.encloses_meet _ solid)⟩
  next =>
    rw [if_neg placed] at outcome
    constructor
    next =>
      refine ⟨fun ⟨result, taken⟩ => ?_, fun bounded => absurd bounded placed⟩
      rw [outcome] at taken
      cases taken
    next =>
      intro result next taken
      rw [outcome] at taken
      cases taken

def padded : Frame :=
  { onBuffer ⟨3, 3⟩ 14 0 with
    info := { FrameInfo.unset with topLeft := ⟨10, 20⟩, updated := .ofRect ⟨-1, 0, 2, 5⟩ } }

def paddedStore : Store := ⟨#[⟨.external, Bytes.zeros 42⟩], #[], #[]⟩

theorem padded_layout : padded.Layout paddedStore := by
  refine Layout.withInfo (layout_onBuffer ?_ ?_ ?_ ?_ ?_) _
  all_goals decide

theorem crop_exact_of_padded : padded.Layout paddedStore ∧
    padded.bounds.meet ⟨1, -5, 9, 2⟩ = ⟨1, 0, 3, 2⟩ ∧ ∃ part,
      padded.crop? ⟨1, -5, 9, 2⟩ paddedStore = .ok (some part, paddedStore) ∧
        part.IsWindow padded ⟨1, 0, 3, 2⟩ paddedStore ∧ part.isWritable paddedStore = true := by
  have met : padded.bounds.meet ⟨1, -5, 9, 2⟩ = ⟨1, 0, 3, 2⟩ := by decide
  have ⟨_, _, proper⟩ := crop_exact padded_layout ⟨1, -5, 9, 2⟩
  have ⟨reached, windows⟩ := proper (by decide) (by decide)
  obtain ⟨⟨result, next⟩, taken⟩ := reached.mpr (by decide)
  obtain ⟨rfl, part, rfl, isWindow⟩ := windows result next taken
  rw [met] at isWindow
  exact ⟨padded_layout, met, part, taken, isWindow, (isWindow.owner _).2.1⟩

end Frame

end ScreenCapture
