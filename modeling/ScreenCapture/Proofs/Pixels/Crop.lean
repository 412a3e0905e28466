import ScreenCapture.Frame.Share
import ScreenCapture.Proofs.Layout.Basic
import ScreenCapture.Proofs.Region.Bounded

set_option autoImplicit false

namespace ScreenCapture

theorem FrameInfo.crop_eq_ok {info part : FrameInfo} {visible : Rect}
    (cropped : info.crop visible = .ok part) :
    part.updated.Canonical ∧ ∀ point, part.updated.contains point =
      (info.updated.contains ⟨point.x + visible.left, point.y + visible.top⟩ &&
        visible.contains ⟨point.x + visible.left, point.y + visible.top⟩) := by
  have ⟨topLeft, _, cropped⟩ := Checked.bind_eq_ok.mp cropped
  have ⟨back, turned, cropped⟩ := Checked.bind_eq_ok.mp cropped
  have ⟨updated, shifted, cropped⟩ := Checked.bind_eq_ok.mp cropped
  cases cropped
  simp only [Point.neg, Checked.bind_eq_ok, coordinate_eq_ok_iff] at turned
  obtain ⟨_, ⟨_, rfl⟩, _, ⟨_, rfl⟩, same⟩ := turned
  cases same
  have ⟨moved, _⟩ := Region.shift_eq_ok shifted
  subst moved
  constructor
  next => exact Region.moved_canonical (Region.ofRects_canonical _) _
  next =>
    intro point
    rw [Region.contains_moved, Region.contains_clip]
    simp only [Rect.topLeft, Int.sub_neg]

namespace Frame

structure IsPart (part frame : Frame) (visible : Rect) : Prop where
  size : part.size = ⟨visible.right - visible.left, visible.bottom - visible.top⟩
  stride : part.stride = frame.stride
  corner : part.offset = frame.place visible.topLeft
  buffer : part.buffer = frame.buffer
  groups : part.groups = frame.groups
  cropped : part.isCropped = true
  info : frame.info.crop visible = .ok part.info

variable {frame part : Frame} {rect visible : Rect} {store next : Store} {cropped : Option Frame}

theorem crop?_cases (taken : frame.crop? rect store = .ok (cropped, next)) :
    let visible := frame.bounds.meet rect
    (visible.isEmpty = true ∧ cropped = none ∧ next = frame.release store) ∨
      (visible.isEmpty = false ∧ next = store ∧
        ((visible = frame.bounds ∧ cropped = some frame) ∨
          ∃ part, cropped = some part ∧ part.IsPart frame visible)) := by
  intro visible
  unfold crop? at taken
  cases hollow : visible.isEmpty with
  | true =>
    rw [if_pos hollow] at taken
    cases taken
    exact .inl ⟨rfl, rfl, rfl⟩
  | false =>
    rw [if_neg (Bool.not_eq_true _ ▸ hollow)] at taken
    by_cases whole : visible = frame.bounds
    next =>
      rw [if_pos whole] at taken
      cases taken
      exact .inr ⟨rfl, rfl, .inl ⟨whole, rfl⟩⟩
    next =>
      rw [if_neg whole] at taken
      have ⟨offset, placed, taken⟩ := Checked.bind_eq_ok.mp taken
      have ⟨size, sized, taken⟩ := Checked.bind_eq_ok.mp taken
      have ⟨info, described, taken⟩ := Checked.bind_eq_ok.mp taken
      cases taken
      have ⟨_, _, corner⟩ := pixelOffset_eq_ok_iff.mp placed
      simp only [Rect.size, Rect.width, Rect.height, Checked.bind_eq_ok, coordinate_eq_ok_iff] at sized
      obtain ⟨_, ⟨_, rfl⟩, _, ⟨_, rfl⟩, same⟩ := sized
      cases same
      exact .inr ⟨rfl, rfl, .inr ⟨_, rfl, rfl, rfl, corner, rfl, rfl, rfl, described⟩⟩

namespace IsPart

variable (isPart : part.IsPart frame visible)

include isPart

theorem view (across : 0 ≤ visible.left) (down : 0 ≤ visible.top) {point : Point}
    (inside : part.bounds.contains point = true) :
    part.view store point = frame.view store ⟨point.x + visible.left, point.y + visible.top⟩ := by
  have edges := bounds_contains_iff.mp inside
  have columns : (point.x + visible.left).toNat = point.x.toNat + visible.left.toNat := by omega
  have lines : (point.y + visible.top).toNat = point.y.toNat + visible.top.toNat := by omega
  have place : part.place point = frame.place ⟨point.x + visible.left, point.y + visible.top⟩ := by
    simp only [Frame.place, isPart.corner, isPart.stride, Rect.topLeft, columns, lines, Nat.add_mul]
    omega
  rw [Frame.view, Frame.view, place, isPart.buffer]

theorem layout (layout : frame.Layout store) (inside : frame.bounds.encloses visible = true)
    (solid : visible.isEmpty = false) : part.Layout store := by
  have ⟨across, down⟩ := bounds_encloses_iff.mp inside
  have ordered := (Rect.isEmpty_eq_false_iff _).mp solid
  have wide := layout.width
  have high := layout.height
  have ⟨width, height⟩ : part.size.width = visible.right - visible.left ∧
      part.size.height = visible.bottom - visible.top := by simp [isPart.size]
  have columns : part.rowBytes + visible.left.toNat * bytesPerPixel ≤ frame.rowBytes := by
    simp only [rowBytes, Size.rowBytes, width, bytesPerPixel]
    omega
  have rows := layout.rows
  -- A row of the part lies in the row of the frame that is as far below its first one.
  have row (y : Nat) (below : y < part.size.height.toNat) :
      part.offset + (y * part.stride + part.rowBytes) ≤ (store.bytes part.buffer).size := by
    have line := layout.row_le (y := visible.top.toNat + y) (by omega)
    rw [isPart.corner, isPart.stride, isPart.buffer]
    simp only [place, Rect.topLeft, Nat.add_mul] at line ⊢
    omega
  refine ⟨⟨?_, ?_⟩, ⟨?_, ?_⟩, ?_, ?_, ?_, ?_, ?_⟩
  next => omega
  next =>
    unfold IsCoordinate at wide ⊢
    omega
  next => omega
  next =>
    unfold IsCoordinate at high ⊢
    omega
  next =>
    rw [isPart.stride]
    omega
  next =>
    have first := row 0 (by omega)
    omega
  next =>
    intro y below
    have line := row y below
    unfold dataLength
    omega
  next =>
    intro whole
    rw [isPart.cropped] at whole
    cases whole
  next =>
    rw [isPart.buffer]
    exact layout.addressable

end IsPart

theorem crop?_layout (layout : frame.Layout store)
    (taken : frame.crop? rect store = .ok (some part, next)) : part.Layout next := by
  obtain ⟨_, gone, _⟩ | ⟨solid, rfl, ⟨_, same⟩ | ⟨_, same, isPart⟩⟩ := crop?_cases taken
  next => cases gone
  next =>
    cases same
    exact layout
  next =>
    cases same
    exact isPart.layout layout (Region.encloses_meet _ solid) solid

end Frame

end ScreenCapture
