import ScreenCapture.Proofs.Pixels.Overlap

set_option autoImplicit false

namespace ScreenCapture

namespace Frame

-- The place of the last pixel that is read for `rect` from `position` on is in the buffer, whether
-- it belongs to the frame or not.
def Reaches (frame : Frame) (store : Store) (position : Point) (rect : Rect) : Prop :=
  (0 ≤ position.x ∧ 0 ≤ position.y) ∧
    frame.place ⟨position.x + (rect.right - rect.left - 1), position.y + (rect.bottom - rect.top - 1)⟩ +
      bytesPerPixel ≤ (store.bytes frame.buffer).size

structure Filled (frame source : Frame) (position : Point) (rect : Rect) (store next : Store) :
    Prop where
  shown : ∀ point, rect.contains point = true → frame.view next point =
    source.view store ⟨position.x + (point.x - rect.left), position.y + (point.y - rect.top)⟩
  kept : ∀ index, (∀ point, rect.contains point = true → ¬ frame.Covers point index) →
    (next.bytes frame.buffer).byte index = (store.bytes frame.buffer).byte index
  length : (next.bytes frame.buffer).size = (store.bytes frame.buffer).size
  only : ∃ bytes, next = store.setBytes frame.buffer bytes

variable {frame source : Frame} {store next : Store} {position : Point} {rect : Rect}

theorem filled_of_drawn {bytes : Bytes} (fits : frame.Fits store) (solid : rect.isEmpty = false)
    (inside : frame.bounds.encloses rect = true) (across : 0 ≤ position.x) (down : 0 ≤ position.y)
    (drawn : Drawn (source.corner store position) (frame.corner store rect.topLeft) Prod.mk
      (fun x y => x < (rect.right - rect.left).toNat ∧ y < (rect.bottom - rect.top).toNat) bytes) :
    frame.Filled source position rect store (store.setBytes frame.buffer bytes) := by
  have same := fits.bytes_setBytes (isEmpty_of_encloses inside solid) bytes
  have edges := bounds_encloses_iff.mp inside
  refine ⟨fun point contained => ?_, fun index none => ?_, ?_, _, rfl⟩
  next =>
    have within := (Rect.contains_iff _ _).mp contained
    obtain ⟨x, column⟩ := Int.eq_ofNat_of_zero_le (show 0 ≤ point.x - rect.left by omega)
    obtain ⟨y, row⟩ := Int.eq_ofNat_of_zero_le (show 0 ≤ point.y - rect.top by omega)
    have spot : point = ⟨rect.topLeft.x + x, rect.topLeft.y + y⟩ := by
      obtain ⟨px, py⟩ := point
      simp only [Rect.topLeft, Point.mk.injEq] at column row ⊢
      omega
    have taken := drawn.taken x y ⟨by omega, by omega⟩
    rw [source.pixel_corner store across down, frame.cell_corner store edges.1.1 edges.2.1, ← spot]
      at taken
    rw [column, row]
    exact (congrArg (fun bytes => Bytes.color bytes (frame.place point)) same).trans taken
  next =>
    rw [same]
    refine drawn.kept index fun x y within covers => ?_
    obtain ⟨column, row⟩ := within
    rw [Plane.Covers, frame.cell_corner store edges.1.1 edges.2.1] at covers
    refine none ⟨rect.topLeft.x + x, rect.topLeft.y + y⟩ ?_ covers
    rw [Rect.contains_iff]
    simp only [Rect.topLeft]
    omega
  next =>
    rw [same]
    exact drawn.size

section Reading

variable (sourceFits : source.Fits store) (solid : rect.isEmpty = false)

include sourceFits solid

theorem reaches_iff : source.Reaches store position rect ↔ (0 ≤ position.x ∧ 0 ≤ position.y) ∧
    (source.corner store position).HasRoom (rect.right - rect.left).toNat
      (rect.bottom - rect.top).toNat := by
  have ordered := (Rect.isEmpty_eq_false_iff _).mp solid
  have addressable := sourceFits.addressable
  refine and_congr_right fun ⟨across, down⟩ => ?_
  generalize wide : (rect.right - rect.left).toNat = width
  generalize high : (rect.bottom - rect.top).toNat = height
  have last : (⟨position.x + (rect.right - rect.left - 1), position.y + (rect.bottom - rect.top - 1)⟩ :
      Point) = ⟨position.x + (width - 1 : Nat), position.y + (height - 1 : Nat)⟩ := by
    rw [Point.mk.injEq]
    omega
  rw [last, ← source.cell_corner store across down]
  simp only [Plane.HasRoom, Plane.cell, corner, bytesPerPixel]
  omega

theorem reaches_of_encloses (inside : source.bounds.encloses (rect.moved
    ⟨position.x - rect.left, position.y - rect.top⟩) = true) :
    source.Reaches store position rect := by
  have ordered := (Rect.isEmpty_eq_false_iff _).mp solid
  have edges := bounds_encloses_iff.mp inside
  simp only [Rect.moved] at edges
  refine ⟨by omega, sourceFits.place_le (bounds_contains_iff.mpr ?_)⟩
  dsimp only
  omega

theorem copyPixels_reaches (copied : frame.copyPixels source position rect store = .ok next) :
    frame.bounds.encloses rect = true ∧ frame.isWritable store = true ∧
      source.Reaches store position rect := by
  have ordered := (Rect.isEmpty_eq_false_iff _).mp solid
  obtain ⟨plane, began, copied⟩ := Checked.bind_eq_ok.mp copied
  obtain ⟨proper, _, _, rfl⟩ := planeAt_eq_ok_iff.mp began
  unfold copyRows at copied
  split at copied
  next => cases copied
  next inside =>
    rw [solid] at copied
    obtain ⟨offset, _, edited⟩ := Checked.bind_eq_ok.mp copied
    obtain ⟨writable, bytes, changed, _⟩ := edit_eq_ok_iff.mp edited
    obtain ⟨start, _, changed⟩ := Checked.bind_eq_ok.mp changed
    obtain ⟨width, wide, changed⟩ := Checked.bind_eq_ok.mp changed
    obtain ⟨rowBytes, long, changed⟩ := Checked.bind_eq_ok.mp changed
    obtain ⟨height, high, changed⟩ := Checked.bind_eq_ok.mp changed
    obtain ⟨_, rfl⟩ := coordinate_eq_ok_iff.mp wide
    obtain ⟨_, rfl⟩ := address_eq_ok_iff.mp long
    obtain ⟨_, rfl⟩ := coordinate_eq_ok_iff.mp high
    have ends := (Plane.room_of_copyRows (by omega) (by omega) changed).1
    exact ⟨by simpa using inside, writable,
      (reaches_iff sourceFits solid).mpr ⟨proper, ends, sourceFits.addressable⟩⟩

theorem copyPixels_filled (fits : frame.Fits store) (inside : frame.bounds.encloses rect = true)
    (writable : frame.isWritable store = true) (reached : source.Reaches store position rect) :
    ∃ next, frame.copyPixels source position rect store = .ok next ∧
      frame.Filled source position rect store next := by
  obtain ⟨⟨across, down⟩, room⟩ := (reaches_iff sourceFits solid).mp reached
  obtain ⟨bytes, copied, drawn⟩ := copyRows_eq fits solid inside writable room
  refine ⟨_, ?_, filled_of_drawn fits solid inside across down drawn⟩
  have begins : source.place position ≤ (store.bytes source.buffer).size :=
    Nat.le_trans (Nat.le_add_right _ _) room.1
  have addressable := sourceFits.addressable
  have start := planeAt_eq_ok_iff.mpr ⟨⟨across, down⟩, by omega, begins, rfl⟩
  rw [copyPixels, start, Checked.ok_bind, copied]

end Reading

theorem copyPixels_exact (fits : frame.Fits store) (sourceFits : source.Fits store)
    (solid : rect.isEmpty = false) :
    ((∃ next, frame.copyPixels source position rect store = .ok next) ↔
      frame.bounds.encloses rect = true ∧ frame.isWritable store = true ∧
        source.Reaches store position rect) ∧
    (∀ next, frame.copyPixels source position rect store = .ok next →
      frame.Filled source position rect store next) ∧
    (source.bounds.encloses (rect.moved ⟨position.x - rect.left, position.y - rect.top⟩) = true →
      source.Reaches store position rect) := by
  refine ⟨⟨?_, ?_⟩, ?_, reaches_of_encloses sourceFits solid⟩
  next =>
    intro ⟨next, copied⟩
    exact copyPixels_reaches sourceFits solid copied
  next =>
    intro ⟨inside, writable, reached⟩
    obtain ⟨next, copied, _⟩ := copyPixels_filled sourceFits solid fits inside writable reached
    exact ⟨next, copied⟩
  next =>
    intro next copied
    obtain ⟨inside, writable, reached⟩ := copyPixels_reaches sourceFits solid copied
    obtain ⟨next', copied', filled⟩ := copyPixels_filled sourceFits solid fits inside writable reached
    cases copied.symm.trans copied'
    exact filled

def twoAndTwo : Store := ⟨#[⟨.heap, #[1, 2, 3, 4, 5, 6, 7, 8]⟩, ⟨.heap, Bytes.zeros 8⟩], #[], #[]⟩

def firstOfTwo : Frame := { onBuffer ⟨1, 1⟩ 8 0 with wrapping := .crop, isCropped := true }

def blackTwo : Frame := .onBuffer ⟨2, 1⟩ 8 1

theorem twoAndTwo_fits : blackTwo.Fits twoAndTwo ∧ firstOfTwo.Fits twoAndTwo :=
  ⟨⟨by decide, by decide, by decide, fun _ => by decide, by decide⟩,
    ⟨by decide, by decide, by decide, fun _ => by decide, by decide⟩⟩

theorem copyPixels_hidden : ∃ next,
    (onBuffer ⟨2, 1⟩ 8 0).crop? ⟨0, 0, 1, 1⟩ twoAndTwo = .ok (some firstOfTwo, twoAndTwo) ∧
    blackTwo.copyPixels firstOfTwo ⟨0, 0⟩ ⟨0, 0, 2, 1⟩ twoAndTwo = .ok next ∧
      firstOfTwo.bounds.encloses (Rect.moved ⟨0, 0⟩ ⟨0, 0, 2, 1⟩) = false ∧
      blackTwo.view next ⟨0, 0⟩ = ⟨1, 2, 3, 4⟩ ∧ blackTwo.view next ⟨1, 0⟩ = ⟨5, 6, 7, 8⟩ :=
  ⟨_, rfl, rfl, rfl, rfl, rfl⟩

theorem copyPixels_exact_firstOfTwo : (Rect.isEmpty ⟨0, 0, 2, 1⟩ = false ∧
    firstOfTwo.Reaches twoAndTwo ⟨0, 0⟩ ⟨0, 0, 2, 1⟩) ∧
    ∃ next, blackTwo.copyPixels firstOfTwo ⟨0, 0⟩ ⟨0, 0, 2, 1⟩ twoAndTwo = .ok next ∧
      blackTwo.Filled firstOfTwo ⟨0, 0⟩ ⟨0, 0, 2, 1⟩ twoAndTwo next := by
  obtain ⟨fits, sourceFits⟩ := twoAndTwo_fits
  have reached : firstOfTwo.Reaches twoAndTwo ⟨0, 0⟩ ⟨0, 0, 2, 1⟩ := ⟨by decide, by decide⟩
  have solid : Rect.isEmpty ⟨0, 0, 2, 1⟩ = false := rfl
  obtain ⟨answers, filled, _⟩ := copyPixels_exact fits sourceFits solid
  obtain ⟨next, copied⟩ := answers.mpr ⟨rfl, rfl, reached⟩
  exact ⟨⟨solid, reached⟩, next, copied, filled next copied⟩

end Frame

end ScreenCapture
