import ScreenCapture.Frame.Write
import ScreenCapture.Proofs.Rotation.Geometry

set_option autoImplicit false

namespace ScreenCapture

theorem Store.bytes_setBytes_self (store : Store) (id : BufferId) {bytes : Bytes}
    (size : bytes.size = (store.bytes id).size) : (store.setBytes id bytes).bytes id = bytes := by
  rw [Store.bytes_setBytes]
  split
  next => rfl
  next unknown =>
    have none : store.buffers[id]? = none := Array.getElem?_eq_none (by simpa using unknown)
    simp only [Store.bytes, none] at size ⊢
    exact (Array.eq_empty_of_size_eq_zero size).symm

theorem Store.setBytes_bytes (store : Store) (id : BufferId) :
    store.setBytes id (store.bytes id) = store := by
  obtain ⟨buffers, holders, suppliers⟩ := store
  simp only [setBytes, Store.mk.injEq, and_true]
  refine Array.ext (Array.size_modify ..) fun index _ known => ?_
  rw [Array.getElem_modify]
  split
  next same =>
    subst same
    simp only [Store.bytes, Array.getElem?_eq_getElem known]
  next => rfl

namespace Plane

def cell (plane : Plane) (x y : Nat) : Nat :=
  plane.start + (y * plane.stride + x * bytesPerPixel)

def pixel (plane : Plane) (x y : Nat) : Color := plane.bytes.color (plane.cell x y)

def Covers (plane : Plane) (x y index : Nat) : Prop :=
  plane.cell x y ≤ index ∧ index < plane.cell x y + bytesPerPixel

def HasRoom (plane : Plane) (width height : Nat) : Prop :=
  plane.start + ((height - 1) * plane.stride + width * bytesPerPixel) ≤ plane.bytes.size ∧
    plane.bytes.size < addressLimit

variable {plane : Plane} {width height x y : Nat}

theorem row_le_of_lt (plane : Plane) (row : y < height) :
    y * plane.stride ≤ (height - 1) * plane.stride :=
  Nat.mul_le_mul_right plane.stride (by omega)

theorem HasRoom.cell_le (room : plane.HasRoom width height) (column : x < width)
    (row : y < height) : plane.cell x y + bytesPerPixel ≤ plane.bytes.size := by
  have inside := room.1
  have above := plane.row_le_of_lt row
  simp only [cell, bytesPerPixel] at inside ⊢
  omega

theorem Covers.unique {index x' y' : Nat} (covers : plane.Covers x y index)
    (covers' : plane.Covers x' y' index) (column : x < width) (column' : x' < width)
    (apart : width * bytesPerPixel ≤ plane.stride ∨ y = y') : x = x' ∧ y = y' := by
  simp only [Covers, cell, bytesPerPixel] at covers covers' apart
  have same : y = y' := by
    rcases apart with wide | same
    next =>
      rcases Nat.lt_trichotomy y y' with before | same | after
      next =>
        have step := Nat.mul_le_mul_right plane.stride (show y + 1 ≤ y' by omega)
        rw [Nat.add_one_mul] at step
        omega
      next => exact same
      next =>
        have step := Nat.mul_le_mul_right plane.stride (show y' + 1 ≤ y by omega)
        rw [Nat.add_one_mul] at step
        omega
    next => exact same
  subst same
  omega

end Plane

namespace Frame

def place (frame : Frame) (point : Point) : Nat :=
  frame.offset + (point.y.toNat * frame.stride + point.x.toNat * bytesPerPixel)

def Covers (frame : Frame) (point : Point) (index : Nat) : Prop :=
  frame.place point ≤ index ∧ index < frame.place point + bytesPerPixel

def view (frame : Frame) (store : Store) (point : Point) : Color :=
  (store.bytes frame.buffer).color (frame.place point)

structure Fits (frame : Frame) (store : Store) : Prop where
  width : 0 ≤ frame.size.width ∧ IsCoordinate frame.size.width
  height : 0 ≤ frame.size.height ∧ IsCoordinate frame.size.height
  rows : frame.rowBytes ≤ frame.stride
  within : frame.size.isEmpty = false →
    frame.place ⟨frame.size.width - 1, frame.size.height - 1⟩ + bytesPerPixel ≤
      (store.bytes frame.buffer).size
  addressable : (store.bytes frame.buffer).size < addressLimit

def corner (frame : Frame) (store : Store) (point : Point) : Plane :=
  ⟨store.bytes frame.buffer, frame.place point, frame.stride⟩

variable {frame : Frame} {store next : Store} {point : Point}

theorem bounds_contains_iff : frame.bounds.contains point = true ↔
    (0 ≤ point.x ∧ point.x < frame.size.width) ∧ 0 ≤ point.y ∧ point.y < frame.size.height :=
  Rect.contains_iff _ _

theorem bounds_encloses_iff {rect : Rect} : frame.bounds.encloses rect = true ↔
    (0 ≤ rect.left ∧ rect.right ≤ frame.size.width) ∧
      0 ≤ rect.top ∧ rect.bottom ≤ frame.size.height :=
  Rect.encloses_iff _ _

theorem isEmpty_of_encloses {rect : Rect} (inside : frame.bounds.encloses rect = true)
    (solid : rect.isEmpty = false) : frame.size.isEmpty = false := by
  rw [bounds_encloses_iff] at inside
  rw [Rect.isEmpty_eq_false_iff] at solid
  rw [Size.isEmpty_eq_false_iff]
  omega

theorem isEmpty_of_contains (inside : frame.bounds.contains point = true) :
    frame.size.isEmpty = false := by
  rw [bounds_contains_iff] at inside
  rw [Size.isEmpty_eq_false_iff]
  omega

theorem contains_topLeft {rect : Rect} (solid : rect.isEmpty = false) :
    rect.contains rect.topLeft = true := by
  rw [Rect.isEmpty_eq_false_iff] at solid
  rw [Rect.contains_iff]
  simp only [Rect.topLeft]
  omega

theorem view_congr (same : next.bytes frame.buffer = store.bytes frame.buffer) :
    frame.view next = frame.view store := by
  funext point
  simp only [view, same]

theorem view_eq_of_plane {other : Frame} (same : other.plane next = frame.plane store) :
    other.view next = frame.view store := by
  funext point
  exact congrArg (fun plane => plane.pixel point.x.toNat point.y.toNat) same

section Corner

variable (frame : Frame) (store : Store) (across : 0 ≤ point.x) (down : 0 ≤ point.y) (x y : Nat)

include across down

theorem cell_corner : (frame.corner store point).cell x y = frame.place ⟨point.x + x, point.y + y⟩ := by
  have columns : (point.x + x).toNat = point.x.toNat + x := by omega
  have rows : (point.y + y).toNat = point.y.toNat + y := by omega
  simp only [corner, Plane.cell, place, columns, rows, Nat.add_mul]
  omega

theorem pixel_corner :
    (frame.corner store point).pixel x y = frame.view store ⟨point.x + x, point.y + y⟩ := by
  rw [Plane.pixel, frame.cell_corner store across down]
  rfl

end Corner

theorem pixelOffset_eq_ok_iff {offset : Nat} : frame.pixelOffset point = .ok offset ↔
    (0 ≤ point.x ∧ 0 ≤ point.y) ∧ offset < addressLimit ∧ frame.offset + offset = frame.place point := by
  unfold pixelOffset place
  by_cases negative : point.x < 0 ∨ point.y < 0
  next =>
    simp only [negative, if_true, throw, throwThe, MonadExceptOf.throw, Checked.error_bind]
    constructor
    next => intro failed; cases failed
    next => omega
  next =>
    simp only [negative, if_false, Checked.bind_eq_ok, address_eq_ok_iff,
      Nat.mul_comm frame.stride, Nat.mul_comm bytesPerPixel]
    constructor
    next =>
      rintro ⟨line, ⟨_, rfl⟩, column, ⟨_, rfl⟩, below, rfl⟩
      omega
    next =>
      intro ⟨_, below, same⟩
      exact ⟨_, ⟨by omega, rfl⟩, _, ⟨by omega, rfl⟩, by omega, by omega⟩

theorem planeAt_eq_ok_iff {plane : Plane} : frame.planeAt point store = .ok plane ↔
    (0 ≤ point.x ∧ 0 ≤ point.y) ∧ frame.place point < frame.offset + addressLimit ∧
      frame.place point ≤ (store.bytes frame.buffer).size ∧ frame.corner store point = plane := by
  simp only [planeAt, Frame.plane, Checked.bind_eq_ok, pixelOffset_eq_ok_iff, twoCuts_eq_ok_iff,
    pure, Except.pure, Except.ok.injEq, corner]
  constructor
  next =>
    rintro ⟨offset, ⟨proper, below, same⟩, start, ⟨inside, rfl⟩, rfl⟩
    exact ⟨proper, by omega, by omega, by rw [same]⟩
  next =>
    rintro ⟨proper, below, inside, rfl⟩
    have least : frame.offset ≤ frame.place point := Nat.le_add_right _ _
    exact ⟨frame.place point - frame.offset, ⟨proper, by omega, by omega⟩, _, ⟨by omega, rfl⟩, by
      congr 1
      omega⟩

theorem edit_eq_ok_iff {change : Plane → Checked Bytes} : frame.edit change store = .ok next ↔
    frame.isWritable store = true ∧ ∃ bytes, change (frame.plane store) = .ok bytes ∧
      next = store.setBytes frame.buffer bytes := by
  unfold edit
  split
  next writable =>
    simp only [Store.changeBytes, Store.takeBytes, Checked.bind_eq_ok, pure, Except.pure,
      Except.ok.injEq, Store.setBytes_setBytes, writable, true_and]
    refine exists_congr fun bytes => and_congr_right fun _ => ?_
    exact eq_comm
  next shared => simp [shared]

namespace Fits

variable (fits : frame.Fits store)

include fits

theorem place_le (inside : frame.bounds.contains point = true) :
    frame.place point + bytesPerPixel ≤ (store.bytes frame.buffer).size := by
  have edges := bounds_contains_iff.mp inside
  have last := fits.within (isEmpty_of_contains inside)
  have above : point.y.toNat * frame.stride ≤ (frame.size.height - 1).toNat * frame.stride :=
    Nat.mul_le_mul_right _ (by omega)
  simp only [place, bytesPerPixel] at last ⊢
  omega

theorem covers_unique {other : Point} {index : Nat} (inside : frame.bounds.contains point = true)
    (otherInside : frame.bounds.contains other = true) (covers : frame.Covers point index)
    (otherCovers : frame.Covers other index) : point = other := by
  have edges := bounds_contains_iff.mp inside
  have otherEdges := bounds_contains_iff.mp otherInside
  have cell : (frame.plane store).Covers point.x.toNat point.y.toNat index := covers
  have otherCell : (frame.plane store).Covers other.x.toNat other.y.toNat index := otherCovers
  have column : point.x.toNat < frame.size.width.toNat := by omega
  have same := cell.unique otherCell column (by omega) (.inl fits.rows)
  obtain ⟨x, y⟩ := point
  obtain ⟨x', y'⟩ := other
  simp only [Point.mk.injEq] at edges otherEdges same ⊢
  omega

theorem planeAt_eq (inside : frame.bounds.contains point = true) :
    frame.planeAt point store = .ok (frame.corner store point) := by
  have edges := bounds_contains_iff.mp inside
  have ends := fits.place_le inside
  have addressable := fits.addressable
  exact planeAt_eq_ok_iff.mpr ⟨⟨by omega, by omega⟩, by omega, by omega, rfl⟩

theorem colorAt_eq (inside : frame.bounds.contains point = true) :
    frame.colorAt point store = .ok (frame.view store point) := by
  have ends : frame.place point + 4 ≤ (store.bytes frame.buffer).size := fits.place_le inside
  rw [colorAt, fits.planeAt_eq inside, Checked.ok_bind]
  simp only [Bytes.readColor, corner, ends, if_true, view]

theorem corner_hasRoom {rect : Rect} (inside : frame.bounds.encloses rect = true)
    (solid : rect.isEmpty = false) : (frame.corner store rect.topLeft).HasRoom
      (rect.right - rect.left).toNat (rect.bottom - rect.top).toNat := by
  rw [bounds_encloses_iff] at inside
  rw [Rect.isEmpty_eq_false_iff] at solid
  generalize wide : (rect.right - rect.left).toNat = columns
  generalize high : (rect.bottom - rect.top).toNat = rows
  have last : frame.bounds.contains ⟨rect.topLeft.x + (columns - 1 : Nat),
      rect.topLeft.y + (rows - 1 : Nat)⟩ = true := by
    rw [bounds_contains_iff]
    simp only [Rect.topLeft]
    omega
  have ends := fits.place_le last
  rw [← frame.cell_corner store inside.1.1 inside.2.1] at ends
  refine ⟨?_, fits.addressable⟩
  simp only [Plane.cell, corner, bytesPerPixel] at ends ⊢
  omega

theorem editAt_eq {change : Plane → Checked Bytes} {bytes : Bytes}
    (inside : frame.bounds.contains point = true) (writable : frame.isWritable store = true)
    (changed : change (frame.corner store point) = .ok bytes) :
    frame.editAt point change store = .ok (store.setBytes frame.buffer bytes) := by
  have edges := bounds_contains_iff.mp inside
  have ends := fits.place_le inside
  have addressable := fits.addressable
  have least : frame.offset ≤ frame.place point := Nat.le_add_right _ _
  have offset : frame.pixelOffset point = .ok (frame.place point - frame.offset) :=
    pixelOffset_eq_ok_iff.mpr ⟨by omega, by omega, by omega⟩
  have start : twoCuts (store.bytes frame.buffer).size frame.offset
      (frame.place point - frame.offset) 0 = .ok (frame.place point) :=
    twoCuts_eq_ok_iff.mpr ⟨by omega, by omega⟩
  have cut : startAt (frame.place point - frame.offset) change
      ⟨store.bytes frame.buffer, frame.offset, frame.stride⟩ = .ok bytes := by
    rw [startAt, start, Checked.ok_bind]
    exact changed
  rw [editAt, offset, Checked.ok_bind, edit_eq_ok_iff]
  exact ⟨writable, bytes, cut, rfl⟩

theorem known (solid : frame.size.isEmpty = false) : frame.buffer < store.buffers.size := by
  have ends := fits.within solid
  refine Nat.lt_of_not_le fun unknown => ?_
  have none : store.buffers[frame.buffer]? = none := Array.getElem?_eq_none unknown
  simp only [Store.bytes, none, bytesPerPixel, List.size_toArray, List.length_nil] at ends
  omega

theorem bytes_setBytes (solid : frame.size.isEmpty = false) (bytes : Bytes) :
    (store.setBytes frame.buffer bytes).bytes frame.buffer = bytes := by
  rw [Store.bytes_setBytes, if_pos ⟨rfl, fits.known solid⟩]

theorem withUpdated (updated : Region) : (frame.withUpdated updated).Fits store :=
  ⟨fits.width, fits.height, fits.rows, fits.within, fits.addressable⟩

theorem congr (same : (next.bytes frame.buffer).size = (store.bytes frame.buffer).size) :
    frame.Fits next :=
  ⟨fits.width, fits.height, fits.rows, by rw [same]; exact fits.within,
    by rw [same]; exact fits.addressable⟩

theorem setBytes {id : BufferId} {bytes : Bytes} (size : bytes.size = (store.bytes id).size) :
    frame.Fits (store.setBytes id bytes) := by
  apply fits.congr
  rw [Store.bytes_setBytes]
  split
  next known => rw [size, known.1]
  next => rfl

end Fits

end Frame

end ScreenCapture
