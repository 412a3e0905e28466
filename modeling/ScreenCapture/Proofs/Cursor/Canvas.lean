import ScreenCapture.Cursor.Mask
import ScreenCapture.Proofs.Pixels.Alike
import ScreenCapture.Proofs.Pixels.Painting

set_option autoImplicit false

namespace ScreenCapture

namespace Plane

structure Canvas (plane : Plane) (width height : Nat) : Prop where
  room : plane.HasRoom width height
  apart : width * bytesPerPixel ≤ plane.stride

structure Shows (plane : Plane) (width height : Nat) (shade : Nat → Nat → Color) (bytes : Bytes) :
    Prop where
  size : bytes.size = plane.bytes.size
  pixels : ∀ x y, x < width → y < height → bytes.color (plane.cell x y) = shade x y

def partly (old new : Nat → Nat → Color) (x y x' y' : Nat) : Color :=
  if y' < y ∨ y' = y ∧ x' < x then new x' y' else old x' y'

theorem partly_self (old new : Nat → Nat → Color) (x y : Nat) : partly old new x y x y = old x y :=
  if_neg (by omega)

theorem partly_congr {old new : Nat → Nat → Color} {x y u v x' y' : Nat}
    (same : y' < y ∨ y' = y ∧ x' < x ↔ y' < v ∨ y' = v ∧ x' < u) :
    partly old new x y x' y' = partly old new u v x' y' :=
  ite_congr (propext same) (fun _ => rfl) fun _ => rfl

theorem shows_pixel (plane : Plane) (width height : Nat) :
    plane.Shows width height plane.pixel plane.bytes := ⟨rfl, fun _ _ _ _ => rfl⟩

variable {plane : Plane} {width height x y : Nat} {bytes : Bytes}

section Access

variable (room : plane.HasRoom width height) (column : x < width) (row : y < height)

include room column row

theorem HasRoom.cell_eq (bytes : Bytes) (size : bytes.size = plane.bytes.size) :
    address (y * plane.stride) = .ok (y * plane.stride) ∧
      twoCuts bytes.size plane.start (y * plane.stride) 0 = .ok (plane.start + y * plane.stride) ∧
      twoCuts bytes.size (plane.start + y * plane.stride) (x * bytesPerPixel) bytesPerPixel =
        .ok (plane.cell x y) := by
  have ends := room.cell_le column row
  simp only [cell, bytesPerPixel] at ends ⊢
  exact ⟨room.rowStart_eq row, twoCuts_eq_ok_iff.mpr ⟨by omega, rfl⟩,
    twoCuts_eq_ok_iff.mpr ⟨by omega, by omega⟩⟩

theorem HasRoom.colorAt_eq (size : bytes.size = plane.bytes.size) :
    colorAt ⟨bytes, plane.start, plane.stride⟩ x y = .ok (bytes.color (plane.cell x y)) := by
  obtain ⟨line, begin, _⟩ := room.cell_eq column row bytes size
  have ends := room.cell_le column row
  have place : plane.start + y * plane.stride + x * bytesPerPixel = plane.cell x y := by
    rw [cell, Nat.add_assoc]
  rw [colorAt, rowStart, line, Checked.ok_bind, begin, Checked.ok_bind, place]
  exact if_pos (size ▸ ends)

theorem HasRoom.setColorAt_eq (size : bytes.size = plane.bytes.size) (color : Color) :
    setColorAt plane.start plane.stride x y color bytes =
      .ok (bytes.setColor (plane.cell x y) color) := by
  obtain ⟨line, begin, place⟩ := room.cell_eq column row bytes size
  rw [setColorAt, line, Checked.ok_bind, begin, Checked.ok_bind, place, Checked.ok_bind]
  rfl

end Access

namespace Shows

variable {shade other old new : Nat → Nat → Color}

theorem congr (shows : plane.Shows width height shade bytes)
    (same : ∀ x y, x < width → y < height → other x y = shade x y) :
    plane.Shows width height other bytes :=
  ⟨shows.size, fun x y column row => (shows.pixels x y column row).trans (same x y column row).symm⟩

section Canvas

variable (canvas : plane.Canvas width height)

include canvas

theorem setColor (shows : plane.Shows width height shade bytes) (column : x < width) (row : y < height)
    (color : Color) : plane.Shows width height
      (fun x' y' => if x' = x ∧ y' = y then color else shade x' y')
      (bytes.setColor (plane.cell x y) color) := by
  have ends := canvas.room.cell_le column row
  rw [← shows.size] at ends
  refine ⟨(Bytes.size_setColor ..).trans shows.size, fun x' y' column' row' => ?_⟩
  split
  next here =>
    rw [here.1, here.2]
    exact Bytes.color_setColor _ _ _ ends
  next elsewhere =>
    rw [← shows.pixels x' y' column' row', Bytes.color_eq_iff]
    intro offset below
    rw [Bytes.byte_setColor _ _ _ ends, if_neg]
    intro within
    have covers : plane.Covers x' y' (plane.cell x' y' + offset) :=
      ⟨Nat.le_add_right _ _, Nat.add_lt_add_left below _⟩
    exact elsewhere (covers.unique within column' column (.inl canvas.apart))

theorem paint (shows : plane.Shows width height (partly old new x y) bytes) (column : x < width)
    (row : y < height) : plane.Shows width height (partly old new (x + 1) y)
      (bytes.setColor (plane.cell x y) (new x y)) := by
  refine (shows.setColor canvas column row (new x y)).congr fun x' y' _ _ => ?_
  by_cases here : x' = x ∧ y' = y
  next => rw [if_pos here, here.1, here.2, partly, if_pos (by omega)]
  next =>
    rw [if_neg here]
    exact partly_congr (by omega)

omit canvas in
theorem leave (shows : plane.Shows width height (partly old new x y) bytes) (same : new x y = old x y) :
    plane.Shows width height (partly old new (x + 1) y) bytes := by
  refine shows.congr fun x' y' _ _ => ?_
  by_cases here : x' = x ∧ y' = y
  next => rw [here.1, here.2, partly_self, partly, if_pos (by omega), same]
  next => exact partly_congr (by omega)

omit canvas in
theorem endRow (shows : plane.Shows width height (partly old new width y) bytes) :
    plane.Shows width height (partly old new 0 (y + 1)) bytes :=
  shows.congr fun x' y' column _ => partly_congr (by omega)

end Canvas

theorem sweepRows {row : Nat → Bytes → Checked Bytes}
    (shows : plane.Shows width height old bytes)
    (each : ∀ y bytes, y < height → plane.Shows width height (partly old new 0 y) bytes →
      ∃ next, row y bytes = .ok next ∧ plane.Shows width height (partly old new width y) next) :
    ∃ next, sweep row height 0 bytes = .ok next ∧ plane.Shows width height new next := by
  have begun : plane.Shows width height (partly old new 0 0) bytes :=
    shows.congr fun x y _ _ => if_neg (by omega)
  obtain ⟨next, swept, drawn⟩ := sweep_keeps
    (fun y bytes => plane.Shows width height (partly old new 0 y) bytes) height begun
    fun y bytes _ below shows => by
      obtain ⟨next, drew, drawn⟩ := each y bytes (by omega) shows
      exact ⟨next, drew, drawn.endRow⟩
  exact ⟨next, swept, drawn.congr fun x y _ row => (if_pos (by omega)).symm⟩

theorem sweepPixels {step : Nat → Nat → Bytes → Checked Bytes}
    (shows : plane.Shows width height old bytes)
    (each : ∀ y x bytes, x < width → y < height → plane.Shows width height (partly old new x y) bytes →
      ∃ next, step y x bytes = .ok next ∧ plane.Shows width height (partly old new (x + 1) y) next) :
    ∃ next, sweep (fun y => sweep (step y) width 0) height 0 bytes = .ok next ∧
      plane.Shows width height new next := by
  refine shows.sweepRows fun y bytes row shows => ?_
  have swept := sweep_keeps (fun x bytes => plane.Shows width height (partly old new x y) bytes) width
    shows fun x bytes _ below shows => each y x bytes (by omega) row shows
  rw [Nat.zero_add] at swept
  exact swept

end Shows

end Plane

end ScreenCapture
