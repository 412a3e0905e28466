import ScreenCapture.Cursor.Basic
import ScreenCapture.Proofs.Cursor.Stages
import ScreenCapture.Proofs.Pixels.Overlap
import ScreenCapture.Proofs.Pixels.Repaint

set_option autoImplicit false

namespace ScreenCapture

namespace Frame

structure Displays (image : Frame) (width height : Nat) (shade : Nat → Nat → Color) (store : Store) :
    Prop where
  wide : image.size.width.toNat = width
  high : image.size.height.toNat = height
  some : 0 < width ∧ 0 < height
  layout : image.Layout store
  writable : image.isWritable store = true
  pixels : ∀ x y, x < width → y < height → (image.plane store).pixel x y = shade x y

namespace Displays

variable {image : Frame} {width height : Nat} {shade other : Nat → Nat → Color} {store : Store}
  {bytes mask : Bytes} {change : Plane → Checked Bytes}
  (displays : image.Displays width height shade store)

include displays

theorem congr (same : ∀ x y, x < width → y < height → other x y = shade x y) :
    image.Displays width height other store :=
  ⟨displays.wide, displays.high, displays.some, displays.layout, displays.writable,
    fun x y column row => (displays.pixels x y column row).trans (same x y column row).symm⟩

theorem solid : image.size.isEmpty = false := by
  obtain ⟨across, down⟩ := displays.some
  have wide := displays.wide
  have high := displays.high
  rw [Size.isEmpty_eq_false_iff]
  omega

theorem canvas : (image.plane store).Canvas width height := by
  obtain ⟨across, down⟩ := displays.some
  have wide := displays.wide
  have high := displays.high
  have room := displays.layout.hasRoom (by omega)
  have rows := displays.layout.rows
  rw [wide, high] at room
  rw [rowBytes, Size.rowBytes, wide] at rows
  exact ⟨room, rows⟩

theorem setBytes (shows : (image.plane store).Shows width height other bytes) :
    image.Displays width height other (store.setBytes image.buffer bytes) where
  wide := displays.wide
  high := displays.high
  some := displays.some
  layout := displays.layout.setBytes shows.size
  writable := (Rewritten.setBytes shows.size).isWritable_eq.trans displays.writable
  pixels x y column row := by
    rw [← shows.pixels x y column row, Plane.pixel, plane,
      displays.layout.fits.bytes_setBytes displays.solid]
    rfl

theorem edit (changed : change (image.plane store) = .ok bytes)
    (shows : (image.plane store).Shows width height other bytes) :
    ∃ next, image.edit change store = .ok next ∧ image.Displays width height other next :=
  ⟨_, edit_eq_ok_iff.mpr ⟨displays.writable, bytes, changed, rfl⟩, displays.setBytes shows⟩

theorem unmask_shows (room : (Plane.packed mask width).HasRoom width height) : ∃ bytes,
    image.unmask mask store = .ok (decide (Plane.Somewhere width height fun x y =>
        ((Plane.packed mask width).pixel x y).isInverting (shade x y) = true),
          store.setBytes image.buffer bytes) ∧
      (image.plane store).Shows width height
        (fun x y => ((Plane.packed mask width).pixel x y).unmask (shade x y)) bytes := by
  obtain ⟨bytes, ran, shows⟩ := Plane.unmask_shows displays.canvas room
  have edited : image.edit (Plane.unmask mask width height) store =
      .ok (store.setBytes image.buffer bytes) :=
    edit_eq_ok_iff.mpr ⟨displays.writable, bytes, ran, rfl⟩
  have inverts := Plane.inverts_eq displays.canvas.room room
  rw [decide_eq_decide.mpr (Plane.Somewhere.congr fun x y column row => by
    rw [displays.pixels x y column row])] at inverts
  refine ⟨bytes, ?_, shows.congr fun x y column row => by rw [displays.pixels x y column row]⟩
  rw [Frame.unmask, displays.wide, displays.high, edited, Checked.ok_bind, inverts, Checked.ok_bind]
  rfl

theorem unmask (room : (Plane.packed mask width).HasRoom width height) : ∃ next,
    image.unmask mask store = .ok (decide (Plane.Somewhere width height fun x y =>
        ((Plane.packed mask width).pixel x y).isInverting (shade x y) = true), next) ∧
      image.Displays width height
        (fun x y => ((Plane.packed mask width).pixel x y).unmask (shade x y)) next := by
  obtain ⟨bytes, ran, shows⟩ := displays.unmask_shows room
  exact ⟨_, ran, displays.setBytes shows⟩

theorem outline : ∃ next, image.outline store = .ok next ∧
    image.Displays width height (Plane.outlined width height shade) next := by
  obtain ⟨bytes, ran, shows⟩ := Plane.outline_shows displays.canvas
  obtain ⟨next, edited, displayed⟩ := displays.edit ran shows
  exact ⟨next, by rw [Frame.outline, displays.wide, displays.high, edited],
    displayed.congr fun x y column row => Plane.outlined_congr column row fun x y column row =>
      (displays.pixels x y column row).symm⟩

theorem premultiply : ∃ next, image.premultiply store = .ok next ∧
    image.Displays width height (fun x y => (shade x y).premultiply) next := by
  obtain ⟨bytes, ran, shows⟩ := Plane.premultiply_shows displays.canvas
  obtain ⟨next, edited, displayed⟩ := displays.edit ran shows
  exact ⟨next, by rw [Frame.premultiply, displays.wide, displays.high, edited],
    displayed.congr fun x y column row => by rw [displays.pixels x y column row]⟩

theorem copyRows_shows {source : Plane} (room : source.HasRoom width height) : ∃ bytes,
    image.copyRows source image.bounds store = .ok (store.setBytes image.buffer bytes) ∧
      (image.plane store).Shows width height source.pixel bytes := by
  have wide := displays.wide
  have high := displays.high
  have inside : image.bounds.encloses image.bounds = true :=
    bounds_encloses_iff.mpr ⟨⟨Int.le_refl _, Int.le_refl _⟩, Int.le_refl _, Int.le_refl _⟩
  have solid : image.bounds.isEmpty = false := by
    rw [Rect.isEmpty_eq_false_iff]
    obtain ⟨across, down⟩ := displays.some
    simp only [bounds, Rect.ofSize]
    omega
  have columns : (image.bounds.right - image.bounds.left).toNat = width := by
    rw [← wide]
    exact congrArg Int.toNat (Int.sub_zero _)
  have rows : (image.bounds.bottom - image.bounds.top).toNat = height := by
    rw [← high]
    exact congrArg Int.toNat (Int.sub_zero _)
  rw [← columns, ← rows] at room
  obtain ⟨bytes, copied, drawn⟩ :=
    copyRows_eq displays.layout.fits solid inside displays.writable room
  rw [columns, rows] at drawn
  refine ⟨bytes, copied, drawn.size, fun x y column row => ?_⟩
  have place : (image.plane store).cell x y =
      (image.corner store image.bounds.topLeft).cell x y := by
    simp only [Plane.cell, plane, corner, Frame.place, bounds, Rect.ofSize, Rect.topLeft,
      Int.toNat_zero, Nat.zero_mul, Nat.add_zero]
  rw [place]
  exact drawn.taken x y ⟨column, row⟩

theorem copyRows {source : Plane} (room : source.HasRoom width height) : ∃ next,
    image.copyRows source image.bounds store = .ok next ∧
      image.Displays width height source.pixel next := by
  obtain ⟨bytes, copied, shows⟩ := displays.copyRows_shows room
  exact ⟨_, copied, displays.setBytes shows⟩

end Displays

end Frame

end ScreenCapture
