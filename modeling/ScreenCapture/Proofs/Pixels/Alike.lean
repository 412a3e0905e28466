import ScreenCapture.Proofs.Changes.Answers
import ScreenCapture.Proofs.Pixels.Packed

set_option autoImplicit false

namespace ScreenCapture

theorem Bytes.copy_congr {source other : Bytes} {count start otherStart place : Nat} {target : Bytes}
    (same : ∀ offset, offset < count → other.byte (otherStart + offset) = source.byte (start + offset)) :
    other.copy count otherStart place target = source.copy count start place target := by
  induction count generalizing start otherStart place target with
  | zero => rfl
  | succ count ih =>
    have first : other.byte otherStart = source.byte start := same 0 (by omega)
    rw [copy, copy, first]
    refine ih fun offset below => ?_
    simpa only [Nat.add_assoc, Nat.add_comm 1] using same (offset + 1) (by omega)

namespace Plane

structure Alike (plane other : Plane) (width height : Nat) : Prop where
  room : plane.HasRoom width height
  otherRoom : other.HasRoom width height
  pixels : ∀ x y, x < width → y < height → other.pixel x y = plane.pixel x y

variable {plane other : Plane} {width height y : Nat}

theorem HasRoom.window_row (room : plane.HasRoom width height) (row : y < height) :
    window plane.bytes.size plane.start (y * plane.stride) (width * bytesPerPixel) =
      .ok (plane.start + y * plane.stride) := by
  have ends := room.row_le row
  have addressable := room.2
  exact window_eq_ok_iff.mpr ⟨by omega, by omega, rfl⟩

theorem HasRoom.window_pixel (room : plane.HasRoom width height) (row : y < height) {x : Nat}
    (column : x < width) : window plane.bytes.size (plane.start + y * plane.stride)
      (x * bytesPerPixel) bytesPerPixel = .ok (plane.start + y * plane.stride + x * bytesPerPixel) := by
  have ends := room.row_le row
  have addressable := room.2
  simp only [bytesPerPixel] at ends ⊢
  exact window_eq_ok_iff.mpr ⟨by omega, by omega, rfl⟩

theorem HasRoom.address_eq (room : plane.HasRoom width height) {count : Nat} (within : count ≤ width) :
    address (count * bytesPerPixel) = .ok (count * bytesPerPixel) := by
  have ends := room.1
  have addressable := room.2
  have shorter := Nat.mul_le_mul_right bytesPerPixel within
  exact address_eq_ok_iff.mpr ⟨by omega, rfl⟩

theorem HasRoom.twoCuts_row (room : plane.HasRoom width height) (row : y < height) :
    twoCuts plane.bytes.size plane.start (y * plane.stride) 0 =
      .ok (plane.start + y * plane.stride) := by
  have ends := room.row_le row
  exact twoCuts_eq_ok_iff.mpr ⟨by omega, rfl⟩

namespace Alike

variable (alike : plane.Alike other width height)

include alike

theorem row_byte (row : y < height) {offset : Nat} (within : offset < width * bytesPerPixel) :
    other.bytes.byte (other.start + y * other.stride + offset) =
      plane.bytes.byte (plane.start + y * plane.stride + offset) := by
  refine (Bytes.same_iff _ _ _ _ _).mp ((Bytes.same_pixels_iff _ _ width _ _).mpr ?_) offset within
  intro x column
  simpa only [pixel, cell, Nat.add_assoc] using alike.pixels x y column row

theorem copyRow_eq_copyRow (row : y < height) (start stride : Nat) (bytes : Bytes) :
    other.copyRow start stride (width * bytesPerPixel) y bytes =
      plane.copyRow start stride (width * bytesPerPixel) y bytes := by
  rw [copyRow, copyRow, alike.room.rowStart_eq row, alike.otherRoom.rowStart_eq row, Checked.ok_bind,
    Checked.ok_bind]
  refine congrArg (address (y * stride) >>= ·) (funext fun target => ?_)
  refine congrArg (window bytes.size start target _ >>= ·) (funext fun place => ?_)
  rw [alike.room.window_row row, alike.otherRoom.window_row row, Checked.ok_bind, Checked.ok_bind]
  exact congrArg Except.ok (Bytes.copy_congr fun offset within => alike.row_byte row within)

theorem copyRows_eq_copyRows : other.copyRows (width * bytesPerPixel) height =
    plane.copyRows (width * bytesPerPixel) height := by
  funext target
  have swept : sweep (other.copyRow target.start target.stride (width * bytesPerPixel)) height 0
      target.bytes = sweep (plane.copyRow target.start target.stride (width * bytesPerPixel)) height 0
      target.bytes :=
    sweep_congr fun y bytes _ below => alike.copyRow_eq_copyRow (by omega) _ _ bytes
  rw [copyRows, copyRows, swept]

theorem turnPixel_eq_turnPixel (row : y < height) {x : Nat} (column : x < width)
    (start stride : Nat) (rotation : Rotation) (bytes : Bytes) :
    other.turnPixel start stride width height rotation y (other.start + y * other.stride) x bytes =
      plane.turnPixel start stride width height rotation y (plane.start + y * plane.stride) x bytes := by
  rw [turnPixel, turnPixel, alike.room.address_eq (Nat.le_of_lt column), Checked.ok_bind,
    Checked.ok_bind]
  refine congrArg (address (_ * stride) >>= ·) (funext fun line => ?_)
  refine congrArg (address (_ * bytesPerPixel) >>= ·) (funext fun side => ?_)
  refine congrArg (address (line + side) >>= ·) (funext fun target => ?_)
  refine congrArg (window bytes.size start target _ >>= ·) (funext fun place => ?_)
  rw [alike.room.window_pixel row column, alike.otherRoom.window_pixel row column, Checked.ok_bind,
    Checked.ok_bind]
  refine congrArg Except.ok (Bytes.copy_congr fun offset within => ?_)
  have inside : x * bytesPerPixel + offset < width * bytesPerPixel := by
    simp only [bytesPerPixel] at within ⊢
    omega
  simpa only [Nat.add_assoc] using alike.row_byte row inside

theorem turnRow_eq_turnRow (row : y < height) (start stride : Nat) (rotation : Rotation)
    (bytes : Bytes) : other.turnRow start stride width height rotation y bytes =
      plane.turnRow start stride width height rotation y bytes := by
  rw [turnRow, turnRow, alike.room.rowStart_eq row, alike.otherRoom.rowStart_eq row, Checked.ok_bind,
    Checked.ok_bind, alike.room.twoCuts_row row, alike.otherRoom.twoCuts_row row, Checked.ok_bind,
    Checked.ok_bind]
  exact sweep_congr fun x bytes _ below =>
    alike.turnPixel_eq_turnPixel row (by omega) start stride rotation bytes

theorem turnBlock_eq_turnBlock (rotation : Rotation) :
    other.turnBlock rotation width height = plane.turnBlock rotation width height := by
  funext target
  have swept : sweep (other.turnRow target.start target.stride width height rotation) height 0
      target.bytes =
        sweep (plane.turnRow target.start target.stride width height rotation) height 0 target.bytes :=
    sweep_congr fun y bytes _ below => alike.turnRow_eq_turnRow (by omega) _ _ rotation bytes
  unfold turnBlock
  split
  next => rfl
  next =>
    cases rotation with
    | deg0 =>
      dsimp only
      rw [alike.room.address_eq (Nat.le_refl _), Checked.ok_bind, Checked.ok_bind,
        alike.copyRows_eq_copyRows]
    | deg90 | deg180 | deg270 => exact swept

end Alike

end Plane

end ScreenCapture
