import ScreenCapture.Cursor.Mask

set_option autoImplicit false

namespace ScreenCapture

structure Cursor where
  image : Option Frame
  hotspot : Point

-- A cursor as a platform describes it, with packed rows. Without colors the lower half of the mask
-- holds them, one row of them for each two of the mask.
structure CursorBitmaps where
  width : Int
  height : Int
  mask : Bytes
  colors : Option Bytes
  hotspot : Point

namespace Cursor

def none : Cursor := ⟨.none, .zero⟩

def checkHotspot (image : Frame) (hotspot : Point) : Except Refusal Unit :=
  if image.bounds.contains hotspot then return else throw (.hotspotOutside hotspot image.size)

theorem checkHotspot_eq_ok_iff {image : Frame} {hotspot : Point} :
    checkHotspot image hotspot = .ok () ↔
      (0 ≤ hotspot.x ∧ hotspot.x < image.size.width) ∧
        0 ≤ hotspot.y ∧ hotspot.y < image.size.height := by
  have inside := Rect.contains_iff image.bounds hotspot
  simp only [Frame.bounds, Rect.ofSize] at inside
  rw [← inside]
  unfold checkHotspot
  split
  next within => simpa [Frame.bounds, Rect.ofSize, pure, Except.pure] using within
  next outside => simpa [Frame.bounds, Rect.ofSize, throw, throwThe, MonadExceptOf.throw] using outside

def release (cursor : Cursor) (store : Store) : Store :=
  match cursor.image with
  | .none => store
  | some image => image.release store

def ofImage (image : Frame) (hotspot : Point) (store : Store) : Except Refusal Cursor × Store :=
  match checkHotspot image hotspot with
  | .error refusal => (.error refusal, image.release store)
  | .ok () => (.ok ⟨some image, hotspot⟩, store)

def setImage (cursor : Cursor) (image : Frame) (store : Store) : Except Refusal Cursor × Store :=
  match checkHotspot image cursor.hotspot with
  | .error refusal => (.error refusal, image.release store)
  | .ok () => (.ok { cursor with image := some image }, cursor.release store)

def setHotspot (cursor : Cursor) (hotspot : Point) : Except Refusal Cursor :=
  match cursor.image with
  | .none => .ok { cursor with hotspot }
  | some image =>
      match checkHotspot image hotspot with
      | .error refusal => .error refusal
      | .ok () => .ok { cursor with hotspot }

def duplicate (cursor : Cursor) (store : Store) : Checked (Except Refusal Cursor × Store) := do
  match cursor.image with
  | .none => return (.ok cursor, store)
  | some image =>
      match ← image.duplicate store with
      | (.error refusal, store) => return (.error refusal, store)
      | (.ok image, store) => return (.ok { cursor with image := some image }, store)

end Cursor

namespace CursorBitmaps

def rowBytes (bitmaps : CursorBitmaps) : Nat := bitmaps.width.toNat * bytesPerPixel

def maskBytes (bitmaps : CursorBitmaps) : Nat := bitmaps.rowBytes * bitmaps.height.toNat

def imageHeight (bitmaps : CursorBitmaps) : Int :=
  if bitmaps.colors.isSome then bitmaps.height else bitmaps.height / 2

def imageSize (bitmaps : CursorBitmaps) : Size := ⟨bitmaps.width, bitmaps.imageHeight⟩

def checkColors (bitmaps : CursorBitmaps) : Except String Unit :=
  match bitmaps.colors with
  | some colors =>
      if colors.size < bitmaps.maskBytes then
        throw ("color bitmap has " ++ toString colors.size ++ " bytes, expected " ++
          toString bitmaps.maskBytes)
      else return
  | none =>
      if bitmaps.imageHeight = 0 then throw "monochrome mask needs at least two rows" else return

def check (bitmaps : CursorBitmaps) : Except String Unit :=
  if bitmaps.width ≤ 0 ∨ bitmaps.height ≤ 0 then
    throw ("mask is " ++ Size.text ⟨bitmaps.width, bitmaps.height⟩)
  else if bitmaps.mask.size < bitmaps.maskBytes then
    throw ("mask has " ++ toString bitmaps.mask.size ++ " bytes, expected " ++
      toString bitmaps.maskBytes)
  else bitmaps.checkColors

def colorPlane (bitmaps : CursorBitmaps) : Plane :=
  match bitmaps.colors with
  | some colors => ⟨colors, 0, bitmaps.rowBytes⟩
  | none => ⟨bitmaps.mask, bitmaps.rowBytes * bitmaps.imageHeight.toNat, bitmaps.rowBytes⟩

def hasAlpha (bitmaps : CursorBitmaps) (image : Frame) (store : Store) : Checked Bool :=
  if bitmaps.colors.isSome then (image.plane store).hasAlpha image.size else .ok false

def applyMask (bitmaps : CursorBitmaps) (image : Frame) (store : Store) : Checked Store := do
  let (inverted, store) ← image.unmask bitmaps.mask store
  if inverted then image.outline store else return store

def draw (bitmaps : CursorBitmaps) (image : Frame) (store : Store) : Checked Store := do
  let store ← image.copyRows bitmaps.colorPlane image.bounds store
  let hasAlpha ← bitmaps.hasAlpha image store
  let store ← if hasAlpha then .ok store else bitmaps.applyMask image store
  image.premultiply store

def cursor (bitmaps : CursorBitmaps) (store : Store) : Checked (Except Refusal Cursor × Store) := do
  match bitmaps.check with
  | .error reason => return (.error (.invalidCursorBitmap reason), store)
  | .ok () =>
      match Frame.createOnHeap bitmaps.imageSize store with
      | (.error refusal, store) => return (.error refusal, store)
      | (.ok image, store) =>
          let store ← bitmaps.draw image store
          return Cursor.ofImage image bitmaps.hotspot store

end CursorBitmaps

end ScreenCapture
