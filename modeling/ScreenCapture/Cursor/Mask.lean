import ScreenCapture.Frame.Transfer

set_option autoImplicit false

namespace ScreenCapture

namespace Color

def black : Color := ⟨0, 0, 0, 255⟩

def white : Color := ⟨255, 255, 255, 255⟩

def clear : Color := ⟨0, 0, 0, 0⟩

def isMasked (mask : Color) : Bool := mask.blue == 255 && mask.green == 255 && mask.red == 255

def isInverting (mask color : Color) : Bool := mask.isMasked && color != clear

def unmask (mask color : Color) : Color :=
  if !mask.isMasked then { color with alpha := color.alpha ^^^ 255 }
  else if color ≠ clear then black
  else clear

def scaleChannel (channel alpha : UInt8) : UInt8 := .ofNat (channel.toNat * alpha.toNat / 255)

def premultiply (color : Color) : Color :=
  ⟨scaleChannel color.blue color.alpha, scaleChannel color.green color.alpha,
    scaleChannel color.red color.alpha, color.alpha⟩

theorem premultiply_opaque (blue green red : UInt8) :
    premultiply ⟨blue, green, red, 255⟩ = ⟨blue, green, red, 255⟩ := by
  simp [premultiply, scaleChannel]

end Color

namespace Plane

def colorAt (plane : Plane) (x y : Nat) : Checked Color := do
  let offset ← plane.rowStart y
  let row ← twoCuts plane.bytes.size plane.start offset 0
  plane.bytes.readColor (row + x * bytesPerPixel)

def setColorAt (start stride x y : Nat) (color : Color) (bytes : Bytes) : Checked Bytes := do
  let offset ← address (y * stride)
  let row ← twoCuts bytes.size start offset 0
  let position ← twoCuts bytes.size row (x * bytesPerPixel) bytesPerPixel
  return bytes.setColor position color

def unmaskPixel (mask : Bytes) (width start stride y x : Nat) (bytes : Bytes) : Checked Bytes := do
  let masking ← mask.readColor ((y * width + x) * bytesPerPixel)
  let color ← colorAt ⟨bytes, start, stride⟩ x y
  setColorAt start stride x y (masking.unmask color) bytes

def unmaskRow (mask : Bytes) (width start stride y : Nat) (bytes : Bytes) : Checked Bytes :=
  sweep (unmaskPixel mask width start stride y) width 0 bytes

def unmask (mask : Bytes) (width height : Nat) : Plane → Checked Bytes
  | ⟨bytes, start, stride⟩ => sweep (unmaskRow mask width start stride) height 0 bytes

def pixelInverts (mask : Bytes) (width : Nat) (plane : Plane) (y x : Nat) : Checked Bool := do
  let masking ← mask.readColor ((y * width + x) * bytesPerPixel)
  let color ← plane.colorAt x y
  return masking.isInverting color

def rowInverts (mask : Bytes) (width : Nat) (plane : Plane) (y : Nat) : Checked Bool :=
  sweepAny (pixelInverts mask width plane y) width 0

def isBlackAt (plane : Plane) (x y : Nat) : Checked Bool := do
  let color ← plane.colorAt x y
  return color == .black

def besideBlack (plane : Plane) (width height x y : Nat) : Checked Bool := do
  if ← (if 0 < y then plane.isBlackAt x (y - 1) else .ok false) then return true
  if ← (if y + 1 < height then plane.isBlackAt x (y + 1) else .ok false) then return true
  if ← (if 0 < x then plane.isBlackAt (x - 1) y else .ok false) then return true
  if x + 1 < width then plane.isBlackAt (x + 1) y else .ok false

def outlinePixel (width height start stride y x : Nat) (bytes : Bytes) : Checked Bytes := do
  let color ← colorAt ⟨bytes, start, stride⟩ x y
  if color ≠ .clear then return bytes
  if ← besideBlack ⟨bytes, start, stride⟩ width height x y then
    setColorAt start stride x y .white bytes
  else return bytes

def outlineRow (width height start stride y : Nat) (bytes : Bytes) : Checked Bytes :=
  sweep (outlinePixel width height start stride y) width 0 bytes

def outline (width height : Nat) : Plane → Checked Bytes
  | ⟨bytes, start, stride⟩ => sweep (outlineRow width height start stride) height 0 bytes

def premultiplyRun (position : Nat) : (count : Nat) → Bytes → Bytes
  | 0, bytes => bytes
  | count + 1, bytes =>
      premultiplyRun (position + bytesPerPixel) count
        (bytes.setColor position (bytes.color position).premultiply)

def premultiplyRow (width start stride y : Nat) (bytes : Bytes) : Checked Bytes := do
  let offset ← address (y * stride)
  let position ← window bytes.size start offset (width * bytesPerPixel)
  return premultiplyRun position width bytes

def premultiply (width height : Nat) : Plane → Checked Bytes
  | ⟨bytes, start, stride⟩ => sweep (premultiplyRow width start stride) height 0 bytes

end Plane

namespace Frame

def unmask (image : Frame) (mask : Bytes) (store : Store) : Checked (Bool × Store) := do
  let width := image.size.width.toNat
  let height := image.size.height.toNat
  let changed ← image.edit (Plane.unmask mask width height) store
  let inverted ← sweepAny (Plane.rowInverts mask width (image.plane store)) height 0
  return (inverted, changed)

def outline (image : Frame) (store : Store) : Checked Store :=
  image.edit (Plane.outline image.size.width.toNat image.size.height.toNat) store

def premultiply (image : Frame) (store : Store) : Checked Store :=
  image.edit (Plane.premultiply image.size.width.toNat image.size.height.toNat) store

end Frame

end ScreenCapture
