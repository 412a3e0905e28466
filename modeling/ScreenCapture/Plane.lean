import ScreenCapture.Bytes
import ScreenCapture.Rotation

set_option autoImplicit false

namespace ScreenCapture

def bytesPerPixel : Nat := 4

-- Rows of pixels: row `y` begins `y * stride` bytes behind `start`. Rows may overlap, and nothing
-- says how many there are.
structure Plane where
  bytes : Bytes
  start : Nat
  stride : Nat

namespace Plane

def ofBytes (bytes : Bytes) (stride : Nat) : Plane := ⟨bytes, 0, stride⟩

def rowStart (plane : Plane) (y : Nat) : Checked Nat := address (y * plane.stride)

-- Both row starts are computed before either range is checked, the target's range first.
def copyRow (source : Plane) (start stride rowBytes y : Nat) (bytes : Bytes) : Checked Bytes := do
  let offset ← source.rowStart y
  let target ← address (y * stride)
  let place ← window bytes.size start target rowBytes
  let position ← window source.bytes.size source.start offset rowBytes
  return source.bytes.copy rowBytes position place bytes

def copyRows (source : Plane) (rowBytes height : Nat) : (target : Plane) → Checked Bytes
  | ⟨bytes, start, stride⟩ =>
      if rowBytes = 0 ∨ height = 0 then .ok bytes
      else sweep (source.copyRow start stride rowBytes) height 0 bytes

def turnPixel (source : Plane) (start stride width height : Nat) (rotation : Rotation)
    (y row x : Nat) (bytes : Bytes) : Checked Bytes := do
  let cell := rotation.turnCell width height x y
  let position ← address (x * bytesPerPixel)
  let line ← address (cell.2 * stride)
  let column ← address (cell.1 * bytesPerPixel)
  let target ← address (line + column)
  let place ← window bytes.size start target bytesPerPixel
  let position ← window source.bytes.size row position bytesPerPixel
  return source.bytes.copy bytesPerPixel position place bytes

def turnRow (source : Plane) (start stride width height : Nat) (rotation : Rotation)
    (y : Nat) (bytes : Bytes) : Checked Bytes := do
  let offset ← source.rowStart y
  let row ← twoCuts source.bytes.size source.start offset 0
  sweep (source.turnPixel start stride width height rotation y row) width 0 bytes

def turnBlock (source : Plane) (rotation : Rotation) (width height : Nat) (target : Plane) :
    Checked Bytes := do
  if width = 0 ∨ height = 0 then return target.bytes
  match rotation, target with
  | .deg0, target =>
      let rowBytes ← address (width * bytesPerPixel)
      source.copyRows rowBytes height target
  | rotation, ⟨bytes, start, stride⟩ =>
      sweep (source.turnRow start stride width height rotation) height 0 bytes

def rowDiffers (old new : Plane) (rowBytes y : Nat) : Checked Bool := do
  let offset ← old.rowStart y
  let position ← twoCuts old.bytes.size old.start offset rowBytes
  let newOffset ← new.rowStart y
  let newPosition ← twoCuts new.bytes.size new.start newOffset rowBytes
  return !old.bytes.same new.bytes rowBytes position newPosition

def differs (old new : Plane) (rowBytes height : Nat) : Checked Bool :=
  sweepAny (old.rowDiffers new rowBytes) height 0

def pixelHasAlpha (plane : Plane) (row x : Nat) : Checked Bool := do
  let position := row + (x * bytesPerPixel + 3)
  if position < plane.bytes.size then return plane.bytes.byte position != 0
  else throw .outOfBounds

def rowHasAlpha (plane : Plane) (width y : Nat) : Checked Bool := do
  let offset ← plane.rowStart y
  let row ← twoCuts plane.bytes.size plane.start offset 0
  sweepAny (plane.pixelHasAlpha row) width 0

def hasAlpha (plane : Plane) (size : Size) : Checked Bool :=
  sweepAny (plane.rowHasAlpha size.width.toNat) size.height.toNat 0

end Plane

end ScreenCapture
