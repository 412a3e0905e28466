import ScreenCapture.Frame.Basic

set_option autoImplicit false

namespace ScreenCapture

namespace Frame

def edit (frame : Frame) (change : Plane → Checked Bytes) (store : Store) : Checked Store :=
  if frame.isWritable store then
    store.changeBytes frame.buffer fun bytes => change ⟨bytes, frame.offset, frame.stride⟩
  else .error (.breach .bufferShared)

def startAt (offset : Nat) (change : Plane → Checked Bytes) : Plane → Checked Bytes
  | ⟨bytes, start, stride⟩ => do
      let start ← twoCuts bytes.size start offset 0
      change ⟨bytes, start, stride⟩

def editAt (frame : Frame) (position : Point) (change : Plane → Checked Bytes) (store : Store) :
    Checked Store := do
  let offset ← frame.pixelOffset position
  frame.edit (startAt offset change) store

def putBytes (source : Bytes) : Plane → Checked Bytes
  | ⟨bytes, start, _⟩ =>
      if start + source.size ≤ bytes.size then .ok (source.copy source.size 0 start bytes)
      else .error .outOfBounds

def putColor (color : Color) : Plane → Checked Bytes
  | ⟨bytes, start, _⟩ =>
      if start + bytesPerPixel ≤ bytes.size then .ok (bytes.setColor start color)
      else .error .outOfBounds

def paintRow (color : Color) (offset count : Nat) : Plane → Checked Bytes
  | ⟨bytes, start, _⟩ => do
      let position ← window bytes.size start offset (count * bytesPerPixel)
      return bytes.setColors position color count

def clearRow (start stride rowBytes y : Nat) (bytes : Bytes) : Checked Bytes := do
  let offset ← address (y * stride)
  let position ← window bytes.size start offset rowBytes
  return bytes.fill position rowBytes

def clear (frame : Frame) (store : Store) : Checked Store :=
  if frame.rowBytes = 0 then .ok store
  else
    let height := frame.size.height.toNat
    frame.edit (fun
      | ⟨bytes, start, stride⟩ => sweep (clearRow start stride frame.rowBytes) height 0 bytes) store

def blackenRow (start stride rowLength y : Nat) (bytes : Bytes) : Checked Bytes := do
  let offset ← address (y * stride)
  let stop ← address (offset + rowLength)
  let last := min (start + stop) bytes.size
  if last < start + offset then throw .outOfBounds
  return bytes.fill (start + offset) (last - (start + offset))

-- Zeroes a frame with the bytes between its rows. In a cropped frame those bytes are pixels of the
-- frame around it, so only the visible ones are zeroed there.
def blacken (frame : Frame) (store : Store) : Checked Store :=
  if frame.size.isEmpty then .ok store
  else
    let height := frame.size.height.toNat
    let rowLength := if frame.isCropped then frame.rowBytes else frame.stride
    frame.edit (fun
      | ⟨bytes, start, stride⟩ => sweep (blackenRow start stride rowLength) height 0 bytes) store

def rowIsLit (frame : Frame) (store : Store) (y : Nat) : Checked Bool := do
  let row ← frame.row y store
  return !row.allZero row.size 0

def isBlack (frame : Frame) (store : Store) : Checked Bool :=
  if frame.size.isEmpty then .ok false
  else do
    let lit ← sweepAny (frame.rowIsLit store) frame.size.height.toNat 0
    return !lit

def rowDiffers (frame other : Frame) (store : Store) (y : Nat) : Checked Bool := do
  let row ← frame.row y store
  let otherRow ← other.row y store
  return row != otherRow

def looksLike (frame other : Frame) (store : Store) : Checked Bool :=
  if frame.size ≠ other.size then .ok false
  else if frame.rowBytes = 0 then .ok true
  else do
    let differs ← sweepAny (frame.rowDiffers other store) frame.size.height.toNat 0
    return !differs

end Frame

end ScreenCapture
