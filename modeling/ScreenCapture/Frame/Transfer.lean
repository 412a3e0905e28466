import ScreenCapture.Frame.Share

set_option autoImplicit false

namespace ScreenCapture

namespace Frame

def putRows (source : Plane) (rect : Rect) (target : Plane) : Checked Bytes := do
  let width ← rect.width
  let rowBytes ← address (width.toNat * bytesPerPixel)
  let height ← rect.height
  source.copyRows rowBytes height.toNat target

def copyRows (frame : Frame) (source : Plane) (rect : Rect) (store : Store) : Checked Store :=
  if !frame.bounds.encloses rect then .error (.breach (.destinationOutside rect frame.size))
  else if rect.isEmpty then .ok store
  else frame.editAt rect.topLeft (putRows source rect) store

def copyPixels (frame source : Frame) (position : Point) (rect : Rect) (store : Store) :
    Checked Store := do
  let plane ← source.planeAt position store
  frame.copyRows plane rect store

def alignTo (other : Frame) (origin : Point) (horizontal vertical : Factor) :
    Checked (Point × Rect) := do
  let distance ← other.info.topLeft.sub origin
  let area ← other.area
  if horizontal = .one ∧ vertical = .one then return (distance, area)
  let extra : Point := ⟨horizontal.growth distance.x, vertical.growth distance.y⟩
  let area ← area.shift extra
  let distance ← distance.add extra
  return (distance, area)

def copyOverlap (frame source : Frame) (horizontal vertical : Factor) (store : Store) :
    Checked (Bool × Store) := do
  let origin := frame.info.topLeft
  let (distance, sourceArea) ← source.alignTo origin horizontal vertical
  let ownArea ← frame.area
  let common := sourceArea.meet ownArea
  if common.isEmpty then return (false, store)
  let back ← origin.neg
  let target ← common.shift back
  let x ← coordinate (-distance.x)
  let y ← coordinate (-distance.y)
  let store ← frame.copyPixels source ⟨max x 0, max y 0⟩ target store
  return (true, store)

def duplicate (frame : Frame) (store : Store) : Checked (Except Refusal Frame × Store) := do
  match createOnHeap frame.size store with
  | (.error refusal, store) => return (.error refusal, store)
  | (.ok copy, store) =>
      if frame.size.isEmpty then return (.ok { copy with info := frame.info }, store)
      let source := frame.plane store
      let store ← copy.edit (source.copyRows frame.rowBytes frame.size.height.toNat) store
      return (.ok { copy with info := frame.info }, store)

def drawTurned (frame source : Frame) (rect : Rect) (rotation : Rotation) (offset : Point)
    (store : Store) : Checked (Frame × Store) := do
  let turned ← rotation.turnRect source.size rect
  let target ← turned.shift offset
  if target.isEmpty then return (frame, store)
  if !source.bounds.encloses rect then throw (.breach (.sourceOutside rect source.size))
  if !frame.bounds.encloses target then throw (.breach (.targetOutside target frame.size))
  let plane ← source.planeAt rect.topLeft store
  let width ← rect.width
  let height ← rect.height
  let store ← frame.editAt target.topLeft (plane.turnBlock rotation width.toNat height.toNat) store
  return (frame.withUpdated (frame.info.updated.insert target), store)

end Frame

end ScreenCapture
