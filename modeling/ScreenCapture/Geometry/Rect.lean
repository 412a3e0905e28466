import ScreenCapture.Bounds

set_option autoImplicit false

namespace ScreenCapture

namespace Point

def isZero (point : Point) : Bool := point = zero

def add (point other : Point) : Checked Point := do
  let x ← coordinate (point.x + other.x)
  let y ← coordinate (point.y + other.y)
  return ⟨x, y⟩

def sub (point other : Point) : Checked Point := do
  let x ← coordinate (point.x - other.x)
  let y ← coordinate (point.y - other.y)
  return ⟨x, y⟩

def neg (point : Point) : Checked Point := do
  let x ← coordinate (-point.x)
  let y ← coordinate (-point.y)
  return ⟨x, y⟩

end Point

namespace Rect

def width (rect : Rect) : Checked Int := coordinate (rect.right - rect.left)

def height (rect : Rect) : Checked Int := coordinate (rect.bottom - rect.top)

def size (rect : Rect) : Checked Size := do
  let width ← rect.width
  let height ← rect.height
  return ⟨width, height⟩

def place (x y width height : Int) : Checked Rect := do
  let right ← coordinate (x + width)
  let bottom ← coordinate (y + height)
  return ⟨x, y, right, bottom⟩

def shift (rect : Rect) (move : Point) : Checked Rect := do
  let left ← coordinate (rect.left + move.x)
  let top ← coordinate (rect.top + move.y)
  let right ← coordinate (rect.right + move.x)
  let bottom ← coordinate (rect.bottom + move.y)
  return ⟨left, top, right, bottom⟩

def grow (rect : Rect) (left top right bottom : Int) : Checked Rect := do
  let left ← coordinate (rect.left - left)
  let top ← coordinate (rect.top - top)
  let right ← coordinate (rect.right + right)
  let bottom ← coordinate (rect.bottom + bottom)
  return ⟨left, top, right, bottom⟩

def sameSize (rect other : Rect) : Checked Bool := do
  let size ← rect.size
  let otherSize ← other.size
  return size = otherSize

end Rect

end ScreenCapture
