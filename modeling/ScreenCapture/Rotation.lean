import ScreenCapture.Geometry.Rect

set_option autoImplicit false

namespace ScreenCapture

-- Clockwise, in quarter turns.
inductive Rotation where
  | deg0
  | deg90
  | deg180
  | deg270
deriving DecidableEq, Repr

namespace Rotation

def degrees : Rotation → Nat
  | .deg0 => 0
  | .deg90 => 90
  | .deg180 => 180
  | .deg270 => 270

def all : List Rotation := [.deg0, .deg90, .deg180, .deg270]

def ofDegrees? (degrees : Nat) : Option Rotation :=
  all.find? fun rotation => rotation.degrees == degrees % 360

def name (rotation : Rotation) : String := toString rotation.degrees

def ofName? (name : String) : Option Rotation := all.find? fun rotation => rotation.name == name

def reverse : Rotation → Rotation
  | .deg0 => .deg0
  | .deg90 => .deg270
  | .deg180 => .deg180
  | .deg270 => .deg90

def turnSize : Rotation → Size → Size
  | .deg0, size | .deg180, size => size
  | .deg90, size | .deg270, size => ⟨size.height, size.width⟩

def turnRect (rotation : Rotation) (size : Size) (rect : Rect) : Checked Rect := do
  match rotation with
  | .deg0 => return rect
  | .deg90 =>
      let x ← coordinate (size.height - rect.bottom)
      let width ← rect.height
      let height ← rect.width
      Rect.place x rect.left width height
  | .deg180 =>
      let x ← coordinate (size.width - rect.right)
      let y ← coordinate (size.height - rect.bottom)
      let width ← rect.width
      let height ← rect.height
      Rect.place x y width height
  | .deg270 =>
      let y ← coordinate (size.width - rect.right)
      let width ← rect.height
      let height ← rect.width
      Rect.place rect.top y width height

def turnCell (rotation : Rotation) (width height x y : Nat) : Nat × Nat :=
  match rotation with
  | .deg0 => (x, y)
  | .deg90 => (height - 1 - y, x)
  | .deg180 => (width - 1 - x, height - 1 - y)
  | .deg270 => (y, width - 1 - x)

theorem ofDegrees?_degrees (rotation : Rotation) :
    ofDegrees? rotation.degrees = some rotation := by
  cases rotation <;> rfl

theorem reverse_reverse (rotation : Rotation) : rotation.reverse.reverse = rotation := by
  cases rotation <;> rfl

theorem turnSize_reverse (rotation : Rotation) (size : Size) :
    rotation.reverse.turnSize (rotation.turnSize size) = size := by
  cases rotation <;> rfl

end Rotation

end ScreenCapture
