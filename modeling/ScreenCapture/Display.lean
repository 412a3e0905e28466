import ScreenCapture.Geometry.Rect
import ScreenCapture.Rounding

set_option autoImplicit false

namespace ScreenCapture

inductive Platform where
  | windows
  | macOS
  | chromeOS
  | linux
  | other
deriving DecidableEq, Repr

namespace Platform

def current : Platform := .linux

def scalesPixels : Platform → Bool
  | .macOS | .chromeOS => true
  | .windows | .linux | .other => false

def name : Platform → String
  | .windows => "windows"
  | .macOS => "macos"
  | .chromeOS => "chromeos"
  | .linux => "linux"
  | .other => "other"

def all : List Platform := [.windows, .macOS, .chromeOS, .linux, .other]

def ofName? (name : String) : Option Platform := all.find? fun platform => platform.name == name

def scale (platform : Platform) (dpi : Point) : Rat :=
  if platform.scalesPixels && !dpi.isZero && dpi.x = dpi.y then
    single (single (dpi.x : Rat) / 96)
  else 1

theorem scale_of_not_scalesPixels {platform : Platform} (plain : platform.scalesPixels = false)
    (dpi : Point) : platform.scale dpi = 1 := by
  simp [scale, plain]

end Platform

def logicalLength (pixels : Int) (scale : Rat) : Int :=
  clampToCoordinate (truncate (single (single (pixels : Rat) / scale)))

def desktopArea (topLeft : Point) (size : Size) (scale : Rat) : Checked Rect :=
  Rect.place topLeft.x topLeft.y (logicalLength size.width scale) (logicalLength size.height scale)

def Rect.stretch (rect : Rect) (horizontal vertical : Factor) : Checked Rect := do
  let width ← rect.width
  let right ← coordinate (rect.right + horizontal.growth width)
  let height ← rect.height
  let bottom ← coordinate (rect.bottom + vertical.growth height)
  return ⟨rect.left, rect.top, right, bottom⟩

end ScreenCapture
