import ScreenCapture.Display
import ScreenCapture.Json.Reader
import ScreenCapture.Rotation

set_option autoImplicit false

namespace ScreenCapture

namespace Json

def readCoordinate : Reader Int := readInteger (-2147483648) 2147483647

def coordinateField {S : Type} (name : String) (set : S → Int → S) : Field S :=
  ⟨name, fun state tokens => do
    let (value, rest) ← readCoordinate tokens
    return (set state value, rest)⟩

def readPoint : Reader Point :=
  readRecord true
    [coordinateField "x" fun point x => { point with x },
      coordinateField "y" fun point y => { point with y }] Point.zero

def readSize : Reader Size :=
  readRecord true
    [coordinateField "width" fun size width => { size with width },
      coordinateField "height" fun size height => { size with height }] ⟨0, 0⟩

def readRect : Reader Rect :=
  readRecord true
    [coordinateField "left" fun rect left => { rect with left },
      coordinateField "top" fun rect top => { rect with top },
      coordinateField "right" fun rect right => { rect with right },
      coordinateField "bottom" fun rect bottom => { rect with bottom }] Rect.zero

def readRotation : Reader Rotation := readName Rotation.ofName?

def readPlatform : Reader Platform := readName Platform.ofName?

def writePoint (point : Point) : String :=
  writeObject [("x", toString point.x), ("y", toString point.y)]

def writeSize (size : Size) : String :=
  writeObject [("width", toString size.width), ("height", toString size.height)]

def writeRect (rect : Rect) : String :=
  writeObject [("left", toString rect.left), ("top", toString rect.top),
    ("right", toString rect.right), ("bottom", toString rect.bottom)]

def writeRotation (rotation : Rotation) : String := writeName rotation.name

def writePlatform (platform : Platform) : String := writeName platform.name

end Json

end ScreenCapture
