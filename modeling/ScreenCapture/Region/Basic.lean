import ScreenCapture.Region.Bands

set_option autoImplicit false

namespace ScreenCapture

structure Region where
  rects : List Rect
deriving DecidableEq, Repr

namespace Region

def empty : Region := ⟨[]⟩

def isEmpty (region : Region) : Bool := region.rects.isEmpty

def contains (region : Region) (point : Point) : Bool :=
  region.rects.any fun rect => rect.contains point

def ofRects (rects : List Rect) : Region :=
  let solid := rects.filter fun rect => !rect.isEmpty
  if solid.length ≤ 1 then ⟨solid⟩ else ⟨(bandsOf solid).flatMap Band.rects⟩

def ofRect (rect : Rect) : Region :=
  if rect.isEmpty then empty else ⟨[rect]⟩

def insert (region : Region) (rect : Rect) : Region :=
  if rect.isEmpty then region else ofRects (region.rects ++ [rect])

def insertAll (region : Region) (rects : List Rect) : Region :=
  ofRects (region.rects ++ rects)

def union (region other : Region) : Region := region.insertAll other.rects

def clip (region : Region) (rect : Rect) : Region :=
  ofRects (region.rects.map fun part => part.meet rect)

def inter (region other : Region) : Region :=
  ofRects (region.rects.flatMap fun part => other.rects.map fun rect => part.meet rect)

-- The rows above and below keep the full width; left and right are cut to the rows of the hole.
def around (rect hole : Rect) : List Rect :=
  [⟨rect.left, rect.top, rect.right, hole.top⟩,
    ⟨rect.left, hole.bottom, rect.right, rect.bottom⟩,
    ⟨rect.left, hole.top, hole.left, hole.bottom⟩,
    ⟨hole.right, hole.top, rect.right, hole.bottom⟩]

def cut (rect hole : Rect) : List Rect :=
  if (rect.meet hole).isEmpty then [rect] else around rect (rect.meet hole)

def erase (region : Region) (rect : Rect) : Region :=
  if rect.isEmpty then region else ofRects (region.rects.flatMap fun part => cut part rect)

def diff (region other : Region) : Region := other.rects.foldl erase region

def shift (region : Region) (move : Point) : Checked Region := do
  let rects ← region.rects.mapM fun rect => rect.shift move
  return ⟨rects⟩

def addArea (total : Int) (rect : Rect) : Checked Int := do
  let width ← rect.width
  let height ← rect.height
  let area ← travel (width * height)
  travel (total + area)

def area (region : Region) : Checked Int := region.rects.foldlM addArea 0

end Region

end ScreenCapture
