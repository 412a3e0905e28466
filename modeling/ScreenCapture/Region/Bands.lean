import ScreenCapture.Geometry.Rect

set_option autoImplicit false

namespace ScreenCapture

structure Span where
  left : Int
  right : Int
deriving DecidableEq, Repr

structure Band where
  top : Int
  bottom : Int
  spans : List Span
deriving DecidableEq, Repr

namespace Span

def before (span other : Span) : Bool :=
  span.left < other.left ||
    span.left = other.left && span.right ≤ other.right

def absorb (span : Span) : List Span → List Span
  | [] => [span]
  | next :: rest =>
      if next.left ≤ span.right then absorb ⟨span.left, max span.right next.right⟩ rest
      else span :: absorb next rest

def union (spans : List Span) : List Span :=
  match spans.mergeSort before with
  | [] => []
  | first :: rest => absorb first rest

end Span

namespace Band

def across (rects : List Rect) (top bottom : Int) : Band :=
  let crossing := rects.filter fun rect => rect.top ≤ top && bottom ≤ rect.bottom
  ⟨top, bottom, Span.union (crossing.map fun rect => ⟨rect.left, rect.right⟩)⟩

def pile (band : Band) : List Band → List Band
  | [] => [band]
  | next :: rest =>
      if band.bottom = next.top ∧ band.spans = next.spans then
        pile ⟨band.top, next.bottom, band.spans⟩ rest
      else band :: pile next rest

def stack : List Band → List Band
  | [] => []
  | first :: rest => pile first rest

def rects (band : Band) : List Rect :=
  band.spans.map fun span => ⟨span.left, band.top, span.right, band.bottom⟩

end Band

def horizontalEdges (rects : List Rect) : List Int :=
  ((rects.flatMap fun rect => [rect.top, rect.bottom]).mergeSort fun a b => a ≤ b).eraseReps

-- Cuts non-empty rectangles at all their horizontal edges and puts the strips together again:
-- within a strip overlapping or touching columns join, and strips on top of each other join when
-- their columns are the same.
def bandsOf (rects : List Rect) : List Band :=
  let edges := horizontalEdges rects
  let strips := (edges.zip edges.tail).map fun strip => Band.across rects strip.1 strip.2
  Band.stack (strips.filter fun band => !band.spans.isEmpty)

end ScreenCapture
