set_option autoImplicit false

namespace ScreenCapture

structure Point where
  x : Int
  y : Int
deriving DecidableEq, Repr

structure Size where
  width : Int
  height : Int
deriving DecidableEq, Repr

-- A rectangle given by its edges. The right and bottom edges are exclusive. Edges are kept as
-- given, so a rectangle may be inverted; such a rectangle holds no point.
structure Rect where
  left : Int
  top : Int
  right : Int
  bottom : Int
deriving DecidableEq, Repr

def Point.zero : Point := ⟨0, 0⟩

def Point.text (point : Point) : String :=
  "(" ++ toString point.x ++ ", " ++ toString point.y ++ ")"

def Size.isEmpty (size : Size) : Bool :=
  size.width ≤ 0 || size.height ≤ 0

theorem Size.isEmpty_iff (size : Size) : size.isEmpty = true ↔ size.width ≤ 0 ∨ size.height ≤ 0 := by
  simp [isEmpty]

theorem Size.isEmpty_eq_false_iff (size : Size) :
    size.isEmpty = false ↔ 0 < size.width ∧ 0 < size.height := by
  simp [isEmpty]

def Size.text (size : Size) : String :=
  toString size.width ++ "x" ++ toString size.height

namespace Rect

def zero : Rect := ⟨0, 0, 0, 0⟩

def topLeft (rect : Rect) : Point := ⟨rect.left, rect.top⟩

def isEmpty (rect : Rect) : Bool :=
  rect.right ≤ rect.left || rect.bottom ≤ rect.top

def contains (rect : Rect) (point : Point) : Bool :=
  rect.left ≤ point.x && point.x < rect.right &&
    rect.top ≤ point.y && point.y < rect.bottom

def encloses (rect inner : Rect) : Bool :=
  rect.left ≤ inner.left && inner.right ≤ rect.right &&
    rect.top ≤ inner.top && inner.bottom ≤ rect.bottom

-- The common part by edges, inverted if there is none.
def overlap (rect other : Rect) : Rect :=
  ⟨max rect.left other.left, max rect.top other.top,
    min rect.right other.right, min rect.bottom other.bottom⟩

def meet (rect other : Rect) : Rect :=
  if (rect.overlap other).isEmpty then zero else rect.overlap other

def hull (rect other : Rect) : Rect :=
  if rect.isEmpty then other
  else if other.isEmpty then rect
  else
    ⟨min rect.left other.left, min rect.top other.top,
      max rect.right other.right, max rect.bottom other.bottom⟩

def ofSize (size : Size) : Rect := ⟨0, 0, size.width, size.height⟩

def text (rect : Rect) : String :=
  "[" ++ toString rect.left ++ ", " ++ toString rect.right ++ ") x [" ++
    toString rect.top ++ ", " ++ toString rect.bottom ++ ")"

theorem isEmpty_iff (rect : Rect) :
    rect.isEmpty = true ↔ rect.right ≤ rect.left ∨ rect.bottom ≤ rect.top := by
  simp [isEmpty]

theorem contains_iff (rect : Rect) (point : Point) :
    rect.contains point = true ↔
      (rect.left ≤ point.x ∧ point.x < rect.right) ∧
        rect.top ≤ point.y ∧ point.y < rect.bottom := by
  simp [contains, and_assoc]

theorem encloses_iff (rect inner : Rect) : rect.encloses inner = true ↔
    (rect.left ≤ inner.left ∧ inner.right ≤ rect.right) ∧
      rect.top ≤ inner.top ∧ inner.bottom ≤ rect.bottom := by
  simp [encloses, and_assoc]

theorem contains_of_isEmpty {rect : Rect} (empty : rect.isEmpty = true) (point : Point) :
    rect.contains point = false := by
  rw [isEmpty_iff] at empty
  rw [← Bool.not_eq_true, contains_iff]
  omega

theorem contains_meet (rect other : Rect) (point : Point) :
    (rect.meet other).contains point = (rect.contains point && other.contains point) := by
  rw [Bool.eq_iff_iff, Bool.and_eq_true, contains_iff rect, contains_iff other]
  unfold meet
  split
  next empty =>
    simp only [isEmpty_iff, overlap] at empty
    simp only [contains_iff, zero]
    omega
  next =>
    simp only [contains_iff, overlap]
    omega

end Rect

end ScreenCapture
