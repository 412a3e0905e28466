import ScreenCapture.Display
import ScreenCapture.Plane
import ScreenCapture.Region.Basic
import ScreenCapture.Store

set_option autoImplicit false

namespace ScreenCapture

structure FrameInfo where
  topLeft : Point
  dpi : Point
  updated : Region
  captureTime : Int
  capturer : Nat
  profile : Bytes
  mayContainCursor : Bool
deriving DecidableEq

def FrameInfo.unset : FrameInfo := ⟨.zero, .zero, .empty, 0, 0, #[], false⟩

def FrameInfo.takeFrom (info source : FrameInfo) : FrameInfo × FrameInfo :=
  (source, { source with updated := info.updated })

inductive Wrapping where
  | bare
  | crop
  | shared
deriving DecidableEq, Repr

-- A handle to pixels in a buffer. `groups` are the share groups it goes through, the one it holds
-- itself first; `isCropped` stays set when a cropped frame is shared.
structure Frame where
  size : Size
  stride : Nat
  offset : Nat
  buffer : BufferId
  groups : List GroupId
  wrapping : Wrapping
  isCropped : Bool
  info : FrameInfo

inductive Source where
  | heap
  | segments (supplier : Nat)

def Size.isNegative (size : Size) : Bool := size.width < 0 || size.height < 0

theorem Size.isNegative_eq_false_iff (size : Size) :
    size.isNegative = false ↔ 0 ≤ size.width ∧ 0 ≤ size.height := by
  simp [isNegative]

def Size.rowBytes (size : Size) : Nat := size.width.toNat * bytesPerPixel

def Size.packedBytes (size : Size) : Nat := size.rowBytes * size.height.toNat

def checkLayout (size : Size) (stride available : Nat) : Except Refusal Unit :=
  if size.isNegative then throw (.invalidSize size)
  else if stride < size.rowBytes then throw (.invalidStride stride size.width)
  else if addressLimit ≤ stride * size.height.toNat then
    throw (.bufferTooSmall (addressLimit - 1) available)
  else if available < stride * size.height.toNat then
    throw (.bufferTooSmall (stride * size.height.toNat) available)
  else return

theorem checkLayout_eq_ok_iff {size : Size} {stride available : Nat}
    (reached : available < addressLimit) :
    checkLayout size stride available = .ok () ↔
      (0 ≤ size.width ∧ 0 ≤ size.height) ∧ size.rowBytes ≤ stride ∧
        stride * size.height.toNat ≤ available := by
  unfold checkLayout Size.isNegative
  split
  next negative =>
    simp only [Bool.or_eq_true, decide_eq_true_eq] at negative
    simp [throw, throwThe, MonadExceptOf.throw]
    omega
  next proper =>
    simp only [Bool.or_eq_true, decide_eq_true_eq] at proper
    repeat' split
    all_goals simp [throw, throwThe, MonadExceptOf.throw, pure, Except.pure]
    all_goals omega

namespace Frame

def onBuffer (size : Size) (stride : Nat) (buffer : BufferId) : Frame :=
  { size, stride, offset := 0, buffer, groups := [], wrapping := .bare, isCropped := false,
    info := .unset }

def overBytes (size : Size) (stride : Nat) (backing : Backing) (bytes : Bytes) (store : Store) :
    Except Refusal Frame × Store :=
  match checkLayout size stride bytes.size with
  | .error refusal => (.error refusal, store)
  | .ok () =>
      let added := store.addBuffer backing bytes
      (.ok (onBuffer size stride added.1), added.2)

def createOnHeap (size : Size) (store : Store) : Except Refusal Frame × Store :=
  if size.isNegative then (.error (.invalidSize size), store)
  else if allocationLimit < size.packedBytes then
    (.error (.allocationFailed size.packedBytes), store)
  else
    let added := store.addBuffer .heap (Bytes.zeros size.packedBytes)
    (.ok (onBuffer size size.rowBytes added.1), added.2)

def createInSegment (size : Size) (supplier : Nat) (store : Store) :
    Checked (Except Refusal Frame × Store) := do
  if size.isNegative then return (.error (.invalidSize size), store)
  let (id, store) ← store.requestSegment supplier size.packedBytes
  match id with
  | none => return (.error (.segmentUnavailable size.packedBytes), store)
  | some id =>
      return overBytes size size.rowBytes (.segment id) (Bytes.zeros size.packedBytes) store

def create (source : Source) (size : Size) (store : Store) :
    Checked (Except Refusal Frame × Store) :=
  match source with
  | .heap => return createOnHeap size store
  | .segments supplier => createInSegment size supplier store

def rowBytes (frame : Frame) : Nat := frame.size.rowBytes

def plane (frame : Frame) (store : Store) : Plane :=
  ⟨store.bytes frame.buffer, frame.offset, frame.stride⟩

def data (frame : Frame) (store : Store) : Bytes :=
  (store.bytes frame.buffer).extract frame.offset (store.bytes frame.buffer).size

def dataLength (frame : Frame) (store : Store) : Nat :=
  (store.bytes frame.buffer).size - frame.offset

def pixelOffset (frame : Frame) (position : Point) : Checked Nat := do
  if position.x < 0 ∨ position.y < 0 then throw (.breach (.negativePosition position))
  let line ← address (frame.stride * position.y.toNat)
  let column ← address (bytesPerPixel * position.x.toNat)
  address (line + column)

def planeAt (frame : Frame) (position : Point) (store : Store) : Checked Plane := do
  let plane := frame.plane store
  let offset ← frame.pixelOffset position
  let start ← twoCuts plane.bytes.size plane.start offset 0
  return { plane with start }

def colorAt (frame : Frame) (position : Point) (store : Store) : Checked Color := do
  let plane ← frame.planeAt position store
  plane.bytes.readColor plane.start

def row (frame : Frame) (y : Int) (store : Store) : Checked Bytes := do
  let plane := frame.plane store
  let offset ← frame.pixelOffset ⟨0, y⟩
  let start ← window plane.bytes.size plane.start offset frame.rowBytes
  return plane.bytes.extract start (start + frame.rowBytes)

def appendRow (frame : Frame) (store : Store) (y : Nat) (pixels : Bytes) : Checked Bytes := do
  let row ← frame.row y store
  return pixels ++ row

def pixels (frame : Frame) (store : Store) : Checked Bytes :=
  if frame.rowBytes = 0 then .ok #[]
  else sweep (frame.appendRow store) frame.size.height.toNat 0 #[]

def bounds (frame : Frame) : Rect := .ofSize frame.size

def scaleOn (frame : Frame) (platform : Platform) : Rat := platform.scale frame.info.dpi

def areaOn (frame : Frame) (platform : Platform) : Checked Rect :=
  desktopArea frame.info.topLeft frame.size (frame.scaleOn platform)

def area (frame : Frame) : Checked Rect := frame.areaOn .current

-- The group that the handle holds itself decides, whatever is wrapped further inside.
def isShared (frame : Frame) (store : Store) : Bool :=
  match frame.groups with
  | [] => false
  | group :: _ => 1 < store.holderCount group

def isWritable (frame : Frame) (store : Store) : Bool :=
  frame.groups.all fun group => store.holderCount group == 1

def sharesBufferWith (frame other : Frame) : Bool :=
  match frame.groups, other.groups with
  | group :: _, otherGroup :: _ => group == otherGroup
  | _, _ => false

def segment? (frame : Frame) (store : Store) : Option (Int × Nat) :=
  match store.backing frame.buffer with
  | .segment id => some (id, (store.bytes frame.buffer).size)
  | .heap | .external => none

def release (frame : Frame) (store : Store) : Store := store.release frame.buffer frame.groups

def withUpdated (frame : Frame) (updated : Region) : Frame :=
  { frame with info := { frame.info with updated } }

end Frame

end ScreenCapture
