import ScreenCapture.Frame.Write

set_option autoImplicit false

namespace ScreenCapture

structure Pattern where
  block : Size
  step : Int

namespace Pattern

def color : Color := .solid 0x20 0xc0 0xf0

def span (available needed : Int) : Checked Int := do
  let rest ← coordinate (available - needed)
  return max rest 1

def distance (pattern : Pattern) (sequence : Nat) : Checked Int :=
  travel ((sequence : Int).bmod addressLimit * pattern.step)

def blockAt (pattern : Pattern) (screen : Size) (sequence : Nat) : Checked Rect := do
  let spanX ← span screen.width pattern.block.width
  let spanY ← span screen.height pattern.block.height
  let distance ← pattern.distance sequence
  let block ← Rect.place (distance.tmod spanX) ((distance.tdiv 2).tmod spanY) pattern.block.width
    pattern.block.height
  return block.meet (.ofSize screen)

def fillRow (frame : Frame) (rect : Rect) (count row : Nat) (store : Store) : Checked Store := do
  let offset ← frame.pixelOffset ⟨rect.left, rect.top + row⟩
  frame.edit (Frame.paintRow color offset count) store

def fill (frame : Frame) (rect : Rect) (store : Store) : Checked Store := do
  let width ← rect.width
  sweep (fillRow frame rect width.toNat) (rect.bottom - rect.top).toNat 0 store

def paint (pattern : Pattern) (frame : Frame) (sequence : Nat) (store : Store) :
    Checked (Region × Store) := do
  let store ← frame.clear store
  let block ← pattern.blockAt frame.size sequence
  let store ← fill frame block store
  match sequence with
  | 0 => return (.ofRect block, store)
  | before + 1 =>
      let old ← pattern.blockAt frame.size before
      return ((Region.ofRect block).insert old, store)

end Pattern

end ScreenCapture
