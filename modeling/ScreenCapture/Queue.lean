import ScreenCapture.Frame.Share

set_option autoImplicit false

namespace ScreenCapture

structure Queue where
  current : Option Frame
  previous : Option Frame
  reallocations : Nat

namespace Queue

def empty : Queue := ⟨none, none, 0⟩

def releaseSlot (slot : Option Frame) (store : Store) : Store :=
  match slot with
  | none => store
  | some frame => frame.release store

def advance (queue : Queue) : Queue :=
  { queue with current := queue.previous, previous := queue.current }

def replace (queue : Queue) (frame : Frame) (store : Store) : Queue × Store :=
  ({ queue with current := some frame }, releaseSlot queue.current store)

def reset (queue : Queue) (store : Store) : Queue × Store :=
  ({ queue with current := none, previous := none },
    releaseSlot queue.previous (releaseSlot queue.current store))

def isReusable (frame : Frame) (size : Size) (store : Store) : Bool :=
  frame.size = size && !frame.isShared store

-- The old frame is dropped, also when no new one can be had.
def renew (queue : Queue) (size : Size) (source : Source) (store : Store) :
    Checked (Except Refusal Frame × Queue × Store) := do
  let (created, store) ← Frame.create source size store
  let store := releaseSlot queue.current store
  let queue := { queue with current := created.toOption, reallocations := queue.reallocations + 1 }
  return (created, queue, store)

def prepare (queue : Queue) (size : Size) (source : Source) (store : Store) :
    Checked (Except Refusal Frame × Queue × Store) :=
  match queue.current with
  | some frame =>
      if isReusable frame size store then .ok (.ok frame, queue, store)
      else queue.renew size source store
  | none => queue.renew size source store

theorem advance_advance (queue : Queue) : queue.advance.advance = queue := rfl

end Queue

end ScreenCapture
