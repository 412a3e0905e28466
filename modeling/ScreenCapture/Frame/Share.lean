import ScreenCapture.Frame.Write

set_option autoImplicit false

namespace ScreenCapture

def FrameInfo.crop (info : FrameInfo) (visible : Rect) : Checked FrameInfo := do
  let topLeft ← info.topLeft.add visible.topLeft
  let back ← visible.topLeft.neg
  let updated ← (info.updated.clip visible).shift back
  return { info with topLeft, updated }

namespace Frame

-- Makes a second handle to the same pixels. Afterwards the frame and the new handle are alike, so
-- one value stands for both. A frame that is a shared handle already joins the group it holds; any
-- other is wrapped in a group of its own.
def share (frame : Frame) (store : Store) : Frame × Store :=
  match frame.wrapping, frame.groups with
  | .shared, group :: _ => (frame, store.join group)
  | _, groups =>
      let added := store.addGroup 2
      ({ frame with groups := added.1 :: groups, wrapping := .shared }, added.2)

theorem share_size (frame : Frame) (store : Store) : (frame.share store).1.size = frame.size := by
  unfold share
  split <;> rfl

theorem share_info (frame : Frame) (store : Store) : (frame.share store).1.info = frame.info := by
  unfold share
  split <;> rfl

theorem share_plane (frame : Frame) (store : Store) :
    (frame.share store).1.plane (frame.share store).2 = frame.plane store := by
  unfold share
  split <;> rfl

def crop? (frame : Frame) (rect : Rect) (store : Store) : Checked (Option Frame × Store) := do
  let visible := frame.bounds.meet rect
  if visible.isEmpty then return (none, frame.release store)
  if visible = frame.bounds then return (some frame, store)
  let offset ← frame.pixelOffset visible.topLeft
  let size ← visible.size
  let info ← frame.info.crop visible
  return (some { frame with
    size, info, offset := frame.offset + offset, wrapping := .crop, isCropped := true }, store)

end Frame

end ScreenCapture
