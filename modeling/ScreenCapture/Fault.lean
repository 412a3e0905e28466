import ScreenCapture.Geometry.Shape

set_option autoImplicit false

namespace ScreenCapture

inductive Breach where
  | destinationOutside (rect : Rect) (frame : Size)
  | sourceOutside (rect : Rect) (frame : Size)
  | targetOutside (rect : Rect) (frame : Size)
  | unequalSizes (old new : Size)
  | negativePosition (position : Point)
  | bufferShared
deriving DecidableEq, Repr

def Breach.message : Breach → String
  | .destinationOutside rect frame =>
      "destination " ++ rect.text ++ " is outside of frame " ++ frame.text
  | .sourceOutside rect frame =>
      "source rect " ++ rect.text ++ " is outside of frame " ++ frame.text
  | .targetOutside rect frame =>
      "target rect " ++ rect.text ++ " is outside of frame " ++ frame.text
  | .unequalSizes old new =>
      "cannot compare frames of size " ++ old.text ++ " and " ++ new.text
  | .negativePosition position => "negative pixel position " ++ position.text
  | .bufferShared => "pixel buffer is still shared and cannot be written"

-- Ends a computation for good: no result, and nothing that was being changed can be used.
inductive Fault where
  | overflow
  | outOfBounds
  | capacity
  | breach (cause : Breach)
deriving DecidableEq, Repr

abbrev Checked := Except Fault

-- An expected failure to make a frame or a cursor; everything else goes on.
inductive Refusal where
  | allocationFailed (bytes : Nat)
  | segmentUnavailable (bytes : Nat)
  | invalidSize (size : Size)
  | invalidStride (stride : Nat) (width : Int)
  | bufferTooSmall (required actual : Nat)
  | invalidCursorBitmap (reason : String)
  | hotspotOutside (hotspot : Point) (image : Size)
deriving DecidableEq, Repr

def Refusal.message : Refusal → String
  | .allocationFailed bytes => "Failed to allocate " ++ toString bytes ++ " bytes for frame"
  | .segmentUnavailable bytes =>
      "Shared memory factory could not provide " ++ toString bytes ++ " bytes"
  | .invalidSize size => "Invalid frame size: " ++ size.text
  | .invalidStride stride width =>
      "Stride " ++ toString stride ++ " is too small for width " ++ toString width
  | .bufferTooSmall required actual =>
      "Buffer too small: need " ++ toString required ++ " bytes, have " ++ toString actual
  | .invalidCursorBitmap reason => "Invalid cursor bitmap: " ++ reason
  | .hotspotOutside hotspot image =>
      "Hotspot " ++ hotspot.text ++ " outside of cursor image " ++ image.text

theorem Checked.ok_bind {A B : Type} (value : A) (next : A → Checked B) :
    (Except.ok value : Checked A) >>= next = next value := rfl

theorem Checked.error_bind {A B : Type} (fault : Fault) (next : A → Checked B) :
    (Except.error fault : Checked A) >>= next = .error fault := rfl

theorem Checked.bind_eq_ok {A B : Type} {first : Checked A} {next : A → Checked B} {result : B} :
    first >>= next = .ok result ↔ ∃ value, first = .ok value ∧ next value = .ok result := by
  cases first with
  | error fault => simp [Checked.error_bind]
  | ok value => simp [Checked.ok_bind]

end ScreenCapture
