import ScreenCapture.Frame.Basic

set_option autoImplicit false

namespace ScreenCapture

namespace Text

def record (name : String) (fields : List (String × String)) : String :=
  name ++ " \x7b " ++ ", ".intercalate (fields.map fun field => field.1 ++ ": " ++ field.2) ++ " \x7d"

def hexDigit (value : Nat) : Char :=
  if value < 10 then Char.ofNat (48 + value) else Char.ofNat (87 + value)

def hex (byte : UInt8) : List Char := [hexDigit (byte.toNat / 16), hexDigit (byte.toNat % 16)]

def quotedByte (byte : UInt8) : List Char :=
  if byte = 10 then ['\\', 'n']
  else if byte = 13 then ['\\', 'r']
  else if byte = 9 then ['\\', 't']
  else if byte = 92 then ['\\', '\\']
  else if byte = 34 then ['\\', '"']
  else if byte = 0 then ['\\', '0']
  else if 32 ≤ byte ∧ byte ≤ 126 then [Char.ofNat byte.toNat]
  else '\\' :: 'x' :: hex byte

def quoted (bytes : Bytes) : String :=
  String.ofList ('b' :: '"' :: bytes.toList.flatMap quotedByte ++ ['"'])

def point (point : Point) : String :=
  record "Vector" [("x", toString point.x), ("y", toString point.y)]

def size (size : Size) : String :=
  record "Size" [("width", toString size.width), ("height", toString size.height)]

def rect (rect : Rect) : String :=
  record "Rect" [("left", toString rect.left), ("top", toString rect.top),
    ("right", toString rect.right), ("bottom", toString rect.bottom)]

def region (region : Region) : String :=
  record "Region" [("rects", "[" ++ ", ".intercalate (region.rects.map rect) ++ "]")]

def info (info : FrameInfo) : String :=
  record "FrameInfo" [("top_left", point info.topLeft), ("dpi", point info.dpi),
    ("updated_region", region info.updated), ("capture_time_ms", toString info.captureTime),
    ("capturer_id", "CapturerId(" ++ toString info.capturer ++ ")"),
    ("icc_profile", quoted info.profile),
    ("may_contain_cursor", if info.mayContainCursor then "true" else "false")]

end Text

def Backing.kind : Backing → String
  | .heap => "heap"
  | .segment _ => "shared-memory"
  | .external => "external"

def Frame.storageKind (frame : Frame) (store : Store) : String :=
  match frame.wrapping with
  | .bare => (store.backing frame.buffer).kind
  | .crop => "cropped"
  | .shared => "shared"

def Frame.text (frame : Frame) (store : Store) : String :=
  Text.record "Frame" [("size", Text.size frame.size), ("stride", toString frame.stride),
    ("storage", "\"" ++ frame.storageKind store ++ "\""), ("info", Text.info frame.info)]

def FrameInfo.capturerText (info : FrameInfo) : String :=
  if info.capturer = 0 then "unknown" else "capturer#" ++ toString info.capturer

end ScreenCapture
