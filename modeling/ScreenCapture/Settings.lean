import ScreenCapture.Bounds
import ScreenCapture.Json.Shape

set_option autoImplicit false

namespace ScreenCapture

structure Settings where
  frameSize : Size
  origin : Point
  dpi : Point
  frameCount : Nat
  frameInterval : Nat
  crop : Rect
  rotation : Rotation
  channelCapacity : Nat
  sharedMemory : Bool
deriving DecidableEq, Repr

inductive SettingsError where
  | unreadable (path : String)
  | malformed (path : String)
  | emptyFrame (size : Size)
  | noChannel
deriving DecidableEq, Repr

def SettingsError.message : SettingsError → String
  | .unreadable path => "Failed to read config file " ++ path
  | .malformed path => "Failed to parse config file " ++ path
  | .emptyFrame size => "Frame size " ++ size.text ++ " is empty"
  | .noChannel => "Channel capacity must be at least 1"

namespace Settings

def standard : Settings :=
  { frameSize := ⟨640, 360⟩
    origin := .zero
    dpi := ⟨96, 96⟩
    frameCount := 120
    frameInterval := 16
    crop := ⟨80, 40, 400, 280⟩
    rotation := .deg90
    channelCapacity := 3
    sharedMemory := false }

def field {A : Type} (name : String) (read : Json.Reader A) (set : Settings → A → Settings) :
    Json.Field Settings :=
  ⟨name, fun settings tokens => do
    let (value, rest) ← read tokens
    return (set settings value, rest)⟩

def readCount : Json.Reader Nat := fun tokens => do
  let (value, rest) ← Json.readInteger 0 (addressLimit - 1 : Nat) tokens
  return (value.toNat, rest)

def fields : List (Json.Field Settings) :=
  [field "frame_size" Json.readSize fun settings frameSize => { settings with frameSize },
    field "origin" Json.readPoint fun settings origin => { settings with origin },
    field "dpi" Json.readPoint fun settings dpi => { settings with dpi },
    field "frame_count" readCount fun settings frameCount => { settings with frameCount },
    field "frame_interval_ms" readCount fun settings frameInterval =>
      { settings with frameInterval },
    field "crop" Json.readRect fun settings crop => { settings with crop },
    field "rotation" Json.readRotation fun settings rotation => { settings with rotation },
    field "channel_capacity" readCount fun settings channelCapacity =>
      { settings with channelCapacity },
    field "shared_memory" Json.readBool fun settings sharedMemory => { settings with sharedMemory }]

def read : Json.Reader Settings := Json.readRecord false fields standard

def members (settings : Settings) : List (String × String) :=
  [("frame_size", Json.writeSize settings.frameSize),
    ("origin", Json.writePoint settings.origin),
    ("dpi", Json.writePoint settings.dpi),
    ("frame_count", toString settings.frameCount),
    ("frame_interval_ms", toString settings.frameInterval),
    ("crop", Json.writeRect settings.crop),
    ("rotation", Json.writeRotation settings.rotation),
    ("channel_capacity", toString settings.channelCapacity),
    ("shared_memory", Json.writeBool settings.sharedMemory)]

def write (settings : Settings) : String := Json.writeObject settings.members

def validate (settings : Settings) : Except SettingsError Unit :=
  if settings.frameSize.isEmpty then throw (.emptyFrame settings.frameSize)
  else if settings.channelCapacity = 0 then throw .noChannel
  else return

theorem validate_eq_ok_iff {settings : Settings} :
    settings.validate = .ok () ↔
      settings.frameSize.isEmpty = false ∧ settings.channelCapacity ≠ 0 := by
  unfold validate
  split
  next empty => simp [empty, throw, throwThe, MonadExceptOf.throw]
  next solid =>
    split
    next none => simp [none, throw, throwThe, MonadExceptOf.throw]
    next some => simpa [some, pure, Except.pure] using solid

def parse (path text : String) : Except SettingsError Settings :=
  match Json.parse? read text with
  | none => throw (.malformed path)
  | some settings => do
      settings.validate
      return settings

def load (path : String) (contents : Option ByteArray) : Except SettingsError Settings :=
  match contents.bind String.fromUTF8? with
  | none => throw (.unreadable path)
  | some text => parse path text

end Settings

end ScreenCapture
