import ScreenCapture.Geometry.Rect

set_option autoImplicit false

namespace ScreenCapture

-- What happened to the frames of a run. The counters start again from zero at the address limit.
structure Tally where
  produced : Nat
  dropped : Nat
  consumed : Nat
  cropMisses : Nat
  reallocations : Nat
  changedPixels : Nat
  lastOutput : Option Size
deriving DecidableEq, Repr

namespace Tally

def start : Tally := ⟨0, 0, 0, 0, 0, 0, none⟩

def advance (counter amount : Nat) : Nat := (counter + amount) % addressLimit

theorem advance_lt (counter amount : Nat) : advance counter amount < addressLimit :=
  Nat.mod_lt _ (by decide)

def produce (tally : Tally) : Tally := { tally with produced := advance tally.produced 1 }

def drop (tally : Tally) : Tally := { tally with dropped := advance tally.dropped 1 }

def missCrop (tally : Tally) : Tally := { tally with cropMisses := advance tally.cropMisses 1 }

def consume (tally : Tally) (output : Size) (changed : Nat) : Tally :=
  { tally with
    consumed := advance tally.consumed 1
    changedPixels := advance tally.changedPixels changed
    lastOutput := some output }

def reallocate (tally : Tally) (count : Nat) : Tally := { tally with reallocations := count }

end Tally

end ScreenCapture
