import ScreenCapture.Frame.Basic

set_option autoImplicit false

namespace ScreenCapture

namespace Blank

def sampleStep : Nat := 105

def stands (frame : Frame) (blank : Color) (store : Store) (position : Point) : Checked Bool := do
  let color ← frame.colorAt position store
  return !color.agrees blank

def sampleStands (frame : Frame) (blank : Color) (store : Store) (sample : Nat) : Checked Bool :=
  let index := sample * sampleStep
  let width := frame.size.width.toNat
  stands frame blank store ⟨(index % width : Nat), (index / width : Nat)⟩

def isBlank (frame : Frame) (blank : Color) (store : Store) : Checked Bool :=
  if frame.size.isEmpty then .ok true
  else do
    let pixels := frame.size.width.toNat * frame.size.height.toNat
    let samples := (pixels + (sampleStep - 1)) / sampleStep
    if ← sweepAny (sampleStands frame blank store) samples 0 then return false
    let centreStands ← stands frame blank store ⟨frame.size.width / 2, frame.size.height / 2⟩
    return !centreStands

end Blank

structure BlankFilter where
  blank : Color
  isFirst : Bool
  lastIsBlank : Bool
  isOpen : Bool

namespace BlankFilter

def fresh (blank : Color) : BlankFilter := ⟨blank, true, false, false⟩

def reset (filter : BlankFilter) : BlankFilter := fresh filter.blank

def sample (filter : BlankFilter) (frame : Frame) (store : Store) : Checked BlankFilter :=
  if filter.isFirst || !frame.info.updated.isEmpty then do
    let lastIsBlank ← Blank.isBlank frame filter.blank store
    return { filter with isFirst := false, lastIsBlank }
  else .ok filter

def check (filter : BlankFilter) (frame : Frame) (store : Store) : Checked (Bool × BlankFilter) := do
  if filter.isOpen then return (true, filter)
  let filter ← filter.sample frame store
  if filter.lastIsBlank then return (false, filter)
  return (true, { filter with isOpen := true })

end BlankFilter

end ScreenCapture
