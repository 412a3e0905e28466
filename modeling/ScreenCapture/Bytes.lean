import ScreenCapture.Bounds
import ScreenCapture.Color

set_option autoImplicit false

namespace ScreenCapture

abbrev Bytes := Array UInt8

namespace Bytes

def zeros (count : Nat) : Bytes := Array.replicate count 0

def byte (bytes : Bytes) (index : Nat) : UInt8 := bytes.getD index 0

def fill (bytes : Bytes) (start : Nat) : (count : Nat) → Bytes
  | 0 => bytes
  | count + 1 => fill (bytes.setIfInBounds start 0) (start + 1) count

def copy (source : Bytes) : (count start place : Nat) → (target : Bytes) → Bytes
  | 0, _, _, target => target
  | count + 1, start, place, target =>
      copy source count (start + 1) (place + 1) (target.setIfInBounds place (source.byte start))

def same (bytes other : Bytes) : (count start otherStart : Nat) → Bool
  | 0, _, _ => true
  | count + 1, start, otherStart =>
      bytes.byte start == other.byte otherStart && same bytes other count (start + 1) (otherStart + 1)

def allZero (bytes : Bytes) : (count start : Nat) → Bool
  | 0, _ => true
  | count + 1, start => bytes.byte start == 0 && allZero bytes count (start + 1)

def color (bytes : Bytes) (start : Nat) : Color :=
  ⟨bytes.byte start, bytes.byte (start + 1), bytes.byte (start + 2), bytes.byte (start + 3)⟩

def readColor (bytes : Bytes) (start : Nat) : Checked Color :=
  if start + 4 ≤ bytes.size then .ok (bytes.color start) else .error .outOfBounds

def setColor (bytes : Bytes) (start : Nat) (color : Color) : Bytes :=
  (((bytes.setIfInBounds start color.blue).setIfInBounds (start + 1) color.green).setIfInBounds
    (start + 2) color.red).setIfInBounds (start + 3) color.alpha

def setColors (bytes : Bytes) (start : Nat) (color : Color) : (count : Nat) → Bytes
  | 0 => bytes
  | count + 1 => setColors (bytes.setColor start color) (start + 4) color count

theorem byte_setIfInBounds (bytes : Bytes) (position index : Nat) (value : UInt8) :
    byte (bytes.setIfInBounds position value) index =
      if position = index ∧ index < bytes.size then value else bytes.byte index := by
  simp only [byte, Array.getD_eq_getD_getElem?, Array.getElem?_setIfInBounds]
  by_cases same : position = index
  next =>
    subst same
    by_cases within : position < bytes.size
    next => simp [within]
    next => simp [within]
  next => simp [same]

@[simp] theorem size_fill (bytes : Bytes) (start count : Nat) :
    (bytes.fill start count).size = bytes.size := by
  induction count generalizing bytes start with
  | zero => rfl
  | succ count ih => simp [fill, ih]

@[simp] theorem size_copy (source : Bytes) (count start place : Nat) (target : Bytes) :
    (source.copy count start place target).size = target.size := by
  induction count generalizing start place target with
  | zero => rfl
  | succ count ih => simp [copy, ih]

@[simp] theorem size_setColor (bytes : Bytes) (start : Nat) (color : Color) :
    (bytes.setColor start color).size = bytes.size := by
  simp [setColor]

@[simp] theorem size_setColors (bytes : Bytes) (start : Nat) (color : Color) (count : Nat) :
    (bytes.setColors start color count).size = bytes.size := by
  induction count generalizing bytes start with
  | zero => rfl
  | succ count ih => simp [setColors, ih]

theorem color_setColor (bytes : Bytes) (start : Nat) (color : Color)
    (fits : start + 4 ≤ bytes.size) : (bytes.setColor start color).color start = color := by
  have first : start < bytes.size := by omega
  have second : start + 1 < bytes.size := by omega
  have third : start + 2 < bytes.size := by omega
  have fourth : start + 3 < bytes.size := by omega
  simp [Bytes.color, setColor, byte_setIfInBounds, first, second, third, fourth]

theorem byte_fill (bytes : Bytes) (start count index : Nat) :
    (bytes.fill start count).byte index =
      if start ≤ index ∧ index < start + count then 0 else bytes.byte index := by
  induction count generalizing bytes start with
  | zero => grind [fill]
  | succ count ih =>
    rw [fill, ih, byte_setIfInBounds]
    by_cases outside : bytes.size ≤ index
    next =>
      have blank : bytes.byte index = 0 := by simp [byte, outside]
      simp [blank]
    next => grind

theorem byte_copy (source : Bytes) (count start place : Nat) (target : Bytes)
    (fits : place + count ≤ target.size) (index : Nat) :
    (source.copy count start place target).byte index =
      if place ≤ index ∧ index < place + count then source.byte (start + (index - place))
      else target.byte index := by
  induction count generalizing start place target with
  | zero => grind [copy]
  | succ count ih =>
    have room : place + 1 + count ≤ (target.setIfInBounds place (source.byte start)).size := by
      simp only [Array.size_setIfInBounds]
      omega
    rw [copy, ih _ _ _ room, byte_setIfInBounds]
    grind

theorem same_iff (bytes other : Bytes) (count start otherStart : Nat) :
    bytes.same other count start otherStart = true ↔
      ∀ offset, offset < count → bytes.byte (start + offset) = other.byte (otherStart + offset) := by
  induction count generalizing start otherStart with
  | zero => simp [same]
  | succ count ih =>
    rw [same, Bool.and_eq_true, beq_iff_eq, ih]
    constructor
    next =>
      intro ⟨first, rest⟩ offset below
      cases offset with
      | zero => exact first
      | succ offset =>
        simpa only [Nat.add_assoc, Nat.add_comm 1] using rest offset (by omega)
    next =>
      intro all
      refine ⟨all 0 (by omega), fun offset below => ?_⟩
      simpa only [Nat.add_assoc, Nat.add_comm 1] using all (offset + 1) (by omega)

theorem color_eq_iff (bytes other : Bytes) (start otherStart : Nat) :
    bytes.color start = other.color otherStart ↔
      ∀ offset, offset < 4 → bytes.byte (start + offset) = other.byte (otherStart + offset) := by
  simp only [Bytes.color, Color.mk.injEq]
  constructor
  next =>
    intro ⟨blue, green, red, alpha⟩ offset below
    obtain rfl | rfl | rfl | rfl : offset = 0 ∨ offset = 1 ∨ offset = 2 ∨ offset = 3 := by omega
    all_goals assumption
  next =>
    intro all
    exact ⟨all 0 (by omega), all 1 (by omega), all 2 (by omega), all 3 (by omega)⟩

end Bytes

def window (length start offset count : Nat) : Checked Nat := do
  let stop ← address (offset + count)
  if start + stop ≤ length then return start + offset else throw .outOfBounds

def twoCuts (length start offset count : Nat) : Checked Nat :=
  if start + offset + count ≤ length then .ok (start + offset) else .error .outOfBounds

theorem window_eq_ok_iff {length start offset count result : Nat} :
    window length start offset count = .ok result ↔
      offset + count < addressLimit ∧ start + (offset + count) ≤ length ∧
        start + offset = result := by
  unfold window
  rw [Checked.bind_eq_ok]
  constructor
  next =>
    intro ⟨stop, reached, rest⟩
    obtain ⟨below, rfl⟩ := address_eq_ok_iff.mp reached
    split at rest
    next within => exact ⟨below, within, Except.ok.inj rest⟩
    next => cases rest
  next =>
    intro ⟨below, within, same⟩
    exact ⟨_, address_eq_ok_iff.mpr ⟨below, rfl⟩, by rw [if_pos within, same]; rfl⟩

theorem twoCuts_eq_ok_iff {length start offset count result : Nat} :
    twoCuts length start offset count = .ok result ↔
      start + offset + count ≤ length ∧ start + offset = result := by
  unfold twoCuts
  split
  next within => simp [within]
  next outside => simp [outside]

end ScreenCapture
