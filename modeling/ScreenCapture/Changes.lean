import ScreenCapture.Frame.Share

set_option autoImplicit false

namespace ScreenCapture

namespace Changes

def blockSize : Nat := 32

def blockBytes : Nat := blockSize * bytesPerPixel

def skip (plane : Plane) (count : Nat) : Checked Plane := do
  let start ← twoCuts plane.bytes.size plane.start count 0
  return { plane with start }

def blockDiffers (old new : Plane) (offset rowBytes height : Nat) : Checked Bool := do
  let old ← skip old offset
  let new ← skip new offset
  old.differs new rowBytes height

def dirtyBlocks (old new : Plane) (width height : Nat) : Checked (List Bool) :=
  let whole := (width - 1) / blockSize
  (List.range (whole + 1)).mapM fun block =>
    let rowBytes := if block < whole then blockBytes else (width - whole * blockSize) * bytesPerPixel
    blockDiffers old new (block * blockBytes) rowBytes height

def runs (index : Nat) : (start : Option Nat) → List Bool → List (Nat × Nat)
  | none, [] => []
  | some start, [] => [(start, index)]
  | none, true :: rest => runs (index + 1) (some index) rest
  | none, false :: rest => runs (index + 1) none rest
  | some start, true :: rest => runs (index + 1) (some start) rest
  | some start, false :: rest => (start, index) :: runs (index + 1) none rest

theorem exists_dirty_cons (index block : Nat) (answer : Bool) (rest : List Bool) :
    (∃ offset, (answer :: rest)[offset]? = some true ∧ block = index + offset) ↔
      (answer = true ∧ block = index) ∨
        ∃ offset, rest[offset]? = some true ∧ block = index + 1 + offset := by
  constructor
  next =>
    intro ⟨offset, dirty, same⟩
    cases offset with
    | zero => exact .inl ⟨by simpa using dirty, by simpa using same⟩
    | succ offset => exact .inr ⟨offset, by simpa using dirty, by omega⟩
  next =>
    intro found
    rcases found with ⟨dirty, same⟩ | ⟨offset, dirty, same⟩
    next => exact ⟨0, by simpa using dirty, by simpa using same⟩
    next => exact ⟨offset + 1, by simpa using dirty, by omega⟩

theorem exists_mem_runs (index : Nat) (start : Option Nat) (dirty : List Bool) (block : Nat)
    (before : ∀ first ∈ start, first ≤ index) :
    (∃ run ∈ runs index start dirty, run.1 ≤ block ∧ block < run.2) ↔
      (∃ first ∈ start, first ≤ block ∧ block < index) ∨
        ∃ offset, dirty[offset]? = some true ∧ block = index + offset := by
  induction dirty generalizing index start with
  | nil => cases start <;> simp [runs]
  | cons answer rest ih =>
    rw [exists_dirty_cons]
    cases start with
    | none =>
      cases answer with
      | true =>
        rw [runs, ih (index + 1) (some index) (by simp)]
        simp
        grind
      | false =>
        rw [runs, ih (index + 1) none (by simp)]
        simp
    | some first =>
      have bound := before first rfl
      cases answer with
      | true =>
        rw [runs, ih (index + 1) (some first) (by simpa using Nat.le_succ_of_le bound)]
        simp
        grind
      | false =>
        have later := ih (index + 1) none (by simp)
        simp only [runs, List.mem_cons, exists_eq_or_imp, later]
        simp

def blockLeft (row : Rect) (block : Nat) : Checked Int := do
  let distance ← coordinate ((block * blockSize : Nat) : Int)
  coordinate (row.left + distance)

def addRun (row : Rect) (count : Nat) (output : Region) (run : Nat × Nat) : Checked Region := do
  let left ← blockLeft row run.1
  let right ← if run.2 = count then .ok row.right else blockLeft row run.2
  return output.insert ⟨left, row.top, right, row.bottom⟩

def addRow (old new : Frame) (rect : Rect) (store : Store) (index : Nat) (output : Region) :
    Checked Region := do
  let top := rect.top + ((index * blockSize : Nat) : Int)
  let bottom ← coordinate (top + (blockSize : Int))
  let row : Rect := ⟨rect.left, top, rect.right, min bottom rect.bottom⟩
  let oldPlane ← old.planeAt row.topLeft store
  let newPlane ← new.planeAt row.topLeft store
  let height ← row.height
  let width ← row.width
  let dirty ← dirtyBlocks oldPlane newPlane width.toNat height.toNat
  (runs 0 none dirty).foldlM (addRun row dirty.length) output

def compare (old new : Frame) (store : Store) (rect : Rect) (output : Region) : Checked Region := do
  if old.size ≠ new.size then throw (.breach (.unequalSizes old.size new.size))
  let rect := rect.meet old.bounds
  if rect.isEmpty then return output
  let rows := ((rect.bottom - rect.top).toNat + (blockSize - 1)) / blockSize
  sweep (addRow old new rect store) rows 0 output

end Changes

structure ChangeTracker where
  last : Option Frame

namespace ChangeTracker

def fresh : ChangeTracker := ⟨none⟩

def release (tracker : ChangeTracker) (store : Store) : Store :=
  match tracker.last with
  | none => store
  | some last => last.release store

def reset (tracker : ChangeTracker) (store : Store) : ChangeTracker × Store :=
  (fresh, tracker.release store)

def comparable? (tracker : ChangeTracker) (frame : Frame) : Option Frame :=
  tracker.last.filter fun last => last.size = frame.size

def changed (last : Option Frame) (frame : Frame) (store : Store) : Checked Region :=
  match last with
  | none => .ok (.ofRect frame.bounds)
  | some last =>
      frame.info.updated.rects.foldlM (fun output hint =>
        Changes.compare last frame store hint output) .empty

def process (tracker : ChangeTracker) (frame : Frame) (store : Store) :
    Checked (ChangeTracker × Frame × Store) := do
  let updated ← changed (tracker.comparable? frame) frame store
  let (shared, store) := (frame.withUpdated updated).share store
  return (⟨some shared⟩, shared, tracker.release store)

end ChangeTracker

end ScreenCapture
