import Mathlib.Data.List.Nodup
import ScreenCapture.Proofs.Pixels.Alike
import ScreenCapture.Proofs.Pixels.Transfer

set_option autoImplicit false

namespace ScreenCapture

theorem sweep_eq_foldl {State : Type} {step : Nat → State → Checked State} {put : State → Nat → State}
    (invariant : State → Prop) (count : Nat) {first : Nat} {state : State} (start : invariant state)
    (each : ∀ index state, first ≤ index → index < first + count → invariant state →
      step index state = .ok (put state index) ∧ invariant (put state index)) :
    sweep step count first state = .ok ((List.range' first count).foldl put state) ∧
      invariant ((List.range' first count).foldl put state) := by
  induction count generalizing first state with
  | zero => exact ⟨rfl, start⟩
  | succ count ih =>
    obtain ⟨taken, held⟩ := each first state (Nat.le_refl _) (by omega) start
    rw [sweep, taken, Checked.ok_bind, List.range'_succ, List.foldl_cons]
    exact ih held fun index state lower upper => each index state (by omega) (by omega)

namespace Bytes

theorem copy_add (source : Bytes) (count more start place : Nat) (target : Bytes) :
    source.copy (count + more) start place target =
      source.copy more (start + count) (place + count) (source.copy count start place target) := by
  induction count generalizing start place target with
  | zero => rw [Nat.zero_add, copy]; rfl
  | succ count ih =>
    rw [Nat.add_right_comm, copy, copy, ih]
    simp only [Nat.add_assoc, Nat.add_comm 1]

theorem copy_pixels (source : Bytes) (count start place : Nat) (target : Bytes) :
    source.copy (count * bytesPerPixel) start place target =
      (List.range count).foldl (fun bytes x => source.copy bytesPerPixel (start + x * bytesPerPixel)
        (place + x * bytesPerPixel) bytes) target := by
  induction count with
  | zero => rw [Nat.zero_mul]; rfl
  | succ count ih =>
    rw [Nat.add_one_mul, copy_add, ih, List.range_succ, List.foldl_append, List.foldl_cons,
      List.foldl_nil]

end Bytes

namespace Rotation

def visits (width height : Nat) : List (Nat × Nat) :=
  (List.range height).flatMap fun y => (List.range width).map fun x => (x, y)

variable (rotation : Rotation) {width height : Nat}

end Rotation

namespace Plane

variable {source target : Plane} {width height : Nat} {rotation : Rotation} {bytes next : Bytes}

def putTurned (source target : Plane) (rotation : Rotation) (width height : Nat) (bytes : Bytes)
    (pixel : Nat × Nat) : Bytes :=
  let cell := rotation.turnCell width height pixel.1 pixel.2
  source.bytes.copy bytesPerPixel (source.cell pixel.1 pixel.2) (target.cell cell.1 cell.2) bytes

def turnedBytes (source : Plane) (rotation : Rotation) (width height : Nat) (target : Plane) : Bytes :=
  (Rotation.visits width height).foldl (source.putTurned target rotation width height) target.bytes

theorem turnedBytes_eq (source : Plane) (rotation : Rotation) (width height : Nat) (target : Plane) :
    source.turnedBytes rotation width height target =
      (List.range height).foldl (fun bytes y => (List.range width).foldl (fun bytes x =>
        source.putTurned target rotation width height bytes (x, y)) bytes) target.bytes := by
  rw [turnedBytes, Rotation.visits, List.foldl_flatMap]
  simp only [List.foldl_map]

section Room

variable (sourceRoom : source.HasRoom width height)
  (targetRoom : target.HasRoom (rotation.turnExtent width height).1 (rotation.turnExtent width height).2)

include sourceRoom targetRoom

end Room

theorem copyRows_eq (sourceRoom : source.HasRoom width height) (targetRoom : target.HasRoom width height)
    (wide : 0 < width) (high : 0 < height) : source.copyRows (width * bytesPerPixel) height target =
      .ok (source.turnedBytes .deg0 width height target) := by
  rw [copyRows, if_neg (by simp only [bytesPerPixel]; omega), turnedBytes_eq,
    List.range_eq_range' (n := height)]
  refine (sweep_eq_foldl (fun bytes : Bytes => bytes.size = target.bytes.size) height rfl ?_).1
  intro y bytes _ row size
  rw [Nat.zero_add] at row
  have strip : source.bytes.copy (width * bytesPerPixel) (source.cell 0 y) (target.cell 0 y) bytes =
      (List.range width).foldl (fun bytes x =>
        source.putTurned target .deg0 width height bytes (x, y)) bytes := by
    rw [Bytes.copy_pixels]
    simp only [putTurned, Rotation.turnCell, cell, Nat.zero_mul, Nat.add_zero, Nat.add_assoc]
  rw [← strip]
  exact ⟨copyRow_eq sourceRoom targetRoom row size, (Bytes.size_copy ..).trans size⟩

section Completion

def Reachable (source target : Plane) (rotation : Rotation) (width height x y : Nat) : Prop :=
  let cell := rotation.turnCell width height x y
  source.cell x y + bytesPerPixel ≤ source.bytes.size ∧
    target.cell cell.1 cell.2 + bytesPerPixel ≤ target.bytes.size

end Completion

section Outcome

variable (wide : 0 < width) (high : 0 < height) (sourceLimit : source.bytes.size < addressLimit)
  (targetLimit : target.bytes.size < addressLimit)

include wide high sourceLimit targetLimit

end Outcome

end Plane

end ScreenCapture
