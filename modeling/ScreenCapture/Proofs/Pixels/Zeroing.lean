import ScreenCapture.Proofs.Layout.Basic

set_option autoImplicit false

namespace ScreenCapture

namespace Bytes

structure ZeroedIn (bytes : Bytes) (area : Nat → Prop) (next : Bytes) : Prop where
  size : next.size = bytes.size
  zero : ∀ index, area index → next.byte index = 0
  kept : ∀ index, ¬ area index → next.byte index = bytes.byte index

variable {bytes middle next : Bytes} {area area' : Nat → Prop}

namespace ZeroedIn

theorem refl (bytes : Bytes) : bytes.ZeroedIn (fun _ => False) bytes :=
  ⟨rfl, fun _ none => none.elim, fun _ _ => rfl⟩

theorem congr (zeroed : bytes.ZeroedIn area next) (same : ∀ index, area' index ↔ area index) :
    bytes.ZeroedIn area' next := by
  have equal : area' = area := funext fun index => propext (same index)
  exact equal ▸ zeroed

theorem union (first : bytes.ZeroedIn area middle) (second : middle.ZeroedIn area' next) :
    bytes.ZeroedIn (fun index => area index ∨ area' index) next where
  size := second.size.trans first.size
  zero index within := by
    by_cases later : area' index
    next => exact second.zero index later
    next => rw [second.kept index later, first.zero index (within.resolve_right later)]
  kept index outside := by
    rw [not_or] at outside
    rw [second.kept index outside.2, first.kept index outside.1]

end ZeroedIn

theorem zeroedIn_fill (bytes : Bytes) (start count : Nat) :
    bytes.ZeroedIn (fun index => start ≤ index ∧ index < start + count) (bytes.fill start count) where
  size := size_fill ..
  zero index within := by rw [byte_fill, if_pos within]
  kept index outside := by rw [byte_fill, if_neg outside]

end Bytes

theorem sweep_zeroes {step : Nat → Bytes → Checked Bytes} {area : Nat → Nat → Prop} {count : Nat}
    {bytes : Bytes}
    (each : ∀ y reached, y < count → reached.size = bytes.size →
      ∃ next, step y reached = .ok next ∧ reached.ZeroedIn (area y) next) :
    ∃ next, sweep step count 0 bytes = .ok next ∧
      bytes.ZeroedIn (fun index => ∃ y, y < count ∧ area y index) next := by
  have begun : bytes.ZeroedIn (fun index => ∃ y, y < 0 ∧ area y index) bytes :=
    (Bytes.ZeroedIn.refl bytes).congr fun index => by simp
  have swept := sweep_keeps
    (fun reached next => bytes.ZeroedIn (fun index => ∃ y, y < reached ∧ area y index) next) count
    begun fun y reached _ below zeroed => by
      obtain ⟨next, taken, more⟩ := each y reached (by omega) zeroed.size
      refine ⟨next, taken, (zeroed.union more).congr fun index => ?_⟩
      simp only [Nat.lt_succ_iff_lt_or_eq, or_and_right, exists_or, exists_eq_left]
  simpa only [Nat.zero_add] using swept

namespace Frame

variable {frame : Frame} {store next : Store} {index : Nat}

def Visible (frame : Frame) (index : Nat) : Prop :=
  ∃ point, frame.bounds.contains point = true ∧ frame.Covers point index

def InRow (frame : Frame) (length y index : Nat) : Prop :=
  frame.offset + y * frame.stride ≤ index ∧ index < frame.offset + y * frame.stride + length

def Leads (frame : Frame) (count index : Nat) : Prop :=
  frame.offset ≤ index ∧ index < frame.offset + count

theorem visible_iff : frame.Visible index ↔
    ∃ y, y < frame.size.height.toNat ∧ frame.InRow frame.rowBytes y index := by
  simp only [Visible, InRow, Covers, place, rowBytes, Size.rowBytes, bytesPerPixel]
  constructor
  next =>
    rintro ⟨point, inside, lower, upper⟩
    rw [bounds_contains_iff] at inside
    exact ⟨point.y.toNat, by omega, by omega, by omega⟩
  next =>
    rintro ⟨y, below, lower, upper⟩
    refine ⟨⟨((index - (frame.offset + y * frame.stride)) / 4 : Nat), y⟩, ?_, ?_, ?_⟩
    next =>
      rw [bounds_contains_iff]
      dsimp only
      omega
    all_goals
      simp only [Int.toNat_natCast]
      omega

theorem exists_inRow_stride_iff : (∃ y, y < frame.size.height.toNat ∧ frame.InRow frame.stride y index) ↔
    frame.Leads (frame.stride * frame.size.height.toNat) index := by
  unfold InRow Leads
  constructor
  next =>
    rintro ⟨y, below, lower, upper⟩
    have above := Nat.mul_le_mul_right frame.stride (show y + 1 ≤ frame.size.height.toNat from below)
    rw [Nat.add_one_mul, Nat.mul_comm frame.size.height.toNat] at above
    omega
  next =>
    intro ⟨lower, upper⟩
    have some : 0 < frame.stride := Nat.pos_of_ne_zero fun none => by
      rw [none, Nat.zero_mul] at upper
      omega
    have within : index - frame.offset < frame.stride * frame.size.height.toNat := by omega
    have split := Nat.div_add_mod' (index - frame.offset) frame.stride
    have rest := Nat.mod_lt (index - frame.offset) some
    exact ⟨_, Nat.div_lt_of_lt_mul within, by omega, by omega⟩

structure Zeroed (frame : Frame) (area : Nat → Prop) (store next : Store) : Prop where
  bytes : (store.bytes frame.buffer).ZeroedIn area (next.bytes frame.buffer)
  only : ∃ bytes, next = store.setBytes frame.buffer bytes

theorem Zeroed.congr {area area' : Nat → Prop} (zeroed : frame.Zeroed area store next)
    (same : ∀ index, area' index ↔ area index) : frame.Zeroed area' store next :=
  ⟨zeroed.bytes.congr same, zeroed.only⟩

theorem zeroed_refl (frame : Frame) (store : Store) : frame.Zeroed (fun _ => False) store store where
  bytes := .refl _
  only := ⟨store.bytes frame.buffer, (store.setBytes_bytes frame.buffer).symm⟩

section Rows

variable {length y : Nat} {bytes : Bytes}

theorem clearRow_eq (ends : frame.offset + (y * frame.stride + length) ≤ bytes.size)
    (addressable : bytes.size < addressLimit) : clearRow frame.offset frame.stride length y bytes =
      .ok (bytes.fill (frame.offset + y * frame.stride) length) := by
  have begun : address (y * frame.stride) = .ok (y * frame.stride) :=
    address_eq_ok_iff.mpr ⟨by omega, rfl⟩
  have found : window bytes.size frame.offset (y * frame.stride) length =
      .ok (frame.offset + y * frame.stride) := window_eq_ok_iff.mpr ⟨by omega, ends, rfl⟩
  rw [clearRow, begun, Checked.ok_bind, found, Checked.ok_bind]
  rfl

theorem blackenRow_eq (ends : frame.offset + (y * frame.stride + length) ≤ bytes.size)
    (addressable : bytes.size < addressLimit) : blackenRow frame.offset frame.stride length y bytes =
      .ok (bytes.fill (frame.offset + y * frame.stride) length) := by
  have begun : address (y * frame.stride) = .ok (y * frame.stride) :=
    address_eq_ok_iff.mpr ⟨by omega, rfl⟩
  have stopped : address (y * frame.stride + length) = .ok (y * frame.stride + length) :=
    address_eq_ok_iff.mpr ⟨by omega, rfl⟩
  have last : min (frame.offset + (y * frame.stride + length)) bytes.size -
      (frame.offset + y * frame.stride) = length := by omega
  rw [blackenRow, begun, Checked.ok_bind, stopped, Checked.ok_bind]
  dsimp only
  rw [if_neg (by omega), last]
  rfl

theorem edit_rows_zeroes {step : Nat → Bytes → Checked Bytes}
    (writable : frame.isWritable store = true)
    (rows : ∀ y, y < frame.size.height.toNat →
      frame.offset + (y * frame.stride + length) ≤ (store.bytes frame.buffer).size)
    (each : ∀ y bytes, frame.offset + (y * frame.stride + length) ≤ Array.size bytes →
      Array.size bytes < addressLimit →
      step y bytes = .ok (Bytes.fill bytes (frame.offset + y * frame.stride) length))
    (addressable : (store.bytes frame.buffer).size < addressLimit) :
    ∃ next, frame.edit (fun plane => sweep step frame.size.height.toNat 0 plane.bytes) store = .ok next ∧
      frame.Zeroed (fun index => ∃ y, y < frame.size.height.toNat ∧ frame.InRow length y index)
        store next := by
  obtain ⟨bytes, swept, zeroed⟩ : ∃ bytes,
      sweep step frame.size.height.toNat 0 (store.bytes frame.buffer) = .ok bytes ∧
        (store.bytes frame.buffer).ZeroedIn
          (fun index => ∃ y, y < frame.size.height.toNat ∧ frame.InRow length y index) bytes :=
    sweep_zeroes fun y reached below size =>
      ⟨_, each y reached (size ▸ rows y below) (size ▸ addressable), Bytes.zeroedIn_fill ..⟩
  refine ⟨_, edit_eq_ok_iff.mpr ⟨writable, bytes, swept, rfl⟩, ?_, bytes, rfl⟩
  rw [store.bytes_setBytes_self frame.buffer zeroed.size]
  exact zeroed

end Rows

theorem Fits.row_le (fits : frame.Fits store) (wide : 0 < frame.rowBytes) {y : Nat}
    (below : y < frame.size.height.toNat) :
    frame.offset + (y * frame.stride + frame.rowBytes) ≤ (store.bytes frame.buffer).size := by
  simp only [rowBytes, Size.rowBytes, bytesPerPixel] at wide ⊢
  have inside : frame.bounds.contains ⟨frame.size.width - 1, y⟩ = true := by
    rw [bounds_contains_iff]
    dsimp only
    omega
  have last := fits.place_le inside
  simp only [place, Int.toNat_natCast, bytesPerPixel] at last
  omega

theorem Fits.clear_zeroes (fits : frame.Fits store) (writable : frame.isWritable store = true) :
    ∃ next, frame.clear store = .ok next ∧ frame.Zeroed frame.Visible store next := by
  unfold clear
  split
  next thin =>
    refine ⟨store, rfl, (frame.zeroed_refl store).congr fun index => ?_⟩
    simp only [visible_iff, InRow, thin, iff_false, not_exists, not_and]
    omega
  next wide =>
    obtain ⟨next, edited, zeroed⟩ := edit_rows_zeroes writable
      (fun y below => fits.row_le (Nat.pos_of_ne_zero wide) below)
      (fun y bytes ends addressable => clearRow_eq ends addressable) fits.addressable
    exact ⟨next, edited, zeroed.congr fun index => visible_iff⟩

-- The bytes that are the frame's own: those of its pixels and, unless it is cropped, all that is
-- between its rows.
def Owns (frame : Frame) (index : Nat) : Prop :=
  frame.size.isEmpty = false ∧ if frame.isCropped then frame.Visible index else
    frame.Leads (frame.stride * frame.size.height.toNat) index

theorem Layout.blackenRows_zeroes (layout : frame.Layout store) (writable : frame.isWritable store = true)
    {length : Nat} (lines : ∀ y, y < frame.size.height.toNat →
      y * frame.stride + length ≤ frame.dataLength store) :
    ∃ next, frame.edit (fun plane => sweep (blackenRow plane.start plane.stride length)
        frame.size.height.toNat 0 plane.bytes) store = .ok next ∧
      frame.Zeroed (fun index => ∃ y, y < frame.size.height.toNat ∧ frame.InRow length y index)
        store next := by
  have begins := layout.begins
  refine edit_rows_zeroes writable (fun y below => ?_)
    (fun y bytes ends addressable => blackenRow_eq ends addressable) layout.addressable
  have line := lines y below
  unfold dataLength at line
  omega

theorem Layout.blacken_zeroes (layout : frame.Layout store) (writable : frame.isWritable store = true) :
    ∃ next, frame.blacken store = .ok next ∧ frame.Zeroed frame.Owns store next := by
  unfold blacken
  split
  next hollow =>
    refine ⟨store, rfl, (frame.zeroed_refl store).congr fun index => ?_⟩
    simp [Owns, hollow]
  next solid =>
    rw [Bool.not_eq_true] at solid
    split
    next cropped =>
      obtain ⟨next, edited, zeroed⟩ := layout.blackenRows_zeroes writable layout.lines
      refine ⟨next, edited, zeroed.congr fun index => ?_⟩
      simp only [Owns, solid, cropped, if_true, true_and, visible_iff]
    next whole =>
      rw [Bool.not_eq_true] at whole
      have padded := layout.padded whole
      have lines (y : Nat) (below : y < frame.size.height.toNat) :
          y * frame.stride + frame.stride ≤ frame.dataLength store := by
        have above := Nat.mul_le_mul_right frame.stride (show y + 1 ≤ frame.size.height.toNat from below)
        rw [Nat.add_one_mul] at above
        exact Nat.le_trans above padded
      obtain ⟨next, edited, zeroed⟩ := layout.blackenRows_zeroes writable lines
      refine ⟨next, edited, zeroed.congr fun index => ?_⟩
      simp only [Owns, solid, whole, Bool.false_eq_true, if_false, true_and, exists_inRow_stride_iff]

end Frame

end ScreenCapture
