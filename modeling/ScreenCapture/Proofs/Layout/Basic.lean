import ScreenCapture.Proofs.Pixels.View

set_option autoImplicit false

namespace ScreenCapture

def Size.Bounded (size : Size) : Prop := IsCoordinate size.width ∧ IsCoordinate size.height

instance (size : Size) : Decidable size.Bounded :=
  inferInstanceAs (Decidable (_ ∧ _))

theorem Size.packedBytes_le {size other : Size} (narrow : size.width ≤ other.width)
    (low : size.height ≤ other.height) : size.packedBytes ≤ other.packedBytes := by
  refine Nat.mul_le_mul (Nat.mul_le_mul ?_ (Nat.le_refl _)) ?_
  all_goals omega

theorem Size.packedBytes_cast {size : Size} (proper : 0 ≤ size.width ∧ 0 ≤ size.height) :
    (size.packedBytes : Int) = 4 * size.width * size.height := by
  obtain ⟨width, wide⟩ := Int.eq_ofNat_of_zero_le proper.1
  obtain ⟨height, high⟩ := Int.eq_ofNat_of_zero_le proper.2
  simp only [packedBytes, rowBytes, bytesPerPixel, wide, high, Int.toNat_natCast]
  push_cast
  rw [Int.mul_comm (width : Int)]

theorem Size.packedBytes_lt {size : Size} (bounded : size.Bounded) : size.packedBytes < addressLimit := by
  have wide : size.width.toNat ≤ 2147483647 := Int.toNat_le.mpr bounded.1.2
  have high : size.height.toNat ≤ 2147483647 := Int.toNat_le.mpr bounded.2.2
  have most : size.packedBytes ≤ 2147483647 * 4 * 2147483647 :=
    Nat.mul_le_mul (Nat.mul_le_mul_right bytesPerPixel wide) high
  exact Nat.lt_of_le_of_lt most (by decide)

namespace Frame

-- Where the rows of a frame lie in its buffer. The bytes between the rows of a cropped frame may
-- end with the buffer, in any other frame even the last row has them all.
structure Layout (frame : Frame) (store : Store) : Prop where
  width : 0 ≤ frame.size.width ∧ IsCoordinate frame.size.width
  height : 0 ≤ frame.size.height ∧ IsCoordinate frame.size.height
  rows : frame.rowBytes ≤ frame.stride
  begins : frame.offset ≤ (store.bytes frame.buffer).size
  lines : ∀ y, y < frame.size.height.toNat →
    y * frame.stride + frame.rowBytes ≤ frame.dataLength store
  padded : frame.isCropped = false →
    frame.size.height.toNat * frame.stride ≤ frame.dataLength store
  addressable : (store.bytes frame.buffer).size < addressLimit

variable {frame : Frame} {store next : Store}

namespace Layout

variable (layout : frame.Layout store)

include layout

theorem congr (same : (next.bytes frame.buffer).size = (store.bytes frame.buffer).size) :
    frame.Layout next where
  width := layout.width
  height := layout.height
  rows := layout.rows
  begins := same ▸ layout.begins
  lines := by
    rw [dataLength, same]
    exact layout.lines
  padded := by
    rw [dataLength, same]
    exact layout.padded
  addressable := same ▸ layout.addressable

theorem setBytes {id : BufferId} {bytes : Bytes} (size : bytes.size = (store.bytes id).size) :
    frame.Layout (store.setBytes id bytes) := by
  apply layout.congr
  rw [Store.bytes_setBytes]
  split
  next same => rw [size, same.1]
  next => rfl

theorem withInfo (info : FrameInfo) : Layout { frame with info } store :=
  ⟨layout.width, layout.height, layout.rows, layout.begins, layout.lines, layout.padded,
    layout.addressable⟩

theorem row_le {y : Nat} (below : y < frame.size.height.toNat) :
    frame.offset + (y * frame.stride + frame.rowBytes) ≤ (store.bytes frame.buffer).size := by
  have begins := layout.begins
  have line := layout.lines y below
  unfold dataLength at line
  omega

theorem fits : frame.Fits store := by
  refine ⟨layout.width, layout.height, layout.rows, ?_, layout.addressable⟩
  intro solid
  rw [Size.isEmpty_eq_false_iff] at solid
  have last := layout.row_le (y := (frame.size.height - 1).toNat) (by omega)
  simp only [rowBytes, Size.rowBytes, place, bytesPerPixel] at last ⊢
  omega

end Layout

theorem layout_onBuffer {size : Size} {stride : Nat} {buffer : BufferId} (bounded : size.Bounded)
    (proper : 0 ≤ size.width ∧ 0 ≤ size.height) (rows : size.rowBytes ≤ stride)
    (room : stride * size.height.toNat ≤ (store.bytes buffer).size)
    (addressable : (store.bytes buffer).size < addressLimit) :
    (onBuffer size stride buffer).Layout store where
  width := ⟨proper.1, bounded.1⟩
  height := ⟨proper.2, bounded.2⟩
  rows := rows
  begins := Nat.zero_le _
  lines y below := by
    have above := Nat.mul_le_mul_right stride (show y + 1 ≤ size.height.toNat from below)
    rw [Nat.add_one_mul, Nat.mul_comm size.height.toNat] at above
    simp only [dataLength, onBuffer, rowBytes] at rows ⊢
    omega
  padded _ := by
    rw [Nat.mul_comm]
    exact room
  addressable := addressable

theorem bytes_addBuffer_new (store : Store) (backing : Backing) (bytes : Bytes) :
    (store.addBuffer backing bytes).2.bytes store.buffers.size = bytes := by
  simp [Store.bytes, Store.addBuffer]

section Creation

variable {size : Size} {stride : Nat} {backing : Backing} {bytes : Bytes} {created : Frame}

theorem exists_overBytes_iff (reached : bytes.size < addressLimit) :
    (∃ frame, (overBytes size stride backing bytes store).1 = .ok frame) ↔
      (0 ≤ size.width ∧ 0 ≤ size.height) ∧ 4 * size.width ≤ (stride : Int) ∧
        (stride : Int) * size.height ≤ (bytes.size : Int) := by
  have accepted : (∃ frame, (overBytes size stride backing bytes store).1 = .ok frame) ↔
      checkLayout size stride bytes.size = .ok () := by
    unfold overBytes
    split
    next refused => simp [refused]
    next allowed => simp [allowed]
  rw [accepted, checkLayout_eq_ok_iff reached]
  refine and_congr_right fun ⟨_, tall⟩ => and_congr ?_ ?_
  next =>
    simp only [Size.rowBytes, bytesPerPixel]
    omega
  next =>
    obtain ⟨height, high⟩ := Int.eq_ofNat_of_zero_le tall
    rw [high, Int.toNat_natCast]
    norm_cast

theorem exists_createOnHeap_iff :
    (∃ frame, (createOnHeap size store).1 = .ok frame) ↔
      (0 ≤ size.width ∧ 0 ≤ size.height) ∧
        4 * size.width * size.height ≤ (allocationLimit : Int) := by
  unfold createOnHeap Size.isNegative
  by_cases negative : size.width < 0 ∨ size.height < 0
  next =>
    simp only [negative, Bool.or_eq_true, decide_eq_true_eq, if_true]
    constructor
    next => rintro ⟨_, refused⟩; cases refused
    next => omega
  next =>
    simp only [negative, Bool.or_eq_true, decide_eq_true_eq, if_false]
    rw [← Size.packedBytes_cast (show 0 ≤ size.width ∧ 0 ≤ size.height by omega), Int.ofNat_le]
    split
    next large =>
      constructor
      next => rintro ⟨_, refused⟩; cases refused
      next => omega
    next small => exact ⟨fun _ => ⟨⟨by omega, by omega⟩, by omega⟩, fun _ => ⟨_, rfl⟩⟩

theorem overBytes_layout (bounded : size.Bounded) (reached : bytes.size < addressLimit)
    (made : overBytes size stride backing bytes store = (.ok created, next)) :
    created.Layout next := by
  unfold overBytes at made
  split at made
  next => cases made
  next allowed =>
    obtain ⟨proper, rows, room⟩ := (checkLayout_eq_ok_iff reached).mp allowed
    cases made
    have length := congrArg Array.size (bytes_addBuffer_new store backing bytes)
    exact layout_onBuffer bounded proper rows (Nat.le_trans room (Nat.le_of_eq length.symm))
      (Nat.lt_of_le_of_lt (Nat.le_of_eq length) reached)

theorem createOnHeap_eq_ok (made : createOnHeap size store = (.ok created, next)) :
    (0 ≤ size.width ∧ 0 ≤ size.height) ∧ size.packedBytes ≤ allocationLimit ∧
      created = onBuffer size size.rowBytes store.buffers.size ∧
      next = (store.addBuffer .heap (Bytes.zeros size.packedBytes)).2 := by
  unfold createOnHeap at made
  split at made
  next => cases made
  next proper =>
    rw [Bool.not_eq_true, Size.isNegative_eq_false_iff] at proper
    split at made
    next => cases made
    next small =>
      cases made
      exact ⟨proper, Nat.not_lt.mp small, rfl, rfl⟩

theorem createOnHeap_answers (proper : 0 ≤ size.width ∧ 0 ≤ size.height)
    (room : size.packedBytes ≤ allocationLimit) : createOnHeap size store =
      (.ok (onBuffer size size.rowBytes store.buffers.size),
        (store.addBuffer .heap (Bytes.zeros size.packedBytes)).2) := by
  rw [createOnHeap, size.isNegative_eq_false_iff.mpr proper, if_neg Bool.false_ne_true, if_neg (Nat.not_lt.mpr room)]
  rfl

theorem createOnHeap_layout (bounded : size.Bounded)
    (made : createOnHeap size store = (.ok created, next)) : created.Layout next := by
  obtain ⟨proper, small, rfl, rfl⟩ := createOnHeap_eq_ok made
  have length : ((store.addBuffer .heap (Bytes.zeros size.packedBytes)).2.bytes
      store.buffers.size).size = size.packedBytes := by
    rw [bytes_addBuffer_new]
    exact Array.size_replicate
  refine layout_onBuffer bounded proper (Nat.le_refl _) (Nat.le_of_eq length.symm) ?_
  rw [length]
  unfold allocationLimit at small
  unfold addressLimit
  omega

end Creation

end Frame

end ScreenCapture
