import ScreenCapture.Frame.Transfer
import ScreenCapture.Proofs.Pixels.Alike
import ScreenCapture.Proofs.Pixels.Transfer

set_option autoImplicit false

namespace ScreenCapture

namespace Store

variable {store : Store} {backing : Backing} {bytes : Bytes}

theorem setBytes_addBuffer (more : Bytes) :
    (store.addBuffer backing bytes).2.setBytes store.buffers.size more =
      (store.addBuffer backing more).2 := by
  simp only [setBytes, addBuffer, mk.injEq, and_true]
  refine Array.ext (by simp) fun index known known' => ?_
  rw [Array.getElem_modify]
  split
  next last =>
    subst last
    simp
  next before =>
    have below : index < store.buffers.size := by
      rw [Array.size_push] at known'
      omega
    rw [Array.getElem_push_lt below, Array.getElem_push_lt below]

theorem backing_addBuffer {id : BufferId} (old : id < store.buffers.size) :
    (store.addBuffer backing bytes).2.backing id = store.backing id := by
  simp [Store.backing, addBuffer, Array.getElem?_push, Nat.ne_of_lt old]

theorem backing_addBuffer_new (store : Store) (backing : Backing) (bytes : Bytes) :
    (store.addBuffer backing bytes).2.backing store.buffers.size = backing := by
  simp [Store.backing, addBuffer]

end Store

namespace Frame

variable {frame : Frame} {store : Store} {bytes : Bytes}

namespace Layout

variable (layout : frame.Layout store)

include layout

theorem pixels_of_alike (size : bytes.size = frame.size.packedBytes)
    (alike : (frame.plane store).Alike ⟨bytes, 0, frame.rowBytes⟩ frame.size.width.toNat
      frame.size.height.toNat) : frame.pixels store = .ok bytes := by
  refine (layout.pixels_eq_ok_iff size).mpr fun y below => ?_
  have ends := row_le_packed below
  obtain ⟨row, found, length⟩ := layout.row_size below
  rw [found]
  refine congrArg Except.ok (Bytes.ext_byte ?_ fun index known => ?_)
  next =>
    rw [length, Array.size_extract]
    omega
  next =>
    have within : index < frame.rowBytes := by
      rw [Array.size_extract] at known
      omega
    obtain ⟨row', found', byte⟩ := layout.row_byte below within
    cases found.symm.trans found'
    have same := alike.row_byte below within
    rw [Nat.zero_add] at same
    rw [byte, Bytes.byte_extract within (size ▸ ends), same]
    rfl

theorem duplicate_refused (full : allocationLimit < frame.size.packedBytes) :
    frame.duplicate store = .ok (.error (.allocationFailed frame.size.packedBytes), store) := by
  have refused : createOnHeap frame.size store =
      (.error (.allocationFailed frame.size.packedBytes), store) := by
    rw [createOnHeap, frame.size.isNegative_eq_false_iff.mpr ⟨layout.width.1, layout.height.1⟩,
      if_neg Bool.false_ne_true, if_pos full]
  rw [duplicate, refused]
  rfl

variable (room : frame.size.packedBytes ≤ allocationLimit)

include room

omit layout in
theorem packed_hasRoom (tall : 0 < frame.size.height) (size : bytes.size = frame.size.packedBytes) :
    (Plane.mk bytes 0 frame.rowBytes).HasRoom frame.size.width.toNat frame.size.height.toNat := by
  have last : (frame.size.height.toNat - 1) * frame.rowBytes + frame.rowBytes ≤
      frame.size.packedBytes := row_le_packed (by omega)
  unfold allocationLimit at room
  unfold Plane.HasRoom addressLimit
  rw [size, Nat.zero_add]
  exact ⟨last, by omega⟩

theorem copyRows_packs (tall : 0 < frame.size.height) : ∃ bytes, frame.pixels store = .ok bytes ∧
    (frame.plane store).copyRows frame.rowBytes frame.size.height.toNat
      ⟨Bytes.zeros frame.size.packedBytes, 0, frame.rowBytes⟩ = .ok bytes := by
  have sourceRoom := layout.hasRoom tall
  obtain ⟨bytes, copied, drawn⟩ := Plane.copyRows_draws sourceRoom
    (packed_hasRoom room tall (Bytes.size_zeros _)) (.inl (Nat.le_refl _))
  have size : bytes.size = frame.size.packedBytes := drawn.size.trans (Bytes.size_zeros _)
  exact ⟨bytes, layout.pixels_of_alike size ⟨sourceRoom, packed_hasRoom room tall size,
    fun x y column row => drawn.taken x y ⟨column, row⟩⟩, copied⟩

theorem duplicate_eq : ∃ bytes, frame.pixels store = .ok bytes ∧
    bytes.size = frame.size.packedBytes ∧ frame.duplicate store =
      .ok (.ok { onBuffer frame.size frame.rowBytes store.buffers.size with info := frame.info },
        (store.addBuffer .heap bytes).2) := by
  rw [duplicate, createOnHeap_answers ⟨layout.width.1, layout.height.1⟩ room]
  dsimp only
  obtain ⟨packed, found, length, _⟩ := layout.pixels_eq
  refine ⟨packed, found, length, ?_⟩
  split
  next hollow =>
    rw [Size.isEmpty_iff] at hollow
    have none : frame.size.packedBytes = 0 := by
      rw [Size.packedBytes, Size.rowBytes, bytesPerPixel, Nat.mul_eq_zero]
      omega
    have blank : packed = Bytes.zeros frame.size.packedBytes := by
      rw [Array.eq_empty_of_size_eq_zero (length.trans none), none]
      rfl
    rw [blank]
    rfl
  next solid =>
    rw [Bool.not_eq_true] at solid
    have known := layout.fits.known solid
    generalize grown : (store.addBuffer .heap (Bytes.zeros frame.size.packedBytes)).2 = reserved
    have plane : frame.plane reserved = frame.plane store := by
      simp only [Frame.plane, ← grown, Store.bytes_addBuffer _ _ _ _ known]
    have fresh : (onBuffer frame.size frame.size.rowBytes store.buffers.size).plane reserved =
        ⟨Bytes.zeros frame.size.packedBytes, 0, frame.rowBytes⟩ := by
      rw [← grown]
      exact congrArg (Plane.mk · 0 frame.rowBytes) (bytes_addBuffer_new store .heap _)
    obtain ⟨bytes, found', copied⟩ := layout.copyRows_packs room (frame.size.isEmpty_eq_false_iff.mp solid).2
    cases found.symm.trans found'
    have edited : (onBuffer frame.size frame.size.rowBytes store.buffers.size).edit
        ((frame.plane reserved).copyRows frame.rowBytes frame.size.height.toNat) reserved =
          .ok (reserved.setBytes store.buffers.size packed) := by
      refine edit_eq_ok_iff.mpr ⟨rfl, packed, ?_, rfl⟩
      rw [plane, fresh]
      exact copied
    rw [edited, Checked.ok_bind, ← grown, Store.setBytes_addBuffer]
    rfl

theorem packed_layout (size : bytes.size = frame.size.packedBytes) (info : FrameInfo) :
    Layout { onBuffer frame.size frame.rowBytes store.buffers.size with info }
      (store.addBuffer .heap bytes).2 := by
  have own : (onBuffer frame.size frame.rowBytes store.buffers.size).Layout
      (store.addBuffer .heap bytes).2 := by
    refine layout_onBuffer ⟨layout.width.2, layout.height.2⟩ ⟨layout.width.1, layout.height.1⟩
      (Nat.le_refl _) ?_ ?_
    all_goals rw [bytes_addBuffer_new, size]
    next => exact Nat.le_refl _
    next =>
      unfold allocationLimit at room
      unfold addressLimit
      omega
  exact own.withInfo info

omit room in
theorem duplicate_ok : ∃ made next, frame.duplicate store = .ok (made, next) ∧
    ∀ copy, made = .ok copy → copy.Layout next := by
  rcases Nat.lt_or_ge allocationLimit frame.size.packedBytes with full | room
  next => exact ⟨_, _, layout.duplicate_refused full, fun copy made => by cases made⟩
  next =>
    obtain ⟨bytes, _, length, copied⟩ := layout.duplicate_eq room
    refine ⟨_, _, copied, fun copy made => ?_⟩
    cases made
    exact layout.packed_layout room length _

end Layout

end Frame

end ScreenCapture
