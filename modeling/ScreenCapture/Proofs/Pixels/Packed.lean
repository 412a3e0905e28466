import ScreenCapture.Proofs.Layout.Access

set_option autoImplicit false

namespace ScreenCapture

theorem Checked.bind_congr {A B : Type} {first : Checked A} {next next' : A → Checked B}
    (same : ∀ value, first = .ok value → next' value = next value) :
    first >>= next' = first >>= next := by
  cases first with
  | error fault => rfl
  | ok value => exact same value rfl

section Sweeps

variable {count first : Nat}

theorem sweep_congr {State : Type} {step step' : Nat → State → Checked State} {state : State}
    (same : ∀ index state, first ≤ index → index < first + count → step' index state = step index state) :
    sweep step' count first state = sweep step count first state := by
  induction count generalizing first state with
  | zero => rfl
  | succ count ih =>
    rw [sweep, sweep, same first state (Nat.le_refl _) (by omega)]
    exact Checked.bind_congr fun next _ =>
      ih fun index state lower upper => same index state (by omega) (by omega)

theorem sweepAny_congr {test test' : Nat → Checked Bool}
    (same : ∀ index, first ≤ index → index < first + count → test' index = test index) :
    sweepAny test' count first = sweepAny test count first := by
  induction count generalizing first with
  | zero => rfl
  | succ count ih =>
    have rest : sweepAny test' count (first + 1) = sweepAny test count (first + 1) :=
      ih fun index lower upper => same index (by omega) (by omega)
    rw [sweepAny, sweepAny, same first (Nat.le_refl _) (by omega), rest]

end Sweeps

theorem Checked.not_eq_ok_iff {test : Checked Bool} {answer : Bool} :
    (do let found ← test; return !found : Checked Bool) = .ok answer ↔ test = .ok !answer := by
  rw [Checked.bind_eq_ok]
  constructor
  next =>
    rintro ⟨found, tested, last⟩
    rw [tested, ← Except.ok.inj last, Bool.not_not]
  next => exact fun tested => ⟨_, tested, congrArg Except.ok answer.not_not⟩

namespace Bytes

variable {bytes other : Bytes}

theorem ext_byte (size : other.size = bytes.size)
    (same : ∀ index, index < bytes.size → other.byte index = bytes.byte index) : other = bytes := by
  refine Array.ext size fun index known known' => ?_
  simpa [byte, known, known'] using same index known'

theorem byte_extract {start count index : Nat} (within : index < count)
    (fits : start + count ≤ bytes.size) :
    Bytes.byte (bytes.extract start (start + count)) index = bytes.byte (start + index) := by
  simp only [byte, Array.getD_eq_getD_getElem?, Array.getElem?_extract]
  rw [if_pos (by omega)]

theorem allZero_iff {count start : Nat} : bytes.allZero count start = true ↔
    ∀ offset, offset < count → bytes.byte (start + offset) = 0 := by
  induction count generalizing start with
  | zero => simp [allZero]
  | succ count ih =>
    rw [allZero, Bool.and_eq_true, beq_iff_eq, ih]
    constructor
    next =>
      intro ⟨first, rest⟩ offset below
      cases offset with
      | zero => exact first
      | succ offset => simpa only [Nat.add_assoc, Nat.add_comm 1] using rest offset (by omega)
    next =>
      intro all
      refine ⟨all 0 (by omega), fun offset below => ?_⟩
      simpa only [Nat.add_assoc, Nat.add_comm 1] using all (offset + 1) (by omega)

theorem size_zeros (count : Nat) : (zeros count).size = count := Array.size_replicate

theorem byte_zeros {count index : Nat} : byte (zeros count) index = 0 := by
  simp only [byte, zeros, Array.getD_eq_getD_getElem?, Array.getElem?_replicate]
  split <;> rfl

end Bytes

namespace Frame

variable {frame other : Frame} {store : Store}

theorem packedBytes_eq (frame : Frame) :
    frame.size.packedBytes = frame.size.height.toNat * frame.rowBytes := Nat.mul_comm _ _

namespace Layout

variable (layout : frame.Layout store)

include layout

theorem row_size {y : Nat} (below : y < frame.size.height.toNat) :
    ∃ row, frame.row y store = .ok row ∧ row.size = frame.rowBytes := by
  have ends := layout.row_le below
  refine ⟨_, layout.row_eq below, ?_⟩
  rw [Array.size_extract]
  omega

theorem pixels_eq : ∃ bytes, frame.pixels store = .ok bytes ∧ bytes.size = frame.size.packedBytes ∧
    ∀ y, y < frame.size.height.toNat → frame.row y store =
      .ok (bytes.extract (y * frame.rowBytes) (y * frame.rowBytes + frame.rowBytes)) := by
  rw [packedBytes_eq, pixels]
  split
  next thin =>
    refine ⟨#[], rfl, by rw [thin]; rfl, fun y below => ?_⟩
    obtain ⟨row, found, length⟩ := layout.row_size below
    rw [found, Array.eq_empty_of_size_eq_zero (length.trans thin), Array.extract_empty]
  next =>
    suffices swept : ∃ bytes, sweep (frame.appendRow store) frame.size.height.toNat 0 #[] = .ok bytes ∧
        bytes.size = (0 + frame.size.height.toNat) * frame.rowBytes ∧
        ∀ y, y < 0 + frame.size.height.toNat → frame.row y store =
          .ok (bytes.extract (y * frame.rowBytes) (y * frame.rowBytes + frame.rowBytes)) by
      simpa only [Nat.zero_add] using swept
    refine sweep_keeps (fun y bytes => Array.size bytes = y * frame.rowBytes ∧
      ∀ y', y' < y → frame.row y' store =
        .ok (bytes.extract (y' * frame.rowBytes) (y' * frame.rowBytes + frame.rowBytes)))
      frame.size.height.toNat ⟨by simp, by omega⟩ ?_
    intro y bytes _ below ⟨size, rows⟩
    obtain ⟨row, found, length⟩ := layout.row_size (y := y) (by omega)
    rw [appendRow, found, Checked.ok_bind]
    refine ⟨_, rfl, ?_, fun y' above => ?_⟩
    next => rw [Array.size_append, size, length, Nat.add_one_mul]
    next =>
      rw [Array.extract_append]
      rcases Nat.lt_or_eq_of_le (Nat.le_of_lt_succ above) with before | rfl
      next =>
        have step := Nat.mul_le_mul_right frame.rowBytes (show y' + 1 ≤ y from before)
        rw [Nat.add_one_mul] at step
        have none : row.extract (y' * frame.rowBytes - bytes.size)
            (y' * frame.rowBytes + frame.rowBytes - bytes.size) = #[] :=
          Array.extract_empty_of_stop_le_start (by omega)
        rw [rows y' before, none, Array.append_empty]
      next =>
        rw [found, ← size, Array.extract_size_left, Nat.sub_self, Nat.add_sub_cancel_left, ← length,
          Array.extract_size, Array.empty_append]

theorem row_byte {y index : Nat} (below : y < frame.size.height.toNat) (within : index < frame.rowBytes) :
    ∃ row, frame.row y store = .ok row ∧ Bytes.byte row index =
      (store.bytes frame.buffer).byte (frame.offset + y * frame.stride + index) := by
  have ends := layout.row_le below
  exact ⟨_, layout.row_eq below, Bytes.byte_extract within (by omega)⟩

omit layout in
theorem row_le_packed {y : Nat} (below : y < frame.size.height.toNat) :
    y * frame.rowBytes + frame.rowBytes ≤ frame.size.packedBytes := by
  have above := Nat.mul_le_mul_right frame.rowBytes (show y + 1 ≤ frame.size.height.toNat from below)
  rw [Nat.add_one_mul] at above
  rw [packedBytes_eq]
  exact above

theorem pixels_eq_ok_iff {bytes : Bytes} (size : bytes.size = frame.size.packedBytes) :
    frame.pixels store = .ok bytes ↔ ∀ y, y < frame.size.height.toNat → frame.row y store =
      .ok (bytes.extract (y * frame.rowBytes) (y * frame.rowBytes + frame.rowBytes)) := by
  obtain ⟨packed, found, length, rows⟩ := layout.pixels_eq
  rw [found, Except.ok.injEq]
  constructor
  next =>
    rintro rfl
    exact rows
  next =>
    intro same
    refine Bytes.ext_byte (length.trans size.symm) fun index known => ?_
    -- A byte is so many bytes into one of the rows.
    rw [size, packedBytes_eq] at known
    have wide : 0 < frame.rowBytes := Nat.pos_of_mul_pos_left (Nat.zero_lt_of_lt known)
    have below : index / frame.rowBytes < frame.size.height.toNat :=
      Nat.div_lt_of_lt_mul (Nat.mul_comm _ _ ▸ known)
    have within := Nat.mod_lt index wide
    have ends := row_le_packed below
    have row := (rows _ below).symm.trans (same _ below)
    rw [Except.ok.injEq] at row
    have byte := congrArg (Bytes.byte · (index % frame.rowBytes)) row
    rw [Bytes.byte_extract within (length ▸ ends), Bytes.byte_extract within (size ▸ ends),
      Nat.div_add_mod'] at byte
    exact byte

theorem rowIsLit_eq_false_iff {y : Nat} (below : y < frame.size.height.toNat) :
    frame.rowIsLit store y = .ok false ↔ frame.row y store = .ok (Bytes.zeros frame.rowBytes) := by
  obtain ⟨row, found, length⟩ := layout.row_size below
  rw [rowIsLit, found, Checked.ok_bind]
  simp only [pure, Except.pure, Except.ok.injEq, Bool.not_eq_false', Bytes.allZero_iff, Nat.zero_add]
  constructor
  next =>
    intro zero
    refine Bytes.ext_byte (by rw [length, Bytes.size_zeros]) fun index known => ?_
    rw [Bytes.size_zeros, ← length] at known
    rw [zero index known, Bytes.byte_zeros]
  next =>
    rintro rfl index _
    exact Bytes.byte_zeros

theorem pixels_eq_zeros_iff : frame.pixels store = .ok (Bytes.zeros frame.size.packedBytes) ↔
    ∀ y, y < frame.size.height.toNat → frame.row y store = .ok (Bytes.zeros frame.rowBytes) := by
  rw [layout.pixels_eq_ok_iff (Bytes.size_zeros _)]
  refine forall₂_congr fun y below => ?_
  have ends := row_le_packed below
  rw [Bytes.zeros, Array.extract_replicate, Nat.min_eq_left ends, Nat.add_sub_cancel_left, Bytes.zeros]

theorem isBlack_eq_true_iff : frame.isBlack store = .ok true ↔
    frame.size.isEmpty = false ∧ frame.pixels store = .ok (Bytes.zeros frame.size.packedBytes) := by
  unfold isBlack
  split
  next hollow => simp [hollow]
  next solid =>
    rw [Checked.not_eq_ok_iff, Bool.not_true, sweepAny_eq_ok_false, layout.pixels_eq_zeros_iff]
    refine ⟨fun each => ⟨Bool.not_eq_true _ ▸ solid, fun y below => ?_⟩, fun ⟨_, dark⟩ y _ below => ?_⟩
    next => exact (layout.rowIsLit_eq_false_iff below).mp (each y (Nat.zero_le _) (by omega))
    next => exact (layout.rowIsLit_eq_false_iff (by omega)).mpr (dark y (by omega))

section Alike

variable (otherLayout : other.Layout store) (size : other.size = frame.size)

include otherLayout size

theorem pixels_eq_iff_rows : other.pixels store = frame.pixels store ↔
    ∀ y, y < frame.size.height.toNat → other.row y store = frame.row y store := by
  have rowBytes : other.rowBytes = frame.rowBytes := congrArg Size.rowBytes size
  constructor
  next =>
    intro same y below
    obtain ⟨bytes, packed, _, rows⟩ := layout.pixels_eq
    obtain ⟨bytes', packed', _, rows'⟩ := otherLayout.pixels_eq
    rw [packed, packed', Except.ok.injEq] at same
    rw [rows y below, rows' y (size ▸ below), same, rowBytes]
  next =>
    intro same
    have swept : sweep (other.appendRow store) frame.size.height.toNat 0 #[] =
        sweep (frame.appendRow store) frame.size.height.toNat 0 #[] := by
      refine sweep_congr fun y bytes _ below => ?_
      rw [appendRow, appendRow, same y (by omega)]
    rw [pixels, pixels, rowBytes, size, swept]

theorem view_of_rows (same : ∀ y, y < frame.size.height.toNat → other.row y store = frame.row y store)
    {point : Point} (inside : frame.bounds.contains point = true) :
    other.view store point = frame.view store point := by
  have edges := bounds_contains_iff.mp inside
  have below : point.y.toNat < frame.size.height.toNat := by omega
  refine (Bytes.color_eq_iff _ _ _ _).mpr fun offset short => ?_
  have within : point.x.toNat * bytesPerPixel + offset < frame.rowBytes := by
    simp only [rowBytes, Size.rowBytes, bytesPerPixel]
    omega
  obtain ⟨row, found, byte⟩ := layout.row_byte below within
  obtain ⟨row', found', byte'⟩ := otherLayout.row_byte (size ▸ below)
    (Nat.lt_of_lt_of_eq within (congrArg Size.rowBytes size.symm))
  rw [same _ below, found, Except.ok.injEq] at found'
  rw [← found', byte] at byte'
  simp only [place, ← Nat.add_assoc] at byte' ⊢
  exact byte'.symm

end Alike

theorem rowDiffers_eq_false_iff (otherLayout : other.Layout store) (size : other.size = frame.size)
    {y : Nat} (below : y < frame.size.height.toNat) : frame.rowDiffers other store y = .ok false ↔
      other.row y store = frame.row y store := by
  rw [rowDiffers, layout.row_eq below, otherLayout.row_eq (size ▸ below), Checked.ok_bind,
    Checked.ok_bind]
  simp only [pure, Except.pure, Except.ok.injEq, bne_eq_false_iff_eq]
  exact eq_comm

theorem looksLike_eq_true_iff (otherLayout : other.Layout store) :
    frame.looksLike other store = .ok true ↔
      other.size = frame.size ∧ other.pixels store = frame.pixels store := by
  unfold looksLike
  split
  next unlike => simp [Ne.symm unlike]
  next alike =>
    have size : other.size = frame.size := (Decidable.not_not.mp alike).symm
    rw [layout.pixels_eq_iff_rows otherLayout size]
    split
    next thin =>
      refine ⟨fun _ => ⟨size, fun y below => ?_⟩, fun _ => rfl⟩
      obtain ⟨row, found, length⟩ := layout.row_size below
      obtain ⟨row', found', length'⟩ := otherLayout.row_size (size ▸ below)
      have thin' : other.rowBytes = 0 := (congrArg Size.rowBytes size).trans thin
      rw [found, found', Array.eq_empty_of_size_eq_zero (length.trans thin),
        Array.eq_empty_of_size_eq_zero (length'.trans thin')]
    next =>
      rw [Checked.not_eq_ok_iff, Bool.not_true, sweepAny_eq_ok_false]
      refine ⟨fun each => ⟨size, fun y below => ?_⟩, fun ⟨_, same⟩ y _ below => ?_⟩
      next =>
        exact (layout.rowDiffers_eq_false_iff otherLayout size below).mp
          (each y (Nat.zero_le _) (by omega))
      next =>
        exact (layout.rowDiffers_eq_false_iff otherLayout size (by omega)).mpr (same y (by omega))

end Layout

end Frame

end ScreenCapture
