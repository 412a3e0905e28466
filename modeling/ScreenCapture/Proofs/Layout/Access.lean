import ScreenCapture.Proofs.Layout.Basic
import ScreenCapture.Proofs.Pixels.Zeroing

set_option autoImplicit false

namespace ScreenCapture

theorem sweepAny_answers {test : Nat → Checked Bool} {count first : Nat}
    (each : ∀ index, first ≤ index → index < first + count → ∃ answer, test index = .ok answer) :
    ∃ answer, sweepAny test count first = .ok answer := by
  induction count generalizing first with
  | zero => exact ⟨false, rfl⟩
  | succ count ih =>
    have ⟨answer, tested⟩ := each first (Nat.le_refl _) (by omega)
    rw [sweepAny, tested, Checked.ok_bind]
    cases answer with
    | true => exact ⟨true, rfl⟩
    | false => exact ih fun index lower upper => each index (by omega) (by omega)

theorem sweepAny_eq_decide {test : Nat → Checked Bool} {holds : Nat → Prop} [DecidablePred holds]
    {count : Nat} (each : ∀ index, index < count → test index = .ok (decide (holds index))) :
    sweepAny test count 0 = .ok (decide (∃ index, index < count ∧ holds index)) := by
  obtain ⟨answer, swept⟩ := sweepAny_answers fun index _ below =>
    ⟨_, each index (Nat.zero_add count ▸ below)⟩
  rw [swept, Except.ok.injEq, Bool.eq_iff_iff, decide_eq_true_iff]
  cases answer with
  | true =>
    obtain ⟨index, _, below, found, _⟩ := sweepAny_eq_ok_true.mp swept
    rw [each index (by omega), Except.ok.injEq, decide_eq_true_iff] at found
    exact ⟨fun _ => ⟨index, by omega, found⟩, fun _ => rfl⟩
  | false =>
    refine ⟨nofun, ?_⟩
    rintro ⟨index, below, found⟩
    have tested := sweepAny_eq_ok_false.mp swept index (Nat.zero_le _) (by omega)
    rw [each index below, Except.ok.injEq, decide_eq_false_iff_not] at tested
    exact absurd found tested

namespace Frame

variable {frame other : Frame} {store : Store}

namespace Layout

variable (layout : frame.Layout store)

include layout

theorem row_eq {y : Nat} (below : y < frame.size.height.toNat) :
    frame.row y store = .ok ((store.bytes frame.buffer).extract (frame.offset + y * frame.stride)
      (frame.offset + y * frame.stride + frame.rowBytes)) := by
  have ends := layout.row_le below
  have addressable := layout.addressable
  have placed : frame.pixelOffset ⟨0, y⟩ = .ok (y * frame.stride) :=
    pixelOffset_eq_ok_iff.mpr ⟨⟨Int.le_refl _, Int.natCast_nonneg _⟩, by omega, by simp [place]⟩
  have found : window (store.bytes frame.buffer).size frame.offset (y * frame.stride) frame.rowBytes =
      .ok (frame.offset + y * frame.stride) := window_eq_ok_iff.mpr ⟨by omega, ends, rfl⟩
  rw [row, placed, Checked.ok_bind]
  simp only [plane, found, Checked.ok_bind, pure, Except.pure]

theorem planeAt_eq {point : Point} (column : 0 ≤ point.x ∧ point.x ≤ frame.size.width)
    (row : 0 ≤ point.y ∧ point.y < frame.size.height) :
    frame.planeAt point store = .ok (frame.corner store point) := by
  have ends := layout.row_le (y := point.y.toNat) (by omega)
  have addressable := layout.addressable
  have placed : frame.place point ≤ (store.bytes frame.buffer).size := by
    simp only [place, rowBytes, Size.rowBytes, bytesPerPixel] at ends ⊢
    omega
  exact planeAt_eq_ok_iff.mpr ⟨⟨column.1, row.1⟩, by omega, placed, rfl⟩

theorem pixels_answers : ∃ bytes, frame.pixels store = .ok bytes := by
  unfold pixels
  split
  next => exact ⟨_, rfl⟩
  next =>
    have appended : ∃ bytes, sweep (frame.appendRow store) frame.size.height.toNat 0 #[] = .ok bytes ∧
        True := by
      refine sweep_keeps (fun _ _ => True) frame.size.height.toNat trivial ?_
      intro y pixels _ below _
      rw [appendRow, layout.row_eq (by omega), Checked.ok_bind]
      exact ⟨_, rfl, trivial⟩
    exact appended.imp fun _ => And.left

theorem isBlack_answers : ∃ answer, frame.isBlack store = .ok answer := by
  unfold isBlack
  split
  next => exact ⟨_, rfl⟩
  next =>
    have lit : ∃ lit, sweepAny (frame.rowIsLit store) frame.size.height.toNat 0 = .ok lit := by
      refine sweepAny_answers fun y _ below => ?_
      rw [rowIsLit, layout.row_eq (by omega), Checked.ok_bind]
      exact ⟨_, rfl⟩
    obtain ⟨lit, swept⟩ := lit
    rw [swept, Checked.ok_bind]
    exact ⟨_, rfl⟩

theorem looksLike_answers (otherLayout : other.Layout store) :
    ∃ answer, frame.looksLike other store = .ok answer := by
  unfold looksLike
  split
  next => exact ⟨_, rfl⟩
  next alike =>
    split
    next => exact ⟨_, rfl⟩
    next =>
      have size : frame.size = other.size := Decidable.not_not.mp alike
      have differs : ∃ differs,
          sweepAny (frame.rowDiffers other store) frame.size.height.toNat 0 = .ok differs := by
        refine sweepAny_answers fun y _ below => ?_
        rw [rowDiffers, layout.row_eq (by omega), Checked.ok_bind,
          otherLayout.row_eq (by rw [← size]; omega), Checked.ok_bind]
        exact ⟨_, rfl⟩
      obtain ⟨differs, swept⟩ := differs
      rw [swept, Checked.ok_bind]
      exact ⟨_, rfl⟩

section Zeroing

variable (writable : frame.isWritable store = true)

include writable

theorem blacken_ok : ∃ next, frame.blacken store = .ok next := by
  obtain ⟨next, blackened, _⟩ := layout.blacken_zeroes writable
  exact ⟨next, blackened⟩

theorem clear_ok : ∃ next, frame.clear store = .ok next := by
  obtain ⟨next, cleared, _⟩ := layout.fits.clear_zeroes writable
  exact ⟨next, cleared⟩

end Zeroing

theorem hasRoom (tall : 0 < frame.size.height) :
    (frame.plane store).HasRoom frame.size.width.toNat frame.size.height.toNat :=
  ⟨layout.row_le (y := frame.size.height.toNat - 1) (by omega), layout.addressable⟩

end Layout

end Frame

end ScreenCapture
