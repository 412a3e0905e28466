import ScreenCapture.Proofs.Layout.Access
import ScreenCapture.Proofs.Layout.Upkeep
import ScreenCapture.Proofs.Pixels.Painting

set_option autoImplicit false

namespace ScreenCapture

namespace Frame

structure Rewritten (frame : Frame) (store next : Store) : Prop where
  size : (next.bytes frame.buffer).size = (store.bytes frame.buffer).size
  holders : next.holders = store.holders
  suppliers : next.suppliers = store.suppliers

variable {frame : Frame} {store middle next : Store} {rect : Rect}

namespace Rewritten

theorem refl (frame : Frame) (store : Store) : frame.Rewritten store store := ⟨rfl, rfl, rfl⟩

theorem trans (first : frame.Rewritten store middle) (second : frame.Rewritten middle next) :
    frame.Rewritten store next where
  size := second.size.trans first.size
  holders := second.holders.trans first.holders
  suppliers := second.suppliers.trans first.suppliers

theorem setBytes {bytes : Bytes} (size : bytes.size = (store.bytes frame.buffer).size) :
    frame.Rewritten store (store.setBytes frame.buffer bytes) where
  size := by
    rw [Store.bytes_setBytes]
    split
    next => exact size
    next => rfl
  holders := rfl
  suppliers := rfl

variable (rewritten : frame.Rewritten store next)

include rewritten

theorem isWritable_eq : frame.isWritable next = frame.isWritable store := by
  simp only [isWritable, Store.holderCount, rewritten.holders]

theorem layout (layout : frame.Layout store) : frame.Layout next := layout.congr rewritten.size

end Rewritten

structure Recolored (frame : Frame) (store next : Store) : Prop extends frame.Rewritten store next where
  kept : ∀ index, ¬ frame.Visible index →
    (next.bytes frame.buffer).byte index = (store.bytes frame.buffer).byte index
  apart : ∀ id, id ≠ frame.buffer → next.bytes id = store.bytes id

namespace Recolored

theorem refl (frame : Frame) (store : Store) : frame.Recolored store store :=
  ⟨.refl frame store, fun _ _ => rfl, fun _ _ => rfl⟩

theorem trans (first : frame.Recolored store middle) (second : frame.Recolored middle next) :
    frame.Recolored store next where
  toRewritten := first.toRewritten.trans second.toRewritten
  kept index outside := (second.kept index outside).trans (first.kept index outside)
  apart id other := (second.apart id other).trans (first.apart id other)

theorem setBytes {bytes : Bytes} (size : bytes.size = (store.bytes frame.buffer).size)
    (kept : ∀ index, ¬ frame.Visible index →
      bytes.byte index = (store.bytes frame.buffer).byte index) :
    frame.Recolored store (store.setBytes frame.buffer bytes) where
  toRewritten := .setBytes size
  kept := by
    rw [store.bytes_setBytes_self frame.buffer size]
    exact kept
  apart id other := by rw [Store.bytes_setBytes, if_neg fun same => other same.1.symm]

end Recolored

theorem clear_recolors (layout : frame.Layout store) (writable : frame.isWritable store = true) :
    ∃ next, frame.clear store = .ok next ∧ frame.Recolored store next := by
  obtain ⟨next, cleared, zeroed⟩ := layout.fits.clear_zeroes writable
  obtain ⟨bytes, rfl⟩ := zeroed.only
  refine ⟨_, cleared, ⟨zeroed.bytes.size, rfl, rfl⟩, zeroed.bytes.kept, fun id other => ?_⟩
  rw [Store.bytes_setBytes, if_neg fun same => other same.1.symm]

section Fill

variable (layout : frame.Layout store) (writable : frame.isWritable store = true)
  (inside : frame.bounds.encloses rect = true) (solid : rect.isEmpty = false)

include layout writable inside solid

theorem fillRow_recolors {row : Nat} (below : row < (rect.bottom - rect.top).toNat) :
    ∃ next, Pattern.fillRow frame rect (rect.right - rect.left).toNat row store = .ok next ∧
      frame.Recolored store next := by
  have edges := bounds_encloses_iff.mp inside
  have ordered := (Rect.isEmpty_eq_false_iff _).mp solid
  have addressable := layout.addressable
  -- The row ends with its last pixel, which is one of the frame.
  have last : frame.bounds.contains ⟨rect.right - 1, rect.top + row⟩ = true := by
    rw [bounds_contains_iff]
    dsimp only
    omega
  have ends := layout.fits.place_le last
  have extent : frame.place ⟨rect.right - 1, rect.top + row⟩ + bytesPerPixel =
      frame.place ⟨rect.left, rect.top + row⟩ + (rect.right - rect.left).toNat * bytesPerPixel := by
    have columns : (rect.right - 1).toNat + 1 = rect.left.toNat + (rect.right - rect.left).toNat := by
      omega
    have bytes := congrArg (· * bytesPerPixel) columns
    simp only [Nat.add_mul, Nat.one_mul] at bytes
    simp only [place]
    omega
  have start : frame.offset ≤ frame.place ⟨rect.left, rect.top + row⟩ := Nat.le_add_right _ _
  have placed : frame.pixelOffset ⟨rect.left, rect.top + row⟩ =
      .ok (frame.place ⟨rect.left, rect.top + row⟩ - frame.offset) := by
    refine pixelOffset_eq_ok_iff.mpr ⟨⟨edges.1.1, ?_⟩, by omega, by omega⟩
    dsimp only
    omega
  have painted : Frame.paintRow Pattern.color (frame.place ⟨rect.left, rect.top + row⟩ - frame.offset)
      (rect.right - rect.left).toNat (frame.plane store) = .ok ((store.bytes frame.buffer).setColors
        (frame.place ⟨rect.left, rect.top + row⟩) Pattern.color (rect.right - rect.left).toNat) := by
    have found : ScreenCapture.window (store.bytes frame.buffer).size frame.offset
        (frame.place ⟨rect.left, rect.top + row⟩ - frame.offset)
        ((rect.right - rect.left).toNat * bytesPerPixel) =
          .ok (frame.place ⟨rect.left, rect.top + row⟩) :=
      window_eq_ok_iff.mpr ⟨by omega, by omega, by omega⟩
    simp only [paintRow, plane, found, Checked.ok_bind]
    rfl
  rw [Pattern.fillRow, placed, Checked.ok_bind]
  refine ⟨_, edit_eq_ok_iff.mpr ⟨writable, _, painted, rfl⟩,
    .setBytes (Bytes.size_setColors ..) fun index outside => ?_⟩
  rw [Bytes.byte_setColors _ _ _ _ (by simp only [bytesPerPixel] at ends extent; omega), if_neg]
  refine fun within => outside (visible_iff.mpr ⟨(rect.top + row).toNat, by omega, ?_, ?_⟩)
  all_goals
    simp only [place, bytesPerPixel, rowBytes, Size.rowBytes] at within ⊢
    omega

theorem fill_recolors : ∃ next, Pattern.fill frame rect store = .ok next ∧
    frame.Recolored store next := by
  have edges := bounds_encloses_iff.mp inside
  have ordered := (Rect.isEmpty_eq_false_iff _).mp solid
  have range := layout.width.2
  have wide : rect.width = .ok (rect.right - rect.left) :=
    coordinate_of_isCoordinate (by unfold IsCoordinate at range ⊢; omega)
  rw [Pattern.fill, wide, Checked.ok_bind]
  refine sweep_keeps (fun _ reached => frame.Recolored store reached) _ (.refl frame store) ?_
  intro row reached _ below recolored
  have free := recolored.isWritable_eq.trans writable
  obtain ⟨after, filled, more⟩ :=
    fillRow_recolors (recolored.layout layout) free inside solid (by omega : row < _)
  exact ⟨after, filled, recolored.trans more⟩

end Fill

end Frame

namespace Pattern

variable {pattern : Pattern} {frame : Frame} {store : Store} {sequence : Nat}

theorem paint_recolors (layout : frame.Layout store) (writable : frame.isWritable store = true)
    (placed : ∀ number ≤ sequence, ∃ block, pattern.blockAt frame.size number = .ok block) :
    ∃ changed next, pattern.paint frame sequence store = .ok (changed, next) ∧
      frame.Recolored store next := by
  obtain ⟨cleared, first, blanked⟩ := Frame.clear_recolors layout writable
  obtain ⟨block, found⟩ := placed sequence (Nat.le_refl _)
  have free := blanked.isWritable_eq.trans writable
  obtain ⟨filled, second, drawn⟩ : ∃ filled, fill frame block cleared = .ok filled ∧
      frame.Recolored cleared filled := by
    rcases blockAt_eq_ok found with rfl | ⟨solid, inside⟩
    next => exact ⟨cleared, rfl, .refl frame cleared⟩
    next => exact Frame.fill_recolors (blanked.layout layout) free inside solid
  rw [paint, first, Checked.ok_bind, found, Checked.ok_bind, second, Checked.ok_bind]
  cases sequence with
  | zero => exact ⟨_, filled, rfl, blanked.trans drawn⟩
  | succ before =>
    obtain ⟨old, earlier⟩ := placed before (Nat.le_succ _)
    dsimp only
    rw [earlier, Checked.ok_bind]
    exact ⟨_, filled, rfl, blanked.trans drawn⟩

end Pattern

end ScreenCapture
