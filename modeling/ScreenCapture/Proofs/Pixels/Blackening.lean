import ScreenCapture.Proofs.Pixels.Packed
import ScreenCapture.Proofs.Pixels.Painting

set_option autoImplicit false

namespace ScreenCapture

namespace Frame

variable {frame : Frame} {store next : Store} {area : Nat → Prop}

theorem byte_data (frame : Frame) (store : Store) (index : Nat) :
    (frame.data store).byte index = (store.bytes frame.buffer).byte (frame.offset + index) := by
  simp only [data, Bytes.byte, Array.getD_eq_getD_getElem?, Array.getElem?_extract]
  split
  next => rfl
  next beyond => rw [Array.getElem?_eq_none (by omega)]

namespace Zeroed

variable (zeroed : frame.Zeroed area store next)

include zeroed

theorem data : (frame.data store).ZeroedIn (fun index => area (frame.offset + index))
    (frame.data next) where
  size := by
    simp only [Frame.data, Array.size_extract, zeroed.bytes.size]
  zero index within := by rw [byte_data, zeroed.bytes.zero _ within]
  kept index outside := by rw [byte_data, byte_data, zeroed.bytes.kept _ outside]

theorem layout (layout : frame.Layout store) : frame.Layout next := layout.congr zeroed.bytes.size

theorem pixels_eq_zeros (layout : frame.Layout store) (shown : ∀ index, frame.Visible index → area index) :
    frame.pixels next = .ok (Bytes.zeros frame.size.packedBytes) := by
  have laid := zeroed.layout layout
  rw [laid.pixels_eq_zeros_iff]
  intro y below
  obtain ⟨row, found, length⟩ := laid.row_size below
  rw [found]
  refine congrArg Except.ok (Bytes.ext_byte (by rw [length, Bytes.size_zeros]) fun index known => ?_)
  rw [Bytes.size_zeros] at known
  obtain ⟨row', found', byte⟩ := laid.row_byte below known
  cases found.symm.trans found'
  have inRow : frame.InRow frame.rowBytes y (frame.offset + y * frame.stride + index) :=
    ⟨Nat.le_add_right _ _, Nat.add_lt_add_left known _⟩
  rw [byte, Bytes.byte_zeros, zeroed.bytes.zero _ (shown _ (visible_iff.mpr ⟨y, below, inRow⟩))]

end Zeroed

theorem Visible.solid {index : Nat} (visible : frame.Visible index) : frame.size.isEmpty = false := by
  obtain ⟨point, inside, _⟩ := visible
  exact isEmpty_of_contains inside

theorem Visible.owns {index : Nat} (visible : frame.Visible index)
    (rows : frame.rowBytes ≤ frame.stride) : frame.Owns index := by
  refine ⟨visible.solid, ?_⟩
  split
  next => exact visible
  next =>
    obtain ⟨y, below, lower, upper⟩ := visible_iff.mp visible
    exact exists_inRow_stride_iff.mp ⟨y, below, lower, by omega⟩

theorem owns_iff_visible (cropped : frame.isCropped = true) (index : Nat) :
    frame.Visible index ↔ frame.Owns index := by
  rw [Owns, if_pos cropped]
  exact (and_iff_right_of_imp Visible.solid).symm

theorem owns_iff_leads (whole : frame.isCropped = false) (solid : frame.size.isEmpty = false)
    (index : Nat) : frame.Leads (frame.stride * frame.size.height.toNat) index ↔ frame.Owns index := by
  rw [Owns, whole, if_neg Bool.false_ne_true, and_iff_right solid]

theorem Layout.isBlack_eq (layout : frame.Layout store)
    (dark : frame.pixels store = .ok (Bytes.zeros frame.size.packedBytes)) :
    frame.isBlack store = .ok (!frame.size.isEmpty) := by
  obtain ⟨answer, looked⟩ := layout.isBlack_answers
  have black := layout.isBlack_eq_true_iff
  rw [looked, Except.ok.injEq, and_iff_left dark] at black
  rw [looked, Except.ok.injEq, Bool.eq_iff_iff, black, Bool.not_eq_true']

theorem blacken_exact (layout : frame.Layout store) (writable : frame.isWritable store = true) :
    ∃ blackened cleared, frame.blacken store = .ok blackened ∧ frame.clear store = .ok cleared ∧
      (∀ point, frame.bounds.contains point = true → frame.view blackened point = .blank) ∧
      frame.isBlack blackened = .ok (!frame.size.isEmpty) ∧
      (frame.isCropped = true → frame.Zeroed frame.Visible store blackened) ∧
      (frame.isCropped = false → frame.size.isEmpty = false →
        frame.Zeroed (frame.Leads (frame.stride * frame.size.height.toNat)) store blackened ∧
        frame.stride * frame.size.height.toNat ≤ (frame.data store).size ∧
        (frame.data store).ZeroedIn (fun index => index < frame.stride * frame.size.height.toNat)
          (frame.data blackened)) ∧
      (frame.size.isEmpty = true → blackened = store) ∧
      frame.pixels cleared = frame.pixels blackened ∧ frame.Zeroed frame.Visible store cleared := by
  obtain ⟨blackened, black, zeroed⟩ := layout.blacken_zeroes writable
  obtain ⟨cleared, clear, erased⟩ := layout.fits.clear_zeroes writable
  have shown (index : Nat) (visible : frame.Visible index) : frame.Owns index :=
    visible.owns layout.rows
  have dark := zeroed.pixels_eq_zeros layout shown
  refine ⟨blackened, cleared, black, clear, fun point inside => ?_, (zeroed.layout layout).isBlack_eq dark,
    fun cropped => zeroed.congr (owns_iff_visible cropped), fun whole solid => ?_, fun hollow => ?_,
    (erased.pixels_eq_zeros layout fun _ => id).trans dark.symm, erased⟩
  next => exact zeroed.view_eq_blank fun index covers => shown index ⟨point, inside, covers⟩
  next =>
    have leading := zeroed.congr (owns_iff_leads whole solid)
    refine ⟨leading, ?_, leading.data.congr fun index => ?_⟩
    next =>
      rw [Nat.mul_comm, data, Array.size_extract, Nat.min_self]
      exact layout.padded whole
    next =>
      unfold Leads
      omega
  next =>
    rw [blacken, hollow, if_pos rfl] at black
    exact (Except.ok.inj black).symm

def twoColumns : Store :=
  ⟨#[⟨.heap, #[1, 2, 3, 4, 5, 6, 7, 8, 9, 10, 11, 12, 13, 14, 15, 16, 17, 18, 19, 20, 21, 22, 23, 24]⟩],
    #[1], #[]⟩

def rightColumn : Frame :=
  { onBuffer ⟨1, 2⟩ 12 0 with offset := 4, groups := [0], wrapping := .shared, isCropped := true }

theorem blacken_exact_rightColumn :
    (rightColumn.Layout twoColumns ∧ rightColumn.isWritable twoColumns = true) ∧
    (∃ next, rightColumn.blacken twoColumns = .ok next ∧ rightColumn.isBlack next = .ok true ∧
      (next.bytes 0).byte 4 = 0 ∧ (next.bytes 0).byte 8 = 9) ∧
    ((onBuffer ⟨2, 2⟩ 12 0).Layout twoColumns ∧ (onBuffer ⟨2, 2⟩ 12 0).isWritable twoColumns = true) ∧
    ∃ next, (onBuffer ⟨2, 2⟩ 12 0).blacken twoColumns = .ok next ∧ (next.bytes 0).byte 8 = 0 := by
  have column : rightColumn.Layout twoColumns :=
    ⟨by decide, by decide, by decide, by decide, by decide, nofun, by decide⟩
  have whole : (onBuffer ⟨2, 2⟩ 12 0).Layout twoColumns :=
    ⟨by decide, by decide, by decide, by decide, by decide, fun _ => by decide, by decide⟩
  obtain ⟨next, _, ran, _, _, black, zeroed, _⟩ := blacken_exact column rfl
  obtain ⟨next', _, ran', _, _, _, _, filled, _⟩ := blacken_exact whole rfl
  have shown : rightColumn.Visible 4 := ⟨⟨0, 0⟩, by decide, by decide, by decide⟩
  have behind : ¬ rightColumn.Visible 8 := by
    rw [visible_iff]
    rintro ⟨y, below, lower, upper⟩
    simp only [rightColumn, onBuffer, rowBytes, Size.rowBytes, bytesPerPixel] at below lower upper
    omega
  refine ⟨⟨column, rfl⟩, ⟨next, ran, black, (zeroed rfl).bytes.zero 4 shown, ?_⟩, ⟨whole, rfl⟩, next', ran', ?_⟩
  next => exact (zeroed rfl).bytes.kept 8 behind
  next => exact (filled rfl rfl).1.bytes.zero 8 ⟨by decide, by decide⟩

end Frame

end ScreenCapture
