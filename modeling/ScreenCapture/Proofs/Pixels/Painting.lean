import ScreenCapture.Pattern
import ScreenCapture.Proofs.Pixels.Zeroing
import ScreenCapture.Proofs.Region.Points

set_option autoImplicit false

namespace ScreenCapture

namespace Bytes

theorem byte_setColor (bytes : Bytes) (start : Nat) (color : Color) (fits : start + 4 ≤ bytes.size)
    (index : Nat) : (bytes.setColor start color).byte index =
      if start ≤ index ∧ index < start + 4 then Bytes.byte color.bytes (index - start)
      else bytes.byte index := by
  simp only [setColor, byte_setIfInBounds, Array.size_setIfInBounds]
  by_cases inside : start ≤ index ∧ index < start + 4
  next =>
    have first : start < bytes.size := by omega
    have within : index < bytes.size := by omega
    obtain ⟨offset, same⟩ := Nat.exists_eq_add_of_le inside.1
    obtain rfl | rfl | rfl | rfl : offset = 0 ∨ offset = 1 ∨ offset = 2 ∨ offset = 3 := by omega
    all_goals
      rw [same] at within ⊢
      simp [first, within, Color.bytes, Bytes.byte]
  next =>
    rw [if_neg inside, if_neg (by omega), if_neg (by omega), if_neg (by omega), if_neg (by omega)]

theorem byte_setColors (bytes : Bytes) (start : Nat) (color : Color) (count : Nat)
    (fits : start + count * 4 ≤ bytes.size) (index : Nat) :
    (bytes.setColors start color count).byte index =
      if start ≤ index ∧ index < start + count * 4
      then Bytes.byte color.bytes ((index - start) % 4) else bytes.byte index := by
  induction count generalizing bytes start with
  | zero => rw [setColors, if_neg (by omega)]
  | succ count ih =>
    rw [setColors, ih _ _ (by rw [size_setColor]; omega), byte_setColor _ _ _ (by omega)]
    by_cases first : start ≤ index ∧ index < start + 4
    next =>
      rw [if_neg (by omega), if_pos first, if_pos (by omega), Nat.mod_eq_of_lt (by omega)]
    next =>
      by_cases later : start + 4 ≤ index ∧ index < start + 4 + count * 4
      next =>
        rw [if_pos later, if_pos (by omega)]
        congr 1
        omega
      next => rw [if_neg later, if_neg first, if_neg (by omega)]

end Bytes

def Color.blank : Color := ⟨0, 0, 0, 0⟩

namespace Frame

variable {frame : Frame} {store next : Store} {rect : Rect} {point : Point}

theorem Zeroed.view_eq_blank {area : Nat → Prop} (zeroed : frame.Zeroed area store next)
    (within : ∀ index, frame.Covers point index → area index) : frame.view next point = .blank := by
  refine (Bytes.color_eq_iff _ (Color.bytes .blank) _ 0).mpr fun offset below => ?_
  have covered : frame.Covers point (frame.place point + offset) :=
    ⟨Nat.le_add_right _ _, Nat.add_lt_add_left below _⟩
  rw [zeroed.bytes.zero _ (within _ covered)]
  obtain rfl | rfl | rfl | rfl : offset = 0 ∨ offset = 1 ∨ offset = 2 ∨ offset = 3 := by omega
  all_goals rfl

theorem clear_eq_ok (fits : frame.Fits store) (solid : frame.size.isEmpty = false)
    (cleared : frame.clear store = .ok next) :
    (next.bytes frame.buffer).size = (store.bytes frame.buffer).size ∧
      ∀ point, frame.bounds.contains point = true → frame.view next point = .blank := by
  have writable : frame.isWritable store = true := by
    rw [Size.isEmpty_eq_false_iff] at solid
    unfold clear at cleared
    rw [if_neg (by simp only [rowBytes, Size.rowBytes, bytesPerPixel]; omega)] at cleared
    exact (edit_eq_ok_iff.mp cleared).1
  obtain ⟨reached, same, zeroed⟩ := fits.clear_zeroes writable
  cases cleared.symm.trans same
  exact ⟨zeroed.bytes.size, fun point inside =>
    zeroed.view_eq_blank fun index covers => ⟨point, inside, covers⟩⟩

section Fill

variable (fits : frame.Fits store) (inside : frame.bounds.encloses rect = true)
  (solid : rect.isEmpty = false)

include fits inside solid

theorem fillRow_eq_ok {row : Nat} (below : row < (rect.bottom - rect.top).toNat)
    (filled : Pattern.fillRow frame rect (rect.right - rect.left).toNat row store = .ok next) :
    (next.bytes frame.buffer).size = (store.bytes frame.buffer).size ∧
      ∀ point, frame.bounds.contains point = true → frame.view next point =
        if (rect.left ≤ point.x ∧ point.x < rect.right) ∧ point.y = rect.top + row
        then Pattern.color else frame.view store point := by
  have edges := bounds_encloses_iff.mp inside
  have ordered := (Rect.isEmpty_eq_false_iff _).mp solid
  have known := isEmpty_of_encloses inside solid
  obtain ⟨offset, placed, filled⟩ := Checked.bind_eq_ok.mp filled
  obtain ⟨_, _, begin⟩ := pixelOffset_eq_ok_iff.mp placed
  obtain ⟨_, bytes, painted, rfl⟩ := edit_eq_ok_iff.mp filled
  obtain ⟨position, found, painted⟩ := Checked.bind_eq_ok.mp painted
  obtain ⟨_, ends, rfl⟩ := window_eq_ok_iff.mp found
  rw [begin] at painted
  cases painted
  have same := fits.bytes_setBytes known ((store.bytes frame.buffer).setColors
    (frame.place ⟨rect.left, rect.top + row⟩) Pattern.color (rect.right - rect.left).toNat)
  have room : frame.place ⟨rect.left, rect.top + row⟩ + (rect.right - rect.left).toNat * 4 ≤
      (store.bytes frame.buffer).size := by
    have least : frame.offset + offset = frame.place ⟨rect.left, rect.top + row⟩ := begin
    simp only [bytesPerPixel] at ends
    omega
  rw [same]
  refine ⟨Bytes.size_setColors .., fun point contained => ?_⟩
  refine (congrArg (fun bytes => Bytes.color bytes (frame.place point)) same).trans ?_
  have spot := bounds_contains_iff.mp contained
  split
  next within =>
    have place : frame.place point = frame.place ⟨rect.left, rect.top + row⟩ +
        (point.x - rect.left).toNat * 4 := by
      have column : point.x.toNat = rect.left.toNat + (point.x - rect.left).toNat := by omega
      simp only [Frame.place, within.2, column, bytesPerPixel, Nat.add_mul]
      omega
    refine (Bytes.color_eq_iff _ (Color.bytes Pattern.color) _ 0).mpr fun step short => ?_
    rw [Bytes.byte_setColors _ _ _ _ room, place, if_pos (by omega)]
    congr 1
    omega
  next apart =>
    refine (Bytes.color_eq_iff _ _ _ _).mpr fun step short => ?_
    rw [Bytes.byte_setColors _ _ _ _ room, if_neg]
    intro within
    -- The byte would be one of the pixel of the row that it is the right distance from its first.
    obtain ⟨column, length⟩ : ∃ column : Nat, column = (frame.place point + step -
        frame.place ⟨rect.left, rect.top + row⟩) / 4 := ⟨_, rfl⟩
    have other : frame.bounds.contains ⟨rect.left + column, rect.top + row⟩ = true := by
      rw [bounds_contains_iff]
      dsimp only
      omega
    have place : frame.place ⟨rect.left + column, rect.top + row⟩ =
        frame.place ⟨rect.left, rect.top + row⟩ + column * 4 := by
      have across : (rect.left + column).toNat = rect.left.toNat + column := by omega
      simp only [Frame.place, across, bytesPerPixel, Nat.add_mul]
      omega
    have equal := fits.covers_unique contained other
      ⟨Nat.le_add_right _ _, Nat.add_lt_add_left short _⟩ (by
        simp only [Covers, place, bytesPerPixel]
        omega)
    rw [equal] at apart
    dsimp only at apart
    omega

theorem fill_eq_ok (filled : Pattern.fill frame rect store = .ok next) :
    (next.bytes frame.buffer).size = (store.bytes frame.buffer).size ∧
      ∀ point, frame.bounds.contains point = true → frame.view next point =
        if rect.contains point then Pattern.color else frame.view store point := by
  obtain ⟨width, wide, swept⟩ := Checked.bind_eq_ok.mp filled
  obtain ⟨_, rfl⟩ := coordinate_eq_ok_iff.mp wide
  let invariant (row : Nat) (reached : Store) : Prop :=
    (reached.bytes frame.buffer).size = (store.bytes frame.buffer).size ∧
      ∀ point, frame.bounds.contains point = true → frame.view reached point =
        if (rect.left ≤ point.x ∧ point.x < rect.right) ∧ rect.top ≤ point.y ∧ point.y < rect.top + row
        then Pattern.color else frame.view store point
  have begun : invariant 0 store := by
    refine ⟨rfl, fun point _ => ?_⟩
    rw [if_neg (by omega)]
  obtain ⟨size, shown⟩ := sweep_leaves invariant _ begun swept (by
    intro row reached after _ below ⟨size, shown⟩ stepped
    obtain ⟨length, drawn⟩ := fillRow_eq_ok (fits.congr size) inside solid (by omega) stepped
    refine ⟨length.trans size, fun point contained => ?_⟩
    rw [drawn point contained, shown point contained]
    by_cases here : (rect.left ≤ point.x ∧ point.x < rect.right) ∧ point.y = rect.top + row
    next => rw [if_pos here, if_pos (by omega)]
    next =>
      rw [if_neg here]
      refine ite_congr (propext ?_) (fun _ => rfl) fun _ => rfl
      omega)
  refine ⟨size, fun point contained => (shown point contained).trans ?_⟩
  refine ite_congr (propext ?_) (fun _ => rfl) fun _ => rfl
  rw [Rect.contains_iff]
  omega

end Fill

end Frame

namespace Pattern

variable {pattern : Pattern} {frame : Frame} {store next : Store} {screen : Size} {sequence : Nat}
  {block : Rect} {changed : Region}

theorem blockAt_eq_ok (found : pattern.blockAt screen sequence = .ok block) : block = .zero ∨
    block.isEmpty = false ∧ (Rect.ofSize screen).encloses block = true := by
  obtain ⟨_, _, found⟩ := Checked.bind_eq_ok.mp found
  obtain ⟨_, _, found⟩ := Checked.bind_eq_ok.mp found
  obtain ⟨_, _, found⟩ := Checked.bind_eq_ok.mp found
  obtain ⟨placed, _, found⟩ := Checked.bind_eq_ok.mp found
  cases found
  exact (Rect.meet_cases placed (Rect.ofSize screen)).imp_right fun ⟨solid, _, inside⟩ => ⟨solid, inside⟩

theorem paint_eq_ok (fits : frame.Fits store) (solid : frame.size.isEmpty = false)
    (painted : pattern.paint frame sequence store = .ok (changed, next)) :
    ∃ block, pattern.blockAt frame.size sequence = .ok block ∧
      (next.bytes frame.buffer).size = (store.bytes frame.buffer).size ∧
      (∀ point, frame.bounds.contains point = true → frame.view next point =
        if block.contains point then color else .blank) ∧
      (sequence = 0 → changed = .ofRect block) ∧
      ∀ before, sequence = before + 1 → ∃ old, pattern.blockAt frame.size before = .ok old ∧
        changed = (Region.ofRect block).insert old := by
  obtain ⟨cleared, first, painted⟩ := Checked.bind_eq_ok.mp painted
  obtain ⟨block, found, painted⟩ := Checked.bind_eq_ok.mp painted
  obtain ⟨filled, second, painted⟩ := Checked.bind_eq_ok.mp painted
  obtain ⟨length, dark⟩ := Frame.clear_eq_ok fits solid first
  have drawn : (filled.bytes frame.buffer).size = (cleared.bytes frame.buffer).size ∧
      ∀ point, frame.bounds.contains point = true → frame.view filled point =
        if block.contains point then color else frame.view cleared point := by
    rcases blockAt_eq_ok found with rfl | ⟨full, inside⟩
    next =>
      cases second
      refine ⟨rfl, fun point _ => ?_⟩
      rw [Rect.contains_of_isEmpty rfl, if_neg Bool.false_ne_true]
    next => exact Frame.fill_eq_ok (fits.congr length) inside full second
  have shown : ∀ point, frame.bounds.contains point = true → frame.view filled point =
      if block.contains point then color else .blank := by
    intro point contained
    rw [drawn.2 point contained, dark point contained]
  refine ⟨block, found, ?_⟩
  cases sequence with
  | zero =>
    cases painted
    exact ⟨drawn.1.trans length, shown, fun _ => rfl, nofun⟩
  | succ before =>
    obtain ⟨old, earlier, painted⟩ := Checked.bind_eq_ok.mp painted
    cases painted
    refine ⟨drawn.1.trans length, shown, nofun, fun last same => ?_⟩
    cases same
    exact ⟨old, earlier, rfl⟩

end Pattern

end ScreenCapture
