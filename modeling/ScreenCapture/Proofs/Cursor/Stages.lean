import ScreenCapture.Proofs.Cursor.Canvas

set_option autoImplicit false

namespace ScreenCapture

namespace Plane

def Beside (width height : Nat) (holds : Nat → Nat → Prop) (x y : Nat) : Prop :=
  (0 < y ∧ holds x (y - 1)) ∨ (y + 1 < height ∧ holds x (y + 1)) ∨ (0 < x ∧ holds (x - 1) y) ∨
    (x + 1 < width ∧ holds (x + 1) y)

instance (width height : Nat) (holds : Nat → Nat → Prop) [∀ x y, Decidable (holds x y)] (x y : Nat) :
    Decidable (Beside width height holds x y) :=
  inferInstanceAs (Decidable (_ ∨ _))

def outlined (width height : Nat) (shade : Nat → Nat → Color) (x y : Nat) : Color :=
  if shade x y = .clear ∧ Beside width height (fun x y => shade x y = .black) x y then .white
  else shade x y

def Somewhere (width height : Nat) (holds : Nat → Nat → Prop) : Prop :=
  ∃ y, y < height ∧ ∃ x, x < width ∧ holds x y

instance (width height : Nat) (holds : Nat → Nat → Prop) [∀ x y, Decidable (holds x y)] :
    Decidable (Somewhere width height holds) :=
  inferInstanceAs (Decidable (∃ y, y < height ∧ _))

theorem Beside.congr {width height x y : Nat} {holds holds' : Nat → Nat → Prop} (column : x < width)
    (row : y < height) (same : ∀ x y, x < width → y < height → (holds' x y ↔ holds x y)) :
    Beside width height holds' x y ↔ Beside width height holds x y := by
  refine or_congr ?_ (or_congr ?_ (or_congr ?_ ?_))
  next => exact and_congr_right fun _ => same _ _ column (by omega)
  next => exact and_congr_right fun below => same _ _ column below
  next => exact and_congr_right fun _ => same _ _ (by omega) row
  next => exact and_congr_right fun beside => same _ _ beside row

theorem outlined_congr {width height x y : Nat} {shade shade' : Nat → Nat → Color} (column : x < width)
    (row : y < height) (same : ∀ x y, x < width → y < height → shade' x y = shade x y) :
    outlined width height shade' x y = outlined width height shade x y := by
  have beside : Beside width height (fun x y => shade' x y = .black) x y ↔
      Beside width height (fun x y => shade x y = .black) x y :=
    Beside.congr column row fun x y column row => by rw [same x y column row]
  rw [outlined, outlined, same x y column row]
  exact ite_congr (propext (and_congr_right fun _ => beside)) (fun _ => rfl) fun _ => rfl

theorem Somewhere.congr {width height : Nat} {holds holds' : Nat → Nat → Prop}
    (same : ∀ x y, x < width → y < height → (holds' x y ↔ holds x y)) :
    Somewhere width height holds' ↔ Somewhere width height holds :=
  exists_congr fun y => and_congr_right fun row => exists_congr fun x => and_congr_right fun column =>
    same x y column row

theorem outlined_eq_black_iff {width height : Nat} {shade : Nat → Nat → Color} {x y : Nat} :
    outlined width height shade x y = .black ↔ shade x y = .black := by
  unfold outlined
  split
  next edge =>
    rw [edge.1]
    decide
  next => rfl

def packed (bytes : Bytes) (width : Nat) : Plane := .ofBytes bytes (width * bytesPerPixel)

variable {plane : Plane} {mask : Bytes} {width height x y : Nat}

theorem readColor_eq (room : (packed mask width).HasRoom width height) (column : x < width)
    (row : y < height) :
    mask.readColor ((y * width + x) * bytesPerPixel) = .ok ((packed mask width).pixel x y) := by
  have place : (packed mask width).cell x y = (y * width + x) * bytesPerPixel := by
    simp only [cell, packed, ofBytes, Nat.add_mul, Nat.mul_assoc, Nat.zero_add]
  have ends := room.cell_le column row
  rw [pixel, place] at *
  exact if_pos ends

section Scans

variable (room : plane.HasRoom width height)

include room

theorem inverts_eq (maskRoom : (packed mask width).HasRoom width height) :
    sweepAny (rowInverts mask width plane) height 0 = .ok (decide (Somewhere width height fun x y =>
      ((packed mask width).pixel x y).isInverting (plane.pixel x y) = true)) := by
  refine sweepAny_eq_decide fun y row => sweepAny_eq_decide fun x column => ?_
  rw [pixelInverts, readColor_eq maskRoom column row, Checked.ok_bind,
    room.colorAt_eq column row rfl, Checked.ok_bind, Bool.decide_eq_true]
  rfl

theorem hasAlpha_eq {size : Size} (wide : size.width.toNat = width) (high : size.height.toNat = height) :
    plane.hasAlpha size =
      .ok (decide (Somewhere width height fun x y => (plane.pixel x y).alpha ≠ 0)) := by
  rw [hasAlpha, wide, high]
  refine sweepAny_eq_decide fun y row => ?_
  rw [rowHasAlpha, room.rowStart_eq row, Checked.ok_bind, room.twoCuts_row row, Checked.ok_bind]
  refine sweepAny_eq_decide fun x column => ?_
  have ends := room.cell_le column row
  have place : plane.start + y * plane.stride + (x * bytesPerPixel + 3) = plane.cell x y + 3 := by
    simp only [cell]
    omega
  rw [pixelHasAlpha]
  dsimp only
  have tested : (plane.bytes.byte (plane.cell x y + 3) != 0) = decide ((plane.pixel x y).alpha ≠ 0) := by
    rw [Bool.eq_iff_iff, bne_iff_ne, decide_eq_true_iff]
    rfl
  rw [place, if_pos (by simp only [bytesPerPixel] at ends; omega), tested]
  rfl

theorem besideBlack_eq {shade : Nat → Nat → Color} {bytes : Bytes}
    (shows : plane.Shows width height shade bytes) (column : x < width) (row : y < height) :
    besideBlack ⟨bytes, plane.start, plane.stride⟩ width height x y =
      .ok (decide (Beside width height (fun x y => shade x y = .black) x y)) := by
  have look {x y : Nat} (column : x < width) (row : y < height) :
      isBlackAt ⟨bytes, plane.start, plane.stride⟩ x y = .ok (decide (shade x y = .black)) := by
    rw [isBlackAt, room.colorAt_eq column row shows.size, Checked.ok_bind,
      shows.pixels x y column row]
    rfl
  have guarded {there : Prop} [Decidable there] {x y : Nat} (inside : there → x < width ∧ y < height) :
      (if there then isBlackAt ⟨bytes, plane.start, plane.stride⟩ x y else .ok false) =
        .ok (decide (there ∧ shade x y = .black)) := by
    split
    next here => simp only [look (inside here).1 (inside here).2, here, true_and]
    next absent => simp only [absent, false_and, decide_false]
  rw [besideBlack, guarded fun _ => ⟨column, by omega⟩, guarded fun below => ⟨column, below⟩,
    guarded fun _ => ⟨by omega, row⟩, guarded fun beside => ⟨beside, row⟩]
  have any : decide (Beside width height (fun x y => shade x y = .black) x y) =
      (decide (0 < y ∧ shade x (y - 1) = .black) || (decide (y + 1 < height ∧ shade x (y + 1) = .black) ||
        (decide (0 < x ∧ shade (x - 1) y = .black) ||
          decide (x + 1 < width ∧ shade (x + 1) y = .black)))) := by
    rw [Bool.eq_iff_iff]
    simp only [Bool.or_eq_true, decide_eq_true_iff]
    rfl
  rw [any]
  cases decide (0 < y ∧ shade x (y - 1) = .black) <;>
    cases decide (y + 1 < height ∧ shade x (y + 1) = .black) <;>
    cases decide (0 < x ∧ shade (x - 1) y = .black) <;> rfl

theorem outlinePixel_eq {shade : Nat → Nat → Color} {bytes : Bytes}
    (shows : plane.Shows width height shade bytes) (column : x < width) (row : y < height) :
    outlinePixel width height plane.start plane.stride y x bytes =
      .ok (if shade x y = .clear ∧ Beside width height (fun x y => shade x y = .black) x y
        then bytes.setColor (plane.cell x y) .white else bytes) := by
  rw [outlinePixel, room.colorAt_eq column row shows.size, Checked.ok_bind,
    shows.pixels x y column row, besideBlack_eq room shows column row]
  by_cases clear : shade x y = .clear
  next =>
    by_cases beside : Beside width height (fun x y => shade x y = .black) x y
    next =>
      rw [if_neg (not_not_intro clear), decide_eq_true beside, if_pos ⟨clear, beside⟩]
      exact room.setColorAt_eq column row shows.size .white
    next =>
      rw [if_neg (not_not_intro clear), decide_eq_false beside, if_neg fun edge => beside edge.2]
      rfl
  next =>
    rw [if_pos clear, if_neg fun edge => clear edge.1]
    rfl

end Scans

section Changes

variable (canvas : plane.Canvas width height)

include canvas

theorem unmask_shows (maskRoom : (packed mask width).HasRoom width height) :
    ∃ bytes, unmask mask width height plane = .ok bytes ∧ plane.Shows width height
      (fun x y => ((packed mask width).pixel x y).unmask (plane.pixel x y)) bytes := by
  refine (plane.shows_pixel width height).sweepPixels fun y x bytes column row shows => ?_
  have old := shows.pixels x y column row
  rw [partly_self] at old
  refine ⟨_, ?_, shows.paint canvas column row⟩
  rw [unmaskPixel, readColor_eq maskRoom column row, Checked.ok_bind,
    canvas.room.colorAt_eq column row shows.size, Checked.ok_bind, old,
    canvas.room.setColorAt_eq column row shows.size]

-- Pixels that have become white already are not black, so the order does not matter.
theorem outline_shows : ∃ bytes, outline width height plane = .ok bytes ∧
    plane.Shows width height (outlined width height plane.pixel) bytes := by
  refine (plane.shows_pixel width height).sweepPixels fun y x bytes column row shows => ?_
  refine ⟨_, outlinePixel_eq canvas.room shows column row, ?_⟩
  have beside : Beside width height
      (fun x' y' => partly plane.pixel (outlined width height plane.pixel) x y x' y' = .black) x y ↔
        Beside width height (fun x y => plane.pixel x y = .black) x y := by
    refine Beside.congr column row fun x' y' _ _ => ?_
    rw [partly]
    split
    next => exact outlined_eq_black_iff
    next => rfl
  rw [partly_self]
  split
  next edge =>
    have white : outlined width height plane.pixel x y = .white :=
      if_pos ⟨edge.1, beside.mp edge.2⟩
    exact white ▸ shows.paint canvas column row
  next apart => exact shows.leave (if_neg fun edge => apart ⟨edge.1, beside.mpr edge.2⟩)

theorem premultiplyRun_shows {count : Nat} {bytes : Bytes} (row : y < height) (rest : x + count = width)
    (shows : plane.Shows width height
      (partly plane.pixel (fun x y => (plane.pixel x y).premultiply) x y) bytes) :
    plane.Shows width height (partly plane.pixel (fun x y => (plane.pixel x y).premultiply) width y)
      (premultiplyRun (plane.cell x y) count bytes) := by
  induction count generalizing x bytes with
  | zero => exact rest ▸ shows
  | succ count ih =>
    have old := shows.pixels x y (by omega) row
    rw [partly_self] at old
    have next : plane.cell x y + bytesPerPixel = plane.cell (x + 1) y := by
      simp only [cell, Nat.add_one_mul]
      omega
    rw [premultiplyRun, old, next]
    exact ih (by omega) (shows.paint canvas (by omega) row)

theorem premultiply_shows : ∃ bytes, premultiply width height plane = .ok bytes ∧
    plane.Shows width height (fun x y => (plane.pixel x y).premultiply) bytes := by
  refine (plane.shows_pixel width height).sweepRows fun y bytes row shows => ?_
  have begin : window bytes.size plane.start (y * plane.stride) (width * bytesPerPixel) =
      .ok (plane.cell 0 y) := by
    rw [shows.size, canvas.room.window_row row, cell, Nat.zero_mul, Nat.add_zero]
  refine ⟨_, ?_, premultiplyRun_shows canvas row (Nat.zero_add width) shows⟩
  rw [premultiplyRow, show address (y * plane.stride) = _ from canvas.room.rowStart_eq row,
    Checked.ok_bind, begin]
  rfl

end Changes

end Plane

end ScreenCapture
