import ScreenCapture.Frame.Transfer
import ScreenCapture.Proofs.Layout.Basic
import ScreenCapture.Proofs.Nearest
import ScreenCapture.Proofs.Pixels.Transfer
import ScreenCapture.Proofs.Region.Bounded

set_option autoImplicit false

namespace ScreenCapture

def Size.IsExact (size : Size) : Prop := IsSingle size.width ∧ IsSingle size.height

def Point.Bounded (point : Point) : Prop := IsCoordinate point.x ∧ IsCoordinate point.y

instance (point : Point) : Decidable point.Bounded :=
  inferInstanceAs (Decidable (_ ∧ _))

def Point.minus (point other : Point) : Point := ⟨point.x - other.x, point.y - other.y⟩

def Point.plus (point other : Point) : Point := ⟨point.x + other.x, point.y + other.y⟩

theorem Checked.ite_eq_ok_iff {A : Type} {allowed : Prop} [Decidable allowed] {fault : Fault}
    {value result : A} :
    (if allowed then .ok value else .error fault : Checked A) = .ok result ↔
      allowed ∧ value = result := by
  split
  next yes => simp [yes]
  next no => simp [no]

theorem Point.coordinates_eq (x y : Int) :
    (coordinate x >>= fun x => coordinate y >>= fun y => return ⟨x, y⟩ : Checked Point) =
      if Point.Bounded ⟨x, y⟩ then .ok ⟨x, y⟩ else .error .overflow := by
  unfold coordinate Point.Bounded
  by_cases across : IsCoordinate x
  next =>
    by_cases down : IsCoordinate y
    next => simp only [across, down, and_self, if_true, Checked.ok_bind]; rfl
    next => simp only [across, down, and_false, if_true, if_false, Checked.ok_bind, Checked.error_bind]
  next => simp only [across, false_and, if_false, Checked.error_bind]

theorem Point.add_eq (point other : Point) : point.add other =
    if (point.plus other).Bounded then .ok (point.plus other) else .error .overflow :=
  Point.coordinates_eq ..

theorem Point.sub_eq (point other : Point) : point.sub other =
    if (point.minus other).Bounded then .ok (point.minus other) else .error .overflow :=
  Point.coordinates_eq ..

theorem Point.add_eq_ok_iff {point other sum : Point} :
    point.add other = .ok sum ↔ (point.plus other).Bounded ∧ point.plus other = sum := by
  rw [Point.add_eq, Checked.ite_eq_ok_iff]

theorem Point.sub_eq_ok_iff {point other difference : Point} : point.sub other = .ok difference ↔
    (point.minus other).Bounded ∧ point.minus other = difference := by
  rw [Point.sub_eq, Checked.ite_eq_ok_iff]

theorem Point.neg_eq_sub (point : Point) : point.neg = Point.zero.sub point := by
  simp only [Point.neg, Point.sub, Point.zero, Int.zero_sub]

theorem Rect.shift_eq_ok_iff {rect moved : Rect} {move : Point} :
    rect.shift move = .ok moved ↔ (rect.moved move).Bounded ∧ rect.moved move = moved := by
  rw [Rect.shift_eq, Checked.ite_eq_ok_iff]

theorem Rect.place_eq_ok_iff {x y width height : Int} {rect : Rect} :
    Rect.place x y width height = .ok rect ↔
      (IsCoordinate (x + width) ∧ IsCoordinate (y + height)) ∧ ⟨x, y, x + width, y + height⟩ = rect := by
  simp only [Rect.place, Checked.bind_eq_ok, coordinate_eq_ok_iff, pure, Except.pure, Except.ok.injEq]
  constructor
  next =>
    rintro ⟨_, ⟨right, rfl⟩, _, ⟨bottom, rfl⟩, rfl⟩
    exact ⟨⟨right, bottom⟩, rfl⟩
  next =>
    rintro ⟨⟨right, bottom⟩, rfl⟩
    exact ⟨_, ⟨right, rfl⟩, _, ⟨bottom, rfl⟩, rfl⟩

namespace Frame

def desktop (frame : Frame) : Rect := frame.bounds.moved frame.info.topLeft

theorem desktop_eq (frame : Frame) : frame.desktop = ⟨frame.info.topLeft.x, frame.info.topLeft.y,
    frame.info.topLeft.x + frame.size.width, frame.info.topLeft.y + frame.size.height⟩ := by
  simp only [desktop, bounds, Rect.ofSize, Rect.moved, Rect.mk.injEq]
  omega

theorem desktop_contains (frame : Frame) (point : Point) : frame.desktop.contains point =
    frame.bounds.contains (point.minus frame.info.topLeft) := by
  rw [desktop, Rect.contains_moved, Point.minus]

def distanceTo (frame source : Frame) : Point := source.info.topLeft.minus frame.info.topLeft

def AdjustedBy (frame source : Frame) (horizontal vertical : Factor) (extra : Point) : Prop :=
  horizontal.Adds (frame.distanceTo source).x extra.x ∧
    vertical.Adds (frame.distanceTo source).y extra.y

def offsetTo (frame source : Frame) (extra : Point) : Point := (frame.distanceTo source).plus extra

theorem offsetTo_zero (frame source : Frame) : frame.offsetTo source .zero = frame.distanceTo source := by
  simp only [offsetTo, Point.plus, Point.zero, Int.add_zero]

theorem adjustedBy_iff {frame source : Frame} {horizontal vertical : Factor} {extra : Point} :
    frame.AdjustedBy source horizontal vertical extra ↔
      extra = ⟨horizontal.growth (frame.distanceTo source).x,
        vertical.growth (frame.distanceTo source).y⟩ := by
  obtain ⟨x, y⟩ := extra
  simp only [AdjustedBy, Factor.adds_iff, Point.mk.injEq]

theorem adjustedBy_one {frame source : Frame} : frame.AdjustedBy source .one .one .zero :=
  ⟨Factor.one_adds_iff.mpr rfl, Factor.one_adds_iff.mpr rfl⟩

def Overlaps (frame source : Frame) (offset point : Point) : Prop :=
  frame.bounds.contains point = true ∧ source.bounds.contains (point.minus offset) = true

-- The numbers that bring two frames together are all coordinates. Only where the frames overlap is
-- the corner of the first one negated too.
structure Meets (frame source : Frame) (extra : Point) : Prop where
  distance : (frame.distanceTo source).Bounded
  other : source.desktop.Bounded
  moved : (source.desktop.moved extra).Bounded
  offset : (frame.offsetTo source extra).Bounded
  own : frame.desktop.Bounded
  back : (∃ point, frame.Overlaps source (frame.offsetTo source extra) point) →
    (Point.zero.minus frame.info.topLeft).Bounded

structure Overlaid (frame source : Frame) (offset : Point) (store next : Store) : Prop where
  shown : ∀ point, frame.Overlaps source offset point →
    frame.view next point = source.view store (point.minus offset)
  beside : ∀ point, frame.bounds.contains point = true → ¬ frame.Overlaps source offset point →
    frame.view next point = frame.view store point
  bytes : ∀ index, (∀ point, frame.Overlaps source offset point → ¬ frame.Covers point index) →
    (next.bytes frame.buffer).byte index = (store.bytes frame.buffer).byte index
  length : (next.bytes frame.buffer).size = (store.bytes frame.buffer).size
  only : next = store ∨ ∃ bytes, next = store.setBytes frame.buffer bytes

variable {frame source : Frame} {store next : Store} {horizontal vertical : Factor} {rect : Rect}
  {extra offset : Point} {bytes : Bytes}

section Align

variable (typed : source.size.Bounded) (exact : source.size.IsExact)
  (corner : source.info.topLeft.Bounded)

include typed exact corner

theorem area_eq_ok_iff {area : Rect} :
    source.area = .ok area ↔ source.desktop.Bounded ∧ source.desktop = area := by
  have scale : source.scaleOn .current = 1 := Platform.scale_of_not_scalesPixels rfl _
  have width : logicalLength source.size.width 1 = source.size.width :=
    logicalLength_one typed.1 exact.1
  have height : logicalLength source.size.height 1 = source.size.height :=
    logicalLength_one typed.2 exact.2
  rw [Frame.area, areaOn, scale, desktopArea, width, height, Rect.place_eq_ok_iff, desktop_eq]
  exact and_congr_left' ⟨fun ⟨right, bottom⟩ => ⟨corner, right, bottom⟩, And.right⟩

theorem alignTo_eq_ok_iff {area : Rect} (adjusted : frame.AdjustedBy source horizontal vertical extra) :
    source.alignTo frame.info.topLeft horizontal vertical = .ok (offset, area) ↔
      ((frame.distanceTo source).Bounded ∧ source.desktop.Bounded ∧
        (source.desktop.moved extra).Bounded ∧ (frame.offsetTo source extra).Bounded) ∧
      offset = frame.offsetTo source extra ∧ area = source.desktop.moved extra := by
  unfold alignTo
  simp only [Checked.bind_eq_ok, Point.sub_eq_ok_iff, area_eq_ok_iff typed exact corner]
  by_cases plain : horizontal = .one ∧ vertical = .one
  next =>
    obtain ⟨rfl, rfl⟩ := plain
    obtain rfl := (adjustedBy_iff.mp adjusted).trans (adjustedBy_iff.mp adjustedBy_one).symm
    rw [offsetTo_zero, Rect.moved_zero]
    simp only [and_self, if_true, pure, Except.pure, Except.ok.injEq, Prod.mk.injEq]
    constructor
    next =>
      rintro ⟨_, ⟨distance, rfl⟩, _, ⟨within, rfl⟩, rfl, rfl⟩
      exact ⟨⟨distance, within, within, distance⟩, rfl, rfl⟩
    next =>
      rintro ⟨⟨distance, within, _, _⟩, rfl, rfl⟩
      exact ⟨_, ⟨distance, rfl⟩, _, ⟨within, rfl⟩, rfl, rfl⟩
  next =>
    obtain rfl := adjustedBy_iff.mp adjusted
    simp only [plain, if_false, Checked.bind_eq_ok, Rect.shift_eq_ok_iff, Point.add_eq_ok_iff, pure,
      Except.pure, Except.ok.injEq, Prod.mk.injEq]
    constructor
    next =>
      rintro ⟨_, ⟨distance, rfl⟩, _, ⟨within, rfl⟩, _, ⟨moved, rfl⟩, _, ⟨offset, rfl⟩, rfl, rfl⟩
      exact ⟨⟨distance, within, moved, offset⟩, rfl, rfl⟩
    next =>
      rintro ⟨⟨distance, within, moved, offset⟩, rfl, rfl⟩
      exact ⟨_, ⟨distance, rfl⟩, _, ⟨within, rfl⟩, _, ⟨moved, rfl⟩, _, ⟨offset, rfl⟩, rfl, rfl⟩

theorem Meets.alignTo_eq (meets : frame.Meets source extra)
    (adjusted : frame.AdjustedBy source horizontal vertical extra) :
    source.alignTo frame.info.topLeft horizontal vertical =
      .ok (frame.offsetTo source extra, source.desktop.moved extra) :=
  (alignTo_eq_ok_iff typed exact corner adjusted).mpr
    ⟨⟨meets.distance, meets.other, meets.moved, meets.offset⟩, rfl, rfl⟩

end Align

def overlapWith (frame source : Frame) (extra : Point) : Rect :=
  ((source.desktop.moved extra).meet frame.desktop).moved
    (Point.zero.minus frame.info.topLeft)

theorem contains_overlapWith {point : Point} :
    (frame.overlapWith source extra).contains point = true ↔
      frame.Overlaps source (frame.offsetTo source extra) point := by
  rw [overlapWith, Rect.contains_moved, Rect.contains_meet, Rect.contains_moved, Bool.and_eq_true]
  simp only [desktop, Rect.contains_moved, Overlaps, bounds_contains_iff, Point.minus, Point.zero,
    offsetTo, distanceTo, Point.plus]
  omega

theorem overlapWith_isEmpty : (frame.overlapWith source extra).isEmpty =
    ((source.desktop.moved extra).meet frame.desktop).isEmpty := by
  rw [overlapWith, Rect.moved_isEmpty]

section Solid

variable (solid : (frame.overlapWith source extra).isEmpty = false)

include solid

theorem overlapWith_eq : frame.overlapWith source extra =
    ⟨max (frame.offsetTo source extra).x 0,
      max (frame.offsetTo source extra).y 0,
      min ((frame.offsetTo source extra).x + source.size.width) frame.size.width,
      min ((frame.offsetTo source extra).y + source.size.height) frame.size.height⟩ := by
  rw [overlapWith_isEmpty] at solid
  unfold Rect.meet at solid
  split at solid
  next => cases solid
  next apart =>
    unfold overlapWith Rect.meet
    rw [if_neg apart]
    simp only [Rect.overlap, Rect.moved, desktop, bounds, Rect.ofSize, Point.minus, Point.zero,
      offsetTo, distanceTo, Point.plus, Rect.mk.injEq]
    omega

theorem overlapWith_encloses :
    frame.bounds.encloses (frame.overlapWith source extra) = true ∧
      source.bounds.encloses ((frame.overlapWith source extra).moved
        (Point.zero.minus (frame.offsetTo source extra))) = true := by
  rw [bounds_encloses_iff, bounds_encloses_iff, overlapWith_eq solid]
  simp only [Rect.moved, Point.minus, Point.zero]
  omega

theorem overlapWith_topLeft : ((frame.overlapWith source extra).moved
    (Point.zero.minus (frame.offsetTo source extra))).topLeft =
      ⟨max (-(frame.offsetTo source extra).x) 0,
        max (-(frame.offsetTo source extra).y) 0⟩ := by
  rw [overlapWith_eq solid]
  simp only [Rect.moved, Rect.topLeft, Point.minus, Point.zero, Point.mk.injEq]
  omega

theorem overlapWith_bounded (fits : frame.Fits store) (sourceFits : source.Fits store)
    (reached : (frame.offsetTo source extra).Bounded) :
    (frame.overlapWith source extra).Bounded ∧
      IsCoordinate (-(frame.offsetTo source extra).x) ∧
      IsCoordinate (-(frame.offsetTo source extra).y) := by
  have ordered := (Rect.isEmpty_eq_false_iff _).mp solid
  have width := fits.width
  have height := fits.height
  have sourceWidth := sourceFits.width
  have sourceHeight := sourceFits.height
  rw [overlapWith_eq solid] at ordered ⊢
  simp only [IsCoordinate] at width height sourceWidth sourceHeight
  simp only [Point.Bounded, Rect.Bounded, IsCoordinate] at reached ordered ⊢
  omega

end Solid

section Copy

variable (fits : frame.Fits store) (solid : rect.isEmpty = false)
  (inside : frame.bounds.encloses rect = true) (writable : frame.isWritable store = true)

include fits solid inside writable

theorem copyRows_eq {plane : Plane}
    (room : plane.HasRoom (rect.right - rect.left).toNat (rect.bottom - rect.top).toNat) : ∃ bytes,
    frame.copyRows plane rect store = .ok (store.setBytes frame.buffer bytes) ∧
      Drawn plane (frame.corner store rect.topLeft) Prod.mk
        (fun x y => x < (rect.right - rect.left).toNat ∧ y < (rect.bottom - rect.top).toNat) bytes := by
  have ordered := (Rect.isEmpty_eq_false_iff _).mp solid
  have edges := bounds_encloses_iff.mp inside
  have targetRoom := fits.corner_hasRoom inside solid
  have wide : rect.width = .ok (rect.right - rect.left) := by
    have range := fits.width.2
    exact coordinate_of_isCoordinate (by unfold IsCoordinate at range ⊢; omega)
  have high : rect.height = .ok (rect.bottom - rect.top) := by
    have range := fits.height.2
    exact coordinate_of_isCoordinate (by unfold IsCoordinate at range ⊢; omega)
  have short : address ((rect.right - rect.left).toNat * bytesPerPixel) =
      .ok ((rect.right - rect.left).toNat * bytesPerPixel) := by
    have ends := targetRoom.1
    have limit := targetRoom.2
    exact address_eq_ok_iff.mpr ⟨by omega, rfl⟩
  have apart : (rect.right - rect.left).toNat * bytesPerPixel ≤ frame.stride := by
    have rows := fits.rows
    simp only [rowBytes, Size.rowBytes, bytesPerPixel] at rows ⊢
    omega
  obtain ⟨bytes, copied, drawn⟩ := Plane.copyRows_draws room targetRoom (.inl apart)
  have put : putRows plane rect (frame.corner store rect.topLeft) = .ok bytes := by
    rw [putRows, wide, Checked.ok_bind, short, Checked.ok_bind, high, Checked.ok_bind, copied]
  refine ⟨bytes, ?_, drawn⟩
  rw [copyRows, inside, solid]
  exact fits.editAt_eq (Rect.contains_of_encloses inside (contains_topLeft solid)) writable put

theorem copyPixels_eq {move : Point} (sourceFits : source.Fits store)
    (sourceInside : source.bounds.encloses (rect.moved move) = true) : ∃ bytes,
    frame.copyPixels source (rect.moved move).topLeft rect store =
        .ok (store.setBytes frame.buffer bytes) ∧
      Drawn (source.corner store (rect.moved move).topLeft) (frame.corner store rect.topLeft) Prod.mk
        (fun x y => x < (rect.right - rect.left).toNat ∧ y < (rect.bottom - rect.top).toNat) bytes := by
  have moved := (rect.moved_isEmpty move).trans solid
  have room := sourceFits.corner_hasRoom sourceInside moved
  have first := Rect.contains_of_encloses sourceInside (contains_topLeft moved)
  simp only [Rect.moved, Int.add_sub_add_right] at room
  rw [copyPixels, sourceFits.planeAt_eq first, Checked.ok_bind]
  exact copyRows_eq fits solid inside writable room

end Copy

theorem overlaid_self (none : ∀ point, ¬ frame.Overlaps source offset point) :
    Overlaid frame source offset store store :=
  ⟨fun point common => absurd common (none point), fun _ _ _ => rfl, fun _ _ => rfl, rfl, .inl rfl⟩

theorem overlaid_of_drawn (fits : frame.Fits store) (inside : frame.bounds.encloses rect = true)
    (solid : rect.isEmpty = false)
    (common : ∀ point, rect.contains point = true ↔ frame.Overlaps source offset point)
    (drawn : Drawn (source.corner store (rect.moved (Point.zero.minus offset)).topLeft)
      (frame.corner store rect.topLeft) Prod.mk
      (fun x y => x < (rect.right - rect.left).toNat ∧ y < (rect.bottom - rect.top).toNat) bytes)
    (sourceInside : source.bounds.encloses (rect.moved (Point.zero.minus offset)) = true) :
    Overlaid frame source offset store (store.setBytes frame.buffer bytes) := by
  have edges := bounds_encloses_iff.mp inside
  have sourceEdges := bounds_encloses_iff.mp sourceInside
  have same : (store.setBytes frame.buffer bytes).bytes frame.buffer = bytes :=
    fits.bytes_setBytes (isEmpty_of_encloses inside solid) bytes
  have place (x y : Nat) : (frame.corner store rect.topLeft).cell x y =
      frame.place ⟨rect.left + x, rect.top + y⟩ := frame.cell_corner store edges.1.1 edges.2.1 x y
  have untouched (index : Nat)
      (none : ∀ point, frame.Overlaps source offset point → ¬ frame.Covers point index) :
      bytes.byte index = (store.bytes frame.buffer).byte index := by
    refine drawn.kept index fun x y member covers => ?_
    rw [Plane.Covers, place] at covers
    refine none ⟨rect.left + x, rect.top + y⟩ ((common _).mp ?_) covers
    rw [Rect.contains_iff]
    dsimp only
    omega
  refine ⟨?_, ?_, ?_, ?_, .inr ⟨bytes, rfl⟩⟩
  next =>
    intro point overlaps
    have within := (Rect.contains_iff _ _).mp ((common point).mpr overlaps)
    obtain ⟨x, across⟩ := Int.eq_ofNat_of_zero_le (show 0 ≤ point.x - rect.left by omega)
    obtain ⟨y, down⟩ := Int.eq_ofNat_of_zero_le (show 0 ≤ point.y - rect.top by omega)
    have spot : point = ⟨rect.left + x, rect.top + y⟩ := by
      obtain ⟨px, py⟩ := point
      simp only [Point.mk.injEq] at across down ⊢
      omega
    have taken := drawn.taken x y ⟨by omega, by omega⟩
    rw [place, source.pixel_corner store sourceEdges.1.1 sourceEdges.2.1, ← spot] at taken
    refine (congrArg (fun bytes => Bytes.color bytes (frame.place point)) same).trans (taken.trans ?_)
    congr 1
    rw [spot]
    simp only [Rect.moved, Rect.topLeft, Point.minus, Point.zero, Point.mk.injEq]
    omega
  next =>
    intro point known apart
    refine (Bytes.color_eq_iff _ _ _ _).mpr fun step below => ?_
    refine (congrArg (fun bytes => Bytes.byte bytes _) same).trans (untouched _ ?_)
    intro other member covers
    have equal := fits.covers_unique known member.1
      ⟨Nat.le_add_right _ _, Nat.add_lt_add_left below _⟩ covers
    exact apart (equal ▸ member)
  next =>
    intro index none
    rw [same]
    exact untouched index none
  next =>
    rw [same]
    exact drawn.size

section Outcome

variable (fits : frame.Fits store) (sourceFits : source.Fits store)
  (exact : frame.size.IsExact) (sourceExact : source.size.IsExact)
  (corner : frame.info.topLeft.Bounded) (sourceCorner : source.info.topLeft.Bounded)
  (adjusted : frame.AdjustedBy source horizontal vertical extra)

include fits sourceFits exact sourceExact corner sourceCorner adjusted

theorem copyOverlap_eq_ok {answer : Bool}
    (ran : frame.copyOverlap source horizontal vertical store = .ok (answer, next)) :
    frame.Meets source extra := by
  unfold copyOverlap at ran
  obtain ⟨⟨offset, area⟩, aligned, ran⟩ := Checked.bind_eq_ok.mp ran
  obtain ⟨own, placed, ran⟩ := Checked.bind_eq_ok.mp ran
  obtain ⟨⟨distance, other, moved, reached⟩, rfl, rfl⟩ := (alignTo_eq_ok_iff
    ⟨sourceFits.width.2, sourceFits.height.2⟩ sourceExact sourceCorner adjusted).mp aligned
  obtain ⟨bounded, rfl⟩ := (area_eq_ok_iff ⟨fits.width.2, fits.height.2⟩ exact corner).mp placed
  refine ⟨distance, other, moved, reached, bounded, ?_⟩
  rintro ⟨point, common⟩
  dsimp only at ran
  split at ran
  next hollow =>
    rw [← overlapWith_isEmpty] at hollow
    have none := Rect.contains_of_isEmpty hollow point
    rw [← Bool.not_eq_true, contains_overlapWith] at none
    exact absurd common none
  next =>
    obtain ⟨back, turned, _⟩ := Checked.bind_eq_ok.mp ran
    rw [Point.neg_eq_sub] at turned
    exact (Point.sub_eq_ok_iff.mp turned).1

theorem copyOverlap_apart (meets : frame.Meets source extra)
    (hollow : (frame.overlapWith source extra).isEmpty = true) :
    frame.copyOverlap source horizontal vertical store = .ok (false, store) := by
  have aligned :=
      meets.alignTo_eq ⟨sourceFits.width.2, sourceFits.height.2⟩ sourceExact sourceCorner adjusted
  have placed := (area_eq_ok_iff ⟨fits.width.2, fits.height.2⟩ exact corner).mpr ⟨meets.own, rfl⟩
  simp only [copyOverlap, aligned, placed, Checked.ok_bind, ← overlapWith_isEmpty, hollow, if_true]
  rfl

theorem copyOverlap_eq (writable : frame.isWritable store = true)
    (meets : frame.Meets source extra) : ∃ answer next,
      frame.copyOverlap source horizontal vertical store = .ok (answer, next) ∧
        (answer = true ↔
          ∃ point, frame.Overlaps source (frame.offsetTo source extra) point) ∧
        Overlaid frame source (frame.offsetTo source extra) store next := by
  cases hollow : (frame.overlapWith source extra).isEmpty with
  | true =>
    have none (point : Point) :
        ¬ frame.Overlaps source (frame.offsetTo source extra) point := by
      rw [← contains_overlapWith, Rect.contains_of_isEmpty hollow]
      exact Bool.false_ne_true
    exact ⟨false, store,
      copyOverlap_apart fits sourceFits exact sourceExact corner sourceCorner adjusted meets hollow,
      by simpa using none, overlaid_self none⟩
  | false =>
    have aligned :=
      meets.alignTo_eq ⟨sourceFits.width.2, sourceFits.height.2⟩ sourceExact sourceCorner adjusted
    have placed := (area_eq_ok_iff ⟨fits.width.2, fits.height.2⟩ exact corner).mpr ⟨meets.own, rfl⟩
    obtain ⟨inside, sourceInside⟩ := overlapWith_encloses hollow
    obtain ⟨bounded, across, down⟩ := overlapWith_bounded hollow fits sourceFits meets.offset
    have first := contains_overlapWith.mp (contains_topLeft hollow)
    have back : frame.info.topLeft.neg = .ok (Point.zero.minus frame.info.topLeft) := by
      rw [Point.neg_eq_sub, Point.sub_eq_ok_iff]
      exact ⟨meets.back ⟨_, first⟩, rfl⟩
    have target : ((source.desktop.moved extra).meet
        frame.desktop).shift (Point.zero.minus frame.info.topLeft) =
          .ok (frame.overlapWith source extra) :=
      Rect.shift_eq_ok_iff.mpr ⟨bounded, rfl⟩
    obtain ⟨bytes, copied, drawn⟩ := copyPixels_eq fits hollow inside writable sourceFits sourceInside
    rw [overlapWith_topLeft hollow] at copied
    refine ⟨true, store.setBytes frame.buffer bytes, ?_, ⟨fun _ => ⟨_, first⟩, fun _ => rfl⟩, ?_⟩
    next =>
      simp only [copyOverlap, aligned, placed, ← overlapWith_isEmpty, hollow, back, target,
        coordinate_of_isCoordinate across, coordinate_of_isCoordinate down, copied, Checked.ok_bind,
        Bool.false_eq_true, if_false]
      rfl
    next =>
      exact overlaid_of_drawn fits inside hollow (fun _ => contains_overlapWith) drawn sourceInside

omit adjusted in
theorem copyOverlap_exact (writable : frame.isWritable store = true) (horizontal vertical : Factor) :
    (∃ extra, (∀ other, frame.AdjustedBy source horizontal vertical other ↔ other = extra) ∧
      ((∃ result, frame.copyOverlap source horizontal vertical store = .ok result) ↔
        frame.Meets source extra) ∧
      ∀ answer next, frame.copyOverlap source horizontal vertical store = .ok (answer, next) →
        (answer = true ↔ ∃ point, frame.Overlaps source (frame.offsetTo source extra) point) ∧
        Overlaid frame source (frame.offsetTo source extra) store next) ∧
    ∀ distance added, Factor.one.Adds distance added ↔ added = 0 := by
  refine ⟨⟨_, fun other => adjustedBy_iff, ⟨?_, fun meets => ?_⟩, fun answer next ran => ?_⟩,
    fun _ _ => Factor.one_adds_iff⟩
  next =>
    rintro ⟨⟨answer, next⟩, ran⟩
    exact copyOverlap_eq_ok fits sourceFits exact sourceExact corner sourceCorner
      (adjustedBy_iff.mpr rfl) ran
  next =>
    obtain ⟨answer, next, ran, _⟩ := copyOverlap_eq fits sourceFits exact sourceExact corner
      sourceCorner (adjustedBy_iff.mpr rfl) writable meets
    exact ⟨_, ran⟩
  next =>
    have meets := copyOverlap_eq_ok fits sourceFits exact sourceExact corner sourceCorner
      (adjustedBy_iff.mpr rfl) ran
    obtain ⟨_, _, ran', outcome⟩ := copyOverlap_eq fits sourceFits exact sourceExact corner
      sourceCorner (adjustedBy_iff.mpr rfl) writable meets
    cases ran.symm.trans ran'
    exact outcome

end Outcome

def paired : Store :=
  ((Store.empty.addBuffer .heap (Bytes.zeros 24)).2.addBuffer .heap (Array.replicate 16 7)).2

def placed (size : Size) (buffer : BufferId) (topLeft : Point) : Frame :=
  { onBuffer size size.rowBytes buffer with info := { FrameInfo.unset with topLeft } }

theorem placed_fits (topLeft other : Point) :
    (placed ⟨3, 2⟩ 0 topLeft).Fits paired ∧ (placed ⟨2, 2⟩ 1 other).Fits paired := by
  have fits : (placed ⟨3, 2⟩ 0 .zero).Fits paired :=
    ⟨by decide, by decide, by decide, by decide, by decide⟩
  have otherFits : (placed ⟨2, 2⟩ 1 .zero).Fits paired :=
    ⟨by decide, by decide, by decide, by decide, by decide⟩
  exact ⟨{ fits with }, { otherFits with }⟩

theorem placed_isExact (topLeft other : Point) :
    (placed ⟨3, 2⟩ 0 topLeft).size.IsExact ∧ (placed ⟨2, 2⟩ 1 other).size.IsExact := by
  have three : IsSingle 3 := isSingle_of_le (by decide)
  have two : IsSingle 2 := isSingle_of_le (by decide)
  exact ⟨⟨three, two⟩, two, two⟩

theorem adjustedBy_halves : (placed ⟨3, 2⟩ 0 .zero).AdjustedBy (placed ⟨2, 2⟩ 1 ⟨1, -1⟩)
    (.finite (3 / 2)) (.finite (1 / 2)) ⟨1, 1⟩ := by
  have half : IsWhole (1 / 2) 1 := ⟨by norm_num, by norm_num⟩
  constructor
  next =>
    apply Factor.adds_of_hasDigits 1
    next => exact ⟨1, -1, by decide, by norm_num⟩
    next => exact ⟨1, -1, by decide, by norm_num [distanceTo, placed, Point.minus, Point.zero]⟩
    next =>
      convert half using 1
      norm_num [distanceTo, placed, Point.minus, Point.zero]
  next =>
    apply Factor.adds_of_hasDigits 1
    next => exact ⟨-1, -1, by decide, by norm_num⟩
    next => exact ⟨1, -1, by decide, by norm_num [distanceTo, placed, Point.minus, Point.zero]⟩
    next =>
      convert half using 1
      norm_num [distanceTo, placed, Point.minus, Point.zero]

theorem copyOverlap_exact_of_halves : ∃ frame source extra next,
    (frame = placed ⟨3, 2⟩ 0 .zero ∧ source = placed ⟨2, 2⟩ 1 ⟨1, -1⟩) ∧
    (frame.Fits paired ∧ source.Fits paired ∧ frame.size.IsExact ∧ source.size.IsExact ∧
      frame.info.topLeft.Bounded ∧ source.info.topLeft.Bounded ∧ frame.isWritable paired = true) ∧
    frame.AdjustedBy source (.finite (3 / 2)) (.finite (1 / 2)) extra ∧
    frame.offsetTo source extra = ⟨2, 0⟩ ∧
    frame.copyOverlap source (.finite (3 / 2)) (.finite (1 / 2)) paired = .ok (true, next) ∧
    Overlaid frame source ⟨2, 0⟩ paired next := by
  obtain ⟨fits, sourceFits⟩ := placed_fits .zero ⟨1, -1⟩
  obtain ⟨exact, sourceExact⟩ := placed_isExact .zero ⟨1, -1⟩
  obtain ⟨⟨extra, adjusted, returns, outcome⟩, _⟩ := copyOverlap_exact fits sourceFits exact sourceExact
    (by decide) (by decide) rfl (.finite (3 / 2)) (.finite (1 / 2))
  obtain rfl := (adjusted _).mp adjustedBy_halves
  have meets : (placed ⟨3, 2⟩ 0 .zero).Meets (placed ⟨2, 2⟩ 1 ⟨1, -1⟩) ⟨1, 1⟩ :=
    ⟨by decide, by decide, by decide, by decide, by decide, fun _ => by decide⟩
  obtain ⟨⟨answer, next⟩, ran⟩ := returns.mpr meets
  obtain ⟨answered, overlaid⟩ := outcome answer next ran
  have yes : answer = true := answered.mpr ⟨⟨2, 0⟩, by decide, by decide⟩
  exact ⟨_, _, _, next, ⟨rfl, rfl⟩,
    ⟨fits, sourceFits, exact, sourceExact, by decide, by decide, rfl⟩, adjustedBy_halves, rfl,
    yes ▸ ran, overlaid⟩

end Frame

end ScreenCapture
