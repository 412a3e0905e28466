import ScreenCapture.Proofs.Crop.Nesting
import ScreenCapture.Proofs.Pixels.Repaint

set_option autoImplicit false

namespace ScreenCapture

namespace Pattern

variable {pattern : Pattern} {frame : Frame} {store next : Store} {screen : Size} {sequence : Nat}
  {block : Rect} {changed : Region}

structure Reaches (pattern : Pattern) (sequence : Nat) : Prop where
  width : 0 ≤ pattern.block.width
  height : 0 ≤ pattern.block.height
  bounded : pattern.block.Bounded
  forward : 0 ≤ pattern.step
  counted : (sequence : Int) * pattern.step ≤ 9223372036854775807

def cornerAt (pattern : Pattern) (screen : Size) (sequence : Nat) : Point :=
  let moved := (sequence : Int) * pattern.step
  ⟨moved % max (screen.width - pattern.block.width) 1,
    moved / 2 % max (screen.height - pattern.block.height) 1⟩

def blockFrom (pattern : Pattern) (corner : Point) : Rect :=
  ⟨corner.x, corner.y, corner.x + pattern.block.width, corner.y + pattern.block.height⟩

theorem blockFrom_size (bounded : pattern.block.Bounded) (corner : Point) :
    (pattern.blockFrom corner).size = .ok pattern.block := by
  simp only [Rect.size, Rect.width, Rect.height, blockFrom, add_sub_cancel_left]
  rw [coordinate_of_isCoordinate bounded.1, Checked.ok_bind, coordinate_of_isCoordinate bounded.2]
  rfl

theorem span_eq {available needed : Int} (free : 0 ≤ available ∧ IsCoordinate available)
    (taken : 0 ≤ needed ∧ IsCoordinate needed) :
    span available needed = .ok (max (available - needed) 1) := by
  have rest : coordinate (available - needed) = .ok (available - needed) :=
    coordinate_of_isCoordinate (by unfold IsCoordinate at free taken ⊢; omega)
  rw [span, rest, Checked.ok_bind]
  rfl

theorem cornerAt_bounds (pattern : Pattern) (screen : Size) (sequence : Nat) :
    (0 ≤ (pattern.cornerAt screen sequence).x ∧
      (pattern.cornerAt screen sequence).x < max (screen.width - pattern.block.width) 1) ∧
    0 ≤ (pattern.cornerAt screen sequence).y ∧
      (pattern.cornerAt screen sequence).y < max (screen.height - pattern.block.height) 1 := by
  have across : 0 < max (screen.width - pattern.block.width) 1 := by omega
  have down : 0 < max (screen.height - pattern.block.height) 1 := by omega
  exact ⟨⟨Int.emod_nonneg _ (by omega), Int.emod_lt_of_pos _ across⟩,
    Int.emod_nonneg _ (by omega), Int.emod_lt_of_pos _ down⟩

section Reaches

variable (reaches : pattern.Reaches sequence)

include reaches

theorem Reaches.before {number : Nat} (upTo : number ≤ sequence) : pattern.Reaches number := by
  refine { reaches with counted := Int.le_trans ?_ reaches.counted }
  exact Int.mul_le_mul_of_nonneg_right (Int.ofNat_le.mpr upTo) reaches.forward

-- A number past the signed range can only occur with a block that does not move.
theorem distance_eq : pattern.distance sequence = .ok ((sequence : Int) * pattern.step) := by
  have counted := reaches.counted
  have positive := Int.mul_nonneg (Int.natCast_nonneg sequence) reaches.forward
  have moved : (sequence : Int).bmod addressLimit * pattern.step = (sequence : Int) * pattern.step := by
    rcases Int.lt_or_eq_of_le reaches.forward with moves | still
    next =>
      have few : (sequence : Int) * 1 ≤ (sequence : Int) * pattern.step :=
        Int.mul_le_mul_of_nonneg_left moves (Int.natCast_nonneg sequence)
      rw [Int.bmod_eq_of_le]
      all_goals
        unfold addressLimit
        omega
    next => rw [← still, Int.mul_zero, Int.mul_zero]
  rw [distance, moved]
  exact travel_eq_ok_iff.mpr ⟨by unfold IsTravel; omega, rfl⟩

variable (proper : 0 ≤ screen.width ∧ 0 ≤ screen.height) (bounded : screen.Bounded)

include proper bounded

theorem blockAt_eq : pattern.blockAt screen sequence =
    .ok ((pattern.blockFrom (pattern.cornerAt screen sequence)).meet (.ofSize screen)) := by
  have ahead := Int.mul_nonneg (Int.natCast_nonneg sequence) reaches.forward
  have width := reaches.width
  have height := reaches.height
  obtain ⟨narrow, low⟩ := reaches.bounded
  obtain ⟨wide, high⟩ := bounded
  have across : ((sequence : Int) * pattern.step).tmod (max (screen.width - pattern.block.width) 1) =
      (pattern.cornerAt screen sequence).x := Int.tmod_eq_emod_of_nonneg ahead
  have down : (((sequence : Int) * pattern.step).tdiv 2).tmod
      (max (screen.height - pattern.block.height) 1) = (pattern.cornerAt screen sequence).y := by
    rw [Int.tdiv_eq_ediv_of_nonneg ahead, Int.tmod_eq_emod_of_nonneg (by omega)]
    rfl
  rw [blockAt, span_eq ⟨proper.1, wide⟩ ⟨width, narrow⟩, Checked.ok_bind,
    span_eq ⟨proper.2, high⟩ ⟨height, low⟩, Checked.ok_bind, distance_eq reaches, Checked.ok_bind,
    across, down, Rect.place]
  obtain ⟨⟨left, right⟩, top, bottom⟩ := pattern.cornerAt_bounds screen sequence
  unfold IsCoordinate at wide high narrow low
  rw [coordinate_of_isCoordinate (by unfold IsCoordinate; omega), Checked.ok_bind,
    coordinate_of_isCoordinate (by unfold IsCoordinate; omega)]
  rfl

end Reaches

section Frames

variable (layout : frame.Layout store) (reaches : pattern.Reaches sequence)

include layout reaches

theorem blockAt_answers : pattern.blockAt frame.size sequence =
    .ok ((Rect.ofSize frame.size).meet (pattern.blockFrom (pattern.cornerAt frame.size sequence))) := by
  rw [Rect.meet_comm]
  exact blockAt_eq reaches ⟨layout.width.1, layout.height.1⟩ ⟨layout.width.2, layout.height.2⟩

theorem blockAt_eq_zero (hollow : pattern.block.isEmpty = true)
    (found : pattern.blockAt frame.size sequence = .ok block) : block = .zero := by
  rw [blockAt_answers layout reaches] at found
  have none : (pattern.blockFrom (pattern.cornerAt frame.size sequence)).isEmpty = true := by
    rw [Size.isEmpty_iff] at hollow
    rw [Rect.isEmpty_iff]
    simp only [blockFrom]
    omega
  cases found
  rcases Rect.meet_cases (Rect.ofSize frame.size) (pattern.blockFrom (pattern.cornerAt frame.size sequence)) with
    zero | ⟨solid, _⟩
  next => exact zero
  next => exact absurd (solid.symm.trans (Rect.meet_of_isEmpty none)) Bool.false_ne_true

theorem blockAt_size (solid : pattern.block.isEmpty = false)
    (room : pattern.block.width ≤ frame.size.width ∧ pattern.block.height ≤ frame.size.height)
    (found : pattern.blockAt frame.size sequence = .ok block) : block.size = .ok pattern.block := by
  rw [blockAt_answers layout reaches] at found
  obtain ⟨⟨left, right⟩, top, bottom⟩ := pattern.cornerAt_bounds frame.size sequence
  have full : (pattern.blockFrom (pattern.cornerAt frame.size sequence)).isEmpty = false := by
    rw [Size.isEmpty_eq_false_iff] at solid
    rw [Rect.isEmpty_eq_false_iff]
    simp only [blockFrom]
    omega
  have inside : (Rect.ofSize frame.size).encloses
      (pattern.blockFrom (pattern.cornerAt frame.size sequence)) = true := by
    rw [Rect.encloses_iff]
    simp only [Rect.ofSize, blockFrom]
    omega
  rw [Rect.meet_of_encloses full inside] at found
  cases found
  exact blockFrom_size reaches.bounded _

end Frames

theorem paint_shows (fits : frame.Fits store)
    (painted : pattern.paint frame sequence store = .ok (changed, next))
    (found : pattern.blockAt frame.size sequence = .ok block) {point : Point}
    (inside : frame.bounds.contains point = true) :
    frame.view next point = if block.contains point then color else .blank := by
  obtain ⟨block', found', _, shown, _⟩ := paint_eq_ok fits (Frame.isEmpty_of_contains inside) painted
  cases found.symm.trans found'
  exact shown point inside

def WasAt (pattern : Pattern) (screen : Size) (sequence : Nat) (point : Point) : Prop :=
  ∃ before old, sequence = before + 1 ∧ pattern.blockAt screen before = .ok old ∧
    old.contains point = true

theorem paint_changed (painted : pattern.paint frame sequence store = .ok (changed, next))
    (found : pattern.blockAt frame.size sequence = .ok block) :
    changed.Canonical ∧ ∀ point, changed.contains point = true ↔
      block.contains point = true ∨ pattern.WasAt frame.size sequence point := by
  obtain ⟨_, _, painted⟩ := Checked.bind_eq_ok.mp painted
  obtain ⟨block', found', painted⟩ := Checked.bind_eq_ok.mp painted
  cases found.symm.trans found'
  obtain ⟨_, _, painted⟩ := Checked.bind_eq_ok.mp painted
  cases sequence with
  | zero =>
    cases painted
    refine ⟨Region.ofRect_canonical block, fun point => ?_⟩
    rw [Region.contains_ofRect, WasAt]
    simp
  | succ before =>
    obtain ⟨old, earlier, painted⟩ := Checked.bind_eq_ok.mp painted
    cases painted
    refine ⟨Region.insert_canonical (Region.ofRect_canonical block) old, fun point => ?_⟩
    rw [Region.contains_insert, Region.contains_ofRect, Bool.or_eq_true, WasAt]
    refine or_congr_right ⟨fun contained => ⟨before, old, rfl, earlier, contained⟩, ?_⟩
    rintro ⟨_, old', same, earlier', contained⟩
    cases same
    cases earlier.symm.trans earlier'
    exact contained

theorem paint_exact (layout : frame.Layout store) (writable : frame.isWritable store = true)
    (reaches : pattern.Reaches sequence) :
    ∃ block changed next, pattern.blockAt frame.size sequence = .ok block ∧
      pattern.paint frame sequence store = .ok (changed, next) ∧
      frame.bounds.encloses block = true ∧
      (pattern.block.isEmpty = true → block = .zero) ∧
      (pattern.block.isEmpty = false → pattern.block.width ≤ frame.size.width →
        pattern.block.height ≤ frame.size.height → block.size = .ok pattern.block) ∧
      (∀ point, frame.bounds.contains point = true →
        (frame.view next point = color ↔ block.contains point = true) ∧
        (block.contains point = false → frame.view next point = .blank)) ∧
      frame.Recolored store next ∧
      changed.Canonical ∧
      (∀ point, changed.contains point = true ↔
        block.contains point = true ∨ pattern.WasAt frame.size sequence point) ∧
      ∀ before other earlier region reached, sequence = before + 1 → Frame.Layout other earlier →
        other.size = frame.size → pattern.paint other before earlier = .ok (region, reached) →
        ∀ point, frame.bounds.contains point = true →
          frame.view next point ≠ other.view reached point → changed.contains point = true := by
  have placed : ∀ number ≤ sequence, ∃ block, pattern.blockAt frame.size number = .ok block :=
    fun number upTo => ⟨_, blockAt_answers layout (reaches.before upTo)⟩
  obtain ⟨block, found⟩ := placed sequence (Nat.le_refl _)
  obtain ⟨changed, next, painted, recolored⟩ := paint_recolors layout writable placed
  obtain ⟨canonical, reported⟩ := paint_changed painted found
  have within : frame.bounds.encloses block = true := by
    rcases blockAt_eq_ok found with rfl | ⟨_, inside⟩
    next =>
      rw [Frame.bounds, Rect.encloses_iff]
      exact ⟨⟨Int.le_refl _, layout.width.1⟩, Int.le_refl _, layout.height.1⟩
    next => exact inside
  have shown (point : Point) (inside : frame.bounds.contains point = true) :=
    paint_shows layout.fits painted found inside
  refine ⟨block, changed, next, found, painted, within,
    fun hollow => blockAt_eq_zero layout reaches hollow found,
    fun solid wide high => blockAt_size layout reaches solid ⟨wide, high⟩ found,
    fun point inside => ⟨?_, fun outside => ?_⟩, recolored, canonical, reported, ?_⟩
  next =>
    rw [shown point inside, ite_eq_left_iff]
    exact ⟨fun other => by_contra fun outside => absurd (other outside) (by decide), absurd⟩
  next => rw [shown point inside, outside, if_neg Bool.false_ne_true]
  next =>
    intro before other earlier region reached later otherLayout size otherPainted point inside differs
    obtain ⟨old, known⟩ := placed before (by omega)
    have seen : other.view reached point = if old.contains point then color else .blank :=
      paint_shows otherLayout.fits otherPainted (size ▸ known) (by rw [Frame.bounds, size]; exact inside)
    rw [reported]
    by_cases here : block.contains point = true
    next => exact .inl here
    next =>
      refine .inr ⟨before, old, later, known, by_contra fun never => differs ?_⟩
      rw [shown point inside, seen, if_neg here, if_neg never]

def quietRow : Store := ⟨#[⟨.heap, #[1, 2, 3, 4, 5, 6, 7, 8, 9, 10, 11, 12, 13, 14, 15, 16, 17, 18, 19, 20]⟩], #[], #[]⟩

def pair : Pattern := ⟨⟨2, 1⟩, 1⟩

theorem paint_exact_pair : (Frame.onBuffer ⟨4, 1⟩ 20 0).Layout quietRow ∧ pair.Reaches 1 ∧
    ∃ changed next, pair.paint (.onBuffer ⟨4, 1⟩ 20 0) 1 quietRow = .ok (changed, next) ∧
      (Frame.onBuffer ⟨4, 1⟩ 20 0).view next ⟨1, 0⟩ = color ∧
      (Frame.onBuffer ⟨4, 1⟩ 20 0).view next ⟨0, 0⟩ = .blank ∧
      changed.contains ⟨0, 0⟩ = true ∧ (next.bytes 0).byte 16 = 17 := by
  have layout : (Frame.onBuffer ⟨4, 1⟩ 20 0).Layout quietRow :=
    ⟨by decide, by decide, by decide, by decide, by decide, fun _ => by decide, by decide⟩
  have reaches : pair.Reaches 1 := ⟨by decide, by decide, by decide, by decide, by decide⟩
  obtain ⟨block, changed, next, found, painted, _, _, _, shown, recolored, _, reported, _⟩ :=
    paint_exact layout rfl reaches
  have here : block = ⟨1, 0, 3, 1⟩ := Except.ok.inj (found.symm.trans (by decide))
  subst here
  have behind : ¬ (Frame.onBuffer ⟨4, 1⟩ 20 0).Visible 16 := by
    rw [Frame.visible_iff]
    rintro ⟨y, below, lower, upper⟩
    simp only [Frame.onBuffer, Frame.rowBytes, Size.rowBytes, bytesPerPixel] at below lower upper
    omega
  refine ⟨layout, reaches, changed, next, painted, (shown ⟨1, 0⟩ (by decide)).1.mpr (by decide),
    (shown ⟨0, 0⟩ (by decide)).2 (by decide), ?_, recolored.kept 16 behind⟩
  exact (reported ⟨0, 0⟩).mpr (.inr ⟨0, ⟨0, 0, 2, 1⟩, rfl, by decide, by decide⟩)

theorem blockAt_hollow : (⟨⟨0, 5⟩, 1⟩ : Pattern).Reaches 0 ∧
    (⟨⟨0, 5⟩, 1⟩ : Pattern).blockAt ⟨10, 10⟩ 0 = .ok .zero ∧ Rect.zero.size ≠ .ok ⟨0, 5⟩ :=
  ⟨⟨by decide, by decide, by decide, by decide, by decide⟩, by decide, by decide⟩

end Pattern

end ScreenCapture
