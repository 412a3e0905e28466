import Mathlib.Algebra.GroupWithZero.Nat
import Mathlib.Data.Finset.Prod
import ScreenCapture.Proofs.Region.Edits

set_option autoImplicit false

namespace ScreenCapture

namespace Rect

def cells (rect : Rect) : Finset Point :=
  (Finset.range (rect.right - rect.left).toNat ×ˢ Finset.range (rect.bottom - rect.top).toNat).image
    fun cell => ⟨rect.left + cell.1, rect.top + cell.2⟩

variable {rect other : Rect} {point : Point}

theorem mem_cells : point ∈ rect.cells ↔ rect.contains point = true := by
  rw [contains_iff]
  simp only [cells, Finset.mem_image, Finset.mem_product, Finset.mem_range]
  constructor
  next =>
    rintro ⟨cell, inside, rfl⟩
    dsimp only
    omega
  next =>
    intro inside
    refine ⟨⟨(point.x - rect.left).toNat, (point.y - rect.top).toNat⟩, by dsimp only; omega, ?_⟩
    obtain ⟨x, y⟩ := point
    rw [Point.mk.injEq]
    dsimp only at inside ⊢
    omega

theorem cells_of_isEmpty (hollow : rect.isEmpty = true) : rect.cells = ∅ := by
  ext point
  simp [mem_cells, contains_of_isEmpty hollow]

theorem card_cells : rect.cells.card =
    (rect.right - rect.left).toNat * (rect.bottom - rect.top).toNat := by
  have apart : Function.Injective
      fun cell : Nat × Nat => (⟨rect.left + cell.1, rect.top + cell.2⟩ : Point) := by
    intro first second same
    obtain ⟨across, down⟩ := Point.mk.inj same
    exact Prod.ext (by omega) (by omega)
  rw [cells, Finset.card_image_of_injective _ apart, Finset.card_product, Finset.card_range,
    Finset.card_range]

theorem card_cells_of_solid (solid : rect.isEmpty = false) :
    (rect.cells.card : Int) = (rect.right - rect.left) * (rect.bottom - rect.top) := by
  have ordered := rect.isEmpty_eq_false_iff.mp solid
  rw [card_cells, Int.natCast_mul, Int.toNat_of_nonneg (by omega), Int.toNat_of_nonneg (by omega)]

theorem disjoint_cells_iff : Disjoint rect.cells other.cells ↔
    ∀ point, rect.contains point = true → other.contains point = false := by
  simp only [Finset.disjoint_left, mem_cells, Bool.not_eq_true]

theorem Precedes.disjoint (before : rect.Precedes other) : Disjoint rect.cells other.cells := by
  refine disjoint_cells_iff.mpr fun point member => ?_
  rw [← Bool.not_eq_true]
  rw [contains_iff] at member ⊢
  omega

end Rect

namespace Region

def cells (region : Region) : Finset Point := region.rects.toFinset.biUnion Rect.cells

def FitsOn (region : Region) (size : Size) : Prop :=
  ∀ point, region.contains point = true → (Rect.ofSize size).contains point = true

def HasPoints (region : Region) (count : Nat) : Prop :=
  ∃ points : Finset Point, (∀ point, point ∈ points ↔ region.contains point = true) ∧
    points.card = count

variable {region other : Region} {rects : List Rect} {point : Point} {start total : Int}
  {size otherSize : Size}

theorem mem_cells : point ∈ region.cells ↔ region.contains point = true := by
  simp only [cells, Finset.mem_biUnion, List.mem_toFinset, Rect.mem_cells, contains_iff]

theorem foldlM_addArea_eq_ok (added : rects.foldlM addArea start = .ok total)
    (solid : ∀ rect ∈ rects, rect.isEmpty = false) :
    total = start + (rects.map fun rect => rect.cells.card).sum := by
  induction rects generalizing start with
  | nil =>
    cases added
    simp
  | cons rect rest ih =>
    obtain ⟨middle, first, added⟩ := Checked.bind_eq_ok.mp added
    obtain ⟨width, wide, first⟩ := Checked.bind_eq_ok.mp first
    obtain ⟨height, high, first⟩ := Checked.bind_eq_ok.mp first
    obtain ⟨area, measured, first⟩ := Checked.bind_eq_ok.mp first
    obtain ⟨_, rfl⟩ := coordinate_eq_ok_iff.mp wide
    obtain ⟨_, rfl⟩ := coordinate_eq_ok_iff.mp high
    obtain ⟨_, rfl⟩ := travel_eq_ok_iff.mp measured
    obtain ⟨_, rfl⟩ := travel_eq_ok_iff.mp first
    rw [ih added fun other member => solid other (.tail _ member), List.map_cons, List.sum_cons,
      Int.natCast_add, Rect.card_cells_of_solid (solid rect (.head _)), add_assoc]

theorem foldlM_addArea_answers (solid : ∀ rect ∈ rects, rect.isEmpty = false)
    (narrow : ∀ rect ∈ rects, IsCoordinate (rect.right - rect.left) ∧
      IsCoordinate (rect.bottom - rect.top)) (started : 0 ≤ start)
    (room : start + ((rects.map fun rect => rect.cells.card).sum : Nat) ≤ 9223372036854775807) :
    ∃ total, rects.foldlM addArea start = .ok total := by
  induction rects generalizing start with
  | nil => exact ⟨start, rfl⟩
  | cons rect rest ih =>
    have ⟨wide, high⟩ := narrow rect (.head _)
    have card := Rect.card_cells_of_solid (solid rect (.head _))
    rw [List.map_cons, List.sum_cons, Int.natCast_add] at room
    have area : travel ((rect.right - rect.left) * (rect.bottom - rect.top)) =
        .ok (rect.cells.card : Int) := travel_eq_ok_iff.mpr ⟨by unfold IsTravel; omega, card.symm⟩
    have sum : travel (start + (rect.cells.card : Int)) = .ok (start + (rect.cells.card : Int)) :=
      travel_eq_ok_iff.mpr ⟨by unfold IsTravel; omega, rfl⟩
    rw [List.foldlM_cons, addArea, Rect.width, coordinate_of_isCoordinate wide, Checked.ok_bind,
      Rect.height, coordinate_of_isCoordinate high, Checked.ok_bind, area, Checked.ok_bind, sum,
      Checked.ok_bind]
    exact ih (fun other member => solid other (.tail _ member))
      (fun other member => narrow other (.tail _ member)) (by omega) (by omega)

theorem card_biUnion_cells (ordered : rects.Pairwise Rect.Precedes) :
    (rects.toFinset.biUnion Rect.cells).card = (rects.map fun rect => rect.cells.card).sum := by
  induction rects with
  | nil => simp
  | cons rect rest ih =>
    obtain ⟨before, ordered⟩ := List.pairwise_cons.mp ordered
    have apart : Disjoint rect.cells (rest.toFinset.biUnion Rect.cells) := by
      rw [Finset.disjoint_biUnion_right]
      intro other member
      rw [List.mem_toFinset] at member
      exact (before other member).disjoint
    rw [List.toFinset_cons, Finset.biUnion_insert, Finset.card_union_of_disjoint apart, ih ordered,
      List.map_cons, List.sum_cons]

theorem area_eq_ok (canonical : region.Canonical) (measured : region.area = .ok total) :
    total = region.cells.card := by
  rw [foldlM_addArea_eq_ok measured canonical.solid, cells, card_biUnion_cells canonical.ordered,
    zero_add]

theorem hasPoints_cells (region : Region) : region.HasPoints region.cells.card :=
  ⟨region.cells, fun _ => mem_cells, rfl⟩

theorem cells_union : (region.union other).cells = region.cells ∪ other.cells := by
  ext point
  rw [Finset.mem_union, mem_cells, mem_cells, mem_cells, contains_union, Bool.or_eq_true]

theorem cells_inter : (region.inter other).cells = region.cells ∩ other.cells := by
  ext point
  rw [Finset.mem_inter, mem_cells, mem_cells, mem_cells, contains_inter, Bool.and_eq_true]

namespace FitsOn

variable (fits : region.FitsOn size)

include fits

theorem card_cells_le : region.cells.card ≤ size.width.toNat * size.height.toNat := by
  have inside : region.cells ⊆ (Rect.ofSize size).cells := fun point member =>
    Rect.mem_cells.mpr (fits point (mem_cells.mp member))
  have whole := Finset.card_le_card inside
  rw [Rect.card_cells] at whole
  simpa only [Rect.ofSize, Int.sub_zero] using whole

theorem area_eq (canonical : region.Canonical)
    (bounded : IsCoordinate size.width ∧ IsCoordinate size.height) :
    region.area = .ok (region.cells.card : Int) := by
  unfold IsCoordinate at bounded
  have narrow : ∀ rect ∈ region.rects, IsCoordinate (rect.right - rect.left) ∧
      IsCoordinate (rect.bottom - rect.top) := by
    intro rect member
    have solid := rect.isEmpty_eq_false_iff.mp (canonical.solid rect member)
    have edges := (Rect.encloses_iff _ _).mp (canonical.encloses_of_contains fits rect member)
    simp only [IsCoordinate, Rect.ofSize] at edges ⊢
    omega
  have few : region.cells.card ≤ 9223372036854775807 :=
    calc region.cells.card
      _ ≤ size.width.toNat * size.height.toNat := fits.card_cells_le
      _ ≤ 2147483647 * 2147483647 := Nat.mul_le_mul (by omega) (by omega)
      _ ≤ 9223372036854775807 := by decide
  rw [cells, card_biUnion_cells canonical.ordered] at few
  obtain ⟨total, measured⟩ : ∃ total, region.area = .ok total :=
    foldlM_addArea_answers canonical.solid narrow (Int.le_refl 0) (by omega)
  rw [measured, area_eq_ok canonical measured]

theorem inter (other : Region) : (region.inter other).FitsOn size := by
  intro point contained
  rw [contains_inter, Bool.and_eq_true] at contained
  exact fits point contained.1

theorem union (otherFits : other.FitsOn otherSize) : (region.union other).FitsOn
    ⟨max size.width otherSize.width, max size.height otherSize.height⟩ := by
  intro point contained
  have inside : (Rect.ofSize size).contains point = true ∨
      (Rect.ofSize otherSize).contains point = true := by
    rw [contains_union, Bool.or_eq_true] at contained
    exact contained.imp (fits point) (otherFits point)
  simp only [Rect.contains_iff, Rect.ofSize] at inside ⊢
  omega

end FitsOn

theorem area_counts (reached : region.Reachable) (fits : region.FitsOn size)
    (bounded : IsCoordinate size.width ∧ IsCoordinate size.height) :
    (∃ count : Nat, region.area = .ok (count : Int) ∧ region.HasPoints count) ∧
    ∀ (other : Region) (otherSize : Size), other.Reachable → other.FitsOn otherSize →
      IsCoordinate otherSize.width ∧ IsCoordinate otherSize.height →
        ∃ own foreign both common : Int, region.area = .ok own ∧ other.area = .ok foreign ∧
          (region.union other).area = .ok both ∧ (region.inter other).area = .ok common ∧
            both + common = own + foreign := by
  have canonical := reached.good.canonical
  refine ⟨⟨_, fits.area_eq canonical bounded, region.hasPoints_cells⟩, ?_⟩
  intro other otherSize otherReached otherFits otherBounded
  have wider : IsCoordinate (max size.width otherSize.width) ∧
      IsCoordinate (max size.height otherSize.height) := by
    unfold IsCoordinate at bounded otherBounded ⊢
    omega
  refine ⟨_, _, _, _, fits.area_eq canonical bounded,
    otherFits.area_eq otherReached.good.canonical otherBounded,
    (fits.union otherFits).area_eq (ofRects_canonical _) wider,
    (fits.inter other).area_eq (ofRects_canonical _) bounded, ?_⟩
  rw [cells_union, cells_inter]
  exact_mod_cast Finset.card_union_add_card_inter region.cells other.cells

theorem area_counts_overlapping : overlapping.Reachable ∧ overlapping.FitsOn ⟨3, 3⟩ ∧
    overlapping.area = .ok 7 ∧ overlapping.HasPoints 7 ∧
    ∃ both common : Int, (overlapping.union (ofRect ⟨0, 0, 3, 1⟩)).area = .ok both ∧
      (overlapping.inter (ofRect ⟨0, 0, 3, 1⟩)).area = .ok common ∧ both + common = 7 + 3 := by
  have reached := overlapping_reachable
  have fits : overlapping.FitsOn ⟨3, 3⟩ := by
    intro point contained
    simp only [overlapping, contains_insert, contains_empty, Bool.false_or, Bool.or_eq_true,
      Rect.contains_iff] at contained
    rw [Rect.contains_iff]
    dsimp only [Rect.ofSize]
    omega
  have rowReached : (ofRect ⟨0, 0, 3, 1⟩).Reachable :=
    ⟨[.edit 0 (.set ⟨⟨0, 0, 3, 1⟩, by decide⟩)], _, 0, rfl, rfl⟩
  have rowFits : (ofRect ⟨0, 0, 3, 1⟩).FitsOn ⟨3, 1⟩ := fun point contained => by
    rwa [contains_ofRect] at contained
  have bands : overlapping.rects = [⟨0, 0, 2, 1⟩, ⟨0, 1, 3, 2⟩, ⟨1, 2, 3, 3⟩] := by
    simp [overlapping, insert, empty, ofRects, Rect.isEmpty, bandsOf, horizontalEdges, Band.across,
      Span.union, Band.stack, Band.pile, Span.absorb, Band.rects, List.mergeSort,
      List.MergeSort.Internal.splitInTwo, List.eraseReps, List.eraseRepsBy, List.eraseRepsBy.loop,
      Span.before]
  have seven : overlapping.area = .ok 7 := by
    rw [area, bands]
    rfl
  obtain ⟨⟨count, measured, points⟩, more⟩ := area_counts reached fits (by decide)
  obtain ⟨own, foreign, both, common, ownArea, rowArea, bothArea, commonArea, sum⟩ :=
    more _ _ rowReached rowFits (by decide)
  have three : (ofRect ⟨0, 0, 3, 1⟩).area = .ok 3 := by decide
  cases ownArea.symm.trans seven
  cases rowArea.symm.trans three
  cases Int.ofNat_inj.mp (Except.ok.inj (measured.symm.trans seven))
  exact ⟨reached, fits, seven, points, both, common, bothArea, commonArea, sum⟩

end Region

end ScreenCapture
