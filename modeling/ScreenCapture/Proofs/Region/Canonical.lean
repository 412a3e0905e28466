import ScreenCapture.Proofs.Region.Spans
import ScreenCapture.Region.Basic

set_option autoImplicit false

namespace ScreenCapture

theorem related_of_pairwise {A : Type} {related : A → A → Prop} {list : List A}
    (pairwise : list.Pairwise related) {first second : A} (firstKnown : first ∈ list)
    (secondKnown : second ∈ list) :
    first = second ∨ related first second ∨ related second first := by
  refine List.Pairwise.forall_of_forall_of_flip
    (R := fun a b => a = b ∨ related a b ∨ related b a) ?_ ?_ ?_ firstKnown secondKnown
  · exact fun _ _ => .inl rfl
  · exact pairwise.imp fun before => .inr (.inl before)
  · exact pairwise.imp fun before => .inr (.inr before)

theorem Rect.isEmpty_eq_false_iff (rect : Rect) :
    rect.isEmpty = false ↔ rect.left < rect.right ∧ rect.top < rect.bottom := by
  rw [← Bool.not_eq_true, isEmpty_iff]
  omega

-- In the same band with a column between them, or in a band further down.
abbrev Rect.Precedes (rect next : Rect) : Prop :=
  (rect.top = next.top ∧ rect.bottom = next.bottom ∧ rect.right < next.left) ∨
    rect.bottom ≤ next.top

def Rect.span (rect : Rect) : Span := ⟨rect.left, rect.right⟩

namespace Region

def spansAt (rects : List Rect) (top : Int) : List Span :=
  (rects.filter fun rect => rect.top = top).map Rect.span

structure Canonical (region : Region) : Prop where
  solid : ∀ rect ∈ region.rects, rect.isEmpty = false
  ordered : region.rects.Pairwise Rect.Precedes
  merged : ∀ upper ∈ region.rects, ∀ lower ∈ region.rects, upper.bottom = lower.top →
    spansAt region.rects upper.top ≠ spansAt region.rects lower.top

variable {region other : Region} {rect next : Rect}

theorem contains_iff (region : Region) (point : Point) :
    region.contains point = true ↔ ∃ rect ∈ region.rects, rect.contains point = true := by
  simp [contains]

theorem contains_mk_iff (region : Region) (x y : Int) : region.contains ⟨x, y⟩ = true ↔
    ∃ rect ∈ region.rects, (rect.left ≤ x ∧ x < rect.right) ∧ rect.top ≤ y ∧ y < rect.bottom := by
  simp only [contains_iff, Rect.contains_iff]

namespace Canonical

theorem same_band (canonical : region.Canonical) (member : rect ∈ region.rects)
    (nextMember : next ∈ region.rects) {y : Int} (within : rect.top ≤ y ∧ y < rect.bottom)
    (nextWithin : next.top ≤ y ∧ y < next.bottom) :
    rect.top = next.top ∧ rect.bottom = next.bottom := by
  rcases related_of_pairwise canonical.ordered member nextMember with rfl | before | before
  all_goals omega

theorem spansAt_separated (canonical : region.Canonical) (top : Int) :
    Span.Separated (spansAt region.rects top) := by
  constructor
  · intro span known
    obtain ⟨rect, kept, rfl⟩ := List.mem_map.mp known
    have solid := canonical.solid rect (List.mem_filter.mp kept).1
    exact (rect.isEmpty_eq_false_iff.mp solid).1
  · refine List.pairwise_map.mpr ?_
    refine (canonical.ordered.filter _).imp_of_mem ?_
    intro rect next member nextMember before
    have solid := rect.isEmpty_eq_false_iff.mp
      (canonical.solid rect (List.mem_filter.mp member).1)
    have top := of_decide_eq_true (List.mem_filter.mp member).2
    have nextTop := of_decide_eq_true (List.mem_filter.mp nextMember).2
    simp only [Rect.span]
    omega

theorem contains_row_iff (canonical : region.Canonical) (member : rect ∈ region.rects) {x y : Int}
    (within : rect.top ≤ y ∧ y < rect.bottom) :
    region.contains ⟨x, y⟩ = true ↔ Span.Covers (spansAt region.rects rect.top) x := by
  rw [contains_mk_iff]
  constructor
  · intro ⟨next, nextMember, columns, rows⟩
    have same := canonical.same_band member nextMember within rows
    have kept : next ∈ region.rects.filter fun other => other.top = rect.top :=
      List.mem_filter.mpr ⟨nextMember, by simp [same.1]⟩
    exact ⟨next.span, List.mem_map_of_mem kept, columns⟩
  · intro ⟨span, known, columns⟩
    obtain ⟨next, kept, rfl⟩ := List.mem_map.mp known
    obtain ⟨nextMember, top⟩ := List.mem_filter.mp kept
    have solid := next.isEmpty_eq_false_iff.mp (canonical.solid next nextMember)
    have sameTop := of_decide_eq_true top
    have same := canonical.same_band (y := rect.top) member nextMember (by omega) (by omega)
    exact ⟨next, nextMember, columns, by omega⟩

end Canonical

def RowsAlike (region : Region) (y row : Int) : Prop :=
  ∀ x, region.contains ⟨x, y⟩ = region.contains ⟨x, row⟩

theorem RowsAlike.trans {y middle row : Int} (first : region.RowsAlike y middle)
    (second : region.RowsAlike middle row) : region.RowsAlike y row :=
  fun x => (first x).trans (second x)

theorem RowsAlike.symm {y row : Int} (alike : region.RowsAlike y row) : region.RowsAlike row y :=
  fun x => (alike x).symm

structure Maximal (region : Region) (rect : Rect) : Prop where
  solid : rect.isEmpty = false
  alike : ∀ y, rect.top ≤ y → y < rect.bottom → region.RowsAlike y rect.top
  above : ¬ region.RowsAlike (rect.top - 1) rect.top
  below : ¬ region.RowsAlike rect.bottom rect.top
  filled : ∀ x, rect.left ≤ x → x < rect.right → region.contains ⟨x, rect.top⟩ = true
  left : region.contains ⟨rect.left - 1, rect.top⟩ = false
  right : region.contains ⟨rect.right, rect.top⟩ = false

namespace Canonical

theorem rowsAlike (canonical : region.Canonical) (member : rect ∈ region.rects) {y row : Int}
    (within : rect.top ≤ y ∧ y < rect.bottom) (rowWithin : rect.top ≤ row ∧ row < rect.bottom) :
    region.RowsAlike y row := by
  intro x
  rw [Bool.eq_iff_iff, canonical.contains_row_iff member within,
    canonical.contains_row_iff member rowWithin]

theorem seam (canonical : region.Canonical) {upper lower : Rect} (upperMember : upper ∈ region.rects)
    (lowerMember : lower ∈ region.rects) (touching : upper.bottom = lower.top) :
    ¬ region.RowsAlike (lower.top - 1) lower.top := by
  intro alike
  have upperTall := (upper.isEmpty_eq_false_iff.mp (canonical.solid upper upperMember)).2
  have lowerTall := (lower.isEmpty_eq_false_iff.mp (canonical.solid lower lowerMember)).2
  apply canonical.merged upper upperMember lower lowerMember touching
  apply (canonical.spansAt_separated _).ext (canonical.spansAt_separated _)
  intro x
  rw [← canonical.contains_row_iff (y := lower.top - 1) upperMember (by omega), alike x,
    canonical.contains_row_iff lowerMember (by omega)]

theorem not_contains_beside (canonical : region.Canonical) (member : rect ∈ region.rects) {x : Int}
    (beside : x = rect.left - 1 ∨ x = rect.right) : region.contains ⟨x, rect.top⟩ = false := by
  have solid := rect.isEmpty_eq_false_iff.mp (canonical.solid rect member)
  rw [← Bool.not_eq_true, contains_mk_iff]
  intro ⟨next, nextMember, columns, rows⟩
  rcases related_of_pairwise canonical.ordered member nextMember with rfl | before | before
  all_goals omega

theorem maximal (canonical : region.Canonical) (member : rect ∈ region.rects) :
    region.Maximal rect := by
  have solid := canonical.solid rect member
  obtain ⟨wide, tall⟩ := rect.isEmpty_eq_false_iff.mp solid
  have filled : ∀ x, rect.left ≤ x → x < rect.right → region.contains ⟨x, rect.top⟩ = true :=
    fun x reached short =>
      (region.contains_mk_iff _ _).mpr ⟨rect, member, ⟨reached, short⟩, Int.le_refl _, tall⟩
  have corner := filled rect.left (Int.le_refl _) wide
  refine ⟨solid, ?_, ?_, ?_, filled, ?_, ?_⟩
  · intro y reached short
    exact canonical.rowsAlike member ⟨reached, short⟩ ⟨Int.le_refl _, tall⟩
  · intro alike
    obtain ⟨upper, upperMember, columns, rows⟩ :=
      (region.contains_mk_iff _ _).mp ((alike rect.left).trans corner)
    refine canonical.seam upperMember member ?_ alike
    rcases related_of_pairwise canonical.ordered member upperMember with rfl | before | before
    all_goals omega
  · intro alike
    obtain ⟨lower, lowerMember, columns, rows⟩ :=
      (region.contains_mk_iff _ _).mp ((alike rect.left).trans corner)
    have touching : rect.bottom = lower.top := by
      rcases related_of_pairwise canonical.ordered member lowerMember with rfl | before | before
      all_goals omega
    refine canonical.seam member lowerMember touching ?_
    rw [← touching]
    exact (canonical.rowsAlike member (by omega) (by omega)).trans alike.symm
  · exact canonical.not_contains_beside member (.inl rfl)
  · exact canonical.not_contains_beside member (.inr rfl)

end Canonical

theorem Maximal.eq_of_contains (maximal : region.Maximal rect) (nextMaximal : region.Maximal next)
    (shared : next.contains ⟨rect.left, rect.top⟩ = true) : next = rect := by
  obtain ⟨wide, tall⟩ := rect.isEmpty_eq_false_iff.mp maximal.solid
  obtain ⟨columns, rows⟩ := (next.contains_iff _).mp shared
  simp only at columns rows
  have top : next.top = rect.top := by
    refine Decidable.byContradiction fun different => ?_
    have upper := nextMaximal.alike (rect.top - 1) (by omega) (by omega)
    exact maximal.above (upper.trans (nextMaximal.alike rect.top rows.1 rows.2).symm)
  have bottom : next.bottom = rect.bottom := by
    rcases Int.lt_trichotomy next.bottom rect.bottom with short | equal | long
    · exact absurd (top ▸ maximal.alike next.bottom (by omega) short) nextMaximal.below
    · exact equal
    · exact absurd (top ▸ nextMaximal.alike rect.bottom (by omega) long) maximal.below
  have left : next.left = rect.left := by
    refine Decidable.byContradiction fun different => ?_
    have reached := nextMaximal.filled (rect.left - 1) (by omega) (by omega)
    rw [top, maximal.left] at reached
    cases reached
  have right : next.right = rect.right := by
    rcases Int.lt_trichotomy next.right rect.right with short | equal | long
    · have reached := maximal.filled next.right (by omega) short
      rw [← top, nextMaximal.right] at reached
      cases reached
    · exact equal
    · have reached := nextMaximal.filled rect.right (by omega) long
      rw [top, maximal.right] at reached
      cases reached
  exact Rect.mk.injEq .. ▸ ⟨left, top, right, bottom⟩

theorem Canonical.mem_iff (canonical : region.Canonical) :
    rect ∈ region.rects ↔ region.Maximal rect := by
  constructor
  · exact canonical.maximal
  · intro maximal
    have wide := (rect.isEmpty_eq_false_iff.mp maximal.solid).1
    have corner := maximal.filled rect.left (Int.le_refl _) wide
    obtain ⟨next, member, shared⟩ := (region.contains_iff _).mp corner
    exact maximal.eq_of_contains (canonical.maximal member) shared ▸ member

theorem Maximal.congr (same : ∀ point, region.contains point = other.contains point)
    (maximal : region.Maximal rect) : other.Maximal rect := by
  have rows (y row : Int) : region.RowsAlike y row ↔ other.RowsAlike y row := by
    simp only [RowsAlike, same]
  obtain ⟨solid, alike, above, below, filled, left, right⟩ := maximal
  simp only [rows, same] at alike above below filled left right
  exact ⟨solid, alike, above, below, filled, left, right⟩

theorem Canonical.nodup (canonical : region.Canonical) : region.rects.Nodup := by
  refine canonical.ordered.imp_of_mem ?_
  rintro rect next member _ before rfl
  have solid := rect.isEmpty_eq_false_iff.mp (canonical.solid rect member)
  omega

theorem Canonical.ext (canonical : region.Canonical) (otherCanonical : other.Canonical)
    (same : ∀ point, region.contains point = other.contains point) : region = other := by
  have members : ∀ rect, rect ∈ region.rects ↔ rect ∈ other.rects := by
    intro rect
    rw [canonical.mem_iff, otherCanonical.mem_iff]
    exact ⟨Maximal.congr same, Maximal.congr fun point => (same point).symm⟩
  have shuffled : region.rects.Perm other.rects :=
    (List.perm_ext_iff_of_nodup canonical.nodup otherCanonical.nodup).mpr members
  have rects : region.rects = other.rects := by
    refine List.Perm.eq_of_pairwise ?_ canonical.ordered otherCanonical.ordered shuffled
    intro rect next member nextMember before after
    have solid := rect.isEmpty_eq_false_iff.mp (canonical.solid rect member)
    have nextSolid := next.isEmpty_eq_false_iff.mp (otherCanonical.solid next nextMember)
    omega
  exact Region.mk.injEq .. ▸ rects

end Region

end ScreenCapture
