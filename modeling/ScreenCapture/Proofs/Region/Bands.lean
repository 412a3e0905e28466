import ScreenCapture.Proofs.Region.Spans
import ScreenCapture.Proofs.Region.Strips

set_option autoImplicit false

namespace ScreenCapture

namespace Band

def Holds (band : Band) (point : Point) : Prop :=
  (band.top ≤ point.y ∧ point.y < band.bottom) ∧ Span.Covers band.spans point.x

def Covers (bands : List Band) (point : Point) : Prop := ∃ band ∈ bands, band.Holds point

structure Proper (band : Band) : Prop where
  tall : band.top < band.bottom
  wide : band.spans ≠ []
  separated : Span.Separated band.spans

structure Laid (bands : List Band) : Prop where
  proper : ∀ band ∈ bands, band.Proper
  ordered : bands.Pairwise fun upper lower => upper.bottom ≤ lower.top

structure Stacked (bands : List Band) : Prop where
  proper : ∀ band ∈ bands, band.Proper
  ordered : bands.Pairwise fun upper lower =>
    upper.bottom ≤ lower.top ∧ (upper.bottom = lower.top → upper.spans ≠ lower.spans)

variable {band next : Band} {bands rest : List Band} {point : Point}

@[simp]
theorem covers_cons : Covers (band :: rest) point ↔ band.Holds point ∨ Covers rest point := by
  simp [Covers]

theorem laid_cons : Laid (band :: rest) ↔
    band.Proper ∧ (∀ lower ∈ rest, band.bottom ≤ lower.top) ∧ Laid rest := by
  constructor
  · intro laid
    have ordered := List.pairwise_cons.mp laid.ordered
    refine ⟨laid.proper band (by simp), ordered.1, ?_, ordered.2⟩
    exact fun lower member => laid.proper lower (List.mem_cons_of_mem _ member)
  · intro ⟨proper, below, laid⟩
    refine ⟨?_, List.pairwise_cons.mpr ⟨below, laid.ordered⟩⟩
    exact List.forall_mem_cons.mpr ⟨proper, laid.proper⟩

theorem Laid.join (laid : Laid (band :: next :: rest)) :
    Laid (⟨band.top, next.bottom, band.spans⟩ :: rest) := by
  obtain ⟨proper, below, later⟩ := laid_cons.mp laid
  obtain ⟨nextProper, nextBelow, last⟩ := laid_cons.mp later
  have step := below next (by simp)
  have tall := proper.tall
  have nextTall := nextProper.tall
  refine laid_cons.mpr ⟨⟨?_, proper.wide, proper.separated⟩, nextBelow, last⟩
  simp only
  omega

theorem top_le_of_mem_pile (laid : Laid (band :: rest)) : ∀ piled ∈ pile band rest,
    band.top ≤ piled.top ∧ (piled.top = band.top → piled.spans = band.spans) := by
  induction rest generalizing band with
  | nil => simp [pile]
  | cons next rest ih =>
    obtain ⟨proper, below, later⟩ := laid_cons.mp laid
    have tall := proper.tall
    have step := below next (by simp)
    simp only [pile]
    split
    · exact ih laid.join
    · intro piled member
      rcases List.mem_cons.mp member with rfl | member
      · exact ⟨Int.le_refl _, fun _ => rfl⟩
      · have lower := (ih later piled member).1
        exact ⟨by omega, fun same => by omega⟩

theorem pile_stacked (laid : Laid (band :: rest)) : Stacked (pile band rest) := by
  induction rest generalizing band with
  | nil => exact ⟨laid.proper, List.pairwise_singleton _ _⟩
  | cons next rest ih =>
    obtain ⟨proper, below, later⟩ := laid_cons.mp laid
    have step := below next (by simp)
    simp only [pile]
    split
    next => exact ih laid.join
    next different =>
      have stacked := ih later
      refine ⟨List.forall_mem_cons.mpr ⟨proper, stacked.proper⟩, ?_⟩
      refine List.pairwise_cons.mpr ⟨fun piled member => ?_, stacked.ordered⟩
      obtain ⟨lower, spans⟩ := top_le_of_mem_pile later piled member
      refine ⟨by omega, fun touching same => different ⟨by omega, ?_⟩⟩
      rw [same, spans (by omega)]

theorem covers_pile (laid : Laid (band :: rest)) :
    Covers (pile band rest) point ↔ Covers (band :: rest) point := by
  induction rest generalizing band with
  | nil => rfl
  | cons next rest ih =>
    obtain ⟨proper, _, later⟩ := laid_cons.mp laid
    have tall := proper.tall
    have nextTall := (laid_cons.mp later).1.tall
    simp only [pile]
    split
    next alike =>
      have joined : (Band.mk band.top next.bottom band.spans).Holds point ↔
          band.Holds point ∨ next.Holds point := by
        simp only [Holds, ← alike.2, ← or_and_right]
        refine and_congr_left' ?_
        omega
      simp only [ih laid.join, covers_cons, joined, or_assoc]
    next =>
      rw [covers_cons, ih later]
      exact covers_cons.symm

theorem stack_stacked (laid : Laid bands) : Stacked (stack bands) := by
  cases bands with
  | nil => exact ⟨laid.proper, .nil⟩
  | cons band rest => exact pile_stacked laid

theorem covers_stack (laid : Laid bands) : Covers (stack bands) point ↔ Covers bands point := by
  cases bands with
  | nil => rfl
  | cons band rest => exact covers_pile laid

theorem holds_across (rects : List Rect) (top bottom : Int) :
    (across rects top bottom).Holds point ↔ (top ≤ point.y ∧ point.y < bottom) ∧
      ∃ rect ∈ rects, (rect.top ≤ top ∧ bottom ≤ rect.bottom) ∧
        rect.left ≤ point.x ∧ point.x < rect.right := by
  rw [Holds, across, Span.covers_union]
  refine and_congr_right' ?_
  constructor
  · intro ⟨span, member, columns⟩
    obtain ⟨rect, crossing, rfl⟩ := List.mem_map.mp member
    obtain ⟨known, reached⟩ := List.mem_filter.mp crossing
    exact ⟨rect, known, by simpa using reached, columns⟩
  · intro ⟨rect, known, reached, columns⟩
    have crossing : rect ∈ rects.filter fun rect => rect.top ≤ top && bottom ≤ rect.bottom :=
      List.mem_filter.mpr ⟨known, by simpa using reached⟩
    exact ⟨_, List.mem_map.mpr ⟨rect, crossing, rfl⟩, columns⟩

theorem across_separated {rects : List Rect} (solid : ∀ rect ∈ rects, rect.isEmpty = false)
    (top bottom : Int) : Span.Separated (across rects top bottom).spans := by
  apply Span.union_separated
  intro span member
  obtain ⟨rect, crossing, rfl⟩ := List.mem_map.mp member
  have filled := solid rect (List.mem_filter.mp crossing).1
  simp only [Rect.isEmpty, Bool.or_eq_false_iff, decide_eq_false_iff_not] at filled
  simp only
  omega

def strips (rects : List Rect) : List Band :=
  let edges := horizontalEdges rects
  ((edges.zip edges.tail).map fun strip => across rects strip.1 strip.2).filter fun band =>
    !band.spans.isEmpty

theorem strips_laid {rects : List Rect} (solid : ∀ rect ∈ rects, rect.isEmpty = false) :
    Laid (strips rects) := by
  obtain ⟨ordered, between⟩ := strips_between (horizontalEdges_strict rects)
  constructor
  · intro band member
    obtain ⟨cut, wide⟩ := List.mem_filter.mp member
    obtain ⟨strip, known, rfl⟩ := List.mem_map.mp cut
    refine ⟨(between strip known).1, ?_, across_separated solid _ _⟩
    simpa using wide
  · exact (List.pairwise_map.mpr ordered).filter _

theorem covers_strips (rects : List Rect) :
    Covers (strips rects) point ↔ ∃ rect ∈ rects, rect.contains point = true := by
  have strict := horizontalEdges_strict rects
  constructor
  · intro ⟨band, member, holds⟩
    obtain ⟨strip, _, rfl⟩ := List.mem_map.mp (List.mem_filter.mp member).1
    obtain ⟨rows, rect, known, across, columns⟩ := (holds_across _ _ _).mp holds
    refine ⟨rect, known, (Rect.contains_iff _ _).mpr ⟨columns, ?_⟩⟩
    omega
  · intro ⟨rect, known, contained⟩
    obtain ⟨columns, rows⟩ := (Rect.contains_iff _ _).mp contained
    have top := (mem_horizontalEdges rects rect.top).mpr ⟨rect, known, .inl rfl⟩
    have bottom := (mem_horizontalEdges rects rect.bottom).mpr ⟨rect, known, .inr rfl⟩
    obtain ⟨strip, member, within⟩ := exists_strip strict top bottom rows.1 rows.2
    -- No edge of the rectangle runs through the strip, so it reaches all the way.
    have apart := ((strips_between strict).2 strip member).2
    have reached : rect.top ≤ strip.1 ∧ strip.2 ≤ rect.bottom := by
      have above := apart rect.top top
      have below := apart rect.bottom bottom
      omega
    have holds : (across rects strip.1 strip.2).Holds point :=
      (holds_across _ _ _).mpr ⟨within, rect, known, reached, columns⟩
    refine ⟨_, List.mem_filter.mpr ⟨List.mem_map.mpr ⟨strip, member, rfl⟩, ?_⟩, holds⟩
    obtain ⟨span, covering, _⟩ := holds.2
    simp [List.ne_nil_of_mem covering]

end Band

theorem bandsOf_eq (rects : List Rect) : bandsOf rects = Band.stack (Band.strips rects) := rfl

theorem bandsOf_stacked {rects : List Rect} (solid : ∀ rect ∈ rects, rect.isEmpty = false) :
    Band.Stacked (bandsOf rects) :=
  Band.stack_stacked (Band.strips_laid solid)

theorem covers_bandsOf {rects : List Rect} (solid : ∀ rect ∈ rects, rect.isEmpty = false)
    (point : Point) :
    Band.Covers (bandsOf rects) point ↔ ∃ rect ∈ rects, rect.contains point = true := by
  rw [bandsOf_eq, Band.covers_stack (Band.strips_laid solid), Band.covers_strips]

end ScreenCapture
