import ScreenCapture.Region.Bands

set_option autoImplicit false

namespace ScreenCapture.Span

def Holds (span : Span) (x : Int) : Prop := span.left ≤ x ∧ x < span.right

def Covers (spans : List Span) (x : Int) : Prop := ∃ span ∈ spans, span.Holds x

structure Separated (spans : List Span) : Prop where
  solid : ∀ span ∈ spans, span.left < span.right
  apart : spans.Pairwise fun span next => span.right < next.left

variable {span : Span} {spans others rest : List Span}

@[simp]
theorem covers_nil (x : Int) : ¬ Covers [] x := by simp [Covers]

@[simp]
theorem covers_cons (x : Int) : Covers (span :: rest) x ↔ span.Holds x ∨ Covers rest x := by
  simp [Covers]

theorem covers_of_holds {x : Int} (holds : span.Holds x) : Covers (span :: rest) x :=
  (covers_cons x).mpr (.inl holds)

theorem separated_cons : Separated (span :: rest) ↔
    span.left < span.right ∧ (∀ next ∈ rest, span.right < next.left) ∧ Separated rest := by
  constructor
  · intro separated
    have apart := List.pairwise_cons.mp separated.apart
    refine ⟨separated.solid span (by simp), apart.1, ?_, apart.2⟩
    exact fun next member => separated.solid next (List.mem_cons_of_mem _ member)
  · intro ⟨solid, gaps, separated⟩
    refine ⟨?_, List.pairwise_cons.mpr ⟨gaps, separated.apart⟩⟩
    intro next member
    rcases List.mem_cons.mp member with rfl | member
    · exact solid
    · exact separated.solid next member

theorem Separated.covers_left (separated : Separated (span :: rest)) :
    Covers (span :: rest) span.left :=
  covers_of_holds ⟨Int.le_refl _, separated.solid span (by simp)⟩

theorem Separated.le_of_covers (separated : Separated (span :: rest)) {x : Int}
    (covered : Covers (span :: rest) x) : span.left ≤ x := by
  obtain ⟨solid, gaps, _⟩ := separated_cons.mp separated
  rcases (covers_cons x).mp covered with first | ⟨next, member, holds⟩
  · exact first.1
  · have gap := gaps next member
    have within := holds.1
    omega

theorem Separated.covers_rest_iff (separated : Separated (span :: rest)) (x : Int) :
    Covers rest x ↔ Covers (span :: rest) x ∧ span.right < x := by
  obtain ⟨solid, gaps, _⟩ := separated_cons.mp separated
  constructor
  · intro ⟨next, member, holds⟩
    have gap := gaps next member
    have within := holds.1
    exact ⟨(covers_cons x).mpr (.inr ⟨next, member, holds⟩), by omega⟩
  · intro ⟨covered, beyond⟩
    rcases (covers_cons x).mp covered with first | later
    · have within := first.2
      omega
    · exact later

theorem Separated.not_covers_right (separated : Separated (span :: rest)) :
    ¬ Covers (span :: rest) span.right := by
  intro covered
  rcases (covers_cons _).mp covered with first | later
  · exact absurd first.2 (Int.lt_irrefl _)
  · exact absurd ((separated.covers_rest_iff _).mp later).2 (Int.lt_irrefl _)

theorem Separated.ext (separated : Separated spans) (otherSeparated : Separated others)
    (same : ∀ x, Covers spans x ↔ Covers others x) : spans = others := by
  induction spans generalizing others with
  | nil =>
    cases others with
    | nil => rfl
    | cons other others => exact absurd ((same _).mpr otherSeparated.covers_left) (covers_nil _)
  | cons span rest ih =>
    cases others with
    | nil => exact absurd ((same _).mp separated.covers_left) (covers_nil _)
    | cons other others =>
      have left : span.left = other.left := by
        apply Int.le_antisymm
        · exact separated.le_of_covers ((same _).mpr otherSeparated.covers_left)
        · exact otherSeparated.le_of_covers ((same _).mp separated.covers_left)
      have solid := (separated_cons.mp separated).1
      have otherSolid := (separated_cons.mp otherSeparated).1
      have right : span.right = other.right := by
        rcases Int.lt_trichotomy span.right other.right with short | equal | long
        · have covered : Covers (other :: others) span.right := covers_of_holds ⟨by omega, short⟩
          exact absurd ((same _).mpr covered) separated.not_covers_right
        · exact equal
        · have covered : Covers (span :: rest) other.right := covers_of_holds ⟨by omega, long⟩
          exact absurd ((same _).mp covered) otherSeparated.not_covers_right
      obtain ⟨spanLeft, spanRight⟩ := span
      obtain ⟨otherLeft, otherRight⟩ := other
      obtain rfl : spanLeft = otherLeft := left
      obtain rfl : spanRight = otherRight := right
      rw [ih (separated_cons.mp separated).2.2 (separated_cons.mp otherSeparated).2.2]
      intro x
      rw [separated.covers_rest_iff, otherSeparated.covers_rest_iff, same]

def Sorted (spans : List Span) : Prop := spans.Pairwise fun span next => span.left ≤ next.left

theorem sorted_cons : Sorted (span :: rest) ↔ (∀ next ∈ rest, span.left ≤ next.left) ∧ Sorted rest :=
  List.pairwise_cons

theorem Sorted.join {next : Span} {right : Int} (sorted : Sorted (span :: next :: rest)) :
    Sorted (⟨span.left, right⟩ :: rest) := by
  obtain ⟨first, later⟩ := sorted_cons.mp sorted
  refine sorted_cons.mpr ⟨?_, (sorted_cons.mp later).2⟩
  exact fun other member => first other (List.mem_cons_of_mem _ member)

theorem left_le_of_mem_absorb (sorted : Sorted (span :: rest)) :
    ∀ joined ∈ absorb span rest, span.left ≤ joined.left := by
  induction rest generalizing span with
  | nil => simp [absorb]
  | cons next rest ih =>
    obtain ⟨first, later⟩ := sorted_cons.mp sorted
    simp only [absorb]
    split
    · exact ih sorted.join
    · intro joined member
      rcases List.mem_cons.mp member with rfl | member
      · exact Int.le_refl _
      · exact Int.le_trans (first next (by simp)) (ih later joined member)

theorem absorb_separated (sorted : Sorted (span :: rest))
    (solid : ∀ other ∈ span :: rest, other.left < other.right) : Separated (absorb span rest) := by
  induction rest generalizing span with
  | nil => exact ⟨solid, by simp [absorb]⟩
  | cons next rest ih =>
    have later := (sorted_cons.mp sorted).2
    have solidSpan := solid span (by simp)
    simp only [absorb]
    split
    · apply ih sorted.join
      · intro other member
        rcases List.mem_cons.mp member with rfl | member
        · simp only
          omega
        · exact solid other (by simp [member])
    next gap =>
      refine separated_cons.mpr ⟨solidSpan, ?_, ih later ?_⟩
      · intro joined member
        have beyond := left_le_of_mem_absorb later joined member
        omega
      · exact fun other member => solid other (List.mem_cons_of_mem _ member)

theorem covers_absorb (sorted : Sorted (span :: rest)) (x : Int) :
    Covers (absorb span rest) x ↔ Covers (span :: rest) x := by
  induction rest generalizing span with
  | nil => rfl
  | cons next rest ih =>
    obtain ⟨first, later⟩ := sorted_cons.mp sorted
    have step := first next (by simp)
    simp only [absorb]
    split
    next touching =>
      have joined : (Span.mk span.left (max span.right next.right)).Holds x ↔
          span.Holds x ∨ next.Holds x := by
        simp only [Holds]
        omega
      simp only [ih sorted.join, covers_cons, joined, or_assoc]
    next =>
      rw [covers_cons, ih later]
      exact (covers_cons x).symm

theorem sorted_mergeSort (spans : List Span) :
    Sorted (spans.mergeSort before) := by
  have ordered : (spans.mergeSort before).Pairwise fun span next => before span next = true := by
    apply List.pairwise_mergeSort
    · intro a b c
      simp only [before, Bool.or_eq_true, Bool.and_eq_true, decide_eq_true_eq]
      omega
    · intro a b
      simp only [before, Bool.or_eq_true, Bool.and_eq_true, decide_eq_true_eq]
      omega
  refine ordered.imp ?_
  intro a b first
  simp only [before, Bool.or_eq_true, Bool.and_eq_true, decide_eq_true_eq] at first
  omega

theorem union_separated (solid : ∀ span ∈ spans, span.left < span.right) :
    Separated (union spans) := by
  have sorted := sorted_mergeSort spans
  have members : ∀ span ∈ spans.mergeSort before, span.left < span.right :=
    fun span member => solid span (List.mem_mergeSort.mp member)
  simp only [union]
  split
  next => exact ⟨by simp, .nil⟩
  next first rest order =>
    rw [order] at sorted members
    exact absorb_separated sorted members

theorem covers_union (spans : List Span) (x : Int) : Covers (union spans) x ↔ Covers spans x := by
  have sorted := sorted_mergeSort spans
  have members : Covers (spans.mergeSort before) x ↔ Covers spans x := by
    simp only [Covers, List.mem_mergeSort]
  rw [← members]
  simp only [union]
  split
  next order => rw [order]
  next first rest order =>
    rw [order] at sorted ⊢
    exact covers_absorb sorted x

end ScreenCapture.Span
