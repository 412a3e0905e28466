import ScreenCapture.Region.Bands

set_option autoImplicit false

namespace ScreenCapture

section EraseReps

variable {first next : Int} {rest : List Int}

theorem eraseReps_loop (rest before : List Int) (first : Int) :
    List.eraseRepsBy.loop (· == ·) first rest before =
      before.reverse ++ (first :: rest).eraseReps := by
  induction rest generalizing first before with
  | nil => simp [List.eraseReps, List.eraseRepsBy, List.eraseRepsBy.loop]
  | cons next rest ih =>
    rw [List.eraseReps, List.eraseRepsBy]
    simp only [List.eraseRepsBy.loop]
    split
    next same => rw [ih, ih, List.reverse_nil, List.nil_append]
    next different => rw [ih, ih [first], List.reverse_cons, List.append_assoc]; rfl

theorem eraseReps_cons_cons :
    (first :: next :: rest).eraseReps =
      if first = next then (first :: rest).eraseReps else first :: (next :: rest).eraseReps := by
  rw [List.eraseReps, List.eraseRepsBy]
  simp only [List.eraseRepsBy.loop]
  split
  next same => rw [if_pos (by simpa using same), eraseReps_loop]; rfl
  next different => rw [if_neg (by simpa using different), eraseReps_loop]; rfl

theorem mem_eraseReps (list : List Int) (item : Int) : item ∈ list.eraseReps ↔ item ∈ list := by
  cases list with
  | nil => rfl
  | cons first rest =>
    induction rest generalizing first with
    | nil => rfl
    | cons next rest ih =>
      rw [eraseReps_cons_cons]
      split
      next same => simp [ih, same]
      next different => rw [List.mem_cons, ih, List.mem_cons (l := next :: rest)]

theorem eraseReps_strict {list : List Int} (sorted : list.Pairwise (· ≤ ·)) :
    list.eraseReps.Pairwise (· < ·) := by
  cases list with
  | nil => exact .nil
  | cons first rest =>
    induction rest generalizing first with
    | nil => exact List.pairwise_singleton _ _
    | cons next rest ih =>
      obtain ⟨least, later⟩ := List.pairwise_cons.mp sorted
      rw [eraseReps_cons_cons]
      split
      next same => exact same ▸ ih next later
      next different =>
        refine List.pairwise_cons.mpr ⟨?_, ih next later⟩
        intro item member
        have step := least next (by simp)
        rcases List.mem_cons.mp ((mem_eraseReps _ _).mp member) with rfl | member
        · omega
        · have beyond := (List.pairwise_cons.mp later).1 item member
          omega

end EraseReps

theorem mem_horizontalEdges (rects : List Rect) (edge : Int) :
    edge ∈ horizontalEdges rects ↔ ∃ rect ∈ rects, edge = rect.top ∨ edge = rect.bottom := by
  simp [horizontalEdges, mem_eraseReps]

theorem horizontalEdges_strict (rects : List Rect) : (horizontalEdges rects).Pairwise (· < ·) := by
  have sorted (list : List Int) :
      (list.mergeSort fun a b => a ≤ b).Pairwise fun a b => decide (a ≤ b) = true := by
    apply List.pairwise_mergeSort
    · intro a b c
      simp only [decide_eq_true_eq]
      omega
    · intro a b
      simp only [Bool.or_eq_true, decide_eq_true_eq]
      omega
  apply eraseReps_strict
  exact (sorted _).imp of_decide_eq_true

section Strips

variable {edges : List Int}

theorem zip_tail_cons_cons (first next : Int) (rest : List Int) :
    (first :: next :: rest).zip (first :: next :: rest).tail =
      (first, next) :: (next :: rest).zip (next :: rest).tail := rfl

theorem edges_of_strip {strip : Int × Int} (member : strip ∈ edges.zip edges.tail) :
    strip.1 ∈ edges ∧ strip.2 ∈ edges :=
  ⟨(List.of_mem_zip member).1, List.mem_of_mem_tail (List.of_mem_zip member).2⟩

theorem strips_between (strict : edges.Pairwise (· < ·)) :
    (edges.zip edges.tail).Pairwise (fun upper lower => upper.2 ≤ lower.1) ∧
      ∀ strip ∈ edges.zip edges.tail, strip.1 < strip.2 ∧
        ∀ edge ∈ edges, edge ≤ strip.1 ∨ strip.2 ≤ edge := by
  cases edges with
  | nil => simp
  | cons first rest =>
    induction rest generalizing first with
    | nil => simp
    | cons next rest ih =>
      obtain ⟨least, later⟩ := List.pairwise_cons.mp strict
      have step := least next (by simp)
      have nextLeast : ∀ edge ∈ next :: rest, next ≤ edge := by
        intro edge member
        rcases List.mem_cons.mp member with rfl | member
        · exact Int.le_refl _
        · exact Int.le_of_lt ((List.pairwise_cons.mp later).1 edge member)
      obtain ⟨ordered, between⟩ := ih next later
      rw [zip_tail_cons_cons]
      constructor
      · refine List.pairwise_cons.mpr ⟨?_, ordered⟩
        exact fun strip member => nextLeast _ (edges_of_strip member).1
      · intro strip member
        rcases List.mem_cons.mp member with rfl | deeper
        · refine ⟨step, fun edge known => ?_⟩
          rcases List.mem_cons.mp known with rfl | known
          · exact .inl (Int.le_refl _)
          · exact .inr (nextLeast edge known)
        · obtain ⟨tall, apart⟩ := between strip deeper
          have below := nextLeast _ (edges_of_strip deeper).1
          refine ⟨tall, fun edge known => ?_⟩
          rcases List.mem_cons.mp known with rfl | known
          · exact .inl (by omega)
          · exact apart edge known

theorem exists_strip (strict : edges.Pairwise (· < ·)) {above below y : Int}
    (aboveKnown : above ∈ edges) (belowKnown : below ∈ edges) (reached : above ≤ y)
    (before : y < below) : ∃ strip ∈ edges.zip edges.tail, strip.1 ≤ y ∧ y < strip.2 := by
  cases edges with
  | nil => simp at aboveKnown
  | cons first rest =>
    induction rest generalizing first above with
    | nil =>
      simp only [List.mem_singleton] at aboveKnown belowKnown
      omega
    | cons next rest ih =>
      obtain ⟨least, later⟩ := List.pairwise_cons.mp strict
      have firstLeast : first ≤ above := by
        rcases List.mem_cons.mp aboveKnown with rfl | known
        · exact Int.le_refl _
        · exact Int.le_of_lt (least above known)
      rw [zip_tail_cons_cons]
      by_cases within : y < next
      · exact ⟨(first, next), by simp, by omega, within⟩
      · have belowLater : below ∈ next :: rest := by
          refine (List.mem_cons.mp belowKnown).resolve_left fun same => ?_
          omega
        obtain ⟨strip, member, holds⟩ :=
          ih (Int.not_lt.mp within) next later List.mem_cons_self belowLater
        exact ⟨strip, List.mem_cons_of_mem _ member, holds⟩

end Strips

end ScreenCapture
