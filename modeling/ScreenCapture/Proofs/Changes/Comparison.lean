import ScreenCapture.Proofs.Changes.Blocks

set_option autoImplicit false

namespace ScreenCapture

namespace Region

variable {A : Type} {step : Region → A → Checked Region} {items : List A} {output result : Region}

theorem contains_foldlM {adds : A → Point → Prop}
    (each : ∀ item ∈ items, ∀ output result, step output item = .ok result → ∀ point,
      result.contains point = true ↔ output.contains point = true ∨ adds item point)
    (folded : items.foldlM step output = .ok result) (point : Point) :
    result.contains point = true ↔
      output.contains point = true ∨ ∃ item ∈ items, adds item point := by
  induction items generalizing output with
  | nil =>
    cases folded
    simp
  | cons first rest ih =>
    obtain ⟨middle, stepped, folded⟩ := Checked.bind_eq_ok.mp folded
    have later := ih (fun item member => each item (List.mem_cons_of_mem _ member)) folded
    rw [later, each first (List.mem_cons_self ..) _ _ stepped, or_assoc]
    simp

theorem foldlM_canonical (each : ∀ item output result, output.Canonical →
      step output item = .ok result → result.Canonical)
    (folded : items.foldlM step output = .ok result) (canonical : output.Canonical) :
    result.Canonical := by
  induction items generalizing output with
  | nil =>
    cases folded
    exact canonical
  | cons first rest ih =>
    obtain ⟨middle, stepped, folded⟩ := Checked.bind_eq_ok.mp folded
    exact ih folded (each first output middle canonical stepped)

end Region

namespace Changes

theorem blockSize_cast : (blockSize : Int) = 32 := rfl

-- The block that a point of an area is in. Blocks are counted from the top left corner of the area
-- and cut off at its other edges.
def blockAt (area : Rect) (point : Point) : Rect :=
  let left := area.left + (point.x - area.left) / blockSize * blockSize
  let top := area.top + (point.y - area.top) / blockSize * blockSize
  ⟨left, top, min (left + blockSize) area.right, min (top + blockSize) area.bottom⟩

def Dirty (old new : Frame) (store : Store) (area : Rect) : Prop :=
  ∃ point, area.contains point = true ∧ old.view store point ≠ new.view store point

theorem runs_le (index : Nat) (start : Option Nat) (dirty : List Bool) :
    ∀ run ∈ runs index start dirty, run.2 ≤ index + dirty.length := by
  induction dirty generalizing index start with
  | nil => cases start <;> simp [runs]
  | cons answer rest ih =>
    intro run member
    rw [List.length_cons]
    cases start with
    | none =>
      cases answer with
      | true =>
        have bound := ih (index + 1) (some index) run member
        omega
      | false =>
        have bound := ih (index + 1) none run member
        omega
    | some first =>
      cases answer with
      | true =>
        have bound := ih (index + 1) (some first) run member
        omega
      | false =>
        rcases List.mem_cons.mp member with rfl | later
        next => exact Nat.le_add_right _ _
        next =>
          have bound := ih (index + 1) none run later
          omega

variable {row rect : Rect} {count : Nat} {run : Nat × Nat} {old new : Frame} {store : Store}
  {output result : Region}

theorem addRun_eq_ok (added : addRun row count output run = .ok result)
    (solid : row.left < row.right) (all : count = ((row.right - row.left).toNat - 1) / blockSize + 1)
    (within : run.2 ≤ count) (point : Point) : result.contains point = true ↔
      output.contains point = true ∨
        ((run.1 : Int) ≤ (point.x - row.left) / blockSize ∧
          (point.x - row.left) / blockSize < (run.2 : Int)) ∧ row.contains point = true := by
  obtain ⟨left, began, added⟩ := Checked.bind_eq_ok.mp added
  simp only [blockLeft, Checked.bind_eq_ok, coordinate_eq_ok_iff] at began
  obtain ⟨_, ⟨_, rfl⟩, _, rfl⟩ := began
  obtain ⟨right, ended, same⟩ : ∃ right,
      (if run.2 = count then .ok row.right else blockLeft row run.2) = .ok right ∧
        output.insert ⟨row.left + ((run.1 * blockSize : Nat) : Int), row.top, right, row.bottom⟩ =
          result := by
    split at added
    next last =>
      exact ⟨_, if_pos last, Except.ok.inj added⟩
    next inner =>
      obtain ⟨right, ended, added⟩ := Checked.bind_eq_ok.mp added
      exact ⟨right, (if_neg inner).trans ended, Except.ok.inj added⟩
  rw [← same, Region.contains_insert, Bool.or_eq_true, Rect.contains_iff, Rect.contains_iff,
    blockSize_cast]
  refine or_congr_right ?_
  simp only [blockSize] at all ended ⊢
  split at ended
  next last =>
    cases ended
    omega
  next inner =>
    simp only [blockLeft, Checked.bind_eq_ok, coordinate_eq_ok_iff, blockSize] at ended
    obtain ⟨_, ⟨_, rfl⟩, _, rfl⟩ := ended
    omega

def stripe (rect : Rect) (index : Nat) : Rect :=
  let top := rect.top + ((index * blockSize : Nat) : Int)
  ⟨rect.left, top, rect.right, min (top + blockSize) rect.bottom⟩

theorem contains_stripe_iff (rect : Rect) (index : Nat) (point : Point) :
    (stripe rect index).contains point = true ↔
      rect.contains point = true ∧ (point.y - rect.top) / blockSize = index := by
  rw [Rect.contains_iff, Rect.contains_iff, blockSize_cast]
  simp only [stripe, blockSize]
  omega

theorem dirty_blockAt_iff {index : Nat} {point : Point}
    (inside : (stripe rect index).contains point = true) :
    Dirty old new store (blockAt rect point) ↔
      ∃ x y : Nat, (x / blockSize = ((point.x - rect.left) / blockSize).toNat ∧
          x < (rect.right - rect.left).toNat ∧
            y < ((stripe rect index).bottom - (stripe rect index).top).toNat) ∧
        old.view store ⟨rect.left + x, (stripe rect index).top + y⟩ ≠
          new.view store ⟨rect.left + x, (stripe rect index).top + y⟩ := by
  rw [contains_stripe_iff, Rect.contains_iff, blockSize_cast] at inside
  simp only [blockSize_cast, stripe]
  simp only [blockSize]
  constructor
  next =>
    rintro ⟨⟨qx, qy⟩, within, apart⟩
    simp only [Rect.contains_iff, blockAt, blockSize_cast] at within
    have column : rect.left + ((qx - rect.left).toNat : Int) = qx := by omega
    have line : rect.top + ((index * 32 : Nat) : Int) +
        ((qy - (rect.top + ((index * 32 : Nat) : Int))).toNat : Int) = qy := by omega
    refine ⟨_, _, ⟨?_, ?_, ?_⟩, by rw [column, line]; exact apart⟩
    all_goals omega
  next =>
    rintro ⟨x, y, ⟨same, column, line⟩, apart⟩
    refine ⟨_, ?_, apart⟩
    simp only [Rect.contains_iff, blockAt, blockSize_cast]
    omega

theorem exists_dirty_of_addRow {index : Nat} (solid : rect.left < rect.right)
    (added : addRow old new rect store index output = .ok result) :
    ∃ dirty : List Bool, dirty.length = ((rect.right - rect.left).toNat - 1) / blockSize + 1 ∧
      (∀ block, dirty[block]? = some true ↔ ∃ x y : Nat, (x / blockSize = block ∧
          x < (rect.right - rect.left).toNat ∧
            y < ((stripe rect index).bottom - (stripe rect index).top).toNat) ∧
        old.view store ⟨rect.left + x, (stripe rect index).top + y⟩ ≠
          new.view store ⟨rect.left + x, (stripe rect index).top + y⟩) ∧
      (runs 0 none dirty).foldlM (addRun (stripe rect index) dirty.length) output = .ok result := by
  obtain ⟨bottom, reached, added⟩ := Checked.bind_eq_ok.mp added
  obtain ⟨_, rfl⟩ := coordinate_eq_ok_iff.mp reached
  obtain ⟨oldPlane, oldFound, added⟩ := Checked.bind_eq_ok.mp added
  obtain ⟨newPlane, newFound, added⟩ := Checked.bind_eq_ok.mp added
  obtain ⟨⟨across, down⟩, _, _, rfl⟩ := Frame.planeAt_eq_ok_iff.mp oldFound
  obtain ⟨_, _, _, rfl⟩ := Frame.planeAt_eq_ok_iff.mp newFound
  obtain ⟨height, high, added⟩ := Checked.bind_eq_ok.mp added
  obtain ⟨width, wide, added⟩ := Checked.bind_eq_ok.mp added
  obtain ⟨_, rfl⟩ := coordinate_eq_ok_iff.mp high
  obtain ⟨_, rfl⟩ := coordinate_eq_ok_iff.mp wide
  obtain ⟨dirty, found, added⟩ := Checked.bind_eq_ok.mp added
  have some_wide : 0 < (rect.right - rect.left).toNat := by omega
  obtain ⟨length, each⟩ := dirtyBlocks_eq_ok some_wide found
  refine ⟨dirty, length, fun block => ?_, added⟩
  rw [each block]
  simp only [old.pixel_corner store across down, new.pixel_corner store across down]
  rfl

theorem addRow_eq_ok {index : Nat} (solid : rect.left < rect.right)
    (added : addRow old new rect store index output = .ok result) (point : Point) :
    result.contains point = true ↔ output.contains point = true ∨
      (rect.contains point = true ∧ (point.y - rect.top) / blockSize = index) ∧
        Dirty old new store (blockAt rect point) := by
  obtain ⟨dirty, length, each, added⟩ := exists_dirty_of_addRow solid added
  have within : ∀ run ∈ runs 0 none dirty, run.2 ≤ dirty.length :=
    fun run member => by simpa using runs_le 0 none dirty run member
  have wide : (stripe rect index).left < (stripe rect index).right := solid
  rw [Region.contains_foldlM (fun run member _ _ added =>
      addRun_eq_ok added wide length (within run member)) added, ← contains_stripe_iff]
  refine or_congr_right ?_
  rw [and_comm]
  simp only [← and_assoc, exists_and_right]
  refine and_congr_left fun inside => ?_
  have column : 0 ≤ (point.x - rect.left) / (blockSize : Int) := by
    rw [contains_stripe_iff, Rect.contains_iff, blockSize_cast] at inside
    rw [blockSize_cast]
    omega
  obtain ⟨block, here⟩ := Int.eq_ofNat_of_zero_le column
  have same : (point.x - (stripe rect index).left) / (blockSize : Int) = block := here
  have found := exists_mem_runs 0 none dirty block (by simp)
  rw [dirty_blockAt_iff inside, here, Int.toNat_natCast, ← each]
  simp only [same, Int.ofNat_le, Int.ofNat_lt, and_assoc]
  simpa using found

theorem contains_rows {area : Rect} (solid : area.isEmpty = false)
    (swept : sweep (addRow old new area store)
      (((area.bottom - area.top).toNat + (blockSize - 1)) / blockSize) 0 output = .ok result)
    (point : Point) : result.contains point = true ↔ output.contains point = true ∨
      area.contains point = true ∧ Dirty old new store (blockAt area point) := by
  rw [Rect.isEmpty_eq_false_iff] at solid
  -- After some of the rows of blocks, the dirty points in these are in the output.
  let invariant (index : Nat) (region : Region) : Prop := ∀ point,
    region.contains point = true ↔ output.contains point = true ∨
      (area.contains point = true ∧ (point.y - area.top) / blockSize < (index : Int)) ∧
        Dirty old new store (blockAt area point)
  have start : invariant 0 output := by
    intro point
    have above : ¬(area.contains point = true ∧ (point.y - area.top) / blockSize < ((0 : Nat) : Int)) := by
      rw [Rect.contains_iff, blockSize_cast]
      omega
    simp only [above, false_and, or_false]
  have every := sweep_leaves invariant _ start swept fun index state next _ _ kept added point => by
    rw [addRow_eq_ok solid.1 added point, kept point, or_assoc, ← or_and_right, ← and_or_left]
    refine or_congr_right (and_congr_left fun _ => and_congr_right fun _ => ?_)
    omega
  rw [every point]
  refine or_congr_right (and_congr_left fun _ => ⟨And.left, fun inside => ⟨inside, ?_⟩⟩)
  rw [Rect.contains_iff] at inside
  rw [blockSize_cast]
  simp only [blockSize]
  omega

theorem compare_cases (compared : compare old new store rect output = .ok result) :
    let area := rect.meet old.bounds
    old.size = new.size ∧ ((area.isEmpty = true ∧ result = output) ∨ (area.isEmpty = false ∧
      sweep (addRow old new area store)
        (((area.bottom - area.top).toNat + (blockSize - 1)) / blockSize) 0 output = .ok result)) := by
  intro area
  by_cases alike : old.size = new.size
  next =>
    refine ⟨alike, ?_⟩
    simp only [compare, alike, ne_eq, not_true, if_false] at compared
    cases empty : area.isEmpty with
    | true =>
      rw [if_pos empty] at compared
      exact .inl ⟨rfl, (Except.ok.inj compared).symm⟩
    | false =>
      rw [if_neg (Bool.not_eq_true _ ▸ empty)] at compared
      exact .inr ⟨rfl, compared⟩
  next =>
    simp only [compare, ne_eq, alike, not_false_iff, if_true, throw, throwThe,
      MonadExceptOf.throw, Checked.error_bind] at compared
    cases compared

theorem compare_canonical (compared : compare old new store rect output = .ok result)
    (canonical : output.Canonical) : result.Canonical := by
  obtain ⟨_, ⟨_, rfl⟩ | ⟨solid, swept⟩⟩ := compare_cases compared
  next => exact canonical
  next =>
    have wide := ((Rect.isEmpty_eq_false_iff _).mp solid).1
    refine sweep_leaves (fun _ region => region.Canonical) _ canonical swept ?_
    intro index region next _ _ canonical added
    obtain ⟨_, _, _, added⟩ := exists_dirty_of_addRow wide added
    refine Region.foldlM_canonical (fun run output result canonical added => ?_) added canonical
    obtain ⟨left, _, added⟩ := Checked.bind_eq_ok.mp added
    dsimp only at added
    split at added
    all_goals
      obtain ⟨right, _, added⟩ := Checked.bind_eq_ok.mp added
      cases added
      exact Region.insert_canonical canonical _

variable {old' new' : Frame} {store' : Store} {result' : Region}

def DifferAlike (old new : Frame) (store : Store) (old' new' : Frame) (store' : Store)
    (area : Rect) : Prop :=
  ∀ point, area.contains point = true →
    (old'.view store' point ≠ new'.view store' point ↔ old.view store point ≠ new.view store point)

theorem addRow_unique {index : Nat} (alike : DifferAlike old new store old' new' store' rect)
    (solid : rect.left < rect.right) (added : addRow old new rect store index output = .ok result)
    (added' : addRow old' new' rect store' index output = .ok result') : result' = result := by
  obtain ⟨dirty, length, each, added⟩ := exists_dirty_of_addRow solid added
  obtain ⟨dirty', length', each', added'⟩ := exists_dirty_of_addRow solid added'
  have same : dirty' = dirty := by
    refine List.ext_getElem (length'.trans length.symm) fun block known' known => ?_
    have both : dirty'[block]? = some true ↔ dirty[block]? = some true := by
      rw [each, each']
      refine exists_congr fun x => exists_congr fun y => and_congr_right fun ⟨_, column, row⟩ => ?_
      refine alike _ ?_
      rw [Rect.contains_iff]
      simp only [stripe] at row ⊢
      omega
    rw [List.getElem?_eq_getElem known', List.getElem?_eq_getElem known, Option.some.injEq,
      Option.some.injEq] at both
    exact Bool.eq_iff_iff.mpr both
  rw [same, added] at added'
  exact (Except.ok.inj added').symm

theorem contains_compare (compared : compare old new store rect output = .ok result) (point : Point) :
    result.contains point = true ↔ output.contains point = true ∨
      (rect.meet old.bounds).contains point = true ∧
        Dirty old new store (blockAt (rect.meet old.bounds) point) := by
  obtain ⟨_, ⟨empty, rfl⟩ | ⟨solid, swept⟩⟩ := compare_cases compared
  next => simp only [Rect.contains_of_isEmpty empty, Bool.false_eq_true, false_and, or_false]
  next => exact contains_rows solid swept point

end Changes

end ScreenCapture
