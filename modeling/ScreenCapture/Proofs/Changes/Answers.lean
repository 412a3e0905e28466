import ScreenCapture.Proofs.Changes.Comparison
import ScreenCapture.Proofs.Layout.Access

set_option autoImplicit false

namespace ScreenCapture

namespace Checked

variable {A B State : Type}

theorem mapM_answers {step : A → Checked B} {items : List A}
    (each : ∀ item ∈ items, ∃ result, step item = .ok result) :
    ∃ results, items.mapM step = .ok results := by
  induction items with
  | nil => exact ⟨[], rfl⟩
  | cons first rest ih =>
    obtain ⟨result, taken⟩ := each first (List.mem_cons_self ..)
    obtain ⟨results, mapped⟩ := ih fun item member => each item (List.mem_cons_of_mem _ member)
    rw [List.mapM_cons, taken, Checked.ok_bind, mapped, Checked.ok_bind]
    exact ⟨_, rfl⟩

theorem foldlM_answers_iff {step : State → A → Checked State} {items : List A} {state : State}
    {passes : A → Prop}
    (each : ∀ item ∈ items, ∀ state, (∃ next, step state item = .ok next) ↔ passes item) :
    (∃ last, items.foldlM step state = .ok last) ↔ ∀ item ∈ items, passes item := by
  induction items generalizing state with
  | nil => exact iff_of_true ⟨state, rfl⟩ nofun
  | cons first rest ih =>
    have later (state : State) : (∃ last, rest.foldlM step state = .ok last) ↔
        ∀ item ∈ rest, passes item :=
      ih fun item member => each item (List.mem_cons_of_mem _ member)
    rw [List.forall_mem_cons, List.foldlM_cons]
    constructor
    next =>
      intro ⟨last, folded⟩
      obtain ⟨next, taken, folded⟩ := Checked.bind_eq_ok.mp folded
      exact ⟨(each first (List.mem_cons_self ..) state).mp ⟨next, taken⟩,
        (later next).mp ⟨last, folded⟩⟩
    next =>
      intro ⟨passed, rest⟩
      obtain ⟨next, taken⟩ := (each first (List.mem_cons_self ..) state).mpr passed
      rw [taken, Checked.ok_bind]
      exact (later next).mpr rest

theorem foldlM_answers {step : State → A → Checked State} {items : List A} {state : State}
    (each : ∀ item ∈ items, ∀ state, ∃ next, step state item = .ok next) :
    ∃ last, items.foldlM step state = .ok last :=
  (foldlM_answers_iff fun item member state => iff_of_true (each item member state) trivial).mpr
    fun _ _ => trivial

end Checked

namespace Plane

variable {old new : Plane} {width height y : Nat}

theorem HasRoom.row_le (room : old.HasRoom width height) (row : y < height) :
    old.start + y * old.stride + width * bytesPerPixel ≤ old.bytes.size := by
  have inside := room.1
  have above := old.row_le_of_lt row
  omega

theorem HasRoom.rowStart_eq (room : old.HasRoom width height) (row : y < height) :
    old.rowStart y = .ok (y * old.stride) := by
  have inside := room.row_le row
  have addressable := room.2
  exact address_eq_ok_iff.mpr ⟨by omega, rfl⟩

theorem differs_answers (oldRoom : old.HasRoom width height) (newRoom : new.HasRoom width height) :
    ∃ answer, old.differs new (width * bytesPerPixel) height = .ok answer := by
  refine sweepAny_answers fun y _ row => ?_
  rw [Nat.zero_add] at row
  rw [rowDiffers, oldRoom.rowStart_eq row, Checked.ok_bind,
    twoCuts_eq_ok_iff.mpr ⟨oldRoom.row_le row, rfl⟩, Checked.ok_bind, newRoom.rowStart_eq row,
    Checked.ok_bind, twoCuts_eq_ok_iff.mpr ⟨newRoom.row_le row, rfl⟩, Checked.ok_bind]
  exact ⟨_, rfl⟩

end Plane

namespace Changes

variable {plane old new : Plane} {width height first : Nat}

theorem skip_hasRoom (room : plane.HasRoom (first + width) height) :
    ∃ rest, skip plane (first * bytesPerPixel) = .ok rest ∧ rest.HasRoom width height := by
  have inside := room.1
  rw [Nat.add_mul] at inside
  have found : twoCuts plane.bytes.size plane.start (first * bytesPerPixel) 0 =
      .ok (plane.start + first * bytesPerPixel) := twoCuts_eq_ok_iff.mpr ⟨by omega, rfl⟩
  refine ⟨{ plane with start := plane.start + first * bytesPerPixel }, ?_, ?_, room.2⟩
  next =>
    rw [skip, found]
    rfl
  next =>
    dsimp only
    omega

theorem dirtyBlocks_answers (solid : 0 < width) (oldRoom : old.HasRoom width height)
    (newRoom : new.HasRoom width height) :
    ∃ dirty, dirtyBlocks old new width height = .ok dirty := by
  refine Checked.mapM_answers fun block member => ?_
  have known := List.mem_range.mp member
  dsimp only
  rw [blockBytes_eq known, blockBytes, ← Nat.mul_assoc]
  have within : block * blockSize + (min width ((block + 1) * blockSize) - block * blockSize) ≤
      width := by
    simp only [blockSize] at known ⊢
    omega
  have narrower {plane : Plane} (room : plane.HasRoom width height) : plane.HasRoom
      (block * blockSize + (min width ((block + 1) * blockSize) - block * blockSize)) height := by
    have fewer := Nat.mul_le_mul_right bytesPerPixel within
    have inside := room.1
    exact ⟨by omega, room.2⟩
  obtain ⟨oldRest, oldSkipped, oldRoom⟩ := skip_hasRoom (narrower oldRoom)
  obtain ⟨newRest, newSkipped, newRoom⟩ := skip_hasRoom (narrower newRoom)
  rw [blockDiffers, oldSkipped, Checked.ok_bind, newSkipped, Checked.ok_bind]
  exact Plane.differs_answers oldRoom newRoom

theorem runs_solid (index : Nat) (start : Option Nat) (dirty : List Bool)
    (before : ∀ first ∈ start, first < index) : ∀ run ∈ runs index start dirty, run.1 < run.2 := by
  induction dirty generalizing index start with
  | nil => cases start <;> simp_all [runs]
  | cons answer rest ih =>
    intro run member
    cases start with
    | none =>
      cases answer with
      | true => exact ih (index + 1) (some index) (by simp) run member
      | false => exact ih (index + 1) none (by simp) run member
    | some first =>
      have below := before first rfl
      cases answer with
      | true => exact ih (index + 1) (some first) (by simpa using Nat.lt_succ_of_lt below) run member
      | false =>
        rcases List.mem_cons.mp member with rfl | later
        next => exact below
        next => exact ih (index + 1) none (by simp) run later

theorem blockLeft_eq {row : Rect} {block : Nat} (across : 0 ≤ row.left)
    (within : IsCoordinate (row.left + ((block * blockSize : Nat) : Int))) :
    blockLeft row block = .ok (row.left + ((block * blockSize : Nat) : Int)) := by
  have distance : IsCoordinate ((block * blockSize : Nat) : Int) := by
    unfold IsCoordinate at within ⊢
    omega
  rw [blockLeft, coordinate_of_isCoordinate distance, Checked.ok_bind,
    coordinate_of_isCoordinate within]

variable {row rect : Rect} {count : Nat} {run : Nat × Nat} {output : Region}

theorem addRun_answers (across : 0 ≤ row.left) (right : IsCoordinate row.right)
    (solid : row.left < row.right) (all : count = ((row.right - row.left).toNat - 1) / blockSize + 1)
    (ordered : run.1 < run.2) (within : run.2 ≤ count) :
    ∃ result, addRun row count output run = .ok result := by
  have reached {block : Nat} (inner : block < count) :
      blockLeft row block = .ok (row.left + ((block * blockSize : Nat) : Int)) := by
    refine blockLeft_eq across ?_
    simp only [blockSize] at all ⊢
    unfold IsCoordinate at right ⊢
    omega
  rw [addRun, reached (by omega), Checked.ok_bind]
  split
  next => exact ⟨_, rfl⟩
  next inner =>
    rw [reached (by omega), Checked.ok_bind]
    exact ⟨_, rfl⟩

variable {oldFrame newFrame : Frame} {store : Store} {index : Nat}

theorem addRow_eq (reached : IsCoordinate ((stripe rect index).top + (blockSize : Int))) :
    addRow oldFrame newFrame rect store index output = (do
      let oldPlane ← oldFrame.planeAt (stripe rect index).topLeft store
      let newPlane ← newFrame.planeAt (stripe rect index).topLeft store
      let height ← (stripe rect index).height
      let width ← (stripe rect index).width
      let dirty ← dirtyBlocks oldPlane newPlane width.toNat height.toNat
      (runs 0 none dirty).foldlM (addRun (stripe rect index) dirty.length) output) := by
  rw [addRow]
  dsimp only
  exact congrArg (· >>= _) (coordinate_of_isCoordinate reached)

theorem addRow_answers_iff (fits : oldFrame.Fits store) (newFits : newFrame.Fits store)
    (inside : oldFrame.bounds.encloses rect = true) (newInside : newFrame.bounds.encloses rect = true)
    (wide : rect.left < rect.right)
    (line : rect.top + ((index * blockSize : Nat) : Int) < rect.bottom) :
    (∃ result, addRow oldFrame newFrame rect store index output = .ok result) ↔
      IsCoordinate (rect.top + ((index * blockSize : Nat) : Int) + (blockSize : Int)) := by
  constructor
  next =>
    rintro ⟨result, added⟩
    obtain ⟨bottom, reached, _⟩ := Checked.bind_eq_ok.mp added
    exact (coordinate_eq_ok_iff.mp reached).1
  next =>
    intro reached
    have edges := Frame.bounds_encloses_iff.mp inside
    have right := fits.width.2
    have low := fits.height.2
    unfold IsCoordinate at right low
    have solid : (stripe rect index).isEmpty = false := by
      rw [Rect.isEmpty_eq_false_iff]
      simp only [stripe, blockSize_cast]
      omega
    have narrower : rect.encloses (stripe rect index) = true := by
      rw [Rect.encloses_iff]
      simp only [stripe, blockSize_cast]
      omega
    have stripeInside := Rect.encloses_trans inside narrower
    have newStripeInside := Rect.encloses_trans newInside narrower
    have top := Frame.contains_topLeft solid
    have width : (stripe rect index).width =
        .ok ((stripe rect index).right - (stripe rect index).left) := by
      refine coordinate_of_isCoordinate ?_
      simp only [stripe]
      unfold IsCoordinate
      omega
    have height : (stripe rect index).height =
        .ok ((stripe rect index).bottom - (stripe rect index).top) := by
      refine coordinate_of_isCoordinate ?_
      simp only [stripe, blockSize_cast]
      unfold IsCoordinate
      omega
    have oldRoom := fits.corner_hasRoom stripeInside solid
    have newRoom := newFits.corner_hasRoom newStripeInside solid
    have columns : 0 < ((stripe rect index).right - (stripe rect index).left).toNat := by
      simp only [stripe]
      omega
    obtain ⟨dirty, found⟩ := dirtyBlocks_answers columns oldRoom newRoom
    have length := (dirtyBlocks_eq_ok columns found).1
    rw [addRow_eq reached, fits.planeAt_eq (Rect.contains_of_encloses stripeInside top),
      Checked.ok_bind, newFits.planeAt_eq (Rect.contains_of_encloses newStripeInside top),
      Checked.ok_bind, height, Checked.ok_bind, width, Checked.ok_bind, found, Checked.ok_bind]
    refine Checked.foldlM_answers fun run member output => ?_
    have ordered := runs_solid 0 none dirty (by simp) run member
    have within := runs_le 0 none dirty run member
    rw [Nat.zero_add] at within
    refine addRun_answers edges.1.1 ?_ wide length ordered within
    simp only [stripe]
    unfold IsCoordinate
    omega

def blockRows (area : Rect) : Nat := ((area.bottom - area.top).toNat + (blockSize - 1)) / blockSize

def BlocksFit (area : Rect) : Prop :=
  area.isEmpty = true ∨ IsCoordinate (area.top + ((blockRows area * blockSize : Nat) : Int))

instance (area : Rect) : Decidable (BlocksFit area) :=
  inferInstanceAs (Decidable (_ ∨ _))

theorem blocksFit_of_low {size : Size} (low : size.height ≤ 2147483616) :
    BlocksFit (rect.meet (.ofSize size)) := by
  obtain hollow | ⟨solid, _, inside⟩ := Rect.meet_cases rect (.ofSize size)
  next => exact .inl (by rw [hollow]; rfl)
  next =>
    have ordered := (Rect.isEmpty_eq_false_iff _).mp solid
    simp only [Rect.encloses_iff, Rect.ofSize] at inside
    refine .inr ?_
    simp only [blockRows, blockSize, IsCoordinate, Rect.ofSize] at ordered inside ⊢
    omega

theorem exists_rows_iff (fits : oldFrame.Fits store) (newFits : newFrame.Fits store)
    (inside : oldFrame.bounds.encloses rect = true) (newInside : newFrame.bounds.encloses rect = true)
    (solid : rect.isEmpty = false) :
    (∃ result, sweep (addRow oldFrame newFrame rect store) (blockRows rect) 0 output = .ok result) ↔
      IsCoordinate (rect.top + ((blockRows rect * blockSize : Nat) : Int)) := by
  have ordered := (Rect.isEmpty_eq_false_iff rect).mp solid
  have edges := Frame.bounds_encloses_iff.mp inside
  have some : blockRows rect ≠ 0 := by
    simp only [blockRows, blockSize]
    omega
  have line {index : Nat} (below : index < blockRows rect) :
      rect.top + ((index * blockSize : Nat) : Int) < rect.bottom := by
    simp only [blockRows, blockSize] at below ⊢
    omega
  have each {index : Nat} {output : Region} (below : index < blockRows rect) :
      (∃ result, addRow oldFrame newFrame rect store index output = .ok result) ↔
        IsCoordinate (rect.top + ((index * blockSize : Nat) : Int) + (blockSize : Int)) :=
    addRow_answers_iff fits newFits inside newInside ordered.1 (line below)
  constructor
  next =>
    rintro ⟨result, swept⟩
    -- Every row that went through ended at a coordinate.
    have ended := sweep_leaves (fun index _ => index = 0 ∨
        IsCoordinate (rect.top + ((index * blockSize : Nat) : Int))) _ (.inl rfl) swept
      fun index state next _ below _ added => by
        have reached := (each (by omega)).mp ⟨next, added⟩
        rw [Nat.add_one_mul, Int.natCast_add, ← Int.add_assoc]
        exact .inr reached
    rw [Nat.zero_add] at ended
    exact ended.resolve_left some
  next =>
    intro reached
    have swept : ∃ last, sweep (addRow oldFrame newFrame rect store) (blockRows rect) 0 output =
        .ok last ∧ True := by
      refine sweep_keeps (fun _ _ => True) _ trivial fun index state _ below _ => ?_
      rw [Nat.zero_add] at below
      have ended : IsCoordinate
          (rect.top + ((index * blockSize : Nat) : Int) + (blockSize : Int)) := by
        simp only [blockSize] at reached ⊢
        unfold IsCoordinate at reached ⊢
        omega
      obtain ⟨next, added⟩ := (each below).mpr ended
      exact ⟨next, added, trivial⟩
    exact swept.imp fun _ => And.left

theorem exists_compare_iff (fits : oldFrame.Fits store) (newFits : newFrame.Fits store) :
    (∃ result, compare oldFrame newFrame store rect output = .ok result) ↔
      oldFrame.size = newFrame.size ∧ BlocksFit (rect.meet oldFrame.bounds) := by
  obtain hollow | ⟨solid, _, inside⟩ := Rect.meet_cases rect oldFrame.bounds
  next =>
    constructor
    next =>
      intro ⟨result, compared⟩
      exact ⟨(compare_cases compared).1, .inl (by rw [hollow]; rfl)⟩
    next =>
      intro ⟨alike, _⟩
      refine ⟨output, ?_⟩
      simp only [compare, alike, hollow, ne_eq, not_true, if_false]
      rfl
  next =>
    have newInside (alike : oldFrame.size = newFrame.size) :
        newFrame.bounds.encloses (rect.meet oldFrame.bounds) = true :=
      (congrArg (fun size => (Rect.ofSize size).encloses (rect.meet oldFrame.bounds)) alike.symm).trans
        inside
    constructor
    next =>
      intro ⟨result, compared⟩
      obtain ⟨alike, ⟨hollow, _⟩ | ⟨_, swept⟩⟩ := compare_cases compared
      next => exact ⟨alike, .inl hollow⟩
      next =>
        exact ⟨alike, .inr ((exists_rows_iff fits newFits inside (newInside alike) solid).mp ⟨_, swept⟩)⟩
    next =>
      intro ⟨alike, room⟩
      have ended := room.resolve_left (Bool.not_eq_true _ ▸ solid)
      obtain ⟨result, swept⟩ : ∃ result, sweep (addRow oldFrame newFrame (rect.meet oldFrame.bounds)
          store) (blockRows (rect.meet oldFrame.bounds)) 0 output = .ok result :=
        (exists_rows_iff fits newFits inside (newInside alike) solid).mpr ended
      refine ⟨result, ?_⟩
      rw [compare, if_neg (not_not_intro alike)]
      dsimp only
      rw [if_neg (Bool.not_eq_true _ ▸ solid)]
      exact swept

end Changes

end ScreenCapture
