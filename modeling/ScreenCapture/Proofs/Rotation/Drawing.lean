import ScreenCapture.Proofs.Ownership.Runs
import ScreenCapture.Proofs.Pixels.Transfer

set_option autoImplicit false

namespace ScreenCapture

namespace Rotation

variable {rotation : Rotation} {size : Size} {offset : Point} {rect target : Rect}

theorem landing_eq_ok_iff : rotation.landing size offset rect = .ok target ↔
    ∃ turned, rotation.turnRect size rect = .ok turned ∧ turned.shift offset = .ok target :=
  Checked.bind_eq_ok

theorem landing_eq_ok (landed : rotation.landing size offset rect = .ok target) :
    target = (rotation.turned size rect).moved offset ∧ target.Bounded := by
  obtain ⟨turned, turning, shifted⟩ := landing_eq_ok_iff.mp landed
  rw [Rect.shift_eq, turnRect_eq_ok rotation size rect turning] at shifted
  split at shifted
  next bounded =>
    cases shifted
    exact ⟨rfl, bounded⟩
  next => cases shifted

theorem landing_isEmpty (landed : rotation.landing size offset rect = .ok target) :
    target.isEmpty = rect.isEmpty := by
  obtain ⟨rfl, _⟩ := landing_eq_ok landed
  rw [← rotation.turned_isEmpty size rect, Bool.eq_iff_iff, Rect.isEmpty_iff, Rect.isEmpty_iff]
  simp only [Rect.moved]
  omega

theorem landing_extent (landed : rotation.landing size offset rect = .ok target) :
    rotation.turnExtent (rect.right - rect.left).toNat (rect.bottom - rect.top).toNat =
      ((target.right - target.left).toNat, (target.bottom - target.top).toNat) := by
  obtain ⟨rfl, _⟩ := landing_eq_ok landed
  cases rotation <;> simp only [turnExtent, turned, Rect.moved, Prod.mk.injEq] <;> omega

theorem landing_square (landed : rotation.landing size offset rect = .ok target)
    (wide : IsCoordinate size.width) (high : IsCoordinate size.height)
    (inside : (Rect.ofSize size).encloses rect = true) {point : Point}
    (contained : rect.contains point = true) :
    ∃ cell : Point, rotation.landing size offset point.square = .ok cell.square ∧
      target.contains cell = true ∧
        cell = ⟨(rotation.turnedPoint size point).x + offset.x,
          (rotation.turnedPoint size point).y + offset.y⟩ := by
  obtain ⟨rfl, bounded⟩ := landing_eq_ok landed
  have solid : point.square.isEmpty = false := by
    rw [Rect.isEmpty_eq_false_iff]
    simp only [Point.square]
    omega
  have within : (Rect.ofSize size).encloses point.square = true := by
    rw [Rect.encloses_iff] at inside ⊢
    rw [Rect.contains_iff] at contained
    simp only [Point.square]
    omega
  have lands : ((rotation.turned size rect).moved offset).contains
      ⟨(rotation.turnedPoint size point).x + offset.x,
        (rotation.turnedPoint size point).y + offset.y⟩ = true := by
    rw [Rect.contains_moved]
    simp only [Int.add_sub_cancel]
    rw [rotation.contains_turned]
    exact contained
  refine ⟨_, ?_, lands, rfl⟩
  have edges := (Rect.contains_iff _ _).mp lands
  rw [landing_eq_ok_iff]
  refine ⟨_, rotation.turnRect_eq wide high within solid, ?_⟩
  rw [turned_square, Rect.shift_eq, if_pos]
  next =>
    simp only [Rect.moved, Point.square, Except.ok.injEq, Rect.mk.injEq, true_and]
    omega
  next =>
    simp only [Rect.Bounded, IsCoordinate, Rect.moved, Point.square] at bounded edges ⊢
    omega

end Rotation

namespace Frame

variable {frame source drawn : Frame} {rect target : Rect} {rotation : Rotation} {offset : Point}
  {store next : Store} {others : Multiset Frame}

structure DrawnTurned (frame source : Frame) (rect : Rect) (rotation : Rotation) (offset : Point)
    (target : Rect) (store : Store) (drawn : Frame) (next : Store) : Prop where
  pixels : ∀ point, rect.contains point = true →
    ∃ cell, rotation.landing source.size offset point.square = .ok cell ∧
      drawn.view next cell.topLeft = source.view store point
  outside : ∀ point, frame.bounds.contains point = true → target.contains point = false →
    drawn.view next point = frame.view store point
  bytes : ∀ index, (∀ point, target.contains point = true → ¬ frame.Covers point index) →
    (next.bytes frame.buffer).byte index = (store.bytes frame.buffer).byte index
  length : (next.bytes frame.buffer).size = (store.bytes frame.buffer).size
  updated : ∀ point, drawn.info.updated.contains point =
    (frame.info.updated.contains point || target.contains point)
  described : drawn = frame.withUpdated drawn.info.updated

def HoldsTurned (frame source : Frame) (rect : Rect) (rotation : Rotation) (target : Rect)
    (store : Store) (bytes : Bytes) : Prop :=
  Drawn (source.corner store rect.topLeft) (frame.corner store target.topLeft)
    (rotation.turnCell (rect.right - rect.left).toNat (rect.bottom - rect.top).toNat)
    (fun x y => x < (rect.right - rect.left).toNat ∧ y < (rect.bottom - rect.top).toNat) bytes

theorem drawTurned_eq_ok
    (ran : frame.drawTurned source rect rotation offset store = .ok (drawn, next)) :
    ∃ target, rotation.landing source.size offset rect = .ok target ∧
      (target.isEmpty = true ∧ drawn = frame ∧ next = store ∨
        target.isEmpty = false ∧ source.bounds.encloses rect = true ∧
          frame.bounds.encloses target = true ∧ frame.isWritable store = true) := by
  unfold drawTurned at ran
  obtain ⟨turned, turning, ran⟩ := Checked.bind_eq_ok.mp ran
  obtain ⟨target, shifted, ran⟩ := Checked.bind_eq_ok.mp ran
  refine ⟨target, Rotation.landing_eq_ok_iff.mpr ⟨turned, turning, shifted⟩, ?_⟩
  dsimp only at ran
  split at ran
  next hollow =>
    cases ran
    exact .inl ⟨hollow, rfl, rfl⟩
  next solid =>
    split at ran
    next => cases ran
    next inside =>
      split at ran
      next => cases ran
      next targetInside =>
        obtain ⟨plane, _, ran⟩ := Checked.bind_eq_ok.mp ran
        obtain ⟨width, _, ran⟩ := Checked.bind_eq_ok.mp ran
        obtain ⟨height, _, ran⟩ := Checked.bind_eq_ok.mp ran
        obtain ⟨written, edited, _⟩ := Checked.bind_eq_ok.mp ran
        obtain ⟨position, _, changed⟩ := Checked.bind_eq_ok.mp edited
        exact .inr ⟨by simpa using solid, by simpa using inside, by simpa using targetInside,
          (edit_eq_ok changed).1⟩

theorem drawTurned_landed (sourceFits : source.Fits store)
    (landed : rotation.landing source.size offset rect = .ok target)
    (inside : source.bounds.encloses rect = true) (solid : rect.isEmpty = false) :
    frame.drawTurned source rect rotation offset store =
      if frame.bounds.encloses target = true then (do
        let next ← frame.editAt target.topLeft
          ((source.corner store rect.topLeft).turnBlock rotation (rect.right - rect.left).toNat
            (rect.bottom - rect.top).toNat) store
        return (frame.withUpdated (frame.info.updated.insert target), next))
      else .error (.breach (.targetOutside target frame.size)) := by
  obtain ⟨turned, turning, shifted⟩ := Rotation.landing_eq_ok_iff.mp landed
  have targetSolid : target.isEmpty = false := (Rotation.landing_isEmpty landed).trans solid
  have ordered := (Rect.isEmpty_eq_false_iff _).mp solid
  have edges := bounds_encloses_iff.mp inside
  have wide : rect.width = .ok (rect.right - rect.left) := by
    have range := sourceFits.width.2
    exact coordinate_of_isCoordinate (by unfold IsCoordinate at range ⊢; omega)
  have high : rect.height = .ok (rect.bottom - rect.top) := by
    have range := sourceFits.height.2
    exact coordinate_of_isCoordinate (by unfold IsCoordinate at range ⊢; omega)
  have first := Rect.contains_of_encloses inside (contains_topLeft solid)
  unfold drawTurned
  rw [turning, Checked.ok_bind, shifted, Checked.ok_bind]
  simp only [targetSolid, inside, sourceFits.planeAt_eq first, wide, high, Checked.ok_bind,
    Bool.false_eq_true, if_false, Bool.not_true]
  cases frame.bounds.encloses target <;> rfl

section Conditions

variable (fits : frame.Fits store) (sourceFits : source.Fits store)
  (landed : rotation.landing source.size offset rect = .ok target)
  (solid : target.isEmpty = false) (inside : source.bounds.encloses rect = true)
  (targetInside : frame.bounds.encloses target = true)

include fits sourceFits landed solid inside targetInside

theorem drawTurned_eq (writable : frame.isWritable store = true) :
    ∃ bytes, frame.drawTurned source rect rotation offset store =
        .ok (frame.withUpdated (frame.info.updated.insert target),
          store.setBytes frame.buffer bytes) ∧
      frame.HoldsTurned source rect rotation target store bytes := by
  have extent := Rotation.landing_extent landed
  have sourceSolid : rect.isEmpty = false := Rotation.landing_isEmpty landed ▸ solid
  have targetEdges := bounds_encloses_iff.mp targetInside
  obtain ⟨bytes, drew, painted⟩ : ∃ bytes, (source.corner store rect.topLeft).turnBlock rotation
      (rect.right - rect.left).toNat (rect.bottom - rect.top).toNat
        (frame.corner store target.topLeft) = .ok bytes ∧
      frame.HoldsTurned source rect rotation target store bytes := by
    refine Plane.turnBlock_draws (sourceFits.corner_hasRoom inside sourceSolid) ?_ (.inl ?_)
    next =>
      rw [extent]
      exact fits.corner_hasRoom targetInside solid
    next =>
      have rows := fits.rows
      simp only [rowBytes, Size.rowBytes, bytesPerPixel] at rows
      simp only [extent, corner, bytesPerPixel]
      omega
  refine ⟨bytes, ?_, painted⟩
  rw [drawTurned_landed sourceFits landed inside sourceSolid, if_pos targetInside, fits.editAt_eq
    (Rect.contains_of_encloses targetInside (contains_topLeft solid)) writable drew]
  rfl

omit fits solid in
theorem exists_landing_cell {x y : Nat} (column : x < (rect.right - rect.left).toNat)
    (row : y < (rect.bottom - rect.top).toNat) {cell : Nat × Nat}
    (turn : rotation.turnCell (rect.right - rect.left).toNat (rect.bottom - rect.top).toNat x y =
      cell) :
    ∃ point : Point, rotation.landing source.size offset
        (Point.square ⟨rect.left + x, rect.top + y⟩) = .ok point.square ∧
      target.contains point = true ∧
        (frame.corner store target.topLeft).cell cell.1 cell.2 = frame.place point := by
  have targetEdges := bounds_encloses_iff.mp targetInside
  have contained : rect.contains ⟨rect.left + x, rect.top + y⟩ = true := by
    rw [Rect.contains_iff]
    dsimp only
    omega
  obtain ⟨point, lands, within, equal⟩ := Rotation.landing_square landed sourceFits.width.2
    sourceFits.height.2 inside contained
  refine ⟨point, lands, within, ?_⟩
  rw [frame.cell_corner store targetEdges.1.1 targetEdges.2.1, equal,
    rotation.turnedPoint_eq_turnCell column row turn, (Rotation.landing_eq_ok landed).1]
  simp only [Rect.topLeft, Rect.moved, Int.add_right_comm]

theorem HoldsTurned.drawnTurned {bytes : Bytes}
    (holds : frame.HoldsTurned source rect rotation target store bytes) :
    DrawnTurned frame source rect rotation offset target store
      (frame.withUpdated (frame.info.updated.insert target))
      (store.setBytes frame.buffer bytes) := by
  have same := fits.bytes_setBytes (isEmpty_of_encloses targetInside solid) bytes
  have edges := bounds_encloses_iff.mp inside
  have untouched : ∀ index, (∀ point, target.contains point = true → ¬ frame.Covers point index) →
      bytes.byte index = (store.bytes frame.buffer).byte index := by
    intro index none
    refine holds.kept index fun x y member covers => ?_
    obtain ⟨point, _, within, place⟩ :=
      exists_landing_cell sourceFits landed inside targetInside member.1 member.2 rfl
    rw [Plane.Covers, place] at covers
    exact none point within covers
  refine ⟨?_, ?_, ?_, ?_, fun point => Region.contains_insert _ _ _, rfl⟩
  next =>
    intro point contained
    have within := (Rect.contains_iff _ _).mp contained
    obtain ⟨x, across⟩ := Int.eq_ofNat_of_zero_le (show 0 ≤ point.x - rect.left by omega)
    obtain ⟨y, down⟩ := Int.eq_ofNat_of_zero_le (show 0 ≤ point.y - rect.top by omega)
    have spot : point = ⟨rect.left + x, rect.top + y⟩ := by
      obtain ⟨px, py⟩ := point
      simp only [Point.mk.injEq] at across down ⊢
      omega
    have column : x < (rect.right - rect.left).toNat := by omega
    have row : y < (rect.bottom - rect.top).toNat := by omega
    obtain ⟨cell, lands, _, place⟩ :=
      exists_landing_cell sourceFits landed inside targetInside column row rfl
    refine ⟨cell.square, spot ▸ lands, ?_⟩
    have taken := holds.taken x y ⟨column, row⟩
    rw [place, source.pixel_corner store edges.1.1 edges.2.1] at taken
    rw [spot]
    exact (congrArg (fun bytes => Bytes.color bytes (frame.place cell)) same).trans taken
  next =>
    intro point known apart
    refine (Bytes.color_eq_iff _ _ _ _).mpr fun step below => ?_
    refine (congrArg (fun bytes => Bytes.byte bytes _) same).trans (untouched _ ?_)
    intro other member covers
    have equal := fits.covers_unique known (Rect.contains_of_encloses targetInside member)
      ⟨Nat.le_add_right _ _, Nat.add_lt_add_left below _⟩ covers
    rw [← equal, apart] at member
    cases member
  next =>
    intro index none
    rw [same]
    exact untouched index none
  next =>
    rw [same]
    exact holds.size

end Conditions

theorem exists_drawTurned_iff (fits : frame.Fits store) (sourceFits : source.Fits store) :
    (∃ result, frame.drawTurned source rect rotation offset store = .ok result) ↔
      ∃ target, rotation.landing source.size offset rect = .ok target ∧
        (target.isEmpty = true ∨
          source.bounds.encloses rect = true ∧ frame.bounds.encloses target = true ∧
            frame.isWritable store = true) := by
  constructor
  next =>
    rintro ⟨⟨drawn, next⟩, ran⟩
    obtain ⟨target, landed, ⟨hollow, _⟩ | ⟨_, conditions⟩⟩ := drawTurned_eq_ok ran
    next => exact ⟨target, landed, .inl hollow⟩
    next => exact ⟨target, landed, .inr conditions⟩
  next =>
    rintro ⟨target, landed, conditions⟩
    cases hollow : target.isEmpty with
    | true =>
      obtain ⟨turned, turning, shifted⟩ := Rotation.landing_eq_ok_iff.mp landed
      refine ⟨(frame, store), ?_⟩
      simp only [drawTurned, turning, shifted, hollow, Checked.ok_bind, if_true]
      rfl
    | false =>
      obtain ⟨inside, targetInside, writable⟩ :=
        conditions.resolve_left (by simp only [hollow, Bool.false_eq_true, not_false_eq_true])
      obtain ⟨bytes, ran, _⟩ :=
        drawTurned_eq fits sourceFits landed hollow inside targetInside writable
      exact ⟨_, ran⟩

theorem drawTurned_outcome (fits : frame.Fits store) (sourceFits : source.Fits store)
    (landed : rotation.landing source.size offset rect = .ok target)
    (ran : frame.drawTurned source rect rotation offset store = .ok (drawn, next)) :
    (target.isEmpty = true ∧ drawn = frame ∧ next = store) ∨
      (target.isEmpty = false ∧
        DrawnTurned frame source rect rotation offset target store drawn next) := by
  obtain ⟨landing, landed', outcome⟩ := drawTurned_eq_ok ran
  obtain rfl : target = landing := Except.ok.inj (landed.symm.trans landed')
  refine outcome.imp id fun ⟨solid, inside, targetInside, writable⟩ => ⟨solid, ?_⟩
  obtain ⟨bytes, ran', holds⟩ :=
    drawTurned_eq fits sourceFits landed solid inside targetInside writable
  obtain ⟨rfl, rfl⟩ := Prod.mk.inj (Except.ok.inj (ran.symm.trans ran'))
  exact holds.drawnTurned fits sourceFits landed solid inside targetInside

theorem drawTurned_exact (owned : Owned store ({frame} + ({source} + others)))
    (fits : frame.Fits store) (sourceFits : source.Fits store) (rect : Rect) (rotation : Rotation)
    (offset : Point) :
    ((∃ result, frame.drawTurned source rect rotation offset store = .ok result) ↔
      ∃ target, rotation.landing source.size offset rect = .ok target ∧
        (target.isEmpty = true ∨
          source.bounds.encloses rect = true ∧ frame.bounds.encloses target = true ∧
            frame.isWritable store = true)) ∧
    ∀ target drawn next, rotation.landing source.size offset rect = .ok target →
      frame.drawTurned source rect rotation offset store = .ok (drawn, next) →
        (target.isEmpty = true → drawn = frame ∧ next = store) ∧
        (target.isEmpty = false →
          DrawnTurned frame source rect rotation offset target store drawn next) ∧
        ∀ other ∈ {source} + others, next.bytes other.buffer = store.bytes other.buffer := by
  refine ⟨exists_drawTurned_iff fits sourceFits, fun target drawn next landed ran => ?_⟩
  have kept := ((drawTurned_writes ran).1.exchange _ owned).2
  rcases drawTurned_outcome fits sourceFits landed ran with ⟨hollow, same⟩ | ⟨solid, drawn⟩
  next => exact ⟨fun _ => same, fun solid => absurd hollow (by simp [solid]), kept⟩
  next => exact ⟨fun hollow => absurd hollow (by simp [solid]), fun _ => drawn, kept⟩

theorem drawTurned_exact_of_two : ∃ holdings frame source drawn next,
    Holdings.start.run [.create (.frame .heap ⟨2, 2⟩), .create (.frame .heap ⟨2, 1⟩)] =
      .ok holdings ∧
    holdings.live = {frame} + ({source} + 0) ∧ frame.Fits holdings.store ∧
    source.Fits holdings.store ∧
    frame.drawTurned source ⟨1, 0, 2, 1⟩ .deg90 ⟨1, 0⟩ holdings.store = .ok (drawn, next) ∧
    DrawnTurned frame source ⟨1, 0, 2, 1⟩ .deg90 ⟨1, 0⟩ ⟨1, 1, 2, 2⟩ holdings.store drawn next := by
  obtain ⟨holdings, ran, live, fits, sourceFits, writable⟩ : ∃ holdings,
      Holdings.start.run [.create (.frame .heap ⟨2, 2⟩), .create (.frame .heap ⟨2, 1⟩)] =
        .ok holdings ∧
      holdings.live = {onBuffer ⟨2, 2⟩ 8 0} + ({onBuffer ⟨2, 1⟩ 8 1} + 0) ∧
      (onBuffer ⟨2, 2⟩ 8 0).Fits holdings.store ∧ (onBuffer ⟨2, 1⟩ 8 1).Fits holdings.store ∧
      (onBuffer ⟨2, 2⟩ 8 0).isWritable holdings.store = true :=
    ⟨_, rfl, rfl, ⟨by decide, by decide, by decide, by decide, by decide⟩,
      ⟨by decide, by decide, by decide, by decide, by decide⟩, rfl⟩
  have owned := live ▸ Holdings.run_owned ran
  have exact := drawTurned_exact owned fits sourceFits ⟨1, 0, 2, 1⟩ .deg90 ⟨1, 0⟩
  have landed : Rotation.deg90.landing ⟨2, 1⟩ ⟨1, 0⟩ ⟨1, 0, 2, 1⟩ = .ok ⟨1, 1, 2, 2⟩ := rfl
  obtain ⟨⟨drawn, next⟩, drew⟩ := exact.1.mpr ⟨_, landed, .inr ⟨rfl, rfl, writable⟩⟩
  exact ⟨holdings, _, _, drawn, next, ran, live, fits, sourceFits, drew,
    (exact.2 _ drawn next landed drew).2.1 rfl⟩

end Frame

end ScreenCapture
