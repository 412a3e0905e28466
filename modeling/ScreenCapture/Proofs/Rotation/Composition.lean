import ScreenCapture.Proofs.Rotation.Drawing

set_option autoImplicit false

namespace ScreenCapture

theorem Region.empty_insert (rect : Rect) : empty.insert rect = ofRect rect := by
  unfold insert ofRect
  split
  next => rfl
  next solid => simp [empty, ofRects, solid]

namespace Rotation

variable (rotation : Rotation) {size : Size} {rect : Rect}

theorem isCoordinate_turnSize (wide : IsCoordinate size.width) (high : IsCoordinate size.height) :
    IsCoordinate (rotation.turnSize size).width ∧ IsCoordinate (rotation.turnSize size).height := by
  cases rotation <;> simp only [turnSize] <;> exact ⟨by assumption, by assumption⟩

theorem landing_zero (wide : IsCoordinate size.width) (high : IsCoordinate size.height)
    (inside : (Rect.ofSize size).encloses rect = true) (solid : rect.isEmpty = false) :
    rotation.landing size .zero rect = .ok (rotation.turned size rect) := by
  rw [landing_eq_ok_iff]
  refine ⟨_, rotation.turnRect_eq wide high inside solid, ?_⟩
  have range := rotation.isCoordinate_turnSize wide high
  have within := inside
  rw [← rotation.encloses_turned size rect, Rect.encloses_iff] at within
  have filled := solid
  rw [← rotation.turned_isEmpty size rect, Rect.isEmpty_eq_false_iff] at filled
  rw [Rect.shift_eq, Rect.moved_zero, if_pos]
  simp only [Rect.Bounded, IsCoordinate, Rect.ofSize] at range within ⊢
  omega

end Rotation

namespace Frame

variable {source middle last : Frame} {store : Store} {rect : Rect} {first second : Rotation}

theorem drawTurned_whole {frame : Frame} {rotation : Rotation} (sourceFits : source.Fits store)
    (fits : frame.Fits store) (size : frame.size = rotation.turnSize source.size)
    (writable : frame.isWritable store = true) (inside : source.bounds.encloses rect = true)
    (solid : rect.isEmpty = false) :
    frame.bounds.encloses (rotation.turned source.size rect) = true ∧
    ∃ bytes, bytes.size = (store.bytes frame.buffer).size ∧
      frame.drawTurned source rect rotation .zero store =
        .ok (frame.withUpdated (frame.info.updated.insert (rotation.turned source.size rect)),
          store.setBytes frame.buffer bytes) ∧
      ∀ point, rect.contains point = true →
        frame.view (store.setBytes frame.buffer bytes) (rotation.turnedPoint source.size point) =
          source.view store point := by
  have targetInside : frame.bounds.encloses (rotation.turned source.size rect) = true := by
    rw [bounds, size, rotation.encloses_turned]
    exact inside
  have targetSolid := solid
  rw [← rotation.turned_isEmpty source.size rect] at targetSolid
  have landed := rotation.landing_zero sourceFits.width.2 sourceFits.height.2
    inside solid
  obtain ⟨bytes, ran, holds⟩ :=
    drawTurned_eq fits sourceFits landed targetSolid inside targetInside writable
  refine ⟨targetInside, bytes, holds.size, ran, fun point contained => ?_⟩
  have drawn := holds.drawnTurned fits sourceFits landed targetSolid inside targetInside
  obtain ⟨cell, lands, same⟩ := drawn.pixels point contained
  rw [(Rotation.landing_eq_ok lands).1, Rect.moved_zero] at same
  exact same

theorem drawTurned_twice (sourceFits : source.Fits store) (middleFits : middle.Fits store)
    (lastFits : last.Fits store) (middleSize : middle.size = first.turnSize source.size)
    (lastSize : last.size = second.turnSize middle.size)
    (middleWritable : middle.isWritable store = true) (lastWritable : last.isWritable store = true)
    (inside : source.bounds.encloses rect = true) (solid : rect.isEmpty = false) :
    let turned := first.turned source.size rect
    let written := (first.plus second).turned source.size rect
    ∃ between stepwise,
      middle.bounds.encloses turned = true ∧
      second.turnRect middle.size turned = .ok written ∧
      middle.drawTurned source rect first .zero store =
        .ok (middle.withUpdated (middle.info.updated.insert turned), between) ∧
      last.drawTurned (middle.withUpdated (middle.info.updated.insert turned)) turned second .zero
        between = .ok (last.withUpdated (last.info.updated.insert written), stepwise) ∧
      ∀ origin, rect.contains origin = true →
        last.view stepwise ((first.plus second).turnedPoint source.size origin) =
          source.view store origin := by
  intro turned written
  have sum : second.turned middle.size turned = written := by
    rw [middleSize, first.turned_plus]
  have turnedSolid : turned.isEmpty = false := (first.turned_isEmpty source.size rect).trans solid
  obtain ⟨turnedInside, bytes, size, drewFirst, viewFirst⟩ :=
    drawTurned_whole sourceFits middleFits middleSize middleWritable inside solid
  -- The first drawing leaves the lengths of all buffers and the counts of handles as they are.
  have halfwayFits := (middleFits.setBytes size).withUpdated (middle.info.updated.insert turned)
  obtain ⟨_, bytes', _, drewSecond, viewSecond⟩ :=
    drawTurned_whole halfwayFits (lastFits.setBytes size) lastSize lastWritable turnedInside
      turnedSolid
  refine ⟨_, _, turnedInside, ?_, drewFirst, sum ▸ drewSecond, fun origin contained => ?_⟩
  next =>
    rw [← sum]
    exact second.turnRect_eq middleFits.width.2 middleFits.height.2 turnedInside turnedSolid
  next =>
    rw [← first.turnedPoint_plus second, ← middleSize, ← viewFirst origin contained]
    exact viewSecond _ ((first.contains_turned source.size rect origin).trans contained)

theorem drawTurned_plus (sourceFits : source.Fits store) (middleFits : middle.Fits store)
    (lastFits : last.Fits store) (middleSize : middle.size = first.turnSize source.size)
    (lastSize : last.size = (first.plus second).turnSize source.size)
    (middleWritable : middle.isWritable store = true) (lastWritable : last.isWritable store = true)
    (middleBlank : middle.info.updated = .empty) (lastBlank : last.info.updated = .empty)
    (inside : source.bounds.encloses rect = true) (solid : rect.isEmpty = false) :
    ∃ turned written halfway drawn between stepwise direct,
      first.turnRect source.size rect = .ok turned ∧
      second.turnRect middle.size turned = .ok written ∧
      (first.plus second).turnRect source.size rect = .ok written ∧
      middle.bounds.encloses turned = true ∧ last.bounds.encloses written = true ∧
      middle.drawTurned source rect first .zero store = .ok (halfway, between) ∧
      last.drawTurned halfway turned second .zero between = .ok (drawn, stepwise) ∧
      last.drawTurned source rect (first.plus second) .zero store = .ok (drawn, direct) ∧
      halfway.info.updated = .ofRect turned ∧ drawn.info.updated = .ofRect written ∧
      (∀ point, written.contains point = true →
        drawn.view stepwise point = drawn.view direct point) ∧
      (second = first.reverse → written = rect ∧
        ∀ point, rect.contains point = true → drawn.view stepwise point = source.view store point) := by
  have wide := sourceFits.width.2
  have high := sourceFits.height.2
  have lastSize' : last.size = second.turnSize middle.size := by
    rw [lastSize, middleSize, first.turnSize_plus second]
  obtain ⟨between, stepwise, turnedInside, turning, drewFirst, drewSecond, viewStepwise⟩ :=
    drawTurned_twice sourceFits middleFits lastFits middleSize lastSize' middleWritable lastWritable
      inside solid
  obtain ⟨writtenInside, bytes, _, drewDirect, viewDirect⟩ :=
    drawTurned_whole sourceFits lastFits lastSize lastWritable inside solid
  refine ⟨_, _, _, _, between, stepwise, _, first.turnRect_eq wide high inside solid, turning,
    (first.plus second).turnRect_eq wide high inside solid, turnedInside, writtenInside, drewFirst,
    drewSecond, drewDirect, ?_, ?_, ?_, ?_⟩
  next =>
    rw [← Region.empty_insert, ← middleBlank]
    rfl
  next =>
    rw [← Region.empty_insert, ← lastBlank]
    rfl
  next =>
    intro point contained
    obtain ⟨origin, inRect, rfl⟩ := Rotation.exists_turnedPoint _ _ _ _ contained
    exact (viewStepwise origin inRect).trans (viewDirect origin inRect).symm
  next =>
    rintro rfl
    rw [first.plus_reverse] at viewStepwise ⊢
    exact ⟨rfl, fun point contained => viewStepwise point contained⟩

def createThree : List Action :=
  [.create (.frame .heap ⟨2, 1⟩), .create (.frame .heap ⟨1, 2⟩), .create (.frame .heap ⟨2, 1⟩)]

theorem drawTurned_plus_of_three : ∃ holdings halfway drawn between stepwise direct,
    Holdings.start.run createThree = .ok holdings ∧
    (onBuffer ⟨1, 2⟩ 4 1).drawTurned (onBuffer ⟨2, 1⟩ 8 0) ⟨1, 0, 2, 1⟩ .deg90 .zero holdings.store =
      .ok (halfway, between) ∧
    (onBuffer ⟨2, 1⟩ 8 2).drawTurned halfway ⟨0, 1, 1, 2⟩ .deg90 .zero between =
      .ok (drawn, stepwise) ∧
    (onBuffer ⟨2, 1⟩ 8 2).drawTurned (onBuffer ⟨2, 1⟩ 8 0) ⟨1, 0, 2, 1⟩ .deg180 .zero holdings.store =
      .ok (drawn, direct) ∧
    drawn.info.updated = .ofRect ⟨0, 0, 1, 1⟩ ∧
    ∀ point, (Rect.mk 0 0 1 1).contains point = true →
      drawn.view stepwise point = drawn.view direct point := by
  obtain ⟨holdings, ran, sourceFits, middleFits, lastFits, middleWritable, lastWritable⟩ :
      ∃ holdings, Holdings.start.run createThree = .ok holdings ∧
        (onBuffer ⟨2, 1⟩ 8 0).Fits holdings.store ∧ (onBuffer ⟨1, 2⟩ 4 1).Fits holdings.store ∧
        (onBuffer ⟨2, 1⟩ 8 2).Fits holdings.store ∧
        (onBuffer ⟨1, 2⟩ 4 1).isWritable holdings.store = true ∧
        (onBuffer ⟨2, 1⟩ 8 2).isWritable holdings.store = true :=
    ⟨_, rfl, ⟨by decide, by decide, by decide, by decide, by decide⟩,
      ⟨by decide, by decide, by decide, by decide, by decide⟩,
      ⟨by decide, by decide, by decide, by decide, by decide⟩, rfl, rfl⟩
  have middleSize : (onBuffer ⟨1, 2⟩ 4 1).size = Rotation.deg90.turnSize ⟨2, 1⟩ := rfl
  have lastSize : (onBuffer ⟨2, 1⟩ 8 2).size =
      (Rotation.deg90.plus .deg90).turnSize ⟨2, 1⟩ := rfl
  have inside : (onBuffer ⟨2, 1⟩ 8 0).bounds.encloses ⟨1, 0, 2, 1⟩ = true := rfl
  obtain ⟨turned, written, halfway, drawn, between, stepwise, direct, turning, writing, _, _, _,
      drewFirst, drewSecond, drewDirect, _, updated, same, _⟩ :=
    drawTurned_plus sourceFits middleFits lastFits middleSize lastSize middleWritable lastWritable
      rfl rfl inside rfl
  obtain rfl : ⟨0, 1, 1, 2⟩ = turned := Except.ok.inj turning
  obtain rfl : ⟨0, 0, 1, 1⟩ = written := Except.ok.inj writing
  exact ⟨holdings, halfway, drawn, between, stepwise, direct, ran, drewFirst, drewSecond,
    drewDirect, updated, same⟩

end Frame

end ScreenCapture
