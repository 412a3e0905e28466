import ScreenCapture.Proofs.Pipeline.Outputs

set_option autoImplicit false

namespace ScreenCapture.Pipeline

variable {settings : Settings} {pipeline : Pipeline} {received : List Frame} {actors : List Actor}
  {tally : Tally}

namespace Sound

variable (sound : pipeline.Sound settings received)

include sound

theorem finished_tallyAt (finished : pipeline.Finished tally) :
    tally.reallocate 0 = settings.tallyAt settings.frameCount settings.frameCount ∧
      ∀ sequence < settings.frameCount, settings.pattern.blockAt settings.frameSize sequence =
        .ok (settings.blockOf sequence) := by
  obtain ⟨produced, consumed, ok⟩ := finished
  obtain ⟨_, rfl⟩ := unharmed_of_outcome ok
  have counted := sound.counted
  have placed := sound.placed
  rw [sound.sent_of_ended produced] at counted placed
  rw [sound.done_of_ended consumed] at counted
  exact ⟨counted, placed⟩

end Sound

section Conditions

variable (valid : settings.validate = .ok ()) (bounded : settings.frameSize.Bounded)
  (countable : settings.frameCount < addressLimit)
  (roomy : settings.frameCount ≤ settings.channelCapacity)

include valid bounded countable roomy

theorem follow_finished (finished : (follow settings start actors).Finished tally) :
    tally.reallocate 0 = settings.tallyAt settings.frameCount settings.frameCount ∧
      ∀ sequence < settings.frameCount, settings.pattern.blockAt settings.frameSize sequence =
        .ok (settings.blockOf sequence) := by
  have unharmed := (unharmed_of_outcome finished.2.2).1
  exact ((start_sound settings).follow valid bounded countable roomy unharmed).finished_tallyAt finished

theorem follow_changed {total : Nat} (solid : settings.visible.isEmpty = false)
    (sum : ∑ sequence ∈ Finset.range settings.frameCount,
      (settings.visible.cells ∩ settings.updates sequence).card = total)
    (finished : (follow settings start actors).Finished tally) :
    tally.consumed = settings.frameCount ∧ tally.changedPixels = total % addressLimit := by
  obtain ⟨counted, _⟩ := follow_finished valid bounded countable roomy finished
  constructor
  next =>
    refine (congrArg Tally.consumed counted).trans ?_
    rw [Settings.tallyAt, solid, if_neg Bool.false_ne_true]
  next =>
    refine (congrArg Tally.changedPixels counted).trans ?_
    rw [Settings.tallyAt, sum]

theorem finished_totals (finished : (follow settings start actors).Finished tally) :
    (tally.produced = settings.frameCount ∧ tally.dropped = 0 ∧
      tally.consumed + tally.cropMisses = settings.frameCount) ∧
    (tally.consumed = if settings.visible.isEmpty then 0 else settings.frameCount) ∧
    (tally.lastOutput = if tally.consumed = 0 then none else
      some (settings.rotation.turnSize ⟨settings.visible.right - settings.visible.left,
        settings.visible.bottom - settings.visible.top⟩)) ∧
    (tally.changedPixels = (∑ sequence ∈ Finset.range tally.consumed,
      (settings.visible.cells ∩ settings.updates sequence).card) % addressLimit) ∧
    (settings.updates 0 = settings.screen.cells ∧
      (∀ sequence < settings.frameCount, settings.pattern.blockAt settings.frameSize sequence =
        .ok (settings.blockOf sequence)) ∧
      ∀ before, settings.updates (before + 1) ⊆
          (settings.blockOf before).cells ∪ (settings.blockOf (before + 1)).cells ∧
        ∀ point ∈ settings.screen.cells, (settings.picture (before + 1)).color point ≠
          (settings.picture before).color point → point ∈ settings.updates (before + 1)) ∧
    ∀ sharedMemory others other,
      (follow { settings with sharedMemory } start others).Finished other →
        other.reallocate 0 = tally.reallocate 0 := by
  obtain ⟨counted, placed⟩ := follow_finished valid bounded countable roomy finished
  have produced : tally.produced = settings.frameCount := congrArg Tally.produced counted
  have dropped : tally.dropped = 0 := congrArg Tally.dropped counted
  have consumed : tally.consumed = if settings.visible.isEmpty then 0 else settings.frameCount :=
    congrArg Tally.consumed counted
  have missed : tally.cropMisses = if settings.visible.isEmpty then settings.frameCount else 0 :=
    congrArg Tally.cropMisses counted
  have last := congrArg Tally.lastOutput counted
  have changed := congrArg Tally.changedPixels counted
  refine ⟨⟨produced, dropped, ?_⟩, consumed, ?_, ?_, ⟨rfl, placed, fun before => ⟨?_, ?_⟩⟩, ?_⟩
  next =>
    rw [consumed, missed]
    split <;> omega
  next =>
    refine last.trans ?_
    rw [consumed]
    cases hollow : settings.visible.isEmpty with
    | true => simp [Settings.tallyAt, hollow]
    | false => simp [Settings.tallyAt, hollow, Settings.output, Picture.turned, Picture.part]
  next =>
    refine changed.trans ?_
    rw [consumed]
    cases hollow : settings.visible.isEmpty with
    | true => simp [Settings.tallyAt, Rect.cells_of_isEmpty hollow]
    | false => simp [Settings.tallyAt]
  next => exact Settings.updates_subset_blocks
  next => exact fun point inside differ => Settings.mem_updates_of_ne inside differ
  next =>
    intro sharedMemory others other reached
    -- The pictures do not depend on where the frames are kept.
    have same : other.reallocate 0 =
        settings.tallyAt settings.frameCount settings.frameCount := by
      refine (follow_finished ?_ ?_ ?_ ?_ reached).1
      next => exact valid
      next => exact bounded
      next => exact countable
      next => exact roomy
    exact same.trans counted.symm

end Conditions

theorem drifting_updates :
    drifting.updates 1 = (drifting.blockOf 0).cells ∪ (drifting.blockOf 1).cells ∧
      drifting.updates 2 = (drifting.blockOf 1).cells ∪ (drifting.blockOf 2).cells :=
  ⟨Settings.updates_eq_of_disjoint (by decide +kernel), Settings.updates_eq_of_disjoint (by decide +kernel)⟩

theorem finished_totals_of_drifting : ∃ tally,
    (drifting.validate = .ok () ∧ drifting.frameSize.Bounded ∧ drifting.frameCount < addressLimit ∧
      drifting.frameCount ≤ drifting.channelCapacity) ∧
    (follow drifting start (takingTurns ++ untilDone)).Finished tally ∧ tally.consumed = 3 ∧
    tally.lastOutput = some ⟨4, 7⟩ ∧ tally.changedPixels = 28 + 1 + 2 := by
  obtain ⟨valid, bounded, countable, roomy⟩ := drifting_valid
  obtain ⟨tally, finished⟩ := drifting_finishes
  have ⟨_, consumed, last, changed, ⟨first, _⟩, _⟩ :=
    finished_totals valid bounded countable roomy finished
  have all : tally.consumed = 3 := consumed.trans (by decide)
  refine ⟨tally, drifting_valid, finished, all, ?_, ?_⟩
  next =>
    rw [last, all]
    decide
  next =>
    obtain ⟨second, third⟩ := drifting_updates
    rw [changed, all, Finset.sum_range_succ, Finset.sum_range_succ, Finset.sum_range_one, first, second,
      third]
    decide +kernel

theorem sum_updates {count value : Nat} (moves : ∀ before < count,
      (settings.visible.cells ∩ settings.updates (before + 1)).card = value) :
    ∑ sequence ∈ Finset.range (count + 1), (settings.visible.cells ∩ settings.updates sequence).card =
      (settings.visible.cells ∩ settings.screen.cells).card + count * value := by
  rw [Finset.sum_range_succ', Nat.add_comm]
  congr 1
  rw [Finset.sum_congr rfl fun before member => moves before (Finset.mem_range.mp member),
    Finset.sum_const, Finset.card_range, Nat.nsmul_eq_mul]

-- A strip on which the block moves on by its own width each time, in more pictures than the points
-- of all of them can be counted in.
def strip : Settings :=
  { Settings.standard with
    frameSize := ⟨32, 1073741824⟩
    frameCount := 17179869184
    frameInterval := 0
    crop := ⟨0, 0, 32, 1073741824⟩
    channelCapacity := 17179869184 }

theorem strip_blockOf {sequence : Nat} (few : sequence ≤ strip.frameCount) :
    strip.blockOf sequence = ⟨sequence * 4 % 28, sequence * 4 / 2 % 939524096, sequence * 4 % 28 + 4,
      sequence * 4 / 2 % 939524096 + 134217728⟩ := by
  have near : sequence ≤ 17179869184 := few
  have counted : (sequence : Int) * 4 ≤ 9223372036854775807 := by omega
  have reaches : strip.pattern.Reaches sequence :=
    ⟨by decide, by decide, by decide, by decide, counted⟩
  have placed : strip.pattern.blockFrom (strip.pattern.cornerAt strip.frameSize sequence) =
      ⟨sequence * 4 % 28, sequence * 4 / 2 % 939524096, sequence * 4 % 28 + 4,
        sequence * 4 / 2 % 939524096 + 134217728⟩ := rfl
  refine Settings.blockOf_eq ((Pattern.blockAt_eq reaches (by decide) (by decide)).trans ?_)
  rw [Rect.meet_comm, placed, Rect.meet_of_encloses]
  next =>
    rw [Rect.isEmpty_eq_false_iff]
    dsimp only
    omega
  next =>
    rw [Rect.encloses_iff]
    dsimp only [strip, Rect.ofSize]
    omega

theorem card_updates_strip {before : Nat} (few : before < strip.frameCount) :
    (strip.updates (before + 1)).card = 1073741824 := by
  have old := strip_blockOf (Nat.le_of_lt few)
  have new := strip_blockOf (Nat.succ_le_of_lt few)
  have size {sequence : Nat} (few : sequence ≤ strip.frameCount) :
      (strip.blockOf sequence).cells.card = 536870912 := by
    rw [Rect.card_cells, strip_blockOf few, add_sub_cancel_left, add_sub_cancel_left]
    rfl
  have apart : Disjoint (strip.blockOf before).cells (strip.blockOf (before + 1)).cells := by
    rw [Rect.disjoint_cells_iff]
    intro point was
    rw [← Bool.not_eq_true]
    rw [Rect.contains_iff, old] at was
    rw [Rect.contains_iff, new]
    dsimp only at was ⊢
    push_cast
    omega
  rw [Settings.updates_eq_of_disjoint apart, Finset.card_union_of_disjoint apart,
    size (Nat.le_of_lt few), size (Nat.succ_le_of_lt few)]

theorem sum_updates_strip : ∑ sequence ∈ Finset.range strip.frameCount,
    (strip.visible.cells ∩ strip.updates sequence).card = 18446744106995548160 := by
  have whole : strip.visible = strip.screen := by decide
  have moves : ∀ before < 17179869183,
      (strip.visible.cells ∩ strip.updates (before + 1)).card = 1073741824 := by
    intro before few
    rw [whole, Finset.inter_eq_right.mpr Settings.updates_subset]
    exact card_updates_strip (Nat.lt_succ_of_lt few)
  have count : strip.frameCount = 17179869183 + 1 := rfl
  rw [count, sum_updates moves, whole, Finset.inter_self, Rect.card_cells]
  rfl

-- With 31 pictures left the counter is at zero again.
theorem finished_wraps : ∃ actors tally,
    (strip.validate = .ok () ∧ strip.frameSize.Bounded ∧ strip.frameCount < addressLimit ∧
      strip.frameCount ≤ strip.channelCapacity) ∧
    (follow strip start actors).Finished tally ∧ tally.consumed = strip.frameCount ∧
    tally.changedPixels = 33285996544 ∧
    ∑ sequence ∈ Finset.range tally.consumed, (strip.visible.cells ∩ strip.updates sequence).card =
      18446744106995548160 := by
  have ⟨valid, bounded, room, few⟩ : strip.validate = .ok () ∧ strip.frameSize.Bounded ∧
      strip.frameSize.packedBytes ≤ allocationLimit ∧ strip.frameCount < 2305843009213693952 := by
    decide
  have roomy : strip.frameCount ≤ strip.channelCapacity := Nat.le_refl _
  have countable : strip.frameCount < addressLimit := Nat.lt_trans few (by decide)
  have runnable : strip.Runnable := Settings.runnable_of_near (by decide) (by decide) (by decide)
  obtain ⟨actors, tally, finished⟩ := exists_finished valid bounded room few roomy runnable
  obtain ⟨consumed, changed⟩ :=
    follow_changed valid bounded countable roomy (by decide) sum_updates_strip finished
  refine ⟨actors, tally, ⟨valid, bounded, countable, roomy⟩, finished, consumed, changed.trans (by decide), ?_⟩
  rw [consumed]
  exact sum_updates_strip

end ScreenCapture.Pipeline
