import ScreenCapture.Proofs.Pipeline.Completion

set_option autoImplicit false

namespace ScreenCapture.Pipeline

variable {settings : Settings} {actors later : List Actor} {tally : Tally}

section Conditions

variable (valid : settings.validate = .ok ()) (bounded : settings.frameSize.Bounded)
  (countable : settings.frameCount < addressLimit)
  (roomy : settings.frameCount ≤ settings.channelCapacity)

include valid bounded countable roomy

theorem follow_delivers (ok : (follow settings start (actors ++ later)).outcome = .ok tally) :
    let pipeline := follow settings start actors
    let received := delivered settings start actors
    (∀ (index : Nat) (frame : Frame), pipeline.channel[index]? = some frame →
      frame.Shows (settings.picture (received.length + index)) pipeline.store) ∧
    (∀ handle, pipeline.consumer.working = some handle → ∃ sequence frame,
      received.length = sequence + 1 ∧ received[sequence]? = some frame ∧
        settings.pattern.blockAt settings.frameSize sequence = .ok (settings.blockOf sequence) ∧
        frame.Shows (settings.picture sequence) pipeline.store ∧
        (handle = frame ∨ handle.IsPart frame settings.visible)) ∧
    ∀ sequence, pipeline.consumer.done received = sequence + 1 →
      settings.visible.isEmpty = false → ∃ target, pipeline.consumer.target = some target ∧
        target.Shows (settings.output sequence) pipeline.store := by
  intro pipeline received
  rw [follow_append] at ok
  have unharmed := unharmed_of_follow (unharmed_of_outcome ok).1
  have sound := (start_sound settings).follow valid bounded countable roomy unharmed
  rw [List.nil_append] at sound
  refine ⟨fun index frame found => (sound.flight index frame found).shows, fun handle works => ?_,
    sound.follows.drawn⟩
  obtain ⟨sequence, frame, length, last, carries, isCrop⟩ := sound.follows.works works
  exact ⟨sequence, frame, length, last, carries.placed, carries.shows, isCrop⟩

end Conditions

def drifting : Settings :=
  { Settings.standard with frameSize := ⟨8, 8⟩, frameCount := 3, crop := ⟨1, 1, 9, 5⟩ }

-- Each picture is done before the next one is drawn, so the storage of the first is taken for the last.
def takingTurns : List Actor :=
  (List.replicate 3 (captureSteps ++ consumeSteps)).flatten ++ [.producer]

def untilDone : List Actor := List.replicate 13 .consumer

theorem drifting_valid : drifting.validate = .ok () ∧ drifting.frameSize.Bounded ∧
    drifting.frameCount < addressLimit ∧ drifting.frameCount ≤ drifting.channelCapacity := by
  decide +kernel

theorem drifting_finishes : ∃ tally, (follow drifting start (takingTurns ++ untilDone)).Finished tally := by
  obtain ⟨valid, bounded, _, roomy⟩ := drifting_valid
  have runnable : drifting.Runnable := Settings.runnable_of_near (by decide) (by decide) (by decide)
  exact finishes valid bounded (by decide) (by decide) roomy runnable (by decide) (by decide)

theorem follow_delivers_of_drifting : ∃ tally target,
    (drifting.validate = .ok () ∧ drifting.frameSize.Bounded ∧ drifting.frameCount < addressLimit ∧
      drifting.frameCount ≤ drifting.channelCapacity) ∧
    (follow drifting start (takingTurns ++ untilDone ++ [])).outcome = .ok tally ∧
    (follow drifting start (takingTurns ++ untilDone)).consumer.target = some target ∧
    target.Shows (drifting.output 2) (follow drifting start (takingTurns ++ untilDone)).store ∧
    (drifting.output 1).color ⟨2, 3⟩ = Pattern.color ∧
    (drifting.output 2).color ⟨2, 3⟩ = .blank ∧ (drifting.output 2).color ⟨0, 0⟩ = Pattern.color := by
  obtain ⟨valid, bounded, countable, roomy⟩ := drifting_valid
  obtain ⟨tally, _, consumed, ok⟩ := drifting_finishes
  have sound := (start_sound drifting).follow valid bounded countable roomy (unharmed_of_outcome ok).1
  have done := sound.done_of_ended consumed
  rw [List.nil_append] at done
  have whole : (follow drifting start (takingTurns ++ untilDone ++ [])).outcome = .ok tally := by
    rw [List.append_nil]
    exact ok
  obtain ⟨target, kept, shows⟩ :=
    (follow_delivers valid bounded countable roomy whole).2.2 2 done (by decide +kernel)
  exact ⟨tally, target, drifting_valid, whole, kept, shows, by decide +kernel,
    by decide +kernel, by decide +kernel⟩

end ScreenCapture.Pipeline
