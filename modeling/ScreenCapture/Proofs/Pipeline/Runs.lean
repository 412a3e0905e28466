import ScreenCapture.Proofs.Pipeline.Capture
import ScreenCapture.Proofs.Pipeline.Delivery

set_option autoImplicit false

namespace ScreenCapture

theorem Consumer.Follows.works {consumer : Consumer} {settings : Settings} {received : List Frame}
    {store : Store} {handle : Frame} (follows : consumer.Follows settings received store)
    (works : consumer.working = some handle) : ∃ sequence frame,
      received.length = sequence + 1 ∧ received[sequence]? = some frame ∧
        frame.Carries settings sequence store ∧
          (handle = frame ∨ handle.IsPart frame settings.visible) := by
  have cropped (phase : consumer.phase = .draw handle ∨ consumer.phase = .release handle) :
      ∃ sequence frame, received.length = sequence + 1 ∧ received[sequence]? = some frame ∧
        frame.Carries settings sequence store ∧
          (handle = frame ∨ handle.IsPart frame settings.visible) := by
    obtain ⟨_, earlier, frame, rfl, carries, isCrop⟩ := follows.cropped handle phase
    exact ⟨earlier.length, frame, by simp, by simp, carries, isCrop.imp_left And.right⟩
  unfold working at works
  split at works
  next frame phase =>
    cases works
    obtain ⟨earlier, rfl, carries⟩ := follows.whole handle phase
    exact ⟨earlier.length, handle, by simp, by simp, carries, .inl rfl⟩
  next frame phase =>
    cases works
    exact cropped (.inl phase)
  next frame phase =>
    cases works
    exact cropped (.inr phase)
  next => cases works
  next => cases works

namespace Pipeline

variable {settings : Settings} {pipeline next : Pipeline} {received : List Frame}
  {actor : Actor} {actors later : List Actor} {tally : Tally}

theorem deliver_consumer (settings : Settings) (handle : Frame) (pipeline : Pipeline) :
    (deliver settings handle pipeline).consumer = pipeline.consumer := by
  unfold deliver
  split
  next => rfl
  next => split <;> rfl

theorem produceStep_consumer (stepped : pipeline.produceStep settings = .ok next) :
    next.consumer = pipeline.consumer := by
  unfold produceStep at stepped
  split at stepped
  next =>
    unfold prepare at stepped
    dsimp only at stepped
    split at stepped
    next =>
      cases stepped
      rfl
    next =>
      obtain ⟨⟨prepared, queue, store⟩, _, stepped⟩ := Checked.bind_eq_ok.mp stepped
      cases prepared <;> cases stepped <;> rfl
  next =>
    cases stepped
    rfl
  next =>
    cases stepped
    rfl
  next =>
    cases stepped
    rfl
  next =>
    unfold produceOn at stepped
    split at stepped
    next =>
      obtain ⟨_, _, stepped⟩ := Checked.bind_eq_ok.mp stepped
      cases stepped
      rfl
    next =>
      obtain ⟨_, _, stepped⟩ := Checked.bind_eq_ok.mp stepped
      cases stepped
      rfl
    all_goals
      cases stepped
    next => rfl
    next => exact deliver_consumer ..
    all_goals rfl

theorem consumeStep_producer (stepped : pipeline.consumeStep settings = .ok next) :
    next.producer = pipeline.producer := by
  unfold consumeStep at stepped
  split at stepped
  next =>
    cases stepped
    unfold receive
    split
    next => rfl
    next => split <;> rfl
  next =>
    obtain ⟨⟨cropped, store⟩, _, stepped⟩ := Checked.bind_eq_ok.mp stepped
    cases cropped <;> cases stepped <;> rfl
  next =>
    unfold draw at stepped
    dsimp only at stepped
    split at stepped
    next =>
      cases stepped
      rfl
    next =>
      obtain ⟨_, _, stepped⟩ := Checked.bind_eq_ok.mp stepped
      obtain ⟨_, _, stepped⟩ := Checked.bind_eq_ok.mp stepped
      cases stepped
      rfl
  next =>
    cases stepped
    rfl
  next =>
    cases stepped
    rfl

theorem produce_consumer (settings : Settings) (pipeline : Pipeline) :
    (pipeline.produce settings).consumer = pipeline.consumer := by
  unfold produce
  split
  next next stepped => exact produceStep_consumer stepped
  next => rfl

theorem consume_producer (settings : Settings) (pipeline : Pipeline) :
    (pipeline.consume settings).producer = pipeline.producer := by
  unfold consume
  split
  next next stepped => exact consumeStep_producer stepped
  next => rfl

theorem produce_of_ended {ending : Ending} (ended : pipeline.producer.phase = .ended ending) :
    pipeline.produce settings = pipeline := by
  simp only [produce, produceStep, ended]
  rfl

theorem consume_of_ended {ending : Ending} (ended : pipeline.consumer.phase = .ended ending) :
    pipeline.consume settings = pipeline := by
  simp only [consume, consumeStep, ended]
  rfl

theorem unharmed_of_step (unharmed : (pipeline.step settings actor).Unharmed) :
    pipeline.Unharmed := by
  cases actor with
  | producer =>
    rw [step] at unharmed
    obtain ⟨first, second⟩ := unharmed
    rw [produce_consumer] at second
    refine ⟨fun ending ended => ?_, second⟩
    rw [produce_of_ended ended] at first
    exact first ending ended
  | consumer =>
    rw [step] at unharmed
    obtain ⟨first, second⟩ := unharmed
    rw [consume_producer] at first
    refine ⟨first, fun ending ended => ?_⟩
    rw [consume_of_ended ended] at second
    exact second ending ended

theorem unharmed_of_follow (unharmed : (follow settings pipeline actors).Unharmed) :
    pipeline.Unharmed := by
  induction actors generalizing pipeline with
  | nil => exact unharmed
  | cons actor rest ih => exact unharmed_of_step (ih unharmed)

section Conditions

variable (valid : settings.validate = .ok ()) (bounded : settings.frameSize.Bounded)
  (countable : settings.frameCount < addressLimit)
  (roomy : settings.frameCount ≤ settings.channelCapacity)

include valid bounded countable roomy

theorem Sound.step (sound : pipeline.Sound settings received)
    (unharmed : (pipeline.step settings actor).Unharmed) :
    (pipeline.step settings actor).Sound settings (received ++ pipeline.taken actor) := by
  cases actor with
  | producer =>
    rw [taken, List.append_nil]
    have solid := (Settings.validate_eq_ok_iff.mp valid).1
    exact sound.produce bounded solid countable roomy unharmed
  | consumer => exact sound.consume countable unharmed

theorem Sound.follow (sound : pipeline.Sound settings received)
    (unharmed : (follow settings pipeline actors).Unharmed) :
    (follow settings pipeline actors).Sound settings
      (received ++ delivered settings pipeline actors) := by
  induction actors generalizing pipeline received with
  | nil =>
    rw [delivered, List.append_nil]
    exact sound
  | cons actor rest ih =>
    -- That no thread has failed is known of the end, so it is first carried back to this step.
    have stepped := sound.step valid bounded countable roomy (unharmed_of_follow unharmed)
    rw [delivered, ← List.append_assoc]
    exact ih stepped unharmed

end Conditions

end Pipeline

end ScreenCapture
