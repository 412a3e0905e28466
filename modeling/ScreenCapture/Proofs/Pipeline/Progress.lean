import ScreenCapture.Proofs.Pipeline.Runs

set_option autoImplicit false

namespace ScreenCapture

def Producer.left (producer : Producer) (frameCount : Nat) : Nat :=
  match producer.phase with
  | .prepare => 6 * (frameCount - producer.sequence) + 1
  | .paint => 6 * (frameCount - producer.sequence)
  | .compare => 6 * (frameCount - producer.sequence) - 1
  | .describe => 6 * (frameCount - producer.sequence) - 2
  | .send => 6 * (frameCount - producer.sequence) - 3
  | .advance => 6 * (frameCount - producer.sequence) - 4
  | .ended _ => 0

def Consumer.left (consumer : Consumer) (waiting : Nat) : Nat :=
  match consumer.phase with
  | .receive => 4 * waiting + 1
  | .crop _ => 4 * waiting + 4
  | .draw _ => 4 * waiting + 3
  | .release _ => 4 * waiting + 2
  | .ended _ => 0

namespace Pipeline

variable {settings : Settings} {pipeline next : Pipeline} {received : List Frame}
  {actors first rest : List Actor}

def Finished (pipeline : Pipeline) (tally : Tally) : Prop :=
  pipeline.isProducing = false ∧ pipeline.isConsuming = false ∧ pipeline.outcome = .ok tally

instance (pipeline : Pipeline) (tally : Tally) : Decidable (pipeline.Finished tally) :=
  inferInstanceAs (Decidable (_ ∧ _))

namespace Sound

variable (sound : pipeline.Sound settings received)

include sound

theorem sent_of_ended (produced : pipeline.isProducing = false) :
    pipeline.producer.sent = settings.frameCount := by
  have ready := sound.ready
  unfold isProducing at produced
  unfold Producer.Ready at ready
  unfold Producer.sent
  split at produced
  next ending ended =>
    rw [ended] at ready ⊢
    exact ready
  next => cases produced

theorem done_of_ended (consumed : pipeline.isConsuming = false) :
    pipeline.consumer.done received = settings.frameCount := by
  obtain ⟨channel, produced⟩ := sound.finished consumed
  have length := sound.sent
  rw [channel, sound.sent_of_ended produced] at length
  unfold isConsuming at consumed
  unfold Consumer.done
  split at consumed
  next ending ended =>
    rw [ended]
    exact length
  next => cases consumed

end Sound

theorem outcome_of_unharmed (unharmed : pipeline.Unharmed) :
    pipeline.outcome = .ok pipeline.tally := by
  obtain ⟨producer, consumer⟩ := unharmed
  unfold outcome
  split
  next crashed => cases producer _ crashed
  next failed => cases producer _ failed
  next crashed _ _ => cases consumer _ crashed
  next failed _ _ => cases consumer _ failed
  next => rfl

theorem follow_captures_consumer (settings : Settings) (pipeline : Pipeline) (count : Nat) :
    (follow settings pipeline (List.replicate count .producer)).consumer = pipeline.consumer := by
  induction count generalizing pipeline with
  | zero => rfl
  | succ count ih => exact (ih _).trans (produce_consumer settings pipeline)

theorem isConsuming_of_left {waiting : Nat} (none : pipeline.consumer.left waiting = 0) :
    pipeline.isConsuming = false := by
  unfold isConsuming
  unfold Consumer.left at none
  cases phase : pipeline.consumer.phase with
  | ended ending => rfl
  | receive | crop frame | draw frame | release frame =>
    rw [phase] at none
    cases none

section Consuming

variable (ended : pipeline.isProducing = false)

include ended

theorem consumeStep_left (stepped : pipeline.consumeStep settings = .ok next) :
    next.consumer.left next.channel.length ≤
      pipeline.consumer.left pipeline.channel.length - 1 := by
  unfold consumeStep at stepped
  cases phase : pipeline.consumer.phase with
  | receive =>
    rw [phase] at stepped
    cases stepped
    cases channel : pipeline.channel with
    | nil =>
      simp only [receive, channel, ended, Bool.false_eq_true, if_false, consumeAt, Consumer.left]
      exact Nat.zero_le _
    | cons frame rest =>
      simp only [receive, channel, consumeAt, Consumer.left, phase, List.length_cons]
      omega
  | crop frame =>
    rw [phase] at stepped
    obtain ⟨⟨cropped, store⟩, _, stepped⟩ := Checked.bind_eq_ok.mp stepped
    cases cropped with
    | none | some cropped =>
      cases stepped
      simp only [consumeAt, Consumer.left, phase]
      omega
  | draw cropped =>
    rw [phase] at stepped
    dsimp only [draw] at stepped
    split at stepped
    next =>
      cases stepped
      exact Nat.zero_le _
    next =>
      obtain ⟨_, _, stepped⟩ := Checked.bind_eq_ok.mp stepped
      obtain ⟨_, _, stepped⟩ := Checked.bind_eq_ok.mp stepped
      cases stepped
      simp only [Consumer.left, phase]
      omega
  | release cropped =>
    rw [phase] at stepped
    cases stepped
    simp only [consumeAt, Consumer.left, phase]
    omega
  | ended ending =>
    rw [phase] at stepped
    cases stepped
    simp only [Consumer.left, phase]
    exact Nat.zero_le _

theorem consume_left (settings : Settings) : (pipeline.consume settings).consumer.left
      (pipeline.consume settings).channel.length ≤
    pipeline.consumer.left pipeline.channel.length - 1 := by
  unfold consume
  split
  next next stepped => exact consumeStep_left ended stepped
  next => exact Nat.zero_le _

theorem follow_consumer_left (settings : Settings) (actors : List Actor) :
    (follow settings pipeline actors).consumer.left
        (follow settings pipeline actors).channel.length ≤
      pipeline.consumer.left pipeline.channel.length - actors.count .consumer := by
  induction actors generalizing pipeline with
  | nil => exact Nat.le_refl _
  | cons actor rest ih =>
    cases actor with
    | producer =>
      have still : pipeline.step settings .producer = pipeline := by
        unfold isProducing at ended
        split at ended
        next ending phase => exact produce_of_ended phase
        next => cases ended
      rw [List.count_cons_of_ne (by decide), follow, List.foldl_cons, still]
      exact ih ended
    | consumer =>
      have before : (pipeline.step settings .consumer).isProducing = false := by
        unfold isProducing
        rw [step, consume_producer]
        exact ended
      have less := consume_left ended settings
      have rest := ih before
      rw [List.count_cons_self]
      rw [step] at rest
      exact rest.trans (by omega)

end Consuming

section Conditions

variable (valid : settings.validate = .ok ()) (bounded : settings.frameSize.Bounded)
  (countable : settings.frameCount < addressLimit)
  (roomy : settings.frameCount ≤ settings.channelCapacity)
  (sound : pipeline.Sound settings received)

include sound

theorem produceStep_left (stepped : pipeline.produceStep settings = .ok next)
    (unharmed : next.Unharmed) :
    next.producer.left settings.frameCount = pipeline.producer.left settings.frameCount - 1 := by
  have ready := sound.ready
  unfold Producer.Ready at ready
  unfold produceStep at stepped
  cases phase : pipeline.producer.phase with
  | prepare =>
    rw [phase] at stepped
    dsimp only [prepare] at stepped
    split at stepped
    next enough =>
      cases stepped
      simp only [Producer.turnTo, Producer.left, phase]
      omega
    next =>
      obtain ⟨⟨prepared, queue, store⟩, _, stepped⟩ := Checked.bind_eq_ok.mp stepped
      cases prepared with
      | error refusal =>
        cases stepped
        cases unharmed.1 _ rfl
      | ok frame =>
        cases stepped
        simp only [Producer.turnTo, Producer.left, phase]
        omega
  | paint | compare =>
    rw [phase] at ready stepped
    obtain ⟨_, _, frame, found, _⟩ := ready
    rw [found] at stepped
    simp only [produceOn, phase] at stepped
    obtain ⟨_, _, stepped⟩ := Checked.bind_eq_ok.mp stepped
    cases stepped
    simp only [Producer.withCurrent, Producer.left, phase, Nat.sub_sub]
  | describe =>
    rw [phase] at ready stepped
    obtain ⟨_, _, frame, found, _⟩ := ready
    rw [found] at stepped
    simp only [produceOn, phase] at stepped
    cases stepped
    simp only [describe, Producer.withCurrent, Producer.left, phase]
    omega
  | send =>
    rw [phase] at ready stepped
    obtain ⟨_, _, frame, found, _⟩ := ready
    rw [found] at stepped
    simp only [produceOn, phase] at stepped
    cases stepped
    unfold send deliver at unharmed ⊢
    dsimp only at unharmed ⊢
    split at unharmed
    next => cases unharmed.1 _ rfl
    next consuming =>
      rw [if_neg consuming]
      split
      all_goals
        simp only [Producer.withCurrent, Producer.left, phase]
        omega
  | advance =>
    rw [phase] at ready stepped
    have below := ready.1
    cases stepped
    simp only [advance, Producer.left, phase]
    omega
  | ended ending =>
    rw [phase] at stepped
    cases stepped
    simp only [Producer.left, phase]

theorem produce_left (unharmed : (pipeline.produce settings).Unharmed) :
    (pipeline.produce settings).producer.left settings.frameCount =
      pipeline.producer.left settings.frameCount - 1 := by
  unfold produce at unharmed ⊢
  split
  next next stepped =>
    rw [stepped] at unharmed
    exact produceStep_left sound stepped unharmed
  next fault stepped =>
    rw [stepped] at unharmed
    cases unharmed.1 _ rfl

theorem isProducing_of_left (none : pipeline.producer.left settings.frameCount = 0) :
    pipeline.isProducing = false := by
  have ready := sound.ready
  unfold Producer.Ready at ready
  unfold Producer.left at none
  unfold isProducing
  cases phase : pipeline.producer.phase with
  | ended ending => rfl
  | prepare | advance | paint | compare | describe | send =>
    rw [phase] at ready none
    have below := ready.1
    dsimp only at none
    omega

theorem consumer_left_le :
    pipeline.consumer.left pipeline.channel.length ≤ 4 * settings.frameCount + 1 := by
  have sent := sound.sent
  have most := sound.ready.sent_le
  unfold Consumer.left
  cases phase : pipeline.consumer.phase with
  | receive | ended ending =>
    dsimp only
    omega
  | crop frame =>
    obtain ⟨earlier, rfl, _⟩ := sound.follows.whole frame phase
    rw [List.length_append, List.length_singleton] at sent
    dsimp only
    omega
  | draw frame =>
    obtain ⟨_, earlier, _, rfl, _⟩ := sound.follows.cropped frame (.inl phase)
    rw [List.length_append, List.length_singleton] at sent
    dsimp only
    omega
  | release frame =>
    obtain ⟨_, earlier, _, rfl, _⟩ := sound.follows.cropped frame (.inr phase)
    rw [List.length_append, List.length_singleton] at sent
    dsimp only
    omega

include valid bounded countable roomy

theorem follow_producer_left (unharmed : (follow settings pipeline actors).Unharmed) :
    (follow settings pipeline actors).producer.left settings.frameCount =
      pipeline.producer.left settings.frameCount - actors.count .producer := by
  induction actors generalizing pipeline received with
  | nil => rfl
  | cons actor rest ih =>
    have reached : (pipeline.step settings actor).Unharmed := unharmed_of_follow unharmed
    have later := ih (sound.step valid bounded countable roomy reached) unharmed
    refine later.trans ?_
    cases actor with
    | producer =>
      rw [List.count_cons_self, step, produce_left sound reached]
      omega
    | consumer => rw [List.count_cons_of_ne (by decide), step, consume_producer]

end Conditions

end Pipeline

end ScreenCapture
