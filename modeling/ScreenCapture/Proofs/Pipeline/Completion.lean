import ScreenCapture.Proofs.Pipeline.Progress
import ScreenCapture.Proofs.Pipeline.Service

set_option autoImplicit false

namespace ScreenCapture

namespace Settings

variable {settings : Settings}

def Runnable (settings : Settings) : Prop :=
  (∀ sequence < settings.frameCount, settings.Comparable sequence) ∧
    (settings.frameCount = 0 ∨ settings.Croppable)

instance (settings : Settings) : Decidable settings.Runnable :=
  inferInstanceAs (Decidable ((∀ sequence < settings.frameCount, settings.Comparable sequence) ∧ _))

theorem runnable_of_near (low : settings.frameSize.height ≤ 2147483616)
    (across : -2147483648 ≤ settings.origin.x ∧
      settings.origin.x + settings.frameSize.width ≤ 2147483647)
    (down : -2147483648 ≤ settings.origin.y ∧
      settings.origin.y + settings.frameSize.height ≤ 2147483647) : settings.Runnable := by
  refine ⟨fun sequence _ => ?_, .inr ?_⟩
  next =>
    cases sequence with
    | zero => exact trivial
    | succ before => exact fun hint _ => Changes.blocksFit_of_low low
  next =>
    cases hollow : settings.visible.isEmpty with
    | true => exact .inl hollow
    | false =>
      have inside : settings.screen.encloses settings.visible = true :=
        Region.encloses_meet _ hollow
      refine .inr (.inr ?_)
      generalize settings.visible = visible at hollow inside ⊢
      have ordered := (Rect.isEmpty_eq_false_iff visible).mp hollow
      simp only [Rect.encloses_iff, screen, Rect.ofSize] at inside
      simp only [Point.Bounded, Point.plus, Rect.topLeft, IsCoordinate]
      omega

end Settings

namespace Pipeline

variable {settings : Settings} {pipeline : Pipeline} {received : List Frame} {actor : Actor}
  {actors first rest : List Actor} {frames : Nat}

theorem drain_eq (settings : Settings) (frames : Nat) (pipeline : Pipeline) :
    drain settings frames pipeline =
      follow settings pipeline (List.replicate (4 * frames) .consumer) := by
  induction frames generalizing pipeline with
  | zero => rfl
  | succ frames ih =>
    have steps : List.replicate (4 * (frames + 1)) Actor.consumer =
        consumeSteps ++ List.replicate (4 * frames) .consumer := by
      rw [consumeSteps, List.replicate_append_replicate, Nat.mul_add, Nat.add_comm]
    rw [drain, ih, steps, follow_append]

theorem exists_makeRoom_eq (settings : Settings) (pipeline : Pipeline) :
    ∃ actors, makeRoom settings pipeline = follow settings pipeline actors := by
  unfold makeRoom
  split
  next => exact ⟨_, drain_eq ..⟩
  next => exact ⟨[], rfl⟩

theorem exists_produceAll_eq (settings : Settings) (frames : Nat) (pipeline : Pipeline) :
    ∃ actors, produceAll settings frames pipeline = follow settings pipeline actors := by
  induction frames generalizing pipeline with
  | zero => exact ⟨_, rfl⟩
  | succ frames ih =>
    rw [produceAll]
    split
    next =>
      obtain ⟨before, room⟩ := exists_makeRoom_eq settings pipeline
      obtain ⟨after, rest⟩ := ih (follow settings (makeRoom settings pipeline) captureSteps)
      refine ⟨before ++ (captureSteps ++ after), ?_⟩
      rw [rest, room, follow_append, follow_append]
    next => exact ⟨[], rfl⟩

theorem finish_eq (settings : Settings) (pipeline : Pipeline) : finish settings pipeline =
    follow settings pipeline (List.replicate (4 * pipeline.channel.length + 1) .consumer) := by
  rw [finish, drain_eq, ← follow_append, List.replicate_succ']

theorem Sound.sent_lt (sound : pipeline.Sound settings received)
    (left : 6 < pipeline.producer.left settings.frameCount) :
    pipeline.isProducing = true ∧ pipeline.producer.sent < settings.frameCount := by
  have ready := sound.ready
  unfold Producer.Ready at ready
  unfold Producer.left at left
  unfold isProducing Producer.sent
  cases phase : pipeline.producer.phase with
  | ended ending =>
    rw [phase] at left
    cases left
  | prepare | paint | compare | describe | send | advance =>
    rw [phase] at left
    dsimp only at left ⊢
    exact ⟨rfl, by omega⟩

section Conditions

variable (valid : settings.validate = .ok ()) (bounded : settings.frameSize.Bounded)
  (room : settings.frameSize.packedBytes ≤ allocationLimit)
  (few : settings.frameCount < 2305843009213693952)
  (roomy : settings.frameCount ≤ settings.channelCapacity)
  (sound : pipeline.Sound settings received)

include valid bounded few roomy sound

theorem produceAll_eq (left : pipeline.producer.left settings.frameCount = 6 * frames + 1)
    (unharmed : (produceAll settings frames pipeline).Unharmed) :
    produceAll settings frames pipeline =
      follow settings pipeline (List.replicate (6 * frames + 1) .producer) := by
  have countable : settings.frameCount < addressLimit := Nat.lt_trans few (by decide)
  induction frames generalizing pipeline received with
  | zero => rfl
  | succ frames ih =>
    obtain ⟨producing, sent⟩ := sound.sent_lt (by omega)
    have total := sound.sent
    have free : makeRoom settings pipeline = pipeline := if_neg (by omega)
    rw [produceAll, if_pos producing, free] at unharmed ⊢
    obtain ⟨actors, later⟩ :=
      exists_produceAll_eq settings frames (follow settings pipeline captureSteps)
    have captured : (follow settings pipeline captureSteps).Unharmed := by
      rw [later] at unharmed
      exact unharmed_of_follow unharmed
    have lessLeft := follow_producer_left valid bounded countable roomy sound captured
    rw [left, captureSteps, List.count_replicate_self] at lessLeft
    have steps : List.replicate (6 * (frames + 1) + 1) Actor.producer =
        captureSteps ++ List.replicate (6 * frames + 1) .producer := by
      rw [captureSteps, List.replicate_append_replicate]
      congr 1
      omega
    rw [ih (sound.follow valid bounded countable roomy captured) (by rw [captureSteps]; omega) unharmed,
      steps, follow_append]

include room

namespace Steady

variable (steady : pipeline.Steady settings received)

include steady

theorem step (unharmed : (pipeline.step settings actor).Unharmed) :
    (pipeline.step settings actor).Steady settings (received ++ pipeline.taken actor) := by
  have before := unharmed_of_step unharmed
  cases actor with
  | producer =>
    rw [taken, List.append_nil]
    exact (produce sound steady before valid bounded room few roomy).2 unharmed
  | consumer =>
    have countable : settings.frameCount < addressLimit := Nat.lt_trans few (by decide)
    exact (consume sound steady before room countable).2 unharmed

theorem follow (unharmed : (follow settings pipeline actors).Unharmed) :
    (follow settings pipeline actors).Steady settings
      (received ++ delivered settings pipeline actors) := by
  have countable : settings.frameCount < addressLimit := Nat.lt_trans few (by decide)
  induction actors generalizing pipeline received with
  | nil =>
    rw [delivered, List.append_nil]
    exact steady
  | cons actor rest ih =>
    have reached : (pipeline.step settings actor).Unharmed := unharmed_of_follow unharmed
    rw [delivered, ← List.append_assoc]
    exact ih (sound.step valid bounded countable roomy reached)
      (step valid bounded room few roomy sound steady reached) unharmed

theorem unharmed_follow (runnable : settings.Runnable) (unharmed : pipeline.Unharmed) :
    (Pipeline.follow settings pipeline actors).Unharmed := by
  have countable : settings.frameCount < addressLimit := Nat.lt_trans few (by decide)
  induction actors generalizing pipeline received with
  | nil => exact unharmed
  | cons actor rest ih =>
    have reached : (pipeline.step settings actor).Unharmed := by
      cases actor with
      | producer =>
        refine (produce sound steady unharmed valid bounded room few roomy).1.mpr fun phase => ?_
        have ready := sound.ready
        rw [Producer.Ready, phase] at ready
        exact runnable.1 _ ready.1
      | consumer =>
        refine (consume sound steady unharmed room countable).1.mpr fun frame phase => ?_
        obtain ⟨earlier, rfl, _⟩ := sound.follows.whole frame phase
        have most := sound.received_le
        rw [List.length_append, List.length_singleton] at most
        exact runnable.2.resolve_left (by omega)
    exact ih (sound.step valid bounded countable roomy reached)
      (step valid bounded room few roomy sound steady reached) reached

omit valid bounded room few roomy in
theorem runnable (produced : pipeline.isProducing = false) (consumed : pipeline.isConsuming = false) :
    settings.Runnable := by
  refine ⟨?_, ?_⟩
  next =>
    have sent := sound.sent_of_ended produced
    have compared := steady.producer.compared
    unfold isProducing at produced
    split at produced
    next ending ended =>
      rw [Producer.sent, ended] at sent
      rw [Producer.compared, ended] at compared
      dsimp only at sent compared
      rw [← sent]
      exact compared
    next => cases produced
  next =>
    have done := steady.consumer.done
    rw [sound.done_of_ended consumed] at done
    exact (Nat.eq_zero_or_pos _).imp_right done

end Steady

end Conditions

section Runs

variable (valid : settings.validate = .ok ()) (bounded : settings.frameSize.Bounded)
  (room : settings.frameSize.packedBytes ≤ allocationLimit)
  (few : settings.frameCount < 2305843009213693952)
  (roomy : settings.frameCount ≤ settings.channelCapacity)

include valid bounded few roomy

theorem follow_ends (unharmed : (follow settings start (first ++ rest)).Unharmed)
    (captures : 6 * settings.frameCount < first.count .producer)
    (serves : (follow settings start first).consumer.left (follow settings start first).channel.length ≤
      rest.count .consumer) :
    (follow settings start (first ++ rest)).isProducing = false ∧
      (follow settings start (first ++ rest)).isConsuming = false := by
  have countable : settings.frameCount < addressLimit := Nat.lt_trans few (by decide)
  have begun : start.producer.left settings.frameCount = 6 * settings.frameCount + 1 := rfl
  have reached (actors : List Actor) (unharmed : (follow settings start actors).Unharmed)
      (captures : 6 * settings.frameCount < actors.count .producer) :
      (follow settings start actors).isProducing = false := by
    have sound := (start_sound settings).follow valid bounded countable roomy unharmed
    refine isProducing_of_left sound ?_
    have left := follow_producer_left valid bounded countable roomy (start_sound settings) unharmed
    rw [left, begun]
    omega
  refine ⟨reached _ unharmed ?_, ?_⟩
  next =>
    rw [List.count_append]
    omega
  next =>
    rw [follow_append] at unharmed ⊢
    have left :=
      follow_consumer_left (reached first (unharmed_of_follow unharmed) captures) settings rest
    exact isConsuming_of_left (Nat.le_zero.mp (left.trans (by omega)))

include room

theorem follow_unharmed (runnable : settings.Runnable) (actors : List Actor) :
    (follow settings start actors).Unharmed :=
  (start_steady settings).unharmed_follow valid bounded room few roomy (start_sound settings) runnable
    ⟨by simp [start], by simp [start]⟩

theorem finishes (runnable : settings.Runnable) (captures : 6 * settings.frameCount < first.count .producer)
    (serves : 4 * settings.frameCount < rest.count .consumer) :
    ∃ tally, (follow settings start (first ++ rest)).Finished tally := by
  have countable : settings.frameCount < addressLimit := Nat.lt_trans few (by decide)
  have unharmed := follow_unharmed valid bounded room few roomy runnable (first ++ rest)
  have begun : (follow settings start first).Unharmed := by
    rw [follow_append] at unharmed
    exact unharmed_of_follow unharmed
  have most := consumer_left_le ((start_sound settings).follow valid bounded countable roomy begun)
  obtain ⟨produced, consumed⟩ := follow_ends valid bounded few roomy unharmed captures (by omega)
  exact ⟨_, produced, consumed, outcome_of_unharmed unharmed⟩

theorem exists_finished (runnable : settings.Runnable) :
    ∃ actors tally, (follow settings start actors).Finished tally := by
  have captures : 6 * settings.frameCount <
      (List.replicate (6 * settings.frameCount + 1) Actor.producer).count .producer := by
    rw [List.count_replicate_self]
    exact Nat.lt_succ_self _
  have serves : 4 * settings.frameCount <
      (List.replicate (4 * settings.frameCount + 1) Actor.consumer).count .consumer := by
    rw [List.count_replicate_self]
    exact Nat.lt_succ_self _
  exact ⟨_, finishes valid bounded room few roomy runnable captures serves⟩

theorem runnable_of_ends (unharmed : (follow settings start actors).Unharmed)
    (produced : (follow settings start actors).isProducing = false)
    (consumed : (follow settings start actors).isConsuming = false) : settings.Runnable := by
  have countable : settings.frameCount < addressLimit := Nat.lt_trans few (by decide)
  have sound := (start_sound settings).follow valid bounded countable roomy unharmed
  have steady :=
    (start_steady settings).follow valid bounded room few roomy (start_sound settings) unharmed
  exact steady.runnable sound produced consumed

theorem exists_run_iff : (∃ tally, run settings = .ok tally) ↔ settings.Runnable := by
  obtain ⟨actors, produced⟩ := exists_produceAll_eq settings settings.frameCount start
  have outcome : run settings = (follow settings (produceAll settings settings.frameCount start)
      (List.replicate (4 * (produceAll settings settings.frameCount start).channel.length + 1)
        .consumer)).outcome := by
    rw [run, finish_eq]
  constructor
  next =>
    intro ⟨tally, ok⟩
    rw [outcome] at ok
    have unharmed := (unharmed_of_outcome ok).1
    have captured : produceAll settings settings.frameCount start = _ :=
      produceAll_eq valid bounded few roomy (start_sound settings) rfl (unharmed_of_follow unharmed)
    rw [captured, ← follow_append] at unharmed
    obtain ⟨produced, consumed⟩ := follow_ends valid bounded few roomy unharmed
      (by rw [List.count_replicate_self]; omega)
      (by rw [List.count_replicate_self, follow_captures_consumer]; exact Nat.le_refl _)
    exact runnable_of_ends valid bounded room few roomy unharmed produced consumed
  next =>
    intro runnable
    have unharmed := follow_unharmed valid bounded room few roomy runnable
      (actors ++ List.replicate (4 * (follow settings start actors).channel.length + 1) .consumer)
    rw [outcome, produced, ← follow_append]
    exact ⟨_, outcome_of_unharmed unharmed⟩

theorem completes_iff_runnable :
    (settings.Runnable → ∀ actors, (follow settings start actors).Unharmed) ∧
    (∀ first rest : List Actor, 6 * settings.frameCount < first.count .producer →
      4 * settings.frameCount < rest.count .consumer →
        ((∃ tally, (follow settings start (first ++ rest)).Finished tally) ↔ settings.Runnable)) ∧
    ((∃ tally, run settings = .ok tally) ↔ settings.Runnable) := by
  refine ⟨follow_unharmed valid bounded room few roomy,
    fun first rest captures serves => ⟨?_, fun runnable => ?_⟩,
    exists_run_iff valid bounded room few roomy⟩
  next =>
    intro ⟨tally, produced, consumed, ok⟩
    exact runnable_of_ends valid bounded room few roomy (unharmed_of_outcome ok).1 produced consumed
  next => exact finishes valid bounded room few roomy runnable captures serves

end Runs

def corner : Settings :=
  { Settings.standard with
    frameSize := ⟨8, 8⟩
    origin := ⟨2147483647, 0⟩
    frameCount := 1
    crop := ⟨2, 0, 8, 8⟩
    rotation := .deg270
    channelCapacity := 1 }

theorem run_corner : corner.validate = .ok () ∧ corner.origin.Bounded ∧
    run corner = .error "Consumer thread panicked" := by
  decide +kernel

theorem completes_iff_runnable_of_corner :
    (corner.validate = .ok () ∧ corner.frameSize.Bounded ∧
      corner.frameSize.packedBytes ≤ allocationLimit ∧ corner.frameCount < 2305843009213693952 ∧
      corner.frameCount ≤ corner.channelCapacity) ∧
    (¬ ∃ tally, run corner = .ok tally) ∧ ∃ tally, run { corner with origin := .zero } = .ok tally := by
  have ⟨valid, bounded, room, few, roomy⟩ : corner.validate = .ok () ∧ corner.frameSize.Bounded ∧
      corner.frameSize.packedBytes ≤ allocationLimit ∧ corner.frameCount < 2305843009213693952 ∧
      corner.frameCount ≤ corner.channelCapacity := by decide +kernel
  have lost : ¬ corner.Runnable := by decide +kernel
  have near : Settings.Runnable { corner with origin := .zero } :=
    Settings.runnable_of_near (by decide) (by decide) (by decide)
  refine ⟨⟨valid, bounded, room, few, roomy⟩, ?_, ?_⟩
  next => exact fun ran => lost ((completes_iff_runnable valid bounded room few roomy).2.2.mp ran)
  next =>
    have moved : Settings.validate { corner with origin := .zero } = .ok () := valid
    exact (completes_iff_runnable moved bounded room few roomy).2.2.mpr near

end Pipeline

end ScreenCapture
