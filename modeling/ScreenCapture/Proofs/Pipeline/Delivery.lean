import ScreenCapture.Proofs.Pipeline.Invariant

set_option autoImplicit false

namespace ScreenCapture

theorem Producer.Ready.sent_le {producer : Producer} {settings : Settings} {store : Store}
    (ready : producer.Ready settings store) : producer.sent ≤ settings.frameCount := by
  unfold Ready at ready
  unfold sent
  cases phase : producer.phase with
  | prepare =>
    rw [phase] at ready
    exact ready.1
  | paint | compare | describe | send =>
    rw [phase] at ready
    exact Nat.le_of_lt ready.1
  | advance =>
    rw [phase] at ready
    exact ready.1
  | ended ending =>
    rw [phase] at ready
    exact Nat.le_of_eq ready

namespace Pipeline

variable {settings : Settings} {received : List Frame} {pipeline next : Pipeline}
  {consumer : Consumer} {tally : Tally} {store after : Store} {target : Option Frame}
  {size : Size} {frame cropped : Frame} {sent done changed : Nat}

theorem prepareTarget_upkeep (bounded : size.Bounded) (target : Option Frame) (store : Store) :
    Upkeep store (held target) (prepareTarget size target store).2
      (held (prepareTarget size target store).1.toOption) := by
  unfold prepareTarget
  split
  next => exact Frame.createOnHeap_upkeep bounded store
  next target =>
    split
    next => exact .refl _ _
    next =>
      have begun := (Frame.createOnHeap_upkeep bounded store).beside {target}
      rw [zero_add] at begun
      have dropped := (target.release_upkeep (Frame.createOnHeap size store).2).behind
        (held (Frame.createOnHeap size store).1.toOption)
      rw [add_zero] at dropped
      exact begun.trans dropped

theorem prepareTarget_size (prepared : prepareTarget size target store = (.ok frame, after)) :
    frame.size = size := by
  unfold prepareTarget at prepared
  split at prepared
  next =>
    obtain ⟨_, _, rfl, _⟩ := Frame.createOnHeap_eq_ok prepared
    rfl
  next =>
    split at prepared
    next same =>
      cases prepared
      exact same
    next =>
      generalize made : Frame.createOnHeap size store = result at prepared
      obtain ⟨created, reserved⟩ := result
      cases prepared
      obtain ⟨_, _, rfl, _⟩ := Frame.createOnHeap_eq_ok made
      rfl

theorem turn_eq_ok {reserved drawn : Frame} {info : FrameInfo} {middle : Store} {picture : Picture}
    {rotation : Rotation} {others : Multiset Frame}
    (owned : Owned store (held target + ({cropped} + others)))
    (laid : LaidOut store (held target + ({cropped} + others)))
    (shows : cropped.Shows picture store) (solid : cropped.bounds.isEmpty = false)
    (prepared : prepareTarget (rotation.turnSize cropped.size) target store = (.ok reserved, middle))
    (ran : Frame.drawTurned { reserved with info } cropped cropped.bounds rotation .zero middle =
      .ok (drawn, after)) :
    Owned after ({drawn} + ({cropped} + others)) ∧ LaidOut after ({drawn} + ({cropped} + others)) ∧
      (∀ other ∈ {cropped} + others, after.bytes other.buffer = store.bytes other.buffer) ∧
        drawn.Shows (picture.turned rotation) after := by
  have before : cropped.Layout store := laid cropped (by simp)
  have bounded : (rotation.turnSize cropped.size).Bounded :=
    rotation.isCoordinate_turnSize before.width.2 before.height.2
  have prepare := prepareTarget_upkeep bounded target store
  rw [prepared] at prepare
  -- What the target held is of no account: it has the size of the whole turned source.
  have described := prepare.trans (reserved.withInfo_upkeep info middle)
  obtain ⟨owned, laid, same⟩ := described _ owned laid
  have layout := laid _ (Multiset.mem_add.mpr (.inl (Multiset.mem_singleton_self _)))
  have sourceLayout : cropped.Layout middle := laid cropped (by simp)
  have size := prepareTarget_size prepared
  obtain ⟨_, turned, _⟩ := (shows.congr (same cropped (by simp))).drawTurned sourceLayout.fits
    layout.fits size solid ran
  obtain ⟨owned, laid, kept⟩ := Frame.drawTurned_upkeep sourceLayout layout size solid ran _ owned laid
  exact ⟨owned, laid, fun other member => (kept other member).trans (same other member), turned⟩

theorem tallyAt_missCrop (hollow : settings.visible.isEmpty = true)
    (below : done + 1 < addressLimit) :
    (settings.tallyAt sent done).missCrop = settings.tallyAt sent (done + 1) := by
  have none := Rect.cells_of_isEmpty hollow
  simp [Tally.missCrop, Settings.tallyAt, Tally.advance, Nat.mod_eq_of_lt below, hollow, none]

theorem tallyAt_consume (solid : settings.visible.isEmpty = false)
    (below : done + 1 < addressLimit)
    (counted : changed = (settings.visible.cells ∩ settings.updates done).card) :
    (settings.tallyAt sent done).consume (settings.output done).size changed =
      settings.tallyAt sent (done + 1) := by
  subst counted
  have size : (settings.output done).size = (settings.output 0).size := by
    simp only [Settings.output, Picture.turned, Picture.part]
  simp [Tally.consume, Settings.tallyAt, Tally.advance, Nat.mod_eq_of_lt below, solid, size,
    Finset.sum_range_succ]

def upstream (pipeline : Pipeline) : Multiset Frame := pipeline.producer.frames + pipeline.channel

theorem frames_eq (pipeline : Pipeline) :
    pipeline.frames = pipeline.consumer.frames + pipeline.upstream := by
  rw [frames, upstream]
  ac_rfl

namespace Sound

variable (sound : pipeline.Sound settings received)

include sound

theorem received_le : received.length ≤ settings.frameCount := by
  have sent := sound.sent
  have most := sound.ready.sent_le
  omega

theorem serve (owned : Owned store (consumer.frames + pipeline.upstream))
    (laid : LaidOut store (consumer.frames + pipeline.upstream))
    (same : ∀ frame ∈ pipeline.upstream,
      store.bytes frame.buffer = pipeline.store.bytes frame.buffer)
    (follows : consumer.Follows settings received store)
    (going : ∀ ending, consumer.phase ≠ .ended ending)
    (counted : tally.reallocate 0 =
      settings.tallyAt pipeline.producer.sent (consumer.done received)) :
    Sound { pipeline with store, consumer, tally } settings received := by
  simp only [upstream, Multiset.mem_add] at same
  constructor
  next =>
    rw [frames_eq]
    exact owned
  next =>
    rw [frames_eq]
    exact laid
  next => exact sound.ready.congr fun frame member => same frame (.inl member)
  next =>
    intro index frame found
    have member : frame ∈ pipeline.channel := List.mem_of_getElem? found
    exact (sound.flight index frame found).congr (same frame (.inr member))
  next => exact follows
  next => exact sound.sent
  next => exact sound.placed
  next =>
    intro reached
    unfold isConsuming at reached
    split at reached
    next ending ended => exact absurd ended (going ending)
    next => cases reached
  next => exact counted

theorem receive_cons {rest : List Frame} (phase : pipeline.consumer.phase = .receive)
    (channel : pipeline.channel = frame :: rest) :
    pipeline.receive.Sound settings (received ++ [frame]) := by
  have received' : pipeline.receive = { pipeline with
      channel := rest
      consumer := ⟨.crop frame, pipeline.consumer.target⟩ } := by
    simp only [Pipeline.receive, channel, consumeAt]
  rw [received']
  have flight := sound.flight
  have sent := sound.sent
  have idle : pipeline.consumer.frames = held pipeline.consumer.target := by
    simp [Consumer.frames, Consumer.working, phase, held]
  have frames : pipeline.frames = pipeline.producer.frames +
      (rest + Consumer.frames ⟨.crop frame, pipeline.consumer.target⟩) := by
    rw [Pipeline.frames, channel, idle, ← Multiset.cons_coe, ← Multiset.singleton_add]
    simp only [Consumer.frames, Consumer.working, held]
    ac_rfl
  have owned := sound.owned
  have laid := sound.laid
  rw [frames] at owned laid
  rw [channel] at flight sent
  have received_done : Consumer.done ⟨.crop frame, pipeline.consumer.target⟩ (received ++ [frame]) =
      pipeline.consumer.done received := by
    simp [Consumer.done, phase]
  refine ⟨owned, laid, sound.ready, fun index other found => ?_, ⟨?_, by simp, ?_⟩, ?_,
    sound.placed, by simp [isConsuming], ?_⟩
  next =>
    have carries := flight (index + 1) other found
    rw [List.length_append, List.length_singleton, Nat.add_right_comm, Nat.add_assoc]
    exact carries
  next =>
    intro other same
    cases same
    exact ⟨received, rfl, flight 0 frame rfl⟩
  next =>
    rw [received_done]
    exact sound.follows.drawn
  next =>
    rw [List.length_append, List.length_singleton, Nat.add_assoc, Nat.add_comm 1]
    exact sent
  next =>
    rw [received_done]
    exact sound.counted

theorem receive_nil (phase : pipeline.consumer.phase = .receive)
    (channel : pipeline.channel = []) : pipeline.receive.Sound settings received := by
  unfold Pipeline.receive
  rw [channel]
  dsimp only
  cases producing : pipeline.isProducing with
  | true => exact sound
  | false =>
    have frames : (consumeAt (.ended .completed) pipeline).frames = pipeline.frames := by
      simp only [Pipeline.frames, consumeAt, Consumer.frames, Consumer.working, phase]
    have done : (consumeAt (.ended .completed) pipeline).consumer.done received =
        pipeline.consumer.done received := by
      simp only [consumeAt, Consumer.done, phase]
    refine ⟨frames ▸ sound.owned, frames ▸ sound.laid, sound.ready, sound.flight,
      ⟨by simp [consumeAt], fun _ reached => ?_, done ▸ sound.follows.drawn⟩, sound.sent, sound.placed,
      fun _ => ⟨channel, producing⟩, done ▸ sound.counted⟩
    rcases reached with reached | reached
    all_goals cases reached

theorem crop (countable : settings.frameCount < addressLimit)
    (phase : pipeline.consumer.phase = .crop frame)
    (stepped : pipeline.crop settings frame = .ok next) : next.Sound settings received := by
  obtain ⟨earlier, last, carries⟩ := sound.follows.whole frame phase
  have screen := carries.bounds_eq
  have handled : pipeline.consumer.done received = earlier.length := by
    simp [Consumer.done, phase, last]
  have length : received.length = earlier.length + 1 := by rw [last, List.length_append]; rfl
  have most := sound.received_le
  have before : pipeline.consumer.frames = {frame} + held pipeline.consumer.target := by
    simp [Consumer.frames, Consumer.working, phase, held]
  have owned := sound.owned
  have laid := sound.laid
  rw [frames_eq, before, add_assoc] at owned laid
  obtain ⟨⟨cropped, store⟩, taken, stepped⟩ := Checked.bind_eq_ok.mp stepped
  obtain ⟨owned, laid, same⟩ := Frame.crop?_upkeep taken _ owned laid
  have above : ∀ frame ∈ pipeline.upstream,
      store.bytes frame.buffer = pipeline.store.bytes frame.buffer :=
    fun other member => same other (Multiset.mem_add.mpr (.inr member))
  cases cropped with
  | none =>
    obtain ⟨hollow, rfl⟩ := Frame.crop?_none taken
    rw [screen] at hollow
    cases stepped
    refine sound.serve ?_ ?_ above ⟨by simp, fun _ reached => ?_, fun _ _ solid => ?_⟩ (by simp) ?_
    next => simpa [Consumer.frames, Consumer.working, held] using owned
    next => simpa [Consumer.frames, Consumer.working, held] using laid
    next => rcases reached with reached | reached <;> cases reached
    next => cases hollow.symm.trans solid
    next =>
      have counted := congrArg Tally.missCrop sound.counted
      rw [handled, tallyAt_missCrop hollow (by omega), ← length] at counted
      exact counted
  | some cropped =>
    obtain ⟨solid, rfl, isCrop⟩ := Frame.crop?_isCropOf taken
    rw [screen] at solid isCrop
    have unchanged : pipeline.consumer.done received =
        Consumer.done ⟨.draw cropped, pipeline.consumer.target⟩ received := by
      simp only [Consumer.done, phase]
    cases stepped
    refine sound.serve ?_ ?_ above ⟨by simp, fun other reached => ?_, ?_⟩ (by simp) ?_
    next => simpa [Consumer.frames, Consumer.working, held, add_assoc] using owned
    next => simpa [Consumer.frames, Consumer.working, held, add_assoc] using laid
    next =>
      rcases reached with reached | reached
      next =>
        cases reached
        exact ⟨solid, earlier, frame, last, carries, isCrop⟩
      next => cases reached
    next => exact unchanged ▸ sound.follows.drawn
    next => exact unchanged ▸ sound.counted

theorem draw (countable : settings.frameCount < addressLimit)
    (phase : pipeline.consumer.phase = .draw cropped)
    (stepped : pipeline.draw settings cropped = .ok next) (unharmed : next.Unharmed) :
    next.Sound settings received := by
  obtain ⟨solid, earlier, frame, last, carries, isCrop⟩ := sound.follows.cropped cropped (.inl phase)
  have inside := carries.encloses_visible solid
  have handled : pipeline.consumer.done received = earlier.length := by
    simp [Consumer.done, phase, last]
  have length : received.length = earlier.length + 1 := by rw [last, List.length_append]; rfl
  have most := sound.received_le
  have before : pipeline.consumer.frames = held pipeline.consumer.target + {cropped} := by
    simp [Consumer.frames, Consumer.working, phase, held, add_comm]
  have owned := sound.owned
  have laid := sound.laid
  rw [frames_eq, before, add_assoc] at owned laid
  unfold Pipeline.draw at stepped
  dsimp only at stepped
  split at stepped
  next refusal store refused =>
    cases stepped
    cases unharmed.2 _ rfl
  next target store prepared =>
    obtain ⟨⟨drawn, after⟩, ran, stepped⟩ := Checked.bind_eq_ok.mp stepped
    obtain ⟨changed, measured, stepped⟩ := Checked.bind_eq_ok.mp stepped
    cases stepped
    obtain ⟨owned, laid, unchanged, turned⟩ := turn_eq_ok owned laid
      (isCrop.shows carries.shows inside) (isCrop.bounds_isEmpty carries.shows inside solid) prepared ran
    refine sound.serve ?_ ?_ (fun other member => unchanged other (by simp [member]))
      ⟨by simp, fun other reached => ?_, fun sequence done _ => ?_⟩ (by simp) ?_
    next => simpa [Consumer.frames, Consumer.working, held, add_left_comm, add_assoc] using owned
    next => simpa [Consumer.frames, Consumer.working, held, add_left_comm, add_assoc] using laid
    next =>
      rcases reached with reached | reached
      next => cases reached
      next =>
        cases reached
        have bytes := unchanged cropped (by simp)
        rw [isCrop.buffer] at bytes
        exact ⟨solid, earlier, frame, last, carries.congr bytes, isCrop⟩
    next =>
      obtain rfl : earlier.length = sequence := by
        simp only [Consumer.done] at done
        omega
      exact ⟨drawn, rfl, turned⟩
    next =>
      have measure := isCrop.area_eq_ok carries measured
      have size : drawn.size = (settings.output earlier.length).size := turned.size
      calc (pipeline.tally.reallocate 0).consume drawn.size changed.toNat
        _ = (settings.tallyAt pipeline.producer.sent earlier.length).consume
              (settings.output earlier.length).size changed.toNat := by
            rw [sound.counted, handled, size]
        _ = settings.tallyAt pipeline.producer.sent received.length := by
            rw [tallyAt_consume solid (by omega) measure, length]

theorem release (phase : pipeline.consumer.phase = .release cropped) :
    (consumeAt .receive { pipeline with store := cropped.release pipeline.store }).Sound settings
      received := by
  have before : pipeline.consumer.frames = {cropped} + held pipeline.consumer.target := by
    simp [Consumer.frames, Consumer.working, phase, held]
  have after : Consumer.frames ⟨.receive, pipeline.consumer.target⟩ =
      0 + held pipeline.consumer.target := by
    simp [Consumer.frames, Consumer.working, held]
  have owned := sound.owned
  have laid := sound.laid
  rw [frames_eq, before, add_assoc] at owned laid
  obtain ⟨owned, laid, same⟩ := cropped.release_upkeep pipeline.store _ owned laid
  rw [← add_assoc, ← after] at owned laid
  have done : Consumer.done ⟨.receive, pipeline.consumer.target⟩ received =
      pipeline.consumer.done received := by
    simp only [Consumer.done, phase]
  refine sound.serve owned laid (fun other member => same other (by simp [member]))
    ⟨by simp, by simp, fun sequence drawn solid => ?_⟩ (by simp) (done ▸ sound.counted)
  obtain ⟨target, kept, shows⟩ := sound.follows.drawn sequence (done ▸ drawn) solid
  exact ⟨target, kept, shows.congr (same target (by simp [kept, held]))⟩

end Sound

def taken (pipeline : Pipeline) : Actor → List Frame
  | .producer => []
  | .consumer =>
      match pipeline.consumer.phase with
      | .receive => pipeline.channel.take 1
      | .crop _ | .draw _ | .release _ | .ended _ => []

def delivered (settings : Settings) (pipeline : Pipeline) : (actors : List Actor) → List Frame
  | [] => []
  | actor :: rest => pipeline.taken actor ++ delivered settings (pipeline.step settings actor) rest

namespace Sound

variable (sound : pipeline.Sound settings received)

include sound

theorem consumeStep (countable : settings.frameCount < addressLimit)
    (stepped : pipeline.consumeStep settings = .ok next) (unharmed : next.Unharmed) :
    next.Sound settings (received ++ pipeline.taken .consumer) := by
  unfold Pipeline.consumeStep at stepped
  unfold taken
  cases phase : pipeline.consumer.phase with
  | receive =>
    rw [phase] at stepped
    cases stepped
    cases channel : pipeline.channel with
    | nil =>
      rw [List.take_nil, List.append_nil]
      exact sound.receive_nil phase channel
    | cons frame rest => exact sound.receive_cons phase channel
  | crop frame =>
    rw [phase] at stepped
    rw [List.append_nil]
    exact sound.crop countable phase stepped
  | draw cropped =>
    rw [phase] at stepped
    rw [List.append_nil]
    exact sound.draw countable phase stepped unharmed
  | release cropped =>
    rw [phase] at stepped
    rw [List.append_nil]
    cases stepped
    exact sound.release phase
  | ended ending =>
    rw [phase] at stepped
    rw [List.append_nil]
    cases stepped
    exact sound

theorem consume (countable : settings.frameCount < addressLimit)
    (unharmed : (pipeline.consume settings).Unharmed) :
    (pipeline.consume settings).Sound settings (received ++ pipeline.taken .consumer) := by
  unfold Pipeline.consume at unharmed ⊢
  split
  next next stepped =>
    rw [stepped] at unharmed
    exact sound.consumeStep countable stepped unharmed
  next fault stepped =>
    rw [stepped] at unharmed
    cases unharmed.2 _ rfl

end Sound

end Pipeline

end ScreenCapture
