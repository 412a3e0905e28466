import ScreenCapture.Proofs.Pipeline.Invariant

set_option autoImplicit false

namespace ScreenCapture

theorem Changes.encloses_blockAt {area : Rect} {point : Point}
    (inside : area.contains point = true) : area.encloses (blockAt area point) = true := by
  rw [Rect.contains_iff] at inside
  rw [Rect.encloses_iff]
  simp only [blockAt, blockSize_cast]
  omega

theorem Frame.paint_painted {frame : Frame} {settings : Settings} {sequence : Nat}
    {store next : Store} {changed : Region} (fits : frame.Fits store)
    (solid : settings.frameSize.isEmpty = false) (size : frame.size = settings.frameSize)
    (painted : settings.pattern.paint frame sequence store = .ok (changed, next)) :
    (frame.withUpdated changed).Painted settings sequence next := by
  obtain ⟨block, placed, _, shown, first, later⟩ := Pattern.paint_eq_ok fits (size ▸ solid) painted
  rw [size] at placed
  obtain rfl := Settings.blockOf_eq placed
  refine ⟨⟨size, fun point inside => ?_⟩, placed, ?_⟩
  next => exact shown point (by rw [bounds, size]; exact inside)
  next =>
    cases sequence with
    | zero => exact first rfl
    | succ before =>
      obtain ⟨old, earlier, same⟩ := later before rfl
      rw [size] at earlier
      obtain rfl := Settings.blockOf_eq earlier
      exact same

namespace ChangeTracker

variable {tracker after : ChangeTracker} {frame processed last : Frame} {settings : Settings}
  {sequence before : Nat} {store next : Store} {updated : Region} {area : Rect} {point : Point}
  {others : Multiset Frame}

theorem dirty_iff_alters (lastShows : last.Shows (settings.picture before) store)
    (shows : frame.Shows (settings.picture (before + 1)) store)
    (inside : settings.screen.encloses area = true) :
    Changes.Dirty last frame store area ↔ settings.Alters before area := by
  unfold Changes.Dirty Settings.Alters
  refine exists_congr fun point => ?_
  rw [Rect.mem_cells]
  refine and_congr_right fun contained => ?_
  have within := Rect.contains_of_encloses inside contained
  rw [lastShows.pixels point within, shows.pixels point within]

theorem changed_cells (remembers : tracker.Remembers settings store sequence)
    (painted : frame.Painted settings sequence store)
    (found : changed (tracker.comparable? frame) frame store = .ok updated) :
    updated.cells = settings.updates sequence := by
  have screen : frame.bounds = settings.screen := congrArg Rect.ofSize painted.shows.size
  cases sequence with
  | zero =>
    rw [comparable?, remembers] at found
    cases found
    ext point
    rw [Region.mem_cells, Region.contains_ofRect, screen, Settings.updates, Rect.mem_cells]
  | succ before =>
    obtain ⟨last, kept, lastShows⟩ := remembers
    have alike : last.size = frame.size := lastShows.size.trans painted.shows.size.symm
    rw [comparable?, kept, Option.filter_some, if_pos (by simpa using alike)] at found
    have lastScreen : last.bounds = settings.screen := congrArg Rect.ofSize lastShows.size
    -- A block of a hinted rectangle lies on the screen, where both frames show their pictures.
    have alters {hint : Rect} {point : Point}
        (contained : (hint.meet settings.screen).contains point = true) :
        Changes.Dirty last frame store (Changes.blockAt (hint.meet settings.screen) point) ↔
          settings.Alters before (Changes.blockAt (hint.meet settings.screen) point) := by
      refine dirty_iff_alters lastShows painted.shows ?_
      obtain hollow | ⟨_, _, inside⟩ := Rect.meet_cases hint settings.screen
      next =>
        rw [hollow, Rect.contains_of_isEmpty rfl] at contained
        cases contained
      next => exact Rect.encloses_trans inside (Changes.encloses_blockAt contained)
    ext point
    rw [Region.mem_cells, contains_changed found, painted.hinted, lastScreen, Settings.updates,
      Finset.mem_filter, Rect.mem_cells]
    constructor
    next =>
      rintro ⟨hint, member, contained, dirty⟩
      have both := contained
      rw [Rect.contains_meet, Bool.and_eq_true] at both
      exact ⟨both.2, hint, member, contained, (alters contained).mp dirty⟩
    next =>
      rintro ⟨_, hint, member, contained, altered⟩
      exact ⟨hint, member, contained, (alters contained).mpr altered⟩

theorem process_carries (owned : Owned store ((tracker.frames + {frame}) + others))
    (remembers : tracker.Remembers settings store sequence)
    (painted : frame.Painted settings sequence store)
    (ran : tracker.process frame store = .ok (after, processed, next)) :
    processed.Carries settings sequence next ∧ after.Remembers settings next (sequence + 1) := by
  obtain ⟨found, kept, size⟩ := process_eq_ok ran
  have shows : processed.Shows (settings.picture sequence) next :=
    ⟨size.trans painted.shows.size, process_view owned ran ▸ painted.shows.pixels⟩
  exact ⟨⟨shows, painted.placed, changed_canonical found, changed_cells remembers painted found⟩,
    processed, kept, shows⟩

end ChangeTracker

namespace Producer

variable {producer : Producer} {frame : Frame} {phase : Capturing}

def kept (producer : Producer) : Multiset Frame :=
  held producer.queue.previous + producer.tracker.frames

theorem frames_eq (found : producer.queue.current = some frame) :
    producer.frames = {frame} + producer.kept := by
  rw [frames, Queue.frames, found, kept, add_assoc]
  rfl

theorem frames_withCurrent : (producer.withCurrent frame phase).frames = {frame} + producer.kept :=
  frames_eq rfl

end Producer

namespace Pipeline

variable {settings : Settings} {received : List Frame} {pipeline next : Pipeline} {frame : Frame}
  {producer : Producer} {store : Store} {old new rest : Multiset Frame}

theorem send_eq (consuming : pipeline.isConsuming = true)
    (room : pipeline.channel.length < settings.channelCapacity) :
    pipeline.send settings frame = { pipeline with
      store := (frame.share pipeline.store).2
      producer := pipeline.producer.withCurrent (frame.share pipeline.store).1 .advance
      channel := pipeline.channel ++ [(frame.share pipeline.store).1]
      tally := pipeline.tally.produce } := by
  have listening : (!pipeline.isConsuming) = false := by rw [consuming]; rfl
  unfold send deliver
  dsimp only
  rw [if_neg (by rw [Bool.not_eq_true]; exact listening), if_neg (Nat.not_le.mpr room)]

theorem frames_send (handle : Frame) (kept used : Multiset Frame) (channel : List Frame) :
    {handle, handle} + (kept + (channel + used)) =
      ({handle} + kept) + (((channel ++ [handle] : List Frame) : Multiset Frame) + used) := by
  rw [← Multiset.coe_add, Multiset.coe_singleton, Multiset.insert_eq_cons, ← Multiset.singleton_add]
  ac_rfl

theorem tallyAt_produce {sent done : Nat} (below : sent + 1 < addressLimit) :
    (settings.tallyAt sent done).produce = settings.tallyAt (sent + 1) done := by
  simp only [Tally.produce, Settings.tallyAt, Tally.advance, Nat.mod_eq_of_lt below]

namespace Sound

variable (sound : pipeline.Sound settings received)

include sound

theorem consuming (producing : pipeline.isProducing = true) : pipeline.isConsuming = true := by
  cases goes : pipeline.isConsuming with
  | true => rfl
  | false => simp [(sound.finished goes).2] at producing

theorem ownedBy (frames : pipeline.producer.frames = old + rest) :
    Owned pipeline.store (old + (rest + (pipeline.channel + pipeline.consumer.frames))) := by
  rw [← add_assoc, ← frames]
  exact sound.owned

theorem capture (producing : pipeline.isProducing = true)
    (before : pipeline.producer.frames = old + rest) (after : producer.frames = new + rest)
    (upkeep : Upkeep pipeline.store old store new)
    (ready : (∀ frame ∈ rest, store.bytes frame.buffer = pipeline.store.bytes frame.buffer) →
      producer.Ready settings store)
    (sent : producer.sent = pipeline.producer.sent) :
    Sound { pipeline with store, producer } settings received := by
  have laidBy := sound.laid
  rw [frames, before, add_assoc] at laidBy
  obtain ⟨owned, laid, same⟩ := upkeep _ (sound.ownedBy before) laidBy
  simp only [Multiset.mem_add] at same
  constructor
  next =>
    rw [frames, after, add_assoc]
    exact owned
  next =>
    rw [frames, after, add_assoc]
    exact laid
  next => exact ready fun frame member => same frame (.inl member)
  next =>
    intro index frame found
    have member : frame ∈ pipeline.channel := List.mem_of_getElem? found
    exact (sound.flight index frame found).congr (same frame (.inr (.inl member)))
  next => exact sound.follows.congr fun frame member => same frame (.inr (.inr member))
  next => exact sound.sent.trans sent.symm
  next =>
    rw [sent]
    exact sound.placed
  next =>
    intro reached
    cases (sound.consuming producing).symm.trans reached
  next =>
    rw [sent]
    exact sound.counted

theorem prepare (bounded : settings.frameSize.Bounded)
    (phase : pipeline.producer.phase = .prepare)
    (stepped : pipeline.produceStep settings = .ok next) (unharmed : next.Unharmed) :
    next.Sound settings received := by
  have ready := sound.ready
  rw [Producer.Ready, phase] at ready
  obtain ⟨most, remembers⟩ := ready
  have producing : pipeline.isProducing = true := by rw [isProducing, phase]
  simp only [Pipeline.produceStep, Pipeline.prepare, phase] at stepped
  split at stepped
  next enough =>
    cases stepped
    have sent : pipeline.producer.sent = pipeline.producer.sequence := by rw [Producer.sent, phase]
    refine ⟨sound.owned, sound.laid, Nat.le_antisymm most enough, sound.flight, sound.follows,
      sound.sent.trans sent, ?_, fun reached => ?_, ?_⟩
    next =>
      have placed := sound.placed
      rw [sent] at placed
      exact placed
    next => cases (sound.consuming producing).symm.trans reached
    next =>
      have counted := sound.counted
      rw [sent] at counted
      exact counted
  next more =>
    obtain ⟨⟨prepared, queue, store⟩, made, stepped⟩ := Checked.bind_eq_ok.mp stepped
    cases prepared with
    | error refusal =>
      cases stepped
      cases unharmed.1 _ rfl
    | ok frame =>
      cases stepped
      refine sound.capture producing rfl rfl (Queue.prepare_upkeep bounded made) ?_ ?_
      next =>
        intro same
        exact ⟨Nat.lt_of_not_le more, remembers.congr same, frame, Queue.prepare_current made⟩
      next => simp only [Producer.sent, Producer.turnTo, phase]

theorem paint (solid : settings.frameSize.isEmpty = false)
    (phase : pipeline.producer.phase = .paint)
    (stepped : pipeline.produceStep settings = .ok next) : next.Sound settings received := by
  have ready := sound.ready
  rw [Producer.Ready, phase] at ready
  obtain ⟨below, remembers, frame, found, size⟩ := ready
  have producing : pipeline.isProducing = true := by rw [isProducing, phase]
  simp only [Pipeline.produceStep, produceOn, phase, found] at stepped
  obtain ⟨⟨changed, store⟩, painted, stepped⟩ := Checked.bind_eq_ok.mp stepped
  cases stepped
  have laid := LaidOut.add.mp sound.laid
  rw [Producer.frames_eq found] at laid
  have fits := (LaidOut.single.mp (LaidOut.add.mp laid.1).1).fits
  refine sound.capture producing (Producer.frames_eq found) Producer.frames_withCurrent
    (Frame.paint_upkeep (size ▸ solid) painted) ?_ ?_
  next =>
    intro same
    refine ⟨below, remembers.congr fun other member => same other ?_, _, rfl,
      Frame.paint_painted fits solid size painted⟩
    exact Multiset.mem_add.mpr (.inr member)
  next => simp only [Producer.sent, Producer.withCurrent, phase]

theorem compare (phase : pipeline.producer.phase = .compare)
    (stepped : pipeline.produceStep settings = .ok next) : next.Sound settings received := by
  have ready := sound.ready
  rw [Producer.Ready, phase] at ready
  obtain ⟨below, remembers, frame, found, painted⟩ := ready
  have producing : pipeline.isProducing = true := by rw [isProducing, phase]
  simp only [Pipeline.produceStep, produceOn, phase, found] at stepped
  obtain ⟨⟨tracker, processed, store⟩, ran, stepped⟩ := Checked.bind_eq_ok.mp stepped
  cases stepped
  have before : pipeline.producer.frames =
      (pipeline.producer.tracker.frames + {frame}) + held pipeline.producer.queue.previous := by
    rw [Producer.frames_eq found, Producer.kept]
    ac_rfl
  have ⟨carries, after⟩ :=
    ChangeTracker.process_carries (sound.ownedBy before) remembers painted ran
  refine sound.capture producing before ?_ (ChangeTracker.process_upkeep ran) ?_ ?_
  next =>
    rw [Producer.frames_eq rfl, Producer.kept]
    simp only [Producer.withCurrent]
    ac_rfl
  next => exact fun _ => ⟨below, after, processed, rfl, carries⟩
  next => simp only [Producer.sent, Producer.withCurrent, phase]

theorem describe (phase : pipeline.producer.phase = .describe)
    (stepped : pipeline.produceStep settings = .ok next) : next.Sound settings received := by
  have ready := sound.ready
  rw [Producer.Ready, phase] at ready
  obtain ⟨below, remembers, frame, found, carries⟩ := ready
  have producing : pipeline.isProducing = true := by rw [isProducing, phase]
  simp only [Pipeline.produceStep, produceOn, phase, found] at stepped
  cases stepped
  refine sound.capture producing (Producer.frames_eq found) Producer.frames_withCurrent
    (frame.withInfo_upkeep _ _) ?_ ?_
  next => exact fun _ => ⟨below, remembers, _, rfl, carries.withInfo rfl⟩
  next => simp only [Producer.sent, Producer.withCurrent, phase]

theorem advance (phase : pipeline.producer.phase = .advance)
    (stepped : pipeline.produceStep settings = .ok next) : next.Sound settings received := by
  have ready := sound.ready
  rw [Producer.Ready, phase] at ready
  obtain ⟨below, remembers⟩ := ready
  have producing : pipeline.isProducing = true := by rw [isProducing, phase]
  simp only [Pipeline.produceStep, phase] at stepped
  cases stepped
  refine sound.capture producing (add_zero _).symm ?_ (.refl _ _) ?_ ?_
  next =>
    rw [add_zero, Producer.frames, Queue.frames_advance]
    rfl
  next => exact fun _ => ⟨below, remembers⟩
  next => simp only [Producer.sent, phase]

theorem send (countable : settings.frameCount < addressLimit)
    (roomy : settings.frameCount ≤ settings.channelCapacity)
    (phase : pipeline.producer.phase = .send)
    (stepped : pipeline.produceStep settings = .ok next) : next.Sound settings received := by
  have ready := sound.ready
  rw [Producer.Ready, phase] at ready
  obtain ⟨below, remembers, frame, found, carries⟩ := ready
  have producing : pipeline.isProducing = true := by rw [isProducing, phase]
  simp only [Pipeline.produceStep, produceOn, phase, found] at stepped
  cases stepped
  have sent : received.length + pipeline.channel.length = pipeline.producer.sequence := by
    rw [sound.sent, Producer.sent, phase]
  rw [send_eq (sound.consuming producing) (by omega)]
  have before := Producer.frames_eq found
  have laidBy := sound.laid
  rw [frames, before, add_assoc] at laidBy
  obtain ⟨owned, laid, same⟩ := frame.share_upkeep pipeline.store _ (sound.ownedBy before) laidBy
  have shared := carries.share
  generalize (frame.share pipeline.store).1 = handle at *
  generalize (frame.share pipeline.store).2 = store at *
  rw [frames_send, ← Producer.frames_withCurrent] at owned laid
  simp only [Multiset.mem_add] at same
  refine ⟨owned, laid, ⟨below, remembers.congr fun other member => same other (.inl ?_)⟩, ?_,
    sound.follows.congr fun other member => same other (.inr (.inr member)), ?_, ?_, fun reached => ?_, ?_⟩
  next => exact Multiset.mem_add.mpr (.inr member)
  next =>
    intro index other taken
    rw [List.getElem?_append] at taken
    split at taken
    next =>
      have member : other ∈ pipeline.channel := List.mem_of_getElem? taken
      exact (sound.flight index other taken).congr (same other (.inr (.inl member)))
    next beyond =>
      obtain ⟨last, rfl⟩ : index = pipeline.channel.length ∧ other = handle := by
        rw [List.getElem?_singleton] at taken
        split at taken
        next => exact ⟨by omega, (Option.some.inj taken).symm⟩
        next => cases taken
      rw [last, sent]
      exact shared
  next =>
    rw [List.length_append, List.length_singleton]
    simp only [Producer.sent, Producer.withCurrent]
    omega
  next =>
    intro sequence earlier
    have placed := sound.placed sequence
    rw [← sound.sent, sent] at placed
    rcases Nat.lt_succ_iff_lt_or_eq.mp earlier with earlier | rfl
    next => exact placed earlier
    next => exact carries.placed
  next => cases (sound.consuming producing).symm.trans reached
  next =>
    have counted := congrArg Tally.produce sound.counted
    rw [← sound.sent, sent, tallyAt_produce (by omega)] at counted
    exact counted

theorem produceStep (bounded : settings.frameSize.Bounded)
    (solid : settings.frameSize.isEmpty = false) (countable : settings.frameCount < addressLimit)
    (roomy : settings.frameCount ≤ settings.channelCapacity)
    (stepped : pipeline.produceStep settings = .ok next) (unharmed : next.Unharmed) :
    next.Sound settings received := by
  cases phase : pipeline.producer.phase with
  | prepare => exact sound.prepare bounded phase stepped unharmed
  | paint => exact sound.paint solid phase stepped
  | compare => exact sound.compare phase stepped
  | describe => exact sound.describe phase stepped
  | send => exact sound.send countable roomy phase stepped
  | advance => exact sound.advance phase stepped
  | ended ending =>
    simp only [Pipeline.produceStep, phase] at stepped
    cases stepped
    exact sound

theorem produce (bounded : settings.frameSize.Bounded)
    (solid : settings.frameSize.isEmpty = false) (countable : settings.frameCount < addressLimit)
    (roomy : settings.frameCount ≤ settings.channelCapacity)
    (unharmed : (pipeline.produce settings).Unharmed) :
    (pipeline.produce settings).Sound settings received := by
  unfold Pipeline.produce at unharmed ⊢
  split
  next next stepped =>
    rw [stepped] at unharmed
    exact sound.produceStep bounded solid countable roomy stepped unharmed
  next fault stepped =>
    rw [stepped] at unharmed
    cases unharmed.1 _ rfl

end Sound

end Pipeline

end ScreenCapture
