import ScreenCapture.Proofs.Crop.SubRect
import ScreenCapture.Proofs.Pipeline.Runs
import ScreenCapture.Proofs.Pipeline.Supply
import ScreenCapture.Proofs.Pixels.Motion

set_option autoImplicit false

namespace ScreenCapture

namespace Settings

variable {settings : Settings} {sequence : Nat}

def Comparable (settings : Settings) : (sequence : Nat) → Prop
  | 0 => True
  | before + 1 => ∀ hint ∈ (settings.hint (before + 1)).rects,
      Changes.BlocksFit (hint.meet settings.screen)

instance (settings : Settings) : DecidablePred settings.Comparable
  | 0 => inferInstanceAs (Decidable True)
  | before + 1 => inferInstanceAs (Decidable (∀ hint ∈ (settings.hint (before + 1)).rects, _))

def Croppable (settings : Settings) : Prop :=
  settings.visible.isEmpty = true ∨ settings.visible = settings.screen ∨
    (settings.origin.plus settings.visible.topLeft).Bounded

instance (settings : Settings) : Decidable settings.Croppable :=
  inferInstanceAs (Decidable (_ ∨ _ ∨ _))

theorem blockAt_answers (valid : settings.validate = .ok ()) (bounded : settings.frameSize.Bounded)
    (few : sequence < 2305843009213693952) :
    ∃ block, settings.pattern.blockAt settings.frameSize sequence = .ok block := by
  have solid := (validate_eq_ok_iff.mp valid).1
  rw [Size.isEmpty_eq_false_iff] at solid
  have width : settings.frameSize.width.tdiv 8 = settings.frameSize.width / 8 :=
    Int.tdiv_eq_ediv_of_nonneg (by omega)
  have height : settings.frameSize.height.tdiv 8 = settings.frameSize.height / 8 :=
    Int.tdiv_eq_ediv_of_nonneg (by omega)
  have narrow := bounded.1
  have low := bounded.2
  unfold IsCoordinate at narrow low
  have reaches : settings.pattern.Reaches sequence := by
    constructor
    all_goals
      simp only [pattern, width, height, Size.Bounded, IsCoordinate]
      omega
  exact ⟨_, Pattern.blockAt_eq reaches ⟨by omega, by omega⟩ bounded⟩

end Settings

namespace ChangeTracker

variable {tracker : ChangeTracker} {settings : Settings} {frame : Frame} {store : Store}
  {sequence : Nat}

theorem exists_process_iff (remembers : tracker.Remembers settings store sequence)
    (painted : frame.Painted settings sequence store) (fits : frame.Fits store)
    (lastFits : ∀ last ∈ tracker.frames, last.Fits store) :
    (∃ result, tracker.process frame store = .ok result) ↔ settings.Comparable sequence := by
  have answers : (∃ result, tracker.process frame store = .ok result) ↔
      ∃ updated, changed (tracker.comparable? frame) frame store = .ok updated := by
    constructor
    next =>
      intro ⟨result, ran⟩
      obtain ⟨updated, found, _⟩ := Checked.bind_eq_ok.mp ran
      exact ⟨updated, found⟩
    next =>
      intro ⟨updated, found⟩
      rw [process, found, Checked.ok_bind]
      exact ⟨_, rfl⟩
  rw [answers]
  cases sequence with
  | zero =>
    rw [comparable?, remembers]
    exact iff_of_true ⟨_, rfl⟩ trivial
  | succ before =>
    obtain ⟨last, kept, lastShows⟩ := remembers
    have alike : last.size = frame.size := lastShows.size.trans painted.shows.size.symm
    have lastScreen : last.bounds = settings.screen := congrArg Rect.ofSize lastShows.size
    have lastFits := lastFits last (by simp [frames, kept, held])
    rw [comparable?, kept, Option.filter_some, if_pos (by simpa using alike), changed,
      painted.hinted]
    refine Checked.foldlM_answers_iff fun hint _ output => ?_
    rw [Changes.exists_compare_iff lastFits fits, lastScreen]
    exact and_iff_right alike

end ChangeTracker

@[simp]
theorem Producer.turnTo_phase (producer : Producer) (phase : Capturing) :
    (producer.turnTo phase).phase = phase := rfl

@[simp]
theorem Producer.withCurrent_phase (producer : Producer) (frame : Frame) (phase : Capturing) :
    (producer.withCurrent frame phase).phase = phase := rfl

def Producer.compared (producer : Producer) : Nat :=
  match producer.phase with
  | .describe | .send | .advance => producer.sequence + 1
  | .prepare | .paint | .compare | .ended _ => producer.sequence

structure Producer.Steady (producer : Producer) (settings : Settings) : Prop where
  plain : ∀ frame ∈ producer.queue.frames, frame.IsPlain
  described : producer.phase = .send → ∀ frame, producer.queue.current = some frame →
    frame.info.topLeft = settings.origin
  compared : ∀ sequence < producer.compared, settings.Comparable sequence

structure Consumer.Steady (consumer : Consumer) (settings : Settings) (received : List Frame) :
    Prop where
  bare : ∀ target, consumer.target = some target → target.groups = []
  whole : ∀ frame, consumer.phase = .crop frame → frame.info.topLeft = settings.origin
  cropped : ∀ frame, consumer.phase = .draw frame → settings.Croppable
  done : 0 < consumer.done received → settings.Croppable

namespace Pipeline

structure Steady (pipeline : Pipeline) (settings : Settings) (received : List Frame) : Prop where
  supplied : pipeline.store.Supplies pipeline.supplier
  producer : pipeline.producer.Steady settings
  consumer : pipeline.consumer.Steady settings received
  flight : ∀ frame ∈ pipeline.channel, frame.info.topLeft = settings.origin
  writable : pipeline.producer.phase = .paint → ∀ frame, pipeline.producer.queue.current = some frame →
    frame.isWritable pipeline.store = true

theorem start_steady (settings : Settings) : start.Steady settings [] where
  supplied := ⟨0, rfl⟩
  producer := ⟨by simp [start, Queue.frames, Queue.empty, held], by simp [start], by
    simp [start, Producer.compared]⟩
  consumer := ⟨by simp [start], by simp [start], by simp [start], by simp [start, Consumer.done]⟩
  flight := by simp [start]
  writable := by simp [start]

variable {settings : Settings} {received : List Frame} {pipeline next : Pipeline} {frame : Frame}

theorem source_known (settings : Settings) (supplier : Nat) :
    settings.source supplier = .heap ∨ settings.source supplier = .segments supplier := by
  unfold Settings.source
  split
  next => exact .inr rfl
  next => exact .inl rfl

namespace Steady

variable (sound : pipeline.Sound settings received) (steady : pipeline.Steady settings received)
  (unharmed : pipeline.Unharmed)

include sound steady unharmed

theorem prepare (valid : settings.validate = .ok ())
    (room : settings.frameSize.packedBytes ≤ allocationLimit)
    (phase : pipeline.producer.phase = .prepare) : ∃ next,
      pipeline.produceStep settings = .ok next ∧ next.Unharmed ∧ next.Steady settings received := by
  have compared := steady.producer.compared
  rw [Producer.compared, phase] at compared
  simp only [Pipeline.produceStep, Pipeline.prepare, phase]
  split
  next =>
    refine ⟨_, rfl, ⟨fun ending ended => ?_, unharmed.2⟩, steady.supplied,
      ⟨steady.producer.plain, by simp, compared⟩, steady.consumer, steady.flight, by simp⟩
    cases ended
    rfl
  next =>
    have solid := (Settings.validate_eq_ok_iff.mp valid).1
    rw [Size.isEmpty_eq_false_iff] at solid
    have owned := sound.owned
    rw [frames, Producer.frames, add_assoc] at owned
    obtain ⟨frame, queue, store, prepared, current, writable, supplied, plain⟩ :=
      Queue.prepare_answers ⟨by omega, by omega⟩ room (source_known settings pipeline.supplier)
        steady.supplied steady.producer.plain owned
    rw [prepared, Checked.ok_bind]
    refine ⟨_, rfl, ⟨fun ending ended => ?_, unharmed.2⟩, supplied, ⟨plain, by simp, compared⟩,
      steady.consumer, steady.flight, fun _ other found => ?_⟩
    next => cases ended
    next =>
      cases current.symm.trans found
      exact writable

omit sound unharmed in
theorem plain_withCurrent {phase : Capturing} (plain : frame.IsPlain) :
    ∀ other ∈ (pipeline.producer.withCurrent frame phase).queue.frames, other.IsPlain := by
  intro other member
  rcases Multiset.mem_add.mp member with current | kept
  next =>
    cases Multiset.mem_singleton.mp current
    exact plain
  next => exact steady.producer.plain other (Multiset.mem_add.mpr (.inr kept))

omit sound unharmed in
theorem current_plain (found : pipeline.producer.queue.current = some frame) : frame.IsPlain :=
  steady.producer.plain frame (by simp [Queue.frames, found, held])

omit steady unharmed in
theorem current_layout (found : pipeline.producer.queue.current = some frame) :
    frame.Layout pipeline.store :=
  sound.laid frame (by simp [frames, Producer.frames, Queue.frames, found, held])

theorem paint (valid : settings.validate = .ok ()) (bounded : settings.frameSize.Bounded)
    (few : settings.frameCount < 2305843009213693952) (phase : pipeline.producer.phase = .paint) :
    ∃ next, pipeline.produceStep settings = .ok next ∧ next.Unharmed ∧
      next.Steady settings received := by
  have ready := sound.ready
  rw [Producer.Ready, phase] at ready
  obtain ⟨below, _, frame, found, size⟩ := ready
  have compared := steady.producer.compared
  rw [Producer.compared, phase] at compared
  have layout := current_layout sound found
  have plain := current_plain steady found
  have placed : ∀ number ≤ pipeline.producer.sequence, ∃ block,
      settings.pattern.blockAt frame.size number = .ok block := fun number upTo => by
    rw [size]
    exact Settings.blockAt_answers valid bounded (by omega)
  obtain ⟨changed, store, painted, recolored⟩ :=
    Pattern.paint_recolors layout (steady.writable phase frame found) placed
  simp only [Pipeline.produceStep, produceOn, phase, found, Pipeline.paint, painted, Checked.ok_bind]
  refine ⟨_, rfl, ⟨by simp, unharmed.2⟩, steady.supplied.congr recolored.suppliers,
    ⟨plain_withCurrent steady plain, by simp, compared⟩, steady.consumer, steady.flight, by simp⟩

omit steady unharmed in
theorem exists_compare_iff (phase : pipeline.producer.phase = .compare) :
    (∃ next, pipeline.produceStep settings = .ok next) ↔
      settings.Comparable pipeline.producer.sequence := by
  have ready := sound.ready
  rw [Producer.Ready, phase] at ready
  obtain ⟨_, remembers, frame, found, painted⟩ := ready
  have fits := (current_layout sound found).fits
  rw [← ChangeTracker.exists_process_iff remembers painted fits fun last member =>
    (sound.laid last (by simp [frames, Producer.frames, member])).fits]
  simp only [Pipeline.produceStep, produceOn, phase, found, Pipeline.compare]
  constructor
  next =>
    rintro ⟨next, stepped⟩
    obtain ⟨result, ran, _⟩ := Checked.bind_eq_ok.mp stepped
    exact ⟨result, ran⟩
  next =>
    rintro ⟨result, ran⟩
    rw [ran, Checked.ok_bind]
    exact ⟨_, rfl⟩

theorem compare (phase : pipeline.producer.phase = .compare)
    (stepped : pipeline.produceStep settings = .ok next) :
    next.Unharmed ∧ next.Steady settings received := by
  have comparable := (exists_compare_iff sound phase).mp ⟨next, stepped⟩
  have ready := sound.ready
  rw [Producer.Ready, phase] at ready
  obtain ⟨_, _, frame, found, _⟩ := ready
  have compared := steady.producer.compared
  rw [Producer.compared, phase] at compared
  have plain := current_plain steady found
  simp only [Pipeline.produceStep, produceOn, phase, found] at stepped
  obtain ⟨⟨tracker, processed, store⟩, ran, stepped⟩ := Checked.bind_eq_ok.mp stepped
  cases stepped
  obtain ⟨updated, joined, _, shared, _, rfl⟩ := ChangeTracker.process_cases ran
  have sharedPlain : ((frame.withUpdated updated).share pipeline.store).1.IsPlain :=
    Frame.IsPlain.share plain
  have supplied := Frame.suppliers_share (frame.withUpdated updated) pipeline.store
  rw [shared] at sharedPlain supplied
  have kept : ∀ other ∈ (pipeline.producer.withCurrent processed .describe).queue.frames,
      other.IsPlain := plain_withCurrent steady sharedPlain
  refine ⟨⟨by simp, unharmed.2⟩, steady.supplied.congr ?_,
    ⟨kept, by simp, fun sequence below => ?_⟩, steady.consumer, steady.flight, by simp⟩
  next => exact (Frame.suppliers_releaseSlot _ _).trans supplied
  next =>
    rcases Nat.lt_succ_iff_lt_or_eq.mp below with earlier | rfl
    next => exact compared sequence earlier
    next => exact comparable

theorem describe (phase : pipeline.producer.phase = .describe) : ∃ next,
    pipeline.produceStep settings = .ok next ∧ next.Unharmed ∧ next.Steady settings received := by
  have ready := sound.ready
  rw [Producer.Ready, phase] at ready
  obtain ⟨_, _, frame, found, _⟩ := ready
  have compared := steady.producer.compared
  rw [Producer.compared, phase] at compared
  have plain := current_plain steady found
  simp only [Pipeline.produceStep, produceOn, phase, found]
  refine ⟨_, rfl, ⟨by simp [Pipeline.describe], unharmed.2⟩, steady.supplied,
    ⟨plain_withCurrent steady plain, fun _ other kept => ?_, compared⟩, steady.consumer,
    steady.flight, by simp [Pipeline.describe]⟩
  cases kept
  rfl

theorem send (roomy : settings.frameCount ≤ settings.channelCapacity)
    (phase : pipeline.producer.phase = .send) : ∃ next,
      pipeline.produceStep settings = .ok next ∧ next.Unharmed ∧ next.Steady settings received := by
  have ready := sound.ready
  rw [Producer.Ready, phase] at ready
  obtain ⟨below, _, frame, found, _⟩ := ready
  have compared := steady.producer.compared
  rw [Producer.compared, phase] at compared
  have sent := sound.sent
  rw [Producer.sent, phase] at sent
  dsimp only at sent
  have producing : pipeline.isProducing = true := by rw [isProducing, phase]
  have plain : (frame.share pipeline.store).1.IsPlain := (current_plain steady found).share
  simp only [Pipeline.produceStep, produceOn, phase, found, pure, Except.pure]
  rw [send_eq (sound.consuming producing) (by omega)]
  refine ⟨_, rfl, ⟨by simp, unharmed.2⟩, steady.supplied.congr (Frame.suppliers_share _ _),
    ⟨plain_withCurrent steady plain, by simp, compared⟩, steady.consumer, fun other member => ?_, by simp⟩
  rcases List.mem_append.mp member with earlier | last
  next => exact steady.flight other earlier
  next =>
    cases List.mem_singleton.mp last
    rw [Frame.share_info]
    exact steady.producer.described phase frame found

omit sound in
theorem advance (phase : pipeline.producer.phase = .advance) : ∃ next,
    pipeline.produceStep settings = .ok next ∧ next.Unharmed ∧ next.Steady settings received := by
  have compared := steady.producer.compared
  rw [Producer.compared, phase] at compared
  simp only [Pipeline.produceStep, phase]
  refine ⟨_, rfl, ⟨by simp [Pipeline.advance], unharmed.2⟩, steady.supplied,
    ⟨fun other member => steady.producer.plain other ?_, by simp [Pipeline.advance], compared⟩,
    steady.consumer, steady.flight, by simp [Pipeline.advance]⟩
  rw [← Queue.frames_advance]
  exact member

section Conditions

variable (valid : settings.validate = .ok ()) (bounded : settings.frameSize.Bounded)
  (room : settings.frameSize.packedBytes ≤ allocationLimit)
  (few : settings.frameCount < 2305843009213693952)
  (roomy : settings.frameCount ≤ settings.channelCapacity)

include valid bounded room few roomy

theorem produceStep_answers (other : pipeline.producer.phase ≠ .compare) : ∃ next,
    pipeline.produceStep settings = .ok next ∧ next.Unharmed ∧ next.Steady settings received := by
  cases phase : pipeline.producer.phase with
  | prepare => exact prepare sound steady unharmed valid room phase
  | paint => exact paint sound steady unharmed valid bounded few phase
  | compare => exact absurd phase other
  | describe => exact describe sound steady unharmed phase
  | send => exact send sound steady unharmed roomy phase
  | advance => exact advance steady unharmed phase
  | ended ending =>
    simp only [Pipeline.produceStep, phase]
    exact ⟨pipeline, rfl, unharmed, steady⟩

theorem produce : ((pipeline.produce settings).Unharmed ↔ (pipeline.producer.phase = .compare →
      settings.Comparable pipeline.producer.sequence)) ∧
    ((pipeline.produce settings).Unharmed → (pipeline.produce settings).Steady settings received) := by
  by_cases phase : pipeline.producer.phase = .compare
  next =>
    have answers := exists_compare_iff sound phase
    unfold Pipeline.produce
    split
    next next stepped =>
      obtain ⟨unharmed, steady⟩ := compare sound steady unharmed phase stepped
      exact ⟨iff_of_true unharmed fun _ => answers.mp ⟨next, stepped⟩, fun _ => steady⟩
    next fault stepped =>
      have stopped : ¬ settings.Comparable pipeline.producer.sequence := by
        rw [← answers, stepped]
        rintro ⟨_, answered⟩
        cases answered
      refine ⟨iff_of_false (fun unharmed => ?_) fun compared => stopped (compared phase),
        fun unharmed => ?_⟩
      all_goals cases unharmed.1 _ rfl
  next =>
    obtain ⟨next, stepped, unharmed, steady⟩ :=
      produceStep_answers sound steady unharmed valid bounded room few roomy phase
    rw [Pipeline.produce, stepped]
    exact ⟨iff_of_true unharmed fun same => absurd same phase, fun _ => steady⟩

end Conditions

end Steady

end Pipeline

end ScreenCapture
