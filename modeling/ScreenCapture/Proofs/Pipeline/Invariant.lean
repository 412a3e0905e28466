import Mathlib.Algebra.BigOperators.Group.Finset.Basic
import ScreenCapture.Pipeline.Run
import ScreenCapture.Proofs.Layout.Holders
import ScreenCapture.Proofs.Pipeline.Cropped

set_option autoImplicit false

namespace ScreenCapture

def ChangeTracker.Remembers (tracker : ChangeTracker) (settings : Settings) (store : Store) :
    (sequence : Nat) → Prop
  | 0 => tracker.last = none
  | before + 1 => ∃ last, tracker.last = some last ∧ last.Shows (settings.picture before) store

theorem ChangeTracker.Remembers.congr {tracker : ChangeTracker} {settings : Settings}
    {store next : Store} {sequence : Nat} (remembers : tracker.Remembers settings store sequence)
    (same : ∀ frame ∈ tracker.frames, next.bytes frame.buffer = store.bytes frame.buffer) :
    tracker.Remembers settings next sequence := by
  cases sequence with
  | zero => exact remembers
  | succ before =>
    obtain ⟨last, kept, shows⟩ := remembers
    exact ⟨last, kept, shows.congr (same last (by simp [frames, kept, held]))⟩

structure Frame.Painted (frame : Frame) (settings : Settings) (sequence : Nat) (store : Store) :
    Prop where
  shows : frame.Shows (settings.picture sequence) store
  placed : settings.pattern.blockAt settings.frameSize sequence = .ok (settings.blockOf sequence)
  hinted : frame.info.updated = settings.hint sequence

namespace Producer

def frames (producer : Producer) : Multiset Frame := producer.queue.frames + producer.tracker.frames

def sent (producer : Producer) : Nat :=
  match producer.phase with
  | .advance => producer.sequence + 1
  | _ => producer.sequence

def Ready (producer : Producer) (settings : Settings) (store : Store) : Prop :=
  match producer.phase with
  | .prepare =>
      producer.sequence ≤ settings.frameCount ∧
        producer.tracker.Remembers settings store producer.sequence
  | .paint =>
      producer.sequence < settings.frameCount ∧
        producer.tracker.Remembers settings store producer.sequence ∧
          ∃ frame, producer.queue.current = some frame ∧ frame.size = settings.frameSize
  | .compare =>
      producer.sequence < settings.frameCount ∧
        producer.tracker.Remembers settings store producer.sequence ∧
          ∃ frame, producer.queue.current = some frame ∧
            frame.Painted settings producer.sequence store
  | .describe | .send =>
      producer.sequence < settings.frameCount ∧
        producer.tracker.Remembers settings store (producer.sequence + 1) ∧
          ∃ frame, producer.queue.current = some frame ∧
            frame.Carries settings producer.sequence store
  | .advance =>
      producer.sequence < settings.frameCount ∧
        producer.tracker.Remembers settings store (producer.sequence + 1)
  | .ended _ => producer.sequence = settings.frameCount

theorem Ready.congr {producer : Producer} {settings : Settings} {store next : Store}
    (ready : producer.Ready settings store)
    (same : ∀ frame ∈ producer.frames, next.bytes frame.buffer = store.bytes frame.buffer) :
    producer.Ready settings next := by
  have tracked : ∀ frame ∈ producer.tracker.frames,
      next.bytes frame.buffer = store.bytes frame.buffer :=
    fun frame member => same frame (Multiset.mem_add.mpr (.inr member))
  have current : ∀ frame, producer.queue.current = some frame →
      next.bytes frame.buffer = store.bytes frame.buffer :=
    fun frame found => same frame (by simp [frames, Queue.frames, found, held])
  unfold Ready at ready ⊢
  split at ready
  next => exact ⟨ready.1, ready.2.congr tracked⟩
  next => exact ⟨ready.1, ready.2.1.congr tracked, ready.2.2⟩
  next =>
    obtain ⟨below, remembers, frame, found, painted⟩ := ready
    exact ⟨below, remembers.congr tracked, frame, found,
      { painted with shows := painted.shows.congr (current frame found) }⟩
  next =>
    obtain ⟨below, remembers, frame, found, carries⟩ := ready
    exact ⟨below, remembers.congr tracked, frame, found, carries.congr (current frame found)⟩
  next =>
    obtain ⟨below, remembers, frame, found, carries⟩ := ready
    exact ⟨below, remembers.congr tracked, frame, found, carries.congr (current frame found)⟩
  next => exact ⟨ready.1, ready.2.congr tracked⟩
  next => exact ready

end Producer

namespace Consumer

def working (consumer : Consumer) : Option Frame :=
  match consumer.phase with
  | .crop frame | .draw frame | .release frame => some frame
  | .receive | .ended _ => none

def frames (consumer : Consumer) : Multiset Frame := held consumer.working + held consumer.target

def done (consumer : Consumer) (received : List Frame) : Nat :=
  match consumer.phase with
  | .crop _ | .draw _ => received.length - 1
  | .receive | .release _ | .ended _ => received.length

structure Follows (consumer : Consumer) (settings : Settings) (received : List Frame)
    (store : Store) : Prop where
  whole : ∀ frame, consumer.phase = .crop frame → ∃ earlier, received = earlier ++ [frame] ∧
    frame.Carries settings earlier.length store
  cropped : ∀ cropped, consumer.phase = .draw cropped ∨ consumer.phase = .release cropped →
    settings.visible.isEmpty = false ∧ ∃ earlier frame, received = earlier ++ [frame] ∧
      frame.Carries settings earlier.length store ∧ cropped.IsCropOf frame settings.visible
  drawn : ∀ sequence, consumer.done received = sequence + 1 → settings.visible.isEmpty = false →
    ∃ target, consumer.target = some target ∧ target.Shows (settings.output sequence) store

theorem Follows.congr {consumer : Consumer} {settings : Settings} {received : List Frame}
    {store next : Store} (follows : consumer.Follows settings received store)
    (same : ∀ frame ∈ consumer.frames, next.bytes frame.buffer = store.bytes frame.buffer) :
    consumer.Follows settings received next where
  whole frame phase := by
    obtain ⟨earlier, last, carries⟩ := follows.whole frame phase
    exact ⟨earlier, last, carries.congr (same frame (by simp [frames, working, phase, held]))⟩
  cropped cropped phase := by
    obtain ⟨solid, earlier, frame, last, carries, isCrop⟩ := follows.cropped cropped phase
    have worked : consumer.working = some cropped := by
      rcases phase with phase | phase
      all_goals simp [working, phase]
    have kept := same cropped (by simp [frames, worked, held])
    rw [isCrop.buffer] at kept
    exact ⟨solid, earlier, frame, last, carries.congr kept, isCrop⟩
  drawn sequence done solid := by
    obtain ⟨target, kept, shows⟩ := follows.drawn sequence done solid
    exact ⟨target, kept, shows.congr (same target (by simp [frames, kept, held]))⟩

end Consumer

def Settings.tallyAt (settings : Settings) (sent done : Nat) : Tally where
  produced := sent
  dropped := 0
  consumed := if settings.visible.isEmpty then 0 else done
  cropMisses := if settings.visible.isEmpty then done else 0
  reallocations := 0
  changedPixels :=
    (∑ sequence ∈ Finset.range done, (settings.visible.cells ∩ settings.updates sequence).card) %
      addressLimit
  lastOutput :=
    if settings.visible.isEmpty ∨ done = 0 then none else some (settings.output 0).size

namespace Pipeline

def frames (pipeline : Pipeline) : Multiset Frame :=
  pipeline.producer.frames + (pipeline.channel + pipeline.consumer.frames)

structure Sound (pipeline : Pipeline) (settings : Settings) (received : List Frame) : Prop where
  owned : Owned pipeline.store pipeline.frames
  laid : LaidOut pipeline.store pipeline.frames
  ready : pipeline.producer.Ready settings pipeline.store
  flight : ∀ (index : Nat) (frame : Frame), pipeline.channel[index]? = some frame →
    frame.Carries settings (received.length + index) pipeline.store
  follows : pipeline.consumer.Follows settings received pipeline.store
  sent : received.length + pipeline.channel.length = pipeline.producer.sent
  placed : ∀ sequence < pipeline.producer.sent,
    settings.pattern.blockAt settings.frameSize sequence = .ok (settings.blockOf sequence)
  finished : pipeline.isConsuming = false → pipeline.channel = [] ∧ pipeline.isProducing = false
  counted : pipeline.tally.reallocate 0 =
    settings.tallyAt pipeline.producer.sent (pipeline.consumer.done received)

def Unharmed (pipeline : Pipeline) : Prop :=
  (∀ ending, pipeline.producer.phase = .ended ending → ending = .completed) ∧
    ∀ ending, pipeline.consumer.phase = .ended ending → ending = .completed

theorem unharmed_of_outcome {pipeline : Pipeline} {tally : Tally}
    (ok : pipeline.outcome = .ok tally) : pipeline.Unharmed ∧ pipeline.tally = tally := by
  unfold outcome at ok
  split at ok
  next => cases ok
  next => cases ok
  next => cases ok
  next => cases ok
  next crashed failed consumerCrashed consumerFailed =>
    cases ok
    refine ⟨⟨fun ending ended => ?_, fun ending ended => ?_⟩, rfl⟩
    all_goals
      cases ending with
      | completed => rfl
      | failed message => simp_all
      | crashed => simp_all

theorem start_sound (settings : Settings) : start.Sound settings [] where
  owned := by
    have empty : Owned Store.empty 0 := ⟨0, Accounted.empty⟩
    exact Exchange.owned (.of_same (by rfl) (by rfl) 0) empty
  laid := .zero
  ready := ⟨Nat.zero_le _, rfl⟩
  flight := by simp [start]
  follows := by constructor <;> simp [start, Consumer.done]
  sent := rfl
  placed := by simp [start, Producer.sent]
  finished := by simp [start, isConsuming]
  counted := by
    simp [Settings.tallyAt, start, Tally.start, Tally.reallocate, Producer.sent, Consumer.done]

end Pipeline

end ScreenCapture
