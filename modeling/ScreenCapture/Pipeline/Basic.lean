import ScreenCapture.Changes
import ScreenCapture.Frame.Transfer
import ScreenCapture.Pattern
import ScreenCapture.Queue
import ScreenCapture.Settings
import ScreenCapture.Tally

set_option autoImplicit false

namespace ScreenCapture

inductive Ending where
  | completed
  | failed (message : String)
  | crashed
deriving DecidableEq, Repr

inductive Capturing where
  | prepare
  | paint
  | compare
  | describe
  | send
  | advance
  | ended (ending : Ending)
deriving DecidableEq, Repr

structure Producer where
  phase : Capturing
  sequence : Nat
  queue : Queue
  tracker : ChangeTracker

inductive Consuming where
  | receive
  | crop (frame : Frame)
  | draw (frame : Frame)
  | release (frame : Frame)
  | ended (ending : Ending)

structure Consumer where
  phase : Consuming
  target : Option Frame

structure Pipeline where
  store : Store
  supplier : Nat
  producer : Producer
  channel : List Frame
  consumer : Consumer
  tally : Tally

namespace Pipeline

def start : Pipeline :=
  let (supplier, store) := Store.empty.addSupplier none
  { store
    supplier
    producer := ⟨.prepare, 0, .empty, .fresh⟩
    channel := []
    consumer := ⟨.receive, none⟩
    tally := .start }

def isProducing (pipeline : Pipeline) : Bool :=
  match pipeline.producer.phase with
  | .ended _ => false
  | _ => true

def isConsuming (pipeline : Pipeline) : Bool :=
  match pipeline.consumer.phase with
  | .ended _ => false
  | _ => true

end Pipeline

namespace Settings

def pattern (settings : Settings) : Pattern :=
  ⟨⟨settings.frameSize.width.tdiv 8, settings.frameSize.height.tdiv 8⟩, 4⟩

def source (settings : Settings) (supplier : Nat) : Source :=
  if settings.sharedMemory then .segments supplier else .heap

end Settings

namespace Producer

def turnTo (producer : Producer) (phase : Capturing) : Producer := { producer with phase }

def fail (producer : Producer) (message : String) : Producer :=
  producer.turnTo (.ended (.failed message))

def withCurrent (producer : Producer) (frame : Frame) (phase : Capturing) : Producer :=
  { producer with phase, queue := { producer.queue with current := some frame } }

end Producer

namespace Pipeline

def synthetic : Nat := 1

def prepare (settings : Settings) (pipeline : Pipeline) : Checked Pipeline := do
  let producer := pipeline.producer
  if settings.frameCount ≤ producer.sequence then
    return { pipeline with
      producer := producer.turnTo (.ended .completed)
      tally := pipeline.tally.reallocate producer.queue.reallocations }
  let (prepared, queue, store) ← producer.queue.prepare settings.frameSize
    (settings.source pipeline.supplier) pipeline.store
  let producer := { producer with queue }
  match prepared with
  | .error refusal =>
      let message := "Failed to prepare capture frame: " ++ refusal.message
      return { pipeline with store, producer := producer.fail message }
  | .ok _ => return { pipeline with store, producer := producer.turnTo .paint }

def paint (settings : Settings) (frame : Frame) (pipeline : Pipeline) : Checked Pipeline := do
  let producer := pipeline.producer
  let (painted, store) ← settings.pattern.paint frame producer.sequence pipeline.store
  let producer := producer.withCurrent (frame.withUpdated painted) .compare
  return { pipeline with store, producer }

def compare (frame : Frame) (pipeline : Pipeline) : Checked Pipeline := do
  let producer := pipeline.producer
  let (tracker, frame, store) ← producer.tracker.process frame pipeline.store
  let producer := { producer.withCurrent frame .describe with tracker }
  return { pipeline with store, producer }

def describe (settings : Settings) (frame : Frame) (pipeline : Pipeline) : Pipeline :=
  let info := { frame.info with
    topLeft := settings.origin, dpi := settings.dpi, capturer := synthetic, captureTime := 0 }
  { pipeline with producer := pipeline.producer.withCurrent { frame with info } .send }

def deliver (settings : Settings) (handle : Frame) (pipeline : Pipeline) : Pipeline :=
  if !pipeline.isConsuming then
    { pipeline with
      store := handle.release pipeline.store
      producer := pipeline.producer.fail "Consumer disconnected" }
  else if settings.channelCapacity ≤ pipeline.channel.length then
    { pipeline with store := handle.release pipeline.store, tally := pipeline.tally.drop }
  else { pipeline with channel := pipeline.channel ++ [handle], tally := pipeline.tally.produce }

def send (settings : Settings) (frame : Frame) (pipeline : Pipeline) : Pipeline :=
  let (handle, store) := frame.share pipeline.store
  let producer := pipeline.producer.withCurrent handle .advance
  deliver settings handle { pipeline with store, producer }

def advance (pipeline : Pipeline) : Pipeline :=
  let producer := pipeline.producer
  let producer := { producer with
    phase := .prepare, sequence := producer.sequence + 1, queue := producer.queue.advance }
  { pipeline with producer }

def produceOn (settings : Settings) (frame : Frame) (pipeline : Pipeline) : Checked Pipeline :=
  match pipeline.producer.phase with
  | .paint => paint settings frame pipeline
  | .compare => compare frame pipeline
  | .describe => return describe settings frame pipeline
  | .send => return send settings frame pipeline
  | .prepare | .advance | .ended _ => return pipeline

def produceStep (settings : Settings) (pipeline : Pipeline) : Checked Pipeline :=
  match pipeline.producer.phase, pipeline.producer.queue.current with
  | .prepare, _ => prepare settings pipeline
  | .advance, _ => return advance pipeline
  | .ended _, _ => return pipeline
  | _, none => return pipeline
  | _, some frame => produceOn settings frame pipeline

-- A thread that faults stops where it is; what it had changed in that step is lost.
def produce (settings : Settings) (pipeline : Pipeline) : Pipeline :=
  match produceStep settings pipeline with
  | .ok next => next
  | .error _ => { pipeline with producer := pipeline.producer.turnTo (.ended .crashed) }

def consumeAt (phase : Consuming) (pipeline : Pipeline) : Pipeline :=
  { pipeline with consumer := { pipeline.consumer with phase } }

def receive (pipeline : Pipeline) : Pipeline :=
  match pipeline.channel with
  | frame :: channel => consumeAt (.crop frame) { pipeline with channel }
  | [] => if pipeline.isProducing then pipeline else consumeAt (.ended .completed) pipeline

def crop (settings : Settings) (frame : Frame) (pipeline : Pipeline) : Checked Pipeline := do
  match ← frame.crop? settings.crop pipeline.store with
  | (none, store) =>
      return consumeAt .receive { pipeline with store, tally := pipeline.tally.missCrop }
  | (some cropped, store) => return consumeAt (.draw cropped) { pipeline with store }

def prepareTarget (size : Size) (target : Option Frame) (store : Store) :
    Except Refusal Frame × Store :=
  match target with
  | none => Frame.createOnHeap size store
  | some target =>
      if target.size = size then (.ok target, store)
      else
        let (created, store) := Frame.createOnHeap size store
        (created, target.release store)

def draw (settings : Settings) (frame : Frame) (pipeline : Pipeline) : Checked Pipeline := do
  let size := settings.rotation.turnSize frame.size
  match prepareTarget size pipeline.consumer.target pipeline.store with
  | (.error refusal, store) =>
      let message := "Failed to allocate rotation target: " ++ refusal.message
      return consumeAt (.ended (.failed message)) { pipeline with store }
  | (.ok target, store) =>
      let target := { target with info := { frame.info with updated := .empty } }
      let (target, store) ←
        target.drawTurned frame frame.bounds settings.rotation .zero store
      let changed ← frame.info.updated.area
      return { pipeline with
        store
        consumer := ⟨.release frame, some target⟩
        tally := pipeline.tally.consume target.size changed.toNat }

def consumeStep (settings : Settings) (pipeline : Pipeline) : Checked Pipeline :=
  match pipeline.consumer.phase with
  | .receive => return receive pipeline
  | .crop frame => crop settings frame pipeline
  | .draw frame => draw settings frame pipeline
  | .release frame =>
      return consumeAt .receive { pipeline with store := frame.release pipeline.store }
  | .ended _ => return pipeline

def consume (settings : Settings) (pipeline : Pipeline) : Pipeline :=
  match consumeStep settings pipeline with
  | .ok next => next
  | .error _ => consumeAt (.ended .crashed) pipeline

end Pipeline

end ScreenCapture
