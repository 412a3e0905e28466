import ScreenCapture.Pipeline.Basic

set_option autoImplicit false

namespace ScreenCapture

inductive Actor where
  | producer
  | consumer
deriving DecidableEq, Repr

namespace Pipeline

def step (settings : Settings) (pipeline : Pipeline) : Actor → Pipeline
  | .producer => produce settings pipeline
  | .consumer => consume settings pipeline

def follow (settings : Settings) (pipeline : Pipeline) (actors : List Actor) : Pipeline :=
  actors.foldl (step settings) pipeline

theorem follow_append (settings : Settings) (pipeline : Pipeline) (actors more : List Actor) :
    follow settings pipeline (actors ++ more) =
      follow settings (follow settings pipeline actors) more := by
  simp [follow]

-- The producer is waited for first, so its failure hides one of the consumer.
def outcome (pipeline : Pipeline) : Except String Tally :=
  match pipeline.producer.phase, pipeline.consumer.phase with
  | .ended .crashed, _ => throw "Capture thread panicked"
  | .ended (.failed message), _ => throw message
  | _, .ended .crashed => throw "Consumer thread panicked"
  | _, .ended (.failed message) => throw message
  | _, _ => return pipeline.tally

def captureSteps : List Actor := List.replicate 6 .producer

def consumeSteps : List Actor := List.replicate 4 .consumer

def drain (settings : Settings) : (frames : Nat) → Pipeline → Pipeline
  | 0, pipeline => pipeline
  | frames + 1, pipeline =>
      drain settings frames (follow settings pipeline consumeSteps)

def makeRoom (settings : Settings) (pipeline : Pipeline) : Pipeline :=
  if settings.channelCapacity ≤ pipeline.channel.length then
    drain settings pipeline.channel.length pipeline
  else pipeline

def produceAll (settings : Settings) : (frames : Nat) → Pipeline → Pipeline
  | 0, pipeline => follow settings pipeline [.producer]
  | frames + 1, pipeline =>
      if pipeline.isProducing then
        produceAll settings frames
          (follow settings (makeRoom settings pipeline) captureSteps)
      else pipeline

def finish (settings : Settings) (pipeline : Pipeline) : Pipeline :=
  follow settings (drain settings pipeline.channel.length pipeline) [.consumer]

def run (settings : Settings) : Except String Tally :=
  (finish settings (produceAll settings settings.frameCount start)).outcome

end Pipeline

end ScreenCapture
