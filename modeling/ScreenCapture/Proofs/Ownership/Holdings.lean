import ScreenCapture.Proofs.Ownership.Handling

set_option autoImplicit false

namespace ScreenCapture

inductive Holder where
  | ofFrame (frame : Frame)
  | ofQueue (queue : Queue)
  | ofTracker (tracker : ChangeTracker)
  | ofCursor (cursor : Cursor)

inductive Slot where
  | own
  | previous
deriving DecidableEq, Repr

namespace Holder

def frames : Holder → Multiset Frame
  | .ofFrame frame => {frame}
  | .ofQueue queue => queue.frames
  | .ofTracker tracker => tracker.frames
  | .ofCursor cursor => cursor.frames

@[simp]
theorem frames_ofFrame (frame : Frame) : (ofFrame frame).frames = {frame} := rfl

@[simp]
theorem frames_ofQueue (queue : Queue) : (ofQueue queue).frames = queue.frames := rfl

@[simp]
theorem frames_ofTracker (tracker : ChangeTracker) : (ofTracker tracker).frames = tracker.frames :=
  rfl

@[simp]
theorem frames_ofCursor (cursor : Cursor) : (ofCursor cursor).frames = cursor.frames := rfl

def frame? : Slot → Holder → Option Frame
  | .own, .ofFrame frame => some frame
  | .own, .ofQueue queue => queue.current
  | .own, .ofCursor cursor => cursor.image
  | .previous, .ofQueue queue => queue.previous
  | _, _ => none

def put (frame : Frame) : Slot → Holder → Holder
  | .own, .ofFrame _ => .ofFrame frame
  | .own, .ofQueue queue => .ofQueue { queue with current := some frame }
  | .own, .ofCursor cursor => .ofCursor { cursor with image := some frame }
  | .previous, .ofQueue queue => .ofQueue { queue with previous := some frame }
  | _, holder => holder

def release : Holder → Store → Store
  | .ofFrame frame, store => frame.release store
  | .ofQueue queue, store => (queue.reset store).2
  | .ofTracker tracker, store => tracker.release store
  | .ofCursor cursor, store => cursor.release store

def ofFrame? (frame : Option Frame) : List Holder := frame.toList.map .ofFrame

def ofCursor? (cursor : Option Cursor) : List Holder := cursor.toList.map .ofCursor

end Holder

def framesOf (holders : List Holder) : Multiset Frame := (holders.map Holder.frames).sum

inductive Creation where
  | supplier (limit : Option Nat)
  | frame (source : Source) (size : Size)
  | overBytes (size : Size) (stride : Nat) (backing : Backing) (bytes : Bytes)
  | queue
  | tracker
  | cursor
  | drawn (bitmaps : CursorBitmaps)

-- What can be done with a frame where it is. Writing stands for every way to change bytes.
inductive FrameChange where
  | share
  | duplicate
  | describe (info : FrameInfo)
  | write (change : Plane → Checked Bytes)

inductive Change where
  | within (slot : Slot) (change : FrameChange)
  | drop
  | crop (rect : Rect)
  | toCursor (hotspot : Point)
  | advance
  | prepare (size : Size) (source : Source)
  | reset
  | forget
  | setHotspot (hotspot : Point)
  | duplicateCursor

inductive Handover where
  | replaceCurrent
  | setImage
  | process (slot : Slot)
  | swap (slot other : Slot)

def Creation.run (store : Store) : Creation → Checked (List Holder × Store)
  | .supplier limit => .ok ([], (store.addSupplier limit).2)
  | .frame source size => do
      let (made, store) ← Frame.create source size store
      return (Holder.ofFrame? made.toOption, store)
  | .overBytes size stride backing bytes =>
      let (made, store) := Frame.overBytes size stride backing bytes store
      .ok (Holder.ofFrame? made.toOption, store)
  | .queue => .ok ([.ofQueue .empty], store)
  | .tracker => .ok ([.ofTracker .fresh], store)
  | .cursor => .ok ([.ofCursor .none], store)
  | .drawn bitmaps => do
      let (made, store) ← bitmaps.cursor store
      return (Holder.ofCursor? made.toOption, store)

def FrameChange.run (store : Store) (frame : Frame) : FrameChange → Checked (Frame × List Holder × Store)
  | .share =>
      let (handle, store) := frame.share store
      .ok (handle, [.ofFrame handle], store)
  | .duplicate => do
      let (made, store) ← frame.duplicate store
      return (frame, Holder.ofFrame? made.toOption, store)
  | .describe info => .ok ({ frame with info }, [], store)
  | .write change => do
      let store ← frame.edit change store
      return (frame, [], store)

def Change.run (store : Store) (change : Change) (holder : Holder) :
    Checked (List Holder × Store) :=
  match change, holder with
  | .within slot change, holder =>
      match holder.frame? slot with
      | none => .ok ([holder], store)
      | some frame => do
          let (frame, made, store) ← change.run store frame
          return (holder.put frame slot :: made, store)
  | .drop, holder => .ok ([], holder.release store)
  | .crop rect, .ofFrame frame => do
      let (cropped, store) ← frame.crop? rect store
      return (Holder.ofFrame? cropped, store)
  | .toCursor hotspot, .ofFrame image =>
      let (made, store) := Cursor.ofImage image hotspot store
      .ok (Holder.ofCursor? made.toOption, store)
  | .advance, .ofQueue queue => .ok ([.ofQueue queue.advance], store)
  | .prepare size source, .ofQueue queue => do
      let (_, queue, store) ← queue.prepare size source store
      return ([.ofQueue queue], store)
  | .reset, .ofQueue queue =>
      let (queue, store) := queue.reset store
      .ok ([.ofQueue queue], store)
  | .forget, .ofTracker tracker =>
      let (tracker, store) := tracker.reset store
      .ok ([.ofTracker tracker], store)
  | .setHotspot hotspot, .ofCursor cursor =>
      .ok ([.ofCursor ((cursor.setHotspot hotspot).toOption.getD cursor)], store)
  | .duplicateCursor, .ofCursor cursor => do
      let (made, store) ← cursor.duplicate store
      return (.ofCursor cursor :: Holder.ofCursor? made.toOption, store)
  | _, holder => .ok ([holder], store)

def Handover.run (store : Store) (handover : Handover) (first second : Holder) :
    Checked (List Holder × Store) :=
  match handover with
  | .replaceCurrent =>
      match first, second with
      | .ofQueue queue, .ofFrame frame =>
          let (queue, store) := queue.replace frame store
          .ok ([.ofQueue queue], store)
      | _, _ => .ok ([first, second], store)
  | .setImage =>
      match first, second with
      | .ofCursor cursor, .ofFrame image =>
          let (made, store) := cursor.setImage image store
          .ok ([.ofCursor (made.toOption.getD cursor)], store)
      | _, _ => .ok ([first, second], store)
  | .process slot =>
      match first, second.frame? slot with
      | .ofTracker tracker, some frame => do
          let (tracker, frame, store) ← tracker.process frame store
          return ([.ofTracker tracker, second.put frame slot], store)
      | _, _ => .ok ([first, second], store)
  | .swap slot other =>
      match first.frame? slot, second.frame? other with
      | some frame, some otherFrame =>
          .ok ([first.put otherFrame slot, second.put frame other], store)
      | _, _ => .ok ([first, second], store)

inductive Action where
  | create (creation : Creation)
  | change (index : Nat) (change : Change)
  | handOver (index other : Nat) (handover : Handover)

structure Holdings where
  store : Store
  holders : List Holder

namespace Holdings

def start : Holdings := ⟨.empty, []⟩

def live (holdings : Holdings) : Multiset Frame := framesOf holdings.holders

-- A place where nothing is leaves everything as it is. What was worked on moves to the end.
def step (holdings : Holdings) : Action → Checked Holdings
  | .create creation => do
      let (made, store) ← creation.run holdings.store
      return ⟨store, holdings.holders ++ made⟩
  | .change index change =>
      match holdings.holders[index]? with
      | none => .ok holdings
      | some holder => do
          let (made, store) ← change.run holdings.store holder
          return ⟨store, holdings.holders.eraseIdx index ++ made⟩
  | .handOver index other handover =>
      let remaining := holdings.holders.eraseIdx index
      match holdings.holders[index]?, remaining[other]? with
      | some first, some second => do
          let (made, store) ← handover.run holdings.store first second
          return ⟨store, remaining.eraseIdx other ++ made⟩
      | _, _ => .ok holdings

def run (actions : List Action) (holdings : Holdings) : Checked Holdings :=
  actions.foldlM step holdings

end Holdings

end ScreenCapture
