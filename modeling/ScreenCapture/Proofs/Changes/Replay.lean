import ScreenCapture.Proofs.Changes.Tracking
import ScreenCapture.Proofs.Ownership.Runs

set_option autoImplicit false

namespace ScreenCapture

structure Picture where
  size : Size
  color : Point → Color

namespace Picture

def bounds (picture : Picture) : Rect := .ofSize picture.size

def ShownBy (picture : Picture) (image : Point → Color) : Prop :=
  ∀ point, picture.bounds.contains point = true → image point = picture.color point

end Picture

def Frame.picture (frame : Frame) (store : Store) : Picture := ⟨frame.size, frame.view store⟩

-- One frame that was given to the tracker. `before` is the frame given to it before, as that was
-- then, unless the tracker was reset since; `image` is what the viewer has afterwards.
structure Call where
  before : Option Picture
  given : Picture
  hint : Region
  updated : Region
  processed : Picture
  image : Point → Color

namespace Call

def compared (call : Call) : Option Picture :=
  call.before.filter fun before => before.size = call.given.size

def Hinted (call : Call) : Prop :=
  ∀ before ∈ call.compared, ∀ point, call.given.bounds.contains point = true →
    before.color point ≠ call.given.color point → call.hint.contains point = true

def Narrowed (call : Call) : Prop :=
  ∀ point, call.updated.contains point = true → call.given.bounds.contains point = true ∧
    (call.compared.isSome = true → call.hint.contains point = true)

def Reproduced (call : Call) : Prop :=
  call.processed = call.given ∧ call.processed.ShownBy call.image

end Call

-- A tracker among other things that hold frames, and a viewer that copies what the tracker leaves
-- of the updated regions.
structure Session where
  holdings : Holdings
  tracker : ChangeTracker
  before : Option Picture
  image : Point → Color
  calls : List Call

inductive Event where
  | act (action : Action)
  | process (index : Nat) (slot : Slot) (blank : Point → Color)
  | reset

namespace Session

def start : Session := ⟨.start, .fresh, none, fun _ => ⟨0, 0, 0, 0⟩, []⟩

def base (session : Session) (size : Size) (blank : Point → Color) : Point → Color :=
  if (session.before.filter fun before => before.size = size).isSome then session.image else blank

def callOf (session : Session) (frame processed : Frame) (next : Store) (blank : Point → Color) :
    Call where
  before := session.before
  given := frame.picture session.holdings.store
  hint := frame.info.updated
  updated := processed.info.updated
  processed := processed.picture next
  image point :=
    if processed.info.updated.contains point then processed.view next point
    else session.base processed.size blank point

def record (session : Session) (holdings : Holdings) (tracker : ChangeTracker) (call : Call) :
    Session where
  holdings
  tracker
  before := some call.processed
  image := call.image
  calls := session.calls ++ [call]

def process (session : Session) (index : Nat) (slot : Slot) (blank : Point → Color) :
    Checked Session :=
  match session.holdings.holders[index]? with
  | none => .ok session
  | some holder =>
      match holder.frame? slot with
      | none => .ok session
      | some frame => do
          let (tracker, processed, store) ← session.tracker.process frame session.holdings.store
          let holders := session.holdings.holders.eraseIdx index ++ [holder.put processed slot]
          return session.record ⟨store, holders⟩ tracker (session.callOf frame processed store blank)

def step (session : Session) : Event → Checked Session
  | .act action => do
      let holdings ← session.holdings.step action
      return { session with holdings }
  | .process index slot blank => session.process index slot blank
  | .reset =>
      let (tracker, store) := session.tracker.reset session.holdings.store
      .ok { session with holdings := { session.holdings with store }, tracker, before := none }

def run (events : List Event) (session : Session) : Checked Session := events.foldlM step session

structure Faithful (session : Session) : Prop where
  owned : Owned session.holdings.store (session.tracker.frames + session.holdings.live)
  kept : session.before = session.tracker.last.map fun last => last.picture session.holdings.store
  narrowed : ∀ call ∈ session.calls, call.Narrowed
  reproduced : (∀ call ∈ session.calls, call.Hinted) →
    (∀ call ∈ session.calls, call.Reproduced) ∧ ∀ before ∈ session.before, before.ShownBy session.image

variable {session next : Session} {after : ChangeTracker} {frame processed : Frame} {store : Store}
  {index : Nat} {slot : Slot} {blank : Point → Color}

theorem start_faithful : start.Faithful where
  owned := Holdings.start_owned
  kept := rfl
  narrowed := nofun
  reproduced _ := ⟨nofun, nofun⟩

theorem act_faithful {holdings : Holdings} {action : Action} (faithful : session.Faithful)
    (stepped : session.holdings.step action = .ok holdings) :
    Faithful { session with holdings } := by
  have owned := faithful.owned
  rw [add_comm] at owned
  obtain ⟨held, same⟩ := Holdings.step_exchange stepped _ owned
  rw [add_comm] at held
  refine ⟨held, faithful.kept.trans ?_, faithful.narrowed, faithful.reproduced⟩
  refine Option.map_congr fun last kept => ?_
  have member : last ∈ session.tracker.frames := by simp [ChangeTracker.frames, kept, ScreenCapture.held]
  simp only [Frame.picture, Frame.view_congr (same last member)]

theorem reset_faithful (faithful : session.Faithful) (stepped : session.step .reset = .ok next) :
    next.Faithful := by
  cases stepped
  have released := session.tracker.release_exchange session.holdings.store
  exact ⟨(released _ faithful.owned).1, rfl, faithful.narrowed, fun hinted =>
    ⟨(faithful.reproduced hinted).1, nofun⟩⟩

theorem compared_callOf (faithful : session.Faithful) :
    (session.callOf frame processed store blank).compared =
      (session.tracker.comparable? frame).map fun last => last.picture session.holdings.store := by
  simp only [Call.compared, callOf, faithful.kept, ChangeTracker.comparable?, Option.filter_map]
  rfl

theorem callOf_narrowed (faithful : session.Faithful)
    (ran : session.tracker.process frame session.holdings.store = .ok (after, processed, store)) :
    (session.callOf frame processed store blank).Narrowed := by
  obtain ⟨found, _, _⟩ := ChangeTracker.process_eq_ok ran
  have narrows := (ChangeTracker.changed_narrows found ChangeTracker.comparable?_size).1
  intro point reported
  rw [compared_callOf faithful, Option.isSome_map]
  exact narrows point reported

theorem callOf_reproduced (faithful : session.Faithful)
    (ran : session.tracker.process frame session.holdings.store = .ok (after, processed, store))
    (same : processed.view store = frame.view session.holdings.store)
    (shown : ∀ before ∈ session.before, before.ShownBy session.image)
    (hinted : (session.callOf frame processed store blank).Hinted) :
    (session.callOf frame processed store blank).Reproduced := by
  obtain ⟨found, _, size⟩ := ChangeTracker.process_eq_ok ran
  have keeps := (ChangeTracker.changed_narrows found ChangeTracker.comparable?_size).2
  refine ⟨by simp only [callOf, Frame.picture, same, size], fun point inside => ?_⟩
  have bounds : processed.bounds = frame.bounds := congrArg Rect.ofSize size
  have inFrame : frame.bounds.contains point = true := bounds ▸ inside
  simp only [callOf, Frame.picture]
  split
  next => rfl
  next silent =>
    obtain ⟨last, comparable, keeps⟩ := keeps point inFrame (Bool.not_eq_true _ ▸ silent)
    let picture := last.picture session.holdings.store
    have compared : picture ∈ (session.callOf frame processed store blank).compared := by
      rw [compared_callOf faithful]
      exact Option.mem_map_of_mem _ comparable
    have lastBounds : picture.bounds = frame.bounds :=
      congrArg Rect.ofSize (ChangeTracker.comparable?_size last comparable)
    have kept : picture.color point = frame.view session.holdings.store point := by
      apply Classical.byContradiction
      intro apart
      exact apart (keeps (hinted picture compared point inFrame apart))
    have going : session.base processed.size blank = session.image := by
      rw [base, size, if_pos]
      exact Option.isSome_of_mem compared
    rw [going, same, ← kept]
    exact shown picture (Option.mem_filter_iff.mp compared).1 point (lastBounds ▸ inFrame)

theorem process_cases (stepped : session.process index slot blank = .ok next) :
    next = session ∨ ∃ holder frame after processed store,
      session.holdings.holders[index]? = some holder ∧ holder.frame? slot = some frame ∧
        session.tracker.process frame session.holdings.store = .ok (after, processed, store) ∧
        next = session.record
          ⟨store, session.holdings.holders.eraseIdx index ++ [holder.put processed slot]⟩ after
          (session.callOf frame processed store blank) := by
  unfold process at stepped
  split at stepped
  next => exact .inl (Except.ok.inj stepped).symm
  next holder found =>
    split at stepped
    next => exact .inl (Except.ok.inj stepped).symm
    next frame taken =>
      obtain ⟨⟨after, processed, store⟩, ran, stepped⟩ := Checked.bind_eq_ok.mp stepped
      exact .inr ⟨holder, frame, after, processed, store, found, taken, ran,
        (Except.ok.inj stepped).symm⟩

theorem process_faithful (faithful : session.Faithful)
    (stepped : session.process index slot blank = .ok next) : next.Faithful := by
  obtain rfl | ⟨holder, frame, after, processed, store, found, taken, ran, rfl⟩ := process_cases stepped
  next => exact faithful
  next =>
    obtain ⟨rest, before, put⟩ := Holder.frame?_split taken
    have owned := faithful.owned
    rw [Holdings.live, framesOf_eraseIdx found, before, add_assoc, ← add_assoc] at owned
    have same := ChangeTracker.process_view owned ran
    constructor
    next =>
      have held := (ChangeTracker.process_exchange ran _ owned).1
      have live : framesOf (session.holdings.holders.eraseIdx index ++ [holder.put processed slot]) =
          {processed} + (rest + framesOf (session.holdings.holders.eraseIdx index)) := by
        rw [framesOf_append, framesOf_cons, framesOf_nil, put]
        ac_rfl
      rw [record, Holdings.live, live, ← add_assoc]
      exact held
    next => simp only [record, (ChangeTracker.process_eq_ok ran).2.1, Option.map_some, callOf]
    next =>
      refine List.forall_mem_append.mpr ⟨faithful.narrowed, List.forall_mem_singleton.mpr ?_⟩
      exact callOf_narrowed faithful ran
    next =>
      intro hinted
      obtain ⟨hintedBefore, hintedLast⟩ := List.forall_mem_append.mp hinted
      obtain ⟨earlier, shown⟩ := faithful.reproduced hintedBefore
      have reproduced := callOf_reproduced faithful ran same shown
        (List.forall_mem_singleton.mp hintedLast)
      refine ⟨List.forall_mem_append.mpr ⟨earlier, List.forall_mem_singleton.mpr reproduced⟩, ?_⟩
      intro _ last
      cases last
      exact reproduced.2

theorem step_faithful {event : Event} (faithful : session.Faithful)
    (stepped : session.step event = .ok next) : next.Faithful := by
  cases event with
  | act action =>
    obtain ⟨holdings, acted, stepped⟩ := Checked.bind_eq_ok.mp stepped
    cases stepped
    exact act_faithful faithful acted
  | process index slot blank => exact process_faithful faithful stepped
  | reset => exact reset_faithful faithful stepped

theorem run_faithful {events : List Event} (faithful : session.Faithful)
    (ran : session.run events = .ok next) : next.Faithful := by
  induction events generalizing session with
  | nil =>
    cases ran
    exact faithful
  | cons event rest ih =>
    obtain ⟨middle, stepped, ran⟩ := Checked.bind_eq_ok.mp ran
    exact ih (step_faithful faithful stepped) ran

theorem run_reproduces {events : List Event} (ran : start.run events = .ok session) :
    (∀ call ∈ session.calls, call.Narrowed) ∧
      ((∀ call ∈ session.calls, call.Hinted) → ∀ call ∈ session.calls, call.Reproduced) := by
  have faithful := run_faithful start_faithful ran
  exact ⟨faithful.narrowed, fun hinted => (faithful.reproduced hinted).1⟩

def white : Point → Color := fun _ => .solid 255 255 255

def changePixel : List Event :=
  [.act (.create (.frame .heap ⟨2, 1⟩)), .process 0 .own white, .act (.create (.frame .heap ⟨2, 1⟩)),
    .act (.change 1 (.within .own (.write fun plane => .ok (plane.bytes.setIfInBounds 4 7)))),
    .act (.change 1 (.within .own (.describe { FrameInfo.unset with updated := .ofRect ⟨1, 0, 2, 1⟩ }))),
    .process 1 .own white]

theorem run_reproduces_changePixel : ∃ session, start.run changePixel = .ok session ∧
    session.calls.map Call.updated = [.ofRect ⟨0, 0, 2, 1⟩, .ofRect ⟨1, 0, 2, 1⟩] ∧
    (∀ call ∈ session.calls, call.Hinted) ∧
      ∀ call ∈ session.calls, call.Narrowed ∧ call.Reproduced := by
  obtain ⟨session, ran, updated, hinted⟩ : ∃ session, start.run changePixel = .ok session ∧
      session.calls.map Call.updated = [.ofRect ⟨0, 0, 2, 1⟩, .ofRect ⟨1, 0, 2, 1⟩] ∧
      ∀ call ∈ session.calls, call.Hinted := by
    refine ⟨_, rfl, rfl, List.forall_mem_cons.mpr ⟨nofun, List.forall_mem_singleton.mpr ?_⟩⟩
    intro before compared point inside apart
    cases compared
    obtain ⟨x, y⟩ := point
    have edges : (0 ≤ x ∧ x < 2) ∧ 0 ≤ y ∧ y < 1 := (Rect.contains_iff _ _).mp inside
    obtain rfl : y = 0 := by omega
    obtain rfl | rfl : x = 0 ∨ x = 1 := by omega
    next => exact absurd rfl apart
    next => rfl
  obtain ⟨narrowed, reproduced⟩ := run_reproduces ran
  exact ⟨session, ran, updated, hinted, fun call member =>
    ⟨narrowed call member, reproduced hinted call member⟩⟩

end Session

end ScreenCapture
