import ScreenCapture.Proofs.Ownership.Isolation
import ScreenCapture.Proofs.Pipeline.Supply

set_option autoImplicit false

namespace ScreenCapture

-- A handle outside of a queue. `taken` is what could be read through it when it was taken.
structure Loan where
  frame : Frame
  taken : Checked Bytes

def Loan.take (frame : Frame) (store : Store) : Loan := ⟨frame, frame.pixels store⟩

def Loan.take? (frame : Option Frame) (store : Store) : List Loan :=
  frame.toList.map fun frame => .take frame store

def framesOnLoan (loans : List Loan) : Multiset Frame := (loans.map Loan.frame : List Frame)

inductive LoanUse where
  | share
  | duplicate
  | crop (rect : Rect)
  | drop

def LoanUse.run (store : Store) (loan : Loan) : LoanUse → Checked (List Loan × Store)
  | .share =>
      let (handle, store) := loan.frame.share store
      .ok ([{ loan with frame := handle }, .take handle store], store)
  | .duplicate => do
      let (made, store) ← loan.frame.duplicate store
      return (loan :: Loan.take? made.toOption store, store)
  | .crop rect => do
      let (cropped, store) ← loan.frame.crop? rect store
      return (Loan.take? cropped store, store)
  | .drop => .ok ([], loan.frame.release store)

structure Lending where
  store : Store
  queue : Queue
  loans : List Loan

inductive QueueUse where
  | prepare (size : Size) (source : Source)
  | paint (change : Plane → Checked Bytes)
  | share
  | advance
  | reset
  | onLoan (index : Nat) (use : LoanUse)

namespace Lending

def start (suppliers : Array Supplier) : Lending := ⟨⟨#[], #[], suppliers⟩, .empty, []⟩

def paint (lending : Lending) (change : Plane → Checked Bytes) : Checked Lending :=
  match lending.queue.current with
  | none => .ok lending
  | some frame => do
      let store ← frame.edit change lending.store
      return { lending with store }

def share (lending : Lending) : Lending :=
  match lending.queue.current with
  | none => lending
  | some frame =>
      let (handle, store) := frame.share lending.store
      { store
        queue := { lending.queue with current := some handle }
        loans := lending.loans ++ [.take handle store] }

def useLoan (lending : Lending) (index : Nat) (use : LoanUse) : Checked Lending :=
  match lending.loans[index]? with
  | none => .ok lending
  | some loan => do
      let (made, store) ← use.run lending.store loan
      return { lending with store, loans := lending.loans.eraseIdx index ++ made }

def step (lending : Lending) : QueueUse → Checked Lending
  | .prepare size source => do
      let (_, queue, store) ← lending.queue.prepare size source lending.store
      return { lending with queue, store }
  | .paint change => lending.paint change
  | .share => .ok lending.share
  | .advance => .ok { lending with queue := lending.queue.advance }
  | .reset =>
      let (queue, store) := lending.queue.reset lending.store
      .ok { lending with queue, store }
  | .onLoan index use => lending.useLoan index use

def run (uses : List QueueUse) (lending : Lending) : Checked Lending := uses.foldlM step lending

structure Sound (lending : Lending) : Prop where
  owned : Owned lending.store (lending.queue.frames + framesOnLoan lending.loans)
  plain : ∀ frame ∈ lending.queue.frames, frame.IsPlain
  apart : ∀ frame ∈ lending.queue.current, ∀ other ∈ lending.queue.previous,
    other.buffer ≠ frame.buffer
  kept : ∀ loan ∈ lending.loans, loan.frame.pixels lending.store = loan.taken

end Lending

theorem Frame.share_pixels (frame : Frame) (store : Store) :
    (frame.share store).1.pixels (frame.share store).2 = frame.pixels store := by
  unfold share
  split <;> rfl

section Loans

variable {loan : Loan} {loans made : List Loan} {others : Multiset Frame} {store next : Store}
  {use : LoanUse}

theorem framesOnLoan_cons : framesOnLoan (loan :: loans) = {loan.frame} + framesOnLoan loans := rfl

theorem framesOnLoan_append :
    framesOnLoan (loans ++ made) = framesOnLoan loans + framesOnLoan made := by
  simp [framesOnLoan]

theorem framesOnLoan_take? (frame : Option Frame) : framesOnLoan (Loan.take? frame store) = held frame := by
  cases frame <;> rfl

theorem mem_framesOnLoan (member : loan ∈ loans) : loan.frame ∈ framesOnLoan loans :=
  List.mem_map_of_mem member

theorem framesOnLoan_eraseIdx {index : Nat} (found : loans[index]? = some loan) :
    framesOnLoan loans = {loan.frame} + framesOnLoan (loans.eraseIdx index) := by
  obtain ⟨within, rfl⟩ := List.getElem?_eq_some_iff.mp found
  rw [← framesOnLoan_cons]
  exact Multiset.coe_eq_coe.mpr ((List.getElem_cons_eraseIdx_perm within).map Loan.frame).symm

theorem Loan.kept_of_take? {frame : Option Frame} :
    ∀ loan ∈ Loan.take? frame store, loan.frame.pixels store = loan.taken := by
  cases frame with
  | none => exact fun loan member => absurd member List.not_mem_nil
  | some frame => exact List.forall_mem_singleton.mpr rfl

theorem LoanUse.run_exchange (ran : use.run store loan = .ok (made, next)) :
    Exchange store {loan.frame} next (framesOnLoan made) := by
  cases use with
  | share =>
    simp only [run, Except.ok.injEq, Prod.mk.injEq] at ran
    obtain ⟨rfl, rfl⟩ := ran
    exact (loan.frame.share_exchange store).cast rfl rfl
  | duplicate =>
    obtain ⟨⟨copy, reserved⟩, copied, ran⟩ := Checked.bind_eq_ok.mp ran
    cases ran
    refine ((Frame.duplicate_exchange copied).behind {loan.frame}).cast (add_zero _).symm ?_
    rw [framesOnLoan_cons, framesOnLoan_take?]
  | crop rect =>
    obtain ⟨⟨part, reserved⟩, taken, ran⟩ := Checked.bind_eq_ok.mp ran
    cases ran
    exact (Frame.crop?_exchange taken).cast rfl (framesOnLoan_take? _)
  | drop =>
    cases ran
    exact loan.frame.release_exchange store

theorem LoanUse.run_keeps (owned : Owned store ({loan.frame} + others))
    (kept : loan.frame.pixels store = loan.taken) (ran : use.run store loan = .ok (made, next)) :
    ∀ loan ∈ made, loan.frame.pixels next = loan.taken := by
  cases use with
  | share =>
    simp only [run, Except.ok.injEq, Prod.mk.injEq] at ran
    obtain ⟨rfl, rfl⟩ := ran
    refine List.forall_mem_cons.mpr ⟨?_, List.forall_mem_singleton.mpr rfl⟩
    exact (loan.frame.share_pixels store).trans kept
  | duplicate =>
    obtain ⟨⟨copy, reserved⟩, copied, ran⟩ := Checked.bind_eq_ok.mp ran
    cases ran
    refine List.forall_mem_cons.mpr ⟨?_, Loan.kept_of_take?⟩
    rw [← zero_add ({loan.frame} + others)] at owned
    have member : loan.frame ∈ {loan.frame} + others := by simp
    have same := (Frame.duplicate_exchange copied).readsAlike owned member
    exact same.2.trans kept
  | crop rect =>
    obtain ⟨⟨part, reserved⟩, taken, ran⟩ := Checked.bind_eq_ok.mp ran
    cases ran
    exact Loan.kept_of_take?
  | drop =>
    cases ran
    exact fun loan member => absurd member List.not_mem_nil

theorem kept_of_exchange {old new : Multiset Frame} (exchange : Exchange store old next new)
    (owned : Owned store (old + framesOnLoan loans))
    (kept : ∀ loan ∈ loans, loan.frame.pixels store = loan.taken) :
    ∀ loan ∈ loans, loan.frame.pixels next = loan.taken := fun loan member =>
  (exchange.readsAlike owned (mem_framesOnLoan member)).2.trans (kept loan member)

end Loans

namespace Lending

variable {lending after : Lending} {queue : Queue} {store : Store}

theorem start_sound (suppliers : Array Supplier) : (start suppliers).Sound where
  owned := ⟨0, Accounted.empty.congr (Nat.le_refl _) (Nat.le_refl _) fun _ _ => rfl⟩
  plain _ member := absurd member (Multiset.notMem_zero _)
  apart _ current := absurd current (Option.not_mem_none _)
  kept _ member := absurd member List.not_mem_nil

theorem Sound.change (sound : lending.Sound)
    (exchange : Exchange lending.store lending.queue.frames store queue.frames)
    (plain : ∀ frame ∈ queue.frames, frame.IsPlain)
    (apart : ∀ frame ∈ queue.current, ∀ other ∈ queue.previous, other.buffer ≠ frame.buffer) :
    Sound { lending with queue, store } where
  owned := (exchange _ sound.owned).1
  plain
  apart
  kept := kept_of_exchange exchange sound.owned sound.kept

theorem Sound.prepare {size : Size} {source : Source} {made : Except Refusal Frame}
    (sound : lending.Sound)
    (prepared : lending.queue.prepare size source lending.store = .ok (made, queue, store)) :
    Sound { lending with queue, store } := by
  have exchange := Queue.prepare_exchange prepared
  obtain ⟨frame, found, _, rfl, rfl, rfl⟩ | ⟨_, renewed⟩ := Queue.prepare_cases prepared
  next => exact sound.change exchange sound.plain sound.apart
  next =>
    obtain ⟨rfl, fresh⟩ := Queue.renew_eq_ok renewed
    refine sound.change exchange (fun frame member => ?_) fun frame current other previous => ?_
    next =>
      rcases Multiset.mem_add.mp member with current | previous
      next =>
        cases made with
        | error refusal => exact absurd current (Multiset.notMem_zero _)
        | ok frame =>
          cases Multiset.mem_singleton.mp current
          rw [fresh frame rfl]
          exact .inl rfl
      next => exact sound.plain frame (Multiset.mem_add.mpr (.inr previous))
    next =>
      cases made with
      | error refusal => cases current
      | ok made =>
        cases current
        rw [fresh frame rfl]
        have kept : lending.queue.previous = some other := previous
        have member : other ∈ lending.queue.frames + framesOnLoan lending.loans := by
          simp [Queue.frames, kept, held]
        exact Nat.ne_of_lt (sound.owned.buffer_lt member)

theorem Sound.paint {change : Plane → Checked Bytes} (sound : lending.Sound)
    (painted : lending.paint change = .ok after) : after.Sound := by
  unfold Lending.paint at painted
  split at painted
  next =>
    cases painted
    exact sound
  next frame found =>
    obtain ⟨store, edited, painted⟩ := Checked.bind_eq_ok.mp painted
    cases painted
    have exchange := (Frame.edit_exchange edited).beside (held lending.queue.previous)
    refine sound.change (exchange.cast ?_ ?_) sound.plain sound.apart
    all_goals simp only [Queue.frames, found, held]

theorem Sound.share (sound : lending.Sound) : lending.share.Sound := by
  unfold Lending.share
  split
  next => exact sound
  next frame found =>
    have own : lending.queue.frames = {frame} + held lending.queue.previous := by
      simp only [Queue.frames, found, held]
    have owned := sound.owned
    rw [own, add_assoc] at owned
    have exchange := frame.share_exchange lending.store
    have plain : (frame.share lending.store).1.IsPlain := (sound.plain frame (by simp [own])).share
    have buffer : (frame.share lending.store).1.buffer = frame.buffer := by
      unfold Frame.share
      split <;> rfl
    generalize frame.share lending.store = result at exchange plain buffer ⊢
    obtain ⟨handle, store⟩ := result
    constructor
    next =>
      refine (congrArg (Owned _) ?_).mp (exchange _ owned).1
      rw [framesOnLoan_append, Multiset.insert_eq_cons, ← Multiset.singleton_add, Queue.frames]
      change _ = {handle} + _ + (_ + {handle})
      ac_rfl
    next =>
      intro other member
      rcases Multiset.mem_add.mp member with current | previous
      next =>
        cases Multiset.mem_singleton.mp current
        exact plain
      next => exact sound.plain other (Multiset.mem_add.mpr (.inr previous))
    next =>
      intro other current
      cases current
      exact buffer ▸ sound.apart frame found
    next =>
      refine List.forall_mem_append.mpr ⟨?_, List.forall_mem_singleton.mpr rfl⟩
      exact kept_of_exchange (exchange.beside (held lending.queue.previous))
        (own ▸ sound.owned) sound.kept

theorem Sound.advance (sound : lending.Sound) :
    Sound { lending with queue := lending.queue.advance } :=
  sound.change ((Exchange.refl _ _).cast rfl lending.queue.frames_advance)
    (lending.queue.frames_advance ▸ sound.plain)
    fun frame current other previous => (sound.apart other previous frame current).symm

theorem Sound.reset (sound : lending.Sound)
    (reset : lending.queue.reset lending.store = (queue, store)) :
    Sound { lending with queue, store } := by
  have exchange := lending.queue.reset_exchange lending.store
  rw [reset] at exchange
  cases reset
  exact sound.change exchange (fun _ member => absurd member (Multiset.notMem_zero _))
    fun _ current => absurd current (Option.not_mem_none _)

theorem Sound.useLoan {index : Nat} {use : LoanUse} (sound : lending.Sound)
    (used : lending.useLoan index use = .ok after) : after.Sound := by
  unfold Lending.useLoan at used
  split at used
  next =>
    cases used
    exact sound
  next loan found =>
    obtain ⟨⟨made, store⟩, ran, used⟩ := Checked.bind_eq_ok.mp used
    cases used
    have exchange := LoanUse.run_exchange ran
    have owned := sound.owned
    rw [framesOnLoan_eraseIdx found, add_left_comm] at owned
    constructor
    next =>
      have next := (exchange _ owned).1
      rw [framesOnLoan_append]
      refine (congrArg (Owned _) ?_).mp next
      ac_rfl
    next => exact sound.plain
    next => exact sound.apart
    next =>
      have kept := sound.kept
      refine List.forall_mem_append.mpr ⟨?_, ?_⟩
      next =>
        rw [← add_assoc] at owned
        refine kept_of_exchange (exchange.beside lending.queue.frames) owned fun loan member => ?_
        exact kept loan (List.mem_of_mem_eraseIdx member)
      next => exact LoanUse.run_keeps owned (kept loan (List.mem_of_getElem? found)) ran

theorem Sound.step {use : QueueUse} (sound : lending.Sound) (stepped : lending.step use = .ok after) :
    after.Sound := by
  cases use with
  | prepare size source =>
    obtain ⟨⟨made, queue, store⟩, prepared, stepped⟩ := Checked.bind_eq_ok.mp stepped
    cases stepped
    exact sound.prepare prepared
  | paint change => exact sound.paint stepped
  | share =>
    cases stepped
    exact sound.share
  | advance =>
    cases stepped
    exact sound.advance
  | reset =>
    cases stepped
    exact sound.reset rfl
  | onLoan index use => exact sound.useLoan stepped

theorem Sound.run {uses : List QueueUse} (sound : lending.Sound)
    (ran : lending.run uses = .ok after) : after.Sound := by
  induction uses generalizing lending with
  | nil =>
    cases ran
    exact sound
  | cons use rest ih =>
    obtain ⟨middle, stepped, ran⟩ := Checked.bind_eq_ok.mp ran
    exact ih (sound.step stepped) ran

def Idle (lending : Lending) (size : Size) (frame : Frame) : Prop :=
  lending.queue.current = some frame ∧ frame.size = size ∧
    ∀ loan ∈ lending.loans, loan.frame.buffer ≠ frame.buffer

structure Prepared (lending : Lending) (size : Size) (made : Except Refusal Frame) (queue : Queue)
    (store : Store) : Prop where
  granted : ∀ frame, made = .ok frame → queue.current = some frame ∧ frame.size = size ∧
    frame.isWritable store = true ∧ ∀ loan ∈ lending.loans, loan.frame.buffer ≠ frame.buffer
  refused : ∀ refusal, made = .error refusal → queue.current = none
  other : queue.previous = lending.queue.previous
  kept : ∀ loan ∈ lending.loans, loan.frame.pixels store = loan.taken
  again : ∀ frame, lending.Idle size frame →
    made = .ok frame ∧ queue = lending.queue ∧ store = lending.store
  anew : (∀ frame, ¬ lending.Idle size frame) →
    queue.reallocations = lending.queue.reallocations + 1 ∧
      ∀ frame, made = .ok frame → lending.store.buffers.size ≤ frame.buffer

section Prepare

variable {frame : Frame} {size : Size} {source : Source} {made : Except Refusal Frame}

-- The frame in the other slot has a buffer of its own, so only loans can keep this one in use.
theorem Sound.isShared_eq_false_iff (sound : lending.Sound) (found : lending.queue.current = some frame) :
    frame.isShared lending.store = false ↔ ∀ loan ∈ lending.loans, loan.frame.buffer ≠ frame.buffer := by
  have owned := sound.owned
  rw [Queue.frames, found, held, add_assoc] at owned
  have flat := (sound.plain frame (by simp [Queue.frames, found, held])).length_le
  rw [Frame.isShared_eq_not_isWritable owned flat, Bool.not_eq_false', ← Bool.not_eq_false,
    Frame.isWritable_eq_false_iff owned]
  constructor
  next =>
    intro alone loan member same
    exact alone ⟨loan.frame, Multiset.mem_add.mpr (.inr (mem_framesOnLoan member)), same⟩
  next =>
    rintro apart ⟨other, member, same⟩
    rcases Multiset.mem_add.mp member with previous | lent
    next =>
      cases kept : lending.queue.previous with
      | none => simp [kept, held] at previous
      | some last =>
        simp only [kept, held, Multiset.mem_singleton] at previous
        exact sound.apart frame found last kept (previous ▸ same)
    next =>
      obtain ⟨loan, taken, rfl⟩ := List.mem_map.mp lent
      exact apart loan taken same

theorem Sound.isReusable_iff (sound : lending.Sound) (found : lending.queue.current = some frame) :
    Queue.isReusable frame size lending.store = true ↔ lending.Idle size frame := by
  rw [Queue.isReusable, Bool.and_eq_true, decide_eq_true_eq, Bool.not_eq_true',
    sound.isShared_eq_false_iff found]
  exact (and_iff_right found).symm

theorem Sound.prepared (sound : lending.Sound)
    (prepared : lending.queue.prepare size source lending.store = .ok (made, queue, store)) :
    lending.Prepared size made queue store := by
  have kept := (sound.prepare prepared).kept
  obtain ⟨frame, found, reusable, rfl, rfl, rfl⟩ | ⟨busy, renewed⟩ := Queue.prepare_cases prepared
  next =>
    have idle := (sound.isReusable_iff found).mp reusable
    have alone := (sound.isShared_eq_false_iff found).mpr idle.2.2
    have owned := sound.owned
    rw [Queue.frames, found, held, add_assoc] at owned
    rw [Frame.isShared_eq_not_isWritable owned
      (sound.plain frame (by simp [Queue.frames, found, held])).length_le, Bool.not_eq_false'] at alone
    refine ⟨?_, by simp, rfl, kept, fun other same => ?_, fun never => absurd idle (never frame)⟩
    next =>
      intro other same
      cases same
      exact ⟨found, idle.2.1, alone, idle.2.2⟩
    next =>
      cases found.symm.trans same.1
      exact ⟨rfl, rfl, rfl⟩
  next =>
    obtain ⟨rfl, fresh⟩ := Queue.renew_eq_ok renewed
    refine ⟨?_, ?_, rfl, kept, fun frame idle => ?_, fun _ => ⟨rfl, ?_⟩⟩
    next =>
      rintro frame rfl
      rw [fresh frame rfl]
      refine ⟨rfl, rfl, rfl, fun loan member => Nat.ne_of_lt (sound.owned.buffer_lt ?_)⟩
      exact Multiset.mem_add.mpr (.inr (mem_framesOnLoan member))
    next =>
      rintro refusal rfl
      rfl
    next =>
      have reusable := (sound.isReusable_iff idle.1).mpr idle
      rw [busy frame idle.1] at reusable
      cases reusable
    next =>
      rintro frame rfl
      rw [fresh frame rfl]
      exact Nat.le_refl _

end Prepare

theorem paint_queue {change : Plane → Checked Bytes} (painted : lending.paint change = .ok after) :
    after.queue = lending.queue := by
  unfold Lending.paint at painted
  split at painted
  next =>
    cases painted
    rfl
  next =>
    obtain ⟨store, _, painted⟩ := Checked.bind_eq_ok.mp painted
    cases painted
    rfl

theorem useLoan_queue {index : Nat} {use : LoanUse} (used : lending.useLoan index use = .ok after) :
    after.queue = lending.queue := by
  unfold Lending.useLoan at used
  split at used
  next =>
    cases used
    rfl
  next =>
    obtain ⟨⟨made, store⟩, _, used⟩ := Checked.bind_eq_ok.mp used
    cases used
    rfl

theorem share_reallocations : lending.share.queue.reallocations = lending.queue.reallocations := by
  unfold Lending.share
  split <;> rfl

theorem step_reallocations {use : QueueUse} (other : ∀ size source, use ≠ .prepare size source)
    (stepped : lending.step use = .ok after) :
    after.queue.reallocations = lending.queue.reallocations := by
  cases use with
  | prepare size source => exact absurd rfl (other size source)
  | paint change => rw [paint_queue stepped]
  | share =>
    cases stepped
    exact share_reallocations
  | advance =>
    cases stepped
    rfl
  | reset =>
    cases stepped
    rfl
  | onLoan index use => rw [useLoan_queue stepped]

theorem run_recycles {suppliers : Array Supplier} {uses : List QueueUse}
    (ran : (start suppliers).run uses = .ok lending) :
    (∀ loan ∈ lending.loans, loan.frame.pixels lending.store = loan.taken) ∧
    (∀ after, lending.step .advance = .ok after → after.queue.previous = lending.queue.current) ∧
    (∀ use after, (∀ size source, use ≠ .prepare size source) → lending.step use = .ok after →
      after.queue.reallocations = lending.queue.reallocations) ∧
    ∀ size source made queue store,
      lending.queue.prepare size source lending.store = .ok (made, queue, store) →
        lending.Prepared size made queue store := by
  have sound := (start_sound suppliers).run ran
  refine ⟨sound.kept, fun after moved => ?_, fun use after other stepped => ?_,
    fun size source made queue store prepared => ?_⟩
  next =>
    cases moved
    rfl
  next => exact step_reallocations other stepped
  next => exact sound.prepared prepared

def keepPart : List QueueUse :=
  [.prepare ⟨2, 1⟩ .heap, .paint fun plane => .ok (plane.bytes.setIfInBounds 4 7), .share,
    .onLoan 0 .share, .onLoan 1 (.crop ⟨1, 0, 2, 1⟩), .onLoan 0 .drop, .advance,
    .prepare ⟨2, 1⟩ (.segments 0), .share, .onLoan 1 .drop, .advance]

theorem run_recycles_keepPart : ∃ lending frame queue store,
    (start #[⟨0, some 8⟩]).run keepPart = .ok lending ∧
    lending.loans.map Loan.taken = [.ok #[7, 0, 0, 0]] ∧
    lending.queue.prepare ⟨2, 1⟩ .heap lending.store = .ok (.ok frame, queue, store) ∧
    queue.reallocations = 3 ∧ lending.Prepared ⟨2, 1⟩ (.ok frame) queue store ∧
    ∀ loan ∈ lending.loans, loan.frame.pixels lending.store = loan.taken := by
  obtain ⟨lending, frame, queue, store, ran, prepared, counted⟩ : ∃ lending frame queue store,
      (start #[⟨0, some 8⟩]).run keepPart = .ok lending ∧
      lending.queue.prepare ⟨2, 1⟩ .heap lending.store = .ok (.ok frame, queue, store) ∧
      queue.reallocations = 3 := ⟨_, _, _, _, rfl, rfl, rfl⟩
  have taken : ((start #[⟨0, some 8⟩]).run keepPart).map (fun lending => lending.loans.map Loan.taken) =
      .ok [.ok #[7, 0, 0, 0]] := by
    decide +kernel
  rw [ran] at taken
  obtain ⟨kept, _, _, promises⟩ := run_recycles ran
  exact ⟨lending, frame, queue, store, ran, Except.ok.inj taken, prepared, counted,
    promises _ _ _ _ _ prepared, kept⟩

end Lending

end ScreenCapture
