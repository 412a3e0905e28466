import ScreenCapture.Proofs.Ownership.Writers
import ScreenCapture.Proofs.Pipeline.Steady

set_option autoImplicit false

namespace ScreenCapture

namespace Size

theorem packedBytes_turnSize (rotation : Rotation) (size : Size) :
    (rotation.turnSize size).packedBytes = size.packedBytes := by
  have swapped : (Size.mk size.height size.width).packedBytes = size.packedBytes := by
    simp only [packedBytes, rowBytes]
    ac_rfl
  cases rotation with
  | deg0 | deg180 => rfl
  | deg90 | deg270 => exact swapped

end Size

namespace Frame

variable {frame cropped : Frame} {store next : Store} {visible : Rect} {others more : Multiset Frame}

theorem Writes.suppliers (writes : frame.Writes store next) : next.suppliers = store.suppliers := by
  induction writes with
  | refl => rfl
  | tail _ last ih =>
    obtain ⟨change, edited⟩ := last
    obtain ⟨_, bytes, rfl⟩ := edit_eq_ok edited
    exact ih

theorem isWritable_kept (writable : frame.isWritable store = true)
    (owned : Owned store ({frame} + others)) (nextOwned : Owned next ({frame} + more))
    (reach : ∀ other ∈ more, (∃ known ∈ others, known.buffer = other.buffer) ∨
      other.buffer = store.buffers.size) : frame.isWritable next = true := by
  by_contra shared
  rw [Bool.not_eq_true, isWritable_eq_false_iff nextOwned] at shared
  obtain ⟨other, member, same⟩ := shared
  rcases reach other member with ⟨known, held, alike⟩ | fresh
  next =>
    have before := (isWritable_eq_false_iff owned).mpr ⟨known, held, alike.trans same⟩
    cases writable.symm.trans before
  next =>
    obtain ⟨links, accounted⟩ := owned_single.mp owned
    have stored : frame.buffer < store.buffers.size :=
      accounted.stored frame.chain (mem_owners_of_mem (Multiset.mem_cons_self _ _))
    rw [← same, fresh] at stored
    exact absurd stored (Nat.lt_irrefl _)

namespace IsCropOf

variable {settings : Settings} {sequence : Nat} (isCrop : cropped.IsCropOf frame visible)
  (carries : frame.Carries settings sequence store)

include isCrop carries

theorem size_eq (inside : frame.bounds.encloses visible = true) :
    cropped.size = ⟨visible.right - visible.left, visible.bottom - visible.top⟩ :=
  (isCrop.shows carries.shows inside).size

theorem updated_inside (inside : frame.bounds.encloses visible = true) (point : Point)
    (updated : cropped.info.updated.contains point = true) : cropped.bounds.contains point = true := by
  have size := isCrop.size_eq carries inside
  rcases isCrop with ⟨rfl, rfl⟩ | isPart
  next => exact Rect.mem_cells.mp (carries.updated_subset (Region.mem_cells.mpr updated))
  next =>
    rw [(FrameInfo.crop_eq_ok isPart.info).2, Bool.and_eq_true, Rect.contains_iff] at updated
    rw [bounds_contains_iff, size]
    dsimp only at updated ⊢
    omega

theorem area_answers (inside : frame.bounds.encloses visible = true) (layout : cropped.Layout store) :
    ∃ changed, cropped.info.updated.area = .ok changed := by
  have ⟨canonical, _⟩ := isCrop.card_updated carries.canonical carries.updated_subset
  have fits : cropped.info.updated.FitsOn cropped.size := isCrop.updated_inside carries inside
  exact ⟨_, fits.area_eq canonical ⟨layout.width.2, layout.height.2⟩⟩

end IsCropOf

end Frame

namespace Pipeline

variable {settings : Settings} {received later : List Frame} {pipeline next : Pipeline}
  {frame cropped : Frame} {store : Store} {size : Size} {target : Option Frame}

theorem prepareTarget_answers (proper : 0 ≤ size.width ∧ 0 ≤ size.height)
    (room : size.packedBytes ≤ allocationLimit)
    (bare : ∀ frame, target = some frame → frame.groups = []) : ∃ reserved middle,
      prepareTarget size target store = (.ok reserved, middle) ∧ reserved.groups = [] ∧
        middle.suppliers = store.suppliers ∧
          (target = some reserved ∨ reserved.buffer = store.buffers.size) := by
  have created : Frame.createOnHeap size store = _ := Frame.createOnHeap_answers proper room
  cases target with
  | none => exact ⟨_, _, created, rfl, rfl, .inr rfl⟩
  | some old =>
    by_cases same : old.size = size
    next => exact ⟨old, store, if_pos same, bare old rfl, rfl, .inl rfl⟩
    next =>
      rw [prepareTarget, if_neg same, created]
      exact ⟨_, _, rfl, rfl, Store.suppliers_release _ _ _, .inr rfl⟩

theorem turn_answers {others : Multiset Frame}
    (owned : Owned store (held target + ({cropped} + others)))
    (laid : LaidOut store (held target + ({cropped} + others)))
    (solid : cropped.bounds.isEmpty = false) (room : cropped.size.packedBytes ≤ allocationLimit)
    (bare : ∀ frame, target = some frame → frame.groups = []) (info : FrameInfo)
    (rotation : Rotation) : ∃ reserved middle drawn after,
      prepareTarget (rotation.turnSize cropped.size) target store = (.ok reserved, middle) ∧
        Frame.drawTurned { reserved with info } cropped cropped.bounds rotation .zero middle =
          .ok (drawn, after) ∧
        drawn.groups = [] ∧ after.suppliers = store.suppliers ∧
          ((∃ known ∈ held target, known.buffer = drawn.buffer) ∨
            drawn.buffer = store.buffers.size) := by
  have layout : cropped.Layout store := laid cropped (by simp)
  have bounded := rotation.isCoordinate_turnSize layout.width.2 layout.height.2
  have proper : 0 ≤ (rotation.turnSize cropped.size).width ∧
      0 ≤ (rotation.turnSize cropped.size).height := by
    have wide := layout.width.1
    have high := layout.height.1
    cases rotation <;> simp only [Rotation.turnSize] <;> omega
  rw [← Size.packedBytes_turnSize rotation] at room
  obtain ⟨reserved, middle, prepared, groups, suppliers, reach⟩ :=
    prepareTarget_answers proper room bare
  have size := prepareTarget_size prepared
  have prepare := prepareTarget_upkeep bounded target store
  rw [prepared] at prepare
  have described := prepare.trans (reserved.withInfo_upkeep info middle)
  obtain ⟨_, laid, _⟩ := described _ owned laid
  have targetLayout := laid _ (Multiset.mem_add.mpr (.inl (Multiset.mem_singleton_self _)))
  have croppedLayout : cropped.Layout middle := laid cropped (by simp)
  have inside : reserved.bounds.encloses (.ofSize (rotation.turnSize cropped.size)) = true := by
    rw [← size]
    exact reserved.bounds_encloses_bounds
  have writable : reserved.isWritable middle = true := by simp [Frame.isWritable, groups]
  obtain ⟨⟨drawn, after⟩, ran⟩ := (Frame.exists_drawTurned_bounds_iff targetLayout.fits
    croppedLayout.fits solid rotation).mpr ⟨inside, writable⟩
  obtain ⟨writes, chain⟩ := Frame.drawTurned_writes ran
  have buffer : drawn.buffer = reserved.buffer := congrArg Chain.buffer chain
  refine ⟨reserved, middle, drawn, after, prepared, ran, (congrArg Chain.groups chain).trans groups,
    writes.suppliers.trans suppliers, ?_⟩
  rw [buffer]
  refine reach.imp_left fun kept => ⟨reserved, ?_, rfl⟩
  rw [kept]
  exact Multiset.mem_singleton_self _

structure Serves (pipeline next : Pipeline) (settings : Settings) (later : List Frame) : Prop where
  producer : next.producer = pipeline.producer
  supplier : next.supplier = pipeline.supplier
  suppliers : next.store.suppliers = pipeline.store.suppliers
  channel : ∀ frame ∈ next.channel, frame ∈ pipeline.channel
  reach : ∀ other ∈ (next.channel : Multiset Frame) + next.consumer.frames,
    (∃ known ∈ (pipeline.channel : Multiset Frame) + pipeline.consumer.frames,
      known.buffer = other.buffer) ∨ other.buffer = pipeline.store.buffers.size
  consumer : next.consumer.Steady settings later
  going : ∀ ending, next.consumer.phase = .ended ending → ending = .completed

namespace Serves

theorem unharmed (serves : pipeline.Serves next settings later) (unharmed : pipeline.Unharmed) :
    next.Unharmed := by
  refine ⟨?_, serves.going⟩
  rw [serves.producer]
  exact unharmed.1

theorem steady (serves : pipeline.Serves next settings later) (sound : pipeline.Sound settings received)
    (nextSound : next.Sound settings later) (steady : pipeline.Steady settings received) :
    next.Steady settings later where
  supplied := by
    rw [serves.supplier]
    exact steady.supplied.congr serves.suppliers
  producer := serves.producer ▸ steady.producer
  consumer := serves.consumer
  flight frame member := steady.flight frame (serves.channel frame member)
  writable phase frame found := by
    rw [serves.producer] at phase found
    have owned := sound.owned
    have nextOwned := nextSound.owned
    rw [frames, serves.producer] at nextOwned
    simp only [frames, Producer.frames, Queue.frames, found, held, add_assoc] at owned nextOwned
    refine Frame.isWritable_kept (steady.writable phase frame found) owned nextOwned
      fun other member => ?_
    simp only [Multiset.mem_add] at member ⊢
    rcases member with kept | kept | below
    next => exact .inl ⟨other, .inl kept, rfl⟩
    next => exact .inl ⟨other, .inr (.inl kept), rfl⟩
    next =>
      rcases serves.reach other (Multiset.mem_add.mpr below) with ⟨known, held, same⟩ | fresh
      next => exact .inl ⟨known, .inr (.inr (Multiset.mem_add.mp held)), same⟩
      next => exact .inr fresh

end Serves

namespace Steady

variable (sound : pipeline.Sound settings received) (steady : pipeline.Steady settings received)
  (unharmed : pipeline.Unharmed)

include steady unharmed

theorem receive (phase : pipeline.consumer.phase = .receive) :
    pipeline.Serves pipeline.receive settings (received ++ pipeline.channel.take 1) := by
  have done := steady.consumer.done
  rw [Consumer.done, phase] at done
  unfold Pipeline.receive
  cases channel : pipeline.channel with
  | nil =>
    rw [List.take_nil, List.append_nil]
    dsimp only
    split
    next =>
      refine ⟨rfl, rfl, rfl, fun _ member => member, fun other member => .inl ⟨other, member, rfl⟩,
        steady.consumer, unharmed.2⟩
    next =>
      have idle : (consumeAt (.ended .completed) pipeline).consumer.frames =
          pipeline.consumer.frames := by
        simp only [consumeAt, Consumer.frames, Consumer.working, phase]
      refine ⟨rfl, rfl, rfl, fun _ member => member, fun other member => .inl ⟨other, ?_, rfl⟩,
        ⟨steady.consumer.bare, by simp [consumeAt], by simp [consumeAt], done⟩, fun ending ended => ?_⟩
      next =>
        rw [← idle]
        exact member
      next =>
        cases ended
        rfl
  | cons frame rest =>
    have first : frame ∈ pipeline.channel := by simp [channel]
    refine ⟨rfl, rfl, rfl, fun other member => ?_, fun other member => .inl ⟨other, ?_, rfl⟩,
      ⟨steady.consumer.bare, fun other received => ?_, by simp [consumeAt], ?_⟩, by simp [consumeAt]⟩
    next =>
      rw [channel]
      exact List.mem_cons_of_mem frame member
    next =>
      simp only [consumeAt, Consumer.frames, Consumer.working, phase, channel, held, zero_add,
        Multiset.mem_add, Multiset.mem_coe, Multiset.mem_singleton, List.mem_cons] at member ⊢
      tauto
    next =>
      cases received
      exact steady.flight frame first
    next =>
      simp only [consumeAt, Consumer.done, List.take_succ_cons, List.take_zero, List.length_append,
        List.length_singleton, Nat.add_sub_cancel]
      exact done

omit unharmed in
theorem release (phase : pipeline.consumer.phase = .release cropped) : pipeline.Serves
    (consumeAt .receive { pipeline with store := cropped.release pipeline.store }) settings received := by
  have done := steady.consumer.done
  rw [Consumer.done, phase] at done
  refine ⟨rfl, rfl, Store.suppliers_release _ _ _, fun _ member => member,
    fun other member => .inl ⟨other, ?_, rfl⟩,
    ⟨steady.consumer.bare, by simp [consumeAt], by simp [consumeAt], done⟩, by simp [consumeAt]⟩
  simp only [consumeAt, Consumer.frames, Consumer.working, phase, held, zero_add,
    Multiset.mem_add] at member ⊢
  tauto

include sound

omit unharmed in
theorem exists_crop_iff (phase : pipeline.consumer.phase = .crop frame) :
    (∃ next, pipeline.crop settings frame = .ok next) ↔ settings.Croppable := by
  obtain ⟨earlier, _, carries⟩ := sound.follows.whole frame phase
  have screen := carries.bounds_eq
  have layout : frame.Layout pipeline.store :=
    sound.laid frame (by simp [frames, Consumer.frames, Consumer.working, phase, held])
  have answers : (∃ next, pipeline.crop settings frame = .ok next) ↔
      ∃ result, frame.crop? settings.crop pipeline.store = .ok result := by
    constructor
    next =>
      rintro ⟨next, stepped⟩
      obtain ⟨result, taken, _⟩ := Checked.bind_eq_ok.mp stepped
      exact ⟨result, taken⟩
    next =>
      rintro ⟨⟨cropped, store⟩, taken⟩
      rw [Pipeline.crop, taken, Checked.ok_bind]
      cases cropped <;> exact ⟨_, rfl⟩
  rw [answers, Frame.crop?_eq layout, screen, steady.consumer.whole frame phase, ← Settings.visible,
    Settings.Croppable]
  split
  next hollow => exact iff_of_true ⟨_, rfl⟩ (.inl hollow)
  next solid =>
    split
    next whole => exact iff_of_true ⟨_, rfl⟩ (.inr (.inl whole))
    next part =>
      split
      next placed => exact iff_of_true ⟨_, rfl⟩ (.inr (.inr placed))
      next lost =>
        refine iff_of_false (by simp) ?_
        simp only [solid, part, lost, or_self, not_false_eq_true, Bool.false_eq_true]

omit unharmed in
theorem crop (phase : pipeline.consumer.phase = .crop frame)
    (stepped : pipeline.crop settings frame = .ok next) : pipeline.Serves next settings received := by
  have croppable := (exists_crop_iff sound steady phase).mp ⟨next, stepped⟩
  obtain ⟨⟨cropped, store⟩, taken, stepped⟩ := Checked.bind_eq_ok.mp stepped
  cases cropped with
  | none =>
    obtain ⟨_, rfl⟩ := Frame.crop?_none taken
    cases stepped
    refine ⟨rfl, rfl, Store.suppliers_release _ _ _, fun _ member => member,
      fun other member => .inl ⟨other, ?_, rfl⟩,
      ⟨steady.consumer.bare, by simp [consumeAt], by simp [consumeAt], fun _ => croppable⟩, by simp [consumeAt]⟩
    simp only [consumeAt, Consumer.frames, Consumer.working, phase, held, zero_add,
      Multiset.mem_add] at member ⊢
    tauto
  | some cropped =>
    obtain ⟨_, rfl, isCrop⟩ := Frame.crop?_isCropOf taken
    cases stepped
    refine ⟨rfl, rfl, rfl, fun _ member => member, fun other member => .inl ?_,
      ⟨steady.consumer.bare, by simp [consumeAt], fun _ _ => croppable, fun _ => croppable⟩, by simp [consumeAt]⟩
    simp only [consumeAt, Consumer.frames, Consumer.working, held, Multiset.mem_add,
      Multiset.mem_singleton] at member
    simp only [Consumer.frames, Consumer.working, phase, held, Multiset.mem_add]
    rcases member with below | rfl | target
    next => exact ⟨other, .inl below, rfl⟩
    next => exact ⟨frame, .inr (.inl (Multiset.mem_singleton_self _)), isCrop.buffer.symm⟩
    next => exact ⟨other, .inr (.inr target), rfl⟩

section Room

variable (room : settings.frameSize.packedBytes ≤ allocationLimit)

include room

omit unharmed in
theorem draw (phase : pipeline.consumer.phase = .draw cropped) : ∃ next,
    pipeline.draw settings cropped = .ok next ∧ pipeline.Serves next settings received := by
  obtain ⟨solid, earlier, frame, _, carries, isCrop⟩ := sound.follows.cropped cropped (.inl phase)
  have inside := carries.encloses_visible solid
  have croppable := steady.consumer.cropped cropped phase
  have before : pipeline.consumer.frames = held pipeline.consumer.target + {cropped} := by
    simp [Consumer.frames, Consumer.working, phase, held, add_comm]
  have owned := sound.owned
  have laid := sound.laid
  rw [frames_eq, before, add_assoc] at owned laid
  have small : cropped.size.packedBytes ≤ allocationLimit := by
    have edges := Frame.bounds_encloses_iff.mp inside
    have size : frame.size = settings.frameSize := carries.shows.size
    rw [size] at edges
    rw [isCrop.size_eq carries inside]
    exact (Size.packedBytes_le (by dsimp only; omega) (by dsimp only; omega)).trans room
  obtain ⟨reserved, middle, drawn, after, prepared, ran, bare, suppliers, reach⟩ :=
    turn_answers owned laid (isCrop.bounds_isEmpty carries.shows inside solid) small
      steady.consumer.bare { cropped.info with updated := .empty } settings.rotation
  obtain ⟨changed, measured⟩ := isCrop.area_answers carries inside (laid cropped (by simp))
  rw [Pipeline.draw, prepared]
  dsimp only
  rw [ran, Checked.ok_bind, measured, Checked.ok_bind]
  refine ⟨_, rfl, rfl, rfl, suppliers, fun _ member => member, fun other member => ?_,
    ⟨fun target kept => ?_, by simp, by simp, fun _ => croppable⟩, by simp⟩
  next =>
    simp only [Consumer.frames, Consumer.working, held, Multiset.mem_add,
      Multiset.mem_singleton] at member
    simp only [Consumer.frames, Consumer.working, phase, Multiset.mem_add]
    rcases member with below | rfl | rfl
    next => exact .inl ⟨other, .inl below, rfl⟩
    next => exact .inl ⟨other, .inr (.inl (Multiset.mem_singleton_self _)), rfl⟩
    next =>
      rcases reach with ⟨known, kept, same⟩ | fresh
      next => exact .inl ⟨known, .inr (.inr kept), same⟩
      next => exact .inr fresh
  next =>
    cases kept
    exact bare

theorem consumeStep_serves (other : ∀ frame, pipeline.consumer.phase ≠ .crop frame) : ∃ next,
    pipeline.consumeStep settings = .ok next ∧
      pipeline.Serves next settings (received ++ pipeline.taken .consumer) := by
  unfold taken
  cases phase : pipeline.consumer.phase with
  | receive =>
    simp only [Pipeline.consumeStep, phase]
    exact ⟨_, rfl, receive steady unharmed phase⟩
  | crop frame => exact absurd phase (other frame)
  | draw cropped =>
    simp only [Pipeline.consumeStep, phase, List.append_nil]
    exact draw sound steady room phase
  | release cropped =>
    simp only [Pipeline.consumeStep, phase, List.append_nil]
    exact ⟨_, rfl, release steady phase⟩
  | ended ending =>
    simp only [Pipeline.consumeStep, phase, List.append_nil]
    exact ⟨pipeline, rfl, rfl, rfl, rfl, fun _ member => member, fun other member =>
      .inl ⟨other, member, rfl⟩, steady.consumer, unharmed.2⟩

theorem consume (countable : settings.frameCount < addressLimit) :
    ((pipeline.consume settings).Unharmed ↔
      ∀ frame, pipeline.consumer.phase = .crop frame → settings.Croppable) ∧
    ((pipeline.consume settings).Unharmed →
      (pipeline.consume settings).Steady settings (received ++ pipeline.taken .consumer)) := by
  have nextSound := sound.consume countable
  unfold Pipeline.consume at nextSound ⊢
  by_cases cropping : ∃ frame, pipeline.consumer.phase = .crop frame
  next =>
    obtain ⟨frame, phase⟩ := cropping
    have answers := exists_crop_iff sound steady phase
    have step : pipeline.consumeStep settings = pipeline.crop settings frame := by
      simp only [Pipeline.consumeStep, phase]
    have nothing : pipeline.taken .consumer = [] := by simp only [taken, phase]
    rw [nothing, List.append_nil] at nextSound ⊢
    rw [step] at nextSound ⊢
    split
    next next stepped =>
      have serves := crop sound steady phase stepped
      rw [stepped] at nextSound
      exact ⟨iff_of_true (serves.unharmed unharmed) fun _ _ => answers.mp ⟨next, stepped⟩,
        fun unharmed => serves.steady sound (nextSound unharmed) steady⟩
    next fault stepped =>
      have lost : ¬ settings.Croppable := by
        rw [← answers, stepped]
        rintro ⟨_, answered⟩
        cases answered
      refine ⟨iff_of_false (fun unharmed => ?_) fun croppable => lost (croppable frame phase),
        fun unharmed => ?_⟩
      all_goals cases unharmed.2 _ rfl
  next =>
    have other (frame : Frame) (phase : pipeline.consumer.phase = .crop frame) : False :=
      cropping ⟨frame, phase⟩
    obtain ⟨next, stepped, serves⟩ := consumeStep_serves sound steady unharmed room other
    rw [stepped] at nextSound ⊢
    exact ⟨iff_of_true (serves.unharmed unharmed) fun frame phase => (other frame phase).elim,
      fun unharmed => serves.steady sound (nextSound unharmed) steady⟩

end Room

end Steady

end Pipeline

end ScreenCapture
