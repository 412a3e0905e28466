import ScreenCapture.Proofs.Pixels.Blackening
import ScreenCapture.Proofs.Pixels.Duplicate

set_option autoImplicit false

namespace ScreenCapture

theorem Supplier.allows_iff (supplier : Supplier) (length : Nat) :
    supplier.allows length = true ↔ ∀ limit ∈ supplier.limit, length ≤ limit := by
  unfold allows
  split
  next none => simp [none]
  next limit some => simp [some]

namespace Store

variable {store : Store} {supplier length : Nat} {source : Supplier}

theorem segmentsCreated_eq (store : Store) (known : store.suppliers[supplier]? = some source) :
    store.segmentsCreated supplier = source.created := by
  rw [segmentsCreated, known]

section Request

variable (known : store.suppliers[supplier]? = some source)

include known

theorem requestSegment_refused (refused : source.allows length = false) :
    store.requestSegment supplier length = .ok (none, store) := by
  simp only [requestSegment, known, Supplier.request?, refused, Bool.not_false, if_true,
    Checked.ok_bind]
  rfl

theorem requestSegment_overfull (allowed : source.allows length = true)
    (long : allocationLimit < length) : store.requestSegment supplier length = .error .capacity := by
  simp only [requestSegment, known, Supplier.request?, allowed, Bool.not_true, Bool.false_eq_true,
    if_false, long, if_true, Checked.error_bind]

theorem requestSegment_granted (allowed : source.allows length = true)
    (short : length ≤ allocationLimit) : ∃ next,
      store.requestSegment supplier length = .ok (some source.created, next) ∧
        next.buffers = store.buffers ∧
          next.suppliers[supplier]? = some { source with created := lowHalf (source.created + 1) } := by
  have within : supplier < store.suppliers.size := (Array.getElem?_eq_some_iff.mp known).1
  have fits : ¬ allocationLimit < length := Nat.not_lt.mpr short
  refine ⟨{ store with suppliers := (store.suppliers.setIfInBounds supplier
    { source with created := lowHalf (source.created + 1) }) }, ?_, rfl,
    Array.getElem?_setIfInBounds_self_of_lt within⟩
  simp only [requestSegment, known, Supplier.request?, allowed, Bool.not_true, Bool.false_eq_true,
    if_false, fits, Checked.ok_bind]
  rfl

end Request

end Store

namespace Frame

variable {size : Size} {store : Store} {supplier : Nat} {source : Supplier}

structure FillsSegment (frame : Frame) (next : Store) (size : Size) (supplier : Nat) (store : Store) :
    Prop where
  extent : frame.size = size
  stride : (frame.stride : Int) = 4 * size.width
  data : frame.data next = Bytes.zeros size.packedBytes
  pixels : frame.pixels next = .ok (Bytes.zeros size.packedBytes)
  isBlack : frame.isBlack next = .ok (!size.isEmpty)
  segment : frame.segment? next = some (store.segmentsCreated supplier, size.packedBytes)
  created : next.segmentsCreated supplier = lowHalf (store.segmentsCreated supplier + 1)

theorem overBytes_zeros (below : size.packedBytes < addressLimit)
    (proper : 0 ≤ size.width ∧ 0 ≤ size.height) (backing : Backing) :
    overBytes size size.rowBytes backing (Bytes.zeros size.packedBytes) store =
      (.ok (onBuffer size size.rowBytes store.buffers.size),
        (store.addBuffer backing (Bytes.zeros size.packedBytes)).2) := by
  have fits : checkLayout size size.rowBytes (Bytes.zeros size.packedBytes).size = .ok () := by
    rw [Bytes.size_zeros]
    exact (checkLayout_eq_ok_iff below).mpr ⟨proper, Nat.le_refl _, Nat.le_refl _⟩
  rw [overBytes, fits]
  rfl

theorem zeros_pixels (store : Store) (bounded : size.Bounded)
    (proper : 0 ≤ size.width ∧ 0 ≤ size.height) (backing : Backing) :
    let next := (store.addBuffer backing (Bytes.zeros size.packedBytes)).2
    (onBuffer size size.rowBytes store.buffers.size).Layout next ∧
      (onBuffer size size.rowBytes store.buffers.size).pixels next =
        .ok (Bytes.zeros size.packedBytes) := by
  intro next
  have bytes : next.bytes store.buffers.size = Bytes.zeros size.packedBytes :=
    bytes_addBuffer_new store backing _
  have layout : (onBuffer size size.rowBytes store.buffers.size).Layout next := by
    refine layout_onBuffer bounded proper (Nat.le_refl _) ?_ ?_
    all_goals rw [bytes, Bytes.size_zeros]
    next => exact Nat.le_refl _
    next => exact Size.packedBytes_lt bounded
  refine ⟨layout, layout.pixels_eq_zeros_iff.mpr fun y below => ?_⟩
  rw [layout.row_eq below]
  have ends := Layout.row_le_packed below
  simp only [onBuffer, rowBytes, bytes, Nat.zero_add] at ends ⊢
  rw [Bytes.zeros, Array.extract_replicate, Nat.min_eq_left ends, Nat.add_sub_cancel_left, Bytes.zeros]

section Creation

variable (proper : 0 ≤ size.width ∧ 0 ≤ size.height)
  (known : store.suppliers[supplier]? = some source)

include proper known

theorem createInSegment_refused (refused : source.allows size.packedBytes = false) :
    createInSegment size supplier store =
      .ok (.error (.segmentUnavailable size.packedBytes), store) := by
  rw [createInSegment, size.isNegative_eq_false_iff.mpr proper, if_neg Bool.false_ne_true,
    Store.requestSegment_refused known refused]
  rfl

theorem createInSegment_overfull (allowed : source.allows size.packedBytes = true)
    (long : allocationLimit < size.packedBytes) :
    createInSegment size supplier store = .error .capacity := by
  rw [createInSegment, size.isNegative_eq_false_iff.mpr proper, if_neg Bool.false_ne_true,
    Store.requestSegment_overfull known allowed long]
  rfl

theorem createInSegment_fills (bounded : size.Bounded)
    (allowed : source.allows size.packedBytes = true) (short : size.packedBytes ≤ allocationLimit) :
    ∃ frame next, createInSegment size supplier store = .ok (.ok frame, next) ∧
      frame.FillsSegment next size supplier store := by
  obtain ⟨supplied, requested, _, left⟩ := Store.requestSegment_granted known allowed short
  obtain ⟨layout, pixels⟩ := zeros_pixels supplied bounded proper (.segment source.created)
  have bytes := bytes_addBuffer_new supplied (.segment source.created) (Bytes.zeros size.packedBytes)
  have backing := supplied.backing_addBuffer_new (.segment source.created) (Bytes.zeros size.packedBytes)
  refine ⟨_, _, ?_, rfl, ?_, ?_, pixels, layout.isBlack_eq pixels, ?_, ?_⟩
  next =>
    rw [createInSegment, size.isNegative_eq_false_iff.mpr proper, if_neg Bool.false_ne_true, requested,
      Checked.ok_bind]
    exact congrArg Except.ok (overBytes_zeros (Size.packedBytes_lt bounded) proper _)
  next =>
    simp only [onBuffer, Size.rowBytes, bytesPerPixel]
    omega
  next => simp only [Frame.data, onBuffer, bytes, Array.extract_size]
  next => simp only [segment?, onBuffer, bytes, backing, Bytes.size_zeros, store.segmentsCreated_eq known]
  next => exact (Store.segmentsCreated_eq _ left).trans (by rw [store.segmentsCreated_eq known])

end Creation

theorem createInSegment_negative (negative : size.width < 0 ∨ size.height < 0) :
    createInSegment size supplier store = .ok (.error (.invalidSize size), store) := by
  have found : size.isNegative = true := by simpa [Size.isNegative] using negative
  rw [createInSegment, found]
  rfl

theorem createInSegment_cases (bounded : size.Bounded)
    (known : store.suppliers[supplier]? = some source) :
    ((size.width < 0 ∨ size.height < 0) ∧
      createInSegment size supplier store = .ok (.error (.invalidSize size), store)) ∨
    (0 ≤ size.width ∧ 0 ≤ size.height) ∧
      (createInSegment size supplier store =
          .ok (.error (.segmentUnavailable size.packedBytes), store) ∨
        createInSegment size supplier store = .error .capacity ∨
        ∃ frame next, createInSegment size supplier store = .ok (.ok frame, next)) := by
  by_cases negative : size.width < 0 ∨ size.height < 0
  next => exact .inl ⟨negative, createInSegment_negative negative⟩
  next =>
    have proper : 0 ≤ size.width ∧ 0 ≤ size.height := by omega
    refine .inr ⟨proper, ?_⟩
    cases allowed : source.allows size.packedBytes with
    | false => exact .inl (createInSegment_refused proper known allowed)
    | true =>
      rcases Nat.lt_or_ge allocationLimit size.packedBytes with long | short
      next => exact .inr (.inl (createInSegment_overfull proper known allowed long))
      next =>
        obtain ⟨frame, next, made, _⟩ := createInSegment_fills proper known bounded allowed short
        exact .inr (.inr ⟨frame, next, made⟩)

theorem createInSegment_exact (bounded : size.Bounded)
    (known : store.suppliers[supplier]? = some source) :
    ((∃ next, createInSegment size supplier store = .ok (.error (.invalidSize size), next)) ↔
      size.width < 0 ∨ size.height < 0) ∧
    (0 ≤ size.width → 0 ≤ size.height →
      ((∃ limit ∈ source.limit, (limit : Int) < 4 * size.width * size.height) →
        createInSegment size supplier store =
          .ok (.error (.segmentUnavailable (4 * size.width * size.height).toNat), store)) ∧
      ((∀ limit ∈ source.limit, 4 * size.width * size.height ≤ (limit : Int)) →
        (allocationLimit : Int) < 4 * size.width * size.height →
          createInSegment size supplier store = .error .capacity) ∧
      ((∀ limit ∈ source.limit, 4 * size.width * size.height ≤ (limit : Int)) →
        4 * size.width * size.height ≤ (allocationLimit : Int) →
          ∃ frame next, createInSegment size supplier store = .ok (.ok frame, next) ∧
            frame.FillsSegment next size supplier store)) ∧
    ∀ refusal next, createInSegment size supplier store = .ok (.error refusal, next) →
      next.segmentsCreated supplier = store.segmentsCreated supplier := by
  have cases := createInSegment_cases bounded known
  refine ⟨⟨?_, fun negative => ⟨store, createInSegment_negative negative⟩⟩, ?_, ?_⟩
  next =>
    rintro ⟨next, refused⟩
    rw [refused] at cases
    simp only [Except.ok.injEq, Prod.mk.injEq, Except.error.injEq, reduceCtorEq, false_and,
      exists_false, or_false, and_false] at cases
    exact cases.1
  next =>
    intro across down
    have proper := And.intro across down
    rw [← Size.packedBytes_cast proper]
    simp only [Int.ofNat_lt, Int.ofNat_le, Int.toNat_natCast, ← Supplier.allows_iff]
    refine ⟨?_, createInSegment_overfull proper known, createInSegment_fills proper known bounded⟩
    rintro ⟨limit, some, less⟩
    refine createInSegment_refused proper known (Bool.eq_false_iff.mpr fun allowed => ?_)
    exact Nat.not_le.mpr less ((source.allows_iff _).mp allowed limit some)
  next =>
    intro refusal next refused
    rw [refused] at cases
    have unchanged : next = store := by
      rcases cases with ⟨_, same⟩ | ⟨_, same | stopped | ⟨_, _, made⟩⟩
      next => exact (Prod.mk.inj (Except.ok.inj same)).2
      next => exact (Prod.mk.inj (Except.ok.inj same)).2
      next => cases stopped
      next => cases made
    rw [unchanged]

def twoSuppliers : Store := ((Store.empty.addSupplier none).2.addSupplier (some 1024)).2

theorem createInSegment_unlimited :
    createInSegment ⟨2147483647, 2147483647⟩ 1 twoSuppliers =
      .ok (.error (.segmentUnavailable 18446744056529682436), twoSuppliers) ∧
    createInSegment ⟨2147483647, 2147483647⟩ 0 twoSuppliers = .error .capacity :=
  ⟨rfl, rfl⟩

theorem createInSegment_exact_twoByTwo :
    (Size.Bounded ⟨2, 2⟩ ∧ twoSuppliers.suppliers[1]? = some ⟨0, some 1024⟩) ∧
    ∃ frame next, createInSegment ⟨2, 2⟩ 1 twoSuppliers = .ok (.ok frame, next) ∧
      frame.FillsSegment next ⟨2, 2⟩ 1 twoSuppliers := by
  have bounded : Size.Bounded ⟨2, 2⟩ := by decide
  have known : twoSuppliers.suppliers[1]? = some ⟨0, some 1024⟩ := rfl
  obtain ⟨_, answers, _⟩ := createInSegment_exact bounded known
  exact ⟨⟨bounded, known⟩, (answers (by decide) (by decide)).2.2 (by decide) (by decide)⟩

end Frame

end ScreenCapture
