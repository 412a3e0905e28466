import ScreenCapture.Bytes

set_option autoImplicit false

namespace ScreenCapture

inductive Backing where
  | heap
  | segment (id : Int)
  | external
deriving DecidableEq, Repr

structure Buffer where
  backing : Backing
  bytes : Bytes

abbrev BufferId := Nat

abbrev GroupId := Nat

structure Supplier where
  created : Int
  limit : Option Nat

-- All pixel memory. A share group stands for one buffer that several handles reach; the store
-- counts its holders, which are handles and the groups wrapped around it.
structure Store where
  buffers : Array Buffer
  holders : Array Nat
  suppliers : Array Supplier

namespace Supplier

def allows (supplier : Supplier) (length : Nat) : Bool :=
  match supplier.limit with
  | none => true
  | some limit => length ≤ limit

-- The number is taken before the memory is.
def request? (supplier : Supplier) (length : Nat) : Checked (Option (Int × Supplier)) :=
  if !supplier.allows length then .ok none
  else if allocationLimit < length then .error .capacity
  else .ok (some (supplier.created, { supplier with created := lowHalf (supplier.created + 1) }))

end Supplier

namespace Store

def empty : Store := ⟨#[], #[], #[]⟩

def bytes (store : Store) (id : BufferId) : Bytes :=
  match store.buffers[id]? with
  | some buffer => buffer.bytes
  | none => #[]

def backing (store : Store) (id : BufferId) : Backing :=
  match store.buffers[id]? with
  | some buffer => buffer.backing
  | none => .heap

def addBuffer (store : Store) (backing : Backing) (bytes : Bytes) : BufferId × Store :=
  (store.buffers.size, { store with buffers := store.buffers.push ⟨backing, bytes⟩ })

def setBytes (store : Store) (id : BufferId) (bytes : Bytes) : Store :=
  { store with buffers := store.buffers.modify id fun buffer => { buffer with bytes } }

@[noinline] def takeBytes (store : Store) (id : BufferId) : Bytes × Store :=
  (store.bytes id, store.setBytes id #[])

-- The buffer is emptied meanwhile, so that the change can work in place.
def changeBytes (store : Store) (id : BufferId) (change : Bytes → Checked Bytes) : Checked Store := do
  let (bytes, store) := store.takeBytes id
  let bytes ← change bytes
  return store.setBytes id bytes

def holderCount (store : Store) (group : GroupId) : Nat := store.holders.getD group 0

def addGroup (store : Store) (holders : Nat) : GroupId × Store :=
  (store.holders.size, { store with holders := store.holders.push holders })

def join (store : Store) (group : GroupId) : Store :=
  { store with holders := store.holders.modify group (· + 1) }

def leave (store : Store) (group : GroupId) : Store :=
  { store with holders := store.holders.modify group (· - 1) }

-- The last holder of a group gives up the group's own hold on the next one.
def release (store : Store) (buffer : BufferId) : List GroupId → Store
  | [] => store.setBytes buffer #[]
  | group :: inner =>
      let store := store.leave group
      if store.holderCount group = 0 then release store buffer inner else store

def addSupplier (store : Store) (limit : Option Nat) : Nat × Store :=
  (store.suppliers.size, { store with suppliers := store.suppliers.push ⟨0, limit⟩ })

def segmentsCreated (store : Store) (supplier : Nat) : Int :=
  match store.suppliers[supplier]? with
  | some supplier => supplier.created
  | none => 0

def requestSegment (store : Store) (supplier length : Nat) : Checked (Option Int × Store) := do
  let some source := store.suppliers[supplier]? | return (none, store)
  match ← source.request? length with
  | none => return (none, store)
  | some (id, source) =>
      return (some id, { store with suppliers := store.suppliers.setIfInBounds supplier source })

theorem bytes_setBytes (store : Store) (id other : BufferId) (bytes : Bytes) :
    (store.setBytes id bytes).bytes other =
      if id = other ∧ other < store.buffers.size then bytes else store.bytes other := by
  simp only [Store.bytes, setBytes, Array.getElem?_modify]
  by_cases same : id = other
  next =>
    subst same
    by_cases within : id < store.buffers.size
    next => simp [within]
    next => simp [within]
  next => simp [same]

theorem bytes_addBuffer (store : Store) (backing : Backing) (bytes : Bytes) (id : BufferId)
    (old : id < store.buffers.size) :
    (store.addBuffer backing bytes).2.bytes id = store.bytes id := by
  simp [Store.bytes, addBuffer, Array.getElem?_push, Nat.ne_of_lt old]

theorem holderCount_join (store : Store) (group other : GroupId)
    (known : group < store.holders.size) :
    (store.join group).holderCount other =
      store.holderCount other + if group = other then 1 else 0 := by
  simp only [holderCount, join, Array.getD_eq_getD_getElem?, Array.getElem?_modify]
  by_cases same : group = other
  next =>
    subst same
    simp [known]
  next => simp [same]

theorem holderCount_leave (store : Store) (group other : GroupId) :
    (store.leave group).holderCount other =
      store.holderCount other - if group = other then 1 else 0 := by
  simp only [holderCount, leave, Array.getD_eq_getD_getElem?, Array.getElem?_modify]
  by_cases same : group = other
  next =>
    subst same
    cases store.holders[group]? <;> simp
  next => simp [same]

theorem holderCount_addGroup (store : Store) (holders : Nat) (group : GroupId) :
    (store.addGroup holders).2.holderCount group =
      if group = store.holders.size then holders else store.holderCount group := by
  simp only [holderCount, addGroup, Array.getD_eq_getD_getElem?, Array.getElem?_push]
  split <;> rfl

theorem setBytes_setBytes (store : Store) (id : BufferId) (bytes more : Bytes) :
    (store.setBytes id bytes).setBytes id more = store.setBytes id more := by
  simp only [setBytes, mk.injEq, and_true]
  apply Array.ext
  next => simp
  next =>
    intro index _ _
    simp only [Array.getElem_modify]
    split <;> rfl

@[simp] theorem size_buffers_setBytes (store : Store) (id : BufferId) (bytes : Bytes) :
    (store.setBytes id bytes).buffers.size = store.buffers.size := by
  simp [setBytes]

@[simp] theorem holders_setBytes (store : Store) (id : BufferId) (bytes : Bytes) :
    (store.setBytes id bytes).holders = store.holders := rfl

@[simp] theorem holderCount_setBytes (store : Store) (id : BufferId) (bytes : Bytes)
    (group : GroupId) : (store.setBytes id bytes).holderCount group = store.holderCount group :=
  rfl

end Store

end ScreenCapture
