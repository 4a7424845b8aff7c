import Mathlib.Logic.Function.Basic
import Mathlib.Algebra.BigOperators.Group.List
import Mathlib.Algebra.Order.Ring.Nat

/-! Mbuf chains and the offset-windowed `struct cfil_queue`; offsets are the source's 64-bit
stream offsets, kept as `Nat`. -/

namespace ContentFilter

/-- `MAX_CONTENT_FILTER`: the kernel control units agents connect on. -/
abbrev maxContentFilter : Nat := 8

/-- A control unit, kept as its index `kcunit - 1` into `cfi_entries` and
`content_filters`. -/
abbrev Kcunit := Fin maxContentFilter

/-- The errno values the content filter returns, or receives from the transport. -/
inductive Errno where
  | ok | ejustreturn | epipe | enobufs | enomem | einval | ebusy | enotconn | enoent | eaddrinuse
  | other (code : Nat)
  deriving DecidableEq, Repr

/-- One mbuf: its `m_len` data bytes, and its cluster size when `M_EXT` is set. -/
structure Mbuf where
  mData : List UInt8
  extSize : Nat := 0
  deriving DecidableEq, Repr

/-- An mbuf chain from its `M_PKTHDR` on. The address and control mbufs that
`sbconcat_mbufs` puts in front of a datagram are skipped by `cfil_data_start`, and
by every length the filter takes, so they are left out. -/
abbrev Chain := List Mbuf

/-- `m_length`: the bytes of a chain. -/
def dataLen (m : Chain) : Nat := (m.map fun mb => mb.mData.length).sum

/-- The data of a chain, in order. -/
def Chain.bytes (m : Chain) : List UInt8 := (m.map Mbuf.mData).flatten

/-- `cfil_data_length`: the bytes of a chain, its `sballoc` storage (`_MSIZE` per
mbuf and its cluster) and its mbuf count. -/
def cfilDataLength (msize : Nat) (m : Chain) : Nat × Nat × Nat :=
  (dataLen m, (m.map fun mb => msize + mb.extSize).sum, m.length)

@[simp] theorem dataLen_nil : dataLen [] = 0 := rfl

@[simp] theorem dataLen_cons (mb : Mbuf) (m : Chain) :
    dataLen (mb :: m) = mb.mData.length + dataLen m := by
  simp [dataLen]

theorem length_bytes (m : Chain) : m.bytes.length = dataLen m := by
  induction m with
  | nil => rfl
  | cons mb rest ih => simp [Chain.bytes, dataLen] at *; omega

@[simp] theorem cfilDataLength_fst (msize : Nat) (m : Chain) :
    (cfilDataLength msize m).1 = dataLen m := rfl

/-- `struct cfil_queue`: chains between two absolute offsets. -/
structure CfilQueue where
  qStart : Nat
  qEnd : Nat
  qMq : List Chain
  deriving DecidableEq, Repr

/-- The bytes the chains of a queue hold. -/
def CfilQueue.size (q : CfilQueue) : Nat := (q.qMq.map dataLen).sum

/-- The data of a queue, chain after chain. -/
def CfilQueue.bytes (q : CfilQueue) : List UInt8 := (q.qMq.map Chain.bytes).flatten

/-- `cfil_queue_init`, and the state `cfil_queue_drain` leaves. -/
def cfilQueueInit : CfilQueue := ⟨0, 0, []⟩

/-- `cfil_queue_empty`. -/
def cfilQueueEmpty (q : CfilQueue) : Bool := q.qMq.isEmpty

/-- `cfil_queue_len`. -/
def cfilQueueLen (q : CfilQueue) : Nat := q.qEnd - q.qStart

/-- `cfil_queue_enqueue`: append a chain, advancing `q_end` by the caller's length. -/
def cfilQueueEnqueue (q : CfilQueue) (m : Chain) (len : Nat) : CfilQueue :=
  { q with qMq := q.qMq ++ [m], qEnd := q.qEnd + len }

/-- `cfil_queue_remove` of the first chain (every caller removes the chain
`cfil_queue_first` gave it), advancing `q_start` by the caller's length. -/
def cfilQueueRemove (q : CfilQueue) (len : Nat) : CfilQueue :=
  { q with qMq := q.qMq.tail, qStart := q.qStart + len }

/-- The checks of `cfil_queue_verify`. The per-chain check that `m_length` equals the
summed `m_len` holds of every chain here, both being `dataLen`. -/
def cfilQueueVerify (q : CfilQueue) : Bool :=
  decide (q.qStart ≤ q.qEnd) && (q.qMq.isEmpty == (q.qStart == q.qEnd)) &&
    (q.size == q.qEnd - q.qStart)

@[simp] theorem size_nil (a b : Nat) : CfilQueue.size ⟨a, b, []⟩ = 0 := rfl

@[simp] theorem cfilQueueEnqueue_size (q : CfilQueue) (m : Chain) (len : Nat) :
    (cfilQueueEnqueue q m len).size = q.size + dataLen m := by
  simp [cfilQueueEnqueue, CfilQueue.size, List.sum_append]

@[simp] theorem cfilQueueEnqueue_bytes (q : CfilQueue) (m : Chain) (len : Nat) :
    (cfilQueueEnqueue q m len).bytes = q.bytes ++ m.bytes := by
  simp [cfilQueueEnqueue, CfilQueue.bytes]

theorem size_of_cons {q : CfilQueue} {m : Chain} {rest : List Chain} (head : q.qMq = m :: rest) :
    q.size = dataLen m + (cfilQueueRemove q (dataLen m)).size := by
  simp [CfilQueue.size, cfilQueueRemove, head]

theorem bytes_of_cons {q : CfilQueue} {m : Chain} {rest : List Chain} (head : q.qMq = m :: rest) :
    q.bytes = m.bytes ++ (cfilQueueRemove q (dataLen m)).bytes := by
  simp [CfilQueue.bytes, cfilQueueRemove, head]

/-- A well-formed queue: its offsets span exactly the bytes of its chains, and no
chain is empty (`cfil_data_common` never queues an empty one). -/
structure CfilQueue.Valid (q : CfilQueue) : Prop where
  spans : q.qStart + q.size = q.qEnd
  nonempty : ∀ m ∈ q.qMq, 0 < dataLen m

namespace CfilQueue.Valid

variable {q : CfilQueue}

theorem ordered (valid : q.Valid) : q.qStart ≤ q.qEnd := by
  have := valid.spans; omega

theorem size_eq (valid : q.Valid) : q.size = q.qEnd - q.qStart := by
  have := valid.spans; omega

theorem empty_iff (valid : q.Valid) : q.qMq = [] ↔ q.qStart = q.qEnd := by
  constructor
  · intro empty
    have := valid.spans
    simp [CfilQueue.size, empty] at this
    omega
  · intro same
    cases chains : q.qMq with
    | nil => rfl
    | cons m rest =>
      have positive := valid.nonempty m (by simp [chains])
      have := valid.spans
      simp [CfilQueue.size, chains] at this
      omega

theorem verify (valid : q.Valid) : cfilQueueVerify q = true := by
  have iff := valid.empty_iff
  simp only [cfilQueueVerify, Bool.and_eq_true, decide_eq_true_eq, valid.ordered, true_and,
    beq_iff_eq, valid.size_eq, and_true]
  cases chains : q.qMq with
  | nil => simpa [chains] using iff
  | cons m rest => simpa [chains] using fun same => iff.mpr same

theorem init : cfilQueueInit.Valid := ⟨rfl, by simp [cfilQueueInit]⟩

theorem enqueue (valid : q.Valid) {m : Chain} (positive : 0 < dataLen m) :
    (cfilQueueEnqueue q m (dataLen m)).Valid := by
  refine ⟨?_, ?_⟩
  · have := valid.spans
    simp only [cfilQueueEnqueue_size]
    simp only [cfilQueueEnqueue]
    omega
  · intro m' member
    simp only [cfilQueueEnqueue, List.mem_append, List.mem_singleton] at member
    rcases member with old | rfl
    · exact valid.nonempty m' old
    · exact positive

theorem remove (valid : q.Valid) {m : Chain} {rest : List Chain} (head : q.qMq = m :: rest) :
    (cfilQueueRemove q (dataLen m)).Valid := by
  refine ⟨?_, ?_⟩
  · have := valid.spans
    rw [size_of_cons head] at this
    simp only [cfilQueueRemove] at *
    omega
  · intro m' member
    simp only [cfilQueueRemove, head, List.tail_cons] at member
    exact valid.nonempty m' (by simp [head, member])

theorem shift (valid : q.Valid) (n : Nat) :
    ({ q with qStart := q.qStart + n, qEnd := q.qEnd + n } : CfilQueue).Valid := by
  refine ⟨?_, valid.nonempty⟩
  have := valid.spans
  simp only [CfilQueue.size] at *
  omega

end CfilQueue.Valid

end ContentFilter
