import ContentFilter.DataPathInvariant

/-! The debug checks of the data path never fire on any run. -/

namespace ContentFilter

/-- The calls of the data path, each on one direction. -/
inductive DataPathOp where
  | dataCommon (outgoing : Bool) (data : Chain)
  | dataFilter (outgoing : Bool) (k : Kcunit) (data : Chain)
  | dataServiceCtlQ (outgoing : Bool) (k : Kcunit)
  | servicePendingQueue (outgoing : Bool) (k : Kcunit)
  | updateDataOffsets (outgoing : Bool) (k : Kcunit) (passOffset peekOffset : Nat)
  | updateEntryOffsets (outgoing : Bool) (datalen : Nat)
  | serviceInjectQueue (outgoing : Bool)
  | flushQueues
  deriving DecidableEq, Repr

variable (env : Env)

def DataPathOp.apply : DataPathOp → FlowSt → FlowSt
  | .dataCommon d data, s => (cfilDataCommon env d data s).1
  | .dataFilter d k data, s => (cfilDataFilter env d k data s).1
  | .dataServiceCtlQ d k, s => (cfilDataServiceCtlQ env d k s).1
  | .servicePendingQueue d k, s => (cfilServicePendingQueue env d k s).1
  | .updateDataOffsets d k passOffset peekOffset, s => (cfilUpdateDataOffsets env d k passOffset peekOffset s).1
  | .updateEntryOffsets d datalen, s => cfilUpdateEntryOffsets d datalen s
  | .serviceInjectQueue d, s => (cfilServiceInjectQueue env d s).1
  | .flushQueues, s => cfilFlushQueues s

/-- The calls' preconditions, as their callers establish them: `cfil_data_common` and
`cfil_service_pending_queue` call `cfil_data_filter` only on a non-empty chain that the
pending window counts and no queue holds. -/
def DataPathOp.callable (s : FlowSt) : DataPathOp → Bool
  | .dataFilter d _ data =>
    decide (0 < dataLen data ∧ (s.ibuf d).cfiPendingFirst + held s d + dataLen data ≤ (s.ibuf d).cfiPendingLast)
  | _ => true

/-- The states of a flow under the data path's calls, from its creation on. A socket with
no other flow has no delayed death pending. -/
inductive DataPathReachable : FlowSt → Prop
  | attach {slots : FilterSlots} {filterControlUnit sockId : Nat} {so : SockSt}
      {flowControlled : Kcunit → Bool} {s : FlowSt} (undelayed : so.soflowDbDelayedDead = false)
      (created : cfilSockAttach env slots filterControlUnit sockId so flowControlled = some s) :
      DataPathReachable s
  | step {s : FlowSt} (op : DataPathOp) (callable : op.callable s = true) :
      DataPathReachable s → DataPathReachable (op.apply env s)

theorem cfilInfoAlloc_inv (sockId : Nat) (so : SockSt) (flowControlled : Kcunit → Bool) :
    FlowInv (cfilInfoAlloc sockId so flowControlled) := by
  have empty : ∀ k d, (cfilInfoAlloc sockId so flowControlled).ebuf k d = {} := fun _ d => by cases d <;> rfl
  have fresh : ∀ d, (cfilInfoAlloc sockId so flowControlled).ibuf d = {} := fun d => by cases d <;> rfl
  refine ⟨⟨fun k d => ?_, fun d => ?_, fun d => ?_, rfl⟩, fun d => ?_⟩
  · rw [empty]; exact ⟨.init, .init, rfl, le_rfl, le_rfl, le_rfl, le_rfl⟩
  · rw [fresh]; exact .init
  · rw [fresh]
  · simp [held, empty, fresh, CfeBuf.held, cfilQueueInit]

theorem attachUnit_kept (slots : FilterSlots) (filterControlUnit : Nat) (s : FlowSt) (inv : FlowInv s) :
    Kept s (cfilInfoAttachUnit slots filterControlUnit s).1 := by
  unfold cfilInfoAttachUnit
  refine List.foldlRecOn (motive := fun acc : FlowSt × Bool => Kept s acc.1) _ _ _ (.refl inv) ?_
  intro acc kept k _
  split
  · exact kept
  · split
    · exact kept
    · exact kept.trans (.of_bufs kept.inv (fun j d => attachEntry_ebuf _ _ _ _ _ _) (fun _ => rfl) rfl rfl)

theorem sockAttach_kept {slots : FilterSlots} {filterControlUnit sockId : Nat} {so : SockSt}
    {flowControlled : Kcunit → Bool} {s : FlowSt} (undelayed : so.soflowDbDelayedDead = false)
    (created : cfilSockAttach env slots filterControlUnit sockId so flowControlled = some s) :
    FlowInv s ∧ s.tailFlags = (false, false, false) := by
  have kept := sockAttach_of_steps env (Kept (cfilInfoAlloc sockId so flowControlled))
    (.refl (cfilInfoAlloc_inv sockId so flowControlled))
    (fun t _ _ _ kept => kept.trans (.of_bufs kept.inv (fun _ _ => attachEntry_ebuf _ _ _ _ _ _) (fun _ => rfl) rfl rfl))
    (fun _ _ events kept => kept.trans (.of_eventsOnly kept.inv events)) created
  refine ⟨kept.inv, kept.tailFlags.trans ?_⟩
  simp [FlowSt.tailFlags, FlowSt.delayedDead, FlowSt.delayedTcpTimeWait, cfilInfoAlloc, undelayed]

theorem DataPathOp.apply_kept (op : DataPathOp) (s : FlowSt) (callable : op.callable s = true) (inv : FlowInv s)
    (quiet : s.tailFlags = (false, false, false)) : Kept s (op.apply env s) := by
  cases op with
  | dataCommon d data => exact dataCommon_kept env d data s inv
  | dataFilter d k data =>
    simp only [DataPathOp.callable, decide_eq_true_eq] at callable
    have room : Room d s (dataLen data) := fun d' => by
      have := inv.accounted d'
      split
      · subst d'; omega
      · omega
    have filtered : Serviced d (if (cfilDataFilter env d k data s).2 = .ok then 0 else dataLen data) s
        (cfilDataFilter env d k data s).1 :=
      dataFilterWith_serviced env (downstream_good env _) k data s inv.struct callable.1
    have left := room.serviced d filtered
    refine ⟨left.flowInv d filtered.inv ?_, filtered.tailFlags⟩
    split <;> omega
  | dataServiceCtlQ d k => exact serviceCtlQ_kept env d k s inv
  | servicePendingQueue d k => exact servicePendingQueue_kept env d k s inv
  | updateDataOffsets d k passOffset peekOffset => exact (updateDataOffsets_kept env d k passOffset peekOffset s inv).1
  | updateEntryOffsets d datalen => exact .of_serviced inv (updateEntryOffsets_serviced d datalen s inv.struct)
  | serviceInjectQueue d => exact serviceInjectQueue_kept env d s inv quiet
  | flushQueues => exact flushQueues_kept s inv

theorem DataPathReachable.inv {s : FlowSt} (reach : DataPathReachable env s) :
    FlowInv s ∧ s.tailFlags = (false, false, false) := by
  induction reach with
  | attach undelayed created => exact sockAttach_kept env undelayed created
  | step op callable _ ih =>
    have kept := op.apply_kept env _ callable ih.1 ih.2
    exact ⟨kept.inv, kept.tailFlags.trans ih.2⟩

/-- A kernel with 256-byte mbufs, the 64-bit `CFM_MAX_OFFSET`, and every call succeeding. -/
def demoKernel : Env := Env.accepting 256 1024 2097152 (2 ^ 64 - 1) true

/-- One connected filter, on control unit 1, with NECP control unit 1. -/
def oneFilter : FilterSlots := fun k => if k = 0 then some (1, 1) else none

/-- A stream socket as `cfil_sock_attach` leaves it, with `oneFilter` attached. -/
def oneFilterFlow : FlowSt :=
  (cfilSockAttach demoKernel oneFilter 1 7 {} fun _ => false).getD (cfilInfoAlloc 7 {} fun _ => false)

/-- A chain of one mbuf holding one byte. -/
def oneByte (b : UInt8) : Chain := [⟨[b], 0⟩]

/-- That socket after its first outgoing byte. -/
def oneByteFlow : FlowSt := (DataPathOp.dataCommon true (oneByte 1)).apply demoKernel oneFilterFlow

end ContentFilter
