import ContentFilter.Chaining

/-! Every entry trails the pending window. -/

namespace ContentFilter

section Positions

variable {order : List Kcunit} {k j : Kcunit}

theorem successors_eq_drop (order : List Kcunit) (k : Kcunit) :
    successors order k = order.drop (order.indexOf k + 1) := by
  induction order with
  | nil => rfl
  | cons i rest ih =>
    by_cases same : i = k
    · subst same; simp
    · rw [successors_cons_of_ne rest same, ih, List.indexOf_cons_ne _ same]; rfl

theorem mem_take_indexOf : k ∈ order.take (order.indexOf j) ↔ order.indexOf k < order.indexOf j := by
  induction order with
  | nil => simp
  | cons i rest ih =>
    by_cases here : i = j
    · subst here; simp
    by_cases first : i = k
    · subst first; simp [List.indexOf_cons_ne _ here]
    · simp [List.indexOf_cons_ne _ here, List.indexOf_cons_ne _ first, ih, Ne.symm first]

theorem sum_map_of_eq_except {l : List Kcunit} (nodup : l.Nodup) {f g : Kcunit → Nat}
    (same : ∀ i, i ≠ k → g i = f i) :
    (l.map g).sum + (if k ∈ l then f k else 0) = (l.map f).sum + (if k ∈ l then g k else 0) := by
  induction l with
  | nil => simp
  | cons i rest ih =>
    rw [List.nodup_cons] at nodup
    by_cases here : i = k
    · subst here
      have kept : rest.map g = rest.map f :=
        List.map_congr_left fun j mem => same j fun eq => nodup.1 (eq ▸ mem)
      simp only [List.map_cons, List.sum_cons, kept, List.mem_cons, true_or, if_true]
      omega
    · have step := ih nodup.2
      simp only [List.map_cons, List.sum_cons, same i here, List.mem_cons, Ne.symm here, false_or]
      omega

end Positions

/-- The bytes the entries before `j` in `cfi_ordered_entries` hold in direction `d`, still
to pass them on their way to `j`. -/
def heldBefore (s : FlowSt) (d : Bool) (j : Kcunit) : Nat :=
  ((s.info.cfiOrderedEntries.take (s.info.cfiOrderedEntries.indexOf j)).map fun i => (s.ebuf i d).held).sum

/-- No attached entry's view of the stream in direction `d` runs past the pending window. -/
def Trailing (s : FlowSt) (d : Bool) (p inflight : Nat) : Prop :=
  ∀ j, (s.entry j).cfeFilter.isSome →
    (s.ebuf j d).cfeCtlQ.qEnd + heldBefore s d j +
      (if p ≤ s.info.cfiOrderedEntries.indexOf j then inflight else 0) ≤ (s.ibuf d).cfiPendingLast

section Steps

variable {s s' : FlowSt} {d : Bool} {p L : Nat}

theorem heldBefore_of_eq_except {k : Kcunit} (nodup : s.info.cfiOrderedEntries.Nodup)
    (ordered : s'.info.cfiOrderedEntries = s.info.cfiOrderedEntries)
    (same : ∀ i, i ≠ k → (s'.ebuf i d).held = (s.ebuf i d).held) (j : Kcunit) :
    heldBefore s' d j + (if s.info.cfiOrderedEntries.indexOf k < s.info.cfiOrderedEntries.indexOf j
      then (s.ebuf k d).held else 0) =
    heldBefore s d j + (if s.info.cfiOrderedEntries.indexOf k < s.info.cfiOrderedEntries.indexOf j
      then (s'.ebuf k d).held else 0) := by
  simp only [heldBefore, ordered, ← mem_take_indexOf]
  exact sum_map_of_eq_except (nodup.sublist (List.take_sublist _ _)) same

namespace Trailing

theorem mono {p' L' : Nat} (trailing : Trailing s d p L)
    (ordered : s'.info.cfiOrderedEntries = s.info.cfiOrderedEntries)
    (attached : ∀ j, (s'.entry j).cfeFilter.isSome → (s.entry j).cfeFilter.isSome)
    (qEnd : ∀ j, (s'.ebuf j d).cfeCtlQ.qEnd ≤ (s.ebuf j d).cfeCtlQ.qEnd)
    (held : ∀ i, (s'.ebuf i d).held ≤ (s.ebuf i d).held)
    (room : ∀ n, (if p' ≤ n then L' else 0) + (s.ibuf d).cfiPendingLast ≤
      (if p ≤ n then L else 0) + (s'.ibuf d).cfiPendingLast) : Trailing s' d p' L' := by
  intro j live
  have before : heldBefore s' d j ≤ heldBefore s d j := by
    unfold heldBefore
    rw [ordered]
    exact List.sum_le_sum fun i _ => held i
  have bound := trailing j (attached j live)
  have spare := room (s.info.cfiOrderedEntries.indexOf j)
  have seen := qEnd j
  rw [ordered]
  omega

theorem of_frame (trailing : Trailing s d p L) (ordered : s'.info.cfiOrderedEntries = s.info.cfiOrderedEntries)
    (attached : ∀ j, (s'.entry j).cfeFilter.isSome → (s.entry j).cfeFilter.isSome)
    (ebuf : ∀ j, (s'.ebuf j d).cfeCtlQ.qEnd = (s.ebuf j d).cfeCtlQ.qEnd ∧ (s'.ebuf j d).held = (s.ebuf j d).held)
    (last : (s'.ibuf d).cfiPendingLast = (s.ibuf d).cfiPendingLast) : Trailing s' d p L :=
  trailing.mono ordered attached (fun j => (ebuf j).1.le) (fun i => (ebuf i).2.le) fun _ => by rw [last]

theorem forget {p' : Nat} (trailing : Trailing s d p L) : Trailing s d p' 0 :=
  trailing.mono rfl (fun _ live => live) (fun _ => le_rfl) (fun _ => le_rfl) fun _ => by split <;> omega

theorem later {p' : Nat} (trailing : Trailing s d p L) (le : p ≤ p') : Trailing s d p' L :=
  trailing.mono rfl (fun _ live => live) (fun _ => le_rfl) (fun _ => le_rfl) fun _ => by split_ifs <;> omega

theorem of_eventsOnly (trailing : Trailing s d p L) (events : EventsOnly s s') : Trailing s' d p L :=
  trailing.of_frame events.ordered (fun j => by rw [events.cfeFilter]; exact id)
    (fun j => by rw [events.ebuf]; exact ⟨rfl, rfl⟩) (by rw [events.ibuf])

theorem verify (trailing : Trailing s d p L) (c : Bool) : Trailing (s.verify c) d p L :=
  trailing.of_frame (by simp) (fun _ => by simp) (fun _ => by simp) (by simp)

theorem verifyInfo (trailing : Trailing s d p L) : Trailing s.verifyInfo d p L :=
  trailing.of_frame (by simp) (fun _ => by simp) (fun _ => by simp) (by simp)

theorem change {k : Kcunit} {p' L' : Nat} (nodup : s.info.cfiOrderedEntries.Nodup) (trailing : Trailing s d p L)
    (ordered : s'.info.cfiOrderedEntries = s.info.cfiOrderedEntries)
    (attached : ∀ j, (s'.entry j).cfeFilter.isSome → (s.entry j).cfeFilter.isSome)
    (last : (s'.ibuf d).cfiPendingLast = (s.ibuf d).cfiPendingLast)
    (others : ∀ i, i ≠ k → s'.ebuf i d = s.ebuf i d)
    (own : (s'.ebuf k d).cfeCtlQ.qEnd + (if p' ≤ s.info.cfiOrderedEntries.indexOf k then L' else 0) ≤
      (s.ebuf k d).cfeCtlQ.qEnd + (if p ≤ s.info.cfiOrderedEntries.indexOf k then L else 0))
    (after : ∀ n, s.info.cfiOrderedEntries.indexOf k < n →
      (s'.ebuf k d).held + (if p' ≤ n then L' else 0) ≤ (s.ebuf k d).held + (if p ≤ n then L else 0))
    (before : ∀ n, n ≤ s.info.cfiOrderedEntries.indexOf k → (if p' ≤ n then L' else 0) ≤ if p ≤ n then L else 0) :
    Trailing s' d p' L' := by
  intro j live
  have bound := trailing j (attached j live)
  have moved := heldBefore_of_eq_except nodup ordered (fun i other => by rw [others i other]) j
  rw [ordered, last]
  by_cases self : j = k
  · subst self
    simp only [lt_irrefl, if_false, add_zero] at moved
    omega
  rw [others j self]
  by_cases later : s.info.cfiOrderedEntries.indexOf k < s.info.cfiOrderedEntries.indexOf j
  · have room := after _ later
    simp only [later, if_true] at moved
    omega
  · have room := before _ (Nat.le_of_not_lt later)
    simp only [later, if_false, add_zero] at moved
    omega

end Trailing

section Queues

variable (t : FlowSt) (k j : Kcunit) (d' : Bool) (m : Chain)

theorem ebuf_enqueueQ_ctl : (t.enqueueQ (.ctl k d) m).ebuf j d' =
    if j = k ∧ d' = d then { t.ebuf k d with cfeCtlQ := cfilQueueEnqueue (t.ebuf k d).cfeCtlQ m (dataLen m) }
    else t.ebuf j d' := by
  simp [FlowSt.enqueueQ, ebuf_setQueue_ctl, FlowSt.queue]

theorem ebuf_removeQ_pending : (t.removeQ (.pending k d) m).ebuf j d' =
    if j = k ∧ d' = d then { t.ebuf k d with cfePendingQ := cfilQueueRemove (t.ebuf k d).cfePendingQ (dataLen m) }
    else t.ebuf j d' := by
  simp [FlowSt.removeQ, ebuf_setQueue_pending, FlowSt.queue]

@[simp] theorem enqueueQ_cfiOrderedEntries (loc : QLoc) :
    (t.enqueueQ loc m).info.cfiOrderedEntries = t.info.cfiOrderedEntries := by
  simp [FlowSt.enqueueQ]

@[simp] theorem removeQ_cfiOrderedEntries (loc : QLoc) :
    (t.removeQ loc m).info.cfiOrderedEntries = t.info.cfiOrderedEntries := by
  simp [FlowSt.removeQ]

@[simp] theorem enqueueQ_cfeFilter (loc : QLoc) : ((t.enqueueQ loc m).entry k).cfeFilter = (t.entry k).cfeFilter := by
  simp [FlowSt.enqueueQ, cfeFilter_setQueue]

@[simp] theorem removeQ_cfeFilter (loc : QLoc) : ((t.removeQ loc m).entry k).cfeFilter = (t.entry k).cfeFilter := by
  simp [FlowSt.removeQ, cfeFilter_setQueue]

@[simp] theorem enqueueQ_ctl_pendingLast : ((t.enqueueQ (.ctl k d) m).ibuf d').cfiPendingLast = (t.ibuf d').cfiPendingLast := by
  simp [FlowSt.enqueueQ]

@[simp] theorem removeQ_pending_pendingLast :
    ((t.removeQ (.pending k d) m).ibuf d').cfiPendingLast = (t.ibuf d').cfiPendingLast := by
  simp [FlowSt.removeQ]

end Queues

theorem CfeBuf.held_enqueueCtl (b : CfeBuf) (m : Chain) :
    ({ b with cfeCtlQ := cfilQueueEnqueue b.cfeCtlQ m (dataLen m) } : CfeBuf).held = b.held + dataLen m := by
  simp [CfeBuf.held, CfilQueue.size, cfilQueueEnqueue]
  omega

theorem CfeBuf.held_removePending (b : CfeBuf) {m : Chain} (head : b.cfePendingQ.qMq.head? = some m) :
    ({ b with cfePendingQ := cfilQueueRemove b.cfePendingQ (dataLen m) } : CfeBuf).held + dataLen m = b.held := by
  obtain ⟨rest, queued⟩ := List.head?_eq_some_iff.mp head
  simp [CfeBuf.held, CfilQueue.size, cfilQueueRemove, queued]
  omega

namespace Trailing

variable {k : Kcunit} {data : Chain}

theorem enqueueCtl (nodup : s.info.cfiOrderedEntries.Nodup) (trailing : Trailing s d p (dataLen data))
    (credit : p ≤ s.info.cfiOrderedEntries.indexOf k) : Trailing (s.enqueueQ (.ctl k d) data) d 0 0 := by
  refine trailing.change (k := k) nodup (by simp) (fun j => by simp) (by simp)
    (fun i other => by rw [ebuf_enqueueQ_ctl, if_neg (by simp [other])]) ?_ (fun n later => ?_) (fun _ _ => by simp)
  · simp [ebuf_enqueueQ_ctl, cfilQueueEnqueue, credit]
  · simp only [ebuf_enqueueQ_ctl, and_self, if_true, CfeBuf.held_enqueueCtl, if_pos (credit.trans later.le),
      Nat.zero_le, ite_self]
    omega

theorem removePending (nodup : s.info.cfiOrderedEntries.Nodup) (trailing : Trailing s d p 0)
    (head : (s.ebuf k d).cfePendingQ.qMq.head? = some data) :
    Trailing (s.removeQ (.pending k d) data) d (s.info.cfiOrderedEntries.indexOf k + 1) (dataLen data) := by
  refine trailing.change (k := k) nodup (by simp) (fun j => by simp) (by simp)
    (fun i other => by rw [ebuf_removeQ_pending, if_neg (by simp [other])]) ?_ (fun n later => ?_) (fun n early => ?_)
  · simp [ebuf_removeQ_pending]
  · have moved := CfeBuf.held_removePending _ head
    simp only [ebuf_removeQ_pending, and_self, if_true, if_pos (Nat.succ_le_of_lt later), ite_self]
    omega
  · simp [Nat.not_le.mpr (Nat.lt_succ_of_le early)]

theorem moved (trailing : Trailing s d p L) (head : (s.ebuf k d).cfeCtlQ.qMq.head? = some data) :
    Trailing ((s.removeQ (.ctl k d) data).enqueueQ (.pending k d) data) d p L := by
  obtain ⟨rest, queued⟩ := List.head?_eq_some_iff.mp head
  refine trailing.of_frame (by simp) (fun j => by simp) (fun j => ?_) (by simp [FlowSt.enqueueQ, FlowSt.removeQ])
  simp only [FlowSt.enqueueQ, FlowSt.removeQ, verify_ebuf, ebuf_setQueue_pending, ebuf_setQueue_ctl, FlowSt.queue]
  by_cases here : j = k
  · subst here
    simp [CfeBuf.held, CfilQueue.size, cfilQueueRemove, cfilQueueEnqueue, queued]
    omega
  · simp [here]

theorem setPeeked (trailing : Trailing s d p L) (k : Kcunit) (d' : Bool) (peeked : Nat) :
    Trailing (s.setPeeked k d' peeked) d p L :=
  trailing.of_frame rfl (fun j => by simp [FlowSt.setPeeked]) (fun j => by
    simp only [FlowSt.setPeeked, ebuf_setEbuf_apply]
    split
    · next same => obtain ⟨rfl, rfl⟩ := same; exact ⟨rfl, rfl⟩
    · exact ⟨rfl, rfl⟩) rfl

theorem enqueueInject (trailing : Trailing s d p L) (d' : Bool) (m : Chain) :
    Trailing (s.enqueueQ (.inject d') m) d p L :=
  trailing.of_frame (by simp) (fun j => by simp) (fun j => by simp) (by
    simp only [FlowSt.enqueueQ, verify_ibuf, ibuf_setQueue_inject]
    split
    · next same => subst same; rfl
    · rfl)

theorem of_confined {rest : List Kcunit} {d' : Bool} (trailing : Trailing s d p L) (confined : Confined rest d' s s')
    (other : d ≠ d') : Trailing s' d p L :=
  trailing.of_frame confined.ordered (fun j => by rw [confined.cfeFilter]; exact id)
    (fun j => by rw [confined.ebuf j d fun _ => other]; exact ⟨rfl, rfl⟩) (confined.pendingLast d)

end Trailing

theorem ebuf_updateEntryOffsets (datalen : Nat) (t : FlowSt) (j : Kcunit) (d' : Bool) :
    (cfilUpdateEntryOffsets d datalen t).ebuf j d' =
      if (t.entry j).cfeFilter.isSome ∧ d' = d then (t.ebuf j d).skipData datalen else t.ebuf j d' := by
  rw [cfilUpdateEntryOffsets, verifyInfo_ebuf]
  simp only [FlowSt.ebuf, FlowSt.entry_mapEntries]
  split
  · next detached => simp [Option.isNone_iff_eq_none.mp detached]
  · next attached =>
    have live : (t.entry j).cfeFilter.isSome := by
      cases h : (t.info.cfiEntries j).cfeFilter <;> simp_all [FlowSt.entry]
    by_cases same : d' = d
    · subst same; simp [live]
    · simp [same, CfilEntry.buf_setBuf_of_ne d _ _ same]

@[simp] theorem updateEntryOffsets_cfiOrderedEntries (datalen : Nat) (t : FlowSt) :
    (cfilUpdateEntryOffsets d datalen t).info.cfiOrderedEntries = t.info.cfiOrderedEntries := by
  simp [cfilUpdateEntryOffsets, FlowSt.mapEntries]

@[simp] theorem updateEntryOffsets_cfeFilter (datalen : Nat) (t : FlowSt) (j : Kcunit) :
    ((cfilUpdateEntryOffsets d datalen t).entry j).cfeFilter = (t.entry j).cfeFilter := by
  simp only [cfilUpdateEntryOffsets, verifyInfo_entry, FlowSt.entry_mapEntries]
  split <;> simp

@[simp] theorem updateEntryOffsets_ibuf (datalen : Nat) (t : FlowSt) (d' : Bool) :
    (cfilUpdateEntryOffsets d datalen t).ibuf d' = t.ibuf d' := by
  rw [cfilUpdateEntryOffsets, verifyInfo_ibuf]
  cases d' <;> rfl

namespace Trailing

theorem skipData (trailing : Trailing s d 0 L) : Trailing (cfilUpdateEntryOffsets d L s) d 0 0 := by
  have held : ∀ i, ((cfilUpdateEntryOffsets d L s).ebuf i d).held = (s.ebuf i d).held := fun i => by
    rw [ebuf_updateEntryOffsets]
    split <;> simp [CfeBuf.held, CfeBuf.skipData, CfilQueue.size]
  have before : ∀ j, heldBefore (cfilUpdateEntryOffsets d L s) d j = heldBefore s d j := fun j => by
    simp only [heldBefore, updateEntryOffsets_cfiOrderedEntries, held]
  intro j live
  rw [updateEntryOffsets_cfeFilter] at live
  have bound := trailing j live
  rw [before, ebuf_updateEntryOffsets, if_pos ⟨live, rfl⟩, updateEntryOffsets_ibuf]
  simp only [zero_le, if_true] at bound
  simp only [CfeBuf.skipData, ite_self, add_zero]
  omega

theorem skipData_other {d' : Bool} (trailing : Trailing s d p L) (other : d ≠ d') (datalen : Nat) :
    Trailing (cfilUpdateEntryOffsets d' datalen s) d p L :=
  trailing.of_frame (by simp) (fun j => by simp) (fun j => by rw [ebuf_updateEntryOffsets, if_neg (by simp [other])]; simp)
    (by simp)

theorem enter (trailing : Trailing s d p 0) (env : Env) (data : Chain) :
    Trailing (pendingAdmit env d data s) d 0 (dataLen data) :=
  trailing.mono (by simp [pendingAdmit]) (fun j => by simp [pendingAdmit]) (fun j => by simp) (fun i => by simp)
    fun n => by rw [pendingAdmit_ibuf]; simp; omega

theorem enter_other {d' : Bool} (trailing : Trailing s d p L) (other : d ≠ d') (env : Env) (data : Chain) :
    Trailing (pendingAdmit env d' data s) d p L :=
  trailing.of_frame (by simp [pendingAdmit]) (fun j => by simp [pendingAdmit]) (fun j => by simp)
    (by simp [pendingAdmit, ibuf_setIbuf_apply, other])

end Trailing

end Steps

/-- The entries from position `p` of `order` on keep every entry trailing in direction
`d`, whether serviced in turn or handed a chain credited to them. -/
structure Downstream.Trails (ds : Downstream) (order : List Kcunit) (d : Bool) (p : Nat) : Prop where
  walk : ∀ s, s.info.cfiOrderedEntries = order → Trailing s d 0 0 → Trailing (ds.walk s).1 d 0 0
  forward : ∀ data s, s.info.cfiOrderedEntries = order → Trailing s d p (dataLen data) →
    Trailing (ds.forward data s).1 d 0 0

section Servicing

variable (env : Env) (d : Bool) {order : List Kcunit} (nodup : order.Nodup) {p L : Nat}

theorem passLoop_trails (k : Kcunit) (fuel : Nat) (s : FlowSt) (trailing : Trailing s d p L) :
    Trailing (passLoop d k fuel s) d p L :=
  passLoop_of_steps d k (fun t => Trailing t d p L) (fun _ c held => held.verify c)
    (fun _ peeked held => held.setPeeked k d peeked) (fun _ _ head held => held.moved head) fuel s trailing

theorem peekLoop_trails (k : Kcunit) (chains : List Chain) (currentoffset : Nat) (s : FlowSt)
    (trailing : Trailing s d p L) : Trailing (peekLoop env d k chains currentoffset s) d p L :=
  peekLoop_of_steps env d k (fun t => Trailing t d p L) (fun _ c held => held.verify c)
    (fun _ peeked held => held.setPeeked k d peeked)
    (fun t _ _ _ held => held.of_eventsOnly (EventsOnly.dataEvent env k d _ _ _ t)) chains currentoffset s trailing

variable {ds : Downstream} {rest : List Kcunit} (k : Kcunit) (trails : ds.Trails order d (order.indexOf k + 1))
  (confines : ds.Confines rest d)
include nodup trails confines

theorem pendingLoop_trails (passlen fuel curlen : Nat) (error : Errno) (s : FlowSt)
    (ordered : s.info.cfiOrderedEntries = order) (trailing : Trailing s d 0 0) :
    Trailing (pendingLoop d k ds passlen fuel curlen error s).1 d 0 0 :=
  (pendingLoop_of_steps d k ds passlen (fun t => t.info.cfiOrderedEntries = order ∧ Trailing t d 0 0)
    (fun data t => t.info.cfiOrderedEntries = order ∧ Trailing t d (order.indexOf k + 1) (dataLen data))
    (fun t data head ⟨same, held⟩ => ⟨by simp [same], by
      simpa [same] using held.removePending (same ▸ nodup) head⟩)
    (fun t data ⟨same, held⟩ => ⟨(confines.forward data t).ordered.trans same, trails.forward data t same held⟩)
    (fun t data ⟨same, held⟩ => ⟨by simp [same], held.enqueueInject d data⟩) fuel curlen error s
    ⟨ordered, trailing⟩).2

theorem servicePendingQueueWith_trails (s : FlowSt) (ordered : s.info.cfiOrderedEntries = order)
    (trailing : Trailing s d 0 0) : Trailing (cfilServicePendingQueueWith d k ds s).1 d 0 0 := by
  unfold cfilServicePendingQueueWith
  dsimp only
  split
  · exact (trails.walk s ordered trailing).verifyInfo
  · exact (pendingLoop_trails d nodup k trails confines _ _ _ _ s ordered trailing).verifyInfo

theorem serviceCtlQBody_trails (s : FlowSt) (ordered : s.info.cfiOrderedEntries = order)
    (trailing : Trailing s d 0 0) : Trailing (serviceCtlQBody env d k ds s).1 d 0 0 := by
  unfold serviceCtlQBody
  dsimp only
  have passed := (passLoop_trails d k (s.ebuf k d).cfeCtlQ.qMq.length s trailing).verifyInfo
  have passedOrder := ((passLoop_confined d k (s.ebuf k d).cfeCtlQ.qMq.length s).trans .verifyInfo).ordered.trans ordered
  generalize (passLoop d k (s.ebuf k d).cfeCtlQ.qMq.length s).verifyInfo = s₁ at passed passedOrder ⊢
  have peeked := (peekLoop_trails env d k (s₁.ebuf k d).cfeCtlQ.qMq (s₁.ebuf k d).cfeCtlQ.qStart s₁ passed).verifyInfo
  have peekedOrder := ((peekLoop_confined env d k (s₁.ebuf k d).cfeCtlQ.qMq (s₁.ebuf k d).cfeCtlQ.qStart s₁).trans
    .verifyInfo).ordered.trans passedOrder
  generalize (peekLoop env d k (s₁.ebuf k d).cfeCtlQ.qMq (s₁.ebuf k d).cfeCtlQ.qStart s₁).verifyInfo = s₂
    at peeked peekedOrder ⊢
  have pending := servicePendingQueueWith_trails d nodup k trails confines s₂ peekedOrder peeked
  generalize cfilServicePendingQueueWith d k ds s₂ = r at pending ⊢
  have tail := pending.of_eventsOnly (disconnectTail_events (d := d) env k r.1)
  split
  · exact pending.verifyInfo
  · exact tail.verifyInfo

theorem serviceCtlQWith_trails (s : FlowSt) (ordered : s.info.cfiOrderedEntries = order)
    (trailing : Trailing s d 0 0) : Trailing (cfilDataServiceCtlQWith env d k ds s).1 d 0 0 := by
  have attached := trailing.of_eventsOnly (EventsOnly.attachEvent env (some k) s)
  have attachedOrder := (EventsOnly.attachEvent env (some k) s).ordered.trans ordered
  unfold cfilDataServiceCtlQWith
  dsimp only
  by_cases sent : (s.entry k).cfeFlags.sentSockAttached = true
  · rw [if_neg (by simp [sent])]
    split
    · exact trailing.verifyInfo
    · exact serviceCtlQBody_trails env d nodup k trails confines s ordered trailing
  · rw [if_pos (by simp [sent])]
    split
    · exact attached.verifyInfo
    · exact serviceCtlQBody_trails env d nodup k trails confines _ attachedOrder attached

theorem dataFilterWith_trails (data : Chain) (s : FlowSt) (ordered : s.info.cfiOrderedEntries = order)
    (trailing : Trailing s d p (dataLen data)) (credit : p ≤ order.indexOf k) :
    Trailing (cfilDataFilterWith env d k ds data s).1 d 0 0 := by
  unfold cfilDataFilterWith
  split
  · exact trailing.forget.verifyInfo
  · exact (serviceCtlQWith_trails env d nodup k trails confines _ (by simp [ordered])
      (trailing.enqueueCtl (ordered ▸ nodup) (ordered ▸ credit))).verifyInfo

end Servicing

section Downstream

variable (env : Env) (d : Bool) {order : List Kcunit} (nodup : order.Nodup)
include nodup

theorem downstream_trails : ∀ (T : List Kcunit) (p : Nat), order.drop p = T → (downstream env d T).Trails order d p
  | [], _, _ => ⟨fun _ _ trailing => trailing, fun _ _ _ trailing => trailing.forget⟩
  | j :: rest, p, split => by
    have bound : p < order.length := by
      by_contra far
      simp [List.drop_eq_nil_of_le (Nat.le_of_not_lt far)] at split
    rw [List.drop_eq_getElem_cons bound, List.cons.injEq] at split
    have position : order.indexOf j = p := split.1 ▸ List.indexOf_getElem nodup p bound
    have inner := downstream_trails rest (p + 1) split.2
    have confines := downstream_confines env d rest
    have trails : (downstream env d rest).Trails order d (order.indexOf j + 1) := position ▸ inner
    refine ⟨fun s same trailing => ?_, fun data s same trailing => ?_⟩
    · have serviced := serviceCtlQWith_trails env d nodup j trails confines s same trailing
      have kept := (serviceCtlQWith_confined env d confines j s).ordered.trans same
      simp only [downstream]
      split
      · exact inner.walk _ kept serviced
      · exact serviced
    · simp only [downstream]
      by_cases attached : (s.entry j).cfeFilter.isSome
      · rw [if_neg (by simp [dataFilterWith_attached env d j _ data s attached])]
        exact dataFilterWith_trails env d nodup j trails confines data s same trailing position.ge
      · rw [dataFilterWith_detached env d j _ data s (by simpa using attached), if_pos rfl]
        exact inner.forward data _ (by simp [same]) (trailing.later (Nat.le_succ p)).verifyInfo

theorem dataServiceCtlQ_trails (k : Kcunit) (s : FlowSt) (ordered : s.info.cfiOrderedEntries = order)
    (trailing : Trailing s d 0 0) : Trailing (cfilDataServiceCtlQ env d k s).1 d 0 0 :=
  serviceCtlQWith_trails env d nodup k (downstream_trails env d nodup _ _ (by rw [ordered, successors_eq_drop]))
    (downstream_confines env d _) s ordered trailing

theorem dataFilter_trails (k : Kcunit) (data : Chain) (s : FlowSt) (ordered : s.info.cfiOrderedEntries = order)
    {p : Nat} (trailing : Trailing s d p (dataLen data)) (credit : p ≤ order.indexOf k) :
    Trailing (cfilDataFilter env d k data s).1 d 0 0 :=
  dataFilterWith_trails env d nodup k (downstream_trails env d nodup _ _ (by rw [ordered, successors_eq_drop]))
    (downstream_confines env d _) data s ordered trailing credit

end Downstream

end ContentFilter
