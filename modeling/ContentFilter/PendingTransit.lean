import ContentFilter.Chaining

/-! The pending queue is a transit stop: between two calls no pending queue holds a chain. -/

namespace ContentFilter

/-- No entry holds a chain in its pending queue, either way. -/
def PendingClear (s : FlowSt) : Prop := ∀ k d, (s.ebuf k d).cfePendingQ.qMq = []

section Drain

variable (d : Bool) (k : Kcunit)

theorem pendingQ_removeQ (t : FlowSt) (m : Chain) :
    ((t.removeQ (.pending k d) m).ebuf k d).cfePendingQ = cfilQueueRemove (t.ebuf k d).cfePendingQ (dataLen m) := by
  simp [FlowSt.removeQ, ebuf_setQueue_pending, FlowSt.queue]

variable {ds : Downstream} {L : List Kcunit} (confines : ds.Confines L d) (outside : k ∉ L) (passlen : Nat)
include confines outside

theorem pendingLoop_drains : ∀ fuel curlen error (s : FlowSt), (s.ebuf k d).cfePendingQ.Valid →
    (s.ebuf k d).cfePendingQ.qMq.length ≤ fuel → curlen + (s.ebuf k d).cfePendingQ.size ≤ passlen →
    ((pendingLoop d k ds passlen fuel curlen error s).1.ebuf k d).cfePendingQ.qMq = []
  | 0, _, _, _, _, short, _ => List.length_eq_zero.mp (Nat.le_zero.mp short)
  | fuel + 1, curlen, error, s, valid, short, fits => by
    have spared : ∀ m t, (ds.forward m t).1.ebuf k d = t.ebuf k d :=
      fun m t => (confines.forward m t).ebuf k d fun mem => absurd mem outside
    unfold pendingLoop
    split
    · assumption
    · next data rest queued =>
      have whole := size_of_cons queued
      dsimp only
      rw [if_neg (by omega)]
      have left : ∀ t : FlowSt, t.ebuf k d = (s.removeQ (.pending k d) data).ebuf k d →
          ∀ e, ((pendingLoop d k ds passlen fuel (curlen + dataLen data) e t).1.ebuf k d).cfePendingQ.qMq = [] :=
        fun t same e => pendingLoop_drains fuel _ e t (by rw [same, pendingQ_removeQ]; exact valid.remove queued)
          (by simp [same, pendingQ_removeQ, cfilQueueRemove, queued] at short ⊢; omega)
          (by rw [same, pendingQ_removeQ]; omega)
      split
      · exact left _ (by simp [spared]) _
      · exact left _ (spared _ _) _

theorem servicePendingQueueWith_drains (s : FlowSt) (entry : EntryBufInv (s.ebuf k d)) :
    ((cfilServicePendingQueueWith d k ds s).1.ebuf k d).cfePendingQ.qMq = [] := by
  unfold cfilServicePendingQueueWith
  dsimp only
  rw [verifyInfo_ebuf]
  split
  · next empty =>
    rw [(confines.walk s).ebuf k d fun mem => absurd mem outside]
    simpa using empty
  · have fits := entry.pending.size_eq
    have := entry.adjacent
    have := entry.passFrom
    have := entry.pending.ordered
    exact pendingLoop_drains d k confines outside _ _ 0 .ok s entry.pending le_rfl (by omega)

theorem serviceCtlQBody_drains (env : Env) (s : FlowSt) (shaped : Shaped s) :
    ((serviceCtlQBody env d k ds s).1.ebuf k d).cfePendingQ.qMq = [] := by
  unfold serviceCtlQBody
  dsimp only
  have passed := passLoop_moves d k (s.ebuf k d).cfeCtlQ.qMq.length s shaped
  generalize passLoop d k (s.ebuf k d).cfeCtlQ.qMq.length s = s₁ at passed ⊢
  have peeked := peekLoop_moves env d k (s₁.ebuf k d).cfeCtlQ.qMq _ _ passed.shaped
    (passed.shaped.entries k d).peekedFrom
  rw [passed.shaped.verifyInfo_eq]
  generalize peekLoop env d k (s₁.ebuf k d).cfeCtlQ.qMq (s₁.ebuf k d).cfeCtlQ.qStart s₁ = s₂ at peeked ⊢
  have drained := servicePendingQueueWith_drains d k confines outside s₂.verifyInfo
    (by rw [verifyInfo_ebuf]; exact peeked.shaped.entries k d)
  generalize cfilServicePendingQueueWith d k ds s₂.verifyInfo = r at drained ⊢
  have tail := disconnectTail_events (d := d) env k r.1
  split
  · rwa [verifyInfo_ebuf]
  · rw [verifyInfo_ebuf, tail.ebuf]; exact drained

end Drain

/-- The entries `L` leave their pending queues in direction `d` empty if they were. -/
structure Downstream.Clears (ds : Downstream) (L : List Kcunit) (d : Bool) : Prop where
  walk : ∀ s, Shaped s → (∀ j ∈ L, (s.ebuf j d).cfePendingQ.qMq = []) →
    ∀ j ∈ L, ((ds.walk s).1.ebuf j d).cfePendingQ.qMq = []
  forward : ∀ m s, Shaped s → 0 < dataLen m → (∀ j ∈ L, (s.ebuf j d).cfePendingQ.qMq = []) →
    ∀ j ∈ L, ((ds.forward m s).1.ebuf j d).cfePendingQ.qMq = []

section Clearing

variable (env : Env) (d : Bool) (k : Kcunit) {ds : Downstream} {L : List Kcunit}
  (good : ds.Good d) (confines : ds.Confines L d) (clears : ds.Clears L d) (outside : k ∉ L)

include outside in
theorem ebuf_of_confined {s s' : FlowSt} (step : Confined [k] d s s') {j : Kcunit} (mem : j ∈ L) :
    s'.ebuf j d = s.ebuf j d :=
  step.ebuf j d fun own => absurd (List.mem_singleton.mp own ▸ mem) outside

include good clears outside in
theorem pendingLoop_clears (passlen : Nat) : ∀ fuel curlen error (s : FlowSt), Shaped s →
    (∀ j ∈ L, (s.ebuf j d).cfePendingQ.qMq = []) →
    ∀ j ∈ L, ((pendingLoop d k ds passlen fuel curlen error s).1.ebuf j d).cfePendingQ.qMq = []
  | 0, _, _, _, _, clear => clear
  | fuel + 1, curlen, error, s, shaped, clear => by
    unfold pendingLoop
    dsimp only
    split
    · exact clear
    · next data rest head =>
      have positive := (shaped.entries k d).pending.nonempty data (by simp [head])
      have removed := Moves.pendingRemove shaped k head
      have left : ∀ j ∈ L, ((s.removeQ (.pending k d) data).ebuf j d).cfePendingQ.qMq = [] := fun j mem => by
        rw [ebuf_of_confined d k outside (Confined.removeQ_pending (List.mem_singleton_self k) data) mem]
        exact clear j mem
      have sent := good.forward data _ removed.shaped positive
      have taken := clears.forward data _ removed.shaped positive left
      split
      · exact clear
      · split
        · next passed =>
          rw [if_pos passed] at sent
          have injected := Moves.injectEnqueue (d := d) sent.shaped positive
          exact pendingLoop_clears passlen fuel _ _ _ injected.shaped fun j mem => by
            simpa using taken j mem
        · next held =>
          rw [if_neg held] at sent
          exact pendingLoop_clears passlen fuel _ _ _ sent.shaped taken

include good confines clears outside

theorem servicePendingQueueWith_clears (s : FlowSt) (shaped : Shaped s)
    (clear : ∀ j ∈ L, (s.ebuf j d).cfePendingQ.qMq = []) :
    ∀ j ∈ k :: L, ((cfilServicePendingQueueWith d k ds s).1.ebuf j d).cfePendingQ.qMq = [] := by
  intro j mem
  rcases List.mem_cons.mp mem with rfl | mem
  · exact servicePendingQueueWith_drains d j confines outside s (shaped.entries j d)
  unfold cfilServicePendingQueueWith
  dsimp only
  rw [verifyInfo_ebuf]
  split
  · exact clears.walk s shaped clear j mem
  · exact pendingLoop_clears d k good clears outside _ _ _ _ s shaped clear j mem

theorem serviceCtlQBody_clears (s : FlowSt) (shaped : Shaped s) (clear : ∀ j ∈ L, (s.ebuf j d).cfePendingQ.qMq = []) :
    ∀ j ∈ k :: L, ((serviceCtlQBody env d k ds s).1.ebuf j d).cfePendingQ.qMq = [] := by
  unfold serviceCtlQBody
  dsimp only
  have passed := passLoop_moves d k (s.ebuf k d).cfeCtlQ.qMq.length s shaped
  have passedOwn := passLoop_confined d k (s.ebuf k d).cfeCtlQ.qMq.length s
  generalize passLoop d k (s.ebuf k d).cfeCtlQ.qMq.length s = s₁ at passed passedOwn ⊢
  have peeked := peekLoop_moves env d k (s₁.ebuf k d).cfeCtlQ.qMq _ _ passed.shaped
    (passed.shaped.entries k d).peekedFrom
  have peekedOwn := peekLoop_confined env d k (s₁.ebuf k d).cfeCtlQ.qMq (s₁.ebuf k d).cfeCtlQ.qStart s₁
  rw [passed.shaped.verifyInfo_eq]
  generalize peekLoop env d k (s₁.ebuf k d).cfeCtlQ.qMq (s₁.ebuf k d).cfeCtlQ.qStart s₁ = s₂ at peeked peekedOwn ⊢
  have cleared := servicePendingQueueWith_clears d k good confines clears outside s₂.verifyInfo
    (by rw [peeked.shaped.verifyInfo_eq]; exact peeked.shaped) fun j mem => by
      rw [verifyInfo_ebuf, ebuf_of_confined d k outside (passedOwn.trans peekedOwn) mem]
      exact clear j mem
  generalize cfilServicePendingQueueWith d k ds s₂.verifyInfo = r at cleared ⊢
  have tail := disconnectTail_events (d := d) env k r.1
  intro j mem
  split
  · rw [verifyInfo_ebuf]; exact cleared j mem
  · rw [verifyInfo_ebuf, tail.ebuf]; exact cleared j mem

theorem serviceCtlQWith_clears (s : FlowSt) (shaped : Shaped s)
    (clear : ∀ j ∈ k :: L, (s.ebuf j d).cfePendingQ.qMq = []) :
    ∀ j ∈ k :: L, ((cfilDataServiceCtlQWith env d k ds s).1.ebuf j d).cfePendingQ.qMq = [] := by
  have later : ∀ j ∈ L, (s.ebuf j d).cfePendingQ.qMq = [] := fun j mem => clear j (.tail k mem)
  have attached := EventsOnly.attachEvent env (some k) s
  have serviced := serviceCtlQBody_clears env d k good confines clears outside _
    (Moves.of_eventsOnly (d := d) shaped attached).shaped fun j mem => by rw [attached.ebuf]; exact later j mem
  unfold cfilDataServiceCtlQWith
  dsimp only
  intro j mem
  by_cases sent : (s.entry k).cfeFlags.sentSockAttached = true
  · rw [if_neg (by simp [sent])]
    split
    · rw [verifyInfo_ebuf]; exact clear j mem
    · exact serviceCtlQBody_clears env d k good confines clears outside s shaped later j mem
  · rw [if_pos (by simp [sent])]
    split
    · rw [verifyInfo_ebuf, attached.ebuf]; exact clear j mem
    · exact serviced j mem

theorem dataFilterWith_clears (data : Chain) (s : FlowSt) (shaped : Shaped s) (positive : 0 < dataLen data)
    (clear : ∀ j ∈ k :: L, (s.ebuf j d).cfePendingQ.qMq = []) :
    ∀ j ∈ k :: L, ((cfilDataFilterWith env d k ds data s).1.ebuf j d).cfePendingQ.qMq = [] := by
  intro j mem
  unfold cfilDataFilterWith
  split
  · rw [verifyInfo_ebuf]; exact clear j mem
  · dsimp only
    rw [verifyInfo_ebuf]
    refine serviceCtlQWith_clears env d k good confines clears outside _ (Moves.ctlEnqueue shaped k positive).shaped
      (fun j mem => ?_) j mem
    by_cases same : j = k
    · subst same; simpa [FlowSt.enqueueQ, ebuf_setQueue_ctl, FlowSt.queue] using clear j mem
    · simpa [FlowSt.enqueueQ, ebuf_setQueue_ctl, same] using clear j mem

end Clearing

theorem downstream_clears (env : Env) (d : Bool) :
    ∀ order : List Kcunit, order.Nodup → (downstream env d order).Clears order d
  | [], _ => ⟨fun _ _ clear => clear, fun _ _ _ _ clear => clear⟩
  | j :: rest, nodup => by
    have inner := downstream_clears env d rest (List.nodup_cons.mp nodup).2
    have outside := (List.nodup_cons.mp nodup).1
    have good := downstream_good (d := d) env rest
    have confines := downstream_confines env d rest
    have spared : ∀ {t t' : FlowSt}, Confined rest d t t' → t'.ebuf j d = t.ebuf j d :=
      fun step => step.ebuf j d fun mem => absurd mem outside
    refine ⟨fun s shaped clear => ?_, fun data s shaped positive clear => ?_⟩
    · have serviced := serviceCtlQWith_clears env d j good confines inner outside s shaped clear
      have moved := serviceCtlQWith_moves env good j s shaped
      simp only [downstream]
      split
      · intro i mem
        rcases List.mem_cons.mp mem with rfl | mem
        · rw [spared (confines.walk _)]; exact serviced i (.head _)
        · exact inner.walk _ moved.shaped (fun i mem => serviced i (.tail j mem)) i mem
      · exact serviced
    · have filtered := dataFilterWith_clears env d j good confines inner outside data s shaped positive clear
      have moved := dataFilterWith_moves env good j data s shaped positive
      simp only [downstream]
      split
      · next passed =>
        rw [if_pos passed] at moved
        intro i mem
        rcases List.mem_cons.mp mem with rfl | mem
        · rw [spared (confines.forward _ _)]; exact filtered i (.head _)
        · exact inner.forward data _ moved.shaped positive (fun i mem => filtered i (.tail j mem)) i mem
      · exact filtered

namespace PendingClear

variable {s s' : FlowSt}

theorem of_confined {L : List Kcunit} {d : Bool} (clear : PendingClear s) (confined : Confined L d s s')
    (cleared : ∀ j ∈ L, (s'.ebuf j d).cfePendingQ.qMq = []) : PendingClear s' := fun j d' => by
  by_cases inside : j ∈ L ∧ d' = d
  · obtain ⟨mem, rfl⟩ := inside
    exact cleared j mem
  · rw [confined.ebuf j d' fun mem same => inside ⟨mem, same⟩]
    exact clear j d'

theorem of_entriesKept (clear : PendingClear s) (kept : EntriesKept s s') : PendingClear s' := fun j d => by
  rw [kept.ebuf]
  exact clear j d

theorem of_eventsOnly (clear : PendingClear s) (events : EventsOnly s s') : PendingClear s' :=
  clear.of_entriesKept (.of_events events)

theorem verify (clear : PendingClear s) (c : Bool) : PendingClear (s.verify c) := fun j d => by
  simpa using clear j d

theorem flushQueues (s : FlowSt) : PendingClear (cfilFlushQueues s) := fun j d => by
  rw [flushQueues_ebuf]
  rfl

end PendingClear

section Calls

variable (env : Env) (d : Bool)

theorem dataServiceCtlQ_clear (k : Kcunit) (s : FlowSt) (shaped : Shaped s) (nodup : s.info.cfiOrderedEntries.Nodup)
    (clear : PendingClear s) : PendingClear (cfilDataServiceCtlQ env d k s).1 :=
  clear.of_confined (serviceCtlQWith_confined env d (downstream_confines env d _) k s)
    (serviceCtlQWith_clears env d k (downstream_good env _) (downstream_confines env d _)
      (downstream_clears env d _ (nodup.sublist successors_sublist)) (not_mem_successors_self nodup) s shaped
      fun j _ => clear j d)

theorem dataFilter_clear (k : Kcunit) (data : Chain) (s : FlowSt) (shaped : Shaped s) (positive : 0 < dataLen data)
    (nodup : s.info.cfiOrderedEntries.Nodup) (clear : PendingClear s) : PendingClear (cfilDataFilter env d k data s).1 :=
  clear.of_confined (dataFilterWith_confined env d (downstream_confines env d _) k data s)
    (dataFilterWith_clears env d k (downstream_good env _) (downstream_confines env d _)
      (downstream_clears env d _ (nodup.sublist successors_sublist)) (not_mem_successors_self nodup) data s shaped
      positive fun j _ => clear j d)

theorem updateEntryOffsets_pending (datalen : Nat) (s : FlowSt) (j : Kcunit) (d' : Bool) :
    ((cfilUpdateEntryOffsets d datalen s).ebuf j d').cfePendingQ.qMq = (s.ebuf j d').cfePendingQ.qMq := by
  rw [cfilUpdateEntryOffsets, verifyInfo_ebuf]
  simp only [FlowSt.ebuf, FlowSt.entry_mapEntries]
  split
  · rfl
  · cases d <;> cases d' <;> simp [CfilEntry.setBuf, CfilEntry.buf, CfeBuf.skipData]

theorem dataCommon_clear (data : Chain) (s : FlowSt) (shaped : Shaped s) (nodup : s.info.cfiOrderedEntries.Nodup)
    (clear : PendingClear s) : PendingClear (cfilDataCommon env d data s).1 :=
  dataCommon_of_steps env d data (fun t => Shaped t ∧ t.info.cfiOrderedEntries.Nodup ∧ PendingClear t) PendingClear
    clear (fun _ => ⟨shaped.enter, by simpa [pendingAdmit] using nodup, fun j d' => by simpa [pendingAdmit] using clear j d'⟩)
    (fun _ held => held.2.2) (fun _ c clear => clear.verify c)
    (fun _ c ⟨shaped, nodup, clear⟩ => ⟨shaped.verify c, by simpa using nodup, clear.verify c⟩)
    (fun _ _ _ _ _ clear j d' => by simpa using clear j d')
    (fun t held j d' => (updateEntryOffsets_pending d _ t j d').trans (held.2.2 j d'))
    (fun _ ⟨shaped, nodup, clear⟩ => ⟨shaped.of_bufs (fun _ _ => rfl) (fun _ => rfl), nodup, clear⟩)
    (fun positive k t _ ⟨shaped, nodup, clear⟩ => dataFilter_clear env d k data t shaped positive nodup clear)

theorem updateDataOffsets_clear (k : Kcunit) (passOffset peekOffset : Nat) (s : FlowSt) (shaped : Shaped s)
    (nodup : s.info.cfiOrderedEntries.Nodup) (clear : PendingClear s) :
    PendingClear (cfilUpdateDataOffsets env d k passOffset peekOffset s).1 := by
  by_cases drop : s.info.cfiFlags.drop
  · simpa [cfilUpdateDataOffsets, drop] using clear.verify (cfilInfoVerify s.info)
  have raised := (shaped.entries k d).raiseOffsets passOffset peekOffset
  have same : ((s.ebuf k d).raiseOffsets passOffset peekOffset).1.chains = (s.ebuf k d).chains := by
    simp [CfeBuf.chains]
  have kept : PendingClear (s.setEbuf k d ((s.ebuf k d).raiseOffsets passOffset peekOffset).1) := fun j d' => by
    rw [ebuf_setEbuf_apply]
    split
    · next here => obtain ⟨rfl, rfl⟩ := here; simpa using clear j d'
    · exact clear j d'
  simp only [cfilUpdateDataOffsets, drop, if_false, Bool.false_eq_true]
  rcases hb : (s.ebuf k d).raiseOffsets passOffset peekOffset with ⟨b, updated⟩
  rw [hb] at raised same kept
  have recorded : Shaped (s.setEbuf k d b) := (Moves.setEbuf_keeping (d := d) shaped k b raised.1 same).shaped
  have serviced : PendingClear (if !updated then (s.setEbuf k d b, Errno.ok) else
      let r := cfilDataServiceCtlQ env d k (s.setEbuf k d b)
      if r.2 ≠ .ok then r else (r.1, .ejustreturn)).1 := by
    have cleared := dataServiceCtlQ_clear env d k _ recorded (by simpa using nodup) kept
    cases updated
    · exact kept
    · simp only [Bool.not_true, Bool.false_eq_true, if_false]
      split <;> exact cleared
  generalize (if !updated then (s.setEbuf k d b, Errno.ok) else
      let r := cfilDataServiceCtlQ env d k (s.setEbuf k d b)
      if r.2 ≠ .ok then r else (r.1, .ejustreturn)) = r at serviced ⊢
  split
  · exact ((serviced.of_eventsOnly (EventsOnly.setEflags _ _ _)).of_eventsOnly (wakeCloseWait_events _)).verify _
  · exact serviced.verify _

theorem actionDataPass_clear (k : Kcunit) (passOffset peekOffset : Nat) (s : FlowSt) (shaped : Shaped s)
    (nodup : s.info.cfiOrderedEntries.Nodup) (clear : PendingClear s) :
    PendingClear (cfilActionDataPass env d k passOffset peekOffset s).1 := by
  unfold cfilActionDataPass
  split
  · exact clear.verify _
  have updated := updateDataOffsets_clear env d k passOffset peekOffset s shaped nodup clear
  generalize cfilUpdateDataOffsets env d k passOffset peekOffset s = r at updated ⊢
  exact ((updated.of_entriesKept (serviceInjectQueue_entriesKept env d r.1)).of_entriesKept
    (.of_entries fun j => setSocketPassOffset_entry d _ j)).verify _

end Calls

/-- What each call on a flow keeps, and what keeps its pending queues empty: the
accounting, with the representation invariant in it, a chain without repeats, and no
chain in a pending queue. -/
structure Transit (msize : Nat) (s : FlowSt) : Prop where
  acc : Accounted msize s
  nodup : s.info.cfiOrderedEntries.Nodup
  clear : PendingClear s

namespace Transit

variable {msize : Nat} {s s' : FlowSt}

theorem of_bufs (transit : Transit msize s) (ebuf : ∀ k d, s'.ebuf k d = s.ebuf k d)
    (ibuf : ∀ d, s'.ibuf d = s.ibuf d) (ordered : s'.info.cfiOrderedEntries = s.info.cfiOrderedEntries) :
    Transit msize s' :=
  ⟨transit.acc.of_bufs ebuf ibuf, ordered ▸ transit.nodup, fun k d => by rw [ebuf]; exact transit.clear k d⟩

theorem of_eventsOnly (transit : Transit msize s) (events : EventsOnly s s') : Transit msize s' :=
  transit.of_bufs events.ebuf events.ibuf events.ordered

theorem setIflags (transit : Transit msize s) (f : CfiFlags) : Transit msize (s.setIflags f) :=
  transit.of_bufs (fun _ _ => rfl) (fun _ => by simp) (by simp)

theorem verify (transit : Transit msize s) (c : Bool) : Transit msize (s.verify c) :=
  transit.of_bufs (fun _ _ => by simp) (fun _ => by simp) (by simp)

theorem sock (transit : Transit msize s) (so : SockSt) : Transit msize { s with sock := so } :=
  transit.of_bufs (fun _ _ => rfl) (fun _ => rfl) rfl

theorem flush (transit : Transit msize s) : Transit msize (cfilFlushQueues s) :=
  ⟨transit.acc.flush, (flushQueues_ordered s).symm ▸ transit.nodup, .flushQueues s⟩

theorem actionDrop (transit : Transit msize s) (k : Kcunit) : Transit msize (cfilActionDrop k s).1 := by
  refine ⟨transit.acc.actionDrop k, ?_, ?_⟩ <;> unfold cfilActionDrop
  · dsimp only
    split_ifs <;> simpa [flushQueues_ordered] using transit.nodup
  · split
    · exact transit.clear
    · exact (PendingClear.flushQueues _).of_eventsOnly (wakeCloseWait_events _)

end Transit

section Runs

variable (env : Env)

theorem actionDataPass_transit (d : Bool) (k : Kcunit) (passOffset peekOffset : Nat) (s : FlowSt)
    (transit : Transit env.msize s) : Transit env.msize (cfilActionDataPass env d k passOffset peekOffset s).1 :=
  ⟨actionDataPass_accounted env d k passOffset peekOffset s transit.acc,
    (actionDataPass_ordered env d k passOffset peekOffset s).symm ▸ transit.nodup,
    actionDataPass_clear env d k passOffset peekOffset s transit.acc.shaped transit.nodup transit.clear⟩

theorem serviceInjectQueue_transit (d : Bool) (s : FlowSt) (transit : Transit env.msize s) :
    Transit env.msize (cfilServiceInjectQueue env d s).1 :=
  ⟨serviceInjectQueue_accounted env d s transit.acc, (serviceInjectQueue_ordered env d s).symm ▸ transit.nodup,
    transit.clear.of_entriesKept (serviceInjectQueue_entriesKept env d s)⟩

theorem dataCommon_transit (d : Bool) (data : Chain) (s : FlowSt) (transit : Transit env.msize s) :
    Transit env.msize (cfilDataCommon env d data s).1 :=
  ⟨dataCommon_accounted env d data s transit.acc, (dataCommon_ordered env d data s).symm ▸ transit.nodup,
    dataCommon_clear env d data s transit.acc.shaped transit.nodup transit.clear⟩

theorem FlowRun.step_transit (r : FlowRun) (transit : Transit env.msize r.st) (op : FlowOp) :
    Transit env.msize (r.step env op).st := by
  cases op <;> simp only [FlowRun.step]
  case data d m =>
    have common := dataCommon_transit env d m r.st transit
    generalize cfilDataCommon env d m r.st = x at common ⊢
    split
    · exact common.of_bufs (fun _ _ => rfl) (fun _ => rfl) rfl
    · exact common
  case action k a =>
    exact ctlSend_of_steps env k a (Transit env.msize) transit
      (fun t f held => held.of_eventsOnly (EventsOnly.setEflags t k f)) (fun _ f held => held.setIflags f)
      (fun d passOffset peekOffset t held => actionDataPass_transit env d k passOffset peekOffset t held)
      (fun _ held => held.actionDrop k)
  case bless k =>
    unfold cfilActionBlessClient cfilSockReceivedVerdict
    exact actionDataPass_transit env false k _ _ _ (actionDataPass_transit env true k _ _ _ (transit.setIflags _))
  case ctlDisconnect k =>
    exact ctlDisconnectEntry_of_steps env k (Transit env.msize) (transit.of_eventsOnly (EventsOnly.setEflags _ _ _))
      (fun d t held => actionDataPass_transit env d k _ _ t held)
      (fun _ held => held.of_bufs (fun _ _ => by simp [ctlDisconnectDetach]) (fun _ => by simp [ctlDisconnectDetach, unlinkEntry])
        (by simp [ctlDisconnectDetach, unlinkEntry]))
  case bufUpdate d =>
    exact sockBufUpdate_of_steps env d (Transit env.msize) transit (serviceInjectQueue_transit env d _ transit)
  case shutdown shutRd shutWr =>
    exact sockShutdown_of_steps env shutRd shutWr (Transit env.msize) transit (fun _ f held => held.setIflags f)
      (fun rd wr t held => held.of_eventsOnly (notifyShutdownFlow_events env rd wr t))
      (fun _ held => held.verify _)
  case close =>
    exact sockIsClosed_of_steps env (Transit env.msize) (fun _ events => transit.of_eventsOnly events)
      (fun t held => serviceInjectQueue_transit env true t held) (fun _ f held => held.setIflags f) (fun _ held => held.flush)
  case flowControl k raised => exact transit.of_bufs (fun _ _ => rfl) (fun _ => rfl) rfl
  case isDead =>
    exact sockIsDead_of_frame (Transit env.msize) (fun _ c held => held.verify c)
      (fun _ so _ _ _ held => held.sock so) (fun _ f _ held => held.setIflags f) transit
  case tcpAddTimeWait =>
    exact sockTcpAddTimeWait_of_frame (Transit env.msize) (fun _ c held => held.verify c)
      (fun _ so _ _ _ held => held.sock so) (fun _ f _ held => held.setIflags f) transit

theorem sockAttach_transit {slots : FilterSlots} {filterControlUnit sockId : Nat} {so : SockSt}
    {flowControlled : Kcunit → Bool} {s : FlowSt}
    (created : cfilSockAttach env slots filterControlUnit sockId so flowControlled = some s) : Transit env.msize s :=
  ⟨sockAttach_accounted env created, (sockAttach_ordered env created).1,
    sockAttach_of_steps env PendingClear (fun _ d => by cases d <;> rfl) (fun _ _ _ _ clear j d => by simpa using clear j d)
      (fun _ _ events clear => clear.of_eventsOnly events) created⟩

theorem FlowReachable.transit {r : FlowRun} (reach : FlowReachable env r) : Transit env.msize r.st := by
  induction reach with
  | attach created => exact sockAttach_transit env created
  | step op _ transit => exact FlowRun.step_transit env _ transit op

end Runs

/-- The pending queue is a transit stop: between two calls of any run no entry holds a chain
in its pending queue. -/
theorem pending_queue_is_transit (env : Env) {r : FlowRun} (reach : FlowReachable env r) :
    (∀ d k (s : FlowSt), Shaped s → s.info.cfiOrderedEntries.Nodup →
      ((serviceCtlQBody env d k (downstream env d (successors s.info.cfiOrderedEntries k)) s).1.ebuf k d).cfePendingQ.qMq
        = []) ∧
    (∀ k d, (r.st.ebuf k d).cfePendingQ.qMq = [] ∧ (r.st.ebuf k d).chains = ↑(r.st.ebuf k d).cfeCtlQ.qMq ∧
      (r.st.ebuf k d).held = (r.st.ebuf k d).cfeCtlQ.size) ∧
    ∀ d k j d', ((cfilDataServiceCtlQ env d k r.st).1.ebuf j d').cfePendingQ.qMq = [] := by
  have transit := FlowReachable.transit env reach
  refine ⟨fun d k s shaped nodup => serviceCtlQBody_drains d k (downstream_confines env d _)
      (not_mem_successors_self nodup) env s shaped, fun k d => ?_,
    fun d k => dataServiceCtlQ_clear env d k r.st transit.acc.shaped transit.nodup transit.clear⟩
  have empty := transit.clear k d
  exact ⟨empty, by simp [CfeBuf.chains, empty], by simp [CfeBuf.held, CfilQueue.size, empty]⟩

/-- One filter, a chain out and its agent's pass-all: the chain went through the pending
queue, which is empty again. -/
theorem passAllRun_pending_empty :
    FlowReachable demoKernel passAllRun ∧
    ((∀ d k (s : FlowSt), Shaped s → s.info.cfiOrderedEntries.Nodup →
      ((serviceCtlQBody demoKernel d k (downstream demoKernel d (successors s.info.cfiOrderedEntries k)) s).1.ebuf k
        d).cfePendingQ.qMq = []) ∧
    (∀ k d, (passAllRun.st.ebuf k d).cfePendingQ.qMq = [] ∧
      (passAllRun.st.ebuf k d).chains = ↑(passAllRun.st.ebuf k d).cfeCtlQ.qMq ∧
      (passAllRun.st.ebuf k d).held = (passAllRun.st.ebuf k d).cfeCtlQ.size) ∧
    ∀ d k j d', ((cfilDataServiceCtlQ demoKernel d k passAllRun.st).1.ebuf j d').cfePendingQ.qMq = []) :=
  have reach : FlowReachable demoKernel passAllRun :=
    FlowReachable.run demoKernel (@FlowReachable.attach demoKernel oneFilter 1 7 {} (fun _ => false) _ rfl) _
  ⟨reach, pending_queue_is_transit demoKernel reach⟩

end ContentFilter
