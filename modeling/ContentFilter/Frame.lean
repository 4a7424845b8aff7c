import ContentFilter.Flow

/-! What each step of the data path leaves alone, and the calls taken apart into their steps. -/

namespace ContentFilter

section Buffers

variable (s : FlowSt) (k j : Kcunit) (d d' : Bool)

theorem ebuf_setEbuf_apply (b : CfeBuf) :
    (s.setEbuf k d b).ebuf j d' = if j = k ∧ d' = d then b else s.ebuf j d' := by
  simp only [FlowSt.ebuf, FlowSt.setEbuf, entry_setEntry_apply]
  by_cases same : j = k
  · subst same
    cases d <;> cases d' <;> simp [CfilEntry.buf, CfilEntry.setBuf]
  · simp [same]

theorem ibuf_setIbuf_apply (b : CfiBuf) :
    (s.setIbuf d b).ibuf d' = if d' = d then b else s.ibuf d' := by
  split
  · subst d'; simp
  · exact CfilInfo.buf_setBuf_of_ne _ _ _ ‹_›

@[simp] theorem setEbuf_setEbuf (b b' : CfeBuf) : (s.setEbuf k d b).setEbuf k d b' = s.setEbuf k d b' := by
  have twice : ((s.entry k).setBuf d b).setBuf d b' = (s.entry k).setBuf d b' := by cases d <;> rfl
  simp only [FlowSt.setEbuf, entry_setEntry, twice]
  simp only [FlowSt.setEntry, Function.update_idem]

@[simp] theorem setEbuf_ibuf (b : CfeBuf) : (s.setEbuf k d b).ibuf d' = s.ibuf d' := rfl
@[simp] theorem setEbuf_sock (b : CfeBuf) : (s.setEbuf k d b).sock = s.sock := rfl
@[simp] theorem setEbuf_panicked (b : CfeBuf) : (s.setEbuf k d b).panicked = s.panicked := rfl
@[simp] theorem setEbuf_cfiFlags (b : CfeBuf) : (s.setEbuf k d b).info.cfiFlags = s.info.cfiFlags := rfl
@[simp] theorem setEbuf_cfiOrderedEntries (b : CfeBuf) :
    (s.setEbuf k d b).info.cfiOrderedEntries = s.info.cfiOrderedEntries := rfl
@[simp] theorem setEbuf_ticks (b : CfeBuf) : (s.setEbuf k d b).ticks = s.ticks := rfl
@[simp] theorem setEbuf_outbox (b : CfeBuf) : (s.setEbuf k d b).outbox = s.outbox := rfl
@[simp] theorem setEbuf_cfFlowControlled (b : CfeBuf) :
    (s.setEbuf k d b).cfFlowControlled = s.cfFlowControlled := rfl
@[simp] theorem setIbuf_ticks (b : CfiBuf) : (s.setIbuf d b).ticks = s.ticks := rfl
@[simp] theorem setIbuf_cfFlowControlled (b : CfiBuf) :
    (s.setIbuf d b).cfFlowControlled = s.cfFlowControlled := rfl
@[simp] theorem setIbuf_ebuf (b : CfiBuf) : (s.setIbuf d b).ebuf k d' = s.ebuf k d' := by
  simp [FlowSt.ebuf]

@[simp] theorem setIflags_entry (f : CfiFlags) : (s.setIflags f).entry k = s.entry k := rfl
@[simp] theorem setIflags_ebuf (f : CfiFlags) : (s.setIflags f).ebuf k d = s.ebuf k d := rfl
@[simp] theorem setIflags_ibuf (f : CfiFlags) : (s.setIflags f).ibuf d = s.ibuf d := by
  cases d <;> rfl
@[simp] theorem setIflags_cfiFlags (f : CfiFlags) : (s.setIflags f).info.cfiFlags = f := rfl
@[simp] theorem setIflags_sock (f : CfiFlags) : (s.setIflags f).sock = s.sock := rfl
@[simp] theorem setIflags_panicked (f : CfiFlags) : (s.setIflags f).panicked = s.panicked := rfl
@[simp] theorem setIflags_cfiOrderedEntries (f : CfiFlags) :
    (s.setIflags f).info.cfiOrderedEntries = s.info.cfiOrderedEntries := rfl
@[simp] theorem setIflags_outbox (f : CfiFlags) : (s.setIflags f).outbox = s.outbox := rfl
@[simp] theorem setIflags_ticks (f : CfiFlags) : (s.setIflags f).ticks = s.ticks := rfl
@[simp] theorem setIflags_cfFlowControlled (f : CfiFlags) : (s.setIflags f).cfFlowControlled = s.cfFlowControlled := rfl
@[simp] theorem setIflags_cfiSockId (f : CfiFlags) : (s.setIflags f).info.cfiSockId = s.info.cfiSockId := rfl

@[simp] theorem setEflags_ebuf (f : CfeFlags) : (s.setEflags k f).ebuf j d = s.ebuf j d :=
  (EventsOnly.setEflags s k f).ebuf j d
@[simp] theorem setEflags_ibuf (f : CfeFlags) : (s.setEflags k f).ibuf d = s.ibuf d := rfl
@[simp] theorem setEflags_cfeFilter (f : CfeFlags) : ((s.setEflags k f).entry j).cfeFilter = (s.entry j).cfeFilter :=
  (EventsOnly.setEflags s k f).cfeFilter j
@[simp] theorem setEflags_info_cfiFlags (f : CfeFlags) : (s.setEflags k f).info.cfiFlags = s.info.cfiFlags := rfl
@[simp] theorem setEflags_sock (f : CfeFlags) : (s.setEflags k f).sock = s.sock := rfl
@[simp] theorem setEflags_panicked (f : CfeFlags) : (s.setEflags k f).panicked = s.panicked := rfl
@[simp] theorem setEflags_outbox (f : CfeFlags) : (s.setEflags k f).outbox = s.outbox := rfl
@[simp] theorem setEflags_ticks (f : CfeFlags) : (s.setEflags k f).ticks = s.ticks := rfl
@[simp] theorem setEflags_cfiOrderedEntries (f : CfeFlags) :
    (s.setEflags k f).info.cfiOrderedEntries = s.info.cfiOrderedEntries := rfl

@[simp] theorem attachEntry_ebuf (cfc necp : Nat) : (attachEntry k cfc necp s).ebuf j d = s.ebuf j d := by
  simp only [attachEntry, setEflags_ebuf]
  show ((s.setEntry k _).entry j).buf d = (s.entry j).buf d
  rw [entry_setEntry_apply]
  split
  · subst j; cases d <;> rfl
  · rfl

@[simp] theorem unlinkEntry_ebuf : (unlinkEntry k s).ebuf j d = s.ebuf j d := by
  show ((s.setEntry k _).entry j).buf d = (s.entry j).buf d
  rw [entry_setEntry_apply]
  split
  · subst j; cases d <;> rfl
  · rfl

@[simp] theorem unlinkEntry_cfeFilter : ((unlinkEntry k s).entry k).cfeFilter = none := by
  simp [unlinkEntry]

end Buffers

section Queues

variable (s : FlowSt) (k j : Kcunit) (d d' : Bool) (q : CfilQueue) (m : Chain)

@[simp] theorem ibuf_setQueue_ctl : (s.setQueue (.ctl k d) q).ibuf d' = s.ibuf d' := rfl
@[simp] theorem ibuf_setQueue_pending : (s.setQueue (.pending k d) q).ibuf d' = s.ibuf d' := rfl
@[simp] theorem entry_setQueue_inject : (s.setQueue (.inject d) q).entry k = s.entry k := by
  simp [FlowSt.setQueue]
@[simp] theorem ebuf_setQueue_inject : (s.setQueue (.inject d) q).ebuf k d' = s.ebuf k d' := by
  simp [FlowSt.setQueue]

theorem ibuf_setQueue_inject :
    (s.setQueue (.inject d) q).ibuf d' = if d' = d then { s.ibuf d with cfiInjectQ := q } else s.ibuf d' :=
  ibuf_setIbuf_apply _ _ _ _

theorem ebuf_setQueue_ctl : (s.setQueue (.ctl k d) q).ebuf j d' =
    if j = k ∧ d' = d then { s.ebuf k d with cfeCtlQ := q } else s.ebuf j d' :=
  ebuf_setEbuf_apply _ _ _ _ _ _

theorem ebuf_setQueue_pending : (s.setQueue (.pending k d) q).ebuf j d' =
    if j = k ∧ d' = d then { s.ebuf k d with cfePendingQ := q } else s.ebuf j d' :=
  ebuf_setEbuf_apply _ _ _ _ _ _

theorem cfeFilter_setQueue (loc : QLoc) : ((s.setQueue loc q).entry k).cfeFilter = (s.entry k).cfeFilter := by
  cases loc <;> simp [FlowSt.setQueue]

@[simp] theorem queue_setQueue (loc : QLoc) : (s.setQueue loc q).queue loc = q := by
  cases loc <;> simp [FlowSt.setQueue, FlowSt.queue]

@[simp] theorem setQueue_sock (loc : QLoc) : (s.setQueue loc q).sock = s.sock := by
  cases loc <;> rfl
@[simp] theorem setQueue_panicked (loc : QLoc) : (s.setQueue loc q).panicked = s.panicked := by
  cases loc <;> rfl
@[simp] theorem setQueue_cfiFlags (loc : QLoc) : (s.setQueue loc q).info.cfiFlags = s.info.cfiFlags := by
  cases loc <;> simp [FlowSt.setQueue]
@[simp] theorem setQueue_cfiOrderedEntries (loc : QLoc) :
    (s.setQueue loc q).info.cfiOrderedEntries = s.info.cfiOrderedEntries := by
  cases loc <;> simp [FlowSt.setQueue]
@[simp] theorem setQueue_ticks (loc : QLoc) : (s.setQueue loc q).ticks = s.ticks := by
  cases loc <;> rfl
@[simp] theorem setQueue_outbox (loc : QLoc) : (s.setQueue loc q).outbox = s.outbox := by
  cases loc <;> rfl
@[simp] theorem setQueue_tailFlags (loc : QLoc) : (s.setQueue loc q).tailFlags = s.tailFlags := by
  cases loc <;> simp [FlowSt.setQueue]
@[simp] theorem setQueue_cfFlowControlled (loc : QLoc) :
    (s.setQueue loc q).cfFlowControlled = s.cfFlowControlled := by
  cases loc <;> rfl

theorem enqueueQ_eq (loc : QLoc) (valid : (s.queue loc).Valid) (positive : 0 < dataLen m) :
    s.enqueueQ loc m = s.setQueue loc (cfilQueueEnqueue (s.queue loc) m (dataLen m)) := by
  simp [FlowSt.enqueueQ, valid.verify, (valid.enqueue positive).verify, FlowSt.verify]

theorem removeQ_eq (loc : QLoc) {rest : List Chain} (valid : (s.queue loc).Valid)
    (head : (s.queue loc).qMq = m :: rest) :
    s.removeQ loc m = s.setQueue loc (cfilQueueRemove (s.queue loc) (dataLen m)) := by
  simp [FlowSt.removeQ, valid.verify, (valid.remove head).verify, FlowSt.verify]

@[simp] theorem verify_true : s.verify true = s := rfl

end Queues

section Reinjection

variable (env : Env) (d : Bool)

theorem notifyShutdownFlow_events (shutRd shutWr : Bool) (s : FlowSt) :
    EventsOnly s (notifyShutdownFlow env shutRd shutWr s) := by
  unfold notifyShutdownFlow
  refine List.foldlRecOn (motive := EventsOnly s) _ _ _ (.refl s) fun s₁ events k _ => ?_
  have read : EventsOnly s (if shutRd then (cfilDispatchDisconnectEvent env k false s₁).1 else s₁) := by
    split
    · exact events.trans (EventsOnly.disconnectEvent env k false s₁)
    · exact events
  dsimp only
  split
  · exact read.trans (EventsOnly.disconnectEvent env k true _)
  · exact read

theorem onFlows_events {call : FlowSt → FlowSt} (events : ∀ t, EventsOnly t (call t)) :
    ∀ (s : FlowSt) (infos : List CfilInfo), EventsOnly s (s.onFlows call infos).1
  | s, [] => .refl s
  | s, i :: rest =>
    have lent := events { s with info := i }
    have back : EventsOnly s { call { s with info := i } with info := s.info } :=
      ⟨fun _ _ => rfl, fun _ => rfl, fun _ => rfl, rfl, rfl, rfl,
        by simp only [FlowSt.tailFlags, FlowSt.delayedDead, FlowSt.delayedTcpTimeWait, lent.sock], rfl, lent.sock,
        lent.panicked, ⟨lent.siblings.before, lent.siblings.after⟩⟩
    back.trans (onFlows_events events _ rest)

theorem onFlows_moved {call : FlowSt → FlowSt} (events : ∀ t, EventsOnly t (call t)) :
    ∀ (s : FlowSt) (infos : List CfilInfo), List.Forall₂ InfoMoved infos (s.onFlows call infos).2
  | _, [] => .nil
  | s, i :: rest => .cons (events { s with info := i }).infoMoved (onFlows_moved events _ rest)

theorem onFlows_info (call : FlowSt → FlowSt) : ∀ (s : FlowSt) (infos : List CfilInfo), (s.onFlows call infos).1.info = s.info
  | _, [] => rfl
  | _, _ :: rest => onFlows_info call _ rest

theorem notifyShutdown_events (shutRd shutWr : Bool) (s : FlowSt) :
    EventsOnly s (cfilSockNotifyShutdown env shutRd shutWr s) := by
  have flowEvents := notifyShutdownFlow_events env shutRd shutWr
  unfold cfilSockNotifyShutdown
  split
  · have before := onFlows_events flowEvents s s.flowsBefore
    have movedBefore := onFlows_moved flowEvents s s.flowsBefore
    dsimp only
    generalize s.onFlows _ s.flowsBefore = r at before movedBefore ⊢
    obtain ⟨s₁, _⟩ := r
    have after := (before.trans (flowEvents s₁)).trans (onFlows_events flowEvents _ s.flowsAfter)
    have movedAfter := onFlows_moved flowEvents (notifyShutdownFlow env shutRd shutWr s₁) s.flowsAfter
    generalize FlowSt.onFlows _ _ s.flowsAfter = r at after movedAfter ⊢
    obtain ⟨s₂, _⟩ := r
    exact ⟨after.ebuf, after.ibuf, after.cfeFilter, after.ordered, after.sockId, after.drop, after.tailFlags,
      after.shutRd, after.sock, after.panicked, movedBefore, movedAfter⟩
  · exact flowEvents s

theorem wakeCloseWait_events (s : FlowSt) : EventsOnly s (wakeCloseWait s) := by
  unfold wakeCloseWait
  split
  · exact ⟨fun _ _ => rfl, fun _ => rfl, fun _ => rfl, rfl, rfl, rfl, rfl, rfl, rfl, rfl, .of_eq rfl rfl⟩
  · rfl

theorem deferWhilePending_of_steps {σ : Type} (P : σ → Prop) {pending : Bool → σ → σ × Nat} {delay : σ → σ}
    {goOn : σ → Option σ} {st : σ} (start : P st) (counted : ∀ d t, P t → P (pending d t).1)
    (delayed : ∀ t, P t → P (delay t)) (went : ∀ t t', goOn t = some t' → P t → P t') :
    P (deferWhilePending pending delay goOn st).1 := by
  have sent := counted true st start
  unfold deferWhilePending
  generalize pending true st = r at sent ⊢
  obtain ⟨st₁, _⟩ := r
  have received := counted false st₁ sent
  dsimp only
  generalize pending false st₁ = r at received ⊢
  obtain ⟨st₂, _⟩ := r
  dsimp only
  split
  · exact delayed _ received
  · split
    · exact went _ _ ‹_› received
    · exact received

theorem deferredShutWr_of_steps (P : FlowSt → Prop) (verify : ∀ t c, P t → P (t.verify c))
    (notify : ∀ t, P t → P (cfilSockNotifyShutdown env false true t))
    (final : ∀ t, P t → P { t with sock := { t.sock with soShutWrFinal := t.sock.soShutWrFinal + 1 } })
    {s : FlowSt} (start : P s) : P (deferredShutWr env s) := by
  unfold deferredShutWr
  split
  · have notified : P (cfilSockDataPending true (cfilSockNotifyShutdown env false true s)).1 :=
      verify _ _ (notify s start)
    dsimp only
    generalize cfilSockDataPending true _ = r at notified ⊢
    split
    · exact final _ notified
    · exact notified
  · exact start

section Frame

/- What the end of re-injection writes besides events: checks, the socket layer's
counters and flags, and the flow's delay flags. -/
variable (P : FlowSt → Prop) (verify : ∀ t c, P t → P (t.verify c))
  (sock : ∀ t so, so.soSndPassed = t.sock.soSndPassed → so.soRcvPassed = t.sock.soRcvPassed →
    so.soShutWrFinal = t.sock.soShutWrFinal → P t → P { t with sock := so })
  (flags : ∀ t f, f.drop = t.info.cfiFlags.drop → P t → P (t.setIflags f))
include verify sock flags

theorem sockIsDead_of_frame {s : FlowSt} (start : P s) : P (cfilSockIsDead s).1 := by
  have flagged : ∀ t b, P t → P (t.setDelayedDead b) := fun t b held => by
    unfold FlowSt.setDelayedDead
    split
    · exact sock _ _ rfl rfl rfl held
    · exact flags _ _ rfl held
  refine deferWhilePending_of_steps P start (fun _ t held => verify t _ held) (fun t => flagged t true)
    fun t t' went held => ?_
  dsimp only at went
  split at went
  · cases went
    exact sock _ _ rfl rfl rfl (flagged t false held)
  · cases went

theorem sockTcpAddTimeWait_of_frame {s : FlowSt} (start : P s) : P (cfilSockTcpAddTimeWait s).1 := by
  have flagged : ∀ t b, P t → P (t.setDelayedTcpTimeWait b) := fun t b held => by
    unfold FlowSt.setDelayedTcpTimeWait
    split
    · exact held
    · exact flags _ _ rfl held
  unfold cfilSockTcpAddTimeWait
  split
  · exact start
  · refine deferWhilePending_of_steps P start (fun _ t held => verify t _ held) (fun t => flagged t true)
      fun t t' went held => ?_
    dsimp only at went
    split at went
    · cases went
      exact flagged _ false (sock _ _ rfl rfl rfl held)
    · cases went

theorem recheckDelayed_of_frame {s : FlowSt} (start : P s) : P (recheckDelayed s) := by
  have rechecked : P (if s.delayedDead then (cfilSockIsDead s).1 else s) := by
    split
    · exact sockIsDead_of_frame P verify sock flags start
    · exact start
  unfold recheckDelayed
  generalize (if s.delayedDead then _ else s) = s₁ at rechecked ⊢
  dsimp only
  split
  · exact sockTcpAddTimeWait_of_frame P verify sock flags rechecked
  · exact rechecked

theorem serviceInjectTail_of_steps (notify : ∀ t, P t → P (cfilSockNotifyShutdown env false true t))
    (final : ∀ t, P t → P { t with sock := { t.sock with soShutWrFinal := t.sock.soShutWrFinal + 1 } })
    (wake : ∀ t, P t → P (wakeCloseWait t)) {s : FlowSt} (start : P s) : P (serviceInjectTail env s) :=
  recheckDelayed_of_frame P verify sock flags (wake _ (deferredShutWr_of_steps env P verify notify final start))

theorem serviceInjectTail_of_frame
    (final : ∀ t, P t → P { t with sock := { t.sock with soShutWrFinal := t.sock.soShutWrFinal + 1 } })
    (events : ∀ t t', EventsOnly t t' → P t → P t') {s : FlowSt} (start : P s) : P (serviceInjectTail env s) :=
  serviceInjectTail_of_steps env P verify sock flags (fun t => events _ _ (notifyShutdown_events env false true t))
    final (fun t => events _ _ (wakeCloseWait_events t)) start

end Frame

theorem serviceInjectTail_quiet {s : FlowSt} (quiet : s.tailFlags = (false, false, false)) :
    serviceInjectTail env s = wakeCloseWait s := by
  have woken := (wakeCloseWait_events s).tailFlags.trans quiet
  simp only [FlowSt.tailFlags, Prod.mk.injEq] at quiet woken
  simp [serviceInjectTail, deferredShutWr, recheckDelayed, quiet.1, woken.2]

theorem serviceInjectQueue_of_steps (P : FlowSt → Prop) {s : FlowSt} (start : P s)
    (retry : ∀ t retry, P t → P (setRetryInject d t retry))
    (loop : ∀ fuel error t, P t → P (injectLoop env d fuel error t).1)
    (tail : ∀ t, P t → P (serviceInjectTail env t)) (verify : ∀ t, P t → P t.verifyInfo) :
    P (cfilServiceInjectQueue env d s).1 := by
  unfold cfilServiceInjectQueue
  dsimp only
  split
  · exact start
  split
  · exact retry s false start
  have looped := loop ((setRetryInject d s false).ibuf d).cfiInjectQ.qMq.length .ok _ (retry s false start)
  generalize injectLoop env d _ _ _ = r at looped ⊢
  have retried : P (if r.2 ≠ .ok then setRetryInject d r.1 true else r.1) := by
    split
    · exact retry _ true looped
    · exact looped
  generalize (if r.2 ≠ .ok then setRetryInject d r.1 true else r.1) = s' at retried ⊢
  exact verify _ (tail _ retried)

end Reinjection

section Loops

variable (env : Env) (d : Bool)

theorem passLoop_of_steps (k : Kcunit) (P : FlowSt → Prop) (verify : ∀ t c, P t → P (t.verify c))
    (peeked : ∀ t p, P t → P (t.setPeeked k d p))
    (moved : ∀ t data, (t.ebuf k d).cfeCtlQ.qMq.head? = some data → P t →
      P ((t.removeQ (.ctl k d) data).enqueueQ (.pending k d) data)) :
    ∀ fuel s, P s → P (passLoop d k fuel s)
  | 0, _, start => start
  | fuel + 1, s, start => by
    have next := passLoop_of_steps k P verify peeked moved fuel
    unfold passLoop
    dsimp only
    split
    · exact start
    · next data rest queued =>
      have round : ∀ t, P t → (t.ebuf k d).cfeCtlQ.qMq.head? = some data →
          P (passLoop d k fuel ((t.removeQ (.ctl k d) data).enqueueQ (.pending k d) data)) :=
        fun t held head => next _ (moved t data head held)
      generalize (if (s.ebuf k d).cfeCtlQ.qStart + dataLen data ≤ (s.ebuf k d).cfePassOffset then dataLen data
        else (s.ebuf k d).cfePassOffset - (s.ebuf k d).cfeCtlQ.qStart) = copylen
      split_ifs <;> first
        | exact peeked _ _ (verify _ _ start)
        | exact verify _ _ start
        | exact round _ (peeked _ _ (verify _ _ start)) (by simp [FlowSt.setPeeked, queued])
        | exact round _ (verify _ _ start) (by simp [queued])
        | exact start

theorem peekLoop_of_steps (k : Kcunit) (P : FlowSt → Prop) (verify : ∀ t c, P t → P (t.verify c))
    (peeked : ∀ t p, P t → P (t.setPeeked k d p))
    (event : ∀ t data copyoffset copylen, P t → P (cfilDispatchDataEvent env k d data copyoffset copylen t).1) :
    ∀ chains currentoffset s, P s → P (peekLoop env d k chains currentoffset s)
  | [], _, _, start => start
  | data :: rest, cur, s, start => by
    have next := peekLoop_of_steps k P verify peeked event rest
    by_cases live : cur < (s.ebuf k d).cfePeekOffset
    swap
    · simp only [peekLoop, if_neg live]; exact start
    by_cases seen : cur + dataLen data ≤ (s.ebuf k d).cfePeeked
    · simp only [peekLoop, if_pos live, if_pos seen]
      exact next _ s start
    simp only [peekLoop, if_pos live, if_neg seen]
    generalize (if (_ : Nat) > _ then _ else _ : Nat) = copylen
    split_ifs <;> first
      | exact verify _ _ (verify _ _ start)
      | exact event _ _ _ _ (verify _ _ (verify _ _ start))
      | exact peeked _ _ (event _ _ _ _ (verify _ _ (verify _ _ start)))
      | exact next _ _ (peeked _ _ (event _ _ _ _ (verify _ _ (verify _ _ start))))

theorem pendingLoop_of_steps (k : Kcunit) (ds : Downstream) (passlen : Nat) (P : FlowSt → Prop)
    (R : Chain → FlowSt → Prop)
    (remove : ∀ t data, (t.ebuf k d).cfePendingQ.qMq.head? = some data → P t → R data (t.removeQ (.pending k d) data))
    (forward : ∀ t data, R data t → P (ds.forward data t).1)
    (inject : ∀ t data, P t → P (t.enqueueQ (.inject d) data)) :
    ∀ fuel curlen error s, P s → P (pendingLoop d k ds passlen fuel curlen error s).1
  | 0, _, _, _, start => start
  | fuel + 1, curlen, error, s, start => by
    have next := pendingLoop_of_steps k ds passlen P R remove forward inject fuel
    unfold pendingLoop
    split
    · exact start
    · next data rest queued =>
      dsimp only
      split
      · exact start
      · have sent := forward _ data (remove s data (by simp [queued]) start)
        split
        · exact next _ _ _ (inject _ _ sent)
        · exact next _ _ _ sent

end Loops

section Calls

variable (env : Env) (d : Bool)

theorem updateDataOffsets_of_steps (k : Kcunit) (passOffset peekOffset : Nat) (P : FlowSt → Prop) {s : FlowSt}
    (start : P s) (raised : P (s.setEbuf k d ((s.ebuf k d).raiseOffsets passOffset peekOffset).1))
    (serviced : ∀ t, P t → P (cfilDataServiceCtlQ env d k t).1) (detached : ∀ t f, P t → P (t.setEflags k f))
    (wake : ∀ t, P t → P (wakeCloseWait t)) (verify : ∀ t, P t → P t.verifyInfo) :
    P (cfilUpdateDataOffsets env d k passOffset peekOffset s).1 := by
  unfold cfilUpdateDataOffsets
  split
  · exact verify _ start
  dsimp only
  generalize s.setEbuf k d ((s.ebuf k d).raiseOffsets passOffset peekOffset).1 = s₁ at raised ⊢
  have done : P (if !((s.ebuf k d).raiseOffsets passOffset peekOffset).2 then (s₁, Errno.ok) else
      if (cfilDataServiceCtlQ env d k s₁).2 ≠ .ok then cfilDataServiceCtlQ env d k s₁
      else ((cfilDataServiceCtlQ env d k s₁).1, .ejustreturn)).1 := by
    split_ifs
    · exact raised
    all_goals exact serviced _ raised
  generalize (if !((s.ebuf k d).raiseOffsets passOffset peekOffset).2 then _ else _) = r at done ⊢
  refine verify _ ?_
  split
  · exact wake _ (detached _ _ done)
  · exact done

theorem actionDataPass_of_steps (k : Kcunit) (passOffset peekOffset : Nat) (P : FlowSt → Prop) {s : FlowSt}
    (start : P s) (updated : P (cfilUpdateDataOffsets env d k passOffset peekOffset s).1)
    (inject : ∀ t, P t → P (cfilServiceInjectQueue env d t).1) (bound : ∀ t, P t → P (cfilSetSocketPassOffset d t))
    (verify : ∀ t, P t → P t.verifyInfo) : P (cfilActionDataPass env d k passOffset peekOffset s).1 := by
  unfold cfilActionDataPass
  split
  · exact verify _ start
  · exact verify _ (bound _ (inject _ updated))

theorem closedEvents_events (s : FlowSt) :
    EventsOnly s ((List.finRange maxContentFilter).foldl (fun s k => (cfilDispatchClosedEvent env k s).1) s) :=
  List.foldlRecOn (motive := EventsOnly s) _ _ _ (.refl s) fun _ events k _ =>
    events.trans (EventsOnly.closedEvent env k _)

theorem sockBufUpdate_of_steps (P : FlowSt → Prop) {s : FlowSt} (start : P s)
    (inject : P (cfilServiceInjectQueue env d s).1) : P (cfilSockBufUpdate env d s) := by
  unfold cfilSockBufUpdate
  split_ifs <;> first | exact start | exact inject

theorem ctlSend_of_steps (k : Kcunit) (action : CfilAction) (P : FlowSt → Prop) {s : FlowSt} (start : P s)
    (started : ∀ t f, P t → P (t.setEflags k f)) (flags : ∀ t f, P t → P (t.setIflags f))
    (pass : ∀ d passOffset peekOffset t, P t → P (cfilActionDataPass env d k passOffset peekOffset t).1)
    (drop : ∀ t, P t → P (cfilActionDrop k t).1) : P (cfilCtlSend env k action s).1 := by
  have passIf : ∀ d passOffset peekOffset t (c : Bool), P t →
      P (if c then cfilActionDataPass env d k passOffset peekOffset t else (t, .ok)).1 := fun d passOffset peekOffset t c held => by
    split
    · exact pass d passOffset peekOffset t held
    · exact held
  unfold cfilCtlSend
  by_cases dropped : s.info.cfiFlags.drop = true
  · rw [if_pos dropped]; exact start
  rw [if_neg dropped]
  by_cases detached : (s.entry k).cfeFilter.isNone = true
  · rw [if_pos detached]; exact start
  rw [if_neg detached]
  by_cases unsent : (!(s.entry k).cfeFlags.sentSockAttached) = true
  · rw [if_pos unsent]; exact start
  rw [if_neg unsent]
  have begun := started s { (s.entry k).cfeFlags with dataStart := true } start
  generalize s.setEflags k _ = s₁ at begun ⊢
  cases action with
  | drop =>
    have dropped := drop _ begun
    dsimp only
    generalize cfilActionDrop k s₁ = r at dropped ⊢
    exact flags _ _ dropped
  | dataUpdate outPass outPeek inPass inPeek =>
    have out := passIf true outPass outPeek _ (outPeek ≠ 0 || outPass ≠ 0) (flags _
      { s₁.info.cfiFlags with initialVerdict := true, socketConnected := false } begun)
    dsimp only [cfilSockReceivedVerdict]
    generalize (if outPeek ≠ 0 || outPass ≠ 0 then _ else _) = r at out ⊢
    obtain ⟨s₂, error⟩ := r
    dsimp only at out ⊢
    by_cases failed : (if error = .ejustreturn then .ok else error) ≠ .ok
    · rw [if_pos failed]; exact out
    · rw [if_neg failed]; exact passIf false inPass inPeek s₂ _ out

theorem ctlDisconnectEntry_of_steps (k : Kcunit) (P : FlowSt → Prop) {s : FlowSt} (start : P s)
    (pass : ∀ d t, P t → P (cfilActionDataPass env d k env.cfmMaxOffset env.cfmMaxOffset t).1)
    (detach : ∀ t, P t → P (ctlDisconnectDetach k t)) : P (cfilCtlDisconnectEntry env k s).1 := by
  have passes : P (ctlDisconnectPasses env k s) := pass false _ (pass true s start)
  unfold cfilCtlDisconnectEntry
  split
  · exact start
  dsimp only
  split
  · exact passes
  · exact detach _ passes

theorem sockIsClosed_of_steps (P : FlowSt → Prop) {s : FlowSt} (events : ∀ t, EventsOnly s t → P t)
    (inject : ∀ t, P t → P (cfilServiceInjectQueue env true t).1) (flags : ∀ t f, P t → P (t.setIflags f))
    (flush : ∀ t, P t → P (cfilFlushQueues t)) : P (cfilSockIsClosed env s) := by
  have sent := events _ (closedEvents_events env s)
  unfold cfilSockIsClosed
  generalize (List.finRange maxContentFilter).foldl _ s = s₁ at sent ⊢
  dsimp only
  refine flush _ (flags _ _ ?_)
  split
  · exact sent
  · exact inject _ sent

theorem sockShutdown_of_steps (shutRd shutWr : Bool) (P : FlowSt → Prop) {s : FlowSt} (start : P s)
    (flags : ∀ t f, P t → P (t.setIflags f)) (notify : ∀ rd wr t, P t → P (notifyShutdownFlow env rd wr t))
    (pending : ∀ t, P t → P (cfilSockDataPending true t).1) : P (cfilSockShutdown env shutRd shutWr s).1 := by
  have read : P (if shutRd then notifyShutdownFlow env true false (s.setIflags { s.info.cfiFlags with shutRd := true })
      else s) := by
    split
    · exact notify _ _ _ (flags _ _ start)
    · exact start
  unfold cfilSockShutdown
  by_cases rdClosed : (shutRd && s.sock.soCantRcvMore) = true
  · rwa [if_pos rdClosed]
  by_cases wrClosed : (shutWr && s.sock.soCantSendMore) = true
  · rwa [if_neg rdClosed, if_pos wrClosed]
  by_cases dropped : s.info.cfiFlags.drop = true
  · rwa [if_neg rdClosed, if_neg wrClosed, if_pos dropped]
  by_cases again : (shutRd && s.info.cfiFlags.shutRd) = true
  · rwa [if_neg rdClosed, if_neg wrClosed, if_neg dropped, if_pos again]
  rw [if_neg rdClosed, if_neg wrClosed, if_neg dropped, if_neg again]
  dsimp only
  generalize (if shutRd then _ else s) = s₁ at read ⊢
  split
  · exact read
  split
  · exact read
  have counted := pending _ (notify false true _ (flags _ { s₁.info.cfiFlags with shutWr := true } read))
  generalize cfilSockDataPending true _ = r at counted ⊢
  split_ifs <;> exact counted

theorem sockAttach_of_steps (P : FlowSt → Prop) {slots : FilterSlots} {filterControlUnit sockId : Nat}
    {so : SockSt} {flowControlled : Kcunit → Bool} {s : FlowSt} (alloc : P (cfilInfoAlloc sockId so flowControlled))
    (attach : ∀ t k cfc necp, P t → P (attachEntry k cfc necp t)) (events : ∀ t t', EventsOnly t t' → P t → P t')
    (created : cfilSockAttach env slots filterControlUnit sockId so flowControlled = some s) : P s := by
  have linked : P (cfilInfoAttachUnit slots filterControlUnit (cfilInfoAlloc sockId so flowControlled)).1 := by
    unfold cfilInfoAttachUnit
    refine List.foldlRecOn (motive := fun acc : FlowSt × Bool => P acc.1) _ _ _ alloc fun acc held k _ => ?_
    split
    · exact held
    · split
      · exact held
      · exact attach _ _ _ _ held
  unfold cfilSockAttach at created
  generalize cfilInfoAttachUnit slots filterControlUnit (cfilInfoAlloc sockId so flowControlled) = r at linked created
  obtain ⟨s₁, attached⟩ := r
  cases attached
  · cases created
  · cases created
    exact events _ _ (EventsOnly.attachEvent env none s₁) linked

end Calls

end ContentFilter
