import ContentFilter.Representation

/-! Servicing keeps the shape of a flow and moves chains without creating or losing any. -/

namespace ContentFilter

variable (env : Env) (d : Bool)

@[simp] theorem ebuf_setPeeked (s : FlowSt) (k : Kcunit) (p : Nat) :
    (s.setPeeked k d p).ebuf k d = { s.ebuf k d with cfePeeked := p } := by
  simp [FlowSt.setPeeked]

theorem Serviced.of_eq {d : Bool} {s s' : FlowSt} {n n' : ℤ} (same : n = n') (serviced : Serviced d n s s') :
    Serviced d n' s s' :=
  same ▸ serviced

namespace Moves

variable {d} {s : FlowSt}

theorem setPeeked (shaped : Shaped s) (k : Kcunit) {p : Nat}
    (lo : (s.ebuf k d).cfeCtlQ.qStart ≤ p) (hi : p ≤ (s.ebuf k d).cfePeekOffset) :
    Moves d 0 0 s (s.setPeeked k d p) :=
  have entry := shaped.entries k d
  setEbuf_keeping shaped k { s.ebuf k d with cfePeeked := p }
    ⟨entry.ctl, entry.pending, entry.adjacent, entry.passFrom, entry.passPeek, lo, hi⟩ rfl

theorem passMove (shaped : Shaped s) (k : Kcunit) {data : Chain} {rest : List Chain}
    (head : (s.ebuf k d).cfeCtlQ.qMq = data :: rest)
    (passes : (s.ebuf k d).cfeCtlQ.qStart + dataLen data ≤ (s.ebuf k d).cfePassOffset)
    (peeked : (s.ebuf k d).cfeCtlQ.qStart + dataLen data ≤ (s.ebuf k d).cfePeeked) :
    Moves d 0 0 s ((s.removeQ (.ctl k d) data).enqueueQ (.pending k d) data) := by
  have entry := shaped.entries k d
  have positive := entry.ctl.nonempty data (by simp [head])
  rw [removeQ_eq s data (.ctl k d) entry.ctl head,
    enqueueQ_eq _ data (.pending k d) (by simpa [FlowSt.queue, ebuf_setQueue_ctl] using entry.pending) positive]
  simp only [FlowSt.setQueue, FlowSt.queue, ebuf_setEbuf, setEbuf_setEbuf]
  refine setEbuf_keeping shaped k { s.ebuf k d with
    cfeCtlQ := cfilQueueRemove (s.ebuf k d).cfeCtlQ (dataLen data)
    cfePendingQ := cfilQueueEnqueue (s.ebuf k d).cfePendingQ data (dataLen data) }
    ⟨entry.ctl.remove head, entry.pending.enqueue positive, ?_, ?_, entry.passPeek, ?_, entry.peekedTo⟩ ?_
  · simp [cfilQueueEnqueue, cfilQueueRemove, entry.adjacent]
  · simpa [cfilQueueRemove] using passes
  · simpa [cfilQueueRemove] using peeked
  · simp only [CfeBuf.chains, cfilQueueEnqueue, cfilQueueRemove, head, List.tail_cons, Multiset.coe_add,
      Multiset.coe_eq_coe]
    exact ((List.perm_append_singleton _ _).append_left rest).trans List.perm_middle

theorem pendingRemove (shaped : Shaped s) (k : Kcunit) {data : Chain} {rest : List Chain}
    (head : (s.ebuf k d).cfePendingQ.qMq = data :: rest) :
    Moves d 0 {data} s (s.removeQ (.pending k d) data) := by
  have entry := shaped.entries k d
  rw [removeQ_eq s data (.pending k d) entry.pending head]
  refine (setEbuf shaped k { s.ebuf k d with
    cfePendingQ := cfilQueueRemove (s.ebuf k d).cfePendingQ (dataLen data) }
    ⟨entry.ctl, entry.pending.remove head, by simp [cfilQueueRemove, entry.adjacent], entry.passFrom,
      entry.passPeek, entry.peekedFrom, entry.peekedTo⟩).rebalance ?_
  simp only [CfeBuf.chains, cfilQueueRemove, head, FlowSt.queue, List.tail_cons, zero_add, ← Multiset.coe_singleton,
    Multiset.coe_add, Multiset.coe_eq_coe, List.append_assoc]
  exact (List.perm_append_singleton _ _).append_left _

theorem ctlEnqueue (shaped : Shaped s) (k : Kcunit) {data : Chain} (positive : 0 < dataLen data) :
    Moves d {data} 0 s (s.enqueueQ (.ctl k d) data) := by
  have entry := shaped.entries k d
  rw [enqueueQ_eq s data (.ctl k d) entry.ctl positive]
  refine (setEbuf shaped k { s.ebuf k d with
    cfeCtlQ := cfilQueueEnqueue (s.ebuf k d).cfeCtlQ data (dataLen data) }
    ⟨entry.ctl.enqueue positive, entry.pending, entry.adjacent, entry.passFrom,
      entry.passPeek, entry.peekedFrom, entry.peekedTo⟩).rebalance ?_
  simp [CfeBuf.chains, cfilQueueEnqueue, FlowSt.queue]

theorem injectEnqueue (shaped : Shaped s) {data : Chain} (positive : 0 < dataLen data) :
    Moves d {data} 0 s (s.enqueueQ (.inject d) data) := by
  rw [enqueueQ_eq s data (.inject d) (shaped.inject d) positive]
  refine (setInject shaped _ ((shaped.inject d).enqueue positive)).rebalance ?_
  simp [cfilQueueEnqueue, FlowSt.queue]

end Moves

theorem passLoop_moves (k : Kcunit) : ∀ fuel s, Shaped s → Moves d 0 0 s (passLoop d k fuel s)
  | 0, s, shaped => .refl shaped
  | fuel + 1, s, shaped => by
    have entry := shaped.entries k d
    unfold passLoop
    dsimp only
    split
    · exact .refl shaped
    · rename_i data rest head
      have passPeek := entry.passPeek
      split_ifs
      · omega
      · omega
      · rw [verify_of (by simp)]
        have raised := Moves.setPeeked (d := d) (p := (s.ebuf k d).cfeCtlQ.qStart + dataLen data)
          shaped k (by omega) (by omega)
        have moved := @Moves.passMove d _ raised.shaped k data rest
          (by simpa using head) (by simpa using ‹_ ≤ _›) (by simp)
        exact (raised.trans (moved.trans (passLoop_moves k fuel _ moved.shaped))).of_eq (by simp) (by simp)
      · rw [verify_of (by simp)]
        have moved := Moves.passMove shaped k head ‹_› (by omega)
        exact (moved.trans (passLoop_moves k fuel _ moved.shaped)).of_eq (by simp) (by simp)
      · rw [verify_of (by simp only [decide_eq_true_eq]; omega)]
        exact .setPeeked shaped k (by omega) (by omega)
      · rw [verify_of (by simp only [decide_eq_true_eq]; omega)]
        exact .refl shaped
      · omega
      · omega
      · exact .refl shaped

theorem peekLoop_moves (k : Kcunit) : ∀ (chains : List Chain) (currentoffset : Nat) (s : FlowSt),
    Shaped s → currentoffset ≤ (s.ebuf k d).cfePeeked →
      Moves d 0 0 s (peekLoop env d k chains currentoffset s)
  | [], _, s, shaped, _ => .refl shaped
  | data :: rest, cur, s, shaped, below => by
    have entry := shaped.entries k d
    by_cases live : cur < (s.ebuf k d).cfePeekOffset
    swap
    · simp only [peekLoop, if_neg live]; exact .refl shaped
    by_cases seen : cur + dataLen data ≤ (s.ebuf k d).cfePeeked
    · simp only [peekLoop, if_pos live, if_pos seen]
      exact peekLoop_moves k rest _ s shaped seen
    have fresh : (s.ebuf k d).cfePeeked - cur < dataLen data := by omega
    simp only [peekLoop, if_pos live, if_neg seen, below, fresh, and_self, decide_True, verify_true,
      Nat.sub_le]
    have bound : (s.ebuf k d).cfePeeked + (if cur + ((s.ebuf k d).cfePeeked - cur) +
        (dataLen data - ((s.ebuf k d).cfePeeked - cur)) > (s.ebuf k d).cfePeekOffset then
        (s.ebuf k d).cfePeekOffset - (cur + ((s.ebuf k d).cfePeeked - cur))
        else dataLen data - ((s.ebuf k d).cfePeeked - cur)) ≤ (s.ebuf k d).cfePeekOffset := by
      have := entry.peekedTo; split <;> omega
    generalize (if cur + ((s.ebuf k d).cfePeeked - cur) + (dataLen data - ((s.ebuf k d).cfePeeked - cur)) >
        (s.ebuf k d).cfePeekOffset then (s.ebuf k d).cfePeekOffset - (cur + ((s.ebuf k d).cfePeeked - cur))
      else dataLen data - ((s.ebuf k d).cfePeeked - cur)) = copylen at bound ⊢
    have events := EventsOnly.dataEvent env k d data ((s.ebuf k d).cfePeeked - cur) copylen s
    generalize cfilDispatchDataEvent env k d data ((s.ebuf k d).cfePeeked - cur) copylen s = r at events ⊢
    have dispatched : Moves d 0 0 s r.1 := .of_eventsOnly shaped events
    have raised := dispatched.trans (Moves.setPeeked (p := (s.ebuf k d).cfePeeked + copylen)
      dispatched.shaped k (by rw [events.ebuf]; have := entry.peekedFrom; omega) (by rwa [events.ebuf]))
    split_ifs
    · exact .refl shaped
    · exact dispatched
    · exact raised.of_eq (by simp) (by simp)
    · exact (raised.trans (peekLoop_moves k rest _ _ raised.shaped (by simp [events.ebuf]; omega))).of_eq
        (by simp) (by simp)

/-- What the entries after one may do: servicing them keeps every chain, and a non-empty
chain handed to them is taken (any error) or handed back (`0`). -/
structure Downstream.Good (ds : Downstream) : Prop where
  walk : ∀ s, Shaped s → Moves d 0 0 s (ds.walk s).1
  forward : ∀ m s, Shaped s → 0 < dataLen m →
    Moves d (if (ds.forward m s).2 = .ok then 0 else {m}) 0 s (ds.forward m s).1

variable {d}

theorem pendingLoop_moves {ds : Downstream} (good : ds.Good d) (k : Kcunit) (passlen : Nat) :
    ∀ fuel curlen error s, Shaped s → Moves d 0 0 s (pendingLoop d k ds passlen fuel curlen error s).1
  | 0, _, _, s, shaped => .refl shaped
  | fuel + 1, curlen, error, s, shaped => by
    unfold pendingLoop
    dsimp only
    split
    · exact .refl shaped
    · rename_i data rest head
      have positive := (shaped.entries k d).pending.nonempty data (by simp [head])
      have removed := Moves.pendingRemove shaped k head
      have sent := good.forward data _ removed.shaped positive
      split_ifs with over passed
      · exact .refl shaped
      · rw [if_pos passed] at sent
        have injected := Moves.injectEnqueue (d := d) sent.shaped positive
        exact ((removed.trans sent).trans (injected.trans
          (pendingLoop_moves good k passlen fuel _ _ _ injected.shaped))).rebalance (by simp)
      · rw [if_neg passed] at sent
        exact ((removed.trans sent).trans (pendingLoop_moves good k passlen fuel _ _ _ sent.shaped)).rebalance
          (by simp)

theorem servicePendingQueueWith_moves {ds : Downstream} (good : ds.Good d) (k : Kcunit) (s : FlowSt)
    (shaped : Shaped s) : Moves d 0 0 s (cfilServicePendingQueueWith d k ds s).1 := by
  unfold cfilServicePendingQueueWith
  dsimp only
  split
  · exact (good.walk s shaped).verifyInfo
  · exact (pendingLoop_moves good k _ _ _ _ s shaped).verifyInfo

theorem disconnectTail_events (k : Kcunit) (s : FlowSt) :
    EventsOnly s (if d then (if s.info.cfiFlags.shutWr && !(s.entry k).cfeFlags.sentDisconnectOut then
        (cfilDispatchDisconnectEvent env k true s).1 else s)
      else (if s.info.cfiFlags.shutRd && !(s.entry k).cfeFlags.sentDisconnectIn then
        (cfilDispatchDisconnectEvent env k false s).1 else s)) := by
  split_ifs <;> first | rfl | exact EventsOnly.disconnectEvent env _ _ s

theorem serviceCtlQBody_moves {ds : Downstream} (good : ds.Good d) (k : Kcunit) (s : FlowSt)
    (shaped : Shaped s) : Moves d 0 0 s (serviceCtlQBody env d k ds s).1 := by
  unfold serviceCtlQBody
  dsimp only
  have passed := passLoop_moves d k (s.ebuf k d).cfeCtlQ.qMq.length s shaped
  generalize passLoop d k (s.ebuf k d).cfeCtlQ.qMq.length s = s₁ at passed ⊢
  have peeked := peekLoop_moves env d k (s₁.ebuf k d).cfeCtlQ.qMq _ _ passed.shaped
    (passed.shaped.entries k d).peekedFrom
  rw [passed.shaped.verifyInfo_eq]
  generalize peekLoop env d k (s₁.ebuf k d).cfeCtlQ.qMq (s₁.ebuf k d).cfeCtlQ.qStart s₁ = s₂ at peeked ⊢
  have pending := servicePendingQueueWith_moves good k _ peeked.shaped
  rw [peeked.shaped.verifyInfo_eq]
  generalize cfilServicePendingQueueWith d k ds s₂ = r at pending ⊢
  have tail := Moves.of_eventsOnly (d := d) pending.shaped (disconnectTail_events (d := d) env k r.1)
  split
  · exact ((passed.trans (peeked.trans pending)).of_eq (by simp) (by simp)).verifyInfo
  · exact ((passed.trans (peeked.trans (pending.trans tail))).of_eq (by simp) (by simp)).verifyInfo

theorem serviceCtlQWith_moves {ds : Downstream} (good : ds.Good d) (k : Kcunit) (s : FlowSt)
    (shaped : Shaped s) : Moves d 0 0 s (cfilDataServiceCtlQWith env d k ds s).1 := by
  have attached := Moves.of_eventsOnly (d := d) shaped (EventsOnly.attachEvent env (some k) s)
  unfold cfilDataServiceCtlQWith
  dsimp only
  by_cases sent : (s.entry k).cfeFlags.sentSockAttached = true
  · rw [if_neg (by simp [sent])]
    split
    · exact (Moves.refl shaped).verifyInfo
    · exact serviceCtlQBody_moves env good k s shaped
  · rw [if_pos (by simp [sent])]
    split
    · exact attached.verifyInfo
    · exact (attached.trans (serviceCtlQBody_moves env good k _ attached.shaped)).of_eq (by simp) (by simp)

theorem dataFilterWith_moves {ds : Downstream} (good : ds.Good d) (k : Kcunit) (data : Chain)
    (s : FlowSt) (shaped : Shaped s) (positive : 0 < dataLen data) :
    Moves d (if (cfilDataFilterWith env d k ds data s).2 = .ok then 0 else {data}) 0 s
      (cfilDataFilterWith env d k ds data s).1 := by
  by_cases detached : (s.entry k).cfeFilter.isNone
  · simpa [cfilDataFilterWith, detached] using (Moves.refl (d := d) shaped).verifyInfo
  · have queued := Moves.ctlEnqueue (d := d) shaped k positive
    simpa [cfilDataFilterWith, detached] using
      ((queued.trans (serviceCtlQWith_moves env good k _ queued.shaped)).of_eq (by simp) (by simp)).verifyInfo

theorem downstream_good : ∀ order : List Kcunit, (downstream env d order).Good d
  | [] => ⟨fun _ shaped => .refl shaped, fun _ _ shaped _ => (Moves.refl shaped).of_eq (by simp [downstream]) rfl⟩
  | j :: rest => by
    have good := downstream_good rest
    refine ⟨fun s shaped => ?_, fun data s shaped positive => ?_⟩
    · have serviced := serviceCtlQWith_moves env good j s shaped
      simp only [downstream]
      split
      · exact (serviced.trans (good.walk _ serviced.shaped)).of_eq (by simp) (by simp)
      · exact serviced
    · have filtered := dataFilterWith_moves env good j data s shaped positive
      simp only [downstream]
      split
      · rename_i passed
        rw [if_pos passed] at filtered
        exact (filtered.trans (good.forward data _ filtered.shaped positive)).of_eq (by simp) (by simp)
      · rename_i taken
        simpa [if_neg taken] using filtered

theorem serviceCtlQWith_serviced {ds : Downstream} (good : ds.Good d) (k : Kcunit) (s : FlowSt)
    (inv : StructInv s) : Serviced d 0 s (cfilDataServiceCtlQWith env d k ds s).1 :=
  ((serviceCtlQWith_moves env good k s inv.shaped).serviced inv.sane).of_eq (by simp)

theorem servicePendingQueueWith_serviced {ds : Downstream} (good : ds.Good d) (k : Kcunit) (s : FlowSt)
    (inv : StructInv s) : Serviced d 0 s (cfilServicePendingQueueWith d k ds s).1 :=
  ((servicePendingQueueWith_moves good k s inv.shaped).serviced inv.sane).of_eq (by simp)

theorem dataFilterWith_serviced {ds : Downstream} (good : ds.Good d) (k : Kcunit) (data : Chain)
    (s : FlowSt) (inv : StructInv s) (positive : 0 < dataLen data) :
    Serviced d (if (cfilDataFilterWith env d k ds data s).2 = .ok then 0 else dataLen data) s
      (cfilDataFilterWith env d k ds data s).1 :=
  ((dataFilterWith_moves env good k data s inv.shaped positive).serviced inv.sane).of_eq (by split <;> simp)

end ContentFilter
