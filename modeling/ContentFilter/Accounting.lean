import ContentFilter.Bless
import ContentFilter.Drop
import ContentFilter.PendingWindow
import Mathlib.Algebra.Order.BigOperators.Group.Finset
import Mathlib.Algebra.Order.BigOperators.Group.Multiset

/-! The pending window as the chains it counts, so that `cfil_sock_data_pending` answers 0
only with nothing held, and a write shutdown never overtakes held data. -/

namespace ContentFilter

/-- The mbuf storage `cfil_data_length` counts for a chain. -/
def storage (msize : Nat) (m : Chain) : Nat := (cfilDataLength msize m).2.1

/-- One direction of the pending window as a multiset `w` of chains: the chains held, and
`transit` more, are among them; its width and `cfi_pending_mbcnt` are their sums. -/
def Counted (msize : Nat) (s : FlowSt) (d : Bool) (transit : Multiset Chain) : Prop :=
  ∃ w : Multiset (Nat × Nat), (heldChains s d + transit).map (fun m => (dataLen m, storage msize m)) ≤ w ∧
    (s.ibuf d).cfiPendingFirst + (w.map Prod.fst).sum = (s.ibuf d).cfiPendingLast ∧
    (s.ibuf d).cfiPendingMbcnt = (w.map Prod.snd).sum

/-- The accounting invariant: the flow's shape, and both windows counting what it holds. -/
structure Accounted (msize : Nat) (s : FlowSt) : Prop where
  shaped : Shaped s
  counted : ∀ d, Counted msize s d 0

variable {env : Env} {msize : Nat} {s s' : FlowSt} {d : Bool} {t : Multiset Chain}

theorem Shaped.of_bufs (shaped : Shaped s) (ebuf : ∀ k d, s'.ebuf k d = s.ebuf k d)
    (ibuf : ∀ d, s'.ibuf d = s.ibuf d) : Shaped s' :=
  ⟨fun k d => ebuf k d ▸ shaped.entries k d, fun d => ibuf d ▸ shaped.inject d, fun d => ibuf d ▸ shaped.window d⟩

namespace Counted

theorem mono {t' : Multiset Chain} (counted : Counted msize s d t) (le : heldChains s' d + t' ≤ heldChains s d + t)
    (first : (s'.ibuf d).cfiPendingFirst = (s.ibuf d).cfiPendingFirst)
    (last : (s'.ibuf d).cfiPendingLast = (s.ibuf d).cfiPendingLast)
    (mbcnt : (s'.ibuf d).cfiPendingMbcnt = (s.ibuf d).cfiPendingMbcnt) : Counted msize s' d t' := by
  obtain ⟨w, fits, first', mbcnt'⟩ := counted
  exact ⟨w, (Multiset.map_le_map le).trans fits, by rw [first, last]; exact first', by rw [mbcnt]; exact mbcnt'⟩

theorem of_ibuf (counted : Counted msize s d t) (chains : heldChains s' d = heldChains s d)
    (ibuf : s'.ibuf d = s.ibuf d) : Counted msize s' d t :=
  counted.mono (by rw [chains]) (by rw [ibuf]) (by rw [ibuf]) (by rw [ibuf])

theorem forget (t' : Multiset Chain) (counted : Counted msize s d (t + t')) : Counted msize s d t :=
  counted.mono (by rw [← add_assoc]; exact le_add_right le_rfl) rfl rfl rfl

theorem moves {d' : Bool} {g l : Multiset Chain} (counted : Counted msize s d' (t + if d' = d then g else 0))
    (moves : Moves d g l s s') : Counted msize s' d' (t + if d' = d then l else 0) := by
  obtain ⟨w, fits, first, mbcnt⟩ := counted
  have same : heldChains s' d' + (t + if d' = d then l else 0) = heldChains s d' + (t + if d' = d then g else 0) := by
    rw [add_left_comm, moves.chains d', add_left_comm]
  exact ⟨w, same ▸ fits, by rw [moves.first, moves.last]; exact first, by rw [moves.mbcnt]; exact mbcnt⟩

end Counted

namespace Accounted

theorem of_bufs (acc : Accounted msize s) (ebuf : ∀ k d, s'.ebuf k d = s.ebuf k d) (ibuf : ∀ d, s'.ibuf d = s.ibuf d) :
    Accounted msize s' where
  shaped := acc.shaped.of_bufs ebuf ibuf
  counted d := (acc.counted d).of_ibuf (by simp [heldChains, ebuf, ibuf]) (ibuf d)

theorem of_eventsOnly (acc : Accounted msize s) (events : EventsOnly s s') : Accounted msize s' :=
  acc.of_bufs events.ebuf events.ibuf

theorem setIflags (acc : Accounted msize s) (f : CfiFlags) : Accounted msize (s.setIflags f) :=
  acc.of_bufs (fun _ _ => rfl) (fun _ => by simp)

theorem verifyInfo (acc : Accounted msize s) : Accounted msize s.verifyInfo := by
  rwa [acc.shaped.verifyInfo_eq]

theorem verify (acc : Accounted msize s) (c : Bool) : Accounted msize (s.verify c) :=
  acc.of_bufs (fun _ _ => by simp) (fun _ => by simp)

theorem sock (acc : Accounted msize s) (so : SockSt) : Accounted msize { s with sock := so } :=
  acc.of_bufs (fun _ _ => rfl) (fun _ => rfl)

end Accounted

theorem Shaped.setIbuf (shaped : Shaped s) {b : CfiBuf} (inject : b.cfiInjectQ = (s.ibuf d).cfiInjectQ)
    (window : b.cfiPendingFirst ≤ b.cfiPendingLast) : Shaped (s.setIbuf d b) := by
  refine ⟨fun k d' => by simpa using shaped.entries k d', fun d' => ?_, fun d' => ?_⟩ <;>
    rw [ibuf_setIbuf_apply] <;> split
  · rw [inject]; exact shaped.inject d
  · exact shaped.inject d'
  · exact window
  · exact shaped.window d'

theorem Shaped.verify (shaped : Shaped s) (c : Bool) : Shaped (s.verify c) :=
  shaped.of_bufs (fun _ _ => by simp) (fun _ => by simp)

theorem Counted.verify (counted : Counted msize s d t) (c : Bool) : Counted msize (s.verify c) d t :=
  counted.of_ibuf (by simp [heldChains]) (by simp)

theorem Counted.setIbuf {b : CfiBuf} (inject : b.cfiInjectQ = (s.ibuf d).cfiInjectQ) (w : Multiset (ℕ × ℕ))
    (fits : (heldChains s d + t).map (fun m => (dataLen m, storage msize m)) ≤ w)
    (first : b.cfiPendingFirst + (w.map Prod.fst).sum = b.cfiPendingLast)
    (mbcnt : b.cfiPendingMbcnt = (w.map Prod.snd).sum) : Counted msize (s.setIbuf d b) d t :=
  ⟨w, by rwa [heldChains_setIbuf_keeping inject], by simpa using first, by simpa using mbcnt⟩

theorem Counted.setIbuf_other {d' : Bool} {b : CfiBuf} (inject : b.cfiInjectQ = (s.ibuf d).cfiInjectQ)
    (other : d' ≠ d) (counted : Counted msize s d' t) : Counted msize (s.setIbuf d b) d' t :=
  counted.of_ibuf (heldChains_setIbuf_keeping inject d') (by rw [ibuf_setIbuf_apply, if_neg other])

theorem Counted.split {data : Chain} (counted : Counted msize s d (t + {data})) :
    ∃ w : Multiset (ℕ × ℕ), (heldChains s d + t).map (fun m => (dataLen m, storage msize m)) ≤ w ∧
      (s.ibuf d).cfiPendingFirst + dataLen data + (w.map Prod.fst).sum = (s.ibuf d).cfiPendingLast ∧
      (s.ibuf d).cfiPendingMbcnt = storage msize data + (w.map Prod.snd).sum := by
  obtain ⟨w, fits, first, mbcnt⟩ := counted
  rw [← add_assoc, Multiset.map_add, Multiset.map_singleton, add_comm, Multiset.singleton_add] at fits
  obtain ⟨w', rfl⟩ : ∃ w', w = (dataLen data, storage msize data) ::ₘ w' :=
    ⟨_, (Multiset.cons_erase (Multiset.mem_of_le fits (Multiset.mem_cons_self _ _))).symm⟩
  rw [Multiset.cons_le_cons_iff] at fits
  simp only [Multiset.map_cons, Multiset.sum_cons] at first mbcnt
  exact ⟨w', fits, by omega, mbcnt⟩

section Counters

variable {data : Chain} {d' : Bool}

theorem Counted.enter (data : Chain) (counted : Counted env.msize s d' t) :
    Counted env.msize (pendingAdmit env d data s) d' (t + if d' = d then {data} else 0) := by
  simp only [pendingAdmit, cfilDataLength]
  by_cases same : d' = d
  · subst same
    obtain ⟨w, fits, first, mbcnt⟩ := counted
    refine Counted.setIbuf rfl ((dataLen data, storage env.msize data) ::ₘ w) ?_ ?_ ?_
    · rw [if_pos rfl, ← add_assoc, Multiset.map_add, Multiset.map_singleton, add_comm, Multiset.singleton_add]
      exact Multiset.cons_le_cons _ fits
    · simp only [Multiset.map_cons, Multiset.sum_cons, ← first]
      omega
    · simp [mbcnt, storage, cfilDataLength, add_comm]
  · rw [if_neg same, add_zero]
    exact counted.setIbuf_other rfl same

theorem Counted.release (counted : Counted env.msize s d' (t + if d' = d then {data} else 0)) :
    Counted env.msize (pendingRelease env d data s) d' t := by
  simp only [pendingRelease, cfilDataLength]
  refine Counted.verify ?_ _
  by_cases same : d' = d
  · subst same
    rw [if_pos rfl] at counted
    obtain ⟨w, fits, first, mbcnt⟩ := counted.split
    refine Counted.setIbuf rfl w fits ?_ ?_
    · dsimp only; omega
    · simp only [storage, cfilDataLength] at mbcnt ⊢; omega
  · rw [if_neg same, add_zero] at counted
    exact counted.setIbuf_other rfl same

theorem Counted.release_window (counted : Counted env.msize s d (t + {data})) :
    (s.ibuf d).cfiPendingFirst + dataLen data ≤ (s.ibuf d).cfiPendingLast := by
  obtain ⟨w, -, first, -⟩ := counted.split
  omega

end Counters

namespace Counted

theorem moves_zero {d' : Bool} (counted : Counted msize s d' t) (moves : Moves d 0 0 s s') :
    Counted msize s' d' t := by
  simpa using Counted.moves (t := t) (d := d) (by simpa using counted) moves

theorem moves_out {d' : Bool} {l : Multiset Chain} (counted : Counted msize s d' t) (moves : Moves d 0 l s s') :
    Counted msize s' d' (t + if d' = d then l else 0) :=
  Counted.moves (by simpa using counted) moves

end Counted

theorem Accounted.moves (acc : Accounted msize s) (moves : Moves d 0 0 s s') : Accounted msize s' :=
  ⟨moves.shaped, fun d' => (acc.counted d').moves_zero moves⟩

theorem Accounted.release {data : Chain} (shaped : Shaped s)
    (counted : ∀ d', Counted env.msize s d' (if d' = d then {data} else 0)) :
    Accounted env.msize (pendingRelease env d data s) where
  shaped := by
    have window := Counted.release_window (t := 0) (by simpa using counted d)
    simp only [pendingRelease, cfilDataLength]
    refine (shaped.setIbuf ?_ ?_).verify _
    · rfl
    · dsimp only; omega
  counted _ := Counted.release (by simpa using counted _)

theorem Moves.injectRemove (shaped : Shaped s) {data : Chain} {rest : List Chain}
    (head : (s.ibuf d).cfiInjectQ.qMq = data :: rest) : Moves d 0 {data} s (s.removeQ (.inject d) data) := by
  have valid := shaped.inject d
  rw [removeQ_eq s data (.inject d) valid head]
  refine (Moves.setInject shaped _ (valid.remove head)).rebalance ?_
  rw [zero_add, add_comm]
  simp [cfilQueueRemove, FlowSt.queue, head]

section Reinjection

variable (env) (d)

theorem Accounted.injectDequeue {s : FlowSt} (acc : Accounted env.msize s) {data : Chain} {rest : List Chain}
    (head : (s.ibuf d).cfiInjectQ.qMq = data :: rest) : Accounted env.msize (injectDequeue env d data s) :=
  have removed := Moves.injectRemove acc.shaped head
  Accounted.release removed.shaped fun d' => by simpa using (acc.counted d').moves_out removed

theorem injectLoop_accounted : ∀ fuel error s, Accounted env.msize s → Accounted env.msize (injectLoop env d fuel error s).1
  | 0, _, _, acc => acc
  | fuel + 1, error, s, acc => by
    unfold injectLoop
    split
    · exact acc
    · rename_i data rest head
      have dequeued := acc.injectDequeue env d head
      dsimp only
      generalize injectDequeue env d data s = s₁ at dequeued ⊢
      split
      · split
        · exact dequeued.of_bufs (fun _ _ => rfl) (fun _ => rfl)
        · exact injectLoop_accounted fuel _ _ (dequeued.of_bufs (fun _ _ => rfl) (fun _ => rfl))
      · exact injectLoop_accounted fuel _ _ (dequeued.of_bufs (fun _ _ => rfl) (fun _ => rfl))

theorem Accounted.setRetryInject {s : FlowSt} (acc : Accounted msize s) (retry : Bool) :
    Accounted msize (setRetryInject d s retry) :=
  acc.setIflags _

theorem serviceInjectQueue_accounted (s : FlowSt) (acc : Accounted env.msize s) :
    Accounted env.msize (cfilServiceInjectQueue env d s).1 :=
  serviceInjectQueue_of_steps env d (Accounted env.msize) acc (fun _ retry acc => acc.setRetryInject d retry)
    (injectLoop_accounted env d)
    (fun _ => serviceInjectTail_of_frame env _ (fun _ c acc => acc.verify c) (fun _ so _ _ _ acc => acc.sock so)
      (fun _ f _ acc => acc.setIflags f) (fun _ acc => acc.sock _) (fun _ _ events acc => acc.of_eventsOnly events))
    (fun _ acc => acc.verifyInfo)

theorem setSocketPassOffset_accounted (s : FlowSt) (acc : Accounted msize s) :
    Accounted msize (cfilSetSocketPassOffset d s) := by
  have written : ∀ p, Accounted msize (s.setIbuf d { s.ibuf d with cfiPassOffset := p }) := fun p =>
    have chains := heldChains_setIbuf_keeping (b := { s.ibuf d with cfiPassOffset := p }) rfl
    ⟨acc.shaped.setIbuf rfl (acc.shaped.window d), fun d' => by
      by_cases same : d' = d
      · subst same
        exact (acc.counted d').mono (by rw [chains]) (by simp) (by simp) (by simp)
      · exact (acc.counted d').setIbuf_other rfl same⟩
  unfold cfilSetSocketPassOffset
  dsimp only
  split
  · exact written _
  · exact acc

theorem actionDataPass_accounted (k : Kcunit) (passOffset peekOffset : Nat) (s : FlowSt) (acc : Accounted env.msize s) :
    Accounted env.msize (cfilActionDataPass env d k passOffset peekOffset s).1 :=
  actionDataPass_of_steps env d k passOffset peekOffset (Accounted env.msize) acc
    (acc.moves (updateDataOffsets_moves env d k passOffset peekOffset s acc.shaped)) (serviceInjectQueue_accounted env d)
    (setSocketPassOffset_accounted d) fun _ acc => acc.verifyInfo

end Reinjection

theorem Counted.moves_in {d' : Bool} {g : Multiset Chain} (counted : Counted msize s d' (t + if d' = d then g else 0))
    (moves : Moves d g 0 s s') : Counted msize s' d' t := by
  simpa using counted.moves moves

theorem Shaped.enter {data : Chain} (shaped : Shaped s) : Shaped (pendingAdmit env d data s) := by
  simp only [pendingAdmit, cfilDataLength]
  refine shaped.setIbuf ?_ ?_
  · rfl
  · have := shaped.window d
    dsimp only; omega

theorem Accounted.tailDrop {data : Chain} {b : CfiBuf} (shaped : Shaped s)
    (counted : ∀ d', Counted msize s d' (if d' = d then {data} else 0))
    (inject : b.cfiInjectQ = (s.ibuf d).cfiInjectQ) (first : b.cfiPendingFirst = (s.ibuf d).cfiPendingFirst)
    (last : b.cfiPendingLast = (s.ibuf d).cfiPendingLast)
    (mbcnt : b.cfiPendingMbcnt = (s.ibuf d).cfiPendingMbcnt - storage msize data) : Accounted msize (s.setIbuf d b) where
  shaped := shaped.setIbuf inject (by rw [first, last]; exact shaped.window d)
  counted d' := by
    by_cases same : d' = d
    · subst same
      obtain ⟨w, fits, first', mbcnt'⟩ := Counted.split (t := 0) (by simpa using counted d')
      refine Counted.setIbuf inject ((dataLen data, 0) ::ₘ w) ((Multiset.le_cons_self _ _).trans' ?_) ?_ ?_
      · simpa using fits
      · simp only [Multiset.map_cons, Multiset.sum_cons]; omega
      · simp only [Multiset.map_cons, Multiset.sum_cons]; omega
    · simpa [same] using (counted d').setIbuf_other inject same

section DataCommon

variable (env) (d)

theorem dataCommon_accounted (data : Chain) (s : FlowSt) (acc : Accounted env.msize s) :
    Accounted env.msize (cfilDataCommon env d data s).1 := by
  unfold cfilDataCommon
  split
  · exact acc.verifyInfo
  simp only [cfilDataLength]
  split
  · exact acc.verifyInfo
  rename_i nonempty
  have admitted : ∀ d', Counted env.msize (pendingAdmit env d data s) d' (if d' = d then {data} else 0) :=
    fun d' => by simpa using (acc.counted d').enter (d := d) data
  have shaped₂ : Shaped (pendingAdmit env d data s) := acc.shaped.enter
  generalize pendingAdmit env d data s = s₂ at admitted shaped₂ ⊢
  split
  · refine Accounted.tailDrop shaped₂ admitted ?_ ?_ ?_ ?_ <;> rfl
  have counted₃ := fun d' => (admitted d').verify (cfilInfoBufVerify (s₂.ibuf d))
  have shaped₃ := shaped₂.verify (cfilInfoBufVerify (s₂.ibuf d))
  generalize s₂.verify (cfilInfoBufVerify (s₂.ibuf d)) = s₃ at counted₃ shaped₃ ⊢
  generalize hx : (if (s₂.ibuf d).cfiPendingLast ≤ (s₂.ibuf d).cfiPassOffset then
      .ok (cfilUpdateEntryOffsets d (dataLen data) s₃, .ok)
      else dataCommonSlowPath env d data s₃.info.cfiOrderedEntries false .ok s₃) = x
  have landed : SlowMoves d data s₃ x := by
    subst hx
    split
    · simpa [SlowMoves] using updateEntryOffsets_moves d (dataLen data) s₃ shaped₃
    · exact dataCommonSlowPath_moves env d data (Nat.pos_of_ne_zero nonempty) _ false s₃ shaped₃
  cases x with
  | error s₄ =>
    exact ⟨landed.shaped, fun d' => Counted.forget (t := 0) (if d' = d then {data} else 0)
      (by simpa using (counted₃ d').moves_zero landed)⟩
  | ok r =>
    obtain ⟨s₄, error⟩ := r
    dsimp only [SlowMoves] at landed ⊢
    refine Accounted.verifyInfo ?_
    split
    · rename_i passed
      rw [if_pos passed] at landed
      exact Accounted.release landed.shaped fun d' => (counted₃ d').moves_zero landed
    · rename_i taken
      rw [if_neg taken] at landed
      exact ⟨landed.shaped, fun d' => Counted.moves_in (by simpa using counted₃ d') landed⟩

end DataCommon

theorem Accounted.drain (acc : Accounted msize s) : Accounted msize (drainDirection d s) where
  shaped := drainDirection_shaped d s acc.shaped
  counted d' := by
    have ibuf := drainDirection_ibuf d s d'
    refine (acc.counted d').mono (by rw [heldChains_drainDirection]; split <;> simp) ?_ ?_ ?_ <;>
      rw [ibuf] <;> split <;> simp_all

theorem Accounted.flush (acc : Accounted msize s) : Accounted msize (cfilFlushQueues s) :=
  ((acc.drain (d := true)).drain (d := false)).verifyInfo

theorem Accounted.actionDrop (acc : Accounted msize s) (k : Kcunit) : Accounted msize (cfilActionDrop k s).1 := by
  unfold cfilActionDrop
  split
  · exact acc
  refine (Accounted.flush (Accounted.of_eventsOnly ?_ (EventsOnly.setEflags _ _ _))).of_eventsOnly
    (wakeCloseWait_events _)
  dsimp only
  split
  · exact acc.setIflags _
  · exact (acc.setIflags _).of_bufs (fun _ _ => rfl) (fun _ => rfl)

section Calls

variable (env) (d)

theorem ctlSend_accounted (k : Kcunit) (action : CfilAction) (s : FlowSt) (acc : Accounted env.msize s) :
    Accounted env.msize (cfilCtlSend env k action s).1 :=
  ctlSend_of_steps env k action (Accounted env.msize) acc (fun t f acc => acc.of_eventsOnly (EventsOnly.setEflags t k f))
    (fun _ f acc => acc.setIflags f) (fun d passOffset peekOffset t acc => actionDataPass_accounted env d k passOffset peekOffset t acc)
    fun _ acc => acc.actionDrop k

theorem blessClient_accounted (k : Kcunit) (s : FlowSt) (acc : Accounted env.msize s) :
    Accounted env.msize (cfilActionBlessClient env k s).1 :=
  have verdict : Accounted env.msize (cfilSockReceivedVerdict s) := acc.setIflags _
  actionDataPass_accounted env false k _ _ _ (actionDataPass_accounted env true k _ _ _ verdict)

theorem ctlDisconnectEntry_accounted (k : Kcunit) (s : FlowSt) (acc : Accounted env.msize s) :
    Accounted env.msize (cfilCtlDisconnectEntry env k s).1 :=
  ctlDisconnectEntry_of_steps env k (Accounted env.msize) acc (fun d t acc => actionDataPass_accounted env d k _ _ t acc)
    fun _ acc => acc.of_bufs (fun _ _ => by simp [ctlDisconnectDetach]) (fun _ => by simp [ctlDisconnectDetach, unlinkEntry])

theorem sockBufUpdate_accounted (s : FlowSt) (acc : Accounted env.msize s) :
    Accounted env.msize (cfilSockBufUpdate env d s) :=
  sockBufUpdate_of_steps env d (Accounted env.msize) acc (serviceInjectQueue_accounted env d s acc)

theorem sockShutdown_accounted (shutRd shutWr : Bool) (s : FlowSt) (acc : Accounted env.msize s) :
    Accounted env.msize (cfilSockShutdown env shutRd shutWr s).1 :=
  sockShutdown_of_steps env shutRd shutWr (Accounted env.msize) acc (fun _ f acc => acc.setIflags f)
    (fun rd wr t acc => acc.of_eventsOnly (notifyShutdownFlow_events env rd wr t))
    fun _ acc => acc.of_bufs (fun _ _ => by simp [cfilSockDataPending]) (fun _ => by simp [cfilSockDataPending])

theorem sockIsClosed_accounted (s : FlowSt) (acc : Accounted env.msize s) :
    Accounted env.msize (cfilSockIsClosed env s) :=
  sockIsClosed_of_steps env (Accounted env.msize) (fun _ events => acc.of_eventsOnly events)
    (fun t acc => serviceInjectQueue_accounted env true t acc) (fun _ f acc => acc.setIflags f) fun _ acc => acc.flush

end Calls

theorem Accounted.alloc (sockId : Nat) (so : SockSt) (flowControlled : Kcunit → Bool) :
    Accounted msize (cfilInfoAlloc sockId so flowControlled) := by
  have empty : ∀ k d, (cfilInfoAlloc sockId so flowControlled).ebuf k d = {} := fun _ d => by cases d <;> rfl
  have fresh : ∀ d, (cfilInfoAlloc sockId so flowControlled).ibuf d = {} := fun d => by cases d <;> rfl
  refine ⟨⟨fun k d => ?_, fun d => ?_, fun d => ?_⟩, fun d => ⟨0, ?_, ?_, ?_⟩⟩
  · rw [empty]; exact ⟨.init, .init, rfl, le_rfl, le_rfl, le_rfl, le_rfl⟩
  · rw [fresh]; exact .init
  · rw [fresh]
  · simp [heldChains, CfeBuf.chains, empty, fresh, cfilQueueInit]
  · rw [fresh]; rfl
  · rw [fresh]; rfl

section Runs

variable (env)

theorem sockAttach_accounted {slots : FilterSlots} {filterControlUnit sockId : Nat} {so : SockSt}
    {flowControlled : Kcunit → Bool} {s : FlowSt}
    (created : cfilSockAttach env slots filterControlUnit sockId so flowControlled = some s) : Accounted env.msize s :=
  sockAttach_of_steps env (Accounted env.msize) (.alloc sockId so flowControlled)
    (fun _ _ _ _ acc => acc.of_bufs (fun _ _ => attachEntry_ebuf _ _ _ _ _ _) (fun _ => rfl))
    (fun _ _ events acc => acc.of_eventsOnly events) created

theorem FlowRun.step_accounted (r : FlowRun) (acc : Accounted env.msize r.st) (op : FlowOp) :
    Accounted env.msize (r.step env op).st := by
  cases op <;> simp only [FlowRun.step]
  case data d m =>
    have common := dataCommon_accounted env d m r.st acc
    generalize cfilDataCommon env d m r.st = x at common ⊢
    obtain ⟨s, error⟩ := x
    dsimp only
    split
    · exact common.of_bufs (fun _ _ => rfl) (fun _ => rfl)
    · exact common
  case action k a => exact ctlSend_accounted env k a r.st acc
  case bless k => exact blessClient_accounted env k r.st acc
  case ctlDisconnect k => exact ctlDisconnectEntry_accounted env k _ (acc.of_eventsOnly (EventsOnly.setEflags _ _ _))
  case bufUpdate d => exact sockBufUpdate_accounted env d r.st acc
  case shutdown shutRd shutWr => exact sockShutdown_accounted env shutRd shutWr r.st acc
  case close => exact sockIsClosed_accounted env r.st acc
  case flowControl k raised => exact acc.of_bufs (fun _ _ => rfl) (fun _ => rfl)
  case isDead =>
    exact sockIsDead_of_frame (Accounted env.msize) (fun _ c acc => acc.verify c) (fun _ so _ _ _ acc => acc.sock so)
      (fun _ f _ acc => acc.setIflags f) acc
  case tcpAddTimeWait =>
    exact sockTcpAddTimeWait_of_frame (Accounted env.msize) (fun _ c acc => acc.verify c)
      (fun _ so _ _ _ acc => acc.sock so) (fun _ f _ acc => acc.setIflags f) acc

theorem FlowReachable.accounted {r : FlowRun} (reach : FlowReachable env r) : Accounted env.msize r.st := by
  induction reach with
  | attach created => exact sockAttach_accounted env created
  | step op _ acc => exact FlowRun.step_accounted env _ acc op

end Runs

theorem Shaped.positive_of_mem {m : Chain} (shaped : Shaped s) (held : m ∈ heldChains s d) : 0 < dataLen m := by
  simp only [heldChains, CfeBuf.chains, Multiset.mem_add, Multiset.mem_sum, Finset.mem_univ, true_and,
    Multiset.mem_coe] at held
  rcases held with ⟨k, ctl | pending⟩ | inject
  · exact (shaped.entries k d).ctl.nonempty m ctl
  · exact (shaped.entries k d).pending.nonempty m pending
  · exact (shaped.inject d).nonempty m inject

theorem storage_pos {m : Chain} (positive : 0 < msize) (bytes : 0 < dataLen m) : 0 < storage msize m := by
  cases m with
  | nil => simp at bytes
  | cons mb rest => simp [storage, cfilDataLength]; omega

theorem Counted.heldChains_eq_zero (counted : Counted msize s d 0) (shaped : Shaped s) (positive : 0 < msize)
    (empty : (s.ibuf d).cfiPendingLast - (s.ibuf d).cfiPendingFirst = 0 ∨ (s.ibuf d).cfiPendingMbcnt = 0) :
    heldChains s d = 0 := by
  obtain ⟨w, fits, first, mbcnt⟩ := counted
  refine Multiset.eq_zero_of_forall_not_mem fun m held => ?_
  have bytes := shaped.positive_of_mem held
  have counted : (dataLen m, storage msize m) ∈ w :=
    Multiset.mem_of_le fits (Multiset.mem_map_of_mem _ (by simpa using held))
  have wide := Multiset.le_sum_of_mem (Multiset.mem_map_of_mem Prod.fst counted)
  have stored := Multiset.le_sum_of_mem (Multiset.mem_map_of_mem Prod.snd counted)
  have := storage_pos positive bytes
  simp only at wide stored
  omega

/-- Direction `d` holds nothing: every entry's control and pending queues and the flow's
inject queue are empty. -/
def HoldsNothing (s : FlowSt) (d : Bool) : Prop :=
  (∀ k, (s.ebuf k d).cfeCtlQ.qMq = [] ∧ (s.ebuf k d).cfePendingQ.qMq = []) ∧ (s.ibuf d).cfiInjectQ.qMq = []

instance (s : FlowSt) (d : Bool) : Decidable (HoldsNothing s d) := inferInstanceAs (Decidable (_ ∧ _))

theorem heldChains_eq_zero_iff : heldChains s d = 0 ↔ HoldsNothing s d := by
  simp [heldChains, HoldsNothing, CfeBuf.chains, Finset.sum_eq_zero_iff]

theorem Accounted.holdsNothing (acc : Accounted msize s) (positive : 0 < msize)
    (pending : (cfilSockDataPending d s).2 = 0) : HoldsNothing s d := by
  rw [← heldChains_eq_zero_iff]
  refine (acc.counted d).heldChains_eq_zero acc.shaped positive ?_
  simp only [cfilSockDataPending] at pending
  split at pending
  · have own := udpFlowPending_le_sum d s
    simp only [udpFlowPending] at own
    split at own <;> simp only [FlowSt.ibuf] <;> omega
  · omega

section Shutdown

variable (env) (d)

theorem injectLoop_sock : ∀ fuel error (s : FlowSt),
    ∃ snd rcv, (injectLoop env d fuel error s).1.sock = { s.sock with soSndPassed := snd, soRcvPassed := rcv }
  | 0, _, _ => ⟨_, _, rfl⟩
  | fuel + 1, error, s => by
    have dequeued : ∀ data, (injectDequeue env d data s).sock = s.sock := fun data => by
      simp [injectDequeue, pendingRelease, FlowSt.removeQ, FlowSt.setQueue]
    unfold injectLoop
    split
    · exact ⟨_, _, rfl⟩
    · next data _ _ =>
      dsimp only
      split
      · split
        · exact ⟨s.sock.soSndPassed ++ [data], s.sock.soRcvPassed, by simp [dequeued]⟩
        · obtain ⟨snd, rcv, looped⟩ := injectLoop_sock fuel _ _
          exact ⟨snd, rcv, looped.trans (by simp [dequeued])⟩
      · obtain ⟨snd, rcv, looped⟩ := injectLoop_sock fuel _ _
        exact ⟨snd, rcv, looped.trans (by simp [dequeued])⟩

theorem injectLoop_shutWrFinal (fuel : Nat) (error : Errno) (s : FlowSt) :
    (injectLoop env d fuel error s).1.sock.soShutWrFinal = s.sock.soShutWrFinal := by
  obtain ⟨_, _, looped⟩ := injectLoop_sock env d fuel error s
  rw [looped]

theorem recheckDelayed_shutWrFinal (s : FlowSt) : (recheckDelayed s).sock.soShutWrFinal = s.sock.soShutWrFinal :=
  recheckDelayed_of_frame (fun t => t.sock.soShutWrFinal = s.sock.soShutWrFinal) (fun _ _ same => by simpa using same)
    (fun _ _ _ _ final same => final.trans same) (fun _ _ _ same => same) rfl

theorem recheckDelayed_holdsNothing {s : FlowSt} (none : HoldsNothing s d) : HoldsNothing (recheckDelayed s) d :=
  recheckDelayed_of_frame (HoldsNothing · d) (fun _ _ none => by simpa [HoldsNothing] using none)
    (fun _ _ _ _ _ none => none) (fun _ _ _ none => none) none

theorem deferredShutWr_fired (positive : 0 < env.msize) (s : FlowSt) (acc : Accounted env.msize s)
    (fired : s.sock.soShutWrFinal < (deferredShutWr env s).sock.soShutWrFinal) :
    HoldsNothing (deferredShutWr env s) true := by
  by_cases shut : s.info.cfiFlags.shutWr = true
  · have notified := acc.of_eventsOnly (notifyShutdown_events env false true s)
    have sock := (notifyShutdown_events env false true s).sock
    simp only [deferredShutWr, shut, if_true] at fired ⊢
    generalize cfilSockNotifyShutdown env false true s = n at notified sock fired ⊢
    rw [← Prod.mk.eta (p := cfilSockDataPending true n)] at fired ⊢
    by_cases pending : (cfilSockDataPending true n).2 = 0
    · simp only [pending, if_true]
      simpa [HoldsNothing, cfilSockDataPending] using notified.holdsNothing positive pending
    · simp only [pending, if_false] at fired
      simp [cfilSockDataPending, sock] at fired
  · simp [deferredShutWr, shut] at fired

theorem serviceInjectQueue_cases (s : FlowSt) (acc : Accounted env.msize s) :
    (cfilServiceInjectQueue env d s).1.sock = s.sock ∨
      ∃ s', Accounted env.msize s' ∧ (∃ snd rcv, s'.sock = { s.sock with soSndPassed := snd, soRcvPassed := rcv }) ∧
        (cfilServiceInjectQueue env d s).1 = (serviceInjectTail env s').verifyInfo := by
  unfold cfilServiceInjectQueue
  dsimp only
  split
  · exact .inl rfl
  split
  · exact .inl rfl
  right
  obtain ⟨snd, rcv, looped⟩ := injectLoop_sock env d ((setRetryInject d s false).ibuf d).cfiInjectQ.qMq.length .ok
    (setRetryInject d s false)
  have accLooped := injectLoop_accounted env d ((setRetryInject d s false).ibuf d).cfiInjectQ.qMq.length .ok _
    (acc.setRetryInject d false)
  generalize injectLoop env d _ _ _ = r at looped accLooped ⊢
  refine ⟨_, ?_, ⟨snd, rcv, ?_⟩, rfl⟩
  · split
    · exact accLooped.setRetryInject d true
    · exact accLooped
  · split <;> simpa [setRetryInject] using looped

theorem serviceInjectQueue_fired (positive : 0 < env.msize) (s : FlowSt) (acc : Accounted env.msize s) :
    s.sock.soShutWrFinal < (cfilServiceInjectQueue env d s).1.sock.soShutWrFinal →
      HoldsNothing (cfilServiceInjectQueue env d s).1 true := by
  intro fired
  rcases serviceInjectQueue_cases env d s acc with same | ⟨s', acc', ⟨snd, rcv, sock⟩, tail⟩
  · exact absurd fired (by rw [same]; exact lt_irrefl _)
  rw [tail] at fired ⊢
  have woken := wakeCloseWait_events (deferredShutWr env s')
  have kept : s.sock.soShutWrFinal = s'.sock.soShutWrFinal := by rw [sock]
  rw [kept] at fired
  simp only [verifyInfo_sock, serviceInjectTail, recheckDelayed_shutWrFinal, woken.sock] at fired
  have woke : HoldsNothing (wakeCloseWait (deferredShutWr env s')) true := by
    simpa [HoldsNothing, woken.ebuf, woken.ibuf] using deferredShutWr_fired env positive s' acc' fired
  simpa [HoldsNothing, serviceInjectTail] using recheckDelayed_holdsNothing true woke

theorem sockShutdown_ok_pending (shutRd : Bool) (s : FlowSt) (live : s.info.cfiFlags.drop = false) :
    (cfilSockShutdown env shutRd true s).2 = (.ok, false) →
      (cfilSockDataPending true (cfilSockShutdown env shutRd true s).1).2 = 0 := by
  unfold cfilSockShutdown
  by_cases rdClosed : (shutRd && s.sock.soCantRcvMore) = true
  · rw [if_pos rdClosed]; simp
  by_cases wrClosed : (true && s.sock.soCantSendMore) = true
  · rw [if_neg rdClosed, if_pos wrClosed]; simp
  by_cases again : (shutRd && s.info.cfiFlags.shutRd) = true
  · rw [if_neg rdClosed, if_neg wrClosed, if_neg (by simp [live]), if_pos again]; simp
  rw [if_neg rdClosed, if_neg wrClosed, if_neg (by simp [live]), if_neg again]
  dsimp only
  generalize (if shutRd then _ else s) = s₁
  rw [if_neg (by decide)]
  split
  · simp
  generalize notifyShutdownFlow env false true _ = n
  split
  · split <;> simp
  · rename_i pending
    intro _
    simpa [cfilSockDataPending] using pending

end Shutdown

/-- A write shutdown never overtakes held data: `cfil_sock_shutdown` on every run, and
`cfil_service_inject_queue` from any accounted state, find no outgoing chain held. -/
theorem write_shutdown_waits_for_held_data (env : Env) (positive : 0 < env.msize) {r : FlowRun}
    (reach : FlowReachable env r) (live : r.st.info.cfiFlags.drop = false) :
    (∀ shutRd, (cfilSockShutdown env shutRd true r.st).2 = (.ok, false) →
      HoldsNothing (cfilSockShutdown env shutRd true r.st).1 true) ∧
    Accounted env.msize r.st ∧
    ∀ s, Accounted env.msize s → ∀ d, s.sock.soShutWrFinal < (cfilServiceInjectQueue env d s).1.sock.soShutWrFinal →
      HoldsNothing (cfilServiceInjectQueue env d s).1 true :=
  have acc := reach.accounted env
  ⟨fun shutRd shut => (sockShutdown_accounted env shutRd true r.st acc).holdsNothing positive
      (sockShutdown_ok_pending env shutRd r.st live shut),
    acc, fun s acc d => serviceInjectQueue_fired env d positive s acc⟩

/-- One filter: a chain goes out and its agent passes everything, after which a write
shutdown completes at once. -/
theorem passAllRun_write_shutdown_completes :
    FlowReachable demoKernel passAllRun ∧ (cfilSockShutdown demoKernel false true passAllRun.st).2 = (.ok, false) ∧
      HoldsNothing (cfilSockShutdown demoKernel false true passAllRun.st).1 true :=
  have reach : FlowReachable demoKernel passAllRun :=
    FlowReachable.run demoKernel (@FlowReachable.attach demoKernel oneFilter 1 7 {} (fun _ => false) _ rfl) _
  have shut : (cfilSockShutdown demoKernel false true passAllRun.st).2 = (.ok, false) := by decide
  ⟨reach, shut, (write_shutdown_waits_for_held_data demoKernel (by decide) reach (by decide)).1 false shut⟩

end ContentFilter
