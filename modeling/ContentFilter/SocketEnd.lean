import ContentFilter.DatagramTeardown
import ContentFilter.Bless

/-! The socket layer's end of a flow: `cfil_sock_is_dead`, `cfil_sock_tcp_add_time_wait`
and their re-checks, the close wait, and the buffer space held data takes. -/

namespace ContentFilter

section Delay

variable {σ : Type} {pending : Bool → σ → σ × Nat} {delay : σ → σ} {goOn : σ → Option σ} {st : σ}

theorem deferWhilePending_goes_on (goes : (deferWhilePending pending delay goOn st).2 = true) :
    (pending true st).2 = 0 ∧ (pending false (pending true st).1).2 = 0 ∧
      goOn (pending false (pending true st).1).1 = some (deferWhilePending pending delay goOn st).1 := by
  unfold deferWhilePending at goes ⊢
  generalize pending true st = sent at goes ⊢
  obtain ⟨st₁, pendingSnd⟩ := sent
  dsimp only at goes ⊢
  generalize pending false st₁ = received at goes ⊢
  obtain ⟨st₂, pendingRcv⟩ := received
  dsimp only at goes ⊢
  by_cases held : pendingSnd ≠ 0 ∨ pendingRcv ≠ 0
  · rw [if_pos held] at goes
    cases goes
  rw [if_neg held] at goes ⊢
  refine ⟨by omega, by omega, ?_⟩
  split
  · next went => exact went
  · next stopped => simp [stopped] at goes

theorem deferWhilePending_stays (P : σ → Prop) (start : P st) (counted : ∀ d t, P t → P (pending d t).1)
    (delayed : ∀ t, P t → P (delay t)) :
    (deferWhilePending pending delay goOn st).2 = true ∨ P (deferWhilePending pending delay goOn st).1 := by
  have sent := counted true st start
  unfold deferWhilePending
  generalize pending true st = r at sent ⊢
  obtain ⟨st₁, _⟩ := r
  have received := counted false st₁ sent
  dsimp only
  generalize pending false st₁ = r at received ⊢
  obtain ⟨st₂, _⟩ := r
  dsimp only
  split
  · exact .inr (delayed _ received)
  · split
    · exact .inl rfl
    · exact .inr received

end Delay

section Flow

variable {msize : Nat} {s : FlowSt}

/-- Between `s` and `t` the socket layer detached the `inpcb` or put the socket in time
wait. -/
def PcbReleased (s t : FlowSt) : Prop :=
  s.sock.soInpcbDetached < t.sock.soInpcbDetached ∨ s.sock.soTimeWaitAdded < t.sock.soTimeWaitAdded

theorem not_pcbReleased_self (s : FlowSt) : ¬ PcbReleased s s := by
  simp [PcbReleased]

@[simp] theorem pcbReleased_verify (t : FlowSt) (c : Bool) : PcbReleased s (t.verify c) ↔ PcbReleased s t := by
  simp [PcbReleased]

@[simp] theorem pcbReleased_setDelayedDead (t : FlowSt) (set : Bool) :
    PcbReleased s (t.setDelayedDead set) ↔ PcbReleased s t := by
  unfold FlowSt.setDelayedDead
  split <;> exact Iff.rfl

@[simp] theorem pcbReleased_setDelayedTcpTimeWait (t : FlowSt) (set : Bool) :
    PcbReleased s (t.setDelayedTcpTimeWait set) ↔ PcbReleased s t := by
  unfold FlowSt.setDelayedTcpTimeWait
  split <;> exact Iff.rfl

theorem sockIsDead_goes (released : PcbReleased s (cfilSockIsDead s).1) : (cfilSockIsDead s).2 = true :=
  (deferWhilePending_stays (¬ PcbReleased s ·) (not_pcbReleased_self s)
    (fun _ _ kept => by simpa [cfilSockDataPending] using kept) (fun _ kept => by simpa using kept)).resolve_right
    (not_not.mpr released)

theorem sockTcpAddTimeWait_goes (released : PcbReleased s (cfilSockTcpAddTimeWait s).1) :
    (cfilSockTcpAddTimeWait s).2 = true := by
  by_cases dgram : s.sock.soDgram = true
  · simp only [cfilSockTcpAddTimeWait, dgram, if_true] at released
    exact absurd released (not_pcbReleased_self s)
  unfold cfilSockTcpAddTimeWait at released ⊢
  rw [if_neg dgram] at released ⊢
  exact (deferWhilePending_stays (¬ PcbReleased s ·) (not_pcbReleased_self s)
    (fun _ _ kept => by simpa [cfilSockDataPending] using kept) (fun _ kept => by simpa using kept)).resolve_right
    (not_not.mpr released)

theorem sockIsDead_holdsNothing {d : Bool} (none : HoldsNothing s d) : HoldsNothing (cfilSockIsDead s).1 d :=
  sockIsDead_of_frame (HoldsNothing · d) (fun _ _ none => by simpa [HoldsNothing] using none)
    (fun _ _ _ _ _ none => none) (fun _ _ _ none => none) none

theorem sockTcpAddTimeWait_holdsNothing {d : Bool} (none : HoldsNothing s d) :
    HoldsNothing (cfilSockTcpAddTimeWait s).1 d :=
  sockTcpAddTimeWait_of_frame (HoldsNothing · d) (fun _ _ none => by simpa [HoldsNothing] using none)
    (fun _ _ _ _ _ none => none) (fun _ _ _ none => none) none

theorem Accounted.sockIsDead (acc : Accounted msize s) : Accounted msize (cfilSockIsDead s).1 :=
  sockIsDead_of_frame (Accounted msize) (fun _ c acc => acc.verify c) (fun _ so _ _ _ acc => acc.sock so)
    (fun _ f _ acc => acc.setIflags f) acc

theorem Accounted.drained_of_goes (acc : Accounted msize s) (positive : 0 < msize) {delay : FlowSt → FlowSt}
    {goOn : FlowSt → Option FlowSt} (goes : (deferWhilePending cfilSockDataPending delay goOn s).2 = true)
    (d : Bool) : HoldsNothing s d := by
  obtain ⟨sent, received, -⟩ := deferWhilePending_goes_on goes
  cases d
  · simpa [HoldsNothing, cfilSockDataPending] using (acc.verify _).holdsNothing positive received
  · exact acc.holdsNothing positive sent

theorem Accounted.drained_of_timeWait (acc : Accounted msize s) (positive : 0 < msize)
    (goes : (cfilSockTcpAddTimeWait s).2 = true) (d : Bool) : HoldsNothing s d := by
  unfold cfilSockTcpAddTimeWait at goes
  split at goes
  · cases goes
  · exact acc.drained_of_goes positive goes d

theorem Accounted.recheckDelayed_drained (acc : Accounted msize s) (positive : 0 < msize)
    (released : PcbReleased s (recheckDelayed s)) (d : Bool) : HoldsNothing (recheckDelayed s) d := by
  unfold recheckDelayed at released ⊢
  dsimp only at released ⊢
  generalize rechecked : (if s.delayedDead then (cfilSockIsDead s).1 else s) = v at released ⊢
  by_cases dead : PcbReleased s v
  · have none : HoldsNothing v d := by
      split at rechecked <;> subst rechecked
      · exact sockIsDead_holdsNothing (acc.drained_of_goes positive (sockIsDead_goes dead) d)
      · exact absurd dead (not_pcbReleased_self s)
    split
    · exact sockTcpAddTimeWait_holdsNothing none
    · exact none
  have accV : Accounted msize v := by
    split at rechecked <;> subst rechecked
    · exact acc.sockIsDead
    · exact acc
  by_cases timeWait : v.delayedTcpTimeWait = true
  · rw [if_pos timeWait] at released ⊢
    have went : PcbReleased v (cfilSockTcpAddTimeWait v).1 := by
      unfold PcbReleased at released dead ⊢
      omega
    exact sockTcpAddTimeWait_holdsNothing (accV.drained_of_timeWait positive (sockTcpAddTimeWait_goes went) d)
  · rw [if_neg timeWait] at released
    exact absurd released dead

theorem serviceInjectQueue_drained (env : Env) (d : Bool) (positive : 0 < env.msize) (s : FlowSt)
    (acc : Accounted env.msize s) (released : PcbReleased s (cfilServiceInjectQueue env d s).1) (d' : Bool) :
    HoldsNothing (cfilServiceInjectQueue env d s).1 d' := by
  rcases serviceInjectQueue_cases env d s acc with same | ⟨s', acc', ⟨snd, rcv, sock⟩, tail⟩
  · simp [PcbReleased, same] at released
  rw [tail] at released ⊢
  have shut := deferredShutWr_of_steps env (fun t => Accounted env.msize t ∧ ¬ PcbReleased s t)
    (fun _ c kept => ⟨kept.1.verify c, by simpa using kept.2⟩)
    (fun t kept => ⟨kept.1.of_eventsOnly (notifyShutdown_events env false true t),
      by simpa [PcbReleased, (notifyShutdown_events env false true t).sock] using kept.2⟩)
    (fun _ kept => ⟨kept.1.sock _, kept.2⟩) (s := s') ⟨acc', by simp [PcbReleased, sock]⟩
  have woken := wakeCloseWait_events (deferredShutWr env s')
  have went : PcbReleased (wakeCloseWait (deferredShutWr env s')) (recheckDelayed (wakeCloseWait (deferredShutWr env s'))) := by
    have kept := shut.2
    simp only [PcbReleased, serviceInjectTail, verifyInfo_sock, woken.sock] at released kept ⊢
    omega
  simpa [HoldsNothing, serviceInjectTail] using (shut.1.of_eventsOnly woken).recheckDelayed_drained positive went d'

end Flow

/-- Flow divert and the TCP timer, and the re-checks of `cfil_service_inject_queue`, let the
socket go only when the filters hold nothing of the flow. -/
theorem socket_end_waits_for_filters {env : Env} {r : FlowRun} (reach : FlowReachable env r) (positive : 0 < env.msize) :
    ((cfilSockIsDead r.st).2 = true → HoldsNothing r.st true ∧ HoldsNothing r.st false) ∧
      ((cfilSockTcpAddTimeWait r.st).2 = true → HoldsNothing r.st true ∧ HoldsNothing r.st false) ∧
      ∀ s, Accounted env.msize s → ∀ d, PcbReleased s (cfilServiceInjectQueue env d s).1 →
        HoldsNothing (cfilServiceInjectQueue env d s).1 true ∧ HoldsNothing (cfilServiceInjectQueue env d s).1 false :=
  have acc := reach.accounted env
  ⟨fun goes => ⟨acc.drained_of_goes positive goes true, acc.drained_of_goes positive goes false⟩,
    fun goes => ⟨acc.drained_of_timeWait positive goes true, acc.drained_of_timeWait positive goes false⟩,
    fun s acc d released =>
      ⟨serviceInjectQueue_drained env d positive s acc released true,
        serviceInjectQueue_drained env d positive s acc released false⟩⟩

theorem passAllRun_end_waits_for_filters :
    (cfilSockIsDead passAllRun.st).2 = true ∧ HoldsNothing passAllRun.st true ∧ HoldsNothing passAllRun.st false :=
  have reach : FlowReachable demoKernel passAllRun :=
    FlowReachable.run demoKernel (@FlowReachable.attach demoKernel oneFilter 1 7 {} (fun _ => false) _ rfl) _
  have dead : (cfilSockIsDead passAllRun.st).2 = true := by decide
  ⟨dead, (socket_end_waits_for_filters reach (by decide)).1 dead⟩

/-- After the agent's pass-all the TCP timer may move the socket to time wait too. -/
example : (cfilSockTcpAddTimeWait passAllRun.st).2 = true := by
  decide

namespace DgramSock

/-- `SO_DELAYED_DEAD_SET` on a datagram socket: the flag of its `so_flow_db`. -/
def setDelayedDead (so : DgramSock) (set : Bool) : DgramSock :=
  if so.soFlowDb.isSome then { so with shared := { so.shared with sock := { so.shared.sock with soflowDbDelayedDead := set } } }
  else so

/-- `cfil_sock_is_dead` on a datagram socket, whose `cfil_sock_data_pending` is
`cfil_sock_udp_data_pending` over its flows. -/
def cfilSockIsDead (so : DgramSock) : DgramSock × Bool :=
  let goOn := fun so : DgramSock =>
    if so.shared.sock.soInpcb then
      let so := so.setDelayedDead false
      some { so with shared := { so.shared with sock := { so.shared.sock with soInpcbDetached := so.shared.sock.soInpcbDetached + 1 } } }
    else none
  if so.soContentFilter then deferWhilePending cfilSockUdpDataPending (·.setDelayedDead true) goOn so
  else
    match goOn so with
    | some so => (so, true)
    | none => (so, false)

end DgramSock

theorem cfilSockUdpDataPending_linked (outgoing : Bool) (so : DgramSock) :
    (cfilSockUdpDataPending outgoing so).1.linked = so.linked := by
  unfold cfilSockUdpDataPending
  split <;> rfl

/-- On every run of a datagram socket with `_MSIZE` positive, flow divert declares the
socket dead only when no linked flow holds a chain in either direction. -/
theorem dgram_socket_dead_only_when_drained {env : Env} {so : DgramSock} (reach : DgramReachable env so)
    (positive : 0 < env.msize) (dead : so.cfilSockIsDead.2 = true) :
    ∀ u ∈ so.linked, ∀ sh : Shared, HoldsNothing (sh.flow u.info) true ∧ HoldsNothing (sh.flow u.info) false := by
  have inv := reach.inv
  unfold DgramSock.cfilSockIsDead at dead
  dsimp only at dead
  split at dead
  · obtain ⟨sent, received, -⟩ := deferWhilePending_goes_on dead
    have held := inv.dataPending_holdsNothing positive true sent
    have held' := (inv.dataPending true).dataPending_holdsNothing positive false received
    rw [cfilSockUdpDataPending_linked] at held held'
    rw [cfilSockUdpDataPending_linked] at held'
    exact fun u mem sh => ⟨held u mem sh, held' u mem sh⟩
  · rename_i unfiltered
    rw [inv.linked_eq_nil (.inl (by simpa using unfiltered))]
    exact fun _ none => nomatch none

theorem passedFlowSock_dead_only_when_drained :
    passedFlowSock.cfilSockIsDead.2 = true ∧
      ∀ u ∈ passedFlowSock.linked, ∀ sh : Shared,
        HoldsNothing (sh.flow u.info) true ∧ HoldsNothing (sh.flow u.info) false :=
  have dead : passedFlowSock.cfilSockIsDead.2 = true := by decide
  ⟨dead, dgram_socket_dead_only_when_drained (.step _ oneFlowSock_reachable) (by decide) dead⟩

section CloseWait

variable (env : Env)

/-- The loop of `cfil_sock_close_wait`, given how each of its sleeps ends (`none` when the flow
was freed meanwhile); it is followed while the list lasts. -/
def closeWaitLoop : List (Option SleepEnd) → FlowSt → Option FlowSt
  | [], s => some s
  | sleep :: sleeps, s =>
    if !cfilFiltersAttached s then some s
    else
      let s := cfilSockNotifyShutdown env true true s
      if !cfilFiltersAttached s then some s
      else
        match sleep with
        | none => none
        | some sleep =>
          let s := s.setIflags { s.info.cfiFlags with closeWait := false }
          match sleep with
          | .woken => closeWaitLoop sleeps s
          | .timedOut => some s

/-- `cfil_sock_close_wait` on a stream socket with `SOF_CONTENT_FILTER` whose flow is
`s`: a flow marked `CFIF_NO_CLOSE_WAIT` does not wait. -/
def cfilSockCloseWait (sleeps : List (Option SleepEnd)) (s : FlowSt) : Option FlowSt :=
  if s.info.cfiFlags.noCloseWait then some s else closeWaitLoop env sleeps s

theorem EventsOnly.clearCloseWait (s : FlowSt) :
    EventsOnly s (s.setIflags { s.info.cfiFlags with closeWait := false }) :=
  ⟨fun _ _ => rfl, fun d => by cases d <;> rfl, fun _ => rfl, rfl, rfl, rfl, rfl, rfl, rfl, rfl, .of_eq rfl rfl⟩

theorem closeWaitLoop_spec : ∀ (sleeps : List (Option SleepEnd)) (s s' : FlowSt),
    closeWaitLoop env sleeps s = some s' →
      EventsOnly s s' ∧ (cfilFiltersAttached s' = true → some .timedOut ∈ sleeps ∨ ∀ sleep ∈ sleeps, sleep = some .woken)
  | [], s, s', returned => by
    cases returned
    exact ⟨.refl s, fun _ => .inr fun _ none => nomatch none⟩
  | sleep :: sleeps, s, s', returned => by
    have notified := notifyShutdown_events env true true s
    unfold closeWaitLoop at returned
    by_cases detached : (!cfilFiltersAttached s) = true
    · rw [if_pos detached] at returned
      cases returned
      exact ⟨.refl s, fun attached => by simp [attached] at detached⟩
    rw [if_neg detached] at returned
    dsimp only at returned
    by_cases done : (!cfilFiltersAttached (cfilSockNotifyShutdown env true true s)) = true
    · rw [if_pos done] at returned
      cases returned
      exact ⟨notified, fun attached => by simp [attached] at done⟩
    rw [if_neg done] at returned
    have cleared := notified.trans (EventsOnly.clearCloseWait _)
    match sleep, returned with
    | some .woken, returned =>
      obtain ⟨events, gaveUp⟩ := closeWaitLoop_spec sleeps _ s' returned
      refine ⟨cleared.trans events, fun attached => ?_⟩
      rcases gaveUp attached with timedOut | woken
      · exact .inl (List.mem_cons_of_mem _ timedOut)
      · exact .inr fun sleep mem => by
          rcases List.mem_cons.1 mem with rfl | mem
          · rfl
          · exact woken sleep mem
    | some .timedOut, returned =>
      cases returned
      exact ⟨cleared, fun _ => .inl (List.mem_cons_self _ _)⟩

/-- On any flow, `cfil_sock_close_wait` keeps every chain the filters hold. Unless the
sleeps it is given all end in a wake-up, so that the list runs out, it gives up on a filter
still attached only when the flow was marked not to wait or when a sleep timed out. -/
theorem stream_close_wait_keeps_held_data (sleeps : List (Option SleepEnd)) {s s' : FlowSt}
    (returned : cfilSockCloseWait env sleeps s = some s') :
    (∀ k d, s'.ebuf k d = s.ebuf k d) ∧ (∀ d, s'.ibuf d = s.ibuf d) ∧
      ((∃ sleep ∈ sleeps, sleep ≠ some .woken) → cfilFiltersAttached s' = true →
        s.info.cfiFlags.noCloseWait = true ∨ some .timedOut ∈ sleeps) := by
  unfold cfilSockCloseWait at returned
  split at returned
  · rename_i marked
    cases returned
    exact ⟨fun _ _ => rfl, fun _ => rfl, fun _ _ => .inl marked⟩
  · obtain ⟨events, gaveUp⟩ := closeWaitLoop_spec env sleeps s s' returned
    refine ⟨events.ebuf, events.ibuf, fun ⟨sleep, mem, other⟩ attached => .inr ?_⟩
    exact (gaveUp attached).resolve_right fun woken => other (woken sleep mem)

/-- The debug checks' flow after a close wait whose one sleep timed out. -/
def timedOutFlow : FlowSt := (cfilSockCloseWait demoKernel [some .timedOut] oneFilterFlow).getD oneFilterFlow

theorem oneFilterFlow_close_wait_keeps_held_data :
    cfilSockCloseWait demoKernel [some .timedOut] oneFilterFlow = some timedOutFlow ∧
      (∀ k d, timedOutFlow.ebuf k d = oneFilterFlow.ebuf k d) ∧ (∀ d, timedOutFlow.ibuf d = oneFilterFlow.ibuf d) ∧
        ((∃ sleep ∈ [some SleepEnd.timedOut], sleep ≠ some .woken) → cfilFiltersAttached timedOutFlow = true →
          oneFilterFlow.info.cfiFlags.noCloseWait = true ∨ some .timedOut ∈ [some SleepEnd.timedOut]) :=
  have returned : cfilSockCloseWait demoKernel [some .timedOut] oneFilterFlow = some timedOutFlow := rfl
  ⟨returned, stream_close_wait_keeps_held_data demoKernel [some .timedOut] returned⟩

/-- The timed-out wait gives up with the filter still attached. -/
example : cfilFiltersAttached timedOutFlow = true := by decide

end CloseWait

section Space

/-- `cfil_sock_data_space` on a stream socket with a flow, for the buffer of direction
`outgoing`; `reinjecting` when the caller is the send buffer's `sb_cfil_thread`. -/
def cfilSockDataSpace (outgoing reinjecting : Bool) (s : FlowSt) : FlowSt × Nat :=
  if reinjecting then (s, 0)
  else
    let b := s.ibuf outgoing
    let pending := max (b.cfiPendingLast - b.cfiPendingFirst) b.cfiPendingMbcnt
    (s.verify (decide (pending < 2 ^ 31 - 1)), pending)

/-- `cfil_sock_data_space` on a datagram socket: `cfil_sock_udp_data_pending` with
`check_thread`. -/
def DgramSock.cfilSockDataSpace (outgoing reinjecting : Bool) (so : DgramSock) : DgramSock × Nat :=
  if reinjecting then (so, 0) else cfilSockUdpDataPending outgoing so

/-- The bytes and the storage of the chains direction `d` of a flow holds. -/
def heldBytes (s : FlowSt) (d : Bool) : Nat := ((heldChains s d).map dataLen).sum

def heldStorage (msize : Nat) (s : FlowSt) (d : Bool) : Nat := ((heldChains s d).map (storage msize)).sum

theorem Counted.held_le {msize : Nat} {s : FlowSt} {d : Bool} (counted : Counted msize s d 0) :
    heldBytes s d ≤ (s.ibuf d).cfiPendingLast - (s.ibuf d).cfiPendingFirst ∧
      heldStorage msize s d ≤ (s.ibuf d).cfiPendingMbcnt := by
  obtain ⟨w, fits, first, mbcnt⟩ := counted
  rw [add_zero] at fits
  have sum_le : ∀ {a b : Multiset Nat}, a ≤ b → a.sum ≤ b.sum := fun le => by
    obtain ⟨c, rfl⟩ := Multiset.le_iff_exists_add.mp le
    simp
  have bytes : heldBytes s d ≤ (w.map Prod.fst).sum := by
    have := Multiset.map_le_map (f := Prod.fst) fits
    rw [Multiset.map_map] at this
    exact sum_le this
  have stored : heldStorage msize s d ≤ (w.map Prod.snd).sum := by
    have := Multiset.map_le_map (f := Prod.snd) fits
    rw [Multiset.map_map] at this
    exact sum_le this
  omega

/-- On every run of a stream flow, `cfil_sock_data_space` charges a buffer at least the
bytes the filters hold for its direction, and at least their storage. -/
theorem stream_space_covers_held {env : Env} {r : FlowRun} (reach : FlowReachable env r) (outgoing : Bool) :
    heldBytes r.st outgoing ≤ (cfilSockDataSpace outgoing false r.st).2 ∧
      heldStorage env.msize r.st outgoing ≤ (cfilSockDataSpace outgoing false r.st).2 := by
  have held := ((FlowReachable.accounted env reach).counted outgoing).held_le
  simp only [cfilSockDataSpace, Bool.false_eq_true, if_false]
  exact ⟨le_max_of_le_left held.1, le_max_of_le_right held.2⟩

/-- One filter: a byte goes out and waits for the agent. -/
def heldByteRun : FlowRun := FlowRun.run demoKernel { st := oneFilterFlow } [.data true (oneByte 1)]

theorem heldByteRun_space_covers_held :
    FlowReachable demoKernel heldByteRun ∧
      heldBytes heldByteRun.st true ≤ (cfilSockDataSpace true false heldByteRun.st).2 ∧
      heldStorage demoKernel.msize heldByteRun.st true ≤ (cfilSockDataSpace true false heldByteRun.st).2 :=
  have reach : FlowReachable demoKernel heldByteRun :=
    FlowReachable.run demoKernel (@FlowReachable.attach demoKernel oneFilter 1 7 {} (fun _ => false) _ rfl) _
  ⟨reach, stream_space_covers_held reach true⟩

theorem dataPendingPerFlow_foldl (outgoing : Bool) : ∀ (db : List SoflowHashEntry) (total : Nat),
    db.foldl (cfilSockUdpDataPendingPerFlow outgoing) total = total + ((db.filterMap (·.soflowFeatCtxt)).map fun u =>
      max ((u.info.buf outgoing).cfiPendingLast - (u.info.buf outgoing).cfiPendingFirst) (u.info.buf outgoing).cfiPendingMbcnt).sum
  | [], total => rfl
  | e :: db, total => by
    rw [List.foldl_cons, dataPendingPerFlow_foldl outgoing db]
    unfold cfilSockUdpDataPendingPerFlow
    cases linked : e.soflowFeatCtxt with
    | none => simp [linked]
    | some u =>
      simp only [List.filterMap_cons, linked, List.map_cons, List.sum_cons, max_def]
      split <;> split <;> omega

/-- On every run of a datagram socket, `cfil_sock_data_space` charges a buffer at least
the bytes all its linked flows hold for the buffer's direction, and at least their
storage. -/
theorem dgram_space_covers_held {env : Env} {so : DgramSock} (reach : DgramReachable env so) (outgoing : Bool) :
    (so.linked.map fun u => heldBytes (so.shared.flow u.info) outgoing).sum ≤ (so.cfilSockDataSpace outgoing false).2 ∧
      (so.linked.map fun u => heldStorage env.msize (so.shared.flow u.info) outgoing).sum ≤
        (so.cfilSockDataSpace outgoing false).2 := by
  have inv := reach.inv
  have held : ∀ u ∈ so.linked, heldBytes (so.shared.flow u.info) outgoing ≤
      (max ((u.info.buf outgoing).cfiPendingLast - (u.info.buf outgoing).cfiPendingFirst) (u.info.buf outgoing).cfiPendingMbcnt) ∧
      heldStorage env.msize (so.shared.flow u.info) outgoing ≤
      (max ((u.info.buf outgoing).cfiPendingLast - (u.info.buf outgoing).cfiPendingFirst) (u.info.buf outgoing).cfiPendingMbcnt) := by
    intro u mem
    have counted := ((inv.sound u mem so.shared).transit.acc.counted outgoing).held_le
    exact ⟨le_max_of_le_left counted.1, le_max_of_le_right counted.2⟩
  by_cases active : so.soContentFilter = true ∧ so.soFlowDb.isSome = true
  · obtain ⟨filtered, db⟩ := active
    obtain ⟨entries, db⟩ := Option.isSome_iff_exists.mp db
    have linked : so.linked = entries.filterMap (·.soflowFeatCtxt) := by simp [DgramSock.linked, db]
    simp only [DgramSock.cfilSockDataSpace, Bool.false_eq_true, if_false, cfilSockUdpDataPending, filtered, db,
      dataPendingPerFlow_foldl, zero_add, ← linked]
    exact ⟨List.sum_le_sum fun u mem => (held u mem).1, List.sum_le_sum fun u mem => (held u mem).2⟩
  · have inactive : so.soContentFilter = false ∨ so.soFlowDb = none := by
      cases h : so.soContentFilter <;> cases h' : so.soFlowDb <;> simp_all
    simp [inv.linked_eq_nil inactive]

theorem oneFlowSock_space_covers_held :
    DgramReachable demoKernel oneFlowSock ∧
      (oneFlowSock.linked.map fun u => heldBytes (oneFlowSock.shared.flow u.info) true).sum ≤
        (oneFlowSock.cfilSockDataSpace true false).2 ∧
      (oneFlowSock.linked.map fun u => heldStorage demoKernel.msize (oneFlowSock.shared.flow u.info) true).sum ≤
        (oneFlowSock.cfilSockDataSpace true false).2 :=
  ⟨oneFlowSock_reachable, dgram_space_covers_held oneFlowSock_reachable true⟩

end Space

end ContentFilter
