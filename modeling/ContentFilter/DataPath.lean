import ContentFilter.Service

/-! The flow-level entry points of the data path, re-injection, the verdict path, and the
flow's part of drop, bless, agent disconnect, shutdown and close. -/

namespace ContentFilter

namespace FlowSt

/-- Rewrite every entry of `cfi_entries`, for the loops over all control units whose
rounds touch only their own entry. -/
def mapEntries (s : FlowSt) (f : Kcunit → CfilEntry → CfilEntry) : FlowSt :=
  { s with info := { s.info with cfiEntries := fun k => f k (s.info.cfiEntries k) } }

@[simp] theorem entry_mapEntries (s : FlowSt) (f : Kcunit → CfilEntry → CfilEntry) (k : Kcunit) :
    (s.mapEntries f).entry k = f k (s.entry k) := rfl

end FlowSt

variable (env : Env) (outgoing : Bool)

/-- One round of `cfil_update_entry_offsets`: data below every pass offset goes by, so the
entry's queues and offsets move past it. -/
def CfeBuf.skipData (b : CfeBuf) (datalen : Nat) : CfeBuf :=
  let ctlStart := b.cfeCtlQ.qStart + datalen
  let pass := if b.cfePassOffset < ctlStart then ctlStart else b.cfePassOffset
  { cfeCtlQ := { b.cfeCtlQ with qStart := ctlStart, qEnd := b.cfeCtlQ.qEnd + datalen }
    cfePassOffset := pass
    cfePeeked := ctlStart
    cfePeekOffset := if b.cfePeekOffset < pass then pass else b.cfePeekOffset
    cfePendingQ := { b.cfePendingQ with
      qStart := b.cfePendingQ.qStart + datalen, qEnd := b.cfePendingQ.qEnd + datalen } }

/-- `cfil_update_entry_offsets`. -/
def cfilUpdateEntryOffsets (datalen : Nat) (s : FlowSt) : FlowSt :=
  (s.mapEntries fun _ e =>
    if e.cfeFilter.isNone then e else e.setBuf outgoing ((e.buf outgoing).skipData datalen)).verifyInfo

/-- The `SLIST_FOREACH` of `cfil_data_common`'s slow path: the first attached entry takes
the chain; a failed `sbconcat_mbufs` is the `Except.error`. -/
def dataCommonSlowPath (data : Chain) : List Kcunit → Bool → Errno → FlowSt →
    Except FlowSt (FlowSt × Errno)
  | [], _, error, s => .ok (s, error)
  | k :: rest, chained, error, s =>
    if (s.entry k).cfeFilter.isSome then
      if s.sock.soDgram && !chained then
        let ok := env.sbconcatMbufs s.ticks
        let s := { s with ticks := s.ticks + 1 }
        if !ok then .error s
        else
          let (s, error) := cfilDataFilter env outgoing k data s
          if error ≠ .ok then .ok (s, error) else dataCommonSlowPath data rest true error s
      else
        let (s, error) := cfilDataFilter env outgoing k data s
        if error ≠ .ok then .ok (s, error) else dataCommonSlowPath data rest chained error s
    else if error ≠ .ok then .ok (s, error) else dataCommonSlowPath data rest chained error s

/-- A chain enters the pending window: `cfi_pending_last`, `cfi_pending_mbcnt` and
`cfi_pending_mbnum` count it. -/
def pendingAdmit (data : Chain) (s : FlowSt) : FlowSt :=
  let (datalen, mbcnt, mbnum) := cfilDataLength env.msize data
  let b := s.ibuf outgoing
  s.setIbuf outgoing { b with
    cfiPendingLast := b.cfiPendingLast + datalen,
    cfiPendingMbcnt := b.cfiPendingMbcnt + mbcnt, cfiPendingMbnum := b.cfiPendingMbnum + mbnum }

@[simp] theorem pendingAdmit_cfiFlags (data : Chain) (s : FlowSt) :
    (pendingAdmit env outgoing data s).info.cfiFlags = s.info.cfiFlags := by
  simp [pendingAdmit]

@[simp] theorem pendingAdmit_tailFlags (data : Chain) (s : FlowSt) :
    (pendingAdmit env outgoing data s).tailFlags = s.tailFlags := by
  simp [pendingAdmit]

/-- A chain leaves the pending window at its start, then `cfil_info_buf_verify`: the end
of `cfil_data_common` for a chain no entry kept, and of each round of re-injection. -/
def pendingRelease (data : Chain) (s : FlowSt) : FlowSt :=
  let (datalen, mbcnt, mbnum) := cfilDataLength env.msize data
  let b := s.ibuf outgoing
  let b := { b with
    cfiPendingFirst := b.cfiPendingFirst + datalen,
    cfiPendingMbcnt := b.cfiPendingMbcnt - mbcnt, cfiPendingMbnum := b.cfiPendingMbnum - mbnum }
  (s.setIbuf outgoing b).verify (cfilInfoBufVerify b)

@[simp] theorem pendingRelease_cfiFlags (data : Chain) (s : FlowSt) :
    (pendingRelease env outgoing data s).info.cfiFlags = s.info.cfiFlags := by
  simp [pendingRelease]

@[simp] theorem pendingRelease_tailFlags (data : Chain) (s : FlowSt) :
    (pendingRelease env outgoing data s).tailFlags = s.tailFlags := by
  simp [pendingRelease]

/-- `cfil_data_common` on an attached flow (`cfil_info` not NULL). -/
def cfilDataCommon (data : Chain) (s : FlowSt) : FlowSt × Errno :=
  if s.info.cfiFlags.drop then (s.verifyInfo, .epipe)
  else
    let (datalen, mbcnt, mbnum) := cfilDataLength env.msize data
    if datalen = 0 then (s.verifyInfo, .ok)
    else
      let s := pendingAdmit env outgoing data s
      let b := s.ibuf outgoing
      if s.sock.soDgram && (b.cfiPendingMbnum > env.udpGcMbufNumMax ||
          b.cfiPendingMbcnt > env.udpGcMbufCntMax) then
        (s.setIbuf outgoing { b with
          cfiTailDropCnt := b.cfiTailDropCnt + 1,
          cfiPendingMbcnt := b.cfiPendingMbcnt - mbcnt, cfiPendingMbnum := b.cfiPendingMbnum - mbnum },
          .epipe)
      else
        let s := s.verify (cfilInfoBufVerify b)
        let path := if b.cfiPendingLast ≤ b.cfiPassOffset then .ok (cfilUpdateEntryOffsets outgoing datalen s, .ok)
          else dataCommonSlowPath env outgoing data s.info.cfiOrderedEntries false .ok s
        match path with
        | .error s => (s, .enobufs)
        | .ok (s, error) =>
          let s := if error = .ok then pendingRelease env outgoing data s else s
          (s.verifyInfo, error)

/-- What one flow adds to `cfil_sock_udp_data_pending`: its window, raised to its mbuf
storage. -/
def udpFlowPending (i : CfilInfo) : Nat :=
  let b := i.buf outgoing
  let pending := b.cfiPendingLast - b.cfiPendingFirst
  if b.cfiPendingMbcnt > pending then b.cfiPendingMbcnt else pending

/-- `cfil_sock_data_pending`: on a stream socket the flow's window capped by its mbuf
storage, on a datagram socket `cfil_sock_udp_data_pending` over every flow of
`so_flow_db`; then `VERIFY(pending < INT32_MAX)`. -/
def cfilSockDataPending (s : FlowSt) : FlowSt × Nat :=
  let pending := if s.sock.soDgram then ((s.flowsBefore ++ s.info :: s.flowsAfter).map (udpFlowPending outgoing)).sum
    else
      let b := s.ibuf outgoing
      min (b.cfiPendingLast - b.cfiPendingFirst) b.cfiPendingMbcnt
  (s.verify (decide (pending < 2 ^ 31 - 1)), pending)

/-- The events of `cfil_sock_notify_shutdown` for one flow, as
`cfil_sock_udp_notify_shutdown_per_flow` sends them too: disconnect events to every unit,
incoming unless `how` is `SHUT_WR`, outgoing unless it is `SHUT_RD`. -/
def notifyShutdownFlow (shutRd shutWr : Bool) (s : FlowSt) : FlowSt :=
  (List.finRange maxContentFilter).foldl (fun s k =>
    let s := if shutRd then (cfilDispatchDisconnectEvent env k false s).1 else s
    if shutWr then (cfilDispatchDisconnectEvent env k true s).1 else s) s

/-- A flow call on each of the socket's other flows `infos` in turn, lent what `s`
shares; with the flows it leaves. -/
def FlowSt.onFlows (call : FlowSt → FlowSt) : FlowSt → List CfilInfo → FlowSt × List CfilInfo
  | s, [] => (s, [])
  | s, i :: rest =>
    let t := call { s with info := i }
    let r := FlowSt.onFlows call { t with info := s.info } rest
    (r.1, t.info :: r.2)

/-- `cfil_sock_notify_shutdown`: the events of a stream socket's flow, or of every flow of
a datagram socket in turn by `cfil_sock_udp_notify_shutdown(so, how, 0, 0)`, which marks
none of them shut. -/
def cfilSockNotifyShutdown (shutRd shutWr : Bool) (s : FlowSt) : FlowSt :=
  if s.sock.soDgram then
    let notify := notifyShutdownFlow env shutRd shutWr
    let (s₁, before) := s.onFlows notify s.flowsBefore
    let (s₂, after) := (notify s₁).onFlows notify s.flowsAfter
    { s₂ with flowsBefore := before, flowsAfter := after }
  else notifyShutdownFlow env shutRd shutWr s

/-- The first entry of a flow attached to its filter, sent `SOCKET_ATTACHED` and not
detached by the filter. -/
def firstAttached (i : CfilInfo) : Option Kcunit :=
  (List.finRange maxContentFilter).find? fun k =>
    (i.cfiEntries k).cfeFilter.isSome && (i.cfiEntries k).cfeFlags.sentSockAttached &&
      !(i.cfiEntries k).cfeFlags.cfilDetached

/-- `cfil_filters_attached`: some entry of the flow, or on a datagram socket of some flow
of `so_flow_db` (`cfil_filters_udp_attached` without waiting), is still attached. -/
def cfilFiltersAttached (s : FlowSt) : Bool :=
  if s.sock.soDgram then (s.flowsBefore ++ s.info :: s.flowsAfter).any fun i => (firstAttached i).isSome
  else (firstAttached s.info).isSome

/-- The wake-up of a close wait: with `CFIF_CLOSE_WAIT` set and no filter attached any
more, `wakeup` on the flow's `cfil_info`. -/
def wakeCloseWait (s : FlowSt) : FlowSt :=
  if s.info.cfiFlags.closeWait && !cfilFiltersAttached s then
    { s with info := { s.info with cfiWakeups := s.info.cfiWakeups + 1 } }
  else s

section Wake

variable (s : FlowSt)

@[simp] theorem wakeCloseWait_entry (k : Kcunit) : (wakeCloseWait s).entry k = s.entry k := by
  unfold wakeCloseWait; split <;> rfl
@[simp] theorem wakeCloseWait_ebuf (k : Kcunit) (d : Bool) : (wakeCloseWait s).ebuf k d = s.ebuf k d := by
  unfold wakeCloseWait; split <;> rfl
@[simp] theorem wakeCloseWait_ibuf (d : Bool) : (wakeCloseWait s).ibuf d = s.ibuf d := by
  unfold wakeCloseWait; split <;> cases d <;> rfl
@[simp] theorem wakeCloseWait_cfiFlags : (wakeCloseWait s).info.cfiFlags = s.info.cfiFlags := by
  unfold wakeCloseWait; split <;> rfl
@[simp] theorem wakeCloseWait_cfiOrderedEntries :
    (wakeCloseWait s).info.cfiOrderedEntries = s.info.cfiOrderedEntries := by
  unfold wakeCloseWait; split <;> rfl
@[simp] theorem wakeCloseWait_sock : (wakeCloseWait s).sock = s.sock := by
  unfold wakeCloseWait; split <;> rfl
@[simp] theorem wakeCloseWait_panicked : (wakeCloseWait s).panicked = s.panicked := by
  unfold wakeCloseWait; split <;> rfl
@[simp] theorem wakeCloseWait_outbox : (wakeCloseWait s).outbox = s.outbox := by
  unfold wakeCloseWait; split <;> rfl
@[simp] theorem wakeCloseWait_flowsBefore : (wakeCloseWait s).flowsBefore = s.flowsBefore := by
  unfold wakeCloseWait; split <;> rfl
@[simp] theorem wakeCloseWait_flowsAfter : (wakeCloseWait s).flowsAfter = s.flowsAfter := by
  unfold wakeCloseWait; split <;> rfl

end Wake

namespace FlowSt

/-- `SO_DELAYED_DEAD_SET`. -/
def setDelayedDead (s : FlowSt) (set : Bool) : FlowSt :=
  if s.sock.soDgram then { s with sock := { s.sock with soflowDbDelayedDead := set } }
  else s.setIflags { s.info.cfiFlags with soDelayedDead := set }

/-- `SO_DELAYED_TCP_TIME_WAIT_SET`. -/
def setDelayedTcpTimeWait (s : FlowSt) (set : Bool) : FlowSt :=
  if s.sock.soDgram then s else s.setIflags { s.info.cfiFlags with soDelayedTcpTimeWait := set }

end FlowSt

/-- The common body of `cfil_sock_is_dead` and `cfil_sock_tcp_add_time_wait`: with data
pending the call sets its delay flag, otherwise `goOn` does its work. -/
def deferWhilePending {σ : Type} (pending : Bool → σ → σ × Nat) (delay : σ → σ) (goOn : σ → Option σ) (st : σ) :
    σ × Bool :=
  let (st, pendingSnd) := pending true st
  let (st, pendingRcv) := pending false st
  if pendingSnd ≠ 0 ∨ pendingRcv ≠ 0 then (delay st, false)
  else
    match goOn st with
    | some st => (st, true)
    | none => (st, false)

/-- `cfil_sock_is_dead` on a socket with `SOF_CONTENT_FILTER` whose flow is `s`: with
nothing pending, a socket with its `inpcb` clears `SO_DELAYED_DEAD` and detaches it. -/
def cfilSockIsDead (s : FlowSt) : FlowSt × Bool :=
  deferWhilePending cfilSockDataPending (·.setDelayedDead true) (fun s =>
    if s.sock.soInpcb then
      let s := s.setDelayedDead false
      some { s with sock := { s.sock with soInpcbDetached := s.sock.soInpcbDetached + 1 } }
    else none) s

/-- `cfil_sock_tcp_add_time_wait` on a socket with `SOF_CONTENT_FILTER` whose flow is `s`:
nothing for a datagram socket; with nothing pending, a socket with its `tcpcb` goes to
time wait and clears `SO_DELAYED_TCP_TIME_WAIT`. -/
def cfilSockTcpAddTimeWait (s : FlowSt) : FlowSt × Bool :=
  if s.sock.soDgram then (s, false)
  else
    deferWhilePending cfilSockDataPending (·.setDelayedTcpTimeWait true) (fun s =>
      if s.sock.soInpcb && s.sock.soTcpcb then
        some (FlowSt.setDelayedTcpTimeWait { s with sock := { s.sock with soTimeWaitAdded := s.sock.soTimeWaitAdded + 1 } }
          false)
      else none) s

/-- The head of the inject loop's round: the chain leaves `cfi_inject_q` and the pending
window. -/
def injectDequeue (data : Chain) (s : FlowSt) : FlowSt :=
  pendingRelease env outgoing data (s.removeQ (.inject outgoing) data)

/-- The loop of `cfil_service_inject_queue`: each chain leaves the queue and the pending
window, then goes to `sosend_reinject` (stopping at its first failure) or is appended to
`so_rcv`. -/
def injectLoop : Nat → Errno → FlowSt → FlowSt × Errno
  | 0, error, s => (s, error)
  | fuel + 1, error, s =>
    match (s.ibuf outgoing).cfiInjectQ.qMq with
    | [] => (s, error)
    | data :: _ =>
      let s := injectDequeue env outgoing data s
      if outgoing then
        let error := env.sosendReinject s.ticks
        let s := { s with
          ticks := s.ticks + 1,
          sock := { s.sock with soSndPassed := s.sock.soSndPassed ++ [data] } }
        if error ≠ .ok then (s, error) else injectLoop fuel error s
      else
        injectLoop fuel error { s with sock := { s.sock with soRcvPassed := s.sock.soRcvPassed ++ [data] } }

def setRetryInject (s : FlowSt) (retry : Bool) : FlowSt :=
  s.setIflags (if outgoing then { s.info.cfiFlags with retryInjectOut := retry }
    else { s.info.cfiFlags with retryInjectIn := retry })

/-- The write shutdown `cfil_service_inject_queue` finishes: after a `SHUT_WR` it notifies
the agents again, and calls `soshutdownlock_final` once `cfil_sock_data_pending` finds
nothing held. -/
def deferredShutWr (s : FlowSt) : FlowSt :=
  if s.info.cfiFlags.shutWr then
    let s := cfilSockNotifyShutdown env false true s
    let (s, pending) := cfilSockDataPending true s
    if pending = 0 then { s with sock := { s.sock with soShutWrFinal := s.sock.soShutWrFinal + 1 } } else s
  else s

/-- The re-checks `cfil_service_inject_queue` ends with, for a socket whose death or time
wait was delayed. -/
def recheckDelayed (s : FlowSt) : FlowSt :=
  let s := if s.delayedDead then (cfilSockIsDead s).1 else s
  if s.delayedTcpTimeWait then (cfilSockTcpAddTimeWait s).1 else s

/-- The end of `cfil_service_inject_queue` once its loop ran. -/
def serviceInjectTail (s : FlowSt) : FlowSt := recheckDelayed (wakeCloseWait (deferredShutWr env s))

/-- `cfil_service_inject_queue`: release what every entry passed, and ask for a retry by
`cfil_sock_buf_update` when `sosend_reinject` fails. -/
def cfilServiceInjectQueue (s : FlowSt) : FlowSt × Errno :=
  if s.sock.soDefunct then (s, .ok)
  else
    let s := setRetryInject outgoing s false
    if (s.ibuf outgoing).cfiInjectQ.qMq.isEmpty then (s, .ok)
    else
      let (s, error) := injectLoop env outgoing (s.ibuf outgoing).cfiInjectQ.qMq.length .ok s
      let s := if error ≠ .ok then setRetryInject outgoing s true else s
      ((serviceInjectTail env s).verifyInfo, error)

/-- `cfil_set_socket_pass_offset`: with nothing pending, the fast-path bound becomes the
smallest pass offset of the attached entries, or 0 if there is none. -/
def cfilSetSocketPassOffset (s : FlowSt) : FlowSt :=
  let b := s.ibuf outgoing
  if b.cfiPendingLast - b.cfiPendingFirst = 0 then
    let (passOffset, _) := (List.finRange maxContentFilter).foldl (fun (acc : Nat × Bool) k =>
      let e := s.entry k
      if e.cfeFilter.isNone then acc
      else if acc.2 || (e.buf outgoing).cfePassOffset < acc.1 then ((e.buf outgoing).cfePassOffset, false)
      else acc) (0, true)
    s.setIbuf outgoing { b with cfiPassOffset := passOffset }
  else s

/-- The new offsets of `cfil_update_data_offsets`, and whether either moved: offsets only
grow, and the peek offset never stays below the pass offset. -/
def CfeBuf.raiseOffsets (b : CfeBuf) (passOffset peekOffset : Nat) : CfeBuf × Bool :=
  let (b, updated) := if passOffset > b.cfePassOffset then
      ({ b with
        cfePassOffset := passOffset,
        cfePeekOffset := if b.cfePeekOffset < passOffset then passOffset else b.cfePeekOffset }, true)
    else (b, false)
  if peekOffset > b.cfePassOffset && peekOffset > b.cfePeekOffset then
    ({ b with cfePeekOffset := peekOffset }, true)
  else (b, updated)

/-- `cfil_update_data_offsets`: record an agent's verdict and service its queue; an entry
that passed everything both ways, or that nothing waits for at close, counts as detached. -/
def cfilUpdateDataOffsets (k : Kcunit) (passOffset peekOffset : Nat) (s : FlowSt) : FlowSt × Errno :=
  if s.info.cfiFlags.drop then (s.verifyInfo, .epipe)
  else
    let (b, updated) := (s.ebuf k outgoing).raiseOffsets passOffset peekOffset
    let s := s.setEbuf k outgoing b
    let (s, error) := if !updated then (s, .ok)
      else
        let (s, error) := cfilDataServiceCtlQ env outgoing k s
        if error ≠ .ok then (s, error) else (s, .ejustreturn)
    let e := s.entry k
    let s := if (e.cfeSnd.cfePassOffset = env.cfmMaxOffset && e.cfeRcv.cfePassOffset = env.cfmMaxOffset) ||
        (s.info.cfiFlags.closeWait && e.cfeSnd.cfeCtlQ.qMq.isEmpty && e.cfeRcv.cfeCtlQ.qMq.isEmpty) then
        wakeCloseWait (s.setEflags k { e.cfeFlags with cfilDetached := true })
      else s
    (s.verifyInfo, error)

/-- `cfil_action_data_pass`; `cfil_acquire_sockbuf` fails with `EPIPE` on a dropped flow. -/
def cfilActionDataPass (k : Kcunit) (passOffset peekOffset : Nat) (s : FlowSt) : FlowSt × Errno :=
  if s.info.cfiFlags.drop then (s.verifyInfo, .epipe)
  else
    let (s, error) := cfilUpdateDataOffsets env outgoing k passOffset peekOffset s
    let (s, _) := cfilServiceInjectQueue env outgoing s
    let s := cfilSetSocketPassOffset outgoing s
    (s.verifyInfo, error)

/-- `cfil_queue_drain` of both queues of every entry and of the inject queue, one
direction. The pending window and the entries' offsets are left as they are. -/
def drainDirection (s : FlowSt) : FlowSt :=
  let s := s.mapEntries fun _ e =>
    e.setBuf outgoing { e.buf outgoing with cfeCtlQ := cfilQueueInit, cfePendingQ := cfilQueueInit }
  s.setIbuf outgoing { s.ibuf outgoing with cfiInjectQ := cfilQueueInit }

/-- `cfil_flush_queues`. -/
def cfilFlushQueues (s : FlowSt) : FlowSt :=
  (drainDirection false (drainDirection true s)).verifyInfo

/-- `cfil_action_drop`: latch `CFIF_DROP`, make a stream socket defunct, flush, and wake
a close wait no filter holds any more. -/
def cfilActionDrop (k : Kcunit) (s : FlowSt) : FlowSt × Errno :=
  if (s.entry k).cfeFilter.isNone then (s, .ok)
  else
    let s := s.setIflags { s.info.cfiFlags with drop := true }
    let s := if s.sock.soDgram then s else { s with sock := { s.sock with soDefunct := true } }
    let s := s.setEflags k { (s.entry k).cfeFlags with cfilDetached := true }
    (wakeCloseWait (cfilFlushQueues s), .ok)

/-- `cfil_sock_received_verdict`; `soisconnected` itself is outside the filter. -/
def cfilSockReceivedVerdict (s : FlowSt) : FlowSt :=
  s.setIflags { s.info.cfiFlags with initialVerdict := true, socketConnected := false }

/-- `cfil_action_bless_client` on an attached flow: a pass-all both ways. -/
def cfilActionBlessClient (k : Kcunit) (s : FlowSt) : FlowSt × Errno :=
  let s := cfilSockReceivedVerdict s
  let s := (cfilActionDataPass env true k env.cfmMaxOffset env.cfmMaxOffset s).1
  ((cfilActionDataPass env false k env.cfmMaxOffset env.cfmMaxOffset s).1, .ok)

/-- The first step of `cfil_ctl_disconnect`'s round for entry `k`: "let data flow
immediately". -/
def letDataFlow (k : Kcunit) (s : FlowSt) : FlowSt :=
  s.setEflags k { (s.entry k).cfeFlags with sentSockAttached := true, dataStart := true }

/-- The entry leaves its filter: `cfe_filter` and `cfe_necp_control_unit` cleared. -/
def unlinkEntry (k : Kcunit) (s : FlowSt) : FlowSt :=
  s.setEntry k { s.entry k with cfeFilter := none, cfeNecpControlUnit := 0 }

/-- The two pass-alls of `cfil_ctl_disconnect`'s round for entry `k`. -/
def ctlDisconnectPasses (k : Kcunit) (s : FlowSt) : FlowSt :=
  let s := (cfilActionDataPass env true k env.cfmMaxOffset env.cfmMaxOffset s).1
  (cfilActionDataPass env false k env.cfmMaxOffset env.cfmMaxOffset s).1

/-- The end of the round when the entry is still attached: `CFEF_CFIL_DETACHED`, the
wake-up of a close wait, then the entry leaves its filter. -/
def ctlDisconnectDetach (k : Kcunit) (s : FlowSt) : FlowSt :=
  unlinkEntry k (wakeCloseWait (s.setEflags k { (s.entry k).cfeFlags with cfilDetached := true }))

/-- The round of `cfil_ctl_disconnect`'s loop for this flow's entry `k`; the flag says whether
the entry was detached here. -/
def cfilCtlDisconnectEntry (k : Kcunit) (s : FlowSt) : FlowSt × Bool :=
  if (s.entry k).cfeFilter.isNone then (s, false)
  else
    let s := ctlDisconnectPasses env k s
    if (s.entry k).cfeFilter.isNone then (s, false) else (ctlDisconnectDetach k s, true)

/-- The action messages `cfil_ctl_send` hands to a flow: a verdict (`CFM_OP_DATA_UPDATE`)
or a drop (`CFM_OP_DROP`). -/
inductive CfilAction where
  | dataUpdate (cfaOutPassOffset cfaOutPeekOffset cfaInPassOffset cfaInPeekOffset : Nat)
  | drop
  deriving DecidableEq, Repr

/-- The flow part of `cfil_ctl_send` for an action from agent `k`: refused unless the
agent was sent `SOCKET_ATTACHED`, after which its data may start. -/
def cfilCtlSend (k : Kcunit) (action : CfilAction) (s : FlowSt) : FlowSt × Errno :=
  if s.info.cfiFlags.drop then (s, .einval)
  else if (s.entry k).cfeFilter.isNone then (s, .einval)
  else if !(s.entry k).cfeFlags.sentSockAttached then (s, .einval)
  else
    let s := s.setEflags k { (s.entry k).cfeFlags with dataStart := true }
    match action with
    | .dataUpdate outPass outPeek inPass inPeek =>
      let s := cfilSockReceivedVerdict s
      let (s, error) := if outPeek ≠ 0 || outPass ≠ 0 then
          cfilActionDataPass env true k outPass outPeek s else (s, .ok)
      let error := if error = .ejustreturn then .ok else error
      if error ≠ .ok then (s, error)
      else
        let (s, error) := if inPeek ≠ 0 || inPass ≠ 0 then
            cfilActionDataPass env false k inPass inPeek s else (s, .ok)
        (s, if error = .ejustreturn then .ok else error)
    | .drop =>
      let (s, error) := cfilActionDrop k s
      (cfilSockReceivedVerdict s, error)

/-- `cfil_sock_buf_update`: retry re-injection when the last attempt failed. -/
def cfilSockBufUpdate (s : FlowSt) : FlowSt :=
  if !env.cfilSbtrim then s
  else if !(if outgoing then s.info.cfiFlags.retryInjectOut else s.info.cfiFlags.retryInjectIn) then s
  else if s.info.cfiFlags.drop then s
  else (cfilServiceInjectQueue env outgoing s).1

/-- `cfil_sock_shutdown` on a stream socket, with `how` as its read and write halves: the
error, and whether `SHUT_RDWR` became `SHUT_RD` because outgoing data is still held. -/
def cfilSockShutdown (shutRd shutWr : Bool) (s : FlowSt) : FlowSt × Errno × Bool :=
  if shutRd && s.sock.soCantRcvMore then (s, .enotconn, false)
  else if shutWr && s.sock.soCantSendMore then (s, .enotconn, false)
  else if s.info.cfiFlags.drop then (s, .ok, false)
  else if shutRd && s.info.cfiFlags.shutRd then (s, .enotconn, false)
  else
    let s := if shutRd then
        notifyShutdownFlow env true false (s.setIflags { s.info.cfiFlags with shutRd := true })
      else s
    if !shutWr then (s, .ok, false)
    else if s.info.cfiFlags.shutWr then (s, .enotconn, false)
    else
      let s := notifyShutdownFlow env false true (s.setIflags { s.info.cfiFlags with shutWr := true })
      let (s, pending) := cfilSockDataPending true s
      if pending ≠ 0 then
        if !shutRd then (s, .ejustreturn, false) else (s, .ok, true)
      else (s, .ok, false)

/-- `cfil_sock_is_closed` on a stream socket: `SOCKET_CLOSED` to every agent, a last
re-injection, and the flush. -/
def cfilSockIsClosed (s : FlowSt) : FlowSt :=
  let s := (List.finRange maxContentFilter).foldl (fun s k => (cfilDispatchClosedEvent env k s).1) s
  let s := if s.info.cfiFlags.drop then s else (cfilServiceInjectQueue env true s).1
  let s := s.setIflags { s.info.cfiFlags with sockClosed := true }
  cfilFlushQueues s

end ContentFilter
