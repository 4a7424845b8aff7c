import ContentFilter.Flow

/-! The datagram side of the filter: the `cfil_sock_udp_*` calls on `so_flow_db` and the
callbacks of the `soflow` layer. -/

namespace ContentFilter

/-- What a flow shares with the other flows of its socket: a `FlowSt` but its
`cfil_info`. -/
structure Shared where
  sock : SockSt
  cfFlowControlled : Kcunit → Bool
  outbox : List (Kcunit × Nat × CfilMsg)
  ticks : Nat
  panicked : Bool

namespace Shared

/-- The flow with `cfil_info` `i`, lent what the flows share. -/
def flow (sh : Shared) (i : CfilInfo) : FlowSt :=
  { info := i, sock := sh.sock, cfFlowControlled := sh.cfFlowControlled, outbox := sh.outbox, ticks := sh.ticks,
    panicked := sh.panicked }

/-- A `VERIFY` made outside a flow. -/
def verify (sh : Shared) (check : Bool) : Shared := if check then sh else { sh with panicked := true }

end Shared

/-- What a flow call gives back of the shared part. -/
def FlowSt.shared (s : FlowSt) : Shared := ⟨s.sock, s.cfFlowControlled, s.outbox, s.ticks, s.panicked⟩

@[simp] theorem Shared.flow_info (sh : Shared) (i : CfilInfo) : (sh.flow i).info = i := rfl
@[simp] theorem Shared.flow_shared (sh : Shared) (i : CfilInfo) : (sh.flow i).shared = sh := rfl

/-- `struct timeval` as `microuptime` fills it. -/
structure Timeval where
  tvSec : Int
  tvUsec : Int
  deriving DecidableEq, Repr

/-- `timersub(a, b, res)`: the difference, with the microseconds borrowed into range. -/
def timersub (a b : Timeval) : Timeval :=
  if a.tvUsec - b.tvUsec < 0 then ⟨a.tvSec - b.tvSec - 1, a.tvUsec - b.tvUsec + 1000000⟩
  else ⟨a.tvSec - b.tvSec, a.tvUsec - b.tvUsec⟩

/-- A datagram flow's `struct cfil_info`: the part the single-flow model keeps, with
`cfi_filter_control_unit`, `cfi_filter_policy_gencount` and each entry's
`cfe_last_action`, which only the datagram calls read. -/
structure UdpInfo where
  info : CfilInfo
  cfiFilterControlUnit : Nat
  cfiFilterPolicyGencount : Nat
  cfeLastAction : Kcunit → Timeval

/-- The parts of a `struct soflow_hash_entry` the filter reads and writes: the flow's
hash, NECP's answer for it (which `soflow` keeps current), and the feature context. -/
structure SoflowHashEntry where
  soflowFlowhash : Nat
  soflowFilterControlUnit : Nat
  soflowPoliciesGencount : Nat
  soflowFeatCtxt : Option UdpInfo := none
  soflowFeatCtxtId : Nat := 0

/-- A datagram socket as the filter sees it. `soFlowDb` is `none` while `so_flow_db` is
NULL, and otherwise lists its entries in the order `soflow_db_apply` visits them. -/
structure DgramSock where
  shared : Shared
  /-- `SOF_CONTENT_FILTER` in `so_flags`. -/
  soContentFilter : Bool := false
  /-- `SOF1_CONTENT_FILTER_SKIP` in `so_flags1`: a bless before the socket had flows. -/
  soContentFilterSkip : Bool := false
  soUsecount : Nat
  soGencnt : Nat
  soFlowDb : Option (List SoflowHashEntry) := none

/-- What a datagram call reads outside the socket when it is made: `cfil_active_count`,
`DO_PRESERVE_CONNECTIONS`, the connected filters as `cfil_info_attach_unit` reads them,
and `microuptime`. -/
structure Global where
  cfilActiveCount : Nat
  preserveConnections : Bool
  slots : FilterSlots
  now : Timeval

/-- `NECP_FILTER_UNIT_NO_FILTER` (`net/necp.h`). -/
def necpFilterUnitNoFilter : Nat := 2 ^ 32 - 1

/-- `NECP_MASK_USERSPACE_ONLY` (`net/necp.h`). -/
def necpMaskUserspaceOnly : Nat := 0x80000000

/-- The `cfi_sock_id` `cfil_info_alloc` gives a datagram flow:
`(so_gencnt << 32) | (soflow_flowhash & 0xffffffff)` in 64 bits. -/
def udpSockId (soGencnt soflowFlowhash : Nat) : Nat :=
  ((soGencnt <<< 32) ||| (soflowFlowhash &&& 0xffffffff)) % 2 ^ 64

/-- `soflow_db_apply`: the callback on each entry in turn, until one returns false. -/
def soflowDbApply {σ : Type} (callback : σ → SoflowHashEntry → σ × SoflowHashEntry × Bool) :
    σ → List SoflowHashEntry → σ × List SoflowHashEntry
  | acc, [] => (acc, [])
  | acc, e :: rest =>
    match callback acc e with
    | (acc, e, true) => let r := soflowDbApply callback acc rest; (r.1, e :: r.2)
    | (acc, e, false) => (acc, e :: rest)

namespace Shared

/-- A flow call on the flow of `u`. -/
def run (sh : Shared) (u : UdpInfo) (call : FlowSt → FlowSt) : Shared × UdpInfo :=
  let s := call (sh.flow u.info)
  (s.shared, { u with info := s.info })

end Shared

namespace DgramSock

variable (so : DgramSock)

/-- The flows linked into `so_flow_db`, in its order. -/
def linked : List UdpInfo := (so.soFlowDb.getD []).filterMap (·.soflowFeatCtxt)

/-- The entry at position `idx` of `so_flow_db`: the `hash_entry` a call is handed, or
NULL. -/
def entry? (idx : Nat) : Option SoflowHashEntry := so.soFlowDb.bind (·[idx]?)

def setEntry (idx : Nat) (e : SoflowHashEntry) : DgramSock := { so with soFlowDb := so.soFlowDb.map (·.set idx e) }

def mapEntry (idx : Nat) (f : SoflowHashEntry → SoflowHashEntry) : DgramSock :=
  match so.entry? idx with
  | none => so
  | some e => so.setEntry idx (f e)

/-- The `cfil_info` of each flow linked into entries `db`, in order. -/
def flowInfos (db : List SoflowHashEntry) : List CfilInfo := db.filterMap fun e => e.soflowFeatCtxt.map (·.info)

/-- Entries `db` with the `cfil_info` of each linked flow taken in turn from `infos`. -/
def refill : List SoflowHashEntry → List CfilInfo → List SoflowHashEntry
  | [], _ => []
  | e :: rest, infos =>
    match e.soflowFeatCtxt, infos with
    | some u, i :: infos => { e with soflowFeatCtxt := some { u with info := i } } :: refill rest infos
    | _, infos => e :: refill rest infos

/-- Entries `db` with entry `idx` relinked by `f`, and the flows before and after it given
back from `before` and `after`. -/
def giveBack (db : List SoflowHashEntry) (idx : Nat) (f : SoflowHashEntry → SoflowHashEntry)
    (before after : List CfilInfo) : List SoflowHashEntry :=
  refill (db.take idx) before ++ ((db.drop idx).take 1).map f ++ refill (db.drop (idx + 1)) after

/-- The flow of entry `idx`, with `cfil_info` `i`, lent what the flows of the socket share
and the other flows of `so_flow_db`. -/
def lend (idx : Nat) (i : CfilInfo) : FlowSt :=
  { so.shared.flow i with
    flowsBefore := flowInfos ((so.soFlowDb.getD []).take idx)
    flowsAfter := flowInfos ((so.soFlowDb.getD []).drop (idx + 1)) }

/-- Entry `idx` now holds the flow `u` left as `s` by a flow call it was lent, and the other
flows what the call left of them. -/
def putFlow (idx : Nat) (u : UdpInfo) (s : FlowSt) : DgramSock :=
  { so with
    shared := s.shared
    soFlowDb := so.soFlowDb.map fun db =>
      giveBack db idx (fun e => { e with soflowFeatCtxt := some { u with info := s.info } }) s.flowsBefore s.flowsAfter }

/-- A flow call on the flow linked to entry `idx`, if there is one. -/
def runFlow (idx : Nat) (call : FlowSt → FlowSt) : DgramSock :=
  match (so.entry? idx).bind (·.soflowFeatCtxt) with
  | none => so
  | some u => so.putFlow idx u (call (so.lend idx u.info))

/-- `soflow_db_get_feature_context(so->so_flow_db, sock_id)`: the position of the entry
whose feature context has identity `sockId`. -/
def ctxtIndex? (sockId : Nat) : Option Nat :=
  (so.soFlowDb.getD []).findIdx? fun e => e.soflowFeatCtxt.isSome && e.soflowFeatCtxtId == sockId

end DgramSock

variable (env : Env)

/-- `soflow_db_apply`, on a socket with `SOF_CONTENT_FILTER` and a flow database, of a
callback that runs flow call `call` on each entry's flow, if it has one, and goes on. -/
def DgramSock.applyFlows (call : FlowSt → FlowSt) (so : DgramSock) : DgramSock :=
  match so.soContentFilter, so.soFlowDb with
  | true, some db => (List.range db.length).foldl (fun so idx => so.runFlow idx call) so
  | _, _ => so

/-- `cfil_sock_udp_is_closed`: each flow's callback is the body of `cfil_sock_is_closed`. -/
def cfilSockUdpIsClosed (so : DgramSock) : DgramSock := so.applyFlows (cfilSockIsClosed env)

/-- `cfil_sock_udp_buf_update`: each flow's callback is the flow part of
`cfil_sock_buf_update`, retry flag and `cfil_acquire_sockbuf`'s drop test included. -/
def cfilSockUdpBufUpdate (outgoing : Bool) (so : DgramSock) : DgramSock :=
  if !env.cfilSbtrim then so else so.applyFlows (cfilSockBufUpdate env outgoing)

/-- The callback of `cfil_sock_udp_data_pending`, which always goes on: the bytes a flow
holds in one direction, raised to their mbuf storage, added to the total. -/
def cfilSockUdpDataPendingPerFlow (outgoing : Bool) (total : Nat) (e : SoflowHashEntry) : Nat :=
  match e.soflowFeatCtxt with
  | none => total
  | some u =>
    let b := u.info.buf outgoing
    let pending := b.cfiPendingLast - b.cfiPendingFirst
    total + if b.cfiPendingMbcnt > pending then b.cfiPendingMbcnt else pending

/-- `cfil_sock_udp_data_pending` with `check_thread` false, which `cfil_sock_data_pending`
makes for a datagram socket, with its `VERIFY(total_pending < INT32_MAX)`. -/
def cfilSockUdpDataPending (outgoing : Bool) (so : DgramSock) : DgramSock × Nat :=
  match so.soContentFilter, so.soFlowDb with
  | true, some db =>
    let total := db.foldl (cfilSockUdpDataPendingPerFlow outgoing) 0
    ({ so with shared := so.shared.verify (decide (total < 2 ^ 31 - 1)) }, total)
  | _, _ => (so, 0)

/-- The `shut_flag` of `cfil_sock_udp_notify_shutdown`: `CFIF_SHUT_RD`, `CFIF_SHUT_WR`
or 0. -/
inductive ShutFlag where
  | none | rd | wr
  deriving DecidableEq, Repr

/-- `cfi_flags & shut_flag`. -/
def ShutFlag.test : ShutFlag → CfiFlags → Bool
  | .none, _ => false
  | .rd, f => f.shutRd
  | .wr, f => f.shutWr

/-- `cfi_flags |= shut_flag`. -/
def ShutFlag.set : ShutFlag → CfiFlags → CfiFlags
  | .none, f => f
  | .rd, f => { f with shutRd := true }
  | .wr, f => { f with shutWr := true }

/-- The callback of `cfil_sock_udp_notify_shutdown`, `drop_flag` being whether it is
`CFIF_DROP`. -/
def cfilSockUdpNotifyShutdownPerFlow (shutRd shutWr dropFlag : Bool) (shutFlag : ShutFlag) (acc : Shared × Nat)
    (e : SoflowHashEntry) : (Shared × Nat) × SoflowHashEntry × Bool :=
  match e.soflowFeatCtxt with
  | none => (acc, e, true)
  | some u =>
    if dropFlag && u.info.cfiFlags.drop then ((acc.1, acc.2 + 1), e, true)
    else if shutFlag.test u.info.cfiFlags then (acc, e, true)
    else
      let u := { u with info := { u.info with cfiFlags := shutFlag.set u.info.cfiFlags } }
      let r := acc.1.run u (notifyShutdownFlow env shutRd shutWr)
      ((r.1, acc.2 + 1), { e with soflowFeatCtxt := some r.2 }, true)

/-- `cfil_sock_udp_notify_shutdown`: `ENOTCONN` when no flow was done. -/
def cfilSockUdpNotifyShutdown (shutRd shutWr dropFlag : Bool) (shutFlag : ShutFlag) (so : DgramSock) :
    DgramSock × Errno :=
  let r : DgramSock × Nat := match so.soContentFilter, so.soFlowDb with
    | true, some db =>
      let r := soflowDbApply (cfilSockUdpNotifyShutdownPerFlow env shutRd shutWr dropFlag shutFlag) (so.shared, 0) db
      ({ so with shared := r.1.1, soFlowDb := some r.2 }, r.1.2)
    | _, _ => (so, 0)
  (r.1, if r.2 = 0 then .enotconn else .ok)

/-- `cfil_sock_udp_shutdown`, with `how` as its read and write halves: the error, and
whether `SHUT_RDWR` became `SHUT_RD` because outgoing data is still held. -/
def cfilSockUdpShutdown (shutRd shutWr : Bool) (so : DgramSock) : DgramSock × Errno × Bool :=
  if !so.soContentFilter || so.soFlowDb.isNone then (so, .ok, false)
  else if shutRd && so.shared.sock.soCantRcvMore then (so, .enotconn, false)
  else if shutWr && so.shared.sock.soCantSendMore then (so, .enotconn, false)
  else
    let (so, error) := if shutRd then cfilSockUdpNotifyShutdown env true false true .rd so else (so, .ok)
    if error ≠ .ok then (so, error, false)
    else if !shutWr then (so, .ok, false)
    else
      let (so, error) := cfilSockUdpNotifyShutdown env false true true .wr so
      if error ≠ .ok then (so, error, false)
      else
        let (so, pending) := cfilSockUdpDataPending true so
        if pending ≠ 0 then if !shutRd then (so, .ejustreturn, false) else (so, .ok, true)
        else (so, .ok, false)

/-- How a close wait's `msleep` ends: woken, or timed out (or interrupted). -/
inductive SleepEnd where
  | woken | timedOut
  deriving DecidableEq, Repr

/-- The flow after a close wait on its entry `k`: `CFIF_CLOSE_WAIT` is set for the sleep
and cleared on waking, and a sleep that timed out marks the entry `CFEF_CFIL_DETACHED`. -/
def closeWaitOn (k : Kcunit) (sleep : SleepEnd) (u : UdpInfo) : UdpInfo :=
  let u := { u with info := { u.info with cfiFlags := { u.info.cfiFlags with closeWait := false } } }
  match sleep with
  | .woken => u
  | .timedOut =>
    let e := u.info.cfiEntries k
    { u with info := { u.info with
      cfiEntries := Function.update u.info.cfiEntries k { e with cfeFlags := { e.cfeFlags with cfilDetached := true } } } }

/-- The callback of `cfil_filters_udp_attached`: at the first flow with an attached
entry, stop, after a close wait on that entry when `need_wait` is set; `attached` is set
unless that wait timed out. -/
def cfilFiltersUdpAttachedPerFlow (needWait : Bool) (sleep : SleepEnd) (attached : Bool) (e : SoflowHashEntry) :
    Bool × SoflowHashEntry × Bool :=
  match e.soflowFeatCtxt with
  | none => (attached, e, true)
  | some u =>
    match firstAttached u.info with
    | none => (attached, e, true)
    | some k =>
      if !needWait then (true, e, false)
      else
        let e := { e with soflowFeatCtxt := some (closeWaitOn k sleep u) }
        match sleep with
        | .woken => (true, e, false)
        | .timedOut => (attached, e, false)

/-- `cfil_filters_udp_attached`. -/
def cfilFiltersUdpAttached (needWait : Bool) (sleep : SleepEnd) (so : DgramSock) : DgramSock × Bool :=
  match so.soContentFilter, so.soFlowDb with
  | true, some db =>
    let r := soflowDbApply (cfilFiltersUdpAttachedPerFlow needWait sleep) false db
    ({ so with soFlowDb := some r.2 }, r.1)
  | _, _ => (so, false)

/-- `cfil_sock_udp_close_wait`, given how each of its sleeps ends; the loop is followed
while the list lasts. -/
def cfilSockUdpCloseWait : List SleepEnd → DgramSock → DgramSock
  | [], so => so
  | sleep :: sleeps, so =>
    if !(cfilFiltersUdpAttached false sleep so).2 then so
    else
      let so := (cfilSockUdpNotifyShutdown env true true false .none so).1
      let r := cfilFiltersUdpAttached true sleep so
      if !r.2 then r.1 else cfilSockUdpCloseWait sleeps r.1

/-- `cfil_sock_udp_unlink_flow`: the flow gives back its reference on the socket. -/
def cfilSockUdpUnlinkFlow (so : DgramSock) : DgramSock :=
  if so.soContentFilter then
    { so with shared := so.shared.verify (decide (0 < so.soUsecount)), soUsecount := so.soUsecount - 1 }
  else so

/-- The second half of `cfil_sock_udp_get_info`: a new flow for entry `idx`, `none` when no
filter takes it or its first event fails. -/
def cfilSockUdpNewInfo (g : Global) (filterControlUnit idx : Nat) (e : SoflowHashEntry) (so : DgramSock) :
    DgramSock × Option UdpInfo :=
  let sockId := udpSockId so.soGencnt e.soflowFlowhash
  let (s, attached) := cfilInfoAttachUnit g.slots filterControlUnit (so.shared.flow { cfiSockId := sockId })
  if !attached then (so, none)
  else
    let (s, error) := cfilDispatchAttachEvent env none s
    let u : UdpInfo :=
      { info := s.info, cfiFilterControlUnit := filterControlUnit, cfiFilterPolicyGencount := e.soflowPoliciesGencount,
        cfeLastAction := fun _ => g.now }
    let so := { (so.setEntry idx { e with soflowFeatCtxt := some u, soflowFeatCtxtId := sockId }) with
      shared := s.shared, soContentFilter := true, soUsecount := so.soUsecount + 1 }
    if error ≠ .ok ∧ error ≠ .enobufs ∧ error ≠ .enomem then (so, none)
    else ({ so with shared := so.shared.verify (cfilInfoVerify u.info) }, some u)

/-- `cfil_sock_udp_get_info` for entry `idx`, `e`, with NECP's `filter_control_unit`: a
linked flow whose unit changed is kept when its policy generation did not change,
updated when connections are preserved, and refused otherwise. -/
def cfilSockUdpGetInfo (g : Global) (filterControlUnit idx : Nat) (e : SoflowHashEntry) (so : DgramSock) :
    DgramSock × Option UdpInfo :=
  match e.soflowFeatCtxt with
  | some u =>
    if e.soflowFeatCtxtId ≠ 0 then
      if 0 < filterControlUnit ∧ filterControlUnit ≠ u.cfiFilterControlUnit then
        if u.cfiFilterPolicyGencount = e.soflowPoliciesGencount then (so, some u)
        else if g.preserveConnections then
          let u := { u with cfiFilterControlUnit := filterControlUnit }
          (so.setEntry idx { e with soflowFeatCtxt := some u }, some u)
        else (so, none)
      else (so, some u)
    else cfilSockUdpNewInfo env g filterControlUnit idx e so
  | none => cfilSockUdpNewInfo env g filterControlUnit idx e so

/-- `cfil_sock_udp_handle_data` for the datagram `data` of entry `idx`. -/
def cfilSockUdpHandleData (g : Global) (outgoing : Bool) (idx : Nat) (data : Chain) (so : DgramSock) :
    DgramSock × Errno :=
  if g.cfilActiveCount = 0 then (so, .ok)
  else if so.soContentFilterSkip then (so, .ok)
  else
    match so.entry? idx with
    | none => (so, .epipe)
    | some e =>
      let filterControlUnit := e.soflowFilterControlUnit
      if filterControlUnit = 0 then (so, .ok)
      else if filterControlUnit = necpFilterUnitNoFilter then (so, .ok)
      else if filterControlUnit &&& necpMaskUserspaceOnly ≠ 0 then (so, .ok)
      else
        match cfilSockUdpGetInfo env g filterControlUnit idx e so with
        | (so, none) => (so, .epipe)
        | (so, some u) =>
          if u.info.cfiFlags.drop then (so, .epipe)
          else
            let r := cfilDataCommon env outgoing data (so.lend idx u.info)
            (so.putFlow idx u r.1, r.2)

/-- The action of `cfil_ctl_send` past its checks. `cfil_sock_received_verdict` reads the
socket's `so_cfil`, which a datagram socket does not have, so a verdict leaves the flow's
flags as they are. -/
def cfilCtlActionDgram (k : Kcunit) (action : CfilAction) (s : FlowSt) : FlowSt × Errno :=
  match action with
  | .dataUpdate outPass outPeek inPass inPeek =>
    let (s, error) := if outPeek ≠ 0 || outPass ≠ 0 then cfilActionDataPass env true k outPass outPeek s else (s, .ok)
    let error := if error = .ejustreturn then .ok else error
    if error ≠ .ok then (s, error)
    else
      let (s, error) := if inPeek ≠ 0 || inPass ≠ 0 then cfilActionDataPass env false k inPass inPeek s else (s, .ok)
      (s, if error = .ejustreturn then .ok else error)
  | .drop => cfilActionDrop k s

/-- The flow part of `cfil_ctl_send` on the datagram flow `u`, lent as `s`: refused unless
the agent was sent `SOCKET_ATTACHED`; an accepted action stamps the entry's
`cfe_last_action`. -/
def cfilCtlSendDgram (k : Kcunit) (action : CfilAction) (now : Timeval) (s : FlowSt) (u : UdpInfo) :
    (FlowSt × UdpInfo) × Errno :=
  if s.info.cfiFlags.drop then ((s, u), .einval)
  else if (s.entry k).cfeFilter.isNone then ((s, u), .einval)
  else if !(s.entry k).cfeFlags.sentSockAttached then ((s, u), .einval)
  else
    let s := s.setEflags k { (s.entry k).cfeFlags with dataStart := true }
    let (s, error) := cfilCtlActionDgram env k action s
    ((s, { u with cfeLastAction := Function.update u.cfeLastAction k now }), error)

/-- `cfil_ctl_send` of an action from agent `k` for the flow with `cfm_sock_id`
`sockId` of this socket: `EINVAL` when no flow has it. -/
def DgramSock.ctlSend (k : Kcunit) (action : CfilAction) (now : Timeval) (sockId : Nat) (so : DgramSock) :
    DgramSock × Errno :=
  match so.ctxtIndex? sockId with
  | none => (so, .einval)
  | some idx =>
    match (so.entry? idx).bind (·.soflowFeatCtxt) with
    | none => (so, .einval)
    | some u =>
      let r := cfilCtlSendDgram env k action now (so.lend idx u.info) u
      (so.putFlow idx r.1.2 r.1.1, r.2)

/-- `cfil_action_bless_client` on a datagram socket: a socket with no flow database is
let through from then on; otherwise the flow with `cfm_sock_id` `sockId`, if any, gets a
pass-all both ways. -/
def cfilActionBlessClientDgram (k : Kcunit) (sockId : Nat) (so : DgramSock) : DgramSock :=
  if so.soFlowDb.isNone then { so with soContentFilterSkip := true }
  else
    match so.ctxtIndex? sockId with
    | none => so
    | some idx => so.runFlow idx fun s =>
      (cfilActionDataPass env false k env.cfmMaxOffset env.cfmMaxOffset
        (cfilActionDataPass env true k env.cfmMaxOffset env.cfmMaxOffset s).1).1

/-- `cfil_info_action_timed_out`'s loop: some attached agent that has data beyond its
pass offset in either direction last acted at least `timeout` seconds ago. -/
def cfilInfoEntriesTimedOut (u : UdpInfo) (timeout : Int) (now : Timeval) : Bool :=
  (List.finRange maxContentFilter).any fun k =>
    (u.info.cfiEntries k).cfeFilter.isSome &&
      (decide (u.info.cfiSnd.cfiPendingLast > (u.info.cfiEntries k).cfeSnd.cfePassOffset) ||
        decide (u.info.cfiRcv.cfiPendingLast > (u.info.cfiEntries k).cfeRcv.cfePassOffset)) &&
      decide (timeout ≤ (timersub now (u.cfeLastAction k)).tvSec)

/-- `cfil_info_action_timed_out`: the loop runs only when data waits beyond the flow's
pass offset in some direction. -/
def cfilInfoActionTimedOut (u : UdpInfo) (timeout : Int) (now : Timeval) : Bool :=
  if u.info.cfiSnd.cfiPendingLast > u.info.cfiSnd.cfiPassOffset ∨
      u.info.cfiRcv.cfiPendingLast > u.info.cfiRcv.cfiPassOffset then
    cfilInfoEntriesTimedOut u timeout now
  else false

/-- `cfil_info_buffer_threshold_exceeded`: a datagram was tail-dropped. -/
def cfilInfoBufferThresholdExceeded (i : CfilInfo) : Bool :=
  i.cfiSnd.cfiTailDropCnt ≠ 0 || i.cfiRcv.cfiTailDropCnt ≠ 0

/-- `UDP_FLOW_GC_ACTION_TO`, in seconds. -/
def udpFlowGcActionTo : Int := 10

/-- `cfil_dgram_gc_needed`. -/
def cfilDgramGcNeeded (now : Timeval) (e : SoflowHashEntry) : Bool :=
  match e.soflowFeatCtxt with
  | none => false
  | some u => cfilInfoActionTimedOut u udpFlowGcActionTo now || cfilInfoBufferThresholdExceeded u.info

/-- `cfil_dgram_gc_perform`: `SOCKET_CLOSED` to every agent, then the flow is unlinked
and freed. -/
def cfilDgramGcPerform (e : SoflowHashEntry) (so : DgramSock) : DgramSock × Bool :=
  match e.soflowFeatCtxt with
  | none => (so, false)
  | some u =>
    let s := (List.finRange maxContentFilter).foldl (fun s k => (cfilDispatchClosedEvent env k s).1)
      (so.shared.flow u.info)
    (cfilSockUdpUnlinkFlow { so with shared := s.shared }, true)

/-- `cfil_dgram_detach_entry`: the flow is unlinked and freed. -/
def cfilDgramDetachEntry (e : SoflowHashEntry) (so : DgramSock) : DgramSock × Bool :=
  match e.soflowFeatCtxt with
  | none => (so, true)
  | some _ => (cfilSockUdpUnlinkFlow so, true)

/-- `cfil_dgram_detach_db`. -/
def cfilDgramDetachDb (so : DgramSock) : DgramSock × Bool := ({ so with soContentFilter := false }, true)

/-- The calls made on a datagram socket, the `soflow` layer's among them. -/
inductive DgramOp where
  | soflowAdd (flowhash filterControlUnit policiesGencount : Nat)
  | soflowUpdate (idx filterControlUnit policiesGencount : Nat)
  | soflowRemove (idx : Nat)
  | data (g : Global) (outgoing : Bool) (idx : Nat) (m : Chain)
  | action (k : Kcunit) (a : CfilAction) (now : Timeval) (sockId : Nat)
  | bless (k : Kcunit) (sockId : Nat)
  | ctlDisconnect (idx : Nat) (k : Kcunit) (activeCount : Nat)
  | flowControl (k : Kcunit) (raised : Bool)
  | bufUpdate (outgoing : Bool)
  | shutdown (shutRd shutWr : Bool)
  | close
  | closeWait (sleeps : List SleepEnd)
  | gc (now : Timeval) (idx : Nat)
  | dbFree

/-- The round of `cfil_ctl_disconnect` for the flow of entry `idx`, `activeCount` being
`cfil_active_count`: once the entry leaves the last filter, the flow's saved
`cfi_filter_control_unit` and `cfi_filter_policy_gencount` are cleared. -/
def DgramSock.ctlDisconnect (so : DgramSock) (idx : Nat) (k : Kcunit) (activeCount : Nat) : DgramSock :=
  match (so.entry? idx).bind (·.soflowFeatCtxt) with
  | none => so
  | some u =>
    let r := cfilCtlDisconnectEntry env k (letDataFlow k (so.lend idx u.info))
    so.putFlow idx (if r.2 && activeCount = 1 then { u with cfiFilterControlUnit := 0, cfiFilterPolicyGencount := 0 }
      else u) r.1

/-- `soflow_db_free`: every entry detached, then the database. -/
def DgramSock.dbFree (so : DgramSock) : DgramSock :=
  let so := (so.soFlowDb.getD []).foldl (fun so e => (cfilDgramDetachEntry e so).1) so
  { (cfilDgramDetachDb so).1 with soFlowDb := none }

/-- One call on the socket. A datagram for which `cfil_sock_udp_handle_data` returns 0
goes on to the socket at once. -/
def DgramSock.step (so : DgramSock) : DgramOp → DgramSock
  | .soflowAdd flowhash filterControlUnit policiesGencount =>
    let e : SoflowHashEntry :=
      { soflowFlowhash := flowhash, soflowFilterControlUnit := filterControlUnit, soflowPoliciesGencount := policiesGencount }
    { so with soFlowDb := some (so.soFlowDb.getD [] ++ [e]) }
  | .soflowUpdate idx filterControlUnit policiesGencount =>
    so.mapEntry idx fun e => { e with soflowFilterControlUnit := filterControlUnit, soflowPoliciesGencount := policiesGencount }
  | .soflowRemove idx =>
    match so.entry? idx with
    | none => so
    | some e => { (cfilDgramDetachEntry e so).1 with soFlowDb := so.soFlowDb.map (·.eraseIdx idx) }
  | .data g outgoing idx m =>
    let r := cfilSockUdpHandleData env g outgoing idx m so
    if r.2 = .ok then { r.1 with shared := { r.1.shared with sock := r.1.shared.sock.pass outgoing m } } else r.1
  | .action k a now sockId => (so.ctlSend env k a now sockId).1
  | .bless k sockId => cfilActionBlessClientDgram env k sockId so
  | .ctlDisconnect idx k activeCount => so.ctlDisconnect env idx k activeCount
  | .flowControl k raised =>
    { so with shared := { so.shared with cfFlowControlled := Function.update so.shared.cfFlowControlled k raised } }
  | .bufUpdate outgoing => cfilSockUdpBufUpdate env outgoing so
  | .shutdown shutRd shutWr => (cfilSockUdpShutdown env shutRd shutWr so).1
  | .close => cfilSockUdpIsClosed env so
  | .closeWait sleeps => cfilSockUdpCloseWait env sleeps so
  | .gc now idx =>
    match so.entry? idx with
    | none => so
    | some e =>
      if !cfilDgramGcNeeded now e then so
      else
        let r := cfilDgramGcPerform env e so
        if r.2 then r.1.mapEntry idx fun e => { e with soflowFeatCtxt := none, soflowFeatCtxtId := 0 } else r.1
  | .dbFree => so.dbFree

/-- A sequence of calls. -/
def DgramSock.run (so : DgramSock) (ops : List DgramOp) : DgramSock := ops.foldl (DgramSock.step env) so

/-- The datagram sockets reached from a new one, with no flow database yet and no flow,
by any sequence of calls. -/
inductive DgramReachable : DgramSock → Prop
  | init {sock : SockSt} (dgram : sock.soDgram = true) (flowControlled : Kcunit → Bool) (soUsecount soGencnt : Nat) :
      DgramReachable { shared := ⟨sock, flowControlled, [], 0, false⟩, soUsecount := soUsecount, soGencnt := soGencnt }
  | step {so : DgramSock} (op : DgramOp) : DgramReachable so → DgramReachable (so.step env op)

end ContentFilter
