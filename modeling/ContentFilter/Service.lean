import ContentFilter.Dispatch

/-! Queue servicing and chaining: `cfil_data_service_ctl_q`, `cfil_service_pending_queue` and
`cfil_data_filter`. -/

namespace ContentFilter

/-- The queues of a flow. -/
inductive QLoc where
  | ctl (k : Kcunit) (outgoing : Bool)
  | pending (k : Kcunit) (outgoing : Bool)
  | inject (outgoing : Bool)
  deriving DecidableEq, Repr

namespace FlowSt

variable (s : FlowSt)

def queue : QLoc → CfilQueue
  | .ctl k d => (s.ebuf k d).cfeCtlQ
  | .pending k d => (s.ebuf k d).cfePendingQ
  | .inject d => (s.ibuf d).cfiInjectQ

def setQueue : QLoc → CfilQueue → FlowSt
  | .ctl k d, q => s.setEbuf k d { s.ebuf k d with cfeCtlQ := q }
  | .pending k d, q => s.setEbuf k d { s.ebuf k d with cfePendingQ := q }
  | .inject d, q => s.setIbuf d { s.ibuf d with cfiInjectQ := q }

/-- `cfil_queue_enqueue` into one of the flow's queues, between its two
`CFIL_QUEUE_VERIFY`s. -/
def enqueueQ (loc : QLoc) (m : Chain) : FlowSt :=
  let q := s.queue loc
  let q' := cfilQueueEnqueue q m (dataLen m)
  ((s.verify (cfilQueueVerify q)).setQueue loc q').verify (cfilQueueVerify q')

/-- `cfil_queue_remove` of the first chain `m` of one of the flow's queues; its
`VERIFY` on the length holds, the caller's length being `cfil_data_length(m)`. -/
def removeQ (loc : QLoc) (m : Chain) : FlowSt :=
  let q := s.queue loc
  let q' := cfilQueueRemove q (dataLen m)
  ((s.verify (cfilQueueVerify q)).setQueue loc q').verify (cfilQueueVerify q')

def setPeeked (k : Kcunit) (outgoing : Bool) (peeked : Nat) : FlowSt :=
  s.setEbuf k outgoing { s.ebuf k outgoing with cfePeeked := peeked }

end FlowSt

variable (env : Env) (outgoing : Bool)

/-- What an entry's servicing does with the entries after it: service each in turn
until one reports an error (`walk`, for an empty pending queue), or hand them a chain
that passed (`forward`); `ok` from `forward` means no attached entry took it. -/
structure Downstream where
  walk : FlowSt → FlowSt × Errno
  forward : Chain → FlowSt → FlowSt × Errno

/-- The pass loop of `cfil_data_service_ctl_q`: chains wholly below `cfe_pass_offset` move
to `cfe_pending_q`, one per round. -/
def passLoop (k : Kcunit) : Nat → FlowSt → FlowSt
  | 0, s => s
  | fuel + 1, s =>
    let b := s.ebuf k outgoing
    match b.cfeCtlQ.qMq with
    | [] => s
    | data :: _ =>
      if b.cfeCtlQ.qStart < b.cfePassOffset then
        let datalen := dataLen data
        let copylen := if b.cfeCtlQ.qStart + datalen ≤ b.cfePassOffset then datalen
          else b.cfePassOffset - b.cfeCtlQ.qStart
        let s := s.verify (decide (copylen ≤ datalen))
        let s := if b.cfeCtlQ.qStart + copylen > b.cfePeeked then
            s.setPeeked k outgoing (b.cfeCtlQ.qStart + copylen) else s
        if copylen < datalen then s
        else passLoop k fuel (((s.removeQ (.ctl k outgoing) data)).enqueueQ (.pending k outgoing) data)
      else s

/-- The peek loop of `cfil_data_service_ctl_q`: show the agent what it has not seen, up to
`cfe_peek_offset`. -/
def peekLoop (k : Kcunit) : List Chain → Nat → FlowSt → FlowSt
  | [], _, s => s
  | data :: rest, currentoffset, s =>
    let b := s.ebuf k outgoing
    if currentoffset < b.cfePeekOffset then
      let datalen := dataLen data
      if currentoffset + datalen ≤ b.cfePeeked then peekLoop k rest (currentoffset + datalen) s
      else
        let copyoffset := b.cfePeeked - currentoffset
        let s := s.verify (decide (currentoffset ≤ b.cfePeeked ∧ copyoffset < datalen))
        let copylen := datalen - copyoffset
        let s := s.verify (decide (copylen ≤ datalen))
        let copylen := if currentoffset + copyoffset + copylen > b.cfePeekOffset then
            b.cfePeekOffset - (currentoffset + copyoffset) else copylen
        if copylen = 0 then s
        else
          let (s, error) := cfilDispatchDataEvent env k outgoing data copyoffset copylen s
          if error ≠ .ok then s
          else
            let s := s.setPeeked k outgoing (b.cfePeeked + copylen)
            if copylen + copyoffset < datalen then s
            else peekLoop k rest (currentoffset + datalen) s
    else s

/-- The loop of `cfil_service_pending_queue` over a non-empty pending queue. -/
def pendingLoop (k : Kcunit) (d : Downstream) (passlen : Nat) :
    Nat → Nat → Errno → FlowSt → FlowSt × Errno
  | 0, _, error, s => (s, error)
  | fuel + 1, curlen, error, s =>
    match (s.ebuf k outgoing).cfePendingQ.qMq with
    | [] => (s, error)
    | data :: _ =>
      let datalen := dataLen data
      if curlen + datalen > passlen then (s, error)
      else
        let s := s.removeQ (.pending k outgoing) data
        let (s, error) := d.forward data s
        let s := if error = .ok then s.enqueueQ (.inject outgoing) data else s
        pendingLoop k d passlen fuel (curlen + datalen) error s

/-- `cfil_service_pending_queue` for entry `k`, with `d` the entries after it. -/
def cfilServicePendingQueueWith (k : Kcunit) (d : Downstream) (s : FlowSt) : FlowSt × Errno :=
  let b := s.ebuf k outgoing
  let passlen := b.cfePassOffset - b.cfePendingQ.qStart
  let (s, error) := if b.cfePendingQ.qMq.isEmpty then d.walk s
    else pendingLoop outgoing k d passlen b.cfePendingQ.qMq.length 0 .ok s
  (s.verifyInfo, error)

/-- `cfil_data_service_ctl_q` once the agent may see data: the pass loop, the peek loop,
the pending queue, then a disconnect event that could not be sent before. -/
def serviceCtlQBody (k : Kcunit) (d : Downstream) (s : FlowSt) : FlowSt × Errno :=
  let s := (passLoop outgoing k (s.ebuf k outgoing).cfeCtlQ.qMq.length s).verifyInfo
  let b := s.ebuf k outgoing
  let s := (peekLoop env outgoing k b.cfeCtlQ.qMq b.cfeCtlQ.qStart s).verifyInfo
  let (s, error) := cfilServicePendingQueueWith outgoing k d s
  if error ≠ .ok then (s.verifyInfo, error)
  else
    let flags := (s.entry k).cfeFlags
    let s := if outgoing then
        (if s.info.cfiFlags.shutWr && !flags.sentDisconnectOut then
          (cfilDispatchDisconnectEvent env k true s).1 else s)
      else (if s.info.cfiFlags.shutRd && !flags.sentDisconnectIn then
          (cfilDispatchDisconnectEvent env k false s).1 else s)
    (s.verifyInfo, .ok)

/-- `cfil_data_service_ctl_q` for entry `k`, with `d` the entries after it: first the
`SOCKET_ATTACHED` event if not yet sent, and nothing more until the agent's first
action message set `CFEF_DATA_START`. -/
def cfilDataServiceCtlQWith (k : Kcunit) (d : Downstream) (s : FlowSt) : FlowSt × Errno :=
  let flags := (s.entry k).cfeFlags
  if !flags.sentSockAttached then
    let (s, error) := cfilDispatchAttachEvent env (some k) s
    if error ≠ .ok then
      (s.verifyInfo, if error = .enobufs || error = .enomem then .ok else error)
    else serviceCtlQBody env outgoing k d s
  else if !flags.dataStart then (s.verifyInfo, .ok)
  else serviceCtlQBody env outgoing k d s

/-- `cfil_data_filter` for entry `k`, with `d` the entries after it: an attached entry
queues the chain and services its queue, and always answers `EJUSTRETURN`. -/
def cfilDataFilterWith (k : Kcunit) (d : Downstream) (data : Chain) (s : FlowSt) : FlowSt × Errno :=
  if (s.entry k).cfeFilter.isNone then (s.verifyInfo, .ok)
  else
    let s := s.enqueueQ (.ctl k outgoing) data
    let (s, _) := cfilDataServiceCtlQWith env outgoing k d s
    (s.verifyInfo, .ejustreturn)

/-- The `Downstream` of a suffix of `cfi_ordered_entries`: the two `SLIST_NEXT` loops of
`cfil_service_pending_queue`, continuing while an entry answers 0. -/
def downstream : List Kcunit → Downstream
  | [] => ⟨fun s => (s, .ok), fun _ s => (s, .ok)⟩
  | j :: rest =>
    let d := downstream rest
    ⟨fun s =>
        let r := cfilDataServiceCtlQWith env outgoing j d s
        if r.2 = .ok then d.walk r.1 else r,
      fun data s =>
        let r := cfilDataFilterWith env outgoing j d data s
        if r.2 = .ok then d.forward data r.1 else r⟩

/-- The entries `SLIST_NEXT` reaches from entry `k`; none for an entry not in the list,
whose link is still zero. -/
def successors (order : List Kcunit) (k : Kcunit) : List Kcunit :=
  (order.dropWhile (· ≠ k)).drop 1

/-- `cfil_data_service_ctl_q`. -/
def cfilDataServiceCtlQ (k : Kcunit) (s : FlowSt) : FlowSt × Errno :=
  cfilDataServiceCtlQWith env outgoing k
    (downstream env outgoing (successors s.info.cfiOrderedEntries k)) s

/-- `cfil_service_pending_queue`. -/
def cfilServicePendingQueue (k : Kcunit) (s : FlowSt) : FlowSt × Errno :=
  cfilServicePendingQueueWith outgoing k
    (downstream env outgoing (successors s.info.cfiOrderedEntries k)) s

/-- `cfil_data_filter`. -/
def cfilDataFilter (k : Kcunit) (data : Chain) (s : FlowSt) : FlowSt × Errno :=
  cfilDataFilterWith env outgoing k (downstream env outgoing (successors s.info.cfiOrderedEntries k)) data s

end ContentFilter
