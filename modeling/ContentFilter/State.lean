import ContentFilter.Basic

/-! The state of one filtered flow, the parts of its socket the filter uses, and what it
shares with the other flows. -/

namespace ContentFilter

/-- The `CFEF_*` bits of `cfe_flags`. -/
structure CfeFlags where
  cfilAttached : Bool := false
  sentSockAttached : Bool := false
  dataStart : Bool := false
  flowControlled : Bool := false
  sentDisconnectIn : Bool := false
  sentDisconnectOut : Bool := false
  sentSockClosed : Bool := false
  cfilDetached : Bool := false
  deriving DecidableEq, Repr

/-- `struct cfe_buf`: one direction of an entry. -/
structure CfeBuf where
  cfePendingQ : CfilQueue := cfilQueueInit
  cfeCtlQ : CfilQueue := cfilQueueInit
  cfePassOffset : Nat := 0
  cfePeekOffset : Nat := 0
  cfePeeked : Nat := 0
  deriving DecidableEq, Repr

/-- `struct cfil_entry`; `cfe_filter` holds the identity of its content filter. -/
structure CfilEntry where
  cfeFilter : Option Nat := none
  cfeFlags : CfeFlags := {}
  cfeNecpControlUnit : Nat := 0
  cfeStatsReportFrequency : Nat := 0
  cfeSnd : CfeBuf := {}
  cfeRcv : CfeBuf := {}
  deriving DecidableEq, Repr

/-- `cfe_snd` for outgoing data, `cfe_rcv` for incoming. -/
def CfilEntry.buf (e : CfilEntry) (outgoing : Bool) : CfeBuf :=
  if outgoing then e.cfeSnd else e.cfeRcv

def CfilEntry.setBuf (e : CfilEntry) (outgoing : Bool) (b : CfeBuf) : CfilEntry :=
  if outgoing then { e with cfeSnd := b } else { e with cfeRcv := b }

/-- `struct cfi_buf`: one direction of a flow. -/
structure CfiBuf where
  cfiPendingFirst : Nat := 0
  cfiPendingLast : Nat := 0
  cfiPendingMbcnt : Nat := 0
  cfiPendingMbnum : Nat := 0
  cfiTailDropCnt : Nat := 0
  cfiPassOffset : Nat := 0
  cfiInjectQ : CfilQueue := cfilQueueInit
  deriving DecidableEq, Repr

/-- The `CFIF_*` bits of `cfi_flags` the filter acts on. -/
structure CfiFlags where
  drop : Bool := false
  closeWait : Bool := false
  sockClosed : Bool := false
  retryInjectIn : Bool := false
  retryInjectOut : Bool := false
  shutWr : Bool := false
  shutRd : Bool := false
  socketConnected : Bool := false
  initialVerdict : Bool := false
  noCloseWait : Bool := false
  soDelayedDead : Bool := false
  soDelayedTcpTimeWait : Bool := false
  deriving DecidableEq, Repr

/-- `struct cfil_info`, with `cfi_entries` indexed by control unit. -/
structure CfilInfo where
  cfiFlags : CfiFlags := {}
  cfiSockId : Nat := 0
  cfiSnd : CfiBuf := {}
  cfiRcv : CfiBuf := {}
  cfiEntries : Kcunit → CfilEntry := fun _ => {}
  cfiOrderedEntries : List Kcunit := []
  /-- How many times `wakeup` was called on the `cfil_info`, the channel a close wait
  sleeps on. -/
  cfiWakeups : Nat := 0

def CfilInfo.buf (i : CfilInfo) (outgoing : Bool) : CfiBuf :=
  if outgoing then i.cfiSnd else i.cfiRcv

def CfilInfo.setBuf (i : CfilInfo) (outgoing : Bool) (b : CfiBuf) : CfilInfo :=
  if outgoing then { i with cfiSnd := b } else { i with cfiRcv := b }

/-- The event messages the filter sends an agent, with the fields the filter fills in
from its own state. -/
inductive CfilMsg where
  | sockAttached
  | dataEvent (outgoing : Bool) (cfdStartOffset cfdEndOffset : Nat) (data : List UInt8)
  | disconnect (outgoing : Bool)
  | sockClosed
  deriving DecidableEq, Repr

/-- What the rest of the kernel decides: constants set outside `src/`, and the
answer of each external call, by the number of external calls made before it. -/
structure Env where
  /-- `_MSIZE` (`sys/mbuf.h`). -/
  msize : Nat
  /-- `cfil_udp_gc_mbuf_num_max` and `cfil_udp_gc_mbuf_cnt_max`, set by `cfil_init`
  from the platform's cluster count. -/
  udpGcMbufNumMax : Nat
  udpGcMbufCntMax : Nat
  /-- `CFM_MAX_OFFSET` (`net/content_filter.h`): the pass-all offset. -/
  cfmMaxOffset : Nat
  /-- The `net.cfil.sbtrim` switch. -/
  cfilSbtrim : Bool
  /-- `ctl_enqueuembuf` / `ctl_enqueuedata`, with the allocations before them. -/
  ctlEnqueue : Nat → Errno
  /-- `sosend_reinject`. -/
  sosendReinject : Nat → Errno
  /-- Whether `sbconcat_mbufs` succeeds. -/
  sbconcatMbufs : Nat → Bool

/-- A kernel whose every external call succeeds: the transport takes every message, and
`sosend_reinject` and `sbconcat_mbufs` never fail. -/
def Env.accepting (msize udpGcMbufNumMax udpGcMbufCntMax cfmMaxOffset : Nat) (cfilSbtrim : Bool) : Env where
  msize := msize
  udpGcMbufNumMax := udpGcMbufNumMax
  udpGcMbufCntMax := udpGcMbufCntMax
  cfmMaxOffset := cfmMaxOffset
  cfilSbtrim := cfilSbtrim
  ctlEnqueue _ := .ok
  sosendReinject _ := .ok
  sbconcatMbufs _ := true

/-- The parts of the socket the filter reads and writes. -/
structure SockSt where
  /-- `NEED_DGRAM_FLOW_TRACKING(so)`: a UDP socket rather than a TCP one. -/
  soDgram : Bool := false
  /-- `SS_DEFUNCT`, and `SOF_DEFUNCT`, as the drop's `sodefunct` leaves them. -/
  soDefunct : Bool := false
  soCantSendMore : Bool := false
  soCantRcvMore : Bool := false
  /-- `IS_LOOPBACK_FADDR(inp)`. -/
  soLoopbackFaddr : Bool := false
  /-- How many times `soshutdownlock_final(so, SHUT_WR)` has run. -/
  soShutWrFinal : Nat := 0
  /-- `sotoinpcb(so) != NULL`. -/
  soInpcb : Bool := true
  /-- `intotcpcb(inp) != NULL`. -/
  soTcpcb : Bool := true
  /-- How many times `in_pcbdetach` has run. -/
  soInpcbDetached : Nat := 0
  /-- How many times `add_to_time_wait_now` has run. -/
  soTimeWaitAdded : Nat := 0
  /-- `SOFLOWF_SO_DELAYED_DEAD` in the flags of `so_flow_db`. -/
  soflowDbDelayedDead : Bool := false
  /-- Outgoing chains let through to the protocol, in order. -/
  soSndPassed : List Chain := []
  /-- Incoming chains let through to `so_rcv`, in order. -/
  soRcvPassed : List Chain := []

/-- A flow together with what its operations touch outside it. -/
structure FlowSt where
  info : CfilInfo
  sock : SockSt
  /-- `CFF_FLOW_CONTROLLED` of the content filter each entry points to. -/
  cfFlowControlled : Kcunit → Bool
  /-- Events accepted by the transport: agent, `cfm_sock_id`, message. -/
  outbox : List (Kcunit × Nat × CfilMsg)
  /-- External calls made so far, which index the `Env` answers. -/
  ticks : Nat
  /-- A `VERIFY` or `panic` has fired. -/
  panicked : Bool
  /-- On a datagram socket, the other flows of `so_flow_db` with a `cfil_info`, before and
  after this one in the order `soflow_db_apply` visits them. -/
  flowsBefore : List CfilInfo := []
  flowsAfter : List CfilInfo := []

namespace FlowSt

variable (s : FlowSt)

def entry (k : Kcunit) : CfilEntry := s.info.cfiEntries k

def setEntry (k : Kcunit) (e : CfilEntry) : FlowSt :=
  { s with info := { s.info with cfiEntries := Function.update s.info.cfiEntries k e } }

/-- The entry buffer `cfil_entry_buf` for one direction. -/
def ebuf (k : Kcunit) (outgoing : Bool) : CfeBuf := (s.entry k).buf outgoing

def setEbuf (k : Kcunit) (outgoing : Bool) (b : CfeBuf) : FlowSt :=
  s.setEntry k ((s.entry k).setBuf outgoing b)

def setEflags (k : Kcunit) (f : CfeFlags) : FlowSt :=
  s.setEntry k { s.entry k with cfeFlags := f }

/-- The flow buffer `cfi_buf` for one direction. -/
def ibuf (outgoing : Bool) : CfiBuf := s.info.buf outgoing

def setIbuf (outgoing : Bool) (b : CfiBuf) : FlowSt :=
  { s with info := s.info.setBuf outgoing b }

def setIflags (f : CfiFlags) : FlowSt := { s with info := { s.info with cfiFlags := f } }

def setSock (so : SockSt) : FlowSt := { s with sock := so }

/-- A `VERIFY`: a failed check latches `panicked`. -/
def verify (check : Bool) : FlowSt := if check then s else { s with panicked := true }

/-- `SO_DELAYED_DEAD_GET`: `CFIF_SO_DELAYED_DEAD` of a stream socket's flow, or
`SOFLOWF_SO_DELAYED_DEAD` of a datagram socket's flow database. -/
def delayedDead : Bool := if s.sock.soDgram then s.sock.soflowDbDelayedDead else s.info.cfiFlags.soDelayedDead

/-- `SO_DELAYED_TCP_TIME_WAIT_GET`: only a stream socket's flow has the flag. -/
def delayedTcpTimeWait : Bool := !s.sock.soDgram && s.info.cfiFlags.soDelayedTcpTimeWait

/-- What the end of `cfil_service_inject_queue` acts on besides a wake-up: `CFIF_SHUT_WR`
and the socket's two delays. -/
def tailFlags : Bool × Bool × Bool := (s.info.cfiFlags.shutWr, s.delayedDead, s.delayedTcpTimeWait)

end FlowSt

section Accessors

variable (s : FlowSt) (k j : Kcunit) (outgoing : Bool)

@[simp] theorem CfilEntry.buf_setBuf (e : CfilEntry) (b : CfeBuf) :
    (e.setBuf outgoing b).buf outgoing = b := by
  cases outgoing <;> rfl

@[simp] theorem CfilEntry.buf_setBuf_not (e : CfilEntry) (b : CfeBuf) :
    (e.setBuf outgoing b).buf (!outgoing) = e.buf (!outgoing) := by
  cases outgoing <;> rfl

@[simp] theorem CfilEntry.setBuf_cfeFilter (e : CfilEntry) (b : CfeBuf) :
    (e.setBuf outgoing b).cfeFilter = e.cfeFilter := by
  cases outgoing <;> rfl

@[simp] theorem CfilEntry.setBuf_cfeFlags (e : CfilEntry) (b : CfeBuf) :
    (e.setBuf outgoing b).cfeFlags = e.cfeFlags := by
  cases outgoing <;> rfl

@[simp] theorem CfilEntry.setBuf_self (e : CfilEntry) : e.setBuf outgoing (e.buf outgoing) = e := by
  cases outgoing <;> rfl

theorem CfilEntry.buf_setBuf_of_ne (e : CfilEntry) (b : CfeBuf) {d : Bool} (other : d ≠ outgoing) :
    (e.setBuf outgoing b).buf d = e.buf d := by
  cases d <;> cases outgoing <;> simp_all [CfilEntry.setBuf, CfilEntry.buf]

@[simp] theorem CfilInfo.buf_setBuf (i : CfilInfo) (b : CfiBuf) :
    (i.setBuf outgoing b).buf outgoing = b := by
  cases outgoing <;> rfl

theorem CfilInfo.buf_setBuf_of_ne (i : CfilInfo) (b : CfiBuf) {d : Bool} (other : d ≠ outgoing) :
    (i.setBuf outgoing b).buf d = i.buf d := by
  cases d <;> cases outgoing <;> simp_all [CfilInfo.setBuf, CfilInfo.buf]

@[simp] theorem CfilInfo.setBuf_cfiEntries (i : CfilInfo) (b : CfiBuf) :
    (i.setBuf outgoing b).cfiEntries = i.cfiEntries := by
  cases outgoing <;> rfl

@[simp] theorem CfilInfo.setBuf_cfiFlags (i : CfilInfo) (b : CfiBuf) :
    (i.setBuf outgoing b).cfiFlags = i.cfiFlags := by
  cases outgoing <;> rfl

@[simp] theorem CfilInfo.setBuf_cfiOrderedEntries (i : CfilInfo) (b : CfiBuf) :
    (i.setBuf outgoing b).cfiOrderedEntries = i.cfiOrderedEntries := by
  cases outgoing <;> rfl

@[simp] theorem CfilInfo.setBuf_cfiSockId (i : CfilInfo) (b : CfiBuf) :
    (i.setBuf outgoing b).cfiSockId = i.cfiSockId := by
  cases outgoing <;> rfl

@[simp] theorem entry_setEntry (e : CfilEntry) : (s.setEntry k e).entry k = e := by
  simp [FlowSt.setEntry, FlowSt.entry]

theorem entry_setEntry_of_ne (e : CfilEntry) (other : j ≠ k) : (s.setEntry k e).entry j = s.entry j := by
  simp [FlowSt.setEntry, FlowSt.entry, Function.update_noteq other]

theorem entry_setEntry_apply (e : CfilEntry) :
    (s.setEntry k e).entry j = if j = k then e else s.entry j := by
  by_cases same : j = k
  · subst same; simp
  · simp [same, entry_setEntry_of_ne _ _ _ _ same]

@[simp] theorem setEntry_sock (e : CfilEntry) : (s.setEntry k e).sock = s.sock := rfl
@[simp] theorem setEntry_outbox (e : CfilEntry) : (s.setEntry k e).outbox = s.outbox := rfl
@[simp] theorem setEntry_ticks (e : CfilEntry) : (s.setEntry k e).ticks = s.ticks := rfl
@[simp] theorem setEntry_panicked (e : CfilEntry) : (s.setEntry k e).panicked = s.panicked := rfl
@[simp] theorem setEntry_cfFlowControlled (e : CfilEntry) :
    (s.setEntry k e).cfFlowControlled = s.cfFlowControlled := rfl
@[simp] theorem setEntry_cfiFlags (e : CfilEntry) :
    (s.setEntry k e).info.cfiFlags = s.info.cfiFlags := rfl
@[simp] theorem setEntry_cfiOrderedEntries (e : CfilEntry) :
    (s.setEntry k e).info.cfiOrderedEntries = s.info.cfiOrderedEntries := rfl
@[simp] theorem setEntry_cfiSockId (e : CfilEntry) :
    (s.setEntry k e).info.cfiSockId = s.info.cfiSockId := rfl
@[simp] theorem setEntry_ibuf (e : CfilEntry) : (s.setEntry k e).ibuf outgoing = s.ibuf outgoing := rfl
@[simp] theorem setEntry_tailFlags (e : CfilEntry) : (s.setEntry k e).tailFlags = s.tailFlags := rfl

@[simp] theorem ebuf_setEbuf (b : CfeBuf) : (s.setEbuf k outgoing b).ebuf k outgoing = b := by
  simp [FlowSt.setEbuf, FlowSt.ebuf]

@[simp] theorem setEbuf_tailFlags (b : CfeBuf) : (s.setEbuf k outgoing b).tailFlags = s.tailFlags := rfl

@[simp] theorem setEbuf_cfeFilter (b : CfeBuf) :
    ((s.setEbuf k outgoing b).entry j).cfeFilter = (s.entry j).cfeFilter := by
  simp only [FlowSt.setEbuf, entry_setEntry_apply]; split <;> simp_all

@[simp] theorem setEbuf_cfeFlags (b : CfeBuf) :
    ((s.setEbuf k outgoing b).entry j).cfeFlags = (s.entry j).cfeFlags := by
  simp only [FlowSt.setEbuf, entry_setEntry_apply]; split <;> simp_all

@[simp] theorem ibuf_setIbuf (b : CfiBuf) : (s.setIbuf outgoing b).ibuf outgoing = b := by
  simp [FlowSt.setIbuf, FlowSt.ibuf]

@[simp] theorem setIbuf_entry (b : CfiBuf) : (s.setIbuf outgoing b).entry j = s.entry j := by
  simp [FlowSt.setIbuf, FlowSt.entry]

@[simp] theorem setIbuf_sock (b : CfiBuf) : (s.setIbuf outgoing b).sock = s.sock := rfl
@[simp] theorem setIbuf_outbox (b : CfiBuf) : (s.setIbuf outgoing b).outbox = s.outbox := rfl
@[simp] theorem setIbuf_panicked (b : CfiBuf) : (s.setIbuf outgoing b).panicked = s.panicked := rfl
@[simp] theorem setIbuf_cfiFlags (b : CfiBuf) :
    (s.setIbuf outgoing b).info.cfiFlags = s.info.cfiFlags := by simp [FlowSt.setIbuf]
@[simp] theorem setIbuf_tailFlags (b : CfiBuf) : (s.setIbuf outgoing b).tailFlags = s.tailFlags := by
  cases outgoing <;> rfl
@[simp] theorem setIbuf_cfiOrderedEntries (b : CfiBuf) :
    (s.setIbuf outgoing b).info.cfiOrderedEntries = s.info.cfiOrderedEntries := by
  simp [FlowSt.setIbuf]

@[simp] theorem verify_entry (c : Bool) : (s.verify c).entry k = s.entry k := by
  unfold FlowSt.verify; split <;> rfl
@[simp] theorem verify_ebuf (c : Bool) : (s.verify c).ebuf k outgoing = s.ebuf k outgoing := by
  unfold FlowSt.verify; split <;> rfl
@[simp] theorem verify_ibuf (c : Bool) : (s.verify c).ibuf outgoing = s.ibuf outgoing := by
  unfold FlowSt.verify; split <;> rfl
@[simp] theorem verify_info (c : Bool) : (s.verify c).info = s.info := by
  unfold FlowSt.verify; split <;> rfl
@[simp] theorem verify_sock (c : Bool) : (s.verify c).sock = s.sock := by
  unfold FlowSt.verify; split <;> rfl
@[simp] theorem verify_outbox (c : Bool) : (s.verify c).outbox = s.outbox := by
  unfold FlowSt.verify; split <;> rfl
@[simp] theorem verify_ticks (c : Bool) : (s.verify c).ticks = s.ticks := by
  unfold FlowSt.verify; split <;> rfl
@[simp] theorem verify_cfFlowControlled (c : Bool) :
    (s.verify c).cfFlowControlled = s.cfFlowControlled := by
  unfold FlowSt.verify; split <;> rfl
@[simp] theorem verify_panicked (c : Bool) : (s.verify c).panicked = (s.panicked || !c) := by
  unfold FlowSt.verify; split <;> simp_all
@[simp] theorem verify_tailFlags (c : Bool) : (s.verify c).tailFlags = s.tailFlags := by
  unfold FlowSt.verify; split <;> rfl
@[simp] theorem verify_flowsBefore (c : Bool) : (s.verify c).flowsBefore = s.flowsBefore := by
  unfold FlowSt.verify; split <;> rfl
@[simp] theorem verify_flowsAfter (c : Bool) : (s.verify c).flowsAfter = s.flowsAfter := by
  unfold FlowSt.verify; split <;> rfl

end Accessors

/-- `cfil_entry_buf_verify`. -/
def cfilEntryBufVerify (b : CfeBuf) : Bool :=
  cfilQueueVerify b.cfeCtlQ && cfilQueueVerify b.cfePendingQ &&
    decide (b.cfePendingQ.qEnd ≤ b.cfeCtlQ.qStart) && decide (b.cfePassOffset ≤ b.cfePeekOffset) &&
    decide (b.cfeCtlQ.qStart ≤ b.cfePeeked)

/-- `cfil_info_buf_verify`. -/
def cfilInfoBufVerify (b : CfiBuf) : Bool :=
  cfilQueueVerify b.cfiInjectQ && decide (b.cfiPendingFirst ≤ b.cfiPendingLast)

/-- `cfil_info_verify`, which `CFIL_INFO_VERIFY` runs since `cfil_debug` is 1. -/
def cfilInfoVerify (i : CfilInfo) : Bool :=
  cfilInfoBufVerify i.cfiSnd && cfilInfoBufVerify i.cfiRcv &&
    (List.finRange maxContentFilter).all fun k =>
      cfilEntryBufVerify (i.cfiEntries k).cfeSnd && cfilEntryBufVerify (i.cfiEntries k).cfeRcv

/-- `CFIL_INFO_VERIFY(cfil_info)`. -/
def FlowSt.verifyInfo (s : FlowSt) : FlowSt := s.verify (cfilInfoVerify s.info)

@[simp] theorem verifyInfo_info (s : FlowSt) : s.verifyInfo.info = s.info := by
  simp [FlowSt.verifyInfo]
@[simp] theorem verifyInfo_entry (s : FlowSt) (k : Kcunit) : s.verifyInfo.entry k = s.entry k := by
  simp [FlowSt.verifyInfo]
@[simp] theorem verifyInfo_ebuf (s : FlowSt) (k : Kcunit) (outgoing : Bool) :
    s.verifyInfo.ebuf k outgoing = s.ebuf k outgoing := by
  simp [FlowSt.verifyInfo]
@[simp] theorem verifyInfo_ibuf (s : FlowSt) (outgoing : Bool) :
    s.verifyInfo.ibuf outgoing = s.ibuf outgoing := by
  simp [FlowSt.verifyInfo]
@[simp] theorem verifyInfo_sock (s : FlowSt) : s.verifyInfo.sock = s.sock := by
  simp [FlowSt.verifyInfo]
@[simp] theorem verifyInfo_outbox (s : FlowSt) : s.verifyInfo.outbox = s.outbox := by
  simp [FlowSt.verifyInfo]
@[simp] theorem verifyInfo_ticks (s : FlowSt) : s.verifyInfo.ticks = s.ticks := by
  simp [FlowSt.verifyInfo]
@[simp] theorem verifyInfo_cfFlowControlled (s : FlowSt) :
    s.verifyInfo.cfFlowControlled = s.cfFlowControlled := by
  simp [FlowSt.verifyInfo]
@[simp] theorem verifyInfo_flowsBefore (s : FlowSt) : s.verifyInfo.flowsBefore = s.flowsBefore := by
  simp [FlowSt.verifyInfo]
@[simp] theorem verifyInfo_flowsAfter (s : FlowSt) : s.verifyInfo.flowsAfter = s.flowsAfter := by
  simp [FlowSt.verifyInfo]

end ContentFilter
