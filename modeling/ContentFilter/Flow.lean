import ContentFilter.DataPath

/-! Runs of one flow, from `cfil_sock_attach` on. -/

namespace ContentFilter

/-- The connected filters as `cfil_info_attach_unit` reads `content_filters`: for each
control unit, the filter's identity and its `cf_necp_control_unit`. -/
abbrev FilterSlots := Kcunit → Option (Nat × Nat)

/-- The insertion into `cfi_ordered_entries`: before the first entry with a larger NECP
control unit, so entries of equal units keep their attach order. -/
def orderedInsert (necp : Kcunit → Nat) (k : Kcunit) : List Kcunit → List Kcunit
  | [] => [k]
  | j :: rest => if necp k < necp j then k :: j :: rest else j :: orderedInsert necp k rest

/-- The round of `cfil_info_attach_unit` that links entry `k` to filter `cfc`, whose NECP
control unit is `necp`; the entry takes its place in `cfi_ordered_entries`. -/
def attachEntry (k : Kcunit) (cfc necp : Nat) (s : FlowSt) : FlowSt :=
  let s := s.setEntry k { s.entry k with cfeFilter := some cfc, cfeNecpControlUnit := necp }
  let order := orderedInsert (fun j => (s.entry j).cfeNecpControlUnit) k s.info.cfiOrderedEntries
  let s := { s with info := { s.info with cfiOrderedEntries := order } }
  s.setEflags k { (s.entry k).cfeFlags with cfilAttached := true }

/-- `cfil_info_attach_unit` on this flow: an entry for every connected filter whose NECP
control unit shares a bit with the socket's; the flag says whether one did. -/
def cfilInfoAttachUnit (slots : FilterSlots) (filterControlUnit : Nat) (s : FlowSt) : FlowSt × Bool :=
  (List.finRange maxContentFilter).foldl (fun (acc : FlowSt × Bool) k =>
    match slots k with
    | none => acc
    | some (cfc, necp) => if necp &&& filterControlUnit = 0 then acc else (attachEntry k cfc necp acc.1, true))
    (s, false)

/-- `cfil_info_alloc`: every entry detached, every queue empty, every offset zero. -/
def cfilInfoAlloc (sockId : Nat) (so : SockSt) (flowControlled : Kcunit → Bool) : FlowSt :=
  { info := { cfiSockId := sockId }, sock := so, cfFlowControlled := flowControlled,
    outbox := [], ticks := 0, panicked := false }

/-- `cfil_sock_attach` once the socket is to be filtered: `none` when no connected filter
matches `filterControlUnit`, and the flow is not filtered. -/
def cfilSockAttach (env : Env) (slots : FilterSlots) (filterControlUnit sockId : Nat) (so : SockSt)
    (flowControlled : Kcunit → Bool) : Option FlowSt :=
  let (s, attached) := cfilInfoAttachUnit slots filterControlUnit (cfilInfoAlloc sockId so flowControlled)
  if attached then some (cfilDispatchAttachEvent env none s).1 else none

/-- The calls made on a flow. `flowControl` is another flow, or `cfil_ctl_rcvd`, raising
or lowering its filter's `CFF_FLOW_CONTROLLED`; `isDead` is flow divert's
`cfil_sock_is_dead`, and `tcpAddTimeWait` the TCP timer's `cfil_sock_tcp_add_time_wait`. -/
inductive FlowOp where
  | data (outgoing : Bool) (m : Chain)
  | action (k : Kcunit) (a : CfilAction)
  | bless (k : Kcunit)
  | ctlDisconnect (k : Kcunit)
  | bufUpdate (outgoing : Bool)
  | shutdown (shutRd shutWr : Bool)
  | close
  | flowControl (k : Kcunit) (raised : Bool)
  | isDead
  | tcpAddTimeWait
  deriving DecidableEq, Repr

/-- A flow with the chains `cfil_data_common` accepted so far in each direction. -/
structure FlowRun where
  st : FlowSt
  acceptedOut : List Chain := []
  acceptedIn : List Chain := []

/-- The socket's record of what was let through, as the socket layer leaves it. -/
def SockSt.passed (so : SockSt) (outgoing : Bool) : List Chain :=
  if outgoing then so.soSndPassed else so.soRcvPassed

def SockSt.pass (so : SockSt) (outgoing : Bool) (m : Chain) : SockSt :=
  if outgoing then { so with soSndPassed := so.soSndPassed ++ [m] }
  else { so with soRcvPassed := so.soRcvPassed ++ [m] }

def FlowRun.accepted (r : FlowRun) (outgoing : Bool) : List Chain :=
  if outgoing then r.acceptedOut else r.acceptedIn

variable (env : Env)

/-- One call on the flow. A chain for which `cfil_data_common` returns 0 goes on to the
socket at once; the filter kept one for which it returns `EJUSTRETURN`. -/
def FlowRun.step (r : FlowRun) : FlowOp → FlowRun
  | .data outgoing m =>
    let (s, error) := cfilDataCommon env outgoing m r.st
    let s := if error = .ok then { s with sock := s.sock.pass outgoing m } else s
    let accepted := error = .ok ∨ error = .ejustreturn
    { st := s,
      acceptedOut := if outgoing ∧ accepted then r.acceptedOut ++ [m] else r.acceptedOut,
      acceptedIn := if !outgoing ∧ accepted then r.acceptedIn ++ [m] else r.acceptedIn }
  | .action k a => { r with st := (cfilCtlSend env k a r.st).1 }
  | .bless k => { r with st := (cfilActionBlessClient env k r.st).1 }
  | .ctlDisconnect k => { r with st := (cfilCtlDisconnectEntry env k (letDataFlow k r.st)).1 }
  | .bufUpdate outgoing => { r with st := cfilSockBufUpdate env outgoing r.st }
  | .shutdown shutRd shutWr => { r with st := (cfilSockShutdown env shutRd shutWr r.st).1 }
  | .close => { r with st := cfilSockIsClosed env r.st }
  | .flowControl k raised =>
    { r with st := { r.st with cfFlowControlled := Function.update r.st.cfFlowControlled k raised } }
  | .isDead => { r with st := (cfilSockIsDead r.st).1 }
  | .tcpAddTimeWait => { r with st := (cfilSockTcpAddTimeWait r.st).1 }

/-- A sequence of calls. -/
def FlowRun.run (r : FlowRun) (ops : List FlowOp) : FlowRun := ops.foldl (FlowRun.step env) r

/-- The runs of a flow, from its creation on. -/
inductive FlowReachable : FlowRun → Prop
  | attach {slots : FilterSlots} {filterControlUnit sockId : Nat} {so : SockSt}
      {flowControlled : Kcunit → Bool} {s : FlowSt}
      (created : cfilSockAttach env slots filterControlUnit sockId so flowControlled = some s) :
      FlowReachable { st := s }
  | step {r : FlowRun} (op : FlowOp) : FlowReachable r → FlowReachable (r.step env op)

theorem FlowReachable.run {r : FlowRun} (reach : FlowReachable env r) (ops : List FlowOp) :
    FlowReachable env (r.run env ops) := by
  induction ops generalizing r with
  | nil => exact reach
  | cons op rest ih => exact ih (reach.step op)

end ContentFilter
