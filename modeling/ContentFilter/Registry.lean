import ContentFilter.DebugChecks

/-! The registry every socket shares, whose calls `cfil_lck_rw` serialises into steps. -/

namespace ContentFilter

/-- `struct content_filter`; its list names each entry of `cf_sock_entries` by its flow. -/
structure ContentFilterSt where
  cfId : Nat
  cfKcunit : Nat
  cfFlowControlled : Bool := false
  cfNecpControlUnit : Nat := 0
  cfSockEntries : List Nat := []
  cfSockCount : Nat := 0
  deriving DecidableEq, Repr

/-- `TAILQ_INSERT_TAIL` on `cf_sock_entries`, and `cf_sock_count++`. -/
def ContentFilterSt.insertEntry (cfc : ContentFilterSt) (id : Nat) : ContentFilterSt :=
  { cfc with cfSockEntries := cfc.cfSockEntries ++ [id], cfSockCount := cfc.cfSockCount + 1 }

/-- `TAILQ_REMOVE` from `cf_sock_entries`, and `cf_sock_count--`. -/
def ContentFilterSt.removeEntry (cfc : ContentFilterSt) (id : Nat) : ContentFilterSt :=
  { cfc with cfSockEntries := cfc.cfSockEntries.erase id, cfSockCount := cfc.cfSockCount - 1 }

/-- A `struct cfil_info` on `cfil_sock_head`: its identity, its flow and socket as the
single-flow model keeps them, and the NECP filter unit and policy generation its caller
stores right after `cfil_info_alloc`. -/
structure SockHeadInfo where
  cfiId : Nat
  info : CfilInfo
  sock : SockSt
  cfiFilterControlUnit : Nat := 0
  cfiFilterPolicyGencount : Nat := 0

/-- The registry, with what every flow shares. -/
structure Registry where
  contentFilters : Kcunit → Option ContentFilterSt
  cfilActiveCount : Nat
  cfilSockHead : List SockHeadInfo
  cfilSockAttachedCount : Nat
  /-- `cfil_sock_head_stats`, by flow identity. -/
  cfilSockHeadStats : List Nat
  cfilSockAttachedStatsCount : Nat
  outbox : List (Kcunit × Nat × CfilMsg)
  ticks : Nat
  /-- The identities handed out so far: `zalloc` returns no object still in use. -/
  nextId : Nat
  panicked : Bool

/-- The registry `cfil_init` leaves: no filter and no flow. -/
def Registry.init : Registry where
  contentFilters _ := none
  cfilActiveCount := 0
  cfilSockHead := []
  cfilSockAttachedCount := 0
  cfilSockHeadStats := []
  cfilSockAttachedStatsCount := 0
  outbox := []
  ticks := 0
  nextId := 0
  panicked := false

namespace Registry

variable (r : Registry)

/-- A `VERIFY`. -/
def verify (check : Bool) : Registry := if check then r else { r with panicked := true }

def setFilter (k : Kcunit) (cfc : Option ContentFilterSt) : Registry :=
  { r with contentFilters := Function.update r.contentFilters k cfc }

def mapFilter (k : Kcunit) (g : ContentFilterSt → ContentFilterSt) : Registry :=
  r.setFilter k ((r.contentFilters k).map g)

/-- The flow with identity `id`, if it is on `cfil_sock_head`. -/
def info? (id : Nat) : Option SockHeadInfo := r.cfilSockHead.find? (·.cfiId = id)

/-- `CFF_FLOW_CONTROLLED` of the filter on each unit, as a flow's dispatches read it
through `cfe_filter`. -/
def cfFlowControlled (k : Kcunit) : Bool := ((r.contentFilters k).map (·.cfFlowControlled)).getD false

/-- A flow of `cfil_sock_head` with what it shares. -/
def flowSt (f : SockHeadInfo) : FlowSt where
  info := f.info
  sock := f.sock
  cfFlowControlled := r.cfFlowControlled
  outbox := r.outbox
  ticks := r.ticks
  panicked := r.panicked

/-- The registry after a call on flow `id` left it as `s`. -/
def putFlow (id : Nat) (s : FlowSt) : Registry :=
  { r with
    cfilSockHead := r.cfilSockHead.map fun f => if f.cfiId = id then { f with info := s.info, sock := s.sock } else f
    contentFilters := fun k => (r.contentFilters k).map fun cfc => { cfc with cfFlowControlled := s.cfFlowControlled k }
    outbox := s.outbox
    ticks := s.ticks
    panicked := s.panicked }

/-- A call of the single-flow model on flow `id`. -/
def runFlow (id : Nat) (call : FlowSt → FlowSt) : Registry :=
  match r.info? id with
  | none => r
  | some f => r.putFlow id (call (r.flowSt f))

/-- The filter, through `cfe_filter`, of entry `k` of flow `id`. -/
def entryFilter (id : Nat) (k : Kcunit) : Option Nat := (r.info? id).bind fun f => (f.info.cfiEntries k).cfeFilter

/-- `verify_content_filter` on the filter on unit `k`: every entry on its list points back
to it, and `cf_sock_count` counts them. -/
def verifyContentFilter (k : Kcunit) : Registry :=
  match r.contentFilters k with
  | none => r
  | some cfc => r.verify (cfc.cfSockEntries.all (fun id => decide (r.entryFilter id k = some cfc.cfId)) &&
      decide (cfc.cfSockEntries.length = cfc.cfSockCount))

/-- The end of a round in which entry `k` of flow `id`, now `s`, leaves the filter on
unit `k`. -/
def leaveFilter (k : Kcunit) (id : Nat) (s : FlowSt) : Registry :=
  (r.putFlow id s).mapFilter k (·.removeEntry id)

/-- Flow `id` forgets the filter unit and policy generation it was attached under, so that
a filter installed later can drop it. -/
def clearFilterPolicy (id : Nat) : Registry :=
  { r with
    cfilSockHead := r.cfilSockHead.map fun f =>
      if f.cfiId = id then { f with cfiFilterControlUnit := 0, cfiFilterPolicyGencount := 0 } else f }

/-- `cfil_ctl_connect` on `sc_unit`: a new filter in the free slot of its unit. -/
def cfilCtlConnect (scUnit : Nat) : Registry × Errno :=
  if bad : scUnit = 0 ∨ maxContentFilter < scUnit then (r, .einval)
  else
    let k : Kcunit := ⟨scUnit - 1, by omega⟩
    if (r.contentFilters k).isSome then (r, .eaddrinuse)
    else ({ r.setFilter k (some { cfId := r.nextId, cfKcunit := scUnit }) with
      cfilActiveCount := r.cfilActiveCount + 1, nextId := r.nextId + 1 }, .ok)

/-- `cfil_ctl_setopt` with `CFIL_OPT_NECP_CONTROL_UNIT` from the agent on unit `k`: the
NECP control unit is set once. -/
def cfilCtlSetoptNecpControlUnit (k : Kcunit) (necpControlUnit : Nat) : Registry × Errno :=
  match r.contentFilters k with
  | none => (r, .einval)
  | some cfc =>
    if cfc.cfNecpControlUnit ≠ 0 then (r, .einval)
    else (r.setFilter k (some { cfc with cfNecpControlUnit := necpControlUnit }), .ok)

end Registry

/-- How a round of `cfil_ctl_disconnect` reaches the flow of the first entry on the list. -/
inductive DisconnectPath where
  /-- `os_ref_retain_try` fails: the flow is on its way to `cfil_info_free`. -/
  | retainFailed
  /-- `cfil_socket_from_sock_id` finds no socket for the flow, or another one. -/
  | socketGone
  /-- The flow is retained and its socket found and locked. -/
  | found
  deriving DecidableEq, Repr

namespace Registry

variable (env : Env) (r : Registry)

/-- One round of `cfil_ctl_disconnect`'s loop, on entry `k` of flow `id`: let its data
flow, then unlink it from the filter, after passing all its data when its socket is
found; the last filter to go clears the flow's saved policy. -/
def ctlDisconnectRound (k : Kcunit) (path : DisconnectPath) (id : Nat) : Registry :=
  match r.info? id with
  | none => r
  | some f =>
    let s := letDataFlow k (r.flowSt f)
    match path with
    | .retainFailed => r.leaveFilter k id (unlinkEntry k s)
    | .socketGone =>
      if (r.contentFilters k).bind (·.cfSockEntries.head?) = some id then r.leaveFilter k id (unlinkEntry k s)
      else r.putFlow id s
    | .found =>
      let (s, detached) := cfilCtlDisconnectEntry env k s
      if detached then
        if r.cfilActiveCount = 1 then (r.leaveFilter k id s).clearFilterPolicy id else r.leaveFilter k id s
      else r.putFlow id s

/-- The loop of `cfil_ctl_disconnect` over `cf_sock_entries` of the filter on unit `k`,
each round on the first entry left; `paths` says how each round reaches its flow. -/
def ctlDisconnectLoop (k : Kcunit) : Nat → List DisconnectPath → Registry → Registry
  | 0, _, r => r
  | fuel + 1, paths, r =>
    match (r.contentFilters k).bind (·.cfSockEntries.head?) with
    | none => r
    | some id =>
      ctlDisconnectLoop k fuel paths.tail ((r.verifyContentFilter k).ctlDisconnectRound env k (paths.headD .found) id)

/-- The end of `cfil_ctl_disconnect`: the slot of unit `k` is emptied, and
`cfil_active_count--`. -/
def freeSlot (k : Kcunit) : Registry := { r.setFilter k none with cfilActiveCount := r.cfilActiveCount - 1 }

/-- `cfil_ctl_disconnect` from the agent on unit `k`: every entry leaves the filter, whose
slot is then freed. -/
def cfilCtlDisconnect (k : Kcunit) (paths : List DisconnectPath) : Registry :=
  match r.contentFilters k with
  | none => r
  | some cfc =>
    if cfc.cfKcunit ≠ k.val + 1 then r
    else
      let r := ctlDisconnectLoop env k cfc.cfSockEntries.length paths r
      let r := r.verifyContentFilter k
      let r := r.verify ((r.contentFilters k).all fun cfc => cfc.cfSockCount = 0)
      r.freeSlot k

/-- The search of `cfil_ctl_rcvd` for a flow-controlled entry of the filter on unit `k`: a
`TAILQ_FOREACH` over `cf_sock_entries` whose two tests only `continue`. Nothing leaves
the loop early, so it runs off the end of the list and leaves `entry` NULL. -/
def ctlRcvdSearch (k : Kcunit) : List Nat → Option Nat
  | [] => none
  | id :: rest =>
    match r.info? id with
    | none => ctlRcvdSearch k rest
    | some f => if !(f.info.cfiEntries k).cfeFlags.flowControlled then ctlRcvdSearch k rest else ctlRcvdSearch k rest

/-- What `cfil_ctl_rcvd` does for the entry its search finds: service the control queue
out, then in, each after `cfil_acquire_sockbuf`, which fails with `EPIPE` on a dropped
flow. -/
def ctlRcvdService (k : Kcunit) (s : FlowSt) : FlowSt :=
  let (s, error) := if s.info.cfiFlags.drop then (s, .epipe) else cfilDataServiceCtlQ env true k s
  if error ≠ .ok then s
  else if s.info.cfiFlags.drop then s else (cfilDataServiceCtlQ env false k s).1

/-- The loop of `cfil_ctl_rcvd`, while the filter is not flow controlled. -/
def ctlRcvdLoop (k : Kcunit) : Nat → Registry → Registry
  | 0, r => r
  | fuel + 1, r =>
    match r.contentFilters k with
    | none => r
    | some cfc =>
      if cfc.cfFlowControlled then r
      else
        let r := r.verifyContentFilter k
        match r.ctlRcvdSearch k cfc.cfSockEntries with
        | none => r
        | some id => ctlRcvdLoop k fuel (r.runFlow id (ctlRcvdService env k))

/-- `cfil_ctl_rcvd` for the agent on unit `k`: its transport can take messages again, so
flow control is lifted and the entries it held back are looked for. -/
def cfilCtlRcvd (k : Kcunit) : Registry :=
  match r.contentFilters k with
  | none => r
  | some cfc =>
    let r := if cfc.cfFlowControlled then r.mapFilter k fun cfc => { cfc with cfFlowControlled := false } else r
    ctlRcvdLoop env k (cfc.cfSockEntries.length + 1) r

/-- `cfil_info_alloc` for a socket: a new flow, every entry detached, at the tail of
`cfil_sock_head`, with the NECP filter unit and policy generation its caller then stores;
and its identity. -/
def cfilInfoAlloc (sockId : Nat) (so : SockSt) (filterControlUnit policyGencount : Nat) : Registry × Nat :=
  ({ r with
    cfilSockHead := r.cfilSockHead ++
      [{ cfiId := r.nextId, info := (ContentFilter.cfilInfoAlloc sockId so r.cfFlowControlled).info, sock := so,
         cfiFilterControlUnit := filterControlUnit, cfiFilterPolicyGencount := policyGencount }]
    cfilSockAttachedCount := r.cfilSockAttachedCount + 1
    nextId := r.nextId + 1 }, r.nextId)

/-- The round of `cfil_info_attach_unit`'s loop for unit `k`: a connected filter whose NECP
control unit shares a bit with the socket's takes the flow's entry on its unit. -/
def attachUnitRound (id filterControlUnit : Nat) (acc : Registry × Bool) (k : Kcunit) : Registry × Bool :=
  match acc.1.contentFilters k with
  | none => acc
  | some cfc =>
    if cfc.cfNecpControlUnit &&& filterControlUnit = 0 then acc
    else (((acc.1.runFlow id (attachEntry k cfc.cfId cfc.cfNecpControlUnit)).mapFilter k
      (·.insertEntry id)).verifyContentFilter k, true)

/-- `cfil_info_attach_unit` on flow `id`; the flag says whether an entry was attached. -/
def cfilInfoAttachUnit (id filterControlUnit : Nat) : Registry × Bool :=
  if (r.info? id).isNone then (r, false)
  else (List.finRange maxContentFilter).foldl (attachUnitRound id filterControlUnit) (r, false)

/-- `CFIL_STATS_REPORT_INTERVAL_MIN_MSEC`. -/
def cfilStatsReportIntervalMinMsec : Nat := 500

/-- The end of `cfil_info_stats_toggle` once no filter of the flow asks for reports: the
flow leaves `cfil_sock_head_stats` if it is on it. -/
def statsRemove (id : Nat) : Registry :=
  if id ∈ r.cfilSockHeadStats then
    { r with
      cfilSockHeadStats := r.cfilSockHeadStats.erase id
      cfilSockAttachedStatsCount := r.cfilSockAttachedStatsCount - 1 }
  else r

/-- `cfil_info_stats_toggle` for flow `id`, its entry `entry` if given, and a report
frequency in milliseconds, `0` turning reports off. -/
def cfilInfoStatsToggle (id : Nat) (entry : Option Kcunit) (reportFrequency : Nat) : Registry :=
  match entry, r.info? id with
  | none, _ => if reportFrequency ≠ 0 then r else r.statsRemove id
  | some _, none => r
  | some k, some f =>
    let e := f.info.cfiEntries k
    if reportFrequency ≠ 0 then
      if e.cfeStatsReportFrequency = reportFrequency then r
      else
        let r := r.runFlow id fun s => s.setEntry k { s.entry k with cfeStatsReportFrequency :=
          if reportFrequency < cfilStatsReportIntervalMinMsec then cfilStatsReportIntervalMinMsec else reportFrequency }
        if id ∈ r.cfilSockHeadStats then r
        else { r with
          cfilSockHeadStats := r.cfilSockHeadStats ++ [id]
          cfilSockAttachedStatsCount := r.cfilSockAttachedStatsCount + 1 }
    else if e.cfeStatsReportFrequency = 0 then r
    else
      let r := r.runFlow id fun s => s.setEntry k { s.entry k with cfeStatsReportFrequency := 0 }
      -- entry `k` now asks for none
      if (List.finRange maxContentFilter).any fun j => decide (j ≠ k ∧ 0 < (f.info.cfiEntries j).cfeStatsReportFrequency) then r
      else r.statsRemove id

/-- The round of `cfil_info_free`'s first loop for entry `k` of flow `id`: an attached
entry leaves its filter, which must be the one on its unit. -/
def freeEntry (id : Nat) (k : Kcunit) : Registry :=
  match r.info? id with
  | none => r
  | some f =>
    match (f.info.cfiEntries k).cfeFilter with
    | none => r
    | some c =>
      let r := r.verify ((r.contentFilters k).map (·.cfId) = some c)
      (r.leaveFilter k id (unlinkEntry k (r.flowSt f))).verifyContentFilter k

/-- `TAILQ_REMOVE` of flow `id` from `cfil_sock_head`, and `cfil_sock_attached_count--`. -/
def removeInfo (id : Nat) : Registry :=
  { r with
    cfilSockAttachedCount := r.cfilSockAttachedCount - 1
    cfilSockHead := r.cfilSockHead.filter fun f => f.cfiId ≠ id }

/-- `cfil_info_free` of flow `id`: every attached entry leaves its filter, then the flow
leaves `cfil_sock_head`, and `cfil_sock_head_stats` by `cfil_info_stats_toggle`. -/
def cfilInfoFree (id : Nat) : Registry :=
  if (r.info? id).isNone then r
  else
    let r := (List.finRange maxContentFilter).foldl (fun r k => r.freeEntry id k) r
    (r.removeInfo id).cfilInfoStatsToggle id none 0

end Registry

/-- The calls on the registry: the agents' callbacks, and the flow calls with the flow's
identity. -/
inductive RegistryOp where
  | ctlConnect (scUnit : Nat)
  | ctlSetoptNecpControlUnit (k : Kcunit) (necpControlUnit : Nat)
  | ctlDisconnect (k : Kcunit) (paths : List DisconnectPath)
  | ctlRcvd (k : Kcunit)
  | infoAlloc (sockId : Nat) (so : SockSt) (filterControlUnit policyGencount : Nat)
  | infoAttachUnit (id filterControlUnit : Nat)
  | attachEvent (id : Nat)
  | statsToggle (id : Nat) (k : Kcunit) (reportFrequency : Nat)
  | infoFree (id : Nat)

variable (env : Env)

def RegistryOp.apply : RegistryOp → Registry → Registry
  | .ctlConnect scUnit, r => (r.cfilCtlConnect scUnit).1
  | .ctlSetoptNecpControlUnit k necpControlUnit, r => (r.cfilCtlSetoptNecpControlUnit k necpControlUnit).1
  | .ctlDisconnect k paths, r => r.cfilCtlDisconnect env k paths
  | .ctlRcvd k, r => r.cfilCtlRcvd env k
  | .infoAlloc sockId so unit gencount, r => (r.cfilInfoAlloc sockId so unit gencount).1
  | .infoAttachUnit id filterControlUnit, r => (r.cfilInfoAttachUnit id filterControlUnit).1
  | .attachEvent id, r => r.runFlow id fun s => (cfilDispatchAttachEvent env none s).1
  | .statsToggle id k reportFrequency, r => r.cfilInfoStatsToggle id (some k) reportFrequency
  | .infoFree id, r => r.cfilInfoFree id

/-- `cfil_sock_attach` calls `cfil_info_attach_unit` once, on a flow none of whose entries
is attached yet. -/
def RegistryOp.callable (r : Registry) : RegistryOp → Prop
  | .infoAttachUnit id _ => ∀ k, r.entryFilter id k = none
  | _ => True

/-- The registries reached from `cfil_init` by any sequence of calls. -/
inductive RegistryReachable : Registry → Prop
  | init : RegistryReachable Registry.init
  | step {r : Registry} (op : RegistryOp) (callable : op.callable r) :
      RegistryReachable r → RegistryReachable (op.apply env r)

end ContentFilter
