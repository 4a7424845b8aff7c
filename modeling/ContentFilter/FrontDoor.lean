import ContentFilter.DatagramRuns

/-! The stream socket's front doors, `cfil_sock_data_out` and `cfil_sock_data_in`, and its
way in and out, `cfil_sock_attach` and `cfil_sock_detach`. -/

namespace ContentFilter

/-- A stream socket's flow at the front doors, with the filter unit and policy generation
it was attached under (`cfi_filter_control_unit`, `cfi_filter_policy_gencount`). -/
structure TcpFlow where
  st : FlowSt
  cfiFilterControlUnit : Nat
  cfiFilterPolicyGencount : Nat

/-- What NECP and the socket layer say of a stream socket when a chain comes. -/
structure TcpCall where
  /-- `necp_socket_get_content_filter_control_unit(so)`. -/
  necpFilterControlUnit : Nat
  /-- `necp_socket_get_policy_gencount(so)`. -/
  necpPolicyGencount : Nat
  /-- `SKIP_FILTER_FOR_TCP_SOCKET(so)`. -/
  skipFilter : Bool := false
  /-- `IS_INITIAL_TFO_DATA(so)`. -/
  initialTfoData : Bool := false
  /-- `SB_LOCK` in `so_snd.sb_flags`. -/
  sbLocked : Bool := true
  /-- `so_snd.sb_cfil_thread != NULL`. -/
  sbCfilThreadSet : Bool := false

/-- The test of both stream front doors on a flow whose NECP filter unit changed: the flow
goes on with the new unit when connections are preserved or its policies did not change,
and is refused (`none`) otherwise. -/
def tcpFilterStateCheck (g : Global) (call : TcpCall) (f : TcpFlow) : Option TcpFlow :=
  if call.necpFilterControlUnit > 0 ∧ call.necpFilterControlUnit ≠ f.cfiFilterControlUnit ∧ !call.skipFilter then
    if g.preserveConnections ∨ f.cfiFilterPolicyGencount = call.necpPolicyGencount then
      some { f with cfiFilterControlUnit := call.necpFilterControlUnit }
    else none
  else some f

/-- Both front doors on a socket with no flow: once a filter policy applies, a chain of a
pre-existing unfiltered TCP socket is refused. -/
def tcpUnfilteredCheck (g : Global) (call : TcpCall) : Errno :=
  if !g.preserveConnections ∧ g.cfilActiveCount > 0 ∧ !call.skipFilter ∧ call.necpFilterControlUnit > 0 then .epipe
  else .ok

/-- The checks both front doors make of a flow before their own: the filter state, initial
TFO data (let through unfiltered), a drop. `inr` hands the flow on. -/
def tcpFrontChecks (g : Global) (call : TcpCall) (f : TcpFlow) : (TcpFlow × Errno) ⊕ TcpFlow :=
  match tcpFilterStateCheck g call f with
  | none => .inl (f, .epipe)
  | some f =>
    if call.initialTfoData then .inl (f, .ok)
    else if f.st.info.cfiFlags.drop then .inl (f, .epipe)
    else .inr f

variable (env : Env)

/-- `cfil_sock_data_out` on a stream socket, whose flow is `none` without
`SOF_CONTENT_FILTER` or `so_cfil`: a defunct socket refuses, and the two panics on the
send buffer's lock are the `VERIFY` latch. -/
def cfilSockDataOut (g : Global) (call : TcpCall) (data : Chain) : Option TcpFlow → Option TcpFlow × Errno
  | none => (none, tcpUnfilteredCheck g call)
  | some f =>
    match tcpFrontChecks g call f with
    | .inl (f, error) => (some f, error)
    | .inr f =>
      if f.st.sock.soDefunct then (some f, .epipe)
      else
        let r := cfilDataCommon env true data (f.st.verify (call.sbLocked && !call.sbCfilThreadSet))
        (some { f with st := r.1 }, r.2)

/-- `cfil_sock_data_in` on a stream socket. -/
def cfilSockDataIn (g : Global) (call : TcpCall) (data : Chain) : Option TcpFlow → Option TcpFlow × Errno
  | none => (none, tcpUnfilteredCheck g call)
  | some f =>
    match tcpFrontChecks g call f with
    | .inl (f, error) => (some f, error)
    | .inr f =>
      let r := cfilDataCommon env false data f.st
      (some { f with st := r.1 }, r.2)

section FrontChecks

variable {g : Global} {call : TcpCall} {f : TcpFlow}

theorem tcpFilterStateCheck_st {f' : TcpFlow} (kept : tcpFilterStateCheck g call f = some f') : f'.st = f.st := by
  unfold tcpFilterStateCheck at kept
  split_ifs at kept <;> cases kept <;> rfl

theorem tcpFrontChecks_st :
    (∀ f' error, tcpFrontChecks g call f = .inl (f', error) → f'.st = f.st) ∧
      ∀ f', tcpFrontChecks g call f = .inr f' → f'.st = f.st := by
  unfold tcpFrontChecks
  split
  · exact ⟨fun _ _ answered => by cases answered; rfl, fun _ handed => nomatch handed⟩
  · rename_i f'' kept
    have same := tcpFilterStateCheck_st kept
    refine ⟨fun _ _ answered => ?_, fun _ handed => ?_⟩
    · split_ifs at answered <;> cases answered <;> exact same
    · split_ifs at handed; cases handed; exact same

/-- Both stream front doors keep a sound flow sound: a chain they refuse, or let through
before the filters, leaves the flow's state as it was, and one they hand on goes through
`cfil_data_common` as a chain of the flow model does. -/
theorem front_doors_keep_flow_sound (g : Global) (call : TcpCall) (data : Chain) {f : TcpFlow}
    (sound : FlowSound env.msize f.st) :
    (∃ f', (cfilSockDataOut env g call data (some f)).1 = some f' ∧ FlowSound env.msize f'.st) ∧
      ∃ f', (cfilSockDataIn env g call data (some f)).1 = some f' ∧ FlowSound env.msize f'.st := by
  obtain ⟨answered, handed⟩ := @tcpFrontChecks_st g call f
  constructor
  · simp only [cfilSockDataOut]
    split
    · rename_i f' error checked
      exact ⟨f', rfl, answered f' error checked ▸ sound⟩
    · rename_i f' checked
      have sound' : FlowSound env.msize f'.st := handed f' checked ▸ sound
      split
      · exact ⟨f', rfl, sound'⟩
      · exact ⟨_, rfl, (sound'.verify _).dataCommon env true data⟩
  · simp only [cfilSockDataIn]
    split
    · rename_i f' error checked
      exact ⟨f', rfl, answered f' error checked ▸ sound⟩
    · rename_i f' checked
      exact ⟨_, rfl, (handed f' checked ▸ sound).dataCommon env false data⟩

/-- The stream socket of the debug checks, attached under filter unit 1 and policy
generation 0. -/
def oneFilterTcp : TcpFlow := ⟨oneFilterFlow, 1, 0⟩

theorem oneFilterTcp_front_doors_keep_sound :
    FlowSound demoKernel.msize oneFilterTcp.st ∧
      (∃ f', (cfilSockDataOut demoKernel oneFilterGlobal ⟨1, 0, false, false, true, false⟩ (oneByte 1)
          (some oneFilterTcp)).1 = some f' ∧ FlowSound demoKernel.msize f'.st) ∧
        ∃ f', (cfilSockDataIn demoKernel oneFilterGlobal ⟨1, 0, false, false, true, false⟩ (oneByte 1)
          (some oneFilterTcp)).1 = some f' ∧ FlowSound demoKernel.msize f'.st :=
  have reach := @FlowReachable.attach demoKernel oneFilter 1 7 {} (fun _ => false) oneFilterFlow rfl
  have sound : FlowSound demoKernel.msize oneFilterTcp.st := ⟨reach.transit, reach.guarded⟩
  ⟨sound, front_doors_keep_flow_sound demoKernel oneFilterGlobal ⟨1, 0, false, false, true, false⟩ (oneByte 1) sound⟩

end FrontChecks

/-- A stream socket as `cfil_sock_attach` finds and leaves it: `so_cfil`,
`SOF_CONTENT_FILTER`, and `so_usecount`. -/
structure TcpSock where
  soCfil : Option TcpFlow := none
  soContentFilter : Bool := false
  soUsecount : Nat := 0

/-- The flow the stream front doors filter with: `so_cfil`, once `SOF_CONTENT_FILTER` is
set; `none` sends them down the path of an unfiltered socket. -/
def TcpSock.filtered (t : TcpSock) : Option TcpFlow := if t.soContentFilter then t.soCfil else none

/-- `cfil_sock_attach` on a stream socket (`divertSkipped` for `SOF1_FLOW_DIVERT_SKIP`),
NECP answering `call`. -/
def cfilSockAttachTcp (g : Global) (flowControlled : Kcunit → Bool) (divertSkipped : Bool) (call : TcpCall)
    (sockId : Nat) (so : SockSt) (t : TcpSock) : TcpSock × Errno :=
  if divertSkipped ∨ call.skipFilter then (t, .ok)
  else if call.necpFilterControlUnit = 0 ∨ call.necpFilterControlUnit = necpFilterUnitNoFilter ∨
      call.necpFilterControlUnit &&& necpMaskUserspaceOnly ≠ 0 then (t, .ok)
  else if g.cfilActiveCount = 0 then (t, .ok)
  else if t.soCfil.isSome then (t, .ok)
  else
    let (s, attached) := cfilInfoAttachUnit g.slots call.necpFilterControlUnit (cfilInfoAlloc sockId so flowControlled)
    let flow : FlowSt → TcpFlow := fun s => ⟨s, call.necpFilterControlUnit, call.necpPolicyGencount⟩
    if !attached then ({ t with soCfil := some (flow s) }, .ok)
    else
      let (s, error) := cfilDispatchAttachEvent env none s
      ({ soCfil := some (flow s), soContentFilter := true, soUsecount := t.soUsecount + 1 },
        if error = .enobufs ∨ error = .enomem then .ok else error)

/-- `cfil_sock_detach` on a stream socket: a filtered socket gives back the reference
`cfil_sock_attach` took (the `VERIFY` that it has one is the answer's flag), and the flow
leaves `so_cfil` either way. -/
def cfilSockDetachTcp (t : TcpSock) : TcpSock × Bool :=
  match t.soCfil with
  | none => (t, true)
  | some _ =>
    if t.soContentFilter then ({ soCfil := none, soContentFilter := false, soUsecount := t.soUsecount - 1 }, decide (0 < t.soUsecount))
    else ({ t with soCfil := none }, true)

end ContentFilter
