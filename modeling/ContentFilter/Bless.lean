import ContentFilter.PassAll

/-! `cfil_action_bless_client`: the pass-all it stands for moves offsets but, before
`CFEF_DATA_START`, no byte. -/

namespace ContentFilter

variable (env : Env) (d : Bool)

/-- One filter: a chain goes out, then its agent is blessed. -/
def blessedRun : FlowRun := FlowRun.run demoKernel { st := oneFilterFlow } [.data true (oneByte 1), .bless 0]

/-- One filter: a chain goes out, then its agent passes and peeks everything both ways. -/
def passAllRun : FlowRun :=
  FlowRun.run demoKernel { st := oneFilterFlow }
    [.data true (oneByte 1), .action 0 (.dataUpdate (2 ^ 64 - 1) (2 ^ 64 - 1) (2 ^ 64 - 1) (2 ^ 64 - 1))]

/-- The blessed entry, sent `SOCKET_ATTACHED` before the bless, has its offsets at
`CFM_MAX_OFFSET` and still holds the chain in its control queue, where the `DATA_UPDATE`
would have sent the chain on to the socket. -/
theorem bless_holds_what_passAll_releases :
    FlowReachable demoKernel blessedRun ∧ FlowReachable demoKernel passAllRun ∧
      ((FlowRun.run demoKernel { st := oneFilterFlow } [.data true (oneByte 1)]).st.entry 0).cfeFlags.sentSockAttached ∧
      (blessedRun.st.entry 0).cfeFilter.isSome ∧
      (blessedRun.st.ebuf 0 true).cfePassOffset = demoKernel.cfmMaxOffset ∧
      (blessedRun.st.ebuf 0 false).cfePassOffset = demoKernel.cfmMaxOffset ∧
      (blessedRun.st.ebuf 0 true).cfeCtlQ.qMq = [oneByte 1] ∧ blessedRun.st.sock.soSndPassed = [] ∧
      (passAllRun.st.ebuf 0 true).cfeCtlQ.qMq = [] ∧ (passAllRun.st.ebuf 0 true).cfePendingQ.qMq = [] ∧
      passAllRun.st.sock.soSndPassed = [oneByte 1] :=
  have attached := @FlowReachable.attach demoKernel oneFilter 1 7 {} (fun _ => false) _ rfl
  ⟨FlowReachable.run demoKernel attached _, FlowReachable.run demoKernel attached _, by decide⟩

/-- The flow of `blessedRun` before its chain: the bless raised the fast-path bound to
`CFM_MAX_OFFSET` while nothing was pending. -/
def blessedFlow : FlowRun := FlowRun.run demoKernel { st := oneFilterFlow } [.bless 0]

/-- The slow path the fast path stands for: the chain admitted, given to the first
attached entry of `cfi_ordered_entries` with all the chaining, then
`cfil_service_inject_queue`. -/
def slowPathReference (data : Chain) (s : FlowSt) : Except FlowSt (FlowSt × Errno) :=
  let s := pendingAdmit env d data s
  (dataCommonSlowPath env d data s.info.cfiOrderedEntries false .ok s).map fun r =>
    ((cfilServiceInjectQueue env d r.1).1, r.2)

/-- After the bless, a chain meets the fast-path guard. The fast path lets it through to
the socket and empties nothing it did not hold; the slow path keeps it in the entry's
control queue and lets nothing through. -/
theorem fastPath_releases_what_slowPath_holds :
    FlowReachable demoKernel blessedFlow ∧
      ((pendingAdmit demoKernel true (oneByte 1) blessedFlow.st).ibuf true).cfiPendingLast ≤
        ((pendingAdmit demoKernel true (oneByte 1) blessedFlow.st).ibuf true).cfiPassOffset ∧
      (cfilDataCommon demoKernel true (oneByte 1) blessedFlow.st).2 = .ok ∧
      ((cfilDataCommon demoKernel true (oneByte 1) blessedFlow.st).1.ebuf 0 true).cfeCtlQ.qMq = [] ∧
      (blessedFlow.step demoKernel (.data true (oneByte 1))).st.sock.soSndPassed = [oneByte 1] ∧
      (slowPathReference demoKernel true (oneByte 1) blessedFlow.st).toOption.map
          (fun r => (r.2, (r.1.ebuf 0 true).cfeCtlQ.qMq, r.1.sock.soSndPassed)) =
        some (.ejustreturn, [oneByte 1], []) :=
  ⟨FlowReachable.run demoKernel (@FlowReachable.attach demoKernel oneFilter 1 7 {} (fun _ => false) _ rfl) _,
    by decide⟩

end ContentFilter
