import ContentFilter.PendingWindow

/-! The per-agent order of `SOCKET_CLOSED` and disconnect events. -/

namespace ContentFilter

variable (env : Env)

theorem closedEvent_before_attach (k : Kcunit) (s : FlowSt)
    (unattached : (s.entry k).cfeFlags.sentSockAttached = false) :
    (cfilDispatchClosedEvent env k s).1.outbox = s.outbox := by
  unfold cfilDispatchClosedEvent
  dsimp only
  split_ifs <;> simp_all [FlowSt.flowControl]

theorem disconnectEvent_sent (k : Kcunit) (s : FlowSt)
    (linked : (s.entry k).cfeFilter.isSome) (notSent : (s.entry k).cfeFlags.sentDisconnectOut = false)
    (empty : (s.ebuf k true).cfeCtlQ.qMq = []) (lifted : s.cfFlowControlled k = false)
    (taken : env.ctlEnqueue s.ticks = .ok) :
    (cfilDispatchDisconnectEvent env k true s).1.outbox = s.outbox ++ [(k, s.info.cfiSockId, .disconnect true)] := by
  have frame : ∀ s' : FlowSt, s' = setNoCloseWait s → s'.entry k = s.entry k ∧ s'.outbox = s.outbox ∧
      s'.ticks = s.ticks ∧ s'.cfFlowControlled = s.cfFlowControlled ∧ s'.info.cfiSockId = s.info.cfiSockId := by
    rintro _ rfl
    unfold setNoCloseWait
    split <;> simp
  unfold cfilDispatchDisconnectEvent
  obtain ⟨entry, outbox, ticks, fc, sockId⟩ := frame _ rfl
  simp only [FlowSt.ebuf] at empty
  simp [Option.isSome_iff_ne_none.mp linked, entry, notSent, empty, fc, lifted, afterEnqueue, FlowSt.ctlEnqueue,
    ticks, taken, outbox, sockId]

/-- Two filters, and `shutdown(SHUT_WR)` before any data: only the first agent was sent
`SOCKET_ATTACHED` when the flow was created. -/
def shutdownBeforeData : FlowRun := FlowRun.run demoKernel { st := twoFilterFlow } [.shutdown false true]

/-- The second agent's first event for the flow is `DISCONNECT_OUT`. -/
theorem disconnect_before_attach :
    FlowReachable demoKernel shutdownBeforeData ∧
      shutdownBeforeData.st.outbox = [(0, 7, .sockAttached), (0, 7, .disconnect true), (1, 7, .disconnect true)] :=
  ⟨FlowReachable.run demoKernel (@FlowReachable.attach demoKernel twoFilters 3 7 {} (fun _ => false) _ rfl) _,
    by decide⟩

end ContentFilter
