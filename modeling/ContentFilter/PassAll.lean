import ContentFilter.DebugChecks

/-! The pass-alls of `cfil_action_bless_client` and `cfil_ctl_disconnect`. -/

namespace ContentFilter

variable (env : Env) (d : Bool)

/-- Every entry's buffers and filter as they were; flags and the flow buffers may
change. -/
structure EntriesKept (s s' : FlowSt) : Prop where
  ebuf : ∀ k d, s'.ebuf k d = s.ebuf k d
  cfeFilter : ∀ k, (s'.entry k).cfeFilter = (s.entry k).cfeFilter

namespace EntriesKept

variable {s s₁ s₂ s₃ : FlowSt}

theorem refl : EntriesKept s s := ⟨fun _ _ => rfl, fun _ => rfl⟩

theorem trans (first : EntriesKept s₁ s₂) (second : EntriesKept s₂ s₃) : EntriesKept s₁ s₃ :=
  ⟨fun k d => (second.ebuf k d).trans (first.ebuf k d), fun k => (second.cfeFilter k).trans (first.cfeFilter k)⟩

theorem of_events (events : EventsOnly s s') : EntriesKept s s' := ⟨events.ebuf, events.cfeFilter⟩

theorem of_entries (same : ∀ k, s'.entry k = s.entry k) : EntriesKept s s' :=
  ⟨fun k d => by simp only [FlowSt.ebuf, same], fun k => by rw [same]⟩

end EntriesKept

@[simp] theorem setEbuf_ebuf_self (s : FlowSt) (k : Kcunit) : s.setEbuf k d (s.ebuf k d) = s := by
  simp only [FlowSt.setEbuf, FlowSt.ebuf, CfilEntry.setBuf_self, FlowSt.setEntry, FlowSt.entry,
    Function.update_eq_self]

theorem injectLoop_entry : ∀ fuel error (s : FlowSt) k, (injectLoop env d fuel error s).1.entry k = s.entry k
  | 0, _, _, _ => rfl
  | fuel + 1, error, s, k => by
    have dequeued : ∀ data, (injectDequeue env d data s).entry k = s.entry k := fun data => by
      simp [injectDequeue, pendingRelease, FlowSt.removeQ, FlowSt.setQueue]
    unfold injectLoop
    split
    · rfl
    · rename_i data _ _
      dsimp only
      split
      · split
        · exact dequeued data
        · exact (injectLoop_entry fuel _ _ k).trans (dequeued data)
      · exact (injectLoop_entry fuel _ _ k).trans (dequeued data)

theorem serviceInjectQueue_entriesKept (s : FlowSt) : EntriesKept s (cfilServiceInjectQueue env d s).1 :=
  serviceInjectQueue_of_steps env d (EntriesKept s) .refl (fun _ _ kept => kept.trans (.of_entries fun _ => rfl))
    (fun fuel error t kept => kept.trans (.of_entries (injectLoop_entry env d fuel error t)))
    (fun _ => serviceInjectTail_of_frame env (EntriesKept s) (fun _ _ kept => kept.trans (.of_entries fun _ => by simp))
      (fun _ _ _ _ _ kept => kept.trans (.of_entries fun _ => rfl))
      (fun _ _ _ kept => kept.trans (.of_entries fun _ => rfl)) (fun _ kept => kept.trans (.of_entries fun _ => rfl))
      fun _ _ events kept => kept.trans (.of_events events))
    (fun _ kept => kept.trans (.of_entries fun _ => verifyInfo_entry _ _))

theorem setSocketPassOffset_entry (s : FlowSt) (k : Kcunit) : (cfilSetSocketPassOffset d s).entry k = s.entry k := by
  unfold cfilSetSocketPassOffset
  dsimp only
  split_ifs
  · simp
  · rfl

theorem raiseOffsets_of_le (b : CfeBuf) {passOffset peekOffset : Nat} (pass : passOffset ≤ b.cfePassOffset)
    (peek : peekOffset ≤ b.cfePeekOffset) : b.raiseOffsets passOffset peekOffset = (b, false) := by
  simp [CfeBuf.raiseOffsets, Nat.not_lt.mpr pass, Nat.not_lt.mpr peek]

theorem updateDataOffsets_without_raise (k : Kcunit) (s : FlowSt) {passOffset peekOffset : Nat}
    (pass : passOffset ≤ (s.ebuf k d).cfePassOffset) (peek : peekOffset ≤ (s.ebuf k d).cfePeekOffset) :
    EntriesKept s (cfilUpdateDataOffsets env d k passOffset peekOffset s).1 := by
  unfold cfilUpdateDataOffsets
  split
  · exact .of_entries fun _ => verifyInfo_entry _ _
  rw [raiseOffsets_of_le _ pass peek]
  dsimp only
  rw [setEbuf_ebuf_self]
  have flagged : ∀ (detach : Bool) f, EntriesKept s (if detach = true then wakeCloseWait (s.setEflags k f) else s) :=
    fun detach f => by
      cases detach
      · exact .refl
      · exact .of_events ((EventsOnly.setEflags _ _ _).trans (wakeCloseWait_events _))
  exact (flagged _ _).trans (.of_entries fun _ => verifyInfo_entry _ _)

/-- One filter: a chain, a bless before the agent's first verdict, then the agent's first
verdict, passing and peeking one byte out. -/
def blessThenVerdict : FlowRun :=
  FlowRun.run demoKernel { st := oneFilterFlow } [.data true (oneByte 1), .bless 0, .action 0 (.dataUpdate 1 1 0 0)]

/-- The verdict sets `CFEF_DATA_START` but raises no offset the bless raised, so nothing
services the chain the agent has passed. -/
theorem passed_chain_waits_after_first_verdict :
    FlowReachable demoKernel blessThenVerdict ∧ (blessThenVerdict.st.entry 0).cfeFilter.isSome ∧
      (blessThenVerdict.st.entry 0).cfeFlags.dataStart ∧
      (blessThenVerdict.st.ebuf 0 true).cfeCtlQ.qMq = [oneByte 1] ∧
      (blessThenVerdict.st.ebuf 0 true).cfeCtlQ.qEnd ≤ (blessThenVerdict.st.ebuf 0 true).cfePassOffset :=
  ⟨FlowReachable.run demoKernel (@FlowReachable.attach demoKernel oneFilter 1 7 {} (fun _ => false) _ rfl) _,
    by decide⟩

/-- One filter: a chain, a bless before the agent's first verdict, then the agent's
disconnect, which finds the flow's socket. -/
def disconnectAfterBless : FlowRun :=
  FlowRun.run demoKernel { st := oneFilterFlow } [.data true (oneByte 1), .bless 0, .ctlDisconnect 0]

/-- The flow is not dropped and its entry was attached when the agent disconnected; the
entry leaves its filter with the chain still in its control queue, and nothing reached the
inject queue or the socket. -/
theorem disconnect_strands_blessed_chain :
    FlowReachable demoKernel disconnectAfterBless ∧
      ((FlowRun.run demoKernel { st := oneFilterFlow } [.data true (oneByte 1), .bless 0]).st.entry 0).cfeFilter.isSome ∧
      disconnectAfterBless.st.info.cfiFlags.drop = false ∧ (disconnectAfterBless.st.entry 0).cfeFilter = none ∧
      (disconnectAfterBless.st.ebuf 0 true).cfeCtlQ.qMq = [oneByte 1] ∧
      (disconnectAfterBless.st.ibuf true).cfiInjectQ.qMq = [] ∧ disconnectAfterBless.st.sock.soSndPassed = [] :=
  ⟨FlowReachable.run demoKernel (@FlowReachable.attach demoKernel oneFilter 1 7 {} (fun _ => false) _ rfl) _,
    by decide⟩

/-- One filter: a chain, a bless before the agent's first verdict, the agent's
disconnect, then a second chain. -/
def blessThenDisconnect : List FlowOp :=
  [.data true (oneByte 1), .bless 0, .ctlDisconnect 0, .data true (oneByte 2)]

def strandedRun : FlowRun := FlowRun.run demoKernel { st := oneFilterFlow } blessThenDisconnect

/-- The first chain stays in the detached entry, out of every queue that is ever
serviced, and the second goes to the socket ahead of it. -/
theorem stranded_chain_overtaken :
    FlowReachable demoKernel strandedRun ∧ strandedRun.acceptedOut = [oneByte 1, oneByte 2] ∧
      strandedRun.st.sock.soSndPassed = [oneByte 2] ∧ (strandedRun.st.entry 0).cfeFilter = none ∧
      (strandedRun.st.ebuf 0 true).cfeCtlQ.qMq = [oneByte 1] ∧ (strandedRun.st.ibuf true).cfiInjectQ.qMq = [] :=
  ⟨FlowReachable.run demoKernel (@FlowReachable.attach demoKernel oneFilter 1 7 {} (fun _ => false) _ rfl) _,
    by decide⟩

/-- Two connected filters, on control units 1 and 2, with NECP control units 1 and 2. -/
def twoFilters : FilterSlots := fun k => if k = 0 then some (1, 1) else if k = 1 then some (2, 2) else none

/-- A stream socket as `cfil_sock_attach` leaves it, with both filters attached. -/
def twoFilterFlow : FlowSt :=
  (cfilSockAttach demoKernel twoFilters 3 7 {} fun _ => false).getD (cfilInfoAlloc 7 {} fun _ => false)

/-- Two filters: the first agent is blessed and disconnects as above, and the second
agent, which saw only the second chain, then gives its first verdict. -/
def secondAgentRun (verdict : CfilAction) : FlowRun :=
  FlowRun.run demoKernel { st := twoFilterFlow } (blessThenDisconnect ++ [.action 1 verdict])

theorem secondAgentRun_reachable (verdict : CfilAction) : FlowReachable demoKernel (secondAgentRun verdict) :=
  FlowReachable.run demoKernel (@FlowReachable.attach demoKernel twoFilters 3 7 {} (fun _ => false) _ rfl) _

/-- The second agent passes its first byte, the second accepted byte of the stream: it
goes to the socket, with the attached second entry's pass offset at 1. -/
theorem release_beyond_attached_pass_offset :
    FlowReachable demoKernel (secondAgentRun (.dataUpdate 1 1 0 0)) ∧
      (FlowRun.run demoKernel { st := twoFilterFlow } blessThenDisconnect).st.sock.soSndPassed = [] ∧
      (secondAgentRun (.dataUpdate 1 1 0 0)).acceptedOut = [oneByte 1, oneByte 2] ∧
      (secondAgentRun (.dataUpdate 1 1 0 0)).st.sock.soSndPassed = [oneByte 2] ∧
      ((secondAgentRun (.dataUpdate 1 1 0 0)).st.entry 1).cfeFilter.isSome ∧
      ((secondAgentRun (.dataUpdate 1 1 0 0)).st.ebuf 1 true).cfePassOffset = 1 :=
  ⟨secondAgentRun_reachable _, by decide⟩

/-- The second agent peeks one byte: its `DATA_OUT` covers offsets [0, 1) and carries
the second accepted byte, while the stream's byte at offset 0 is the first. -/
theorem data_event_carries_other_bytes :
    FlowReachable demoKernel (secondAgentRun (.dataUpdate 0 1 0 0)) ∧
      (secondAgentRun (.dataUpdate 0 1 0 0)).acceptedOut = [oneByte 1, oneByte 2] ∧
      (1, 7, .dataEvent true 0 1 [2]) ∈ (secondAgentRun (.dataUpdate 0 1 0 0)).st.outbox :=
  ⟨secondAgentRun_reachable _, by decide⟩

end ContentFilter
