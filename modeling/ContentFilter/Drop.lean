import ContentFilter.DebugChecks

/-! `cfil_action_drop` is terminal: every later entry point finds `CFIF_DROP` first. -/

namespace ContentFilter

variable (env : Env)

/-- What a drop leaves: the latch, and every queue of both directions back to
`cfil_queue_init`. -/
structure Dropped (s : FlowSt) : Prop where
  drop : s.info.cfiFlags.drop = true
  entryQueues : ∀ k d, (s.ebuf k d).cfeCtlQ = cfilQueueInit ∧ (s.ebuf k d).cfePendingQ = cfilQueueInit
  injectQ : ∀ d, (s.ibuf d).cfiInjectQ = cfilQueueInit

/-- Nothing moved between two points of a run: the latch still set, every entry and flow
buffer (queues and offsets) as it was, nothing more let through to the socket, and no
further chain accepted. -/
structure Still (r r' : FlowRun) : Prop where
  drop : r'.st.info.cfiFlags.drop = true
  ebuf : ∀ k d, r'.st.ebuf k d = r.st.ebuf k d
  ibuf : ∀ d, r'.st.ibuf d = r.st.ibuf d
  sndPassed : r'.st.sock.soSndPassed = r.st.sock.soSndPassed
  rcvPassed : r'.st.sock.soRcvPassed = r.st.sock.soRcvPassed
  acceptedOut : r'.acceptedOut = r.acceptedOut
  acceptedIn : r'.acceptedIn = r.acceptedIn

namespace Still

variable {r r₁ r₂ r₃ : FlowRun}

theorem refl (dropped : r.st.info.cfiFlags.drop = true) : Still r r :=
  ⟨dropped, fun _ _ => rfl, fun _ => rfl, rfl, rfl, rfl, rfl⟩

theorem trans (first : Still r₁ r₂) (second : Still r₂ r₃) : Still r₁ r₃ where
  drop := second.drop
  ebuf k d := (second.ebuf k d).trans (first.ebuf k d)
  ibuf d := (second.ibuf d).trans (first.ibuf d)
  sndPassed := second.sndPassed.trans first.sndPassed
  rcvPassed := second.rcvPassed.trans first.rcvPassed
  acceptedOut := second.acceptedOut.trans first.acceptedOut
  acceptedIn := second.acceptedIn.trans first.acceptedIn

theorem of_passed {s : FlowSt} (dropped : r.st.info.cfiFlags.drop = true)
    (drop : s.info.cfiFlags.drop = r.st.info.cfiFlags.drop) (ebuf : ∀ k d, s.ebuf k d = r.st.ebuf k d)
    (ibuf : ∀ d, s.ibuf d = r.st.ibuf d) (snd : s.sock.soSndPassed = r.st.sock.soSndPassed)
    (rcv : s.sock.soRcvPassed = r.st.sock.soRcvPassed) : Still r { r with st := s } :=
  ⟨drop.trans dropped, ebuf, ibuf, snd, rcv, rfl, rfl⟩

theorem of_st {s : FlowSt} (dropped : r.st.info.cfiFlags.drop = true) (drop : s.info.cfiFlags.drop = r.st.info.cfiFlags.drop)
    (ebuf : ∀ k d, s.ebuf k d = r.st.ebuf k d) (ibuf : ∀ d, s.ibuf d = r.st.ibuf d) (sock : s.sock = r.st.sock) :
    Still r { r with st := s } :=
  of_passed dropped drop ebuf ibuf (by rw [sock]) (by rw [sock])

theorem of_events {s : FlowSt} (dropped : r.st.info.cfiFlags.drop = true) (events : EventsOnly r.st s) :
    Still r { r with st := s } :=
  of_st dropped events.drop events.ebuf events.ibuf events.sock

end Still

theorem Dropped.of_still {r r' : FlowRun} (dropped : Dropped r.st) (still : Still r r') : Dropped r'.st :=
  ⟨still.drop, fun k d => by rw [still.ebuf]; exact dropped.entryQueues k d,
    fun d => by rw [still.ibuf]; exact dropped.injectQ d⟩

section Latched

variable {s : FlowSt} (latched : s.info.cfiFlags.drop = true)
include latched

theorem dataCommon_of_drop (d : Bool) (m : Chain) : cfilDataCommon env d m s = (s.verifyInfo, .epipe) := by
  simp [cfilDataCommon, latched]

theorem ctlSend_of_drop (k : Kcunit) (a : CfilAction) : cfilCtlSend env k a s = (s, .einval) := by
  simp [cfilCtlSend, latched]

theorem actionDataPass_of_drop (d : Bool) (k : Kcunit) (passOffset peekOffset : Nat) :
    cfilActionDataPass env d k passOffset peekOffset s = (s.verifyInfo, .epipe) := by
  simp [cfilActionDataPass, latched]

theorem blessClient_of_drop (k : Kcunit) :
    cfilActionBlessClient env k s = ((cfilSockReceivedVerdict s).verifyInfo.verifyInfo, .ok) := by
  simp [cfilActionBlessClient, cfilActionDataPass, cfilSockReceivedVerdict, latched]

theorem ctlDisconnectPasses_of_drop (k : Kcunit) : ctlDisconnectPasses env k s = s.verifyInfo.verifyInfo := by
  simp [ctlDisconnectPasses, cfilActionDataPass, latched]

theorem ctlDisconnectEntry_of_drop (k : Kcunit) :
    (cfilCtlDisconnectEntry env k s).1.info.cfiFlags = s.info.cfiFlags ∧
      (∀ j d, (cfilCtlDisconnectEntry env k s).1.ebuf j d = s.ebuf j d) ∧
      (∀ d, (cfilCtlDisconnectEntry env k s).1.ibuf d = s.ibuf d) ∧ (cfilCtlDisconnectEntry env k s).1.sock = s.sock := by
  unfold cfilCtlDisconnectEntry
  split
  · exact ⟨rfl, fun _ _ => rfl, fun _ => rfl, rfl⟩
  · simp only [ctlDisconnectPasses_of_drop env latched]
    split
    · simp
    · refine ⟨?_, fun j d => by simp [ctlDisconnectDetach], fun d => ?_, ?_⟩ <;> simp [ctlDisconnectDetach, unlinkEntry]

theorem sockBufUpdate_of_drop (d : Bool) : cfilSockBufUpdate env d s = s := by
  simp [cfilSockBufUpdate, latched]

theorem sockShutdown_of_drop (shutRd shutWr : Bool) : (cfilSockShutdown env shutRd shutWr s).1 = s := by
  simp only [cfilSockShutdown, latched, if_true]
  split_ifs <;> rfl

end Latched

section Flush

variable (s : FlowSt)

theorem flushQueues_ebuf (k : Kcunit) (d : Bool) :
    (cfilFlushQueues s).ebuf k d = { s.ebuf k d with cfeCtlQ := cfilQueueInit, cfePendingQ := cfilQueueInit } := by
  cases d <;> simp [cfilFlushQueues, drainDirection_ebuf]

theorem flushQueues_ibuf (d : Bool) : (cfilFlushQueues s).ibuf d = { s.ibuf d with cfiInjectQ := cfilQueueInit } := by
  cases d <;> simp [cfilFlushQueues, drainDirection_ibuf]

@[simp] theorem flushQueues_cfiFlags : (cfilFlushQueues s).info.cfiFlags = s.info.cfiFlags := by
  simp [cfilFlushQueues, drainDirection, FlowSt.mapEntries]

@[simp] theorem flushQueues_sock : (cfilFlushQueues s).sock = s.sock := by
  simp [cfilFlushQueues, drainDirection, FlowSt.mapEntries]

@[simp] theorem flushQueues_cfeFlags (k : Kcunit) : ((cfilFlushQueues s).entry k).cfeFlags = (s.entry k).cfeFlags := by
  simp [cfilFlushQueues, drainDirection]

end Flush

theorem flushQueues_of_dropped {s : FlowSt} (dropped : Dropped s) :
    (∀ k d, (cfilFlushQueues s).ebuf k d = s.ebuf k d) ∧ ∀ d, (cfilFlushQueues s).ibuf d = s.ibuf d := by
  refine ⟨fun k d => ?_, fun d => ?_⟩
  · obtain ⟨ctl, pending⟩ := dropped.entryQueues k d
    rw [flushQueues_ebuf]
    generalize s.ebuf k d = b at ctl pending ⊢
    cases b
    subst ctl pending
    rfl
  · rw [flushQueues_ibuf, ← dropped.injectQ d]

section Frame

variable (r : FlowRun)

theorem verify_still (t : FlowSt) (c : Bool) (still : Still r { r with st := t }) : Still r { r with st := t.verify c } :=
  still.trans (.of_st still.drop (by simp) (fun _ _ => by simp) (fun _ => by simp) (by simp))

theorem sock_still (t : FlowSt) (so : SockSt) (snd : so.soSndPassed = t.sock.soSndPassed)
    (rcv : so.soRcvPassed = t.sock.soRcvPassed) (still : Still r { r with st := t }) :
    Still r { r with st := { t with sock := so } } :=
  still.trans (.of_passed still.drop rfl (fun _ _ => rfl) (fun _ => rfl) snd rcv)

theorem flags_still (t : FlowSt) (f : CfiFlags) (drop : f.drop = t.info.cfiFlags.drop)
    (still : Still r { r with st := t }) : Still r { r with st := t.setIflags f } :=
  still.trans (.of_st still.drop drop (fun _ _ => rfl) (fun _ => by simp) rfl)

end Frame

theorem FlowRun.step_still (r : FlowRun) (dropped : Dropped r.st) (op : FlowOp) : Still r (r.step env op) := by
  have latched := dropped.drop
  cases op with
  | data d m =>
    simp only [FlowRun.step, dataCommon_of_drop env latched]
    exact ⟨by simpa using latched, by simp, by simp, by simp, by simp, by simp, by simp⟩
  | action k a =>
    simp only [FlowRun.step, ctlSend_of_drop env latched]
    exact .refl latched
  | bless k =>
    simp only [FlowRun.step, blessClient_of_drop env latched]
    exact .of_st latched (by simp [cfilSockReceivedVerdict]) (by simp [cfilSockReceivedVerdict])
      (by simp [cfilSockReceivedVerdict]) (by simp [cfilSockReceivedVerdict])
  | ctlDisconnect k =>
    have flowing : (letDataFlow k r.st).info.cfiFlags.drop = true := by simpa [letDataFlow] using latched
    obtain ⟨flags, ebuf, ibuf, sock⟩ := ctlDisconnectEntry_of_drop env flowing k
    exact .of_st latched (by rw [flags]; simp [letDataFlow]) (fun j d => by rw [ebuf]; simp [letDataFlow])
      (fun d => by rw [ibuf]; simp [letDataFlow]) (by rw [sock]; simp [letDataFlow])
  | bufUpdate d =>
    simp only [FlowRun.step, sockBufUpdate_of_drop env latched]
    exact .refl latched
  | shutdown shutRd shutWr =>
    simp only [FlowRun.step, sockShutdown_of_drop env latched]
    exact .refl latched
  | close =>
    have events := closedEvents_events env r.st
    show Still r { r with st := cfilSockIsClosed env r.st }
    unfold cfilSockIsClosed
    generalize (List.finRange maxContentFilter).foldl (fun s k => (cfilDispatchClosedEvent env k s).1) r.st = s₁ at events ⊢
    have latched₁ : s₁.info.cfiFlags.drop = true := events.drop.trans latched
    have closed : Dropped (s₁.setIflags { s₁.info.cfiFlags with sockClosed := true }) :=
      ⟨by simpa using latched₁, fun k d => by simpa [events.ebuf] using dropped.entryQueues k d,
        fun d => by simpa [events.ibuf] using dropped.injectQ d⟩
    obtain ⟨ebuf, ibuf⟩ := flushQueues_of_dropped closed
    dsimp only
    rw [if_pos latched₁]
    exact .of_st latched (by simp [latched₁, latched]) (fun k d => by simp [ebuf, events.ebuf])
      (fun d => by simp [ibuf, events.ibuf]) (by simp [events.sock])
  | flowControl k raised => exact .of_st latched rfl (fun _ _ => rfl) (fun _ => rfl) rfl
  | isDead =>
    exact sockIsDead_of_frame (fun t => Still r { r with st := t }) (verify_still r)
      (fun t so snd rcv _ => sock_still r t so snd rcv) (flags_still r) (.refl latched)
  | tcpAddTimeWait =>
    exact sockTcpAddTimeWait_of_frame (fun t => Still r { r with st := t }) (verify_still r)
      (fun t so snd rcv _ => sock_still r t so snd rcv) (flags_still r) (.refl latched)

theorem FlowRun.run_still (r : FlowRun) (dropped : Dropped r.st) : ∀ ops, Still r (r.run env ops)
  | [] => .refl dropped.drop
  | op :: ops =>
    have first := r.step_still env dropped op
    first.trans (FlowRun.run_still (r.step env op) (dropped.of_still first) ops)

theorem actionDrop_dropped (k : Kcunit) (s : FlowSt) (attached : (s.entry k).cfeFilter.isSome) :
    Dropped (cfilActionDrop k s).1 ∧ ((cfilActionDrop k s).1.entry k).cfeFlags.cfilDetached = true := by
  have linked : (s.entry k).cfeFilter.isNone = false := by simpa using attached
  unfold cfilActionDrop
  simp only [linked, Bool.false_eq_true, if_false]
  split <;> exact ⟨⟨by simp, fun j d => by simp [flushQueues_ebuf], fun d => by simp [flushQueues_ibuf]⟩,
    by simp [FlowSt.setEflags]⟩

/-- Drop is absorbing: after `cfil_action_drop` the latch stays, no buffer changes and nothing
more is accepted or let through, whatever calls follow. -/
theorem drop_is_absorbing (r : FlowRun) (k : Kcunit) (attached : (r.st.entry k).cfeFilter.isSome)
    (ops : List FlowOp) :
    Dropped (cfilActionDrop k r.st).1 ∧ ((cfilActionDrop k r.st).1.entry k).cfeFlags.cfilDetached = true ∧
      Still { r with st := (cfilActionDrop k r.st).1 } (FlowRun.run env { r with st := (cfilActionDrop k r.st).1 } ops) ∧
      ∀ d m j a passOffset peekOffset,
        (cfilDataCommon env d m (FlowRun.run env { r with st := (cfilActionDrop k r.st).1 } ops).st).2 = .epipe ∧
        (cfilCtlSend env j a (FlowRun.run env { r with st := (cfilActionDrop k r.st).1 } ops).st).2 = .einval ∧
        (cfilActionDataPass env d j passOffset peekOffset
          (FlowRun.run env { r with st := (cfilActionDrop k r.st).1 } ops).st).2 = .epipe := by
  obtain ⟨dropped, detached⟩ := actionDrop_dropped k r.st attached
  have still := FlowRun.run_still env { r with st := (cfilActionDrop k r.st).1 } dropped ops
  refine ⟨dropped, detached, still, fun d m j a passOffset peekOffset => ?_⟩
  rw [dataCommon_of_drop env still.drop, ctlSend_of_drop env still.drop, actionDataPass_of_drop env still.drop]
  exact ⟨rfl, rfl, rfl⟩

/-- The one-filter flow, dropped by its agent and then sent a chain, blessed, shut down
and closed. -/
theorem oneFilterFlow_drop_absorbing :
    (oneFilterFlow.entry 0).cfeFilter.isSome = true ∧
      Still { st := (cfilActionDrop 0 oneFilterFlow).1 }
        (FlowRun.run demoKernel { st := (cfilActionDrop 0 oneFilterFlow).1 }
          [.data true (oneByte 1), .bless 0, .shutdown true true, .close]) :=
  have attached : (oneFilterFlow.entry 0).cfeFilter.isSome = true := by decide
  ⟨attached, (drop_is_absorbing demoKernel { st := oneFilterFlow } 0 attached
    [.data true (oneByte 1), .bless 0, .shutdown true true, .close]).2.2.1⟩

end ContentFilter
