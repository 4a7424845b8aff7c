import ContentFilter.EventOrder

/-! Retries of re-injection by `cfil_sock_buf_update`, which never refresh `cfi_pass_offset`. -/

namespace ContentFilter

variable (env : Env) (d : Bool)

theorem injectLoop_ibuf_keeps (f : CfiBuf → Nat)
    (keeps : ∀ (b : CfiBuf) q first mbcnt mbnum,
      f { b with cfiInjectQ := q, cfiPendingFirst := first, cfiPendingMbcnt := mbcnt, cfiPendingMbnum := mbnum } = f b) :
    ∀ fuel error (s : FlowSt) d', f ((injectLoop env d fuel error s).1.ibuf d') = f (s.ibuf d')
  | 0, _, _, _ => rfl
  | fuel + 1, error, s, d' => by
    have dequeued : ∀ data, f ((injectDequeue env d data s).ibuf d') = f (s.ibuf d') := fun data => by
      simp only [injectDequeue, pendingRelease, FlowSt.removeQ, verify_ibuf, ibuf_setIbuf_apply, ibuf_setQueue_inject]
      split
      · next same => subst same; simp only [if_true]; exact keeps _ _ _ _ _
      · rfl
    unfold injectLoop
    split
    · rfl
    · next data _ _ =>
      dsimp only
      split
      · split
        · exact dequeued data
        · exact (injectLoop_ibuf_keeps f keeps fuel _ _ d').trans (dequeued data)
      · exact (injectLoop_ibuf_keeps f keeps fuel _ _ d').trans (dequeued data)

theorem serviceInjectQueue_ibuf_keeps (f : CfiBuf → Nat)
    (keeps : ∀ (b : CfiBuf) q first mbcnt mbnum,
      f { b with cfiInjectQ := q, cfiPendingFirst := first, cfiPendingMbcnt := mbcnt, cfiPendingMbnum := mbnum } = f b)
    (s : FlowSt) (d' : Bool) : f ((cfilServiceInjectQueue env d s).1.ibuf d') = f (s.ibuf d') :=
  serviceInjectQueue_of_steps env d (fun t => f (t.ibuf d') = f (s.ibuf d')) rfl
    (fun _ _ same => by simpa [setRetryInject] using same)
    (fun fuel error t same => (injectLoop_ibuf_keeps env d f keeps fuel error t d').trans same)
    (fun _ => serviceInjectTail_of_frame env _ (fun _ _ same => by simpa using same) (fun _ _ _ _ _ same => same)
      (fun _ _ _ same => by simpa using same) (fun _ same => same)
      (fun _ _ events same => (congrArg f (events.ibuf d')).trans same))
    (fun _ same => by simpa using same)

theorem serviceInjectQueue_passOffset (s : FlowSt) (d' : Bool) :
    ((cfilServiceInjectQueue env d s).1.ibuf d').cfiPassOffset = (s.ibuf d').cfiPassOffset :=
  serviceInjectQueue_ibuf_keeps env d CfiBuf.cfiPassOffset (fun _ _ _ _ _ => rfl) s d'

theorem bufUpdate_keeps_passOffset (s : FlowSt) (d' : Bool) :
    ((cfilSockBufUpdate env d s).ibuf d').cfiPassOffset = (s.ibuf d').cfiPassOffset :=
  sockBufUpdate_of_steps env d (fun t => (t.ibuf d').cfiPassOffset = (s.ibuf d').cfiPassOffset) rfl
    (serviceInjectQueue_passOffset env d s d')

/-- A kernel whose first re-injection attempt fails, every other call succeeding. -/
def flakyKernel : Env := { demoKernel with sosendReinject := fun t => if t = 1 then .enobufs else .ok }

/-- A stream socket as `cfil_sock_attach` leaves it, with `oneFilter` attached. -/
def flakyFlow : FlowSt :=
  (cfilSockAttach flakyKernel oneFilter 1 7 {} fun _ => false).getD (cfilInfoAlloc 7 {} fun _ => false)

/-- Two chains held, a verdict that passes both, whose re-injection fails at the first;
the retry by `cfil_sock_buf_update`, which succeeds; then a third chain. -/
def retryThenData : FlowRun :=
  FlowRun.run flakyKernel { st := flakyFlow }
    [.data true (oneByte 1), .data true (oneByte 2), .action 0 (.dataUpdate 100 100 0 0), .bufUpdate true,
      .data true (oneByte 3)]

/-- The third chain, passed by the agent at once, waits in `cfi_inject_q` of a live
socket with no retry asked for. -/
theorem passed_chain_parked_without_retry :
    FlowReachable flakyKernel retryThenData ∧ (retryThenData.st.ibuf true).cfiInjectQ.qMq = [oneByte 3] ∧
      retryThenData.st.info.cfiFlags.retryInjectOut = false ∧ retryThenData.st.sock.soDefunct = false ∧
      (retryThenData.st.ibuf true).cfiPassOffset = 0 :=
  ⟨FlowReachable.run flakyKernel (@FlowReachable.attach flakyKernel oneFilter 1 7 {} (fun _ => false) _ rfl) _,
    by decide⟩

end ContentFilter
