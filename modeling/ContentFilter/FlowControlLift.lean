import ContentFilter.Registry

/-! `cfil_ctl_rcvd` lifts flow control but services no entry. -/

namespace ContentFilter

namespace Registry

variable (env : Env) (r : Registry)

theorem ctlRcvdSearch_eq_none (k : Kcunit) : ∀ ids, r.ctlRcvdSearch k ids = none
  | [] => rfl
  | id :: rest => by
    have later := ctlRcvdSearch_eq_none k rest
    unfold ctlRcvdSearch
    split
    · exact later
    · split <;> exact later

theorem mapFilter_of_none {k : Kcunit} (free : r.contentFilters k = none) (g : ContentFilterSt → ContentFilterSt) :
    r.mapFilter k g = r := by
  simp only [mapFilter, setFilter, free, Option.map_none']
  rw [← free, Function.update_eq_self]

theorem mapFilter_of_some {k : Kcunit} {cfc : ContentFilterSt} (slot : r.contentFilters k = some cfc)
    (g : ContentFilterSt → ContentFilterSt) : r.mapFilter k g = r.setFilter k (some (g cfc)) := by
  simp only [mapFilter, slot, Option.map_some']

theorem verifyContentFilter_cases (k : Kcunit) :
    r.verifyContentFilter k = r ∨ r.verifyContentFilter k = { r with panicked := true } := by
  unfold verifyContentFilter
  split
  · exact .inl rfl
  · unfold verify
    split
    · exact .inl rfl
    · exact .inr rfl

theorem cfilCtlRcvd_eq (k : Kcunit) :
    r.cfilCtlRcvd env k = (r.mapFilter k fun cfc => { cfc with cfFlowControlled := false }).verifyContentFilter k := by
  unfold cfilCtlRcvd
  cases slot : r.contentFilters k with
  | none =>
    rw [mapFilter_of_none r slot]
    simp [verifyContentFilter, slot]
  | some cfc =>
    have lifted : (if cfc.cfFlowControlled then r.mapFilter k fun cfc => { cfc with cfFlowControlled := false }
        else r) = r.mapFilter k fun cfc => { cfc with cfFlowControlled := false } := by
      split
      · rfl
      · rename_i clear
        have same : { cfc with cfFlowControlled := false } = cfc := by cases cfc; simp_all
        rw [mapFilter_of_some r slot, same, ← slot]
        simp [setFilter]
    dsimp only
    rw [lifted, ctlRcvdLoop]
    simp [mapFilter_of_some r slot, setFilter, ctlRcvdSearch_eq_none]

theorem cfilCtlRcvd_services_nothing (k : Kcunit) :
    (r.cfilCtlRcvd env k).cfilSockHead = r.cfilSockHead ∧ (r.cfilCtlRcvd env k).outbox = r.outbox ∧
      (r.cfilCtlRcvd env k).ticks = r.ticks := by
  rw [cfilCtlRcvd_eq]
  rcases verifyContentFilter_cases (r.mapFilter k fun cfc => { cfc with cfFlowControlled := false }) k with same | failed
  · rw [same]; exact ⟨rfl, rfl, rfl⟩
  · rw [failed]; exact ⟨rfl, rfl, rfl⟩

end Registry

/-- A transport that refuses the first message for want of buffers and takes every
later one. -/
def fullOnceKernel : Env := { demoKernel with ctlEnqueue := fun tick => if tick = 0 then .enobufs else .ok }

/-- One filter, on control unit 1 with NECP control unit 1, and one stream socket (the
second object handed out, so identity 1) attached to it, whose `SOCKET_ATTACHED` met the
full transport. -/
def flowControlledRegistry : Registry :=
  (RegistryOp.attachEvent 1).apply fullOnceKernel <|
    (RegistryOp.infoAttachUnit 1 1).apply fullOnceKernel <|
    (RegistryOp.infoAlloc 7 {} 1 0).apply fullOnceKernel <|
    (RegistryOp.ctlSetoptNecpControlUnit 0 1).apply fullOnceKernel <|
    (RegistryOp.ctlConnect 1).apply fullOnceKernel Registry.init

/-- After the lift, on a transport that now takes every message, the flow-controlled
entry of a live flow still owes its agent `SOCKET_ATTACHED`. -/
theorem flowControl_lift_leaves_attach_owed :
    RegistryReachable fullOnceKernel flowControlledRegistry ∧
      (∀ tick, flowControlledRegistry.ticks ≤ tick → fullOnceKernel.ctlEnqueue tick = .ok) ∧
      ((flowControlledRegistry.cfilCtlRcvd fullOnceKernel 0).contentFilters 0).map (·.cfSockEntries) = some [1] ∧
      (flowControlledRegistry.cfilCtlRcvd fullOnceKernel 0).cfFlowControlled 0 = false ∧
      ((flowControlledRegistry.cfilCtlRcvd fullOnceKernel 0).info? 1).any fun f =>
        (f.info.cfiEntries 0).cfeFilter.isSome && (f.info.cfiEntries 0).cfeFlags.flowControlled &&
          !(f.info.cfiEntries 0).cfeFlags.sentSockAttached && !f.info.cfiFlags.drop && !f.sock.soDefunct := by
  have one : flowControlledRegistry.ticks = 1 := by decide
  refine ⟨.step _ trivial <| .step _ (show ∀ k : Kcunit, _ = none by decide) <| .step _ trivial <|
    .step _ trivial <| .step _ trivial .init, fun tick later => ?_, by decide⟩
  show (if tick = 0 then Errno.enobufs else .ok) = .ok
  rw [if_neg (by omega)]

end ContentFilter
