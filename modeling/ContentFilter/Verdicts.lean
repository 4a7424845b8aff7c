import ContentFilter.PassAll

/-! Verdicts only raise offsets, and a verdict applied twice acts once. -/

namespace ContentFilter

/-- What the agent of an entry set, and what servicing reads but never writes. -/
structure AgentView where
  passOffset : Bool → Nat
  peekOffset : Bool → Nat
  statsReportFrequency : Nat

def CfilEntry.agentView (e : CfilEntry) : AgentView :=
  ⟨fun d => (e.buf d).cfePassOffset, fun d => (e.buf d).cfePeekOffset, e.cfeStatsReportFrequency⟩

/-- The agents' view of every entry of a flow. -/
def CfilInfo.agentView (i : CfilInfo) (k : Kcunit) : AgentView := (i.cfiEntries k).agentView

section Primitives

variable (s : FlowSt) (k : Kcunit) (d : Bool)

theorem agentView_of_entries {i i' : CfilInfo} (same : i'.cfiEntries = i.cfiEntries) : i'.agentView = i.agentView := by
  funext j
  simp [CfilInfo.agentView, same]

@[simp] theorem agentView_setBuf (i : CfilInfo) (b : CfiBuf) : (i.setBuf d b).agentView = i.agentView :=
  agentView_of_entries (by simp)

@[simp] theorem agentView_wakeCloseWait : (wakeCloseWait s).info.agentView = s.info.agentView := by
  unfold wakeCloseWait; split <;> rfl

theorem agentView_setEntry {e : CfilEntry} (same : e.agentView = (s.entry k).agentView) :
    (s.setEntry k e).info.agentView = s.info.agentView := by
  funext j
  show ((s.setEntry k e).entry j).agentView = (s.entry j).agentView
  rw [entry_setEntry_apply]
  split
  · subst j; exact same
  · rfl

@[simp] theorem agentView_setIbuf (b : CfiBuf) : (s.setIbuf d b).info.agentView = s.info.agentView :=
  agentView_setBuf _ _ _

@[simp] theorem agentView_setIflags (f : CfiFlags) : (s.setIflags f).info.agentView = s.info.agentView := rfl

@[simp] theorem agentView_setEflags (f : CfeFlags) : (s.setEflags k f).info.agentView = s.info.agentView :=
  agentView_setEntry _ _ rfl

theorem agentView_setEbuf {b : CfeBuf} (pass : b.cfePassOffset = (s.ebuf k d).cfePassOffset)
    (peek : b.cfePeekOffset = (s.ebuf k d).cfePeekOffset) : (s.setEbuf k d b).info.agentView = s.info.agentView := by
  refine agentView_setEntry _ _ ?_
  simp only [CfilEntry.agentView, AgentView.mk.injEq]
  refine ⟨funext fun d' => ?_, funext fun d' => ?_, by cases d <;> rfl⟩ <;> cases d <;> cases d' <;>
    simp_all [CfilEntry.setBuf, CfilEntry.buf, FlowSt.ebuf]

@[simp] theorem agentView_setQueue (loc : QLoc) (q : CfilQueue) : (s.setQueue loc q).info.agentView = s.info.agentView := by
  cases loc <;> first | exact agentView_setEbuf _ _ _ rfl rfl | exact agentView_setIbuf _ _ _

@[simp] theorem agentView_enqueueQ (loc : QLoc) (m : Chain) : (s.enqueueQ loc m).info.agentView = s.info.agentView := by
  simp [FlowSt.enqueueQ]

@[simp] theorem agentView_removeQ (loc : QLoc) (m : Chain) : (s.removeQ loc m).info.agentView = s.info.agentView := by
  simp [FlowSt.removeQ]

@[simp] theorem agentView_setPeeked (p : Nat) : (s.setPeeked k d p).info.agentView = s.info.agentView :=
  agentView_setEbuf _ _ _ rfl rfl

@[simp] theorem agentView_flowControl : (s.flowControl k).info.agentView = s.info.agentView :=
  agentView_setEflags _ _ _

end Primitives

section Dispatches

variable (env : Env) (s : FlowSt) (k : Kcunit) (d : Bool)

@[simp] theorem agentView_ctlEnqueue (msg : CfilMsg) : (s.ctlEnqueue env k msg).1.info.agentView = s.info.agentView := by
  unfold FlowSt.ctlEnqueue
  dsimp only
  split <;> rfl

theorem agentView_afterEnqueue (r : FlowSt × Errno) {sent : FlowSt → FlowSt}
    (sentView : ∀ t, (sent t).info.agentView = t.info.agentView) :
    (afterEnqueue k sent r).1.info.agentView = r.1.info.agentView := by
  obtain ⟨t, error⟩ := r
  cases error <;> simp [afterEnqueue, sentView]

@[simp] theorem agentView_attachEvent (kcunit : Option Kcunit) :
    (cfilDispatchAttachEvent env kcunit s).1.info.agentView = s.info.agentView := by
  unfold cfilDispatchAttachEvent
  split
  · rfl
  · dsimp only
    split_ifs <;> simp [agentView_afterEnqueue]

@[simp] theorem agentView_dataEvent (data : Chain) (copyoffset copylen : Nat) :
    (cfilDispatchDataEvent env k d data copyoffset copylen s).1.info.agentView = s.info.agentView := by
  unfold cfilDispatchDataEvent
  dsimp only
  split_ifs <;> simp [agentView_afterEnqueue]

@[simp] theorem agentView_setNoCloseWait : (setNoCloseWait s).info.agentView = s.info.agentView := by
  unfold setNoCloseWait
  split <;> simp

@[simp] theorem agentView_disconnectEvent : (cfilDispatchDisconnectEvent env k d s).1.info.agentView = s.info.agentView := by
  unfold cfilDispatchDisconnectEvent
  dsimp only
  split_ifs <;> simp [agentView_afterEnqueue]

@[simp] theorem agentView_closedEvent : (cfilDispatchClosedEvent env k s).1.info.agentView = s.info.agentView := by
  unfold cfilDispatchClosedEvent
  dsimp only
  split_ifs <;> simp [agentView_afterEnqueue]

end Dispatches

section Servicing

variable (env : Env) (d : Bool)

theorem agentView_passLoop (k : Kcunit) : ∀ fuel s, (passLoop d k fuel s).info.agentView = s.info.agentView :=
  fun fuel s => passLoop_of_steps d k (fun t => t.info.agentView = s.info.agentView) (fun _ _ same => by simpa using same)
    (fun _ _ same => by simpa using same) (fun _ _ _ same => by simpa using same) fuel s rfl

theorem agentView_peekLoop (k : Kcunit) :
    ∀ chains currentoffset s, (peekLoop env d k chains currentoffset s).info.agentView = s.info.agentView :=
  fun chains cur s => peekLoop_of_steps env d k (fun t => t.info.agentView = s.info.agentView)
    (fun _ _ same => by simpa using same) (fun _ _ same => by simpa using same)
    (fun _ _ _ _ same => by simpa using same) chains cur s rfl

/-- The entries after one keep the agents' view, whether serviced or handed a chain. -/
structure Downstream.Keeps (ds : Downstream) : Prop where
  walk : ∀ s, (ds.walk s).1.info.agentView = s.info.agentView
  forward : ∀ m s, (ds.forward m s).1.info.agentView = s.info.agentView

variable {d}

theorem agentView_pendingLoop {ds : Downstream} (keeps : ds.Keeps) (k : Kcunit) (passlen : Nat) :
    ∀ fuel curlen error s, (pendingLoop d k ds passlen fuel curlen error s).1.info.agentView = s.info.agentView
  | 0, _, _, _ => rfl
  | fuel + 1, curlen, error, s => by
    unfold pendingLoop
    dsimp only
    split
    · rfl
    · split_ifs <;> simp [agentView_pendingLoop keeps k passlen fuel, keeps.forward]

theorem agentView_servicePendingQueueWith {ds : Downstream} (keeps : ds.Keeps) (k : Kcunit) (s : FlowSt) :
    (cfilServicePendingQueueWith d k ds s).1.info.agentView = s.info.agentView := by
  unfold cfilServicePendingQueueWith
  dsimp only
  split <;> simp [keeps.walk, agentView_pendingLoop keeps]

theorem agentView_serviceCtlQBody {ds : Downstream} (keeps : ds.Keeps) (k : Kcunit) (s : FlowSt) :
    (serviceCtlQBody env d k ds s).1.info.agentView = s.info.agentView := by
  unfold serviceCtlQBody
  dsimp only
  split_ifs <;> simp [agentView_passLoop, agentView_peekLoop, agentView_servicePendingQueueWith keeps]

theorem agentView_serviceCtlQWith {ds : Downstream} (keeps : ds.Keeps) (k : Kcunit) (s : FlowSt) :
    (cfilDataServiceCtlQWith env d k ds s).1.info.agentView = s.info.agentView := by
  unfold cfilDataServiceCtlQWith
  dsimp only
  split_ifs <;> simp [agentView_serviceCtlQBody env keeps]

theorem agentView_dataFilterWith {ds : Downstream} (keeps : ds.Keeps) (k : Kcunit) (data : Chain) (s : FlowSt) :
    (cfilDataFilterWith env d k ds data s).1.info.agentView = s.info.agentView := by
  unfold cfilDataFilterWith
  split <;> simp [agentView_serviceCtlQWith env keeps]

variable (d)

theorem downstream_keeps : ∀ order : List Kcunit, (downstream env d order).Keeps
  | [] => ⟨fun _ => rfl, fun _ _ => rfl⟩
  | j :: rest => by
    have keeps := downstream_keeps rest
    refine ⟨fun s => ?_, fun data s => ?_⟩ <;> simp only [downstream] <;> split
    · rw [keeps.walk, agentView_serviceCtlQWith env keeps]
    · exact agentView_serviceCtlQWith env keeps j s
    · rw [keeps.forward, agentView_dataFilterWith env keeps]
    · exact agentView_dataFilterWith env keeps j data s

@[simp] theorem agentView_serviceCtlQ (k : Kcunit) (s : FlowSt) :
    (cfilDataServiceCtlQ env d k s).1.info.agentView = s.info.agentView :=
  agentView_serviceCtlQWith env (downstream_keeps env d _) k s

@[simp] theorem agentView_servicePendingQueue (k : Kcunit) (s : FlowSt) :
    (cfilServicePendingQueue env d k s).1.info.agentView = s.info.agentView :=
  agentView_servicePendingQueueWith (downstream_keeps env d _) k s

@[simp] theorem agentView_dataFilter (k : Kcunit) (data : Chain) (s : FlowSt) :
    (cfilDataFilter env d k data s).1.info.agentView = s.info.agentView :=
  agentView_dataFilterWith env (downstream_keeps env d _) k data s

end Servicing

section Flow

variable (env : Env) (d : Bool)

@[simp] theorem agentView_pendingAdmit (data : Chain) (s : FlowSt) :
    (pendingAdmit env d data s).info.agentView = s.info.agentView := by
  simp [pendingAdmit]

@[simp] theorem agentView_pendingRelease (data : Chain) (s : FlowSt) :
    (pendingRelease env d data s).info.agentView = s.info.agentView := by
  simp [pendingRelease]

theorem agentView_injectLoop : ∀ fuel error s, (injectLoop env d fuel error s).1.info.agentView = s.info.agentView
  | 0, _, _ => rfl
  | fuel + 1, error, s => by
    unfold injectLoop
    split
    · rfl
    · split
      · dsimp only
        split_ifs <;> simp [injectDequeue, agentView_injectLoop fuel]
      · simp [injectDequeue, agentView_injectLoop fuel]

theorem agentView_notifyShutdownFlow (shutRd shutWr : Bool) (s : FlowSt) :
    (notifyShutdownFlow env shutRd shutWr s).info.agentView = s.info.agentView := by
  unfold notifyShutdownFlow
  refine List.foldlRecOn (motive := fun t : FlowSt => t.info.agentView = s.info.agentView) _ _ _ rfl
    fun t same k _ => ?_
  dsimp only
  split_ifs <;> simp [same]

theorem agentView_notifyShutdown (shutRd shutWr : Bool) (s : FlowSt) :
    (cfilSockNotifyShutdown env shutRd shutWr s).info.agentView = s.info.agentView := by
  unfold cfilSockNotifyShutdown
  split
  · dsimp only
    generalize before : s.onFlows _ s.flowsBefore = r
    obtain ⟨s₁, _⟩ := r
    have own : s₁.info = s.info := by simpa [before] using onFlows_info (notifyShutdownFlow env shutRd shutWr) s s.flowsBefore
    generalize after : FlowSt.onFlows _ _ s.flowsAfter = r
    obtain ⟨s₂, _⟩ := r
    have own₂ := onFlows_info (notifyShutdownFlow env shutRd shutWr) (notifyShutdownFlow env shutRd shutWr s₁) s.flowsAfter
    rw [after] at own₂
    show s₂.info.agentView = _
    rw [own₂, agentView_notifyShutdownFlow, own]
  · exact agentView_notifyShutdownFlow env shutRd shutWr s

@[simp] theorem agentView_serviceInjectQueue (s : FlowSt) :
    (cfilServiceInjectQueue env d s).1.info.agentView = s.info.agentView :=
  serviceInjectQueue_of_steps env d (fun t => t.info.agentView = s.info.agentView) rfl
    (fun _ _ same => by simpa [setRetryInject] using same)
    (fun fuel error t same => (agentView_injectLoop env d fuel error t).trans same)
    (fun _ => serviceInjectTail_of_steps env _ (fun _ _ same => by simpa using same) (fun _ _ _ _ _ same => same)
      (fun _ _ _ same => same) (fun t same => (agentView_notifyShutdown env false true t).trans same)
      (fun _ same => same) fun t same => by simpa using same)
    (fun _ same => by simpa using same)

@[simp] theorem agentView_setSocketPassOffset (s : FlowSt) :
    (cfilSetSocketPassOffset d s).info.agentView = s.info.agentView := by
  unfold cfilSetSocketPassOffset
  dsimp only
  split <;> simp

@[simp] theorem agentView_flushQueues (s : FlowSt) : (cfilFlushQueues s).info.agentView = s.info.agentView := by
  funext k
  show ((cfilFlushQueues s).entry k).agentView = (s.entry k).agentView
  simp only [CfilEntry.agentView, AgentView.mk.injEq]
  refine ⟨funext fun d => ?_, funext fun d => ?_, ?_⟩
  · cases d <;> simp [cfilFlushQueues, drainDirection, CfilEntry.setBuf, CfilEntry.buf]
  · cases d <;> simp [cfilFlushQueues, drainDirection, CfilEntry.setBuf, CfilEntry.buf]
  · simp [cfilFlushQueues, drainDirection, CfilEntry.setBuf]

/-- The flow state a slow path ends in, whether the concatenation failed or not. -/
def slowPathState : Except FlowSt (FlowSt × Errno) → FlowSt
  | .ok r => r.1
  | .error s => s

theorem agentView_dataCommonSlowPath (data : Chain) : ∀ order chained error s,
    (slowPathState (dataCommonSlowPath env d data order chained error s)).info.agentView = s.info.agentView
  | [], _, _, _ => rfl
  | k :: rest, chained, error, s => by
    have filtered : ∀ chained' s₀, s₀.info.agentView = s.info.agentView →
        (slowPathState (let (s₁, error) := cfilDataFilter env d k data s₀
          if error ≠ .ok then .ok (s₁, error) else dataCommonSlowPath env d data rest chained' error s₁)).info.agentView =
          s.info.agentView := by
      intro chained' s₀ same
      have view := agentView_dataFilter env d k data s₀
      generalize cfilDataFilter env d k data s₀ = r at view ⊢
      obtain ⟨s₁, error₁⟩ := r
      dsimp only at view ⊢
      split
      · simp [slowPathState, view, same]
      · rw [agentView_dataCommonSlowPath data rest, view, same]
    unfold dataCommonSlowPath
    split
    · split
      · dsimp only
        split
        · rfl
        · exact filtered true _ rfl
      · exact filtered chained s rfl
    · split
      · rfl
      · exact agentView_dataCommonSlowPath data rest chained error s

theorem agentView_of_slowPath {data : Chain} {order : List Kcunit} {chained : Bool} {error : Errno} {s : FlowSt}
    {x : Except FlowSt (FlowSt × Errno)} (landed : dataCommonSlowPath env d data order chained error s = x) :
    (slowPathState x).info.agentView = s.info.agentView :=
  landed ▸ agentView_dataCommonSlowPath env d data order chained error s

end Flow

/-- Every entry's offsets at least as high as before, and its report frequency as it
was. -/
structure Grows (s s' : FlowSt) : Prop where
  passOffset : ∀ k d, (s.ebuf k d).cfePassOffset ≤ (s'.ebuf k d).cfePassOffset
  peekOffset : ∀ k d, (s.ebuf k d).cfePeekOffset ≤ (s'.ebuf k d).cfePeekOffset
  statsReportFrequency : ∀ k, (s'.entry k).cfeStatsReportFrequency = (s.entry k).cfeStatsReportFrequency

namespace Grows

variable {s s' s₁ s₂ s₃ : FlowSt}

theorem refl : Grows s s := ⟨fun _ _ => le_rfl, fun _ _ => le_rfl, fun _ => rfl⟩

theorem trans (first : Grows s₁ s₂) (second : Grows s₂ s₃) : Grows s₁ s₃ :=
  ⟨fun k d => (first.passOffset k d).trans (second.passOffset k d),
    fun k d => (first.peekOffset k d).trans (second.peekOffset k d),
    fun k => (second.statsReportFrequency k).trans (first.statsReportFrequency k)⟩

theorem of_agentView (same : s'.info.agentView = s.info.agentView) : Grows s s' :=
  have entry : ∀ k, (s'.entry k).agentView = (s.entry k).agentView := congrFun same
  ⟨fun k d => (congrArg (fun v => v.passOffset d) (entry k)).ge,
    fun k d => (congrArg (fun v => v.peekOffset d) (entry k)).ge,
    fun k => congrArg AgentView.statsReportFrequency (entry k)⟩

theorem setEbuf {k : Kcunit} {d : Bool} {b : CfeBuf} (pass : (s.ebuf k d).cfePassOffset ≤ b.cfePassOffset)
    (peek : (s.ebuf k d).cfePeekOffset ≤ b.cfePeekOffset) : Grows s (s.setEbuf k d b) where
  passOffset j d' := by
    rw [ebuf_setEbuf_apply]
    split
    · next same => obtain ⟨rfl, rfl⟩ := same; exact pass
    · exact le_rfl
  peekOffset j d' := by
    rw [ebuf_setEbuf_apply]
    split
    · next same => obtain ⟨rfl, rfl⟩ := same; exact peek
    · exact le_rfl
  statsReportFrequency j := by
    simp only [FlowSt.setEbuf, entry_setEntry_apply]
    split
    · subst j; cases d <;> rfl
    · rfl

end Grows

theorem raiseOffsets_bounds (b : CfeBuf) (passOffset peekOffset : Nat) :
    b.cfePassOffset ≤ (b.raiseOffsets passOffset peekOffset).1.cfePassOffset ∧
      passOffset ≤ (b.raiseOffsets passOffset peekOffset).1.cfePassOffset ∧
      b.cfePeekOffset ≤ (b.raiseOffsets passOffset peekOffset).1.cfePeekOffset ∧
      (peekOffset ≤ (b.raiseOffsets passOffset peekOffset).1.cfePassOffset ∨
        peekOffset ≤ (b.raiseOffsets passOffset peekOffset).1.cfePeekOffset) := by
  unfold CfeBuf.raiseOffsets
  split_ifs <;> dsimp only <;> split_ifs <;> simp_all <;> omega

theorem raiseOffsets_of_covered (b : CfeBuf) {passOffset peekOffset : Nat} (pass : passOffset ≤ b.cfePassOffset)
    (peek : peekOffset ≤ b.cfePassOffset ∨ peekOffset ≤ b.cfePeekOffset) :
    b.raiseOffsets passOffset peekOffset = (b, false) := by
  simp only [CfeBuf.raiseOffsets, gt_iff_lt, Nat.not_lt.mpr pass, if_false]
  rw [if_neg (by simp only [Bool.and_eq_true, decide_eq_true_eq]; omega)]

section Verdicts

variable (env : Env) (d : Bool)

theorem updateDataOffsets_agentView (k : Kcunit) (passOffset peekOffset : Nat) (s : FlowSt)
    (live : s.info.cfiFlags.drop = false) :
    (cfilUpdateDataOffsets env d k passOffset peekOffset s).1.info.agentView =
      (s.setEbuf k d ((s.ebuf k d).raiseOffsets passOffset peekOffset).1).info.agentView := by
  unfold cfilUpdateDataOffsets
  rw [if_neg (by simp [live])]
  generalize (s.ebuf k d).raiseOffsets passOffset peekOffset = r
  obtain ⟨b, updated⟩ := r
  dsimp only
  have serviced := agentView_serviceCtlQ env d k (s.setEbuf k d b)
  generalize cfilDataServiceCtlQ env d k (s.setEbuf k d b) = r at serviced ⊢
  obtain ⟨s₁, error⟩ := r
  dsimp only at serviced ⊢
  split_ifs <;> simp [serviced]

theorem updateDataOffsets_grows (k : Kcunit) (passOffset peekOffset : Nat) (s : FlowSt) :
    Grows s (cfilUpdateDataOffsets env d k passOffset peekOffset s).1 := by
  cases live : s.info.cfiFlags.drop
  · have bounds := raiseOffsets_bounds (s.ebuf k d) passOffset peekOffset
    exact (Grows.setEbuf bounds.1 bounds.2.2.1).trans (.of_agentView (updateDataOffsets_agentView env d k _ _ s live))
  · exact .of_agentView (by simp [cfilUpdateDataOffsets, live])

theorem updateEntryOffsets_grows (datalen : Nat) (s : FlowSt) : Grows s (cfilUpdateEntryOffsets d datalen s) where
  passOffset k d' := by
    simp only [cfilUpdateEntryOffsets, FlowSt.ebuf, verifyInfo_entry, FlowSt.entry_mapEntries]
    split
    · exact le_rfl
    · cases d <;> cases d' <;> simp [CfilEntry.setBuf, CfilEntry.buf, CfeBuf.skipData] <;> split_ifs <;> omega
  peekOffset k d' := by
    simp only [cfilUpdateEntryOffsets, FlowSt.ebuf, verifyInfo_entry, FlowSt.entry_mapEntries]
    split
    · exact le_rfl
    · cases d <;> cases d' <;> simp [CfilEntry.setBuf, CfilEntry.buf, CfeBuf.skipData] <;> split_ifs <;> omega
  statsReportFrequency k := by
    simp only [cfilUpdateEntryOffsets, verifyInfo_entry, FlowSt.entry_mapEntries]
    split
    · rfl
    · cases d <;> rfl

theorem dataCommon_grows (data : Chain) (s : FlowSt) : Grows s (cfilDataCommon env d data s).1 := by
  unfold cfilDataCommon
  split
  · exact .of_agentView (by simp)
  dsimp only
  split
  · exact .of_agentView (by simp)
  split
  · exact .of_agentView (by simp)
  split
  · next s₁ failed =>
    split at failed
    · cases failed
    · exact .of_agentView ((agentView_of_slowPath env d failed).trans (by simp))
  · next s₁ error landed =>
    refine .trans ?_ (.of_agentView (show _ = s₁.info.agentView by split <;> simp))
    split at landed
    · cases landed
      exact (Grows.of_agentView (by simp)).trans (updateEntryOffsets_grows d _ _)
    · exact .of_agentView ((agentView_of_slowPath env d landed).trans (by simp))

theorem actionDataPass_grows (k : Kcunit) (passOffset peekOffset : Nat) (s : FlowSt) :
    Grows s (cfilActionDataPass env d k passOffset peekOffset s).1 := by
  unfold cfilActionDataPass
  split
  · exact .of_agentView (by simp)
  have updated := updateDataOffsets_grows env d k passOffset peekOffset s
  generalize cfilUpdateDataOffsets env d k passOffset peekOffset s = r at updated ⊢
  obtain ⟨s₁, error⟩ := r
  exact updated.trans (.of_agentView (by simp))

theorem updateDataOffsets_without_raise_outbox (k : Kcunit) (s : FlowSt) {passOffset peekOffset : Nat}
    (pass : passOffset ≤ (s.ebuf k d).cfePassOffset) (peek : peekOffset ≤ (s.ebuf k d).cfePeekOffset) :
    (cfilUpdateDataOffsets env d k passOffset peekOffset s).1.outbox = s.outbox := by
  unfold cfilUpdateDataOffsets
  split
  · simp
  rw [raiseOffsets_of_le _ pass peek]
  dsimp only
  simp only [setEbuf_ebuf_self, Bool.not_false, ite_true]
  split_ifs <;> simp

theorem updateDataOffsets_detached (k : Kcunit) (passOffset peekOffset : Nat) (s : FlowSt)
    (live : s.info.cfiFlags.drop = false) :
    ((((cfilUpdateDataOffsets env d k passOffset peekOffset s).1.entry k).cfeSnd.cfePassOffset = env.cfmMaxOffset &&
        ((cfilUpdateDataOffsets env d k passOffset peekOffset s).1.entry k).cfeRcv.cfePassOffset = env.cfmMaxOffset) ||
      ((cfilUpdateDataOffsets env d k passOffset peekOffset s).1.info.cfiFlags.closeWait &&
        ((cfilUpdateDataOffsets env d k passOffset peekOffset s).1.entry k).cfeSnd.cfeCtlQ.qMq.isEmpty &&
        ((cfilUpdateDataOffsets env d k passOffset peekOffset s).1.entry k).cfeRcv.cfeCtlQ.qMq.isEmpty)) = true →
      ((cfilUpdateDataOffsets env d k passOffset peekOffset s).1.entry k).cfeFlags.cfilDetached = true := by
  unfold cfilUpdateDataOffsets
  rw [if_neg (by simp [live])]
  generalize (s.ebuf k d).raiseOffsets passOffset peekOffset = r
  obtain ⟨b, updated⟩ := r
  dsimp only
  generalize (if !updated then (s.setEbuf k d b, Errno.ok) else _) = r
  obtain ⟨s₁, error⟩ := r
  dsimp only
  split_ifs with done <;> simp_all [FlowSt.setEflags]

theorem setEflags_self (s : FlowSt) (k : Kcunit) : s.setEflags k (s.entry k).cfeFlags = s := by
  simp only [FlowSt.setEflags, FlowSt.setEntry, FlowSt.entry, Function.update_eq_self]

theorem updateDataOffsets_twice (k : Kcunit) (passOffset peekOffset : Nat) (s : FlowSt) (j : Kcunit) :
    ((cfilUpdateDataOffsets env d k passOffset peekOffset (cfilUpdateDataOffsets env d k passOffset peekOffset s).1).1.entry j) =
      (cfilUpdateDataOffsets env d k passOffset peekOffset s).1.entry j := by
  set s₁ := (cfilUpdateDataOffsets env d k passOffset peekOffset s).1 with first
  cases dropped : s₁.info.cfiFlags.drop
  swap
  · simp [cfilUpdateDataOffsets, dropped]
  have live : s.info.cfiFlags.drop = false := by
    cases latched : s.info.cfiFlags.drop
    · rfl
    · simp [first, cfilUpdateDataOffsets, latched] at dropped
  have view := congrFun (updateDataOffsets_agentView env d k passOffset peekOffset s live) k
  have bounds := raiseOffsets_bounds (s.ebuf k d) passOffset peekOffset
  have pass : (s₁.ebuf k d).cfePassOffset = ((s.setEbuf k d ((s.ebuf k d).raiseOffsets passOffset peekOffset).1).ebuf
      k d).cfePassOffset := congrArg (fun v => v.passOffset d) view
  have peek : (s₁.ebuf k d).cfePeekOffset = ((s.setEbuf k d ((s.ebuf k d).raiseOffsets passOffset peekOffset).1).ebuf
      k d).cfePeekOffset := congrArg (fun v => v.peekOffset d) view
  rw [ebuf_setEbuf] at pass peek
  have covered : (s₁.ebuf k d).raiseOffsets passOffset peekOffset = (s₁.ebuf k d, false) :=
    raiseOffsets_of_covered _ (pass ▸ bounds.2.1) (pass ▸ peek ▸ bounds.2.2.2)
  have detached := updateDataOffsets_detached env d k passOffset peekOffset s live
  rw [← first] at detached
  unfold cfilUpdateDataOffsets
  simp only [dropped, covered, setEbuf_ebuf_self, Bool.not_false, ite_true, Bool.false_eq_true, if_false]
  split_ifs with done
  · have flag := detached done
    simp only [verifyInfo_entry, wakeCloseWait_entry, FlowSt.setEflags, entry_setEntry_apply]
    split
    · next same =>
      subst same
      rcases entry : s₁.entry j with ⟨filter, ⟨_, _, _, _, _, _, _, _⟩, necp, frequency, snd, rcv⟩
      simp_all
    · rfl
  · rw [verifyInfo_entry]

end Verdicts

theorem DataPathOp.apply_grows (env : Env) (op : DataPathOp) (s : FlowSt) : Grows s (op.apply env s) := by
  cases op with
  | dataCommon d data => exact dataCommon_grows env d data s
  | updateDataOffsets d k passOffset peekOffset => exact updateDataOffsets_grows env d k passOffset peekOffset s
  | updateEntryOffsets d datalen => exact updateEntryOffsets_grows d datalen s
  | _ => exact .of_agentView (by simp [DataPathOp.apply])

/-- Verdicts are monotone and idempotent along every run of the data path. -/
theorem verdicts_monotone_and_idempotent (env : Env) :
    (∀ s, DataPathReachable env s → ∀ op : DataPathOp, op.callable s = true →
      Grows s (op.apply env s) ∧
        ∀ k d, ((op.apply env s).ebuf k d).cfePassOffset ≤ ((op.apply env s).ebuf k d).cfePeekOffset) ∧
    (∀ d k passOffset peekOffset (s : FlowSt), passOffset ≤ (s.ebuf k d).cfePassOffset →
      peekOffset ≤ (s.ebuf k d).cfePeekOffset →
      (∀ j d', (cfilUpdateDataOffsets env d k passOffset peekOffset s).1.ebuf j d' = s.ebuf j d') ∧
        (cfilUpdateDataOffsets env d k passOffset peekOffset s).1.outbox = s.outbox) ∧
    ∀ d k passOffset peekOffset (s : FlowSt) j,
      (cfilUpdateDataOffsets env d k passOffset peekOffset (cfilUpdateDataOffsets env d k passOffset peekOffset s).1).1.entry j =
        (cfilUpdateDataOffsets env d k passOffset peekOffset s).1.entry j :=
  ⟨fun s reach op callable =>
    ⟨op.apply_grows env s, fun k d => ((reach.step op callable).inv env).1.struct.entries k d |>.passPeek⟩,
    fun d k _ _ s pass peek =>
      ⟨(updateDataOffsets_without_raise env d k s pass peek).ebuf, updateDataOffsets_without_raise_outbox env d k s pass peek⟩,
    fun d k passOffset peekOffset s j => updateDataOffsets_twice env d k passOffset peekOffset s j⟩

/-- On the one-filter flow holding one outgoing byte, a verdict passing it raises the
entry's offsets and keeps the peek offset above the pass offset. -/
theorem oneByteFlow_verdict_grows :
    DataPathReachable demoKernel oneByteFlow ∧
      (DataPathOp.updateDataOffsets true 0 1 1).callable oneByteFlow = true ∧
      Grows oneByteFlow ((DataPathOp.updateDataOffsets true 0 1 1).apply demoKernel oneByteFlow) :=
  have reach : DataPathReachable demoKernel oneByteFlow :=
    .step _ rfl (@DataPathReachable.attach demoKernel oneFilter 1 7 {} (fun _ => false) _ rfl rfl)
  ⟨reach, rfl, ((verdicts_monotone_and_idempotent demoKernel).1 oneByteFlow reach (.updateDataOffsets true 0 1 1) rfl).1⟩

end ContentFilter
