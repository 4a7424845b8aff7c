import ContentFilter.Chaining
import ContentFilter.Datagram

/-! What a flow call does to the other flows of a datagram socket it is lent: each moves
only by the events `cfil_sock_notify_shutdown` sends it. -/

namespace ContentFilter

namespace SiblingsMoved

variable {s t t' : FlowSt}

theorem keep (moved : SiblingsMoved s t) (before : t'.flowsBefore = t.flowsBefore) (after : t'.flowsAfter = t.flowsAfter) :
    SiblingsMoved s t' :=
  moved.trans (.of_eq before after)

theorem verify (moved : SiblingsMoved s t) (c : Bool) : SiblingsMoved s (t.verify c) := moved.keep (by simp) (by simp)

theorem verifyInfo (moved : SiblingsMoved s t) : SiblingsMoved s t.verifyInfo := moved.keep (by simp) (by simp)

theorem setQueue (moved : SiblingsMoved s t) (loc : QLoc) (q : CfilQueue) : SiblingsMoved s (t.setQueue loc q) := by
  cases loc <;> exact moved.keep rfl rfl

theorem enqueueQ (moved : SiblingsMoved s t) (loc : QLoc) (m : Chain) : SiblingsMoved s (t.enqueueQ loc m) :=
  ((moved.verify _).setQueue loc _).verify _

theorem removeQ (moved : SiblingsMoved s t) (loc : QLoc) (m : Chain) : SiblingsMoved s (t.removeQ loc m) :=
  ((moved.verify _).setQueue loc _).verify _

end SiblingsMoved

section Calls

variable (env : Env) (d : Bool)

theorem injectLoop_siblings : ∀ fuel error (s : FlowSt), SiblingsMoved s (injectLoop env d fuel error s).1
  | 0, _, s => .refl s
  | fuel + 1, error, s => by
    have dequeued : ∀ data, SiblingsMoved s (injectDequeue env d data s) := fun data => by
      unfold injectDequeue pendingRelease
      split
      refine SiblingsMoved.verify (SiblingsMoved.keep ((SiblingsMoved.refl s).removeQ (.inject d) data) ?_ ?_) _ <;> rfl
    unfold injectLoop
    split
    · exact .refl s
    · split
      · dsimp only
        split_ifs
        · exact (dequeued _).keep rfl rfl
        all_goals refine SiblingsMoved.trans ?_ (injectLoop_siblings fuel _ _)
        exact (dequeued _).keep rfl rfl
      · refine SiblingsMoved.trans ?_ (injectLoop_siblings fuel _ _)
        exact (dequeued _).keep rfl rfl

theorem serviceInjectQueue_siblings (s : FlowSt) : SiblingsMoved s (cfilServiceInjectQueue env d s).1 :=
  serviceInjectQueue_of_steps env d (SiblingsMoved s) (.refl s) (fun _ _ moved => moved.keep rfl rfl)
    (fun fuel error t moved => moved.trans (injectLoop_siblings env d fuel error t))
    (fun _ moved => serviceInjectTail_of_frame env _ (fun _ c moved => moved.verify c)
      (fun _ _ _ _ _ moved => moved.keep rfl rfl) (fun _ _ _ moved => moved.keep rfl rfl) (fun _ moved => moved.keep rfl rfl)
      (fun _ _ events moved => moved.trans events.siblings) moved)
    fun _ moved => moved.verifyInfo

theorem serviceCtlQ_siblings (k : Kcunit) (s : FlowSt) : SiblingsMoved s (cfilDataServiceCtlQ env d k s).1 :=
  (serviceCtlQWith_confined env d (downstream_confines env d _) k s).siblings

theorem setSocketPassOffset_siblings (s : FlowSt) : SiblingsMoved s (cfilSetSocketPassOffset d s) := by
  unfold cfilSetSocketPassOffset
  dsimp only
  split <;> exact .of_eq rfl rfl

theorem actionDataPass_siblings (k : Kcunit) (passOffset peekOffset : Nat) (s : FlowSt) :
    SiblingsMoved s (cfilActionDataPass env d k passOffset peekOffset s).1 :=
  actionDataPass_of_steps env d k passOffset peekOffset (SiblingsMoved s) (.refl s)
    (updateDataOffsets_of_steps env d k passOffset peekOffset (SiblingsMoved s) (.refl s) (.of_eq rfl rfl)
      (fun t moved => moved.trans (serviceCtlQ_siblings env d k t)) (fun _ _ moved => moved.keep rfl rfl)
      (fun t moved => moved.trans (wakeCloseWait_events t).siblings) fun _ moved => moved.verifyInfo)
    (fun t moved => moved.trans (serviceInjectQueue_siblings env d t))
    (fun t moved => moved.trans (setSocketPassOffset_siblings d t)) fun _ moved => moved.verifyInfo

theorem flushQueues_siblings (s : FlowSt) : SiblingsMoved s (cfilFlushQueues s) := SiblingsMoved.verifyInfo (.of_eq rfl rfl)

theorem actionDrop_siblings (k : Kcunit) (s : FlowSt) : SiblingsMoved s (cfilActionDrop k s).1 := by
  unfold cfilActionDrop
  split
  · exact .refl s
  · dsimp only
    split <;> refine ((SiblingsMoved.of_eq ?_ ?_).trans (flushQueues_siblings _)).trans (wakeCloseWait_events _).siblings <;>
      rfl

theorem ctlDisconnectEntry_siblings (k : Kcunit) (s : FlowSt) : SiblingsMoved s (cfilCtlDisconnectEntry env k s).1 :=
  ctlDisconnectEntry_of_steps env k (SiblingsMoved s) (.refl s)
    (fun d t moved => moved.trans (actionDataPass_siblings env d k _ _ t)) fun _ moved =>
    moved.keep (by simp [ctlDisconnectDetach, unlinkEntry, FlowSt.setEntry, FlowSt.setEflags])
      (by simp [ctlDisconnectDetach, unlinkEntry, FlowSt.setEntry, FlowSt.setEflags])

theorem sockIsClosed_siblings (s : FlowSt) : SiblingsMoved s (cfilSockIsClosed env s) :=
  sockIsClosed_of_steps env (SiblingsMoved s) (fun _ events => events.siblings)
    (fun t moved => moved.trans (serviceInjectQueue_siblings env true t)) (fun _ _ moved => moved.keep rfl rfl)
    fun t moved => moved.trans (flushQueues_siblings t)

theorem sockBufUpdate_siblings (s : FlowSt) : SiblingsMoved s (cfilSockBufUpdate env d s) :=
  sockBufUpdate_of_steps env d (SiblingsMoved s) (.refl s) (serviceInjectQueue_siblings env d s)

theorem dataCommon_siblings (data : Chain) (s : FlowSt) : SiblingsMoved s (cfilDataCommon env d data s).1 :=
  dataCommon_of_steps env d data (SiblingsMoved s) (SiblingsMoved s) (.refl s)
    (fun _ => .of_eq (by simp [pendingAdmit, FlowSt.setIbuf]) (by simp [pendingAdmit, FlowSt.setIbuf])) (fun _ => id)
    (fun _ c moved => moved.verify c) (fun _ c moved => moved.verify c) (fun _ _ _ _ _ moved => moved.keep rfl rfl)
    (fun _ moved => SiblingsMoved.verifyInfo (moved.keep rfl rfl)) (fun _ moved => moved.keep rfl rfl)
    fun _ k t _ moved => moved.trans (dataFilterWith_confined env d (downstream_confines env d _) k data t).siblings

theorem ctlActionDgram_siblings (k : Kcunit) (action : CfilAction) (s : FlowSt) :
    SiblingsMoved s (cfilCtlActionDgram env k action s).1 := by
  have passIf : ∀ d passOffset peekOffset t (c : Bool),
      SiblingsMoved t (if c then cfilActionDataPass env d k passOffset peekOffset t else (t, .ok)).1 :=
    fun d passOffset peekOffset t c => by
      split
      · exact actionDataPass_siblings env d k passOffset peekOffset t
      · exact .refl t
  unfold cfilCtlActionDgram
  cases action with
  | drop => exact actionDrop_siblings k s
  | dataUpdate outPass outPeek inPass inPeek =>
    have out := passIf true outPass outPeek s (outPeek ≠ 0 || outPass ≠ 0)
    dsimp only
    generalize (if outPeek ≠ 0 || outPass ≠ 0 then _ else _) = r at out ⊢
    obtain ⟨s₁, error⟩ := r
    dsimp only at out ⊢
    split_ifs <;> first | exact out | exact out.trans (actionDataPass_siblings env false k inPass inPeek s₁)

theorem ctlSendDgram_siblings (k : Kcunit) (action : CfilAction) (now : Timeval) (s : FlowSt) (u : UdpInfo) :
    SiblingsMoved s (cfilCtlSendDgram env k action now s u).1.1 := by
  unfold cfilCtlSendDgram
  split_ifs
  · exact .refl s
  · exact .refl s
  · exact .refl s
  · refine SiblingsMoved.trans ?_ (ctlActionDgram_siblings env k action _)
    exact .of_eq rfl rfl

theorem ctlDisconnect_siblings (k : Kcunit) (s : FlowSt) :
    SiblingsMoved s (cfilCtlDisconnectEntry env k (letDataFlow k s)).1 := by
  refine SiblingsMoved.trans ?_ (ctlDisconnectEntry_siblings env k _)
  exact .of_eq rfl rfl

end Calls

end ContentFilter
