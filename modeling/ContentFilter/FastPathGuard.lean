import ContentFilter.Trailing
import ContentFilter.Retry

/-! The fast path's bound `cfi_pass_offset` stays behind every attached agent. -/

namespace ContentFilter

section LeastPass

variable (skip : Kcunit → Bool) (v : Kcunit → Nat)

/-- A round of the loop of `cfil_set_socket_pass_offset`, with `skip` telling the detached
entries and `v` their pass offsets: the least offset met so far, and whether none was met
yet (`first`). -/
def minRound (acc : Nat × Bool) (k : Kcunit) : Nat × Bool :=
  if skip k then acc else if acc.2 || v k < acc.1 then (v k, false) else acc

theorem minRound_met {k : Kcunit} (acc : Nat × Bool) (met : skip k = false) :
    (minRound skip v acc k).2 = false ∧ (minRound skip v acc k).1 ≤ v k ∧
      (acc.2 = false → (minRound skip v acc k).1 ≤ acc.1) := by
  unfold minRound
  rw [if_neg (by simp [met])]
  split
  · next taken =>
    refine ⟨rfl, le_rfl, fun seen => ?_⟩
    simp only [seen, Bool.false_or, decide_eq_true_eq] at taken
    exact taken.le
  · next keep =>
    simp only [Bool.or_eq_true, decide_eq_true_eq, not_or, Bool.not_eq_true] at keep
    exact ⟨keep.1, Nat.le_of_not_lt keep.2, fun _ => le_rfl⟩

theorem minRound_cases (acc : Nat × Bool) (k : Kcunit) :
    minRound skip v acc k = acc ∨ (skip k = false ∧ minRound skip v acc k = (v k, false)) := by
  unfold minRound
  split
  · exact .inl rfl
  · split
    · exact .inr ⟨by simpa using ‹¬skip k = true›, rfl⟩
    · exact .inl rfl

theorem foldl_minRound_met : ∀ (l : List Kcunit) (acc : Nat × Bool),
    (∃ k ∈ l, skip k = false) ∨ acc.2 = false → (l.foldl (minRound skip v) acc).2 = false
  | [], _, met => by simpa using met
  | k :: l, acc, met => by
    apply foldl_minRound_met l
    by_cases skipped : skip k = true
    · simpa [minRound, skipped] using met
    · exact .inr (minRound_met skip v acc (by simpa using skipped)).1

theorem foldl_minRound_le : ∀ (l : List Kcunit) (acc : Nat × Bool),
    (∀ k ∈ l, skip k = false → (l.foldl (minRound skip v) acc).1 ≤ v k) ∧
      (acc.2 = false → (l.foldl (minRound skip v) acc).1 ≤ acc.1)
  | [], _ => ⟨by simp, fun _ => le_rfl⟩
  | k :: l, acc => by
    obtain ⟨low, keep⟩ := foldl_minRound_le l (minRound skip v acc k)
    rw [List.foldl_cons]
    by_cases skipped : skip k = true
    · have same : minRound skip v acc k = acc := by simp [minRound, skipped]
      rw [same] at low keep ⊢
      exact ⟨fun j mem unskipped => (List.mem_cons.mp mem).elim (fun here => by simp_all) (low j · unskipped), keep⟩
    · obtain ⟨met, atMost, below⟩ := minRound_met skip v acc (by simpa using skipped)
      refine ⟨fun j mem unskipped => (List.mem_cons.mp mem).elim (fun here => ?_) (low j · unskipped), fun seen => ?_⟩
      · subst here; exact (keep met).trans atMost
      · exact (keep met).trans (below seen)

theorem foldl_minRound_attained : ∀ (l : List Kcunit) (acc : Nat × Bool),
    l.foldl (minRound skip v) acc = acc ∨ ∃ k ∈ l, skip k = false ∧ (l.foldl (minRound skip v) acc).1 = v k
  | [], _ => .inl rfl
  | k :: l, acc => by
    rcases foldl_minRound_attained l (minRound skip v acc k) with same | ⟨j, mem, unskipped, least⟩
    · rcases minRound_cases skip v acc k with kept | ⟨unskipped, taken⟩
      · exact .inl (same.trans kept)
      · exact .inr ⟨k, List.mem_cons_self k l, unskipped, by rw [List.foldl_cons, same, taken]⟩
    · exact .inr ⟨j, List.mem_cons_of_mem k mem, unskipped, least⟩

end LeastPass

/-- What `cfil_set_socket_pass_offset` is for: in direction `d`, the least pass offset of
the attached entries, or 0 when none is attached. -/
def LeastPassOffset (s : FlowSt) (d : Bool) (passOffset : Nat) : Prop :=
  (∀ k, (s.entry k).cfeFilter.isSome → passOffset ≤ (s.ebuf k d).cfePassOffset) ∧
    ((∃ k, (s.entry k).cfeFilter.isSome ∧ passOffset = (s.ebuf k d).cfePassOffset) ∨
      ((∀ k, (s.entry k).cfeFilter = none) ∧ passOffset = 0))

theorem passOffsetLoop_least (s : FlowSt) (d : Bool) :
    LeastPassOffset s d ((List.finRange maxContentFilter).foldl
      (minRound (fun k => (s.entry k).cfeFilter.isNone) (fun k => (s.ebuf k d).cfePassOffset)) (0, true)).1 := by
  have unskipped : ∀ k, (s.entry k).cfeFilter.isNone = false ↔ (s.entry k).cfeFilter.isSome := fun k => by
    cases (s.entry k).cfeFilter <;> simp
  refine ⟨fun k live => (foldl_minRound_le _ _ _ _).1 k (List.mem_finRange k) ((unskipped k).mpr live), ?_⟩
  rcases foldl_minRound_attained (fun k => (s.entry k).cfeFilter.isNone) (fun k => (s.ebuf k d).cfePassOffset)
    (List.finRange maxContentFilter) (0, true) with same | ⟨k, _, live, least⟩
  · refine .inr ⟨fun k => ?_, by rw [same]⟩
    by_contra live
    have met := foldl_minRound_met (fun k => (s.entry k).cfeFilter.isNone) (fun k => (s.ebuf k d).cfePassOffset)
      (List.finRange maxContentFilter) (0, true)
      (.inl ⟨k, List.mem_finRange k, (unskipped k).mpr (Option.ne_none_iff_isSome.mp live)⟩)
    rw [same] at met
    cases met
  · exact .inl ⟨k, (unskipped k).mp live, least⟩

theorem setSocketPassOffset_eq (s : FlowSt) (d : Bool) :
    cfilSetSocketPassOffset d s =
      if (s.ibuf d).cfiPendingLast - (s.ibuf d).cfiPendingFirst = 0 then
        s.setIbuf d { s.ibuf d with cfiPassOffset := ((List.finRange maxContentFilter).foldl
          (minRound (fun k => (s.entry k).cfeFilter.isNone) (fun k => (s.ebuf k d).cfePassOffset)) (0, true)).1 }
      else s := rfl

theorem setSocketPassOffset_least (s : FlowSt) (d : Bool)
    (idle : (s.ibuf d).cfiPendingFirst = (s.ibuf d).cfiPendingLast) :
    LeastPassOffset s d ((cfilSetSocketPassOffset d s).ibuf d).cfiPassOffset := by
  rw [setSocketPassOffset_eq, if_pos (by omega), ibuf_setIbuf_apply, if_pos rfl]
  exact passOffsetLoop_least s d

/-- `cfi_pass_offset` is behind every agent: in each direction at most the pass offset of
every attached entry. -/
def GuardBehind (s : FlowSt) : Prop :=
  ∀ d k, (s.entry k).cfeFilter.isSome → (s.ibuf d).cfiPassOffset ≤ (s.ebuf k d).cfePassOffset

/-- The invariant of the fast path on every run: a chain without repeats, the bound
behind every agent, and every entry trailing the pending window. -/
structure Guarded (s : FlowSt) : Prop where
  nodup : s.info.cfiOrderedEntries.Nodup
  behind : GuardBehind s
  trailing : ∀ d, Trailing s d 0 0

section Frames

variable {s s' : FlowSt}

theorem GuardBehind.mono (behind : GuardBehind s)
    (attached : ∀ k, (s'.entry k).cfeFilter.isSome → (s.entry k).cfeFilter.isSome)
    (grows : ∀ k d, (s.ebuf k d).cfePassOffset ≤ (s'.ebuf k d).cfePassOffset)
    (guard : ∀ d, (s'.ibuf d).cfiPassOffset = (s.ibuf d).cfiPassOffset) : GuardBehind s' := fun d k live => by
  rw [guard d]
  exact (behind d k (attached k live)).trans (grows k d)

theorem GuardBehind.of_kept (behind : GuardBehind s) (kept : EntriesKept s s')
    (guard : ∀ d, (s'.ibuf d).cfiPassOffset = (s.ibuf d).cfiPassOffset) : GuardBehind s' :=
  behind.mono (fun k => by rw [kept.cfeFilter]; exact id) (fun k d => by rw [kept.ebuf]) guard

theorem GuardBehind.of_confined {rest : List Kcunit} {d : Bool} (behind : GuardBehind s)
    (confined : Confined rest d s s') (grows : Grows s s') : GuardBehind s' :=
  behind.mono (fun k => by rw [confined.cfeFilter]; exact id) grows.passOffset confined.passOffset

theorem GuardBehind.setIbuf {d : Bool} (behind : GuardBehind s) (b : CfiBuf)
    (pass : b.cfiPassOffset = (s.ibuf d).cfiPassOffset) : GuardBehind (s.setIbuf d b) :=
  behind.mono (fun k => by simp) (fun k d => by simp) fun d' => by rw [ibuf_setIbuf_apply]; split <;> simp_all

theorem Trailing.setIbuf {d d' : Bool} {p L : Nat} (trailing : Trailing s d' p L) (b : CfiBuf)
    (last : b.cfiPendingLast = (s.ibuf d).cfiPendingLast) : Trailing (s.setIbuf d b) d' p L :=
  trailing.of_frame (by simp) (fun j => by simp) (fun j => by simp) (by rw [ibuf_setIbuf_apply]; split <;> simp_all)

theorem Trailing.both {d : Bool} (here : Trailing s d 0 0) (others : ∀ d', d' ≠ d → Trailing s d' 0 0) :
    ∀ d', Trailing s d' 0 0 := fun d' => by
  by_cases same : d' = d
  · exact same ▸ here
  · exact others d' same

namespace Guarded

theorem mono (guarded : Guarded s) (ordered : s'.info.cfiOrderedEntries = s.info.cfiOrderedEntries)
    (attached : ∀ k, (s'.entry k).cfeFilter.isSome → (s.entry k).cfeFilter.isSome)
    (grows : ∀ k d, (s.ebuf k d).cfePassOffset ≤ (s'.ebuf k d).cfePassOffset)
    (qEnd : ∀ k d, (s'.ebuf k d).cfeCtlQ.qEnd ≤ (s.ebuf k d).cfeCtlQ.qEnd)
    (held : ∀ k d, (s'.ebuf k d).held ≤ (s.ebuf k d).held)
    (guard : ∀ d, (s'.ibuf d).cfiPassOffset = (s.ibuf d).cfiPassOffset)
    (last : ∀ d, (s.ibuf d).cfiPendingLast ≤ (s'.ibuf d).cfiPendingLast) : Guarded s' where
  nodup := by rw [ordered]; exact guarded.nodup
  behind := guarded.behind.mono attached grows guard
  trailing d := (guarded.trailing d).mono ordered attached (fun j => qEnd j d) (fun i => held i d) fun _ => by
    simpa using last d

theorem of_kept (guarded : Guarded s) (kept : EntriesKept s s')
    (ordered : s'.info.cfiOrderedEntries = s.info.cfiOrderedEntries)
    (ibuf : ∀ d, (s'.ibuf d).cfiPassOffset = (s.ibuf d).cfiPassOffset ∧
      (s'.ibuf d).cfiPendingLast = (s.ibuf d).cfiPendingLast) : Guarded s' :=
  guarded.mono ordered (fun k => by rw [kept.cfeFilter]; exact id) (fun k d => by rw [kept.ebuf])
    (fun k d => by rw [kept.ebuf]) (fun k d => by rw [kept.ebuf]) (fun d => (ibuf d).1) fun d => (ibuf d).2.ge

theorem of_eventsOnly (guarded : Guarded s) (events : EventsOnly s s') : Guarded s' :=
  guarded.of_kept (.of_events events) events.ordered fun d => by rw [events.ibuf]; exact ⟨rfl, rfl⟩

theorem verify (guarded : Guarded s) (c : Bool) : Guarded (s.verify c) :=
  guarded.of_kept (.of_entries fun _ => verify_entry _ _ _) (by simp) fun _ => by simp

theorem verifyInfo (guarded : Guarded s) : Guarded s.verifyInfo :=
  guarded.of_kept (.of_entries fun _ => verifyInfo_entry _ _) (by simp) fun _ => by simp

theorem setIflags (guarded : Guarded s) (f : CfiFlags) : Guarded (s.setIflags f) :=
  guarded.of_kept (.of_entries fun _ => rfl) rfl fun _ => by simp

theorem sock (guarded : Guarded s) (so : SockSt) : Guarded { s with sock := so } :=
  guarded.of_kept (.of_entries fun _ => rfl) rfl fun _ => ⟨rfl, rfl⟩

theorem setEflags (guarded : Guarded s) (k : Kcunit) (f : CfeFlags) : Guarded (s.setEflags k f) :=
  guarded.of_eventsOnly (EventsOnly.setEflags s k f)

theorem setEbuf (guarded : Guarded s) (k : Kcunit) (d : Bool) (b : CfeBuf)
    (pass : (s.ebuf k d).cfePassOffset ≤ b.cfePassOffset) (ctl : b.cfeCtlQ = (s.ebuf k d).cfeCtlQ)
    (pending : b.cfePendingQ = (s.ebuf k d).cfePendingQ) : Guarded (s.setEbuf k d b) := by
  have other : ∀ j d', ¬(j = k ∧ d' = d) → (s.setEbuf k d b).ebuf j d' = s.ebuf j d' := fun j d' other => by
    rw [ebuf_setEbuf_apply, if_neg other]
  refine guarded.mono rfl (fun j => by simp) (fun j d' => ?_) (fun j d' => ?_) (fun j d' => ?_) (fun _ => rfl)
    (fun _ => le_rfl)
  all_goals
    by_cases here : j = k ∧ d' = d
    · obtain ⟨rfl, rfl⟩ := here
      simp [CfeBuf.held, ctl, pending, pass]
    · simp [other j d' here]

theorem of_confined {rest : List Kcunit} {d : Bool} (guarded : Guarded s) (confined : Confined rest d s s')
    (grows : Grows s s') (trailing : Trailing s' d 0 0) : Guarded s' where
  nodup := by rw [confined.ordered]; exact guarded.nodup
  behind := guarded.behind.of_confined confined grows
  trailing := trailing.both fun d' other => (guarded.trailing d').of_confined confined other

theorem flush (guarded : Guarded s) : Guarded (cfilFlushQueues s) :=
  guarded.mono (flushQueues_ordered s) (fun k => by simp [cfilFlushQueues, drainDirection])
    (fun k d => by rw [flushQueues_ebuf]) (fun k d => by rw [flushQueues_ebuf]; simp [cfilQueueInit])
    (fun k d => by rw [flushQueues_ebuf]; simp [CfeBuf.held, CfilQueue.size, cfilQueueInit])
    (fun d => by rw [flushQueues_ibuf]) fun d => by rw [flushQueues_ibuf]

theorem detach (guarded : Guarded s) (k : Kcunit) : Guarded (ctlDisconnectDetach k s) :=
  guarded.mono (by simp [ctlDisconnectDetach, unlinkEntry])
    (fun j => by
      simp only [ctlDisconnectDetach, unlinkEntry, entry_setEntry_apply]
      split
      · simp
      · simp)
    (fun _ _ => by simp [ctlDisconnectDetach]) (fun _ _ => by simp [ctlDisconnectDetach])
    (fun _ _ => by simp [ctlDisconnectDetach]) (fun _ => by simp [ctlDisconnectDetach, unlinkEntry])
    fun _ => by simp [ctlDisconnectDetach, unlinkEntry]

end Guarded

end Frames

section Calls

variable (env : Env) (d : Bool) {s : FlowSt}

namespace Guarded

theorem dataServiceCtlQ (guarded : Guarded s) (k : Kcunit) : Guarded (cfilDataServiceCtlQ env d k s).1 :=
  guarded.of_confined (serviceCtlQWith_confined env d (downstream_confines env d _) k s)
    (.of_agentView (agentView_serviceCtlQ env d k s)) (dataServiceCtlQ_trails env d guarded.nodup k s rfl (guarded.trailing d))

theorem updateDataOffsets (guarded : Guarded s) (k : Kcunit) (passOffset peekOffset : Nat) :
    Guarded (cfilUpdateDataOffsets env d k passOffset peekOffset s).1 :=
  updateDataOffsets_of_steps env d k passOffset peekOffset Guarded guarded
    (guarded.setEbuf k d _ (raiseOffsets_bounds _ _ _).1 (by simp) (by simp))
    (fun _ held => held.dataServiceCtlQ env d k) (fun _ f held => held.setEflags k f)
    (fun t held => held.of_eventsOnly (wakeCloseWait_events t)) fun _ held => held.verifyInfo

theorem setSocketPassOffset (guarded : Guarded s) : Guarded (cfilSetSocketPassOffset d s) := by
  rw [setSocketPassOffset_eq]
  split
  · refine ⟨by simpa using guarded.nodup, fun d' k live => ?_, fun d' => (guarded.trailing d').setIbuf _ rfl⟩
    rw [setIbuf_entry] at live
    rw [ibuf_setIbuf_apply, setIbuf_ebuf]
    split
    · next same => exact same ▸ (passOffsetLoop_least s d).1 k live
    · exact guarded.behind d' k live
  · exact guarded

theorem serviceInjectQueue (guarded : Guarded s) : Guarded (cfilServiceInjectQueue env d s).1 :=
  guarded.of_kept (serviceInjectQueue_entriesKept env d s) (serviceInjectQueue_ordered env d s) fun d' =>
    ⟨serviceInjectQueue_passOffset env d s d',
      serviceInjectQueue_ibuf_keeps env d CfiBuf.cfiPendingLast (fun _ _ _ _ _ => rfl) s d'⟩

theorem actionDataPass (guarded : Guarded s) (k : Kcunit) (passOffset peekOffset : Nat) :
    Guarded (cfilActionDataPass env d k passOffset peekOffset s).1 :=
  actionDataPass_of_steps env d k passOffset peekOffset Guarded guarded (guarded.updateDataOffsets env d k _ _)
    (fun _ held => held.serviceInjectQueue env d) (fun _ held => held.setSocketPassOffset d) fun _ held => held.verifyInfo

theorem actionDrop (guarded : Guarded s) (k : Kcunit) : Guarded (cfilActionDrop k s).1 := by
  unfold cfilActionDrop
  split
  · exact guarded
  · have flagged := guarded.setIflags { s.info.cfiFlags with drop := true }
    refine (Guarded.flush (Guarded.setEflags ?_ k _)).of_eventsOnly (wakeCloseWait_events _)
    split
    · exact flagged
    · exact flagged.of_kept (.of_entries fun _ => rfl) rfl fun _ => ⟨rfl, rfl⟩

end Guarded

theorem dataCommon_behind (data : Chain) (behind : GuardBehind s) : GuardBehind (cfilDataCommon env d data s).1 :=
  have verify : ∀ (t : FlowSt) c, GuardBehind t → GuardBehind (t.verify c) := fun t c held =>
    held.of_kept (.of_entries fun _ => verify_entry _ _ _) fun _ => by simp
  dataCommon_of_steps env d data GuardBehind GuardBehind behind
    (fun _ => behind.of_kept (.of_entries fun _ => by simp [pendingAdmit]) fun d' => by
      by_cases same : d' = d <;> simp [pendingAdmit, ibuf_setIbuf_apply, same])
    (fun _ held => held) verify verify (fun _ b _ _ pass held => held.setIbuf b pass)
    (fun t held => held.mono (fun k => by simp) (updateEntryOffsets_grows d _ t).passOffset fun _ => by simp)
    (fun t held => held.of_kept (.of_entries fun _ => rfl) fun _ => rfl)
    fun _ k t _ held => held.of_confined (dataFilterWith_confined env d (downstream_confines env d _) k data t)
      (.of_agentView (agentView_dataFilter env d k data t))

theorem dataCommon_trailing (data : Chain) (nodup : s.info.cfiOrderedEntries.Nodup)
    (trailing : ∀ d', Trailing s d' 0 0) : ∀ d', Trailing (cfilDataCommon env d data s).1 d' 0 0 :=
  dataCommon_of_steps env d data
    (fun t => t.info.cfiOrderedEntries = s.info.cfiOrderedEntries ∧ Trailing t d 0 (dataLen data) ∧
      ∀ d', d' ≠ d → Trailing t d' 0 0)
    (fun t => ∀ d', Trailing t d' 0 0) trailing
    (fun _ => ⟨by simp [pendingAdmit], (trailing d).enter env data, fun d' other => (trailing d').enter_other other env data⟩)
    (fun _ ⟨_, here, others⟩ => here.forget.both others)
    (fun _ c held d' => (held d').verify c)
    (fun _ c ⟨same, here, others⟩ => ⟨by simpa using same, here.verify c, fun d' other => (others d' other).verify c⟩)
    (fun _ b _ last _ held d' => (held d').setIbuf b last)
    (fun _ ⟨_, here, others⟩ => here.skipData.both fun d' other => (others d' other).skipData_other other _)
    (fun _ ⟨same, here, others⟩ => ⟨same, here.of_frame rfl (fun _ => id) (fun _ => ⟨rfl, rfl⟩) rfl,
      fun d' other => (others d' other).of_frame rfl (fun _ => id) (fun _ => ⟨rfl, rfl⟩) rfl⟩)
    fun _ k t _ ⟨same, here, others⟩ => (dataFilter_trails env d nodup k data t same here (Nat.zero_le _)).both
      fun d' other => (others d' other).of_confined (dataFilterWith_confined env d (downstream_confines env d _) k data t) other

theorem Guarded.dataCommon (guarded : Guarded s) (data : Chain) : Guarded (cfilDataCommon env d data s).1 where
  nodup := by rw [dataCommon_ordered]; exact guarded.nodup
  behind := dataCommon_behind env d data guarded.behind
  trailing := dataCommon_trailing env d data guarded.nodup guarded.trailing

end Calls

section Runs

variable (env : Env)

theorem FlowRun.step_guarded (r : FlowRun) (guarded : Guarded r.st) (op : FlowOp) : Guarded (r.step env op).st := by
  cases op <;> simp only [FlowRun.step]
  case data d m =>
    have common := guarded.dataCommon env d m
    generalize cfilDataCommon env d m r.st = x at common ⊢
    split
    · exact common.of_kept (.of_entries fun _ => rfl) rfl fun _ => ⟨rfl, rfl⟩
    · exact common
  case action k a =>
    exact ctlSend_of_steps env k a Guarded guarded (fun _ f held => held.setEflags k f) (fun _ f held => held.setIflags f)
      (fun d _ _ _ held => held.actionDataPass env d k _ _) fun _ held => held.actionDrop k
  case bless k =>
    unfold cfilActionBlessClient cfilSockReceivedVerdict
    exact ((guarded.setIflags _).actionDataPass env true k _ _).actionDataPass env false k _ _
  case ctlDisconnect k =>
    exact ctlDisconnectEntry_of_steps env k Guarded (guarded.setEflags _ _)
      (fun d _ held => held.actionDataPass env d k _ _) fun _ held => held.detach k
  case bufUpdate d => exact sockBufUpdate_of_steps env d Guarded guarded (guarded.serviceInjectQueue env d)
  case shutdown shutRd shutWr =>
    exact sockShutdown_of_steps env shutRd shutWr Guarded guarded (fun _ f held => held.setIflags f)
      (fun rd wr t held => held.of_eventsOnly (notifyShutdownFlow_events env rd wr t)) fun _ held => held.verify _
  case close =>
    exact sockIsClosed_of_steps env Guarded (fun _ events => guarded.of_eventsOnly events)
      (fun _ held => held.serviceInjectQueue env true) (fun _ f held => held.setIflags f) fun _ held => held.flush
  case flowControl k raised => exact guarded.of_kept (.of_entries fun _ => rfl) rfl fun _ => ⟨rfl, rfl⟩
  case isDead =>
    exact sockIsDead_of_frame Guarded (fun _ c held => held.verify c) (fun _ so _ _ _ held => held.sock so)
      (fun _ f _ held => held.setIflags f) guarded
  case tcpAddTimeWait =>
    exact sockTcpAddTimeWait_of_frame Guarded (fun _ c held => held.verify c) (fun _ so _ _ _ held => held.sock so)
      (fun _ f _ held => held.setIflags f) guarded

@[simp] theorem attachEntry_ibuf (k : Kcunit) (cfc necp : Nat) (s : FlowSt) (d : Bool) :
    (attachEntry k cfc necp s).ibuf d = s.ibuf d := by
  cases d <;> rfl

theorem sockAttach_guarded {slots : FilterSlots} {filterControlUnit sockId : Nat} {so : SockSt}
    {flowControlled : Kcunit → Bool} {s : FlowSt}
    (created : cfilSockAttach env slots filterControlUnit sockId so flowControlled = some s) : Guarded s := by
  have empty := sockAttach_of_steps env (fun t => (∀ k d, t.ebuf k d = {}) ∧ ∀ d, t.ibuf d = {})
    ⟨fun k d => by cases d <;> rfl, fun d => by cases d <;> rfl⟩
    (fun t k cfc necp ⟨ebuf, ibuf⟩ => ⟨fun j d => by rw [attachEntry_ebuf, ebuf], fun d => by rw [attachEntry_ibuf, ibuf]⟩)
    (fun t t' events ⟨ebuf, ibuf⟩ => ⟨fun j d => by rw [events.ebuf, ebuf], fun d => by rw [events.ibuf, ibuf]⟩) created
  refine ⟨(sockAttach_ordered env created).1, fun d k _ => by simp [empty.2 d], fun d j _ => ?_⟩
  simp [heldBefore, empty.1, empty.2, CfeBuf.held, CfilQueue.size, cfilQueueInit]

theorem FlowReachable.guarded {r : FlowRun} (reach : FlowReachable env r) : Guarded r.st := by
  induction reach with
  | attach created => exact sockAttach_guarded env created
  | step op _ guarded => exact FlowRun.step_guarded env _ guarded op

end Runs

/-- On every run of a flow the fast-path bound is behind every attached agent, and no agent
has seen past the pending window. -/
theorem fast_path_guard_never_ahead (env : Env) {r : FlowRun} (reach : FlowReachable env r) :
    (∀ d k, (r.st.entry k).cfeFilter.isSome →
      (r.st.ibuf d).cfiPassOffset ≤ (r.st.ebuf k d).cfePassOffset ∧
        (r.st.ebuf k d).cfeCtlQ.qEnd ≤ (r.st.ibuf d).cfiPendingLast) ∧
    ∀ (s : FlowSt) d, (s.ibuf d).cfiPendingFirst = (s.ibuf d).cfiPendingLast →
      LeastPassOffset s d ((cfilSetSocketPassOffset d s).ibuf d).cfiPassOffset := by
  have guarded := reach.guarded
  refine ⟨fun d k live => ⟨guarded.behind d k live, ?_⟩, setSocketPassOffset_least⟩
  have trailing := guarded.trailing d k live
  simp only [zero_le, if_true, add_zero] at trailing
  omega

theorem passAllRun_guard_never_ahead :
    FlowReachable demoKernel passAllRun ∧
    (∀ d k, (passAllRun.st.entry k).cfeFilter.isSome →
      (passAllRun.st.ibuf d).cfiPassOffset ≤ (passAllRun.st.ebuf k d).cfePassOffset ∧
        (passAllRun.st.ebuf k d).cfeCtlQ.qEnd ≤ (passAllRun.st.ibuf d).cfiPendingLast) ∧
    ∀ (s : FlowSt) d, (s.ibuf d).cfiPendingFirst = (s.ibuf d).cfiPendingLast →
      LeastPassOffset s d ((cfilSetSocketPassOffset d s).ibuf d).cfiPassOffset :=
  have reach : FlowReachable demoKernel passAllRun :=
    FlowReachable.run demoKernel (@FlowReachable.attach demoKernel oneFilter 1 7 {} (fun _ => false) _ rfl) _
  ⟨reach, fast_path_guard_never_ahead demoKernel reach⟩

end ContentFilter
