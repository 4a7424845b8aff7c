import ContentFilter.Accounting
import ContentFilter.Verdicts
import ContentFilter.Attach

/-! The chaining recursion of the servicing functions runs on ever shorter suffixes of
`cfi_ordered_entries`, so its depth is bounded and its loops never run out of fuel. -/

namespace ContentFilter

/-- A step that writes, of the entry buffers, only those of the units `L` in direction `d`:
`cfi_ordered_entries`, every attachment, every other entry buffer, the fast-path bounds
and the ends of the pending windows are as they were. -/
structure Confined (L : List Kcunit) (d : Bool) (s s' : FlowSt) : Prop where
  ordered : s'.info.cfiOrderedEntries = s.info.cfiOrderedEntries
  cfeFilter : ∀ j, (s'.entry j).cfeFilter = (s.entry j).cfeFilter
  ebuf : ∀ j d', (j ∈ L → d' ≠ d) → s'.ebuf j d' = s.ebuf j d'
  passOffset : ∀ d', (s'.ibuf d').cfiPassOffset = (s.ibuf d').cfiPassOffset
  pendingLast : ∀ d', (s'.ibuf d').cfiPendingLast = (s.ibuf d').cfiPendingLast
  siblings : SiblingsMoved s s'

namespace Confined

variable {L L' : List Kcunit} {d : Bool} {s s₁ s₂ s₃ : FlowSt}

theorem refl : Confined L d s s := ⟨rfl, fun _ => rfl, fun _ _ _ => rfl, fun _ => rfl, fun _ => rfl, .refl s⟩

theorem trans (first : Confined L d s₁ s₂) (second : Confined L d s₂ s₃) : Confined L d s₁ s₃ :=
  ⟨second.ordered.trans first.ordered, fun j => (second.cfeFilter j).trans (first.cfeFilter j),
    fun j d' out => (second.ebuf j d' out).trans (first.ebuf j d' out),
    fun d' => (second.passOffset d').trans (first.passOffset d'),
    fun d' => (second.pendingLast d').trans (first.pendingLast d'), first.siblings.trans second.siblings⟩

theorem mono (confined : Confined L d s s') (sub : L ⊆ L') : Confined L' d s s' :=
  ⟨confined.ordered, confined.cfeFilter, fun j d' out => confined.ebuf j d' fun mem => out (sub mem),
    confined.passOffset, confined.pendingLast, confined.siblings⟩

theorem of_eventsOnly (events : EventsOnly s s') : Confined L d s s' :=
  ⟨events.ordered, events.cfeFilter, fun j d' _ => events.ebuf j d', fun d' => by rw [events.ibuf],
    fun d' => by rw [events.ibuf], events.siblings⟩

theorem verify (c : Bool) : Confined L d s (s.verify c) :=
  ⟨by simp, fun _ => by simp, fun _ _ _ => by simp, fun _ => by simp, fun _ => by simp, .of_eq (by simp) (by simp)⟩

theorem verifyInfo : Confined L d s s.verifyInfo :=
  ⟨by simp, fun _ => by simp, fun _ _ _ => by simp, fun _ => by simp, fun _ => by simp, .of_eq (by simp) (by simp)⟩

theorem setEbuf {k : Kcunit} (mem : k ∈ L) (b : CfeBuf) : Confined L d s (s.setEbuf k d b) where
  ordered := rfl
  cfeFilter _ := by simp
  ebuf j d' out := by
    rw [ebuf_setEbuf_apply, if_neg]
    rintro ⟨rfl, rfl⟩
    exact out mem rfl
  passOffset _ := rfl
  pendingLast _ := rfl
  siblings := .of_eq rfl rfl

theorem setPeeked {k : Kcunit} (mem : k ∈ L) (p : Nat) : Confined L d s (s.setPeeked k d p) := setEbuf mem _

theorem setQueue_inject (d' : Bool) (q : CfilQueue) : Confined L d s (s.setQueue (.inject d') q) where
  ordered := by simp
  cfeFilter _ := cfeFilter_setQueue _ _ _ _
  ebuf _ _ _ := by simp
  passOffset d'' := by
    rw [ibuf_setQueue_inject]
    split
    · subst d''; rfl
    · rfl
  pendingLast d'' := by
    rw [ibuf_setQueue_inject]
    split
    · subst d''; rfl
    · rfl
  siblings := .of_eq rfl rfl

theorem enqueueQ_inject (d' : Bool) (m : Chain) : Confined L d s (s.enqueueQ (.inject d') m) :=
  (verify _).trans ((setQueue_inject _ _).trans (verify _))

theorem enqueueQ_ctl {k : Kcunit} (mem : k ∈ L) (m : Chain) : Confined L d s (s.enqueueQ (.ctl k d) m) :=
  (verify _).trans ((setEbuf mem _).trans (verify _))

theorem enqueueQ_pending {k : Kcunit} (mem : k ∈ L) (m : Chain) : Confined L d s (s.enqueueQ (.pending k d) m) :=
  (verify _).trans ((setEbuf mem _).trans (verify _))

theorem removeQ_ctl {k : Kcunit} (mem : k ∈ L) (m : Chain) : Confined L d s (s.removeQ (.ctl k d) m) :=
  (verify _).trans ((setEbuf mem _).trans (verify _))

theorem removeQ_pending {k : Kcunit} (mem : k ∈ L) (m : Chain) : Confined L d s (s.removeQ (.pending k d) m) :=
  (verify _).trans ((setEbuf mem _).trans (verify _))

end Confined

/-- The entries after one write only their own buffers, whether serviced or handed a
chain. -/
structure Downstream.Confines (ds : Downstream) (L : List Kcunit) (d : Bool) : Prop where
  walk : ∀ s, Confined L d s (ds.walk s).1
  forward : ∀ m s, Confined L d s (ds.forward m s).1

section Servicing

variable (env : Env) (d : Bool) {L : List Kcunit}

theorem passLoop_confined (k : Kcunit) (fuel : Nat) (s : FlowSt) : Confined [k] d s (passLoop d k fuel s) :=
  have own := List.mem_singleton_self k
  passLoop_of_steps d k (Confined [k] d s) (fun _ _ c => c.trans (.verify _)) (fun _ _ c => c.trans (.setPeeked own _))
    (fun _ _ _ c => c.trans ((Confined.removeQ_ctl own _).trans (.enqueueQ_pending own _))) fuel s .refl

theorem peekLoop_confined (k : Kcunit) (chains : List Chain) (currentoffset : Nat) (s : FlowSt) :
    Confined [k] d s (peekLoop env d k chains currentoffset s) :=
  peekLoop_of_steps env d k (Confined [k] d s) (fun _ _ c => c.trans (.verify _))
    (fun _ _ c => c.trans (.setPeeked (List.mem_singleton_self k) _))
    (fun t _ _ _ c => c.trans (.of_eventsOnly (EventsOnly.dataEvent env k d _ _ _ t))) chains currentoffset s .refl

theorem pendingLoop_confined {ds : Downstream} (confines : ds.Confines L d) (k : Kcunit) (passlen fuel curlen : Nat)
    (error : Errno) (s : FlowSt) : Confined (k :: L) d s (pendingLoop d k ds passlen fuel curlen error s).1 :=
  have own := List.mem_cons_self k L
  pendingLoop_of_steps d k ds passlen (Confined (k :: L) d s) (fun _ => Confined (k :: L) d s)
    (fun _ _ _ c => c.trans (.removeQ_pending own _))
    (fun t m c => c.trans ((confines.forward m t).mono (List.subset_cons_self k L)))
    (fun _ _ c => c.trans (.enqueueQ_inject _ _)) fuel curlen error s .refl

theorem servicePendingQueueWith_confined {ds : Downstream} (confines : ds.Confines L d) (k : Kcunit) (s : FlowSt) :
    Confined (k :: L) d s (cfilServicePendingQueueWith d k ds s).1 := by
  unfold cfilServicePendingQueueWith
  dsimp only
  split
  · exact ((confines.walk s).mono (List.subset_cons_self k L)).trans .verifyInfo
  · exact (pendingLoop_confined d confines k _ _ _ _ s).trans .verifyInfo

theorem serviceCtlQBody_confined {ds : Downstream} (confines : ds.Confines L d) (k : Kcunit) (s : FlowSt) :
    Confined (k :: L) d s (serviceCtlQBody env d k ds s).1 := by
  have own : [k] ⊆ k :: L := List.cons_subset.mpr ⟨List.mem_cons_self k L, List.nil_subset _⟩
  unfold serviceCtlQBody
  dsimp only
  have passed := ((passLoop_confined d k (s.ebuf k d).cfeCtlQ.qMq.length s).mono own).trans
    (Confined.verifyInfo (L := k :: L) (d := d))
  generalize (passLoop d k (s.ebuf k d).cfeCtlQ.qMq.length s).verifyInfo = s₁ at passed ⊢
  have peeked := passed.trans (((peekLoop_confined env d k (s₁.ebuf k d).cfeCtlQ.qMq
    (s₁.ebuf k d).cfeCtlQ.qStart s₁).mono own).trans .verifyInfo)
  generalize (peekLoop env d k (s₁.ebuf k d).cfeCtlQ.qMq (s₁.ebuf k d).cfeCtlQ.qStart s₁).verifyInfo = s₂ at peeked ⊢
  have pending := peeked.trans (servicePendingQueueWith_confined d confines k s₂)
  generalize cfilServicePendingQueueWith d k ds s₂ = r at pending ⊢
  have tail := Confined.of_eventsOnly (L := k :: L) (d := d) (disconnectTail_events (d := d) env k r.1)
  split
  · exact pending.trans .verifyInfo
  · exact (pending.trans tail).trans .verifyInfo

theorem serviceCtlQWith_confined {ds : Downstream} (confines : ds.Confines L d) (k : Kcunit) (s : FlowSt) :
    Confined (k :: L) d s (cfilDataServiceCtlQWith env d k ds s).1 := by
  have attached := Confined.of_eventsOnly (L := k :: L) (d := d) (EventsOnly.attachEvent env (some k) s)
  unfold cfilDataServiceCtlQWith
  dsimp only
  by_cases sent : (s.entry k).cfeFlags.sentSockAttached = true
  · rw [if_neg (by simp [sent])]
    split
    · exact .verifyInfo
    · exact serviceCtlQBody_confined env d confines k s
  · rw [if_pos (by simp [sent])]
    split
    · exact attached.trans .verifyInfo
    · exact attached.trans (serviceCtlQBody_confined env d confines k _)

theorem dataFilterWith_confined {ds : Downstream} (confines : ds.Confines L d) (k : Kcunit) (data : Chain) (s : FlowSt) :
    Confined (k :: L) d s (cfilDataFilterWith env d k ds data s).1 := by
  unfold cfilDataFilterWith
  split
  · exact .verifyInfo
  · exact ((Confined.enqueueQ_ctl (List.mem_cons_self k L) data).trans
      (serviceCtlQWith_confined env d confines k _)).trans .verifyInfo

theorem downstream_confines : ∀ order : List Kcunit, (downstream env d order).Confines order d
  | [] => ⟨fun _ => .refl, fun _ _ => .refl⟩
  | j :: rest => by
    have inner := downstream_confines rest
    have later : rest ⊆ j :: rest := List.subset_cons_self j rest
    refine ⟨fun s => ?_, fun data s => ?_⟩
    · have serviced := serviceCtlQWith_confined env d inner j s
      simp only [downstream]
      split
      · exact serviced.trans ((inner.walk _).mono later)
      · exact serviced
    · have filtered := dataFilterWith_confined env d inner j data s
      simp only [downstream]
      split
      · exact filtered.trans ((inner.forward data _).mono later)
      · exact filtered

end Servicing

section Fuel

variable (d : Bool) (k : Kcunit)

@[simp] theorem ctlQ_moved (t : FlowSt) (m : Chain) :
    (((t.removeQ (.ctl k d) m).enqueueQ (.pending k d) m).ebuf k d).cfeCtlQ.qMq = (t.ebuf k d).cfeCtlQ.qMq.tail := by
  simp [FlowSt.enqueueQ, FlowSt.removeQ, ebuf_setQueue_ctl, ebuf_setQueue_pending, FlowSt.queue, cfilQueueRemove]

@[simp] theorem pendingQ_removed (t : FlowSt) (m : Chain) :
    ((t.removeQ (.pending k d) m).ebuf k d).cfePendingQ.qMq = (t.ebuf k d).cfePendingQ.qMq.tail := by
  simp [FlowSt.removeQ, ebuf_setQueue_pending, FlowSt.queue, cfilQueueRemove]

theorem passLoop_succ_fuel : ∀ fuel (s : FlowSt), (s.ebuf k d).cfeCtlQ.qMq.length ≤ fuel →
    passLoop d k (fuel + 1) s = passLoop d k fuel s
  | 0, s, short => by
    simp only [passLoop, List.length_eq_zero.mp (Nat.le_zero.mp short)]
  | fuel + 1, s, short => by
    unfold passLoop
    dsimp only
    split
    · rfl
    · next data rest queued =>
      generalize (if (s.ebuf k d).cfeCtlQ.qStart + dataLen data ≤ (s.ebuf k d).cfePassOffset then dataLen data
        else (s.ebuf k d).cfePassOffset - (s.ebuf k d).cfeCtlQ.qStart) = copylen
      have moved : ∀ t : FlowSt, (t.ebuf k d).cfeCtlQ.qMq = data :: rest →
          (((t.removeQ (.ctl k d) data).enqueueQ (.pending k d) data).ebuf k d).cfeCtlQ.qMq.length ≤ fuel :=
        fun t same => by
          rw [ctlQ_moved, same]
          simpa [queued] using short
      split_ifs <;> first
        | rfl
        | exact passLoop_succ_fuel fuel _ (moved _ (by simpa [FlowSt.setPeeked] using queued))

theorem passLoop_fuel (s : FlowSt) {fuel : Nat} (enough : (s.ebuf k d).cfeCtlQ.qMq.length ≤ fuel) :
    passLoop d k fuel s = passLoop d k (s.ebuf k d).cfeCtlQ.qMq.length s := by
  induction fuel, enough using Nat.le_induction with
  | base => rfl
  | succ fuel enough ih => rw [passLoop_succ_fuel d k fuel s enough, ih]

@[simp] theorem ebuf_enqueueQ_inject (t : FlowSt) (d' : Bool) (m : Chain) :
    (t.enqueueQ (.inject d') m).ebuf k d = t.ebuf k d := by
  simp [FlowSt.enqueueQ]

variable {ds : Downstream} {L : List Kcunit} (confines : ds.Confines L d) (outside : k ∉ L) (passlen : Nat)
include confines outside

theorem pendingLoop_succ_fuel : ∀ fuel curlen error (s : FlowSt), (s.ebuf k d).cfePendingQ.qMq.length ≤ fuel →
    pendingLoop d k ds passlen (fuel + 1) curlen error s = pendingLoop d k ds passlen fuel curlen error s
  | 0, _, _, s, short => by simp only [pendingLoop, List.length_eq_zero.mp (Nat.le_zero.mp short)]
  | fuel + 1, curlen, error, s, short => by
    have spared : ∀ m t, (ds.forward m t).1.ebuf k d = t.ebuf k d :=
      fun m t => (confines.forward m t).ebuf k d fun mem => absurd mem outside
    unfold pendingLoop
    split
    · rfl
    · next data rest queued =>
      dsimp only
      split
      · rfl
      · refine pendingLoop_succ_fuel fuel _ _ _ ?_
        split <;> simp [spared, queued] at short ⊢ <;> omega

theorem pendingLoop_fuel (curlen : Nat) (error : Errno) (s : FlowSt) {fuel : Nat}
    (enough : (s.ebuf k d).cfePendingQ.qMq.length ≤ fuel) :
    pendingLoop d k ds passlen fuel curlen error s =
      pendingLoop d k ds passlen (s.ebuf k d).cfePendingQ.qMq.length curlen error s := by
  induction fuel, enough using Nat.le_induction with
  | base => rfl
  | succ fuel enough ih => rw [pendingLoop_succ_fuel d k confines outside passlen fuel _ _ s enough, ih]

end Fuel

section Calls

variable (env : Env) (d : Bool)

theorem dataFilterWith_attached (k : Kcunit) (ds : Downstream) (data : Chain) (t : FlowSt)
    (attached : (t.entry k).cfeFilter.isSome) : (cfilDataFilterWith env d k ds data t).2 = .ejustreturn := by
  simp [cfilDataFilterWith, Option.isNone_iff_eq_none, Option.ne_none_iff_isSome.mpr attached]

theorem dataFilterWith_detached (k : Kcunit) (ds : Downstream) (data : Chain) (t : FlowSt)
    (detached : (t.entry k).cfeFilter.isSome = false) : cfilDataFilterWith env d k ds data t = (t.verifyInfo, .ok) := by
  simp [cfilDataFilterWith, Option.isNone_iff_eq_none, Option.not_isSome_iff_eq_none.mp (by simpa using detached)]

theorem dataCommonSlowPath_of_steps (data : Chain) (P Q : FlowSt → Prop) (weaken : ∀ t, P t → Q t)
    (tick : ∀ t : FlowSt, P t → P { t with ticks := t.ticks + 1 })
    (filter : ∀ k t, (t.entry k).cfeFilter.isSome → P t → Q (cfilDataFilter env d k data t).1) :
    ∀ order chained error s, P s → Q (slowPathState (dataCommonSlowPath env d data order chained error s))
  | [], _, _, _, start => weaken _ start
  | k :: rest, chained, error, s, start => by
    have filtered : ∀ chained' t, (t.entry k).cfeFilter.isSome → P t →
        Q (slowPathState (let (s₁, error) := cfilDataFilter env d k data t
        if error ≠ .ok then .ok (s₁, error) else dataCommonSlowPath env d data rest chained' error s₁)) := by
      intro chained' t attached held
      have kept : (cfilDataFilter env d k data t).2 = .ejustreturn := dataFilterWith_attached env d k _ data t attached
      have sent := filter k t attached held
      generalize cfilDataFilter env d k data t = r at sent kept ⊢
      obtain ⟨s₁, error⟩ := r
      dsimp only at kept ⊢
      rw [kept, if_pos (by decide)]
      exact sent
    unfold dataCommonSlowPath
    split
    · next attached =>
      split
      · dsimp only
        split
        · exact weaken _ (tick s start)
        · exact filtered true _ attached (tick s start)
      · exact filtered chained s attached start
    · split
      · exact weaken _ start
      · exact dataCommonSlowPath_of_steps data P Q weaken tick filter rest chained error s start

theorem dataCommon_of_steps (data : Chain) (P Q : FlowSt → Prop) {s : FlowSt} (start : Q s)
    (admitted : 0 < dataLen data → P (pendingAdmit env d data s)) (weaken : ∀ t, P t → Q t)
    (verify : ∀ t c, Q t → Q (t.verify c)) (checked : ∀ t c, P t → P (t.verify c))
    (window : ∀ t (b : CfiBuf), b.cfiInjectQ = (t.ibuf d).cfiInjectQ → b.cfiPendingLast = (t.ibuf d).cfiPendingLast →
      b.cfiPassOffset = (t.ibuf d).cfiPassOffset → Q t → Q (t.setIbuf d b))
    (skip : ∀ t, P t → Q (cfilUpdateEntryOffsets d (dataLen data) t))
    (tick : ∀ t : FlowSt, P t → P { t with ticks := t.ticks + 1 })
    (filter : 0 < dataLen data → ∀ k t, (t.entry k).cfeFilter.isSome → P t → Q (cfilDataFilter env d k data t).1) :
    Q (cfilDataCommon env d data s).1 := by
  unfold cfilDataCommon
  split
  · exact verify _ _ start
  dsimp only
  split
  · exact verify _ _ start
  rename_i nonempty
  have positive : 0 < dataLen data := Nat.pos_of_ne_zero (by simpa using nonempty)
  have entered := admitted positive
  split
  · exact window _ _ rfl rfl rfl (weaken _ entered)
  generalize pendingAdmit env d data s = s₁ at entered ⊢
  have verified := checked _ (cfilInfoBufVerify (s₁.ibuf d)) entered
  generalize s₁.verify _ = s₂ at verified ⊢
  have path : Q (slowPathState (if (s₁.ibuf d).cfiPendingLast ≤ (s₁.ibuf d).cfiPassOffset then
      .ok (cfilUpdateEntryOffsets d (cfilDataLength env.msize data).1 s₂, .ok)
      else dataCommonSlowPath env d data s₂.info.cfiOrderedEntries false .ok s₂)) := by
    split
    · exact skip _ verified
    · exact dataCommonSlowPath_of_steps env d data P Q weaken tick (filter positive) _ _ _ _ verified
  generalize (if (s₁.ibuf d).cfiPendingLast ≤ (s₁.ibuf d).cfiPassOffset then _ else _) = x at path ⊢
  cases x with
  | error t => exact path
  | ok r =>
    refine verify _ _ ?_
    split
    · exact verify _ _ (window _ _ rfl rfl rfl path)
    · exact path

end Calls

section Order

variable (env : Env) (d : Bool)

theorem dataServiceCtlQ_ordered (k : Kcunit) (s : FlowSt) :
    (cfilDataServiceCtlQ env d k s).1.info.cfiOrderedEntries = s.info.cfiOrderedEntries :=
  (serviceCtlQWith_confined env d (downstream_confines env d _) k s).ordered

theorem dataFilter_ordered (k : Kcunit) (data : Chain) (s : FlowSt) :
    (cfilDataFilter env d k data s).1.info.cfiOrderedEntries = s.info.cfiOrderedEntries :=
  (dataFilterWith_confined env d (downstream_confines env d _) k data s).ordered

theorem dataCommon_ordered (data : Chain) (s : FlowSt) :
    (cfilDataCommon env d data s).1.info.cfiOrderedEntries = s.info.cfiOrderedEntries :=
  have kept : ∀ (t : FlowSt) c, t.info.cfiOrderedEntries = s.info.cfiOrderedEntries →
      (t.verify c).info.cfiOrderedEntries = s.info.cfiOrderedEntries := fun _ _ same => by simpa using same
  dataCommon_of_steps env d data (fun t => t.info.cfiOrderedEntries = s.info.cfiOrderedEntries)
    (fun t => t.info.cfiOrderedEntries = s.info.cfiOrderedEntries) rfl
    (fun _ => by simp [pendingAdmit]) (fun _ same => same) kept kept (fun _ _ _ _ _ same => by simpa using same)
    (fun _ same => by simpa [cfilUpdateEntryOffsets] using same) (fun _ same => same)
    (fun _ k t _ same => (dataFilter_ordered env d k data t).trans same)

theorem injectLoop_ordered : ∀ fuel error (s : FlowSt),
    (injectLoop env d fuel error s).1.info.cfiOrderedEntries = s.info.cfiOrderedEntries
  | 0, _, _ => rfl
  | fuel + 1, error, s => by
    have dequeued : ∀ data, (injectDequeue env d data s).info.cfiOrderedEntries = s.info.cfiOrderedEntries :=
      fun data => by simp [injectDequeue, pendingRelease, FlowSt.removeQ]
    unfold injectLoop
    split
    · rfl
    · next data _ _ =>
      dsimp only
      split
      · split
        · exact dequeued data
        · exact (injectLoop_ordered fuel _ _).trans (dequeued data)
      · exact (injectLoop_ordered fuel _ _).trans (dequeued data)

theorem serviceInjectQueue_ordered (s : FlowSt) :
    (cfilServiceInjectQueue env d s).1.info.cfiOrderedEntries = s.info.cfiOrderedEntries :=
  serviceInjectQueue_of_steps env d (fun t => t.info.cfiOrderedEntries = s.info.cfiOrderedEntries) rfl
    (fun _ _ same => same) (fun fuel error t same => (injectLoop_ordered env d fuel error t).trans same)
    (fun _ => serviceInjectTail_of_frame env _ (fun _ _ same => by simpa using same) (fun _ _ _ _ _ same => same)
      (fun _ _ _ same => same) (fun _ same => same) fun _ _ events same => events.ordered.trans same)
    (fun _ same => by simpa using same)

theorem updateDataOffsets_ordered (k : Kcunit) (passOffset peekOffset : Nat) (s : FlowSt) :
    (cfilUpdateDataOffsets env d k passOffset peekOffset s).1.info.cfiOrderedEntries = s.info.cfiOrderedEntries :=
  updateDataOffsets_of_steps env d k passOffset peekOffset (fun t => t.info.cfiOrderedEntries = s.info.cfiOrderedEntries)
    rfl rfl (fun t same => (dataServiceCtlQ_ordered env d k t).trans same) (fun _ _ same => by simpa using same)
    (fun t same => (wakeCloseWait_events t).ordered.trans same) fun _ same => by simpa using same

theorem setSocketPassOffset_ordered (s : FlowSt) :
    (cfilSetSocketPassOffset d s).info.cfiOrderedEntries = s.info.cfiOrderedEntries := by
  unfold cfilSetSocketPassOffset
  dsimp only
  split_ifs
  · simp
  · rfl

theorem actionDataPass_ordered (k : Kcunit) (passOffset peekOffset : Nat) (s : FlowSt) :
    (cfilActionDataPass env d k passOffset peekOffset s).1.info.cfiOrderedEntries = s.info.cfiOrderedEntries :=
  actionDataPass_of_steps env d k passOffset peekOffset (fun t => t.info.cfiOrderedEntries = s.info.cfiOrderedEntries) rfl
    (updateDataOffsets_ordered env d k passOffset peekOffset s) (fun t same => (serviceInjectQueue_ordered env d t).trans same)
    (fun t same => (setSocketPassOffset_ordered d t).trans same) fun _ same => by simpa using same

theorem flushQueues_ordered (s : FlowSt) : (cfilFlushQueues s).info.cfiOrderedEntries = s.info.cfiOrderedEntries := by
  simp [cfilFlushQueues, drainDirection, FlowSt.mapEntries]

theorem ctlSend_ordered (k : Kcunit) (action : CfilAction) (s : FlowSt) :
    (cfilCtlSend env k action s).1.info.cfiOrderedEntries = s.info.cfiOrderedEntries :=
  ctlSend_of_steps env k action (fun t => t.info.cfiOrderedEntries = s.info.cfiOrderedEntries) rfl
    (fun _ _ same => by simpa using same) (fun _ _ same => same)
    (fun d passOffset peekOffset t same => (actionDataPass_ordered env d k passOffset peekOffset t).trans same)
    (fun t same => by dsimp only [cfilActionDrop]; split_ifs <;> simpa [flushQueues_ordered] using same)

theorem ctlDisconnectEntry_ordered (k : Kcunit) (s : FlowSt) :
    (cfilCtlDisconnectEntry env k s).1.info.cfiOrderedEntries = s.info.cfiOrderedEntries :=
  ctlDisconnectEntry_of_steps env k (fun t => t.info.cfiOrderedEntries = s.info.cfiOrderedEntries) rfl
    (fun d t same => (actionDataPass_ordered env d k _ _ t).trans same)
    (fun _ same => by simpa [ctlDisconnectDetach, unlinkEntry] using same)

theorem sockIsClosed_ordered (s : FlowSt) : (cfilSockIsClosed env s).info.cfiOrderedEntries = s.info.cfiOrderedEntries :=
  sockIsClosed_of_steps env (fun t => t.info.cfiOrderedEntries = s.info.cfiOrderedEntries)
    (fun _ events => events.ordered) (fun t same => (serviceInjectQueue_ordered env true t).trans same)
    (fun _ _ same => same) (fun t same => (flushQueues_ordered t).trans same)

theorem sockShutdown_ordered (shutRd shutWr : Bool) (s : FlowSt) :
    (cfilSockShutdown env shutRd shutWr s).1.info.cfiOrderedEntries = s.info.cfiOrderedEntries :=
  sockShutdown_of_steps env shutRd shutWr (fun t => t.info.cfiOrderedEntries = s.info.cfiOrderedEntries) rfl
    (fun _ _ same => same) (fun rd wr t same => (notifyShutdownFlow_events env rd wr t).ordered.trans same)
    (fun _ same => by simpa [cfilSockDataPending] using same)

theorem flowStep_ordered (r : FlowRun) (op : FlowOp) :
    (r.step env op).st.info.cfiOrderedEntries = r.st.info.cfiOrderedEntries := by
  cases op <;> simp only [FlowRun.step]
  case data d m => split <;> simp [dataCommon_ordered]
  case action k a => exact ctlSend_ordered env k a r.st
  case bless k => exact (actionDataPass_ordered env false k _ _ _).trans (actionDataPass_ordered env true k _ _ _)
  case ctlDisconnect k => exact ctlDisconnectEntry_ordered env k _
  case bufUpdate d =>
    exact sockBufUpdate_of_steps env d (fun t => t.info.cfiOrderedEntries = r.st.info.cfiOrderedEntries) rfl
      (serviceInjectQueue_ordered env d r.st)
  case shutdown shutRd shutWr => exact sockShutdown_ordered env shutRd shutWr r.st
  case close => exact sockIsClosed_ordered env r.st
  case isDead =>
    exact sockIsDead_of_frame (fun t => t.info.cfiOrderedEntries = r.st.info.cfiOrderedEntries)
      (fun _ _ same => by simpa using same) (fun _ _ _ _ _ same => same) (fun _ _ _ same => same) rfl
  case tcpAddTimeWait =>
    exact sockTcpAddTimeWait_of_frame (fun t => t.info.cfiOrderedEntries = r.st.info.cfiOrderedEntries)
      (fun _ _ same => by simpa using same) (fun _ _ _ _ _ same => same) (fun _ _ _ same => same) rfl

theorem sockAttach_ordered {slots : FilterSlots} {filterControlUnit sockId : Nat} {so : SockSt}
    {flowControlled : Kcunit → Bool} {s : FlowSt}
    (created : cfilSockAttach env slots filterControlUnit sockId so flowControlled = some s) :
    s.info.cfiOrderedEntries.Nodup ∧ s.info.cfiOrderedEntries ≠ [] := by
  have linked := cfilInfoAttachUnit_attached slots filterControlUnit (cfilInfoAlloc sockId so flowControlled)
    (fun _ => rfl) rfl
  unfold cfilSockAttach at created
  generalize cfilInfoAttachUnit slots filterControlUnit (cfilInfoAlloc sockId so flowControlled) = r at linked created
  obtain ⟨s₁, attached⟩ := r
  cases attached
  · cases created
  · cases created
    rw [(EventsOnly.attachEvent env none s₁).ordered]
    obtain ⟨k, mem, taken⟩ := linked.flag.mp rfl
    exact ⟨linked.sorted.imp AttachOrder.ne, List.ne_nil_of_mem ((linked.members k).mpr ⟨mem, taken⟩)⟩

theorem FlowReachable.ordered {r : FlowRun} (reach : FlowReachable env r) :
    r.st.info.cfiOrderedEntries.Nodup ∧ r.st.info.cfiOrderedEntries ≠ [] := by
  induction reach with
  | attach created => exact sockAttach_ordered env created
  | step op _ ih => rw [flowStep_ordered]; exact ih

end Order

section Successors

variable {order : List Kcunit} {k j : Kcunit}

@[simp] theorem successors_cons_self (rest : List Kcunit) : successors (k :: rest) k = rest := by
  simp [successors]

theorem successors_cons_of_ne (rest : List Kcunit) (other : j ≠ k) : successors (j :: rest) k = successors rest k := by
  simp [successors, List.dropWhile_cons, other]

theorem successors_sublist : List.Sublist (successors order k) order :=
  (List.drop_sublist 1 _).trans (List.dropWhile_sublist _)

theorem successors_append_cons (before rest : List Kcunit) (outside : k ∉ before) :
    successors (before ++ k :: rest) k = rest := by
  induction before with
  | nil => simp
  | cons j before ih =>
    simp only [List.mem_cons, not_or] at outside
    rw [List.cons_append, successors_cons_of_ne _ (Ne.symm outside.1), ih outside.2]

theorem successors_of_not_mem (outside : k ∉ order) : successors order k = [] := by
  induction order with
  | nil => rfl
  | cons j rest ih =>
    simp only [List.mem_cons, not_or] at outside
    rw [successors_cons_of_ne rest (Ne.symm outside.1), ih outside.2]

theorem split_at_successors (mem : k ∈ order) : ∃ before, k ∉ before ∧ order = before ++ k :: successors order k := by
  induction order with
  | nil => cases mem
  | cons j rest ih =>
    by_cases same : j = k
    · subst same
      exact ⟨[], List.not_mem_nil _, by simp⟩
    · obtain ⟨before, outside, split⟩ := ih ((List.mem_cons.mp mem).resolve_left (Ne.symm same))
      refine ⟨j :: before, by simp [Ne.symm same, outside], ?_⟩
      rw [successors_cons_of_ne rest same, List.cons_append, ← split]

theorem successors_later (nodup : order.Nodup) {between rest : List Kcunit}
    (later : successors order k = between ++ j :: rest) :
    order.indexOf k < order.indexOf j ∧ rest = successors order j := by
  have mem : k ∈ order := by
    by_contra outside
    simp [successors_of_not_mem outside] at later
  obtain ⟨before, outside, split⟩ := split_at_successors mem
  rw [later] at split
  have regroup : order = (before ++ k :: between) ++ j :: rest := by simp [split]
  have fresh : j ∉ before ++ k :: between := fun inside =>
    List.disjoint_of_nodup_append (regroup ▸ nodup) inside (List.mem_cons_self j rest)
  refine ⟨?_, ?_⟩
  · rw [regroup, List.indexOf_append_of_not_mem fresh, List.indexOf_cons_self, List.append_assoc,
      List.indexOf_append_of_not_mem outside, List.cons_append, List.indexOf_cons_self]
    simp
  · rw [regroup, successors_append_cons _ _ fresh]

theorem successors_length_lt (nodup : order.Nodup) (mem : j ∈ successors order k) :
    (successors order j).length < (successors order k).length := by
  obtain ⟨between, rest, split⟩ := List.append_of_mem mem
  rw [← (successors_later nodup split).2, split]
  simp only [List.length_append, List.length_cons]
  omega

theorem not_mem_successors_self (nodup : order.Nodup) : k ∉ successors order k :=
  fun mem => lt_irrefl _ (successors_length_lt nodup mem)

theorem chain_length_le (nodup : order.Nodup) :
    ∀ k ks, List.Chain (fun a b => b ∈ successors order a) k ks → ks.length ≤ (successors order k).length
  | _, [], _ => Nat.zero_le _
  | k, j :: ks, chain => by
    obtain ⟨next, rest⟩ := List.chain_cons.mp chain
    have deeper := chain_length_le nodup j ks rest
    have shorter := successors_length_lt nodup next
    simp only [List.length_cons]
    omega

theorem successors_length_lt_length (mem : k ∈ order) : (successors order k).length < order.length := by
  obtain ⟨before, -, split⟩ := split_at_successors mem
  conv_rhs => rw [split]
  simp only [List.length_append, List.length_cons]
  omega

end Successors

/-- `SLIST_NEXT(entry, cfe_order_link)` for entry `k`: the entry after it in
`cfi_ordered_entries`, if any. -/
def slistNext (order : List Kcunit) (k : Kcunit) : Option Kcunit := (successors order k).head?

/-- Two `Downstream`s that act alike on every flow whose chain is `order`. -/
structure Downstream.AgreeOn (order : List Kcunit) (ds ds' : Downstream) : Prop where
  walk : ∀ s : FlowSt, s.info.cfiOrderedEntries = order → ds.walk s = ds'.walk s
  forward : ∀ m (s : FlowSt), s.info.cfiOrderedEntries = order → ds.forward m s = ds'.forward m s

section Linked

variable (env : Env) (d : Bool)

/-- The two `SLIST_NEXT` loops of `cfil_service_pending_queue` as the source runs them, with
the nesting bounded by `depth`. -/
def linkedDownstream : Nat → Kcunit → Downstream
  | 0, _ => ⟨fun s => (s, .ok), fun _ s => (s, .ok)⟩
  | depth + 1, k =>
    let next := linkedDownstream depth
    ⟨fun s => match slistNext s.info.cfiOrderedEntries k with
        | none => (s, .ok)
        | some j =>
          let r := cfilDataServiceCtlQWith env d j (next j) s
          if r.2 = .ok then (next j).walk r.1 else r,
      fun data s => match slistNext s.info.cfiOrderedEntries k with
        | none => (s, .ok)
        | some j =>
          let r := cfilDataFilterWith env d j (next j) data s
          if r.2 = .ok then (next j).forward data r.1 else r⟩

variable {order L : List Kcunit} {ds ds' : Downstream} (agree : ds.AgreeOn order ds') (confines : ds'.Confines L d)
include agree confines

theorem pendingLoop_congr (k : Kcunit) (passlen : Nat) : ∀ fuel curlen error (s : FlowSt),
    s.info.cfiOrderedEntries = order →
    pendingLoop d k ds passlen fuel curlen error s = pendingLoop d k ds' passlen fuel curlen error s
  | 0, _, _, _, _ => rfl
  | fuel + 1, curlen, error, s, same => by
    unfold pendingLoop
    split
    · rfl
    · next data rest queued =>
      dsimp only
      split
      · rfl
      · have removed : (s.removeQ (.pending k d) data).info.cfiOrderedEntries = order := by
          simpa [FlowSt.removeQ] using same
        simp only [agree.forward data _ removed]
        refine pendingLoop_congr k passlen fuel _ _ _ ?_
        have sent := ((confines.forward data _).ordered).trans removed
        split <;> simpa [FlowSt.enqueueQ] using sent

theorem servicePendingQueueWith_congr (k : Kcunit) (s : FlowSt) (same : s.info.cfiOrderedEntries = order) :
    cfilServicePendingQueueWith d k ds s = cfilServicePendingQueueWith d k ds' s := by
  simp only [cfilServicePendingQueueWith, agree.walk s same, pendingLoop_congr d agree confines k _ _ _ _ s same]

theorem serviceCtlQBody_congr (k : Kcunit) (s : FlowSt) (same : s.info.cfiOrderedEntries = order) :
    serviceCtlQBody env d k ds s = serviceCtlQBody env d k ds' s := by
  have passed := (passLoop_confined d k (s.ebuf k d).cfeCtlQ.qMq.length s).trans (Confined.verifyInfo (L := [k]))
  unfold serviceCtlQBody
  dsimp only
  generalize (passLoop d k (s.ebuf k d).cfeCtlQ.qMq.length s).verifyInfo = s₁ at passed ⊢
  have peeked := (peekLoop_confined env d k (s₁.ebuf k d).cfeCtlQ.qMq (s₁.ebuf k d).cfeCtlQ.qStart s₁).trans
    (Confined.verifyInfo (L := [k]))
  generalize (peekLoop env d k (s₁.ebuf k d).cfeCtlQ.qMq (s₁.ebuf k d).cfeCtlQ.qStart s₁).verifyInfo = s₂ at peeked ⊢
  rw [servicePendingQueueWith_congr d agree confines k s₂ (peeked.ordered.trans (passed.ordered.trans same))]

theorem serviceCtlQWith_congr (k : Kcunit) (s : FlowSt) (same : s.info.cfiOrderedEntries = order) :
    cfilDataServiceCtlQWith env d k ds s = cfilDataServiceCtlQWith env d k ds' s := by
  have attached := ((EventsOnly.attachEvent env (some k) s).ordered).trans same
  unfold cfilDataServiceCtlQWith
  dsimp only
  rw [serviceCtlQBody_congr env d agree confines k s same,
    serviceCtlQBody_congr env d agree confines k _ attached]

theorem dataFilterWith_congr (k : Kcunit) (data : Chain) (s : FlowSt) (same : s.info.cfiOrderedEntries = order) :
    cfilDataFilterWith env d k ds data s = cfilDataFilterWith env d k ds' data s := by
  unfold cfilDataFilterWith
  dsimp only
  rw [serviceCtlQWith_congr env d agree confines k _ (by simpa [FlowSt.enqueueQ] using same)]

omit agree confines

theorem linkedDownstream_agrees {order : List Kcunit} (nodup : order.Nodup) :
    ∀ depth k, (successors order k).length ≤ depth →
      (linkedDownstream env d depth k).AgreeOn order (downstream env d (successors order k))
  | 0, k, short => by
    rw [List.length_eq_zero.mp (Nat.le_zero.mp short)]
    exact ⟨fun _ _ => rfl, fun _ _ _ => rfl⟩
  | depth + 1, k, short => by
    have next : ∀ s : FlowSt, s.info.cfiOrderedEntries = order →
        slistNext s.info.cfiOrderedEntries k = (successors order k).head? := fun s same => by rw [same]; rfl
    cases split : successors order k with
    | nil =>
      refine ⟨fun s same => ?_, fun m s same => ?_⟩ <;> simp only [linkedDownstream, next s same, split] <;> rfl
    | cons j rest =>
      have tail : rest = successors order j := (successors_later nodup (show successors order k = [] ++ j :: rest from split)).2
      have inner := linkedDownstream_agrees nodup depth j (by rw [← tail]; simp [split] at short; omega)
      rw [← tail] at inner
      have confines := downstream_confines env d rest
      refine ⟨fun s same => ?_, fun m s same => ?_⟩
      · have kept := (serviceCtlQWith_confined env d confines j s).ordered.trans same
        simp only [linkedDownstream, next s same, split, List.head?, downstream,
          serviceCtlQWith_congr env d inner confines j s same]
        split
        · exact inner.walk _ kept
        · rfl
      · have kept := (dataFilterWith_confined env d confines j m s).ordered.trans same
        simp only [linkedDownstream, next s same, split, List.head?, downstream,
          dataFilterWith_congr env d inner confines j m s same]
        split
        · exact inner.forward m _ kept
        · rfl

end Linked

/-- Why the chaining recursion from a flow whose chain is `order` ends, in direction `d`. -/
structure ChainBounded (env : Env) (d : Bool) (order : List Kcunit) : Prop where
  nodup : order.Nodup
  nonempty : 0 < order.length
  finite : order.length ≤ maxContentFilter
  later : ∀ k between j rest, successors order k = between ++ j :: rest →
    order.indexOf k < order.indexOf j ∧ rest = successors order j
  nesting : ∀ k ks, List.Chain (fun a b => b ∈ successors order a) k ks → (k :: ks).length ≤ order.length
  linked : ∀ k depth, (successors order k).length ≤ depth → ∀ s : FlowSt, s.info.cfiOrderedEntries = order →
    cfilDataServiceCtlQWith env d k (linkedDownstream env d depth k) s = cfilDataServiceCtlQ env d k s ∧
    cfilServicePendingQueueWith d k (linkedDownstream env d depth k) s = cfilServicePendingQueue env d k s ∧
    ∀ data, cfilDataFilterWith env d k (linkedDownstream env d depth k) data s = cfilDataFilter env d k data s
  passFuel : ∀ k (s : FlowSt) fuel, (s.ebuf k d).cfeCtlQ.qMq.length ≤ fuel →
    passLoop d k fuel s = passLoop d k (s.ebuf k d).cfeCtlQ.qMq.length s
  pendingFuel : ∀ k passlen curlen error (s : FlowSt) fuel, (s.ebuf k d).cfePendingQ.qMq.length ≤ fuel →
    pendingLoop d k (downstream env d (successors order k)) passlen fuel curlen error s =
      pendingLoop d k (downstream env d (successors order k)) passlen (s.ebuf k d).cfePendingQ.qMq.length curlen error s

section Bounded

variable (env : Env) (d : Bool) {order : List Kcunit}

theorem nesting_le_length (nodup : order.Nodup) (nonempty : order ≠ []) (k : Kcunit) (ks : List Kcunit)
    (chain : List.Chain (fun a b => b ∈ successors order a) k ks) : (k :: ks).length ≤ order.length := by
  have deep := chain_length_le nodup k ks chain
  by_cases mem : k ∈ order
  · have shorter := successors_length_lt_length mem
    simp only [List.length_cons]
    omega
  · rw [successors_of_not_mem mem, List.length_nil, Nat.le_zero, List.length_eq_zero] at deep
    subst deep
    exact List.length_pos.mpr nonempty

theorem linked_calls (nodup : order.Nodup) (k : Kcunit) {depth : Nat} (enough : (successors order k).length ≤ depth)
    (s : FlowSt) (same : s.info.cfiOrderedEntries = order) :
    cfilDataServiceCtlQWith env d k (linkedDownstream env d depth k) s = cfilDataServiceCtlQ env d k s ∧
    cfilServicePendingQueueWith d k (linkedDownstream env d depth k) s = cfilServicePendingQueue env d k s ∧
    ∀ data, cfilDataFilterWith env d k (linkedDownstream env d depth k) data s = cfilDataFilter env d k data s := by
  have agree := linkedDownstream_agrees env d nodup depth k enough
  have confines := downstream_confines env d (successors order k)
  refine ⟨?_, ?_, fun data => ?_⟩
  · rw [serviceCtlQWith_congr env d agree confines k s same, cfilDataServiceCtlQ, same]
  · rw [servicePendingQueueWith_congr d agree confines k s same, cfilServicePendingQueue, same]
  · rw [dataFilterWith_congr env d agree confines k data s same, cfilDataFilter, same]

end Bounded

theorem chaining_recursion_terminates (env : Env) {r : FlowRun} (reach : FlowReachable env r) (d : Bool) :
    ChainBounded env d r.st.info.cfiOrderedEntries := by
  obtain ⟨nodup, nonempty⟩ := reach.ordered
  refine ⟨nodup, List.length_pos.mpr nonempty, ?_, fun _ _ _ _ later => successors_later nodup later,
    nesting_le_length nodup nonempty, fun k _ enough s same => linked_calls env d nodup k enough s same,
    fun k s _ enough => passLoop_fuel d k s enough, fun k passlen curlen error s _ enough => ?_⟩
  · simpa using nodup.length_le_card
  · exact pendingLoop_fuel d k (downstream_confines env d _) (not_mem_successors_self nodup) passlen curlen error s enough

/-- With two filters, the chain is unit 0 then unit 1, and its recursion is bounded. -/
theorem twoFilterFlow_chain_bounded :
    FlowReachable demoKernel { st := twoFilterFlow } ∧ twoFilterFlow.info.cfiOrderedEntries = [0, 1] ∧
      ChainBounded demoKernel true twoFilterFlow.info.cfiOrderedEntries :=
  have reach := @FlowReachable.attach demoKernel twoFilters 3 7 {} (fun _ => false) twoFilterFlow rfl
  ⟨reach, rfl, chaining_recursion_terminates demoKernel reach true⟩

end ContentFilter
