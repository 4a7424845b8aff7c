import ContentFilter.PassAll

/-! The pending window's counters against the chains a flow holds. -/

namespace ContentFilter

variable (env : Env) (d : Bool)

theorem pendingAdmit_ibuf (data : Chain) (s : FlowSt) :
    (pendingAdmit env d data s).ibuf d = { s.ibuf d with
      cfiPendingLast := (s.ibuf d).cfiPendingLast + (cfilDataLength env.msize data).1,
      cfiPendingMbcnt := (s.ibuf d).cfiPendingMbcnt + (cfilDataLength env.msize data).2.1,
      cfiPendingMbnum := (s.ibuf d).cfiPendingMbnum + (cfilDataLength env.msize data).2.2 } := by
  simp [pendingAdmit]

@[simp] theorem pendingAdmit_sock (data : Chain) (s : FlowSt) : (pendingAdmit env d data s).sock = s.sock := by
  simp [pendingAdmit]

@[simp] theorem pendingAdmit_ebuf (data : Chain) (s : FlowSt) (k : Kcunit) (d' : Bool) :
    (pendingAdmit env d data s).ebuf k d' = s.ebuf k d' := by
  simp [pendingAdmit]

theorem tailDrop_widens_window (data : Chain) (s : FlowSt) (notDropped : s.info.cfiFlags.drop = false)
    (nonempty : 0 < dataLen data) (dgram : s.sock.soDgram = true)
    (over : env.udpGcMbufNumMax < (s.ibuf d).cfiPendingMbnum ∨ env.udpGcMbufCntMax < (s.ibuf d).cfiPendingMbcnt) :
    (cfilDataCommon env d data s).2 = .epipe ∧
      ((cfilDataCommon env d data s).1.ibuf d).cfiPendingLast = (s.ibuf d).cfiPendingLast + dataLen data ∧
      ((cfilDataCommon env d data s).1.ibuf d).cfiPendingFirst = (s.ibuf d).cfiPendingFirst ∧
      ((cfilDataCommon env d data s).1.ibuf d).cfiPendingMbcnt = (s.ibuf d).cfiPendingMbcnt ∧
      ((cfilDataCommon env d data s).1.ibuf d).cfiPendingMbnum = (s.ibuf d).cfiPendingMbnum ∧
      ((cfilDataCommon env d data s).1.ibuf d).cfiInjectQ = (s.ibuf d).cfiInjectQ ∧
      (∀ k d', (cfilDataCommon env d data s).1.ebuf k d' = s.ebuf k d') ∧
      (cfilDataCommon env d data s).1.sock = s.sock ∧
      (cfilDataCommon env d data s).1.info.cfiFlags = s.info.cfiFlags := by
  have crossed : ((pendingAdmit env d data s).sock.soDgram &&
      (decide (((pendingAdmit env d data s).ibuf d).cfiPendingMbnum > env.udpGcMbufNumMax) ||
        decide (((pendingAdmit env d data s).ibuf d).cfiPendingMbcnt > env.udpGcMbufCntMax))) = true := by
    simp only [pendingAdmit_sock, dgram, pendingAdmit_ibuf, Bool.true_and, Bool.or_eq_true, decide_eq_true_eq]
    omega
  unfold cfilDataCommon
  simp only [notDropped, Bool.false_eq_true, if_false, cfilDataLength, Nat.pos_iff_ne_zero.mp nonempty]
  rw [if_pos crossed]
  simp [pendingAdmit_ibuf, cfilDataLength]

theorem tailDrops_widen_window (chains : List Chain) (nonempty : ∀ c ∈ chains, 0 < dataLen c) (r : FlowRun)
    (notDropped : r.st.info.cfiFlags.drop = false) (dgram : r.st.sock.soDgram = true)
    (over : env.udpGcMbufNumMax < (r.st.ibuf d).cfiPendingMbnum ∨ env.udpGcMbufCntMax < (r.st.ibuf d).cfiPendingMbcnt) :
    ((r.run env (chains.map (.data d))).st.ibuf d).cfiPendingLast =
        (r.st.ibuf d).cfiPendingLast + (chains.map dataLen).sum ∧
      ((r.run env (chains.map (.data d))).st.ibuf d).cfiPendingFirst = (r.st.ibuf d).cfiPendingFirst ∧
      (∀ k d', (r.run env (chains.map (.data d))).st.ebuf k d' = r.st.ebuf k d') ∧
      ((r.run env (chains.map (.data d))).st.ibuf d).cfiInjectQ = (r.st.ibuf d).cfiInjectQ ∧
      (r.run env (chains.map (.data d))).accepted d = r.accepted d ∧
      (r.run env (chains.map (.data d))).st.sock = r.st.sock := by
  induction chains generalizing r with
  | nil => simp [FlowRun.run]
  | cons data rest ih =>
    obtain ⟨epipe, last, first, mbcnt, mbnum, inject, ebufs, sock, flags⟩ :=
      tailDrop_widens_window env d data r.st notDropped (nonempty data (by simp)) dgram over
    have stepped : (r.step env (.data d data)).st = (cfilDataCommon env d data r.st).1 ∧
        (r.step env (.data d data)).accepted d = r.accepted d := by
      simp only [FlowRun.step, FlowRun.accepted, epipe]
      cases d <;> simp
    obtain ⟨last', first', ebufs', inject', accepted', sock'⟩ := ih (fun c member => nonempty c (by simp [member]))
      (r.step env (.data d data)) (by rw [stepped.1, flags, notDropped]) (by rw [stepped.1, sock, dgram])
      (by rw [stepped.1, mbcnt, mbnum]; exact over)
    simp only [List.map_cons, FlowRun.run, List.foldl_cons] at last' first' ebufs' inject' accepted' sock' ⊢
    refine ⟨?_, ?_, fun k d' => ?_, ?_, ?_, ?_⟩
    · rw [last', stepped.1, last, List.sum_cons]; omega
    · rw [first', stepped.1, first]
    · rw [ebufs', stepped.1, ebufs]
    · rw [inject', stepped.1, inject]
    · rw [accepted', stepped.2]
    · rw [sock', stepped.1, sock]

theorem udpFlowPending_le_sum (s : FlowSt) :
    udpFlowPending d s.info ≤ ((s.flowsBefore ++ s.info :: s.flowsAfter).map (udpFlowPending d)).sum := by
  simp only [List.map_append, List.map_cons, List.sum_append, List.sum_cons]; omega

theorem dataPending_verify_fires (s : FlowSt) (dgram : s.sock.soDgram = true)
    (wide : 2 ^ 31 - 1 ≤ (s.ibuf d).cfiPendingLast - (s.ibuf d).cfiPendingFirst) :
    (cfilSockDataPending d s).1.panicked = true := by
  have own := udpFlowPending_le_sum d s
  have covered : (s.ibuf d).cfiPendingLast - (s.ibuf d).cfiPendingFirst ≤ udpFlowPending d s.info := by
    simp only [udpFlowPending, FlowSt.ibuf]
    split <;> omega
  simp only [cfilSockDataPending, dgram, if_true, verify_panicked, Bool.or_eq_true, Bool.not_eq_true',
    decide_eq_false_iff_not]
  exact .inr (by omega)

theorem tailDrops_fire_dataPending_verify (chains : List Chain) (nonempty : ∀ c ∈ chains, 0 < dataLen c)
    (r : FlowRun) (notDropped : r.st.info.cfiFlags.drop = false) (dgram : r.st.sock.soDgram = true)
    (over : env.udpGcMbufNumMax < (r.st.ibuf d).cfiPendingMbnum ∨ env.udpGcMbufCntMax < (r.st.ibuf d).cfiPendingMbcnt)
    (enough : (r.st.ibuf d).cfiPendingFirst + (2 ^ 31 - 1) ≤ (r.st.ibuf d).cfiPendingLast + (chains.map dataLen).sum) :
    (cfilSockDataPending d (r.run env (chains.map (.data d))).st).1.panicked = true := by
  obtain ⟨last, first, -, -, -, sock⟩ := tailDrops_widen_window env d chains nonempty r notDropped dgram over
  exact dataPending_verify_fires d _ (by rw [sock, dgram]) (by rw [last, first]; omega)

/-- A kernel out of mbufs for `sbconcat_mbufs`, every other call succeeding. -/
def noConcatKernel : Env := { demoKernel with sbconcatMbufs := fun _ => false }

/-- A UDP socket as `cfil_sock_attach` leaves it, with `oneFilter` attached. -/
def udpFilterFlow : FlowSt :=
  (cfilSockAttach noConcatKernel oneFilter 1 7 { soDgram := true } fun _ => false).getD
    (cfilInfoAlloc 7 {} fun _ => false)

/-- One outgoing datagram, whose concatenation fails. -/
def concatFailRun : FlowRun := FlowRun.run noConcatKernel { st := udpFilterFlow } [.data true (oneByte 1)]

/-- After `ENOBUFS` the datagram's byte and mbuf stay counted in the window, and no
queue holds it. -/
theorem enobufs_keeps_datagram_counted :
    FlowReachable noConcatKernel concatFailRun ∧
      (cfilDataCommon noConcatKernel true (oneByte 1) udpFilterFlow).2 = .enobufs ∧
      (concatFailRun.st.ibuf true).cfiPendingLast = 1 ∧ (concatFailRun.st.ibuf true).cfiPendingFirst = 0 ∧
      (concatFailRun.st.ibuf true).cfiPendingMbcnt = 256 ∧ (concatFailRun.st.ibuf true).cfiPendingMbnum = 1 ∧
      (∀ k, (concatFailRun.st.ebuf k true).cfeCtlQ.qMq = [] ∧ (concatFailRun.st.ebuf k true).cfePendingQ.qMq = []) ∧
      (concatFailRun.st.ibuf true).cfiInjectQ.qMq = [] :=
  ⟨FlowReachable.run noConcatKernel
    (@FlowReachable.attach noConcatKernel oneFilter 1 7 { soDgram := true } (fun _ => false) _ rfl) _, by decide⟩

end ContentFilter
