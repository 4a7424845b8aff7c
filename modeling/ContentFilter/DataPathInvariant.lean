import ContentFilter.Servicing

/-! The representation invariant over whole runs of the data path. -/

namespace ContentFilter

/-- The representation invariant, and the held bytes within the pending window. -/
structure FlowInv (s : FlowSt) : Prop where
  struct : StructInv s
  accounted : ∀ d, (s.ibuf d).cfiPendingFirst + held s d ≤ (s.ibuf d).cfiPendingLast

variable (env : Env) (d : Bool)

/-- A call keeps the invariant and leaves the write side and the socket's delays as they
were. -/
structure Kept (s s' : FlowSt) : Prop where
  inv : FlowInv s'
  tailFlags : s'.tailFlags = s.tailFlags

theorem FlowInv.verifyInfo_eq {s : FlowSt} (inv : FlowInv s) : s.verifyInfo = s := inv.struct.verifyInfo_eq

theorem FlowInv.of_bufs {s s' : FlowSt} (inv : FlowInv s) (ebuf : ∀ k d, s'.ebuf k d = s.ebuf k d)
    (ibuf : ∀ d, s'.ibuf d = s.ibuf d) (panicked : s'.panicked = s.panicked) : FlowInv s' :=
  have held : ∀ d, held s' d = held s d := fun d => by simp [held, ebuf, ibuf]
  ⟨⟨fun k d => ebuf k d ▸ inv.struct.entries k d, fun d => ibuf d ▸ inv.struct.inject d,
    fun d => ibuf d ▸ inv.struct.window d, panicked ▸ inv.struct.sane⟩,
    fun d => by rw [ibuf, held]; exact inv.accounted d⟩

namespace Kept

variable {s s₁ s₂ s₃ : FlowSt}

theorem shutWr (kept : Kept s s') : s'.info.cfiFlags.shutWr = s.info.cfiFlags.shutWr :=
  congrArg Prod.fst kept.tailFlags

theorem refl (inv : FlowInv s) : Kept s s := ⟨inv, rfl⟩

theorem trans (first : Kept s₁ s₂) (second : Kept s₂ s₃) : Kept s₁ s₃ :=
  ⟨second.inv, second.tailFlags.trans first.tailFlags⟩

theorem verifyInfo (kept : Kept s s') : Kept s s'.verifyInfo := by rwa [kept.inv.verifyInfo_eq]

theorem of_serviced {d : Bool} (inv : FlowInv s) (serviced : Serviced d 0 s s') : Kept s s' :=
  ⟨⟨serviced.inv, fun d' => by
    have := serviced.held d'; have := inv.accounted d'
    rw [serviced.first, serviced.last]; split at * <;> omega⟩, serviced.tailFlags⟩

theorem of_eventsOnly (inv : FlowInv s) (events : EventsOnly s s') : Kept s s' :=
  of_serviced (d := true) inv (.of_eventsOnly inv.struct events)

theorem of_bufs (inv : FlowInv s) (ebuf : ∀ k d, s'.ebuf k d = s.ebuf k d) (ibuf : ∀ d, s'.ibuf d = s.ibuf d)
    (panicked : s'.panicked = s.panicked) (tailFlags : s'.tailFlags = s.tailFlags) : Kept s s' :=
  ⟨inv.of_bufs ebuf ibuf panicked, tailFlags⟩

theorem ticksSock (inv : FlowInv s) (ticks : Nat) (so : SockSt) (dgram : so.soDgram = s.sock.soDgram)
    (delayed : so.soflowDbDelayedDead = s.sock.soflowDbDelayedDead) : Kept s { s with ticks := ticks, sock := so } :=
  .of_bufs inv (fun _ _ => rfl) (fun _ => rfl) rfl (by simp [FlowSt.tailFlags, FlowSt.delayedDead,
    FlowSt.delayedTcpTimeWait, dgram, delayed])

theorem sock (inv : FlowInv s) (so : SockSt) (dgram : so.soDgram = s.sock.soDgram)
    (delayed : so.soflowDbDelayedDead = s.sock.soflowDbDelayedDead) : Kept s { s with sock := so } :=
  ticksSock inv s.ticks so dgram delayed

theorem setIflags (inv : FlowInv s) (f : CfiFlags) (same : (s.setIflags f).tailFlags = s.tailFlags) :
    Kept s (s.setIflags f) :=
  .of_bufs inv (fun _ _ => rfl) (fun d => by simp) rfl same

end Kept

theorem serviceCtlQ_kept (k : Kcunit) (s : FlowSt) (inv : FlowInv s) :
    Kept s (cfilDataServiceCtlQ env d k s).1 :=
  .of_serviced inv (serviceCtlQWith_serviced env (downstream_good (d := d) env _) k s inv.struct)

theorem servicePendingQueue_kept (k : Kcunit) (s : FlowSt) (inv : FlowInv s) :
    Kept s (cfilServicePendingQueue env d k s).1 :=
  .of_serviced inv (servicePendingQueueWith_serviced (downstream_good (d := d) env _) k s inv.struct)

theorem heldChains_mapEntries {s : FlowSt} {f : Kcunit → CfilEntry → CfilEntry}
    (same : ∀ k, ((f k (s.entry k)).buf d).chains = (s.ebuf k d).chains) :
    heldChains (s.mapEntries f) d = heldChains s d := by
  simp only [heldChains, FlowSt.ebuf, FlowSt.entry_mapEntries] at *
  rw [Finset.sum_congr rfl fun k _ => same k]
  rfl

theorem EntryBufInv.skipData {b : CfeBuf} (inv : EntryBufInv b) (n : Nat) : EntryBufInv (b.skipData n) := by
  have := inv.passPeek
  refine ⟨inv.ctl.shift n, inv.pending.shift n, by simp [CfeBuf.skipData, inv.adjacent], ?_, ?_, ?_, ?_⟩ <;>
    simp only [CfeBuf.skipData] <;> (try split_ifs) <;> omega

theorem updateEntryOffsets_moves (datalen : Nat) (s : FlowSt) (shaped : Shaped s) :
    Moves d 0 0 s (cfilUpdateEntryOffsets d datalen s) := by
  let f := fun (_ : Kcunit) (e : CfilEntry) =>
    if e.cfeFilter.isNone then e else e.setBuf d ((e.buf d).skipData datalen)
  have each : ∀ k d', EntryBufInv ((f k (s.entry k)).buf d') ∧
      ((f k (s.entry k)).buf d').chains = (s.ebuf k d').chains := fun k d' => by
    have := shaped.entries k d'
    simp only [f]
    split
    · exact ⟨this, rfl⟩
    · by_cases same : d' = d
      · subst same; simpa using ⟨this.skipData datalen, rfl⟩
      · simp only [CfilEntry.buf_setBuf_of_ne _ _ _ same]; exact ⟨this, rfl⟩
  have shifted : Shaped (s.mapEntries f) := ⟨fun k d' => (each k d').1, shaped.inject, shaped.window⟩
  unfold cfilUpdateEntryOffsets
  rw [shifted.verifyInfo_eq]
  refine ⟨shifted, fun d' => by simp [heldChains_mapEntries d' fun k => (each k d').2], fun _ => rfl,
    fun _ => rfl, fun _ => rfl, rfl, rfl, fun k => ?_⟩
  simp only [FlowSt.entry_mapEntries, f]
  split <;> simp_all

theorem updateEntryOffsets_serviced (datalen : Nat) (s : FlowSt) (inv : StructInv s) :
    Serviced d 0 s (cfilUpdateEntryOffsets d datalen s) :=
  ((updateEntryOffsets_moves d datalen s inv.shaped).serviced inv.sane).of_eq (by simp)

theorem drainDirection_ebuf (s : FlowSt) (k : Kcunit) (d' : Bool) :
    (drainDirection d s).ebuf k d' =
      if d' = d then { s.ebuf k d with cfeCtlQ := cfilQueueInit, cfePendingQ := cfilQueueInit }
      else s.ebuf k d' := by
  unfold drainDirection
  dsimp only
  rw [setIbuf_ebuf]
  simp only [FlowSt.ebuf, FlowSt.entry_mapEntries]
  split
  · subst d'; simp
  · exact CfilEntry.buf_setBuf_of_ne _ _ _ ‹_›

theorem drainDirection_ibuf (s : FlowSt) (d' : Bool) :
    (drainDirection d s).ibuf d' = if d' = d then { s.ibuf d with cfiInjectQ := cfilQueueInit } else s.ibuf d' := by
  simp only [drainDirection]
  rw [ibuf_setIbuf_apply]
  rfl

theorem drainDirection_shaped (s : FlowSt) (shaped : Shaped s) : Shaped (drainDirection d s) := by
  refine ⟨fun k d' => ?_, fun d' => ?_, fun d' => ?_⟩
  · have := shaped.entries k d'
    rw [drainDirection_ebuf]
    split
    · subst d'
      exact ⟨.init, .init, rfl, Nat.zero_le _, this.passPeek, Nat.zero_le _, this.peekedTo⟩
    · exact this
  · rw [drainDirection_ibuf]; split
    · exact .init
    · exact shaped.inject d'
  · rw [drainDirection_ibuf]; split
    · exact shaped.window d
    · exact shaped.window d'

theorem heldChains_drainDirection (s : FlowSt) (d' : Bool) :
    heldChains (drainDirection d s) d' = if d' = d then 0 else heldChains s d' := by
  split
  · subst d'; simp [heldChains, drainDirection_ebuf, drainDirection_ibuf, CfeBuf.chains, cfilQueueInit]
  · simp [heldChains, drainDirection_ebuf, drainDirection_ibuf, ‹¬d' = d›]

theorem drainDirection_inv (s : FlowSt) (inv : FlowInv s) : FlowInv (drainDirection d s) := by
  refine ⟨(drainDirection_shaped d s inv.struct.shaped).structInv inv.struct.sane, fun d' => ?_⟩
  rw [held_eq, heldChains_drainDirection, drainDirection_ibuf]
  by_cases same : d' = d
  · subst same; simpa using inv.struct.window d'
  · simpa [same, held_eq] using inv.accounted d'

theorem flushQueues_kept (s : FlowSt) (inv : FlowInv s) : Kept s (cfilFlushQueues s) := by
  have drained := drainDirection_inv false _ (drainDirection_inv true s inv)
  unfold cfilFlushQueues
  rw [drained.verifyInfo_eq]
  exact ⟨drained, rfl⟩

@[simp] theorem raiseOffsets_cfeCtlQ (b : CfeBuf) (passOffset peekOffset : Nat) :
    (b.raiseOffsets passOffset peekOffset).1.cfeCtlQ = b.cfeCtlQ := by
  unfold CfeBuf.raiseOffsets
  split_ifs <;> simp only [apply_ite (fun x : CfeBuf × Bool => x.1.cfeCtlQ), ite_self]

@[simp] theorem raiseOffsets_cfePendingQ (b : CfeBuf) (passOffset peekOffset : Nat) :
    (b.raiseOffsets passOffset peekOffset).1.cfePendingQ = b.cfePendingQ := by
  unfold CfeBuf.raiseOffsets
  split_ifs <;> simp only [apply_ite (fun x : CfeBuf × Bool => x.1.cfePendingQ), ite_self]

theorem EntryBufInv.raiseOffsets {b : CfeBuf} (inv : EntryBufInv b) (passOffset peekOffset : Nat) :
    EntryBufInv (b.raiseOffsets passOffset peekOffset).1 ∧
      (b.raiseOffsets passOffset peekOffset).1.held = b.held := by
  have := inv.passPeek; have := inv.passFrom; have := inv.peekedTo
  unfold CfeBuf.raiseOffsets
  split_ifs <;> dsimp only <;> split_ifs <;> simp only [Bool.and_eq_true, decide_eq_true_eq] at * <;>
    refine ⟨⟨inv.ctl, inv.pending, inv.adjacent, ?_, ?_, inv.peekedFrom, ?_⟩, ?_⟩ <;>
    (try dsimp only) <;> first | omega | trivial

theorem updateDataOffsets_moves (k : Kcunit) (passOffset peekOffset : Nat) (s : FlowSt) (shaped : Shaped s) :
    Moves d 0 0 s (cfilUpdateDataOffsets env d k passOffset peekOffset s).1 :=
  have raised := (shaped.entries k d).raiseOffsets passOffset peekOffset
  updateDataOffsets_of_steps env d k passOffset peekOffset (Moves d 0 0 s) (.refl shaped)
    (Moves.setEbuf_keeping shaped k _ raised.1 (by simp [CfeBuf.chains]))
    (fun _ moved => (moved.trans (serviceCtlQWith_moves env (downstream_good (d := d) env _) k _ moved.shaped)).of_eq
      (by simp) (by simp))
    (fun t f moved => (moved.trans (.of_eventsOnly moved.shaped (EventsOnly.setEflags t k f))).of_eq (by simp) (by simp))
    (fun t moved => (moved.trans (.of_eventsOnly moved.shaped (wakeCloseWait_events t))).of_eq (by simp) (by simp))
    fun _ moved => moved.verifyInfo

theorem updateDataOffsets_kept (k : Kcunit) (passOffset peekOffset : Nat) (s : FlowSt) (inv : FlowInv s) :
    Kept s (cfilUpdateDataOffsets env d k passOffset peekOffset s).1 ∧
      ∀ j, ((cfilUpdateDataOffsets env d k passOffset peekOffset s).1.entry j).cfeFilter = (s.entry j).cfeFilter :=
  have moves := updateDataOffsets_moves env d k passOffset peekOffset s inv.struct.shaped
  ⟨.of_serviced inv ((moves.serviced inv.struct.sane).of_eq (by simp)), moves.cfeFilter⟩

/-- Room for `n` bytes in transit in direction `d`: the held bytes and `n` more fit in
the pending window, as while `cfil_data_common` passes a chain down the entries. -/
def Room (s : FlowSt) (n : ℤ) : Prop :=
  ∀ d', ((s.ibuf d').cfiPendingFirst : ℤ) + held s d' + (if d' = d then n else 0) ≤ (s.ibuf d').cfiPendingLast

theorem FlowInv.room {s : FlowSt} (inv : FlowInv s) : Room d s 0 := fun d' => by
  have := inv.accounted d'; split <;> omega

theorem Room.serviced {s s' : FlowSt} {n m : ℤ} (room : Room d s n) (serviced : Serviced d m s s') :
    Room d s' (n - m) := fun d' => by
  have := room d'; have := serviced.held d'
  rw [serviced.first, serviced.last]
  by_cases same : d' = d
  · simp only [same, if_true] at *; omega
  · simp only [same, if_false] at *; omega

theorem Room.flowInv {s : FlowSt} {n : ℤ} (struct : StructInv s) (room : Room d s n) (nonneg : 0 ≤ n) :
    FlowInv s :=
  ⟨struct, fun d' => by have := room d'; split at this <;> omega⟩

theorem held_setIbuf_of_inject (s : FlowSt) (d d' : Bool) {b : CfiBuf}
    (same : b.cfiInjectQ = (s.ibuf d).cfiInjectQ) : held (s.setIbuf d b) d' = held s d' := by
  have := held_setIbuf s d d' b
  rw [same] at this
  split at this <;> omega

theorem Room.setIbuf {s : FlowSt} {n m : ℤ} (struct : StructInv s) (room : Room d s n) (b : CfiBuf)
    (inject : b.cfiInjectQ = (s.ibuf d).cfiInjectQ)
    (width : (b.cfiPendingLast : ℤ) - b.cfiPendingFirst = (s.ibuf d).cfiPendingLast - (s.ibuf d).cfiPendingFirst + m)
    (nonneg : 0 ≤ n + m) :
    StructInv (s.setIbuf d b) ∧ Room d (s.setIbuf d b) (n + m) := by
  have same : ∀ d', held (s.setIbuf d b) d' = held s d' := fun d' => held_setIbuf_of_inject s d d' inject
  have room' : Room d (s.setIbuf d b) (n + m) := fun d' => by
    have := room d'
    rw [ibuf_setIbuf_apply, same]
    by_cases here : d' = d
    · subst d'; simp only [if_true] at *; omega
    · simpa only [here, if_false] using this
  refine ⟨⟨fun k d' => by simpa using struct.entries k d', fun d' => ?_, fun d' => ?_, by simpa using struct.sane⟩, room'⟩
  · rw [ibuf_setIbuf_apply]; split
    · rw [inject]; exact struct.inject d
    · exact struct.inject d'
  · have := room' d'
    have := Nat.zero_le (held (s.setIbuf d b) d')
    by_cases here : d' = d
    · simp only [here, if_true] at *; omega
    · simp only [here, if_false] at *; omega

theorem Room.kept_setIbuf {s s₀ : FlowSt} {n : ℤ} (struct : StructInv s) (nonneg : 0 ≤ n) (room : Room d s n)
    (shut : s.tailFlags = s₀.tailFlags) {b : CfiBuf}
    (inject : b.cfiInjectQ = (s.ibuf d).cfiInjectQ) (first : b.cfiPendingFirst = (s.ibuf d).cfiPendingFirst)
    (last : b.cfiPendingLast = (s.ibuf d).cfiPendingLast) : Kept s₀ (s.setIbuf d b) :=
  have written := room.setIbuf d struct b (m := 0) inject (by omega) (by omega)
  ⟨written.2.flowInv d written.1 (by omega), by simpa using shut⟩

theorem StructInv.bufVerify {s : FlowSt} (struct : StructInv s) (d : Bool) : cfilInfoBufVerify (s.ibuf d) = true := by
  simp [cfilInfoBufVerify, (struct.inject d).verify, struct.window d]

theorem Room.enter {s : FlowSt} {n : ℤ} (struct : StructInv s) (room : Room d s n) (nonneg : 0 ≤ n)
    (data : Chain) :
    StructInv (pendingAdmit env d data s) ∧ Room d (pendingAdmit env d data s) (n + dataLen data) :=
  room.setIbuf d struct _ rfl (by simp; omega) (by omega)

theorem Room.setIbuf_verify {s : FlowSt} {n m : ℤ} (struct : StructInv s) (room : Room d s n) {b : CfiBuf}
    (inject : b.cfiInjectQ = (s.ibuf d).cfiInjectQ)
    (width : (b.cfiPendingLast : ℤ) - b.cfiPendingFirst = (s.ibuf d).cfiPendingLast - (s.ibuf d).cfiPendingFirst + m)
    (nonneg : 0 ≤ n + m) :
    StructInv ((s.setIbuf d b).verify (cfilInfoBufVerify b)) ∧
      Room d ((s.setIbuf d b).verify (cfilInfoBufVerify b)) (n + m) := by
  have written := room.setIbuf d struct b inject width nonneg
  rwa [verify_of (by simpa using written.1.bufVerify d)]

theorem Room.leave {s : FlowSt} {n : ℤ} (struct : StructInv s) (room : Room d s n) (data : Chain)
    (enough : dataLen data ≤ n) :
    StructInv (pendingRelease env d data s) ∧ Room d (pendingRelease env d data s) (n - dataLen data) := by
  unfold ContentFilter.pendingRelease cfilDataLength
  exact room.setIbuf_verify d struct rfl (by simp; omega) (by omega)

theorem injectDequeue_kept (s : FlowSt) (inv : FlowInv s) {data : Chain} {rest : List Chain}
    (head : (s.ibuf d).cfiInjectQ.qMq = data :: rest) : Kept s (injectDequeue env d data s) := by
  have valid := inv.struct.inject d
  have removed := Serviced.setInject (d := d) inv.struct _ (valid.remove head)
  rw [size_of_cons head] at removed
  have released := (inv.room d |>.serviced d removed).leave env d removed.inv data (by omega)
  unfold injectDequeue
  rw [removeQ_eq s data (.inject d) valid head]
  exact ⟨released.2.flowInv d released.1 (by omega), by simp [pendingRelease, FlowSt.queue]⟩

theorem injectLoop_kept : ∀ fuel error s, FlowInv s → Kept s (injectLoop env d fuel error s).1
  | 0, _, s, inv => .refl inv
  | fuel + 1, error, s, inv => by
    unfold injectLoop
    split
    · exact .refl inv
    · rename_i data rest head
      have dequeued := injectDequeue_kept env d s inv head
      dsimp only
      generalize injectDequeue env d data s = s₁ at dequeued ⊢
      split
      · have handed := dequeued.trans (Kept.ticksSock dequeued.inv (s₁.ticks + 1)
          { s₁.sock with soSndPassed := s₁.sock.soSndPassed ++ [data] } rfl rfl)
        split
        · exact handed
        · exact handed.trans (injectLoop_kept fuel _ _ handed.inv)
      · have handed := dequeued.trans (Kept.sock dequeued.inv
          { s₁.sock with soRcvPassed := s₁.sock.soRcvPassed ++ [data] } rfl rfl)
        exact handed.trans (injectLoop_kept fuel _ _ handed.inv)

theorem setRetryInject_kept (s : FlowSt) (inv : FlowInv s) (retry : Bool) :
    Kept s (setRetryInject d s retry) :=
  .setIflags inv _ (by cases d <;> rfl)

theorem serviceInjectQueue_kept (s : FlowSt) (inv : FlowInv s) (quiet : s.tailFlags = (false, false, false)) :
    Kept s (cfilServiceInjectQueue env d s).1 :=
  serviceInjectQueue_of_steps env d (Kept s) (.refl inv)
    (fun t retry kept => kept.trans (setRetryInject_kept d t kept.inv retry))
    (fun fuel error t kept => kept.trans (injectLoop_kept env d fuel error t kept.inv))
    (fun t kept => by
      rw [serviceInjectTail_quiet env (kept.tailFlags.trans quiet)]
      exact kept.trans (.of_eventsOnly kept.inv (wakeCloseWait_events t)))
    (fun _ kept => kept.verifyInfo)

/-- Where the slow path of `cfil_data_common` lands: the chain taken by an entry or let
through by all, or a failed concatenation that moved nothing. -/
def SlowMoves (data : Chain) (s : FlowSt) : Except FlowSt (FlowSt × Errno) → Prop
  | .ok r => Moves d (if r.2 = .ok then 0 else {data}) 0 s r.1
  | .error s' => Moves d 0 0 s s'

theorem SlowMoves.after {data : Chain} {s s₁ : FlowSt} {x : Except FlowSt (FlowSt × Errno)}
    (first : Moves d 0 0 s s₁) (land : SlowMoves d data s₁ x) : SlowMoves d data s x := by
  cases x <;> exact (first.trans land).of_eq (zero_add _) (zero_add _)

theorem dataCommonSlowPath_moves (data : Chain) (positive : 0 < dataLen data) :
    ∀ order chained s, Shaped s → SlowMoves d data s (dataCommonSlowPath env d data order chained .ok s)
  | [], _, s, shaped => by simpa [dataCommonSlowPath, SlowMoves] using Moves.refl (d := d) shaped
  | k :: rest, chained, s, shaped => by
    have filter : ∀ chained' s₀, Moves d 0 0 s s₀ →
        SlowMoves d data s (let (s₁, error) := cfilDataFilter env d k data s₀
          if error ≠ .ok then .ok (s₁, error) else dataCommonSlowPath env d data rest chained' error s₁) := by
      intro chained' s₀ before
      have filtered : Moves d (if (cfilDataFilter env d k data s₀).2 = .ok then 0 else {data}) 0 s₀
          (cfilDataFilter env d k data s₀).1 :=
        dataFilterWith_moves env (downstream_good env _) k data s₀ before.shaped positive
      generalize cfilDataFilter env d k data s₀ = r at filtered ⊢
      obtain ⟨s₁, error⟩ := r
      dsimp only at filtered ⊢
      split
      · exact (before.trans filtered).of_eq (zero_add _) (zero_add _)
      · rename_i passed
        simp only [not_not] at passed
        subst passed
        exact SlowMoves.after d ((before.trans filtered).of_eq (by simp) (zero_add _))
          (dataCommonSlowPath_moves data positive rest chained' s₁ filtered.shaped)
    unfold dataCommonSlowPath
    split
    · split
      · dsimp only
        have counted : Moves d 0 0 s { s with ticks := s.ticks + 1 } :=
          .of_eventsOnly shaped ⟨fun _ _ => rfl, fun _ => rfl, fun _ => rfl, rfl, rfl, rfl, rfl, rfl, rfl, rfl, .of_eq rfl rfl⟩
        split
        · exact counted
        · exact filter true _ counted
      · exact filter chained s (.refl shaped)
    · simp only [ne_eq, not_true_eq_false, if_false]
      exact SlowMoves.after d (.refl shaped) (dataCommonSlowPath_moves data positive rest chained s shaped)

/-- The same landing in bytes. -/
def SlowLanding (n : Nat) (s : FlowSt) : Except FlowSt (FlowSt × Errno) → Prop
  | .ok r => Serviced d (if r.2 = .ok then 0 else n) s r.1
  | .error s' => Serviced d 0 s s'

theorem dataCommonSlowPath_lands (data : Chain) (positive : 0 < dataLen data) (order : List Kcunit)
    (chained : Bool) (s : FlowSt) (inv : StructInv s) :
    SlowLanding d (dataLen data) s (dataCommonSlowPath env d data order chained .ok s) := by
  have moved := dataCommonSlowPath_moves env d data positive order chained s inv.shaped
  generalize dataCommonSlowPath env d data order chained .ok s = x at moved ⊢
  cases x with
  | error s' => exact (moved.serviced inv.sane).of_eq (by simp)
  | ok r => exact (moved.serviced inv.sane).of_eq (by split <;> simp)

theorem dataCommon_kept (data : Chain) (s : FlowSt) (inv : FlowInv s) : Kept s (cfilDataCommon env d data s).1 := by
  unfold cfilDataCommon
  by_cases drop : s.info.cfiFlags.drop
  · rw [if_pos drop]; exact (Kept.refl inv).verifyInfo
  rw [if_neg drop]
  simp only [cfilDataLength]
  split
  · exact (Kept.refl inv).verifyInfo
  rename_i nonempty
  have entered := (inv.room d).enter env d inv.struct le_rfl data
  have shut₂ := pendingAdmit_tailFlags env d data s
  generalize pendingAdmit env d data s = s₂ at entered shut₂ ⊢
  obtain ⟨struct₂, room₂⟩ := entered
  split
  · exact room₂.kept_setIbuf d struct₂ (by omega) (by rw [shut₂]) rfl (by simp) (by simp)
  rw [verify_of (struct₂.bufVerify d)]
  generalize hx : (if (s₂.ibuf d).cfiPendingLast ≤ (s₂.ibuf d).cfiPassOffset then
      .ok (cfilUpdateEntryOffsets d (dataLen data) s₂, .ok)
      else dataCommonSlowPath env d data s₂.info.cfiOrderedEntries false .ok s₂) = x
  have landed : SlowLanding d (dataLen data) s₂ x := by
    subst hx
    split
    · exact updateEntryOffsets_serviced d _ s₂ struct₂
    · exact dataCommonSlowPath_lands env d data (Nat.pos_of_ne_zero nonempty) _ false s₂ struct₂
  have shut₃ : ∀ {n s₃}, Serviced d n s₂ s₃ → s₃.tailFlags = s.tailFlags :=
    fun serviced => by rw [serviced.tailFlags, shut₂]
  cases x with
  | error s₃ => exact ⟨(room₂.serviced d landed).flowInv d landed.inv (by omega), shut₃ landed⟩
  | ok r =>
    obtain ⟨s₃, error⟩ := r
    have room₃ := room₂.serviced d landed
    dsimp only [SlowLanding] at room₃ ⊢
    split
    · rename_i passed
      rw [if_pos passed] at room₃
      have released := room₃.leave env d landed.inv data (by omega)
      exact Kept.verifyInfo ⟨released.2.flowInv d released.1 (by omega), by simpa using shut₃ landed⟩
    · rename_i taken
      rw [if_neg taken] at room₃
      exact Kept.verifyInfo ⟨room₃.flowInv d landed.inv (by omega), shut₃ landed⟩

end ContentFilter
