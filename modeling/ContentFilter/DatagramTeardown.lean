import ContentFilter.DatagramRuns

/-! How the flows of a datagram socket end: garbage collection, shutdown and the close wait. -/

namespace ContentFilter

theorem actionTimedOut_of_behind {u : UdpInfo} {sh : Shared} (behind : GuardBehind (sh.flow u.info))
    (timeout : Int) (now : Timeval) : cfilInfoActionTimedOut u timeout now = cfilInfoEntriesTimedOut u timeout now := by
  unfold cfilInfoActionTimedOut
  split
  · rfl
  · rename_i quiet
    refine (List.any_eq_false.mpr fun k _ timedOut => ?_).symm
    simp only [Bool.and_eq_true, Bool.or_eq_true, decide_eq_true_eq] at timedOut
    obtain ⟨⟨attached, beyond⟩, _⟩ := timedOut
    have out := behind true k attached
    have inn := behind false k attached
    simp only [FlowSt.ibuf, FlowSt.ebuf, FlowSt.entry, Shared.flow_info, CfilInfo.buf, CfilEntry.buf, if_true,
      Bool.false_eq_true, if_false] at out inn
    omega

/-- On every run of a datagram socket, `cfil_info_action_timed_out` on a linked flow
answers as its loop over the agents alone would: the pre-check on the flow's pass offsets
is an exact shortcut. -/
theorem dgram_idle_precheck_exact {env : Env} {so : DgramSock} (reach : DgramReachable env so) :
    ∀ u ∈ so.linked, ∀ (timeout : Int) (now : Timeval),
      cfilInfoActionTimedOut u timeout now = cfilInfoEntriesTimedOut u timeout now :=
  fun u mem timeout now => actionTimedOut_of_behind (reach.inv.sound u mem so.shared).guarded.behind timeout now

theorem oneFlowSock_idle_precheck_exact :
    oneFlowSock.linked.map (fun u => cfilInfoActionTimedOut u 10 ⟨20, 0⟩) =
      oneFlowSock.linked.map (fun u => cfilInfoEntriesTimedOut u 10 ⟨20, 0⟩) :=
  List.map_congr_left fun u mem => dgram_idle_precheck_exact oneFlowSock_reachable u mem 10 ⟨20, 0⟩

section Gc

variable (env : Env) {so : DgramSock} {idx : Nat} {e : SoflowHashEntry} {u : UdpInfo} {now : Timeval}

theorem step_gc (found : so.entry? idx = some e) (linked : e.soflowFeatCtxt = some u)
    (needed : cfilDgramGcNeeded now e = true) :
    ∃ sh : Shared, sh.panicked = so.shared.panicked ∧ so.step env (.gc now idx) =
      (cfilSockUdpUnlinkFlow { so with shared := sh }).setEntry idx
        { e with soflowFeatCtxt := none, soflowFeatCtxtId := 0 } := by
  refine ⟨((List.finRange maxContentFilter).foldl (fun s k => (cfilDispatchClosedEvent env k s).1)
    (so.shared.flow u.info)).shared, (closedEvents_events env _).panicked, ?_⟩
  simp only [DgramSock.step, found, needed, Bool.not_true, Bool.false_eq_true, if_false, cfilDgramGcPerform, linked,
    if_true]
  exact DgramSock.mapEntry_of_entry? ((DgramSock.entry?_unlinkFlow _).trans found) _

end Gc

/-- On every run of a datagram socket, collecting an entry that needs it takes away exactly
its flow and the reference that flow held on the socket, keeps the entry, and never fails
`VERIFY(so->so_usecount > 0)` (the agents' `SOCKET_CLOSED` events latch no check either). -/
theorem gc_releases_one_flow {env : Env} {so : DgramSock} (reach : DgramReachable env so) {now : Timeval}
    {idx : Nat} (needed : (so.entry? idx).any (cfilDgramGcNeeded now) = true) :
    (so.step env (.gc now idx)).soUsecount + 1 = so.soUsecount ∧
      (so.step env (.gc now idx)).linked.length + 1 = so.linked.length ∧
      ((so.step env (.gc now idx)).entry? idx).map (·.soflowFeatCtxt) = some none ∧
      (so.step env (.gc now idx)).shared.panicked = so.shared.panicked := by
  have inv := reach.inv
  cases found : so.entry? idx with
  | none => simp [found] at needed
  | some e =>
    simp only [found, Option.any_some] at needed
    cases linked : e.soflowFeatCtxt with
    | none => simp [cfilDgramGcNeeded, linked] at needed
    | some u =>
      have filtered := inv.linked_ne_nil found linked
      have length := DgramSock.length_linked_setEntry found { e with soflowFeatCtxt := none, soflowFeatCtxtId := 0 }
      simp only [linked, Option.isSome_some, Option.isSome_none, if_true, Bool.false_eq_true, if_false,
        add_zero] at length
      have held : 0 < so.soUsecount := by have := inv.refs; omega
      obtain ⟨sh, closed, gc⟩ := step_gc env found linked needed
      have filtered' : ({ so with shared := sh } : DgramSock).soContentFilter = true := filtered
      rw [gc]
      refine ⟨?_, ?_, ?_, ?_⟩
      · show (cfilSockUdpUnlinkFlow _).soUsecount + 1 = _
        rw [DgramSock.unlinkFlow_usecount filtered']
        exact Nat.sub_add_cancel held
      · rw [DgramSock.linked_unlinkFlow_setEntry]
        exact length
      · rw [DgramSock.entry?_setEntry ((DgramSock.entry?_unlinkFlow sh).trans found)]
        rfl
      · simp only [DgramSock.setEntry, cfilSockUdpUnlinkFlow, filtered, if_true, Shared.verify, decide_eq_true held]
        exact closed

theorem oneFlowSock_gc_releases_flow :
    (oneFlowSock.entry? 0).any (cfilDgramGcNeeded ⟨20, 0⟩) = true ∧
      (oneFlowSock.step demoKernel (.gc ⟨20, 0⟩ 0)).soUsecount + 1 = oneFlowSock.soUsecount ∧
      (oneFlowSock.step demoKernel (.gc ⟨20, 0⟩ 0)).linked.length + 1 = oneFlowSock.linked.length ∧
      ((oneFlowSock.step demoKernel (.gc ⟨20, 0⟩ 0)).entry? 0).map (·.soflowFeatCtxt) = some none ∧
      (oneFlowSock.step demoKernel (.gc ⟨20, 0⟩ 0)).shared.panicked = oneFlowSock.shared.panicked :=
  have needed : (oneFlowSock.entry? 0).any (cfilDgramGcNeeded ⟨20, 0⟩) = true := by decide
  ⟨needed, gc_releases_one_flow oneFlowSock_reachable needed⟩

section Apply

variable {σ : Type} (callback : σ → SoflowHashEntry → σ × SoflowHashEntry × Bool)

theorem soflowDbApply_mem (P : SoflowHashEntry → Prop) (made : ∀ acc e, P (callback acc e).2.1 ∧ (callback acc e).2.2 = true) :
    ∀ acc db, ∀ e ∈ (soflowDbApply callback acc db).2, P e
  | _, [] => by simp [soflowDbApply]
  | acc, e :: rest => by
    have head := made acc e
    unfold soflowDbApply
    generalize callback acc e = r at head ⊢
    obtain ⟨acc', e', more⟩ := r
    obtain ⟨settled, rfl⟩ := head
    rintro x (_ | ⟨_, mem⟩)
    · exact settled
    · exact soflowDbApply_mem P made acc' rest x mem

theorem soflowDbApply_fixed {α : Type} (keep : σ → α) :
    ∀ acc db, (∀ e ∈ db, ∀ acc, (callback acc e).2 = (e, true) ∧ keep (callback acc e).1 = keep acc) →
      (soflowDbApply callback acc db).2 = db ∧ keep (soflowDbApply callback acc db).1 = keep acc
  | _, [], _ => ⟨rfl, rfl⟩
  | acc, e :: rest, fixed => by
    obtain ⟨same, kept⟩ := fixed e (.head _) acc
    unfold soflowDbApply
    generalize callback acc e = r at same kept ⊢
    obtain ⟨acc', e', more⟩ := r
    obtain ⟨rfl, rfl⟩ := Prod.mk.inj same
    obtain ⟨tail, kept'⟩ := soflowDbApply_fixed keep acc' rest fun x mem => fixed x (.tail _ mem)
    exact ⟨congrArg (List.cons _) tail, kept'.trans kept⟩

theorem soflowDbApply_state (P : σ → Prop) (keeps : ∀ acc e, P acc → P (callback acc e).1) :
    ∀ acc db, P acc → P (soflowDbApply callback acc db).1
  | _, [], held => held
  | acc, e :: rest, held => by
    have head := keeps acc e held
    unfold soflowDbApply
    generalize callback acc e = r at head ⊢
    obtain ⟨acc', e', more⟩ := r
    cases more
    · exact head
    · exact soflowDbApply_state P keeps acc' rest head

end Apply

namespace ShutFlag

theorem test_set {shutFlag : ShutFlag} (shut : shutFlag ≠ .none) (f : CfiFlags) : shutFlag.test (shutFlag.set f) = true := by
  cases shutFlag <;> first | exact absurd rfl shut | rfl

theorem test_of_eventsOnly (shutFlag : ShutFlag) {s s' : FlowSt} (events : EventsOnly s s') :
    shutFlag.test s'.info.cfiFlags = shutFlag.test s.info.cfiFlags := by
  cases shutFlag <;> simp only [test, events.shutRd, events.shutWr]

end ShutFlag

/-- An entry a shutdown notification with `shutFlag` is done with: its flow, if any, is
dropped (when drops count) or already marked shut. -/
def ShutSettled (dropFlag : Bool) (shutFlag : ShutFlag) (e : SoflowHashEntry) : Prop :=
  ∀ u, e.soflowFeatCtxt = some u → (dropFlag && u.info.cfiFlags.drop) = true ∨ shutFlag.test u.info.cfiFlags = true

section Notify

variable (env : Env) (shutRd shutWr dropFlag : Bool) {shutFlag : ShutFlag} {so : DgramSock}

theorem notifyShutdownPerFlow_settled (shut : shutFlag ≠ .none) (acc : Shared × Nat) (e : SoflowHashEntry) :
    ShutSettled dropFlag shutFlag (cfilSockUdpNotifyShutdownPerFlow env shutRd shutWr dropFlag shutFlag acc e).2.1 := by
  unfold cfilSockUdpNotifyShutdownPerFlow
  split
  · rename_i none
    intro v same
    rw [none] at same
    cases same
  · rename_i u linked
    split_ifs with dropped flagged
    · exact fun v same => .inl (by cases linked.symm.trans same; exact dropped)
    · exact fun v same => .inr (by cases linked.symm.trans same; exact flagged)
    · rintro v ⟨⟩
      right
      simp only [Shared.run, ShutFlag.test_of_eventsOnly shutFlag (notifyShutdownFlow_events env shutRd shutWr _),
        Shared.flow_info, ShutFlag.test_set shut]

theorem notifyShutdownPerFlow_continues (acc : Shared × Nat) (e : SoflowHashEntry) :
    (cfilSockUdpNotifyShutdownPerFlow env shutRd shutWr dropFlag shutFlag acc e).2.2 = true := by
  unfold cfilSockUdpNotifyShutdownPerFlow
  split
  · rfl
  · split_ifs <;> rfl

theorem notifyShutdownPerFlow_of_settled {e : SoflowHashEntry} (settled : ShutSettled dropFlag shutFlag e)
    (acc : Shared × Nat) :
    (cfilSockUdpNotifyShutdownPerFlow env shutRd shutWr dropFlag shutFlag acc e).2 = (e, true) ∧
      (cfilSockUdpNotifyShutdownPerFlow env shutRd shutWr dropFlag shutFlag acc e).1.1 = acc.1 := by
  unfold cfilSockUdpNotifyShutdownPerFlow
  split
  · exact ⟨rfl, rfl⟩
  · rename_i u linked
    rcases settled u linked with dropped | flagged
    · simp [dropped]
    · by_cases dropped : (dropFlag && u.info.cfiFlags.drop) = true
      · simp [dropped]
      · simp [dropped, flagged]

theorem notifyShutdown_inactive (inactive : ¬(so.soContentFilter = true ∧ so.soFlowDb.isSome = true)) :
    (cfilSockUdpNotifyShutdown env shutRd shutWr dropFlag shutFlag so).1 = so := by
  unfold cfilSockUdpNotifyShutdown
  split
  · rename_i filtered db; simp [filtered, db] at inactive
  · rfl

end Notify

/-- A shutdown notification of either half repeated on the same socket changes nothing:
no flow is marked again and no agent is sent a second disconnect event. -/
theorem notifyShutdown_repeat_changes_nothing (env : Env) (shutRd shutWr dropFlag : Bool) {shutFlag : ShutFlag}
    (shut : shutFlag ≠ .none) (so : DgramSock) :
    (cfilSockUdpNotifyShutdown env shutRd shutWr dropFlag shutFlag
        (cfilSockUdpNotifyShutdown env shutRd shutWr dropFlag shutFlag so).1).1 =
      (cfilSockUdpNotifyShutdown env shutRd shutWr dropFlag shutFlag so).1 := by
  by_cases active : so.soContentFilter = true ∧ so.soFlowDb.isSome = true
  · obtain ⟨filtered, db⟩ := active
    obtain ⟨db, db_eq⟩ := Option.isSome_iff_exists.mp db
    have settled := soflowDbApply_mem _ (ShutSettled dropFlag shutFlag)
      (fun acc e => ⟨notifyShutdownPerFlow_settled env shutRd shutWr dropFlag shut acc e,
        notifyShutdownPerFlow_continues env shutRd shutWr dropFlag acc e⟩) (so.shared, 0) db
    simp only [cfilSockUdpNotifyShutdown, filtered, db_eq]
    generalize soflowDbApply (cfilSockUdpNotifyShutdownPerFlow env shutRd shutWr dropFlag shutFlag) (so.shared, 0) db = r
      at settled ⊢
    have fixed := soflowDbApply_fixed (cfilSockUdpNotifyShutdownPerFlow env shutRd shutWr dropFlag shutFlag) Prod.fst
      (r.1.1, 0) r.2 fun e mem acc => notifyShutdownPerFlow_of_settled env shutRd shutWr dropFlag (settled e mem) acc
    simp only [fixed.1, fixed.2]
  · rw [notifyShutdown_inactive env shutRd shutWr dropFlag active, notifyShutdown_inactive env shutRd shutWr dropFlag active]

theorem oneFlowSock_write_notify_repeat_changes_nothing :
    ShutFlag.wr ≠ .none ∧
      (cfilSockUdpNotifyShutdown demoKernel false true true .wr
          (cfilSockUdpNotifyShutdown demoKernel false true true .wr oneFlowSock).1).1 =
        (cfilSockUdpNotifyShutdown demoKernel false true true .wr oneFlowSock).1 :=
  ⟨by decide, notifyShutdown_repeat_changes_nothing demoKernel false true true (by decide) oneFlowSock⟩

namespace DgramInv

variable {msize : Nat} {so : DgramSock}

theorem linked_eq_nil (inv : DgramInv msize so) (unfiltered : so.soContentFilter = false ∨ so.soFlowDb = none) :
    so.linked = [] := by
  rcases unfiltered with unfiltered | none
  · by_contra live
    simp [inv.marked live] at unfiltered
  · simp [DgramSock.linked, none]

end DgramInv

theorem dataPendingPerFlow_eq_zero {outgoing : Bool} : ∀ (db : List SoflowHashEntry) (total : Nat),
    db.foldl (cfilSockUdpDataPendingPerFlow outgoing) total = 0 → total = 0 ∧
      ∀ u ∈ db.filterMap (·.soflowFeatCtxt),
        (u.info.buf outgoing).cfiPendingLast - (u.info.buf outgoing).cfiPendingFirst = 0
  | [], total, zero => ⟨zero, by simp⟩
  | e :: db, total, zero => by
    obtain ⟨head, rest⟩ := dataPendingPerFlow_eq_zero db _ zero
    unfold cfilSockUdpDataPendingPerFlow at head
    cases linked : e.soflowFeatCtxt with
    | none =>
      simp only [linked] at head
      exact ⟨head, by simpa [List.filterMap_cons, linked] using rest⟩
    | some u =>
      simp only [linked] at head
      refine ⟨by omega, ?_⟩
      simp only [List.filterMap_cons, linked, List.mem_cons]
      rintro v (rfl | mem)
      · split at head <;> omega
      · exact rest v mem

theorem dataPending_inactive {outgoing : Bool} {so : DgramSock}
    (inactive : so.soContentFilter = false ∨ so.soFlowDb = none) : cfilSockUdpDataPending outgoing so = (so, 0) := by
  unfold cfilSockUdpDataPending
  split
  · rename_i filtered db; rcases inactive with h | h <;> simp [h] at filtered db
  · rfl

theorem DgramInv.dataPending_holdsNothing {msize : Nat} {so : DgramSock} (inv : DgramInv msize so)
    (positive : 0 < msize) (outgoing : Bool) (zero : (cfilSockUdpDataPending outgoing so).2 = 0) :
    ∀ u ∈ (cfilSockUdpDataPending outgoing so).1.linked, ∀ sh : Shared, HoldsNothing (sh.flow u.info) outgoing := by
  by_cases active : so.soContentFilter = true ∧ so.soFlowDb.isSome = true
  · obtain ⟨filtered, db⟩ := active
    obtain ⟨entries, db⟩ := Option.isSome_iff_exists.mp db
    simp only [cfilSockUdpDataPending, filtered, db] at zero ⊢
    intro u linked sh
    have mem : u ∈ entries.filterMap (·.soflowFeatCtxt) := linked
    have window := (dataPendingPerFlow_eq_zero entries 0 zero).2 u mem
    have acc := (inv.sound u (by simpa only [DgramSock.linked, db, Option.getD_some] using mem) sh).transit.acc
    exact heldChains_eq_zero_iff.mp ((acc.counted outgoing).heldChains_eq_zero acc.shaped positive (.inl window))
  · have inactive : so.soContentFilter = false ∨ so.soFlowDb = none := by
      cases h : so.soContentFilter <;> cases h' : so.soFlowDb <;> simp_all
    rw [dataPending_inactive inactive, inv.linked_eq_nil inactive]
    exact fun _ none => nomatch none

/-- On every run of a datagram socket, a write shutdown that `cfil_sock_udp_shutdown` lets go
on at once leaves no linked flow holding an outgoing chain. -/
theorem udp_write_shutdown_waits_for_held_data {env : Env} {so : DgramSock} (reach : DgramReachable env so)
    (positive : 0 < env.msize) {shutRd : Bool} (done : (cfilSockUdpShutdown env shutRd true so).2 = (.ok, false)) :
    ∀ u ∈ (cfilSockUdpShutdown env shutRd true so).1.linked, ∀ sh : Shared, HoldsNothing (sh.flow u.info) true := by
  have inv := reach.inv
  have read : DgramInv env.msize (if shutRd then cfilSockUdpNotifyShutdown env true false true .rd so else (so, .ok)).1 := by
    split
    · exact inv.notifyShutdown env true false true .rd
    · exact inv
  unfold cfilSockUdpShutdown at done ⊢
  generalize (if shutRd then _ else _ : DgramSock × Errno) = r at read done ⊢
  obtain ⟨so₁, error⟩ := r
  dsimp only at done ⊢
  have written := read.notifyShutdown env false true true .wr
  generalize cfilSockUdpNotifyShutdown env false true true .wr so₁ = r at written done ⊢
  obtain ⟨so₂, error₂⟩ := r
  dsimp only at done ⊢
  have held := written.dataPending_holdsNothing positive true
  generalize cfilSockUdpDataPending true so₂ = r at held done ⊢
  obtain ⟨so₃, total⟩ := r
  dsimp only at held done ⊢
  by_cases unfiltered : (!so.soContentFilter || so.soFlowDb.isNone) = true
  · rw [if_pos unfiltered, inv.linked_eq_nil (by simpa [Bool.or_eq_true, Option.isNone_iff_eq_none] using unfiltered)]
    exact fun _ none => nomatch none
  rw [if_neg unfiltered] at done ⊢
  by_cases closedRd : (shutRd && so.shared.sock.soCantRcvMore) = true
  · rw [if_pos closedRd] at done; cases done
  rw [if_neg closedRd] at done ⊢
  by_cases closedWr : (true && so.shared.sock.soCantSendMore) = true
  · rw [if_pos closedWr] at done; cases done
  rw [if_neg closedWr] at done ⊢
  by_cases failed : error ≠ .ok
  · rw [if_pos failed] at done; exact absurd (congrArg Prod.fst done) failed
  rw [if_neg failed, if_neg (by decide : ¬(!true) = true)] at done ⊢
  by_cases failed₂ : error₂ ≠ .ok
  · rw [if_pos failed₂] at done; exact absurd (congrArg Prod.fst done) failed₂
  rw [if_neg failed₂] at done ⊢
  by_cases pending : total ≠ 0
  · rw [if_pos pending] at done
    split at done <;> cases done
  rw [if_neg pending]
  exact held (not_not.mp pending)

/-- The socket of `oneFlowSock` once its agent passed everything outgoing: the byte goes on
to the protocol. -/
def passedFlowSock : DgramSock :=
  oneFlowSock.step demoKernel
    (.action 0 (.dataUpdate demoKernel.cfmMaxOffset demoKernel.cfmMaxOffset 0 0) ⟨1, 0⟩ (udpSockId 5 7))

theorem passedFlowSock_write_shutdown_clean :
    (cfilSockUdpShutdown demoKernel false true passedFlowSock).2 = (.ok, false) ∧
      ∀ u ∈ (cfilSockUdpShutdown demoKernel false true passedFlowSock).1.linked, ∀ sh : Shared,
        HoldsNothing (sh.flow u.info) true :=
  have done : (cfilSockUdpShutdown demoKernel false true passedFlowSock).2 = (.ok, false) := by decide
  ⟨done, udp_write_shutdown_waits_for_held_data (.step _ oneFlowSock_reachable) (by decide) done⟩

/-- Before the verdict, the same shutdown is put off. -/
example : (cfilSockUdpShutdown demoKernel false true oneFlowSock).2 = (.ejustreturn, false) := by decide

theorem filtersAttachedPerFlow_timedOut (attached : Bool) (e : SoflowHashEntry) :
    (cfilFiltersUdpAttachedPerFlow true .timedOut attached e).1 = attached := by
  unfold cfilFiltersUdpAttachedPerFlow
  split
  · rfl
  · split <;> rfl

theorem filtersAttached_timedOut (so : DgramSock) : (cfilFiltersUdpAttached true .timedOut so).2 = false := by
  unfold cfilFiltersUdpAttached
  split
  · exact soflowDbApply_state _ (· = false) (fun acc e held => (filtersAttachedPerFlow_timedOut acc e).trans held)
      false _ rfl
  · rfl

/-- Once a sleep of `cfil_sock_udp_close_wait` times out, the wait returns: the sleeps
that would follow are never slept, whatever they would be. -/
theorem closeWait_ends_at_timeout (env : Env) : ∀ (before rest : List SleepEnd) (so : DgramSock),
    cfilSockUdpCloseWait env (before ++ .timedOut :: rest) so = cfilSockUdpCloseWait env (before ++ [.timedOut]) so
  | [], rest, so => by
    simp only [List.nil_append, cfilSockUdpCloseWait, filtersAttached_timedOut, Bool.not_false, if_true]
  | sleep :: before, rest, so => by
    simp only [List.cons_append, cfilSockUdpCloseWait, List.append_eq, closeWait_ends_at_timeout env before rest]

end ContentFilter
