import ContentFilter.Siblings
import ContentFilter.DebugChecks
import ContentFilter.FastPathGuard
import ContentFilter.PendingTransit

/-! Every linked flow of a datagram socket keeps the single-flow invariants on every run. -/

namespace ContentFilter

/-- What every run of a flow keeps. -/
structure FlowSound (msize : Nat) (s : FlowSt) : Prop where
  transit : Transit msize s
  guarded : Guarded s

namespace FlowSound

variable {msize : Nat} {s s' : FlowSt}

theorem of_info (sound : FlowSound msize s) (same : s'.info = s.info) : FlowSound msize s' where
  transit := sound.transit.of_bufs (fun k d => by simp only [FlowSt.ebuf, FlowSt.entry, same])
    (fun d => by simp only [FlowSt.ibuf, same]) (by rw [same])
  guarded := sound.guarded.of_kept (.of_entries fun k => by simp only [FlowSt.entry, same]) (by rw [same])
    fun d => by simp only [FlowSt.ibuf, same, and_self]

theorem of_eventsOnly (sound : FlowSound msize s) (events : EventsOnly s s') : FlowSound msize s' :=
  ⟨sound.transit.of_eventsOnly events, sound.guarded.of_eventsOnly events⟩

theorem of_infoMoved (sound : FlowSound msize s) (moved : InfoMoved s.info s'.info) : FlowSound msize s' :=
  ⟨sound.transit.of_bufs moved.entryBuf moved.buf moved.ordered,
    sound.guarded.of_kept ⟨moved.entryBuf, moved.cfeFilter⟩ moved.ordered fun d => by
      rw [show s'.ibuf d = s.ibuf d from moved.buf d]; exact ⟨rfl, rfl⟩⟩

theorem setIflags (sound : FlowSound msize s) (f : CfiFlags) : FlowSound msize (s.setIflags f) :=
  ⟨sound.transit.setIflags f, sound.guarded.setIflags f⟩

theorem setEflags (sound : FlowSound msize s) (k : Kcunit) (f : CfeFlags) : FlowSound msize (s.setEflags k f) :=
  sound.of_eventsOnly (EventsOnly.setEflags s k f)

theorem verify (sound : FlowSound msize s) (c : Bool) : FlowSound msize (s.verify c) :=
  sound.of_info (verify_info s c)

variable (env : Env)

theorem step (r : FlowRun) (sound : FlowSound env.msize r.st) (op : FlowOp) : FlowSound env.msize (r.step env op).st :=
  ⟨FlowRun.step_transit env r sound.transit op, FlowRun.step_guarded env r sound.guarded op⟩

theorem dataCommon (sound : FlowSound env.msize s) (d : Bool) (data : Chain) :
    FlowSound env.msize (cfilDataCommon env d data s).1 :=
  ⟨dataCommon_transit env d data s sound.transit, sound.guarded.dataCommon env d data⟩

theorem actionDataPass (sound : FlowSound env.msize s) (d : Bool) (k : Kcunit) (passOffset peekOffset : Nat) :
    FlowSound env.msize (cfilActionDataPass env d k passOffset peekOffset s).1 :=
  ⟨actionDataPass_transit env d k passOffset peekOffset s sound.transit,
    sound.guarded.actionDataPass env d k passOffset peekOffset⟩

theorem actionDrop (sound : FlowSound msize s) (k : Kcunit) : FlowSound msize (cfilActionDrop k s).1 :=
  ⟨sound.transit.actionDrop k, sound.guarded.actionDrop k⟩

theorem ctlActionDgram (sound : FlowSound env.msize s) (k : Kcunit) (action : CfilAction) :
    FlowSound env.msize (cfilCtlActionDgram env k action s).1 := by
  have passIf : ∀ d passOffset peekOffset (t : FlowSt) (c : Bool), FlowSound env.msize t →
      FlowSound env.msize (if c then cfilActionDataPass env d k passOffset peekOffset t else (t, .ok)).1 :=
    fun d passOffset peekOffset t c held => by
      split
      · exact held.actionDataPass env d k passOffset peekOffset
      · exact held
  cases action with
  | drop => exact sound.actionDrop k
  | dataUpdate outPass outPeek inPass inPeek =>
    have out := passIf true outPass outPeek s (outPeek ≠ 0 || outPass ≠ 0) sound
    unfold cfilCtlActionDgram
    dsimp only
    generalize (if outPeek ≠ 0 || outPass ≠ 0 then _ else _) = r at out ⊢
    obtain ⟨s₁, error⟩ := r
    dsimp only at out ⊢
    by_cases failed : (if error = .ejustreturn then .ok else error) ≠ .ok
    · rw [if_pos failed]; exact out
    · rw [if_neg failed]; exact passIf false inPass inPeek s₁ _ out

theorem ctlSendDgram (sound : FlowSound env.msize s) (k : Kcunit) (action : CfilAction) (now : Timeval) (u : UdpInfo) :
    FlowSound env.msize (cfilCtlSendDgram env k action now s u).1.1 := by
  unfold cfilCtlSendDgram
  split_ifs
  · exact sound
  · exact sound
  · exact sound
  · exact (sound.setEflags k _).ctlActionDgram env k action

end FlowSound

/-- A datagram flow whose `cfil_info` keeps the single-flow invariants, whatever it
shares with the other flows. -/
def UdpInfo.Sound (msize : Nat) (u : UdpInfo) : Prop := ∀ sh : Shared, FlowSound msize (sh.flow u.info)

theorem UdpInfo.Sound.run {msize : Nat} {u : UdpInfo} (sound : u.Sound msize) (sh : Shared) {call : FlowSt → FlowSt}
    (keeps : ∀ t, FlowSound msize t → FlowSound msize (call t)) : (sh.run u call).2.Sound msize :=
  fun _ => (keeps _ (sound sh)).of_info rfl

namespace UdpInfo.Sound

variable {msize : Nat} {u : UdpInfo}

theorem setFlags (sound : u.Sound msize) (f : CfiFlags) :
    ({ u with info := { u.info with cfiFlags := f } } : UdpInfo).Sound msize :=
  fun sh => ((sound sh).setIflags f).of_info rfl

theorem closeWait (sound : u.Sound msize) (k : Kcunit) (sleep : SleepEnd) : (closeWaitOn k sleep u).Sound msize := by
  have cleared := sound.setFlags { u.info.cfiFlags with closeWait := false }
  cases sleep with
  | woken => exact cleared
  | timedOut => exact fun sh => ((cleared sh).setEflags k _).of_info rfl

theorem moved (sound : u.Sound msize) {i : CfilInfo} (moved : InfoMoved u.info i) :
    ({ u with info := i } : UdpInfo).Sound msize :=
  fun sh => (sound sh).of_infoMoved moved

theorem lend (sound : u.Sound msize) (so : DgramSock) (idx : Nat) : FlowSound msize (so.lend idx u.info) :=
  (sound so.shared).of_info rfl

end UdpInfo.Sound

/-- A flow that holds nothing, counts nothing and has every offset zero. -/
def Fresh (s : FlowSt) : Prop := (∀ k d, s.ebuf k d = {}) ∧ ∀ d, s.ibuf d = {}

namespace Fresh

variable {s s' : FlowSt}

theorem of_eventsOnly (fresh : Fresh s) (events : EventsOnly s s') : Fresh s' :=
  ⟨fun k d => by rw [events.ebuf, fresh.1], fun d => by rw [events.ibuf, fresh.2]⟩

theorem attachUnit (fresh : Fresh s) (slots : FilterSlots) (filterControlUnit : Nat) :
    Fresh (cfilInfoAttachUnit slots filterControlUnit s).1 := by
  unfold cfilInfoAttachUnit
  refine List.foldlRecOn (motive := fun acc : FlowSt × Bool => Fresh acc.1) _ _ _ fresh fun acc held k _ => ?_
  split
  · exact held
  · split
    · exact held
    · exact ⟨fun j d => by rw [attachEntry_ebuf, held.1], fun d => by rw [attachEntry_ibuf, held.2]⟩

end Fresh

namespace FlowSound

variable {msize : Nat} {s : FlowSt}

theorem of_fresh (fresh : Fresh s) (nodup : s.info.cfiOrderedEntries.Nodup) : FlowSound msize s where
  transit := by
    refine ⟨⟨⟨fun k d => ?_, fun d => ?_, fun d => ?_⟩, fun d => ⟨0, ?_, ?_, ?_⟩⟩, nodup, fun k d => by rw [fresh.1]; rfl⟩
    · rw [fresh.1]; exact ⟨.init, .init, rfl, le_rfl, le_rfl, le_rfl, le_rfl⟩
    · rw [fresh.2]; exact .init
    · rw [fresh.2]
    · simp [heldChains, CfeBuf.chains, fresh.1, fresh.2, cfilQueueInit]
    · rw [fresh.2]; rfl
    · rw [fresh.2]; rfl
  guarded := ⟨nodup, fun d k _ => by simp [fresh.2 d],
    fun d j _ => by simp [heldBefore, fresh.1, fresh.2, CfeBuf.held, CfilQueue.size, cfilQueueInit]⟩

theorem created (env : Env) (slots : FilterSlots) (filterControlUnit sockId : Nat) (sh : Shared) :
    FlowSound msize (cfilDispatchAttachEvent env none
      (cfilInfoAttachUnit slots filterControlUnit (sh.flow { cfiSockId := sockId })).1).1 := by
  have linked := cfilInfoAttachUnit_attached slots filterControlUnit (sh.flow { cfiSockId := sockId })
    (fun _ => rfl) rfl
  have fresh : Fresh (sh.flow { cfiSockId := sockId }) := ⟨fun _ d => by cases d <;> rfl, fun d => by cases d <;> rfl⟩
  have events := EventsOnly.attachEvent env none (cfilInfoAttachUnit slots filterControlUnit (sh.flow { cfiSockId := sockId })).1
  exact of_fresh ((fresh.attachUnit slots filterControlUnit).of_eventsOnly events)
    (events.ordered ▸ linked.sorted.imp AttachOrder.ne)

end FlowSound

section Entries

variable {α β : Type} (f : α → Option β)

theorem length_filterMap_set : ∀ (l : List α) (i : Nat) {a : α} (b : α), l[i]? = some a →
    ((l.set i b).filterMap f).length + (if (f a).isSome then 1 else 0) =
      (l.filterMap f).length + (if (f b).isSome then 1 else 0)
  | [], _, _, _, found => by simp at found
  | x :: l, 0, a, b, found => by
    simp only [List.getElem?_cons_zero, Option.some.injEq] at found
    subst found
    cases hx : f x <;> cases hb : f b <;> simp [List.filterMap_cons, hx, hb]
  | x :: l, i + 1, a, b, found => by
    have rest := length_filterMap_set l i b (by simpa using found)
    cases hx : f x <;> simp [List.filterMap_cons, hx] <;> omega

theorem length_filterMap_eraseIdx : ∀ (l : List α) (i : Nat) {a : α}, l[i]? = some a →
    ((l.eraseIdx i).filterMap f).length + (if (f a).isSome then 1 else 0) = (l.filterMap f).length
  | [], _, _, found => by simp at found
  | x :: l, 0, a, found => by
    simp only [List.getElem?_cons_zero, Option.some.injEq] at found
    subst found
    cases hx : f x <;> simp [List.filterMap_cons, hx]
  | x :: l, i + 1, a, found => by
    have rest := length_filterMap_eraseIdx l i (by simpa using found)
    cases hx : f x <;> simp [List.filterMap_cons, hx] <;> omega

theorem length_filterMap_of_forall₂ {R : α → α → Prop} (same : ∀ a b, R a b → (f b).isSome = (f a).isSome)
    {l l' : List α} (related : List.Forall₂ R l l') : (l'.filterMap f).length = (l.filterMap f).length := by
  induction related with
  | nil => rfl
  | @cons x y _ _ head _ tail =>
    have := same x y head
    cases hx : f x <;> cases hy : f y <;> simp_all [List.filterMap_cons]

end Entries

theorem soflowDbApply_forall₂ {σ : Type} (R : SoflowHashEntry → SoflowHashEntry → Prop) (refl : ∀ e, R e e)
    (callback : σ → SoflowHashEntry → σ × SoflowHashEntry × Bool) (related : ∀ acc e, R e (callback acc e).2.1) :
    ∀ acc db, List.Forall₂ R db (soflowDbApply callback acc db).2
  | _, [] => .nil
  | acc, e :: rest => by
    have head := related acc e
    unfold soflowDbApply
    generalize callback acc e = r at head ⊢
    obtain ⟨acc', e', more⟩ := r
    cases more
    · exact .cons head (List.forall₂_same.mpr fun x _ => refl x)
    · exact .cons head (soflowDbApply_forall₂ R refl callback related acc' rest)

namespace DgramSock

variable {so : DgramSock} {idx : Nat} {e : SoflowHashEntry} {u : UdpInfo}

theorem entry?_eq_some (found : so.entry? idx = some e) : ∃ db, so.soFlowDb = some db ∧ db[idx]? = some e := by
  unfold entry? at found
  cases db : so.soFlowDb with
  | none => simp [db] at found
  | some db' => exact ⟨db', rfl, by simpa [db] using found⟩

theorem linked_of_db {so' : DgramSock} (same : so'.soFlowDb = so.soFlowDb) : so'.linked = so.linked := by
  simp only [linked, same]

theorem mem_linked (found : so.entry? idx = some e) (linked : e.soflowFeatCtxt = some u) : u ∈ so.linked := by
  obtain ⟨db, db_eq, at_idx⟩ := entry?_eq_some found
  simp only [DgramSock.linked, db_eq, Option.getD_some, List.mem_filterMap]
  exact ⟨e, List.getElem?_mem at_idx, linked⟩

theorem mem_linked_setEntry {e' : SoflowHashEntry} (mem : u ∈ (so.setEntry idx e').linked) :
    u ∈ so.linked ∨ e'.soflowFeatCtxt = some u := by
  simp only [linked, setEntry] at mem ⊢
  cases db : so.soFlowDb with
  | none => simp [db] at mem
  | some db' =>
    simp only [db, Option.map_some', Option.getD_some, List.mem_filterMap] at mem ⊢
    obtain ⟨x, mem, ctxt⟩ := mem
    rcases List.mem_or_eq_of_mem_set mem with old | rfl
    · exact .inl ⟨x, old, ctxt⟩
    · exact .inr ctxt

theorem length_linked_setEntry (found : so.entry? idx = some e) (e' : SoflowHashEntry) :
    (so.setEntry idx e').linked.length + (if e.soflowFeatCtxt.isSome then 1 else 0) =
      so.linked.length + (if e'.soflowFeatCtxt.isSome then 1 else 0) := by
  obtain ⟨db, db_eq, at_idx⟩ := entry?_eq_some found
  simp only [linked, setEntry, db_eq, Option.map_some', Option.getD_some]
  exact length_filterMap_set _ db idx e' at_idx

theorem entry?_setEntry (found : so.entry? idx = some e) (e' : SoflowHashEntry) :
    (so.setEntry idx e').entry? idx = some e' := by
  obtain ⟨db, db_eq, at_idx⟩ := entry?_eq_some found
  have inside : idx < db.length := by
    by_contra outside
    simp [List.getElem?_eq_none (Nat.le_of_not_lt outside)] at at_idx
  simp [entry?, setEntry, db_eq, inside]

theorem linked_setEntry (found : so.entry? idx = some e) {e' : SoflowHashEntry} (linked : e'.soflowFeatCtxt = some u) :
    ((so.setEntry idx e').entry? idx).bind (·.soflowFeatCtxt) = some u := by
  rw [entry?_setEntry found]; exact linked

theorem mapEntry_of_entry? (found : so.entry? idx = some e) (g : SoflowHashEntry → SoflowHashEntry) :
    so.mapEntry idx g = so.setEntry idx (g e) := by
  simp [mapEntry, found]

theorem mem_linked_of_bind (linked : (so.entry? idx).bind (·.soflowFeatCtxt) = some u) : u ∈ so.linked := by
  obtain ⟨e, found, ctxt⟩ := Option.bind_eq_some.mp linked
  exact mem_linked found ctxt

theorem entry?_of_db {so' : DgramSock} (same : so'.soFlowDb = so.soFlowDb) : so'.entry? idx = so.entry? idx := by
  simp only [entry?, same]

theorem unlinkFlow_db : (cfilSockUdpUnlinkFlow so).soFlowDb = so.soFlowDb := by
  unfold cfilSockUdpUnlinkFlow; split <;> rfl

theorem entry?_unlinkFlow (sh : Shared) : (cfilSockUdpUnlinkFlow { so with shared := sh }).entry? idx = so.entry? idx :=
  entry?_of_db unlinkFlow_db

theorem linked_unlinkFlow_setEntry (sh : Shared) (e' : SoflowHashEntry) :
    ((cfilSockUdpUnlinkFlow { so with shared := sh }).setEntry idx e').linked = (so.setEntry idx e').linked :=
  linked_of_db (by simp only [setEntry, unlinkFlow_db])

theorem unlinkFlow_filtered : (cfilSockUdpUnlinkFlow so).soContentFilter = so.soContentFilter := by
  unfold cfilSockUdpUnlinkFlow; split <;> rfl

theorem unlinkFlow_usecount (filtered : so.soContentFilter = true) :
    (cfilSockUdpUnlinkFlow so).soUsecount = so.soUsecount - 1 := by
  simp [cfilSockUdpUnlinkFlow, filtered]

end DgramSock

section GiveBack

variable {Q : SoflowHashEntry → SoflowHashEntry → Prop} {R : CfilInfo → CfilInfo → Prop} (refl : ∀ e, Q e e)
  (relink : ∀ e u i, e.soflowFeatCtxt = some u → R u.info i → Q e { e with soflowFeatCtxt := some { u with info := i } })
include refl relink

theorem refill_forall₂ : ∀ (db : List SoflowHashEntry) {infos : List CfilInfo},
    List.Forall₂ R (DgramSock.flowInfos db) infos → List.Forall₂ Q db (DgramSock.refill db infos)
  | [], _, _ => .nil
  | e :: rest, infos, moved => by
    cases ctxt : e.soflowFeatCtxt with
    | none =>
      simp only [DgramSock.flowInfos, List.filterMap_cons, ctxt, Option.map_none'] at moved
      simp only [DgramSock.refill, ctxt]
      exact .cons (refl e) (refill_forall₂ rest moved)
    | some u =>
      simp only [DgramSock.flowInfos, List.filterMap_cons, ctxt, Option.map_some'] at moved
      cases moved with
      | cons head tail =>
        simp only [DgramSock.refill, ctxt]
        exact .cons (relink e u _ ctxt head) (refill_forall₂ rest tail)

theorem giveBack_forall₂ {db : List SoflowHashEntry} {idx : Nat} {e : SoflowHashEntry} (at_idx : db[idx]? = some e)
    (f : SoflowHashEntry → SoflowHashEntry) (own : Q e (f e)) {before after : List CfilInfo}
    (movedBefore : List.Forall₂ R (DgramSock.flowInfos (db.take idx)) before)
    (movedAfter : List.Forall₂ R (DgramSock.flowInfos (db.drop (idx + 1))) after) :
    List.Forall₂ Q db (DgramSock.giveBack db idx f before after) := by
  obtain ⟨inside, rfl⟩ := List.getElem?_eq_some_iff.mp at_idx
  have middle : db.drop idx = db[idx] :: db.drop (idx + 1) := List.drop_eq_getElem_cons inside
  have whole := List.rel_append (List.rel_append (refill_forall₂ refl relink _ movedBefore) (.cons own .nil))
    (refill_forall₂ refl relink _ movedAfter)
  dsimp only at whole
  rw [List.append_assoc, List.singleton_append, ← middle, List.take_append_drop] at whole
  unfold DgramSock.giveBack
  rw [middle]
  simpa only [List.take_succ_cons, List.take_zero, List.map_cons, List.map_nil, List.append_assoc,
    List.singleton_append] using whole

end GiveBack

theorem putFlow_forall₂ {Q : SoflowHashEntry → SoflowHashEntry → Prop} (refl : ∀ e, Q e e)
    (relink : ∀ e u i, e.soflowFeatCtxt = some u → InfoMoved u.info i → Q e { e with soflowFeatCtxt := some { u with info := i } })
    {so : DgramSock} {db : List SoflowHashEntry} (db_eq : so.soFlowDb = some db) {idx : Nat} {e : SoflowHashEntry}
    (at_idx : db[idx]? = some e) (u' : UdpInfo) {s : FlowSt}
    (own : Q e { e with soflowFeatCtxt := some { u' with info := s.info } }) {i : CfilInfo}
    (moved : SiblingsMoved (so.lend idx i) s) :
    List.Forall₂ Q db (DgramSock.giveBack db idx (fun e => { e with soflowFeatCtxt := some { u' with info := s.info } })
      s.flowsBefore s.flowsAfter) := by
  have before := moved.before
  have after := moved.after
  simp only [DgramSock.lend, db_eq, Option.getD_some] at before after
  exact giveBack_forall₂ refl relink at_idx _ own before after

theorem shutdown_of_steps (env : Env) (P : DgramSock → Prop) (shutRd shutWr : Bool) {so : DgramSock} (start : P so)
    (notify : ∀ rd wr flag t, P t → P (cfilSockUdpNotifyShutdown env rd wr true flag t).1)
    (pending : ∀ t, P t → P (cfilSockUdpDataPending true t).1) : P (cfilSockUdpShutdown env shutRd shutWr so).1 := by
  have read : P (if shutRd then cfilSockUdpNotifyShutdown env true false true .rd so else (so, .ok)).1 := by
    split
    · exact notify _ _ _ _ start
    · exact start
  unfold cfilSockUdpShutdown
  by_cases skip : (!so.soContentFilter || so.soFlowDb.isNone) = true
  · rwa [if_pos skip]
  by_cases rdClosed : (shutRd && so.shared.sock.soCantRcvMore) = true
  · rwa [if_neg skip, if_pos rdClosed]
  by_cases wrClosed : (shutWr && so.shared.sock.soCantSendMore) = true
  · rwa [if_neg skip, if_neg rdClosed, if_pos wrClosed]
  rw [if_neg skip, if_neg rdClosed, if_neg wrClosed]
  generalize (if shutRd then _ else _ : DgramSock × Errno) = r at read ⊢
  obtain ⟨so₁, error⟩ := r
  dsimp only
  by_cases failed : error ≠ .ok
  · rwa [if_pos failed]
  by_cases readOnly : (!shutWr) = true
  · rwa [if_neg failed, if_pos readOnly]
  rw [if_neg failed, if_neg readOnly]
  have written := notify false true .wr so₁ read
  generalize cfilSockUdpNotifyShutdown env false true true .wr so₁ = r at written ⊢
  obtain ⟨so₂, error₂⟩ := r
  dsimp only
  by_cases failed₂ : error₂ ≠ .ok
  · rwa [if_pos failed₂]
  rw [if_neg failed₂]
  have counted := pending so₂ written
  generalize cfilSockUdpDataPending true so₂ = r at counted ⊢
  obtain ⟨so₃, total⟩ := r
  dsimp only
  by_cases held : total ≠ 0
  · rw [if_pos held]
    split <;> exact counted
  · rwa [if_neg held]

/-- An entry a call kept: linked as before, and its flow sound if it was. -/
def CtxtKept (msize : Nat) (e e' : SoflowHashEntry) : Prop :=
  e'.soflowFeatCtxt.isSome = e.soflowFeatCtxt.isSome ∧
    ((∀ u, e.soflowFeatCtxt = some u → u.Sound msize) → ∀ u, e'.soflowFeatCtxt = some u → u.Sound msize)

theorem CtxtKept.refl (msize : Nat) (e : SoflowHashEntry) : CtxtKept msize e e := ⟨rfl, id⟩

/-- Every flow linked into the socket keeps the single-flow invariants and holds a
reference on the socket, and a socket with a linked flow is marked filtered. -/
structure DgramInv (msize : Nat) (so : DgramSock) : Prop where
  sound : ∀ u ∈ so.linked, u.Sound msize
  refs : so.linked.length ≤ so.soUsecount
  marked : so.linked ≠ [] → so.soContentFilter = true

namespace DgramInv

variable {msize : Nat} {so : DgramSock}

theorem of_db {so' : DgramSock} (inv : DgramInv msize so) (db : so'.soFlowDb = so.soFlowDb)
    (usecount : so.soUsecount ≤ so'.soUsecount) (filtered : so'.soContentFilter = so.soContentFilter) :
    DgramInv msize so' := by
  have same := DgramSock.linked_of_db db
  exact ⟨same ▸ inv.sound, same ▸ inv.refs.trans usecount, fun live => filtered ▸ inv.marked (same ▸ live)⟩

theorem sound_of_forall₂ {db db' : List SoflowHashEntry} (kept : List.Forall₂ (CtxtKept msize) db db')
    (sound : ∀ u ∈ db.filterMap (·.soflowFeatCtxt), u.Sound msize) :
    ∀ u ∈ db'.filterMap (·.soflowFeatCtxt), u.Sound msize := by
  induction kept with
  | nil => simp
  | @cons e e' _ _ head _ tail =>
    simp only [List.mem_filterMap, List.mem_cons] at sound tail ⊢
    rintro u ⟨x, rfl | mem, ctxt⟩
    · exact head.2 (fun v c => sound v ⟨e, .inl rfl, c⟩) u ctxt
    · exact tail (fun v ⟨y, mem, c⟩ => sound v ⟨y, .inr mem, c⟩) u ⟨x, mem, ctxt⟩

theorem of_forall₂ {so' : DgramSock} {db db' : List SoflowHashEntry} (inv : DgramInv msize so)
    (before : so.soFlowDb = some db) (after : so'.soFlowDb = some db') (kept : List.Forall₂ (CtxtKept msize) db db')
    (usecount : so'.soUsecount = so.soUsecount) (filtered : so'.soContentFilter = so.soContentFilter) :
    DgramInv msize so' := by
  have length : so'.linked.length = so.linked.length := by
    simp only [DgramSock.linked, before, after, Option.getD_some]
    exact length_filterMap_of_forall₂ _ (fun _ _ related => related.1) kept
  have sound := inv.sound
  simp only [DgramSock.linked, before, Option.getD_some] at sound
  refine ⟨?_, length ▸ usecount ▸ inv.refs, fun live => filtered ▸ inv.marked fun none => live ?_⟩
  · simpa only [DgramSock.linked, after, Option.getD_some] using sound_of_forall₂ kept sound
  · exact List.eq_nil_of_length_eq_zero (length.trans (List.length_eq_zero.mpr none))

theorem of_no_db (none : so.soFlowDb = none) : DgramInv msize so where
  sound u mem := by simp [DgramSock.linked, none] at mem
  refs := by simp [DgramSock.linked, none]
  marked live := absurd (by simp [DgramSock.linked, none]) live

theorem linked_ne_nil (inv : DgramInv msize so) (found : so.entry? idx = some e) (linked : e.soflowFeatCtxt = some u) :
    so.soContentFilter = true :=
  inv.marked (List.ne_nil_of_mem (DgramSock.mem_linked found linked))

theorem setEntry (inv : DgramInv msize so) (found : so.entry? idx = some e) {e' : SoflowHashEntry}
    (kept : CtxtKept msize e e') : DgramInv msize (so.setEntry idx e') := by
  have length := DgramSock.length_linked_setEntry found e'
  rw [kept.1, Nat.add_right_cancel_iff] at length
  refine ⟨fun u mem => ?_, length ▸ inv.refs, fun live => inv.marked fun none => live ?_⟩
  · rcases DgramSock.mem_linked_setEntry mem with old | new
    · exact inv.sound u old
    · exact kept.2 (fun v linked => inv.sound v (DgramSock.mem_linked found linked)) u new
  · exact List.eq_nil_of_length_eq_zero (length.trans (List.length_eq_zero.mpr none))

theorem link (inv : DgramInv msize so) (found : so.entry? idx = some e) {e' : SoflowHashEntry} {u : UdpInfo}
    (linked : e'.soflowFeatCtxt = some u) (sound : u.Sound msize) (sh : Shared) :
    DgramInv msize { so.setEntry idx e' with shared := sh, soContentFilter := true, soUsecount := so.soUsecount + 1 } := by
  have length := DgramSock.length_linked_setEntry found e'
  simp only [linked, Option.isSome_some, if_true] at length
  refine ⟨fun v mem => ?_, ?_, fun _ => rfl⟩
  · rcases DgramSock.mem_linked_setEntry mem with old | new
    · exact inv.sound v old
    · exact Option.some.inj (linked.symm.trans new) ▸ sound
  · have := inv.refs
    show (so.setEntry idx e').linked.length ≤ so.soUsecount + 1
    split at length <;> omega

theorem unlinkFlow (inv : DgramInv msize so) (found : so.entry? idx = some e) (linked : e.soflowFeatCtxt = some u)
    {e' : SoflowHashEntry} (cleared : e'.soflowFeatCtxt = none) :
    DgramInv msize ((cfilSockUdpUnlinkFlow so).setEntry idx e') := by
  have filtered := inv.linked_ne_nil found linked
  have length := DgramSock.length_linked_setEntry found e'
  simp only [linked, cleared, Option.isSome_some, Option.isSome_none, if_true, Bool.false_eq_true, if_false,
    add_zero] at length
  have same : ((cfilSockUdpUnlinkFlow so).setEntry idx e').linked = (so.setEntry idx e').linked :=
    DgramSock.linked_of_db (by simp only [DgramSock.setEntry, DgramSock.unlinkFlow_db])
  refine ⟨fun v mem => ?_, ?_, fun _ => ?_⟩
  · rcases DgramSock.mem_linked_setEntry (same ▸ mem) with old | new
    · exact inv.sound v old
    · simp [cleared] at new
  · have := inv.refs
    rw [same]
    show _ ≤ (cfilSockUdpUnlinkFlow so).soUsecount
    rw [DgramSock.unlinkFlow_usecount filtered]
    omega
  · exact DgramSock.unlinkFlow_filtered.trans filtered

theorem remove (inv : DgramInv msize so) (found : so.entry? idx = some e) :
    DgramInv msize { (cfilDgramDetachEntry e so).1 with soFlowDb := so.soFlowDb.map (·.eraseIdx idx) } := by
  obtain ⟨db, db_eq, at_idx⟩ := DgramSock.entry?_eq_some found
  have length := length_filterMap_eraseIdx (·.soflowFeatCtxt) db idx at_idx
  have sound : ∀ u ∈ (db.eraseIdx idx).filterMap (·.soflowFeatCtxt), u.Sound msize := fun u mem => by
    obtain ⟨x, mem, ctxt⟩ := List.mem_filterMap.mp mem
    exact inv.sound u (by simpa [DgramSock.linked, db_eq] using ⟨x, List.mem_of_mem_eraseIdx mem, ctxt⟩)
  have refs := inv.refs
  simp only [DgramSock.linked, db_eq, Option.getD_some] at refs
  unfold cfilDgramDetachEntry
  split
  · rename_i none
    simp only [none, Option.isSome_none, Bool.false_eq_true, if_false, add_zero] at length
    refine ⟨by simpa [DgramSock.linked, db_eq] using sound, by simpa [DgramSock.linked, db_eq, length] using refs,
      fun live => inv.marked fun nil => live ?_⟩
    simp only [DgramSock.linked, db_eq, Option.map_some', Option.getD_some] at nil ⊢
    exact List.eq_nil_of_length_eq_zero (length.trans (List.length_eq_zero.mpr nil))
  · rename_i v linked
    have filtered := inv.linked_ne_nil found linked
    simp only [linked, Option.isSome_some, if_true] at length
    refine ⟨by simpa [DgramSock.linked, db_eq] using sound, ?_, fun _ => DgramSock.unlinkFlow_filtered.trans filtered⟩
    simp only [DgramSock.linked, db_eq, Option.map_some', Option.getD_some, DgramSock.unlinkFlow_usecount filtered]
    omega

theorem putFlow (inv : DgramInv msize so) (linked : (so.entry? idx).bind (·.soflowFeatCtxt) = some u) (u' : UdpInfo)
    {s : FlowSt} (sound : FlowSound msize s) (moved : SiblingsMoved (so.lend idx u.info) s) :
    DgramInv msize (so.putFlow idx u' s) := by
  obtain ⟨e, found, ctxt⟩ := Option.bind_eq_some.mp linked
  obtain ⟨db, db_eq, at_idx⟩ := DgramSock.entry?_eq_some found
  refine inv.of_forall₂ db_eq (by simp only [DgramSock.putFlow, db_eq, Option.map_some'])
    (putFlow_forall₂ (CtxtKept.refl msize) (fun e v i linked moved => ?_) db_eq at_idx u' ?_ moved) rfl rfl
  · exact ⟨by simp [linked], fun sound w relinked => by cases relinked; exact (sound v linked).moved moved⟩
  · exact ⟨by simp [ctxt], fun _ v new => by cases new; exact fun _ => sound.of_info rfl⟩

theorem runFlow (inv : DgramInv msize so) (idx : Nat) {call : FlowSt → FlowSt}
    (keeps : ∀ t, FlowSound msize t → FlowSound msize (call t)) (moves : ∀ t, SiblingsMoved t (call t)) :
    DgramInv msize (so.runFlow idx call) := by
  unfold DgramSock.runFlow
  split
  · exact inv
  · rename_i u linked
    exact inv.putFlow linked u (keeps _ ((inv.sound u (DgramSock.mem_linked_of_bind linked)).lend so idx)) (moves _)

theorem applyFlows (inv : DgramInv msize so) {call : FlowSt → FlowSt}
    (keeps : ∀ t, FlowSound msize t → FlowSound msize (call t)) (moves : ∀ t, SiblingsMoved t (call t)) :
    DgramInv msize (so.applyFlows call) := by
  unfold DgramSock.applyFlows
  split
  · exact List.foldlRecOn (motive := DgramInv msize) _ _ _ inv fun _ held idx _ => held.runFlow idx keeps moves
  · exact inv

theorem mapEntry (inv : DgramInv msize so) (idx : Nat) {f : SoflowHashEntry → SoflowHashEntry}
    (kept : ∀ e, so.entry? idx = some e → CtxtKept msize e (f e)) : DgramInv msize (so.mapEntry idx f) := by
  unfold DgramSock.mapEntry
  split
  · exact inv
  · rename_i e found
    exact inv.setEntry found (kept e found)

theorem unlinkFlow_clear (inv : DgramInv msize so) (found : so.entry? idx = some e) (linked : e.soflowFeatCtxt = some u)
    (sh : Shared) : DgramInv msize ((cfilSockUdpUnlinkFlow { so with shared := sh }).mapEntry idx
      fun e => { e with soflowFeatCtxt := none, soflowFeatCtxtId := 0 }) := by
  have found' : (cfilSockUdpUnlinkFlow { so with shared := sh }).entry? idx = some e :=
    (DgramSock.entry?_of_db DgramSock.unlinkFlow_db).trans found
  rw [DgramSock.mapEntry_of_entry? found']
  have inv' : DgramInv msize { so with shared := sh } := inv.of_db rfl le_rfl rfl
  exact inv'.unlinkFlow found linked rfl

variable (env : Env)

theorem notifyShutdownPerFlow_kept (shutRd shutWr dropFlag : Bool) (flag : ShutFlag) (acc : Shared × Nat)
    (e : SoflowHashEntry) : CtxtKept msize e (cfilSockUdpNotifyShutdownPerFlow env shutRd shutWr dropFlag flag acc e).2.1 := by
  unfold cfilSockUdpNotifyShutdownPerFlow
  split
  · exact .refl msize e
  · rename_i u ctxt
    split_ifs
    · exact .refl msize e
    · exact .refl msize e
    · exact ⟨by simp [ctxt], fun sound v linked => by
        cases linked
        exact ((sound u ctxt).setFlags _).run _ fun t held => held.of_eventsOnly (notifyShutdownFlow_events env shutRd shutWr t)⟩

theorem notifyShutdown (inv : DgramInv msize so) (shutRd shutWr dropFlag : Bool) (flag : ShutFlag) :
    DgramInv msize (cfilSockUdpNotifyShutdown env shutRd shutWr dropFlag flag so).1 := by
  unfold cfilSockUdpNotifyShutdown
  split
  · rename_i db _ db_eq
    exact inv.of_forall₂ db_eq rfl (soflowDbApply_forall₂ _ (CtxtKept.refl msize) _
      (notifyShutdownPerFlow_kept env shutRd shutWr dropFlag flag) _ db) rfl rfl
  · exact inv

theorem dataPending (inv : DgramInv msize so) (outgoing : Bool) : DgramInv msize (cfilSockUdpDataPending outgoing so).1 := by
  unfold cfilSockUdpDataPending
  split
  · exact inv.of_db rfl le_rfl rfl
  · exact inv

theorem shutdown (inv : DgramInv msize so) (shutRd shutWr : Bool) :
    DgramInv msize (cfilSockUdpShutdown env shutRd shutWr so).1 :=
  shutdown_of_steps env (DgramInv msize) shutRd shutWr inv (fun rd wr flag _ held => held.notifyShutdown env rd wr true flag)
    fun _ held => held.dataPending true

theorem filtersAttachedPerFlow_kept (needWait : Bool) (sleep : SleepEnd) (attached : Bool) (e : SoflowHashEntry) :
    CtxtKept msize e (cfilFiltersUdpAttachedPerFlow needWait sleep attached e).2.1 := by
  unfold cfilFiltersUdpAttachedPerFlow
  split
  · exact .refl msize e
  · rename_i u ctxt
    split
    · exact .refl msize e
    · rename_i k _
      have kept : CtxtKept msize e { e with soflowFeatCtxt := some (closeWaitOn k sleep u) } :=
        ⟨by simp [ctxt], fun sound v linked => by cases linked; exact (sound u ctxt).closeWait k sleep⟩
      split
      · exact .refl msize e
      · cases sleep <;> exact kept

theorem filtersAttached (inv : DgramInv msize so) (needWait : Bool) (sleep : SleepEnd) :
    DgramInv msize (cfilFiltersUdpAttached needWait sleep so).1 := by
  unfold cfilFiltersUdpAttached
  split
  · rename_i db _ db_eq
    exact inv.of_forall₂ db_eq rfl (soflowDbApply_forall₂ _ (CtxtKept.refl msize) _
      (filtersAttachedPerFlow_kept needWait sleep) false db) rfl rfl
  · exact inv

theorem closeWait : ∀ (sleeps : List SleepEnd) {so : DgramSock}, DgramInv msize so →
    DgramInv msize (cfilSockUdpCloseWait env sleeps so)
  | [], _, inv => inv
  | sleep :: sleeps, so, inv => by
    have waited := (inv.notifyShutdown env true true false .none).filtersAttached true sleep
    unfold cfilSockUdpCloseWait
    split
    · exact inv
    · dsimp only
      split
      · exact waited
      · exact closeWait sleeps waited

/-- What a call that looks up the flow of entry `idx` gives back: a socket that keeps the
invariant and, if any, the flow linked to the entry, sound. -/
structure FlowFound (msize idx : Nat) (r : DgramSock × Option UdpInfo) : Prop where
  inv : DgramInv msize r.1
  linked : ∀ u, r.2 = some u → (r.1.entry? idx).bind (·.soflowFeatCtxt) = some u ∧ u.Sound msize

theorem newInfo (inv : DgramInv env.msize so) (g : Global) (filterControlUnit : Nat) (found : so.entry? idx = some e) :
    FlowFound env.msize idx (cfilSockUdpNewInfo env g filterControlUnit idx e so) := by
  have created : FlowSound env.msize _ :=
    FlowSound.created env g.slots filterControlUnit (udpSockId so.soGencnt e.soflowFlowhash) so.shared
  unfold cfilSockUdpNewInfo
  dsimp only
  generalize cfilInfoAttachUnit _ _ _ = r at created ⊢
  obtain ⟨s, attached⟩ := r
  cases attached
  · exact ⟨inv, fun _ none => nomatch none⟩
  · generalize cfilDispatchAttachEvent env none s = r at created ⊢
    obtain ⟨s₁, error⟩ := r
    dsimp only
    have sound : UdpInfo.Sound env.msize ⟨s₁.info, filterControlUnit, e.soflowPoliciesGencount, fun _ => g.now⟩ :=
      fun _ => created.of_info rfl
    split_ifs
    · exact ⟨inv, fun _ none => nomatch none⟩
    · exact ⟨inv.link found rfl sound _, fun _ none => nomatch none⟩
    · refine ⟨(inv.link found rfl sound _).of_db rfl le_rfl rfl, fun u same => ?_⟩
      cases same
      refine ⟨DgramSock.linked_setEntry found ?_, sound⟩
      rfl

theorem getInfo (inv : DgramInv env.msize so) (g : Global) (filterControlUnit : Nat) (found : so.entry? idx = some e) :
    FlowFound env.msize idx (cfilSockUdpGetInfo env g filterControlUnit idx e so) := by
  unfold cfilSockUdpGetInfo
  split
  · rename_i u ctxt
    have sound := inv.sound u (DgramSock.mem_linked found ctxt)
    have kept : FlowFound env.msize idx (so, some u) :=
      ⟨inv, fun v same => by cases same; exact ⟨by simp [found, ctxt], sound⟩⟩
    split_ifs
    · exact kept
    · refine ⟨inv.setEntry found ⟨by simp [ctxt], fun _ v linked => by cases linked; exact sound⟩, fun v same => ?_⟩
      cases same
      refine ⟨DgramSock.linked_setEntry found ?_, sound⟩
      rfl
    · exact ⟨inv, fun _ none => nomatch none⟩
    · exact kept
    · exact inv.newInfo env g filterControlUnit found
  · exact inv.newInfo env g filterControlUnit found

theorem handleData (inv : DgramInv env.msize so) (g : Global) (outgoing : Bool) (idx : Nat) (data : Chain) :
    DgramInv env.msize (cfilSockUdpHandleData env g outgoing idx data so).1 := by
  unfold cfilSockUdpHandleData
  split_ifs
  · exact inv
  · exact inv
  split
  · exact inv
  · rename_i e found
    dsimp only
    split_ifs
    · exact inv
    · exact inv
    · exact inv
    have looked := inv.getInfo env g e.soflowFilterControlUnit found
    generalize cfilSockUdpGetInfo env g _ idx e so = r at looked ⊢
    obtain ⟨so', _ | u⟩ := r
    · exact looked.inv
    · obtain ⟨linked, sound⟩ := looked.linked u rfl
      dsimp only
      split
      · exact looked.inv
      · exact looked.inv.putFlow linked u ((sound.lend so' idx).dataCommon env outgoing data)
          (dataCommon_siblings env outgoing data _)

theorem ctlSend (inv : DgramInv env.msize so) (k : Kcunit) (action : CfilAction) (now : Timeval) (sockId : Nat) :
    DgramInv env.msize (so.ctlSend env k action now sockId).1 := by
  unfold DgramSock.ctlSend
  split
  · exact inv
  · split
    · exact inv
    · rename_i u linked
      exact inv.putFlow linked _ (((inv.sound u (DgramSock.mem_linked_of_bind linked)).lend so _).ctlSendDgram env k
        action now u) (ctlSendDgram_siblings env k action now _ u)

theorem blessClient (inv : DgramInv env.msize so) (k : Kcunit) (sockId : Nat) :
    DgramInv env.msize (cfilActionBlessClientDgram env k sockId so) := by
  unfold cfilActionBlessClientDgram
  split
  · exact inv.of_db rfl le_rfl rfl
  · split
    · exact inv
    · exact inv.runFlow _ (fun t sound => (sound.actionDataPass env true k _ _).actionDataPass env false k _ _)
        fun t => (actionDataPass_siblings env true k _ _ t).trans (actionDataPass_siblings env false k _ _ _)

theorem gc (inv : DgramInv env.msize so) (now : Timeval) (idx : Nat) : DgramInv env.msize (so.step env (.gc now idx)) := by
  dsimp only [DgramSock.step]
  split
  · exact inv
  · rename_i e found
    split
    · exact inv
    · unfold cfilDgramGcPerform
      cases linked : e.soflowFeatCtxt with
      | none => exact inv
      | some u => exact inv.unlinkFlow_clear found linked _

theorem soflowAdd (inv : DgramInv msize so) (flowhash filterControlUnit policiesGencount : Nat) :
    DgramInv msize (so.step env (.soflowAdd flowhash filterControlUnit policiesGencount)) := by
  have same : (so.step env (.soflowAdd flowhash filterControlUnit policiesGencount)).linked = so.linked := by
    simp [DgramSock.step, DgramSock.linked, List.filterMap_append]
  exact ⟨same ▸ inv.sound, same ▸ inv.refs, fun live => inv.marked (same ▸ live)⟩

theorem step (inv : DgramInv env.msize so) (op : DgramOp) : DgramInv env.msize (so.step env op) := by
  cases op with
  | soflowAdd flowhash filterControlUnit policiesGencount => exact inv.soflowAdd env flowhash filterControlUnit policiesGencount
  | soflowUpdate idx _ _ => exact inv.mapEntry idx fun e _ => ⟨rfl, id⟩
  | soflowRemove idx =>
    dsimp only [DgramSock.step]
    split
    · exact inv
    · rename_i e found
      exact inv.remove found
  | data g outgoing idx m =>
    have handled := inv.handleData env g outgoing idx m
    dsimp only [DgramSock.step]
    split
    · exact handled.of_db rfl le_rfl rfl
    · exact handled
  | action k a now sockId => exact inv.ctlSend env k a now sockId
  | bless k sockId => exact inv.blessClient env k sockId
  | ctlDisconnect idx k activeCount =>
    show DgramInv env.msize (so.ctlDisconnect env idx k activeCount)
    unfold DgramSock.ctlDisconnect
    split
    · exact inv
    · rename_i u linked
      exact inv.putFlow linked _ (FlowSound.step env { st := so.lend idx u.info }
        ((inv.sound u (DgramSock.mem_linked_of_bind linked)).lend so idx) (.ctlDisconnect k)) (ctlDisconnect_siblings env k _)
  | flowControl k raised => exact inv.of_db rfl le_rfl rfl
  | bufUpdate outgoing =>
    dsimp only [DgramSock.step, cfilSockUdpBufUpdate]
    split
    · exact inv
    · exact inv.applyFlows (fun t sound => FlowSound.step env { st := t } sound (.bufUpdate outgoing))
        (sockBufUpdate_siblings env outgoing)
  | shutdown shutRd shutWr => exact inv.shutdown env shutRd shutWr
  | close => exact inv.applyFlows (fun t sound => FlowSound.step env { st := t } sound .close) (sockIsClosed_siblings env)
  | closeWait sleeps => exact inv.closeWait env sleeps
  | gc now idx => exact inv.gc env now idx
  | dbFree => exact of_no_db rfl

end DgramInv

theorem DgramReachable.inv {env : Env} {so : DgramSock} (reach : DgramReachable env so) : DgramInv env.msize so := by
  induction reach with
  | init => exact .of_no_db rfl
  | step op _ ih => exact ih.step env op

theorem detachEntries_usecount : ∀ (l : List SoflowHashEntry) (so : DgramSock),
    (l.filterMap (·.soflowFeatCtxt)).length ≤ so.soUsecount →
    (l.filterMap (·.soflowFeatCtxt) ≠ [] → so.soContentFilter = true) →
    (l.foldl (fun so e => (cfilDgramDetachEntry e so).1) so).soUsecount + (l.filterMap (·.soflowFeatCtxt)).length =
        so.soUsecount ∧
      (l.foldl (fun so e => (cfilDgramDetachEntry e so).1) so).shared = so.shared
  | [], _, _, _ => ⟨rfl, rfl⟩
  | e :: l, so, refs, marked => by
    simp only [List.foldl_cons]
    cases linked : e.soflowFeatCtxt with
    | none =>
      have same : (cfilDgramDetachEntry e so).1 = so := by simp [cfilDgramDetachEntry, linked]
      simp only [List.filterMap_cons, linked] at refs marked ⊢
      rw [same]
      exact detachEntries_usecount l so refs marked
    | some u =>
      simp only [List.filterMap_cons, linked, List.length_cons] at refs marked ⊢
      have filtered := marked (List.cons_ne_nil _ _)
      have unlinked : (cfilDgramDetachEntry e so).1 = { so with soUsecount := so.soUsecount - 1 } := by
        simp [cfilDgramDetachEntry, linked, cfilSockUdpUnlinkFlow, filtered, Shared.verify,
          show 0 < so.soUsecount by omega]
      rw [unlinked]
      obtain ⟨usecount, shared⟩ :=
        detachEntries_usecount l { so with soUsecount := so.soUsecount - 1 } (by dsimp only; omega) fun _ => filtered
      exact ⟨by dsimp only at usecount; omega, shared⟩

/-- A UDP socket while one filter is connected (control unit 1, NECP unit 1), before its
first flow. -/
def udpSockInit : DgramSock :=
  { shared := ⟨{ soDgram := true }, fun _ => false, [], 0, false⟩, soUsecount := 1, soGencnt := 5 }

/-- What the datagram calls read while that filter is connected. -/
def oneFilterGlobal : Global :=
  { cfilActiveCount := 1, preserveConnections := false, slots := oneFilter, now := ⟨0, 0⟩ }

/-- That socket after one byte sent to a new remote address: one flow, attached. -/
def oneFlowSock : DgramSock :=
  (udpSockInit.step demoKernel (.soflowAdd 7 1 0)).step demoKernel (.data oneFilterGlobal true 0 (oneByte 1))

theorem oneFlowSock_reachable : DgramReachable demoKernel oneFlowSock := .step _ (.step _ (.init rfl _ _ _))

example : oneFlowSock.linked.length = 1 ∧ oneFlowSock.soUsecount = 2 := by decide

/-- On every run of a datagram socket, every linked flow keeps the single-flow invariants and
holds a reference on the socket, which is marked `SOF_CONTENT_FILTER`. -/
theorem dgram_flows_keep_invariants {env : Env} {so : DgramSock} (reach : DgramReachable env so) :
    (∀ u ∈ so.linked, ∀ sh : Shared, Transit env.msize (sh.flow u.info) ∧ Guarded (sh.flow u.info)) ∧
      so.linked.length ≤ so.soUsecount ∧ (so.linked ≠ [] → so.soContentFilter = true) :=
  have inv := reach.inv
  ⟨fun u mem sh => ⟨(inv.sound u mem sh).transit, (inv.sound u mem sh).guarded⟩, inv.refs, inv.marked⟩

theorem oneFlowSock_flows_keep_invariants :
    (∀ u ∈ oneFlowSock.linked, ∀ sh : Shared, Transit demoKernel.msize (sh.flow u.info) ∧ Guarded (sh.flow u.info)) ∧
      oneFlowSock.linked.length ≤ oneFlowSock.soUsecount ∧
      (oneFlowSock.linked ≠ [] → oneFlowSock.soContentFilter = true) :=
  dgram_flows_keep_invariants oneFlowSock_reachable

/-- `soflow_db_free` on a socket reached by any run gives back exactly one `so_usecount`
reference per linked flow, never fails `VERIFY(so->so_usecount > 0)` and sends nothing
(what the flows share is untouched), and leaves the socket unfiltered with no flow. -/
theorem dbFree_returns_flow_references {env : Env} {so : DgramSock} (reach : DgramReachable env so) :
    so.dbFree.soUsecount + so.linked.length = so.soUsecount ∧ so.dbFree.shared = so.shared ∧
      so.dbFree.soContentFilter = false ∧ so.dbFree.linked = [] :=
  have inv := reach.inv
  have detached := detachEntries_usecount (so.soFlowDb.getD []) so inv.refs inv.marked
  ⟨detached.1, detached.2, rfl, rfl⟩

theorem oneFlowSock_dbFree_returns_reference :
    oneFlowSock.dbFree.soUsecount + oneFlowSock.linked.length = oneFlowSock.soUsecount ∧
      oneFlowSock.dbFree.shared = oneFlowSock.shared ∧ oneFlowSock.dbFree.soContentFilter = false ∧
      oneFlowSock.dbFree.linked = [] :=
  dbFree_returns_flow_references oneFlowSock_reachable

end ContentFilter
