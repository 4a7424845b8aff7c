import ContentFilter.SockId

/-! How an agent's message reaches a datagram flow through its `cfi_sock_id`. -/

namespace ContentFilter

/-- `cfil_sock_id_from_datagram_socket` for the entry `soflow` finds for the flow's
addresses, here `idx`: the id of its feature context, `CFIL_SOCK_ID_NONE` (0) without a
flow database. -/
def cfilSockIdFromDatagramSocket (so : DgramSock) (idx : Nat) : Nat :=
  match so.soFlowDb with
  | none => 0
  | some _ => ((so.entry? idx).map (·.soflowFeatCtxtId)).getD 0

/-- An entry whose flow, if it has one, carries the id `cfil_info_alloc` gave it. -/
def IdOk (soGencnt : Nat) (e : SoflowHashEntry) : Prop :=
  e.soflowFeatCtxt.isSome → e.soflowFeatCtxtId = udpSockId soGencnt e.soflowFlowhash

/-- What a call made of an entry keeps its id right. -/
def IdKept (e e' : SoflowHashEntry) : Prop := ∀ soGencnt, IdOk soGencnt e → IdOk soGencnt e'

theorem IdKept.refl (e : SoflowHashEntry) : IdKept e e := fun _ => id

theorem IdKept.relink {e : SoflowHashEntry} (linked : e.soflowFeatCtxt.isSome) (u : UdpInfo) :
    IdKept e { e with soflowFeatCtxt := some u } :=
  fun _ ok _ => ok linked

/-- Every entry of the socket's database is right about its flow's id. -/
def IdsInv (so : DgramSock) : Prop := ∀ e ∈ so.soFlowDb.getD [], IdOk so.soGencnt e

theorem forall₂_mem_right {R : SoflowHashEntry → SoflowHashEntry → Prop} {db db' : List SoflowHashEntry}
    (related : List.Forall₂ R db db') {e' : SoflowHashEntry} (mem : e' ∈ db') : ∃ e ∈ db, R e e' := by
  induction related with
  | nil => cases mem
  | @cons e e'' _ _ head _ tail =>
    rcases List.mem_cons.1 mem with rfl | mem
    · exact ⟨e, List.mem_cons_self _ _, head⟩
    · obtain ⟨x, mem, r⟩ := tail mem
      exact ⟨x, List.mem_cons_of_mem _ mem, r⟩

namespace IdsInv

variable {so : DgramSock} {idx : Nat} {e : SoflowHashEntry} {u : UdpInfo}

theorem of_db {so' : DgramSock} (inv : IdsInv so) (db : so'.soFlowDb = so.soFlowDb) (gen : so'.soGencnt = so.soGencnt) :
    IdsInv so' := by
  rw [IdsInv, db, gen]
  exact inv

theorem of_forall₂ {so' : DgramSock} {db db' : List SoflowHashEntry} (inv : IdsInv so) (before : so.soFlowDb = some db)
    (after : so'.soFlowDb = some db') (kept : List.Forall₂ IdKept db db') (gen : so'.soGencnt = so.soGencnt) :
    IdsInv so' := fun e' mem => by
  rw [after, Option.getD_some] at mem
  obtain ⟨e, mem, r⟩ := forall₂_mem_right kept mem
  exact gen ▸ r _ (inv e (by rw [before, Option.getD_some]; exact mem))

theorem mem (inv : IdsInv so) (found : so.entry? idx = some e) : IdOk so.soGencnt e := by
  obtain ⟨db, db_eq, at_idx⟩ := DgramSock.entry?_eq_some found
  exact inv e (by rw [db_eq, Option.getD_some]; exact List.getElem?_mem at_idx)

theorem setEntry (inv : IdsInv so) {e' : SoflowHashEntry} (ok : IdOk so.soGencnt e') : IdsInv (so.setEntry idx e') := by
  intro x mem
  cases db : so.soFlowDb with
  | none => simp only [DgramSock.setEntry, db, Option.map_none', Option.getD_none, List.not_mem_nil] at mem
  | some l =>
    simp only [DgramSock.setEntry, db, Option.map_some', Option.getD_some] at mem
    rcases List.mem_or_eq_of_mem_set mem with old | rfl
    · exact inv x (by rw [db, Option.getD_some]; exact old)
    · exact ok

theorem mapEntry (inv : IdsInv so) {f : SoflowHashEntry → SoflowHashEntry}
    (kept : ∀ e, so.entry? idx = some e → IdKept e (f e)) : IdsInv (so.mapEntry idx f) := by
  unfold DgramSock.mapEntry
  split
  · exact inv
  · rename_i e found
    exact inv.setEntry (kept e found _ (inv.mem found))

theorem putFlow (inv : IdsInv so) (linked : (so.entry? idx).bind (·.soflowFeatCtxt) = some u) (u' : UdpInfo)
    {s : FlowSt} (moved : SiblingsMoved (so.lend idx u.info) s) : IdsInv (so.putFlow idx u' s) := by
  obtain ⟨e, found, ctxt⟩ := Option.bind_eq_some.mp linked
  obtain ⟨db, db_eq, at_idx⟩ := DgramSock.entry?_eq_some found
  exact inv.of_forall₂ db_eq (by simp only [DgramSock.putFlow, db_eq, Option.map_some'])
    (putFlow_forall₂ IdKept.refl (fun e v _ linked _ => .relink (by rw [linked]; rfl) _) db_eq at_idx u'
      (.relink (by rw [ctxt]; rfl) _) moved) rfl

theorem runFlow (inv : IdsInv so) (idx : Nat) {call : FlowSt → FlowSt} (moves : ∀ t, SiblingsMoved t (call t)) :
    IdsInv (so.runFlow idx call) := by
  unfold DgramSock.runFlow
  split
  · exact inv
  · rename_i u linked
    exact inv.putFlow linked u (moves _)

theorem apply {σ : Type} (inv : IdsInv so) {callback : σ → SoflowHashEntry → σ × SoflowHashEntry × Bool}
    (kept : ∀ acc e, IdKept e (callback acc e).2.1) {so' : DgramSock} {db : List SoflowHashEntry} (acc : σ)
    (before : so.soFlowDb = some db) (after : so'.soFlowDb = some (soflowDbApply callback acc db).2)
    (gen : so'.soGencnt = so.soGencnt) : IdsInv so' :=
  inv.of_forall₂ before after (soflowDbApply_forall₂ _ IdKept.refl _ kept acc db) gen

theorem applyFlows (inv : IdsInv so) {call : FlowSt → FlowSt} (moves : ∀ t, SiblingsMoved t (call t)) :
    IdsInv (so.applyFlows call) := by
  unfold DgramSock.applyFlows
  split
  · exact List.foldlRecOn (motive := IdsInv) _ _ _ inv fun _ held idx _ => held.runFlow idx moves
  · exact inv

variable (env : Env)

theorem notifyShutdown (inv : IdsInv so) (shutRd shutWr dropFlag : Bool) (flag : ShutFlag) :
    IdsInv (cfilSockUdpNotifyShutdown env shutRd shutWr dropFlag flag so).1 := by
  have kept : ∀ acc e, IdKept e (cfilSockUdpNotifyShutdownPerFlow env shutRd shutWr dropFlag flag acc e).2.1 :=
    fun acc e => by
      unfold cfilSockUdpNotifyShutdownPerFlow
      split
      · exact .refl e
      · rename_i ctxt
        split_ifs
        · exact .refl e
        · exact .refl e
        · exact .relink (by rw [ctxt]; rfl) _
  unfold cfilSockUdpNotifyShutdown
  split
  · rename_i db _ db_eq
    exact inv.apply kept _ db_eq rfl rfl
  · exact inv

theorem dataPending (inv : IdsInv so) (outgoing : Bool) : IdsInv (cfilSockUdpDataPending outgoing so).1 := by
  unfold cfilSockUdpDataPending
  split
  · exact inv.of_db rfl rfl
  · exact inv

theorem shutdown (inv : IdsInv so) (shutRd shutWr : Bool) : IdsInv (cfilSockUdpShutdown env shutRd shutWr so).1 :=
  shutdown_of_steps env IdsInv shutRd shutWr inv (fun rd wr flag _ held => held.notifyShutdown env rd wr true flag)
    fun _ held => held.dataPending true

theorem filtersAttached (inv : IdsInv so) (needWait : Bool) (sleep : SleepEnd) :
    IdsInv (cfilFiltersUdpAttached needWait sleep so).1 := by
  have kept : ∀ attached e, IdKept e (cfilFiltersUdpAttachedPerFlow needWait sleep attached e).2.1 := fun attached e => by
    unfold cfilFiltersUdpAttachedPerFlow
    split
    · exact .refl e
    · rename_i ctxt
      split
      · exact .refl e
      · split
        · exact .refl e
        · cases sleep <;> exact .relink (by rw [ctxt]; rfl) _
  unfold cfilFiltersUdpAttached
  split
  · rename_i db _ db_eq
    exact inv.apply kept false db_eq rfl rfl
  · exact inv

theorem closeWait : ∀ (sleeps : List SleepEnd) {so : DgramSock}, IdsInv so → IdsInv (cfilSockUdpCloseWait env sleeps so)
  | [], _, inv => inv
  | sleep :: sleeps, so, inv => by
    have waited := (inv.notifyShutdown env true true false .none).filtersAttached true sleep
    unfold cfilSockUdpCloseWait
    split
    · exact inv
    · dsimp only
      split
      · exact waited
      · exact closeWait sleeps waited

theorem newInfo (inv : IdsInv so) (g : Global) (filterControlUnit : Nat) :
    IdsInv (cfilSockUdpNewInfo env g filterControlUnit idx e so).1 := by
  have ok : ∀ u, IdOk so.soGencnt
      { e with soflowFeatCtxt := some u, soflowFeatCtxtId := udpSockId so.soGencnt e.soflowFlowhash } := fun _ _ => rfl
  unfold cfilSockUdpNewInfo
  dsimp only
  generalize cfilInfoAttachUnit _ _ _ = r
  obtain ⟨s, attached⟩ := r
  cases attached
  · exact inv
  · generalize cfilDispatchAttachEvent env none s = r
    obtain ⟨s₁, error⟩ := r
    dsimp only
    split_ifs
    · exact inv
    · exact (inv.setEntry (ok _)).of_db rfl rfl
    · exact (inv.setEntry (ok _)).of_db rfl rfl

theorem getInfo (inv : IdsInv so) (g : Global) (filterControlUnit : Nat) (found : so.entry? idx = some e) :
    IdsInv (cfilSockUdpGetInfo env g filterControlUnit idx e so).1 := by
  unfold cfilSockUdpGetInfo
  split
  · rename_i u ctxt
    split_ifs
    · exact inv
    · exact inv.setEntry (IdKept.relink (by rw [ctxt]; rfl) _ _ (inv.mem found))
    · exact inv
    · exact inv
    · exact inv.newInfo env g filterControlUnit
  · exact inv.newInfo env g filterControlUnit

theorem handleData (inv : IdsInv so) (sound : DgramInv env.msize so) (g : Global) (outgoing : Bool) (idx : Nat)
    (data : Chain) : IdsInv (cfilSockUdpHandleData env g outgoing idx data so).1 := by
  unfold cfilSockUdpHandleData
  split_ifs
  · exact inv
  · exact inv
  split
  · exact inv
  · rename_i e found
    dsimp only
    split_ifs
    · exact inv
    · exact inv
    · exact inv
    have looked := sound.getInfo env g e.soflowFilterControlUnit found
    have kept := inv.getInfo env g e.soflowFilterControlUnit found
    generalize cfilSockUdpGetInfo env g _ idx e so = r at looked kept ⊢
    obtain ⟨so', _ | u⟩ := r
    · exact kept
    · dsimp only
      split
      · exact kept
      · exact kept.putFlow (looked.linked u rfl).1 u (dataCommon_siblings env outgoing data _)

theorem ctlSend (inv : IdsInv so) (k : Kcunit) (action : CfilAction) (now : Timeval) (sockId : Nat) :
    IdsInv (so.ctlSend env k action now sockId).1 := by
  unfold DgramSock.ctlSend
  split
  · exact inv
  · split
    · exact inv
    · rename_i u linked
      exact inv.putFlow linked _ (ctlSendDgram_siblings env k action now _ u)

theorem unlinkFlow_soGencnt {so : DgramSock} : (cfilSockUdpUnlinkFlow so).soGencnt = so.soGencnt := by
  unfold cfilSockUdpUnlinkFlow
  split <;> rfl

theorem gc (inv : IdsInv so) (now : Timeval) (idx : Nat) : IdsInv (so.step env (.gc now idx)) := by
  dsimp only [DgramSock.step]
  split
  · exact inv
  · rename_i e found
    split
    · exact inv
    · unfold cfilDgramGcPerform
      cases e.soflowFeatCtxt with
      | none => exact inv
      | some u =>
        refine IdsInv.mapEntry ?_ fun _ _ _ _ cleared => by cases cleared
        exact inv.of_db DgramSock.unlinkFlow_db unlinkFlow_soGencnt

theorem detachEntry_soGencnt (e : SoflowHashEntry) : (cfilDgramDetachEntry e so).1.soGencnt = so.soGencnt := by
  unfold cfilDgramDetachEntry
  split
  · rfl
  · exact unlinkFlow_soGencnt

theorem step (inv : IdsInv so) (sound : DgramInv env.msize so) (op : DgramOp) : IdsInv (so.step env op) := by
  cases op with
  | soflowAdd flowhash filterControlUnit policiesGencount =>
    intro x mem
    dsimp only [DgramSock.step] at mem
    simp only [Option.getD_some, List.mem_append, List.mem_singleton] at mem
    rcases mem with old | rfl
    · exact inv x old
    · intro linked; cases linked
  | soflowUpdate idx _ _ => exact inv.mapEntry fun e _ => IdKept.refl e
  | soflowRemove idx =>
    dsimp only [DgramSock.step]
    split
    · exact inv
    · rename_i e found
      intro x mem
      rw [detachEntry_soGencnt]
      cases db : so.soFlowDb with
      | none => simp only [db, Option.map_none', Option.getD_none, List.not_mem_nil] at mem
      | some l =>
        simp only [db, Option.map_some', Option.getD_some] at mem
        exact inv x (by rw [db, Option.getD_some]; exact List.mem_of_mem_eraseIdx mem)
  | data g outgoing idx m =>
    have handled := inv.handleData env sound g outgoing idx m
    dsimp only [DgramSock.step]
    split
    · exact handled.of_db rfl rfl
    · exact handled
  | action k a now sockId => exact inv.ctlSend env k a now sockId
  | bless k sockId =>
    dsimp only [DgramSock.step, cfilActionBlessClientDgram]
    split
    · exact inv.of_db rfl rfl
    · split
      · exact inv
      · exact inv.runFlow _ fun t => (actionDataPass_siblings env true k _ _ t).trans (actionDataPass_siblings env false k _ _ _)
  | ctlDisconnect idx k activeCount =>
    show IdsInv (so.ctlDisconnect env idx k activeCount)
    unfold DgramSock.ctlDisconnect
    split
    · exact inv
    · rename_i u linked
      exact inv.putFlow linked _ (ctlDisconnect_siblings env k _)
  | flowControl k raised => exact inv.of_db rfl rfl
  | bufUpdate outgoing =>
    dsimp only [DgramSock.step, cfilSockUdpBufUpdate]
    split
    · exact inv
    · exact inv.applyFlows (sockBufUpdate_siblings env outgoing)
  | shutdown shutRd shutWr => exact inv.shutdown env shutRd shutWr
  | close => exact inv.applyFlows (sockIsClosed_siblings env)
  | closeWait sleeps => exact inv.closeWait env sleeps
  | gc now idx => exact inv.gc env now idx
  | dbFree => intro x mem; cases mem

end IdsInv

theorem DgramReachable.ids {env : Env} {so : DgramSock} (reach : DgramReachable env so) : IdsInv so := by
  induction reach with
  | init => intro x mem; cases mem
  | step op reach ih => exact ih.step env reach.inv op

theorem udpSockId_eq_iff (soGencnt h h' : Nat) :
    udpSockId soGencnt h = udpSockId soGencnt h' ↔ h % 2 ^ 32 = h' % 2 ^ 32 := by
  have lt : ∀ x, x % 2 ^ 32 < 2 ^ 32 := fun x => Nat.mod_lt _ (by decide)
  rw [udpSockId_eq_tcpSockId, udpSockId_eq_tcpSockId, tcpSockId_eq (lt h), tcpSockId_eq (lt h')]
  omega

theorem findIdx?_first {α : Type} {p : α → Bool} : ∀ (l : List α) (n i : Nat) {a : α}, l[n]? = some a → p a = true →
    (∀ j < n, ∀ b, l[j]? = some b → p b = false) → l.findIdx? p i = some (i + n)
  | [], _, _, _, at_n, _, _ => by simp at at_n
  | x :: xs, 0, i, a, at_n, passes, _ => by
    simp only [List.getElem?_cons_zero, Option.some.injEq] at at_n
    subst at_n
    simp [List.findIdx?_cons, passes]
  | x :: xs, n + 1, i, a, at_n, passes, before => by
    have skipped := before 0 (Nat.succ_pos n) x (List.getElem?_cons_zero ..)
    rw [List.findIdx?_cons, skipped, if_neg Bool.false_ne_true,
      findIdx?_first xs n (i + 1) (by simpa using at_n) passes fun j lt b at_j =>
        before (j + 1) (by omega) b (by simpa using at_j)]
    congr 1
    omega

theorem ctxtIndex?_eq {so : DgramSock} (ids : IdsInv so) {idx : Nat} {e : SoflowHashEntry}
    (found : so.entry? idx = some e) (linked : e.soflowFeatCtxt.isSome)
    (first : ∀ j < idx, ∀ e', so.entry? j = some e' → e'.soflowFeatCtxt.isSome →
      e'.soflowFlowhash % 2 ^ 32 ≠ e.soflowFlowhash % 2 ^ 32) :
    so.ctxtIndex? e.soflowFeatCtxtId = some idx := by
  obtain ⟨db, db_eq, at_idx⟩ := DgramSock.entry?_eq_some found
  have entry_at : ∀ j e', db[j]? = some e' → so.entry? j = some e' := fun j e' at_j => by
    simp [DgramSock.entry?, db_eq, at_j]
  unfold DgramSock.ctxtIndex?
  rw [db_eq, Option.getD_some]
  refine (findIdx?_first db idx 0 at_idx (by simp [linked]) fun j lt e' at_j => ?_).trans (by rw [Nat.zero_add])
  refine Bool.eq_false_iff.2 fun passes => ?_
  simp only [Bool.and_eq_true, beq_iff_eq] at passes
  have same : udpSockId so.soGencnt e'.soflowFlowhash = udpSockId so.soGencnt e.soflowFlowhash :=
    (ids.mem (entry_at j e' at_j) passes.1).symm.trans (passes.2.trans (ids.mem found linked))
  exact first j lt e' (entry_at j e' at_j) passes.1 ((udpSockId_eq_iff _ _ _).1 same)

theorem findIdx?_le {α : Type} {p : α → Bool} : ∀ (l : List α) (n i : Nat) {a : α}, l[n]? = some a → p a = true →
    ∃ m ≤ n, l.findIdx? p i = some (i + m)
  | [], _, _, _, at_n, _ => by simp at at_n
  | x :: xs, n, i, a, at_n, passes => by
    rw [List.findIdx?_cons]
    cases first : p x
    · cases n with
      | zero =>
        simp only [List.getElem?_cons_zero, Option.some.injEq] at at_n
        subst at_n
        simp [passes] at first
      | succ n =>
        obtain ⟨m, le, later⟩ := findIdx?_le xs n (i + 1) (by simpa using at_n) passes
        exact ⟨m + 1, by omega, by rw [if_neg Bool.false_ne_true, later]; congr 1; omega⟩
    · exact ⟨0, Nat.zero_le n, by simp⟩

theorem sockIdFromDatagramSocket_eq {so : DgramSock} {idx : Nat} {e : SoflowHashEntry} (found : so.entry? idx = some e) :
    cfilSockIdFromDatagramSocket so idx = e.soflowFeatCtxtId := by
  obtain ⟨db, db_eq, _⟩ := DgramSock.entry?_eq_some found
  simp only [cfilSockIdFromDatagramSocket, db_eq, found, Option.map_some', Option.getD_some]

section Routing

variable {env : Env} {so : DgramSock}

/-- On every run of a datagram socket, a message addressed to a linked flow's id reaches it,
unless another socket or an earlier flow with the same low hash fits the id first. -/
theorem dgram_message_reaches_flow (reach : DgramReachable env so) {idx : Nat} {e : SoflowHashEntry} (found : so.entry? idx = some e)
    (linked : e.soflowFeatCtxt.isSome)
    (distinct : ∀ j < idx, ∀ e', so.entry? j = some e' → e'.soflowFeatCtxt.isSome →
      e'.soflowFlowhash % 2 ^ 32 ≠ e.soflowFlowhash % 2 ^ 32)
    {pcbs : PcbInfo} {before after : List Pcb} {p : Pcb} (gen : p.soGencnt = so.soGencnt)
    (listed : pcbs.udb = before ++ p :: after) (withDb : p.live = true ∧ p.hasSocket = true ∧ p.hasFlowDb = true)
    (locked : p.safeLock = true)
    (noTcp : ∀ q ∈ pcbs.tcb, q.live = true → q.hasSocket = true → q.hasCfil = true →
      q.inpFlowhash = e.soflowFlowhash % 2 ^ 32 → q.soGencnt % 2 ^ 32 ≠ p.soGencnt % 2 ^ 32)
    (first : ∀ q ∈ before, q.live = true → q.hasSocket = true → q.hasFlowDb = true →
      q.soGencnt % 2 ^ 32 ≠ p.soGencnt % 2 ^ 32) :
    cfilSocketFromSockId pcbs (cfilSockIdFromDatagramSocket so idx) false = some p ∧
      so.ctxtIndex? (cfilSockIdFromDatagramSocket so idx) = some idx := by
  have ids := reach.ids
  rw [sockIdFromDatagramSocket_eq found]
  refine ⟨?_, ctxtIndex?_eq ids found linked distinct⟩
  rw [ids.mem found linked, ← gen]
  exact udpSockId_finds listed withDb locked _ noTcp first

/-- On every run of a datagram socket, two linked flows whose hashes agree in their low 32
bits carry one id, and a message addressed to the later one does not reach it: the id
does not tell the two flows apart. -/
theorem dgram_flows_sharing_low_hash_share_id (reach : DgramReachable env so) {i j : Nat} {e e' : SoflowHashEntry} (earlier : i < j)
    (found : so.entry? i = some e) (found' : so.entry? j = some e') (linked : e.soflowFeatCtxt.isSome)
    (linked' : e'.soflowFeatCtxt.isSome) (same : e.soflowFlowhash % 2 ^ 32 = e'.soflowFlowhash % 2 ^ 32) :
    e'.soflowFeatCtxtId = e.soflowFeatCtxtId ∧ so.ctxtIndex? e'.soflowFeatCtxtId ≠ some j := by
  have ids := reach.ids
  have shared : e'.soflowFeatCtxtId = e.soflowFeatCtxtId := by
    rw [ids.mem found' linked', ids.mem found linked, udpSockId_eq_iff]
    exact same.symm
  refine ⟨shared, fun reached => ?_⟩
  obtain ⟨db, db_eq, at_i⟩ := DgramSock.entry?_eq_some found
  obtain ⟨m, le, earliest⟩ := @findIdx?_le _ (fun x => x.soflowFeatCtxt.isSome && x.soflowFeatCtxtId == e'.soflowFeatCtxtId)
    db i 0 _ at_i (by simp [linked, shared])
  simp only [DgramSock.ctxtIndex?, db_eq, Option.getD_some] at reached
  rw [earliest, Option.some.injEq] at reached
  omega

end Routing

/-- A UDP socket with two flows of one hash, each sent a datagram. -/
def twoFlowSock : DgramSock :=
  ((oneFlowSock.step demoKernel (.soflowAdd 7 1 0)).step demoKernel (.data oneFilterGlobal true 1 (oneByte 2)))

theorem twoFlowSock_reachable : DgramReachable demoKernel twoFlowSock := .step _ (.step _ oneFlowSock_reachable)

/-- The first flow of `oneFlowSock`, as its entry. -/
def firstFlowEntry : SoflowHashEntry := (oneFlowSock.entry? 0).getD ⟨0, 0, 0, none, 0⟩

theorem oneFlowSock_message_reaches_flow :
    cfilSocketFromSockId demoPcbs (cfilSockIdFromDatagramSocket oneFlowSock 0) false = some dgramPcb ∧
      oneFlowSock.ctxtIndex? (cfilSockIdFromDatagramSocket oneFlowSock 0) = some 0 :=
  @dgram_message_reaches_flow demoKernel oneFlowSock oneFlowSock_reachable 0 firstFlowEntry rfl (by decide)
    (fun _ lt => absurd lt (Nat.not_lt_zero _)) demoPcbs [] [] dgramPcb rfl rfl ⟨rfl, rfl, rfl⟩ rfl
    (fun q mem => by simp only [demoPcbs, List.mem_singleton] at mem; subst mem; decide) (fun _ none => nomatch none)

/-- The two flows of `twoFlowSock`, as their entries. -/
def twoFlowEntry (i : Nat) : SoflowHashEntry := (twoFlowSock.entry? i).getD ⟨0, 0, 0, none, 0⟩

theorem twoFlowSock_flows_share_id :
    (twoFlowEntry 1).soflowFeatCtxtId = (twoFlowEntry 0).soflowFeatCtxtId ∧
      twoFlowSock.ctxtIndex? (twoFlowEntry 1).soflowFeatCtxtId ≠ some 1 :=
  @dgram_flows_sharing_low_hash_share_id demoKernel twoFlowSock twoFlowSock_reachable 0 1 (twoFlowEntry 0)
    (twoFlowEntry 1) (by decide) rfl rfl (by decide) (by decide) rfl

end ContentFilter
