import ContentFilter.Attach

/-! The agents' callbacks `cfil_ctl_send`, `cfil_ctl_disconnect` and `cfil_ctl_rcvd`, with a
ledger of the references, socket locks and `cfil_lck_rw` modes they take and give back. -/

namespace ContentFilter

/-- The mode the callback holds `cfil_lck_rw` in. -/
inductive RwHeld where
  | unlocked | shared | exclusive
  deriving DecidableEq, Repr

/-- A step of a callback on what it must give back. -/
inductive Resource where
  /-- A successful `os_ref_retain_try` on flow `id`. -/
  | retain (id : Nat)
  /-- `CFIL_INFO_FREE` of flow `id`. -/
  | free (id : Nat)
  /-- Socket `so` locked: returned locked by `cfil_socket_from_sock_id`, or `socket_lock`. -/
  | sockLock (so : Nat)
  | sockUnlock (so : Nat)
  | lockShared | unlockShared | lockExclusive | unlockExclusive
  /-- `cfil_rw_lock_shared_to_exclusive`, and whether it upgraded. -/
  | sharedToExclusive (upgraded : Bool)
  | exclusiveToShared
  deriving DecidableEq, Repr

/-- The mode of `cfil_lck_rw` after a step, or `none` for a step the mode does not allow.
A failed upgrade leaves the lock released. -/
def Resource.rw : Resource → RwHeld → Option RwHeld
  | .lockShared, .unlocked => some .shared
  | .unlockShared, .shared => some .unlocked
  | .lockExclusive, .unlocked => some .exclusive
  | .unlockExclusive, .exclusive => some .unlocked
  | .sharedToExclusive true, .shared => some .exclusive
  | .sharedToExclusive false, .shared => some .unlocked
  | .exclusiveToShared, .exclusive => some .shared
  | .retain _, held | .free _, held | .sockLock _, held | .sockUnlock _, held => some held
  | _, _ => none

/-- A ledger that moves `cfil_lck_rw` from mode `held` to mode `held'` in allowed steps,
and frees every flow and unlocks every socket as often as it retains and locks it. -/
structure Balanced (held held' : RwHeld) (ledger : List Resource) : Prop where
  refs : ∀ id, ledger.count (.retain id) = ledger.count (.free id)
  socks : ∀ so, ledger.count (.sockLock so) = ledger.count (.sockUnlock so)
  rw : ledger.foldlM (fun held e => e.rw held) held = some held'

namespace Balanced

theorem nil (held : RwHeld) : Balanced held held [] := ⟨fun _ => rfl, fun _ => rfl, rfl⟩

theorem append {held₁ held₂ held₃ : RwHeld} {first second : List Resource} (one : Balanced held₁ held₂ first)
    (two : Balanced held₂ held₃ second) : Balanced held₁ held₃ (first ++ second) where
  refs id := by simp only [List.count_append, one.refs, two.refs]
  socks so := by simp only [List.count_append, one.socks, two.socks]
  rw := by rw [List.foldlM_append, one.rw]; exact two.rw

theorem retain {held held' : RwHeld} {inner : List Resource} (balanced : Balanced held held' inner) (id : Nat) :
    Balanced held held' (.retain id :: inner ++ [.free id]) where
  refs x := by simp [List.count_cons, balanced.refs x]
  socks x := by simp [List.count_cons, balanced.socks x]
  rw := by
    have step : ∀ rest : List Resource,
        (Resource.retain id :: rest).foldlM (fun held e => e.rw held) held = rest.foldlM (fun held e => e.rw held) held :=
      fun _ => rfl
    rw [List.cons_append, step, List.foldlM_append, balanced.rw]
    rfl

theorem sock {held held' : RwHeld} {inner : List Resource} (balanced : Balanced held held' inner) (so : Nat) :
    Balanced held held' (.sockLock so :: inner ++ [.sockUnlock so]) where
  refs x := by simp [List.count_cons, balanced.refs x]
  socks x := by simp [List.count_cons, balanced.socks x]
  rw := by
    have step : ∀ rest : List Resource,
        (Resource.sockLock so :: rest).foldlM (fun held e => e.rw held) held = rest.foldlM (fun held e => e.rw held) held :=
      fun _ => rfl
    rw [List.cons_append, step, List.foldlM_append, balanced.rw]
    rfl

theorem shared : Balanced .unlocked .unlocked [.lockShared, .unlockShared] := ⟨fun _ => rfl, fun _ => rfl, rfl⟩

theorem exclusive : Balanced .unlocked .unlocked [.lockExclusive, .unlockExclusive] := ⟨fun _ => rfl, fun _ => rfl, rfl⟩

end Balanced

/-- The operations of an action message. -/
inductive CfmOp where
  | dataUpdate | drop | blessClient | setCryptoKey
  deriving DecidableEq, Repr

/-- The sizes and codes `cfil_ctl_send` checks a message against, from `content_filter.h`. -/
structure MsgLayout where
  hdrSize : Nat
  actionSize : Nat
  blessClientSize : Nat
  setCryptoKeySize : Nat
  versionCurrent : Nat
  typeAction : Nat
  opCode : CfmOp → Nat
  opCode_injective : Function.Injective opCode

/-- The case of `cfil_ctl_send`'s `switch (msghdr->cfm_op)` that an operation code takes. -/
def MsgLayout.opOf (layout : MsgLayout) (op : Nat) : Option CfmOp :=
  [CfmOp.dataUpdate, .drop, .blessClient, .setCryptoKey].find? (layout.opCode · = op)

/-- The size of the message of each operation. -/
def MsgLayout.opSize (layout : MsgLayout) : CfmOp → Nat
  | .dataUpdate | .drop => layout.actionSize
  | .blessClient => layout.blessClientSize
  | .setCryptoKey => layout.setCryptoKeySize

/-- The header `struct cfil_msg_hdr` as `cfil_ctl_send` reads it; `cfm_sock_id` is read
by the socket lookup, whose result is an argument of the call. -/
structure CfilMsgHdr where
  cfmLen : Nat
  cfmVersion : Nat
  cfmType : Nat
  cfmOp : Nat
  deriving DecidableEq, Repr

/-- The verdict of `struct cfil_msg_action`. -/
structure CfilMsgAction where
  cfaInPassOffset : Nat
  cfaInPeekOffset : Nat
  cfaOutPassOffset : Nat
  cfaOutPeekOffset : Nat
  cfaStatsFrequency : Nat
  deriving DecidableEq, Repr

/-- An mbuf chain handed to `cfil_ctl_send`: its `m_length`, and its bytes read as a
header and as an action message. -/
structure CtlMsg where
  mLength : Nat
  hdr : CfilMsgHdr
  action : CfilMsgAction
  deriving DecidableEq, Repr

/-- What `cfil_socket_from_sock_id` and the socket give for `cfm_sock_id`: no socket, or a
socket `so`, returned locked, with no `cfil_info` for the id or with its flow `id`. -/
inductive SockLookup where
  | noSocket
  | noFlow (so : Nat)
  | found (so id : Nat)
  deriving DecidableEq, Repr

/-- The flow a lookup names. -/
def SockLookup.flow : SockLookup → Option Nat
  | .noSocket | .noFlow _ => none
  | .found _ id => some id

/-- What `cfil_socket_from_client_uuid` gives for `cfb_client_uuid`: no socket, or a
socket, returned locked, with its flow when it is attached. -/
inductive ClientLookup where
  | noSocket
  | socket (so : Nat) (flow : Option Nat)
  deriving DecidableEq, Repr

/-- What `cfil_ctl_send` finds outside the registry: the socket of `cfm_sock_id`, the
socket of a blessed client, and whether `cfil_crypto_init_client` takes a key. -/
structure SendLookups where
  sock : SockLookup
  client : ClientLookup
  cryptoInit : Bool
  deriving DecidableEq, Repr

section Verdict

variable (env : Env) (k : Kcunit)

/-- The outgoing half of a `DATA_UPDATE`: `cfil_sock_received_verdict`, then the pass when
an outgoing offset is set, `EJUSTRETURN` read as success. -/
def ctlSendVerdictOut (outPass outPeek : Nat) (s : FlowSt) : FlowSt × Errno :=
  let s := cfilSockReceivedVerdict s
  let (s, error) := if outPeek ≠ 0 || outPass ≠ 0 then cfilActionDataPass env true k outPass outPeek s else (s, .ok)
  (s, if error = .ejustreturn then .ok else error)

/-- The incoming half of a `DATA_UPDATE`. -/
def ctlSendVerdictIn (inPass inPeek : Nat) (s : FlowSt) : FlowSt × Errno :=
  let (s, error) := if inPeek ≠ 0 || inPass ≠ 0 then cfilActionDataPass env false k inPass inPeek s else (s, .ok)
  (s, if error = .ejustreturn then .ok else error)

theorem cfilCtlSend_dataUpdate (outPass outPeek inPass inPeek : Nat) (s : FlowSt) :
    cfilCtlSend env k (.dataUpdate outPass outPeek inPass inPeek) s =
      if s.info.cfiFlags.drop then (s, .einval)
      else if (s.entry k).cfeFilter.isNone then (s, .einval)
      else if !(s.entry k).cfeFlags.sentSockAttached then (s, .einval)
      else
        let out := ctlSendVerdictOut env k outPass outPeek (s.setEflags k { (s.entry k).cfeFlags with dataStart := true })
        if out.2 ≠ .ok then out else ctlSendVerdictIn env k inPass inPeek out.1 := by
  simp only [cfilCtlSend, ctlSendVerdictOut, ctlSendVerdictIn]

end Verdict

namespace Registry

variable (env : Env) (r : Registry)

/-- `cfil_ctl_send` for a `DATA_UPDATE` (`verdict`) or a `DROP` from the agent on unit `k`,
from the socket lookup on. -/
def ctlSendToFlow (k : Kcunit) (verdict : Bool) (a : CfilMsgAction) : SockLookup → Registry × Errno × List Resource
  | .noSocket => (r, .einval, [])
  | .noFlow so => (r, .einval, [.sockLock so, .sockUnlock so])
  | .found so id =>
    let held : List Resource → List Resource := fun inner => .sockLock so :: (.retain id :: inner ++ [.free id]) ++ [.sockUnlock so]
    match r.info? id with
    | none => (r, .einval, held [])
    | some f =>
      if f.info.cfiFlags.drop then (r, .einval, held [])
      else if (f.info.cfiEntries k).cfeFilter.isNone then (r, .einval, held [])
      else if !(f.info.cfiEntries k).cfeFlags.sentSockAttached then (r, .einval, held [])
      else
        let s := (r.flowSt f).setEflags k { (f.info.cfiEntries k).cfeFlags with dataStart := true }
        if verdict then
          let (s, error) := ctlSendVerdictOut env k a.cfaOutPassOffset a.cfaOutPeekOffset s
          if error ≠ .ok then (r.putFlow id s, error, held [])
          else
            let (s, error) := ctlSendVerdictIn env k a.cfaInPassOffset a.cfaInPeekOffset s
            ((r.putFlow id s).cfilInfoStatsToggle id (some k) a.cfaStatsFrequency, error,
              held [.lockExclusive, .unlockExclusive])
        else
          let (s, error) := cfilActionDrop k s
          (r.putFlow id (cfilSockReceivedVerdict s), error, held [])

/-- `cfil_action_bless_client`: the client's socket, if attached, gets a pass-all both ways
on the agent's entry; an unattached socket is marked to skip the filter, which is outside
the registry. -/
def ctlBlessClient (k : Kcunit) : ClientLookup → Registry × Errno × List Resource
  | .noSocket => (r, .enoent, [])
  | .socket so none => (r, .ok, [.sockLock so, .sockUnlock so])
  | .socket so (some id) => (r.runFlow id fun s => (cfilActionBlessClient env k s).1, .ok, [.sockLock so, .sockUnlock so])

/-- `cfil_action_set_crypto_key`: the filter on the unit takes the new crypto state, which
is outside the registry. With no filter in the slot the code dereferences NULL, modelled as
a fired check. -/
def ctlSetCryptoKey (k : Kcunit) (cryptoInit : Bool) : Registry × Errno × List Resource :=
  if !cryptoInit then (r, .einval, [])
  else
    match r.contentFilters k with
    | none => (r.verify false, .einval, [.lockExclusive, .unlockExclusive])
    | some cfc =>
      if cfc.cfKcunit ≠ k.val + 1 then (r, .einval, [.lockExclusive, .unlockExclusive])
      else (r, .ok, [.lockExclusive, .unlockExclusive])

/-- `cfil_ctl_send`'s `switch (msghdr->cfm_op)` and what follows it, for a message that
passed the header checks, from the agent on unit `k` whose `unitinfo` is filter `cfc`. -/
def ctlSendOp (layout : MsgLayout) (k : Kcunit) (cfc : Nat) (m : CtlMsg) (lookups : SendLookups) :
    Registry × Errno × List Resource :=
  match layout.opOf m.hdr.cfmOp with
  | none => (r, .einval, [])
  | some .blessClient =>
    if m.hdr.cfmLen ≠ layout.blessClientSize then (r, .einval, []) else r.ctlBlessClient env k lookups.client
  | some .setCryptoKey =>
    if m.hdr.cfmLen ≠ layout.setCryptoKeySize then (r, .einval, []) else r.ctlSetCryptoKey k lookups.cryptoInit
  | some op =>
    if m.hdr.cfmLen ≠ layout.actionSize then (r, .einval, [])
    else if (r.contentFilters k).map (·.cfId) ≠ some cfc then (r, .einval, [.lockShared, .unlockShared])
    else
      let (r, error, ledger) := r.ctlSendToFlow env k (op = .dataUpdate) m.action lookups.sock
      (r, error, .lockShared :: .unlockShared :: ledger)

/-- `cfil_ctl_send` from the agent on unit `k` (so `kcunit` is at most
`MAX_CONTENT_FILTER`), with `unitinfo` and the mbuf chain, if any. -/
def cfilCtlSend (layout : MsgLayout) (k : Kcunit) (unitinfo : Option Nat) (m : Option CtlMsg) (lookups : SendLookups) :
    Registry × Errno × List Resource :=
  match unitinfo, m with
  | none, _ => (r, .einval, [])
  | some _, none => (r, .einval, [])
  | some cfc, some m =>
    if m.mLength < layout.hdrSize then (r, .einval, [])
    else if m.hdr.cfmVersion ≠ layout.versionCurrent then (r, .einval, [])
    else if m.hdr.cfmType ≠ layout.typeAction then (r, .einval, [])
    else if m.mLength < m.hdr.cfmLen then (r, .einval, [])
    else r.ctlSendOp env layout k cfc m lookups

end Registry

/-- How a round of `cfil_ctl_disconnect` reaches the socket of its flow:
`os_ref_retain_try` fails; or the flow is retained and `cfil_socket_from_sock_id` returns
no socket, a socket other than `cfi_so` (locked), or `cfi_so` (locked). -/
inductive DisconnectLookup where
  | retainFailed
  | noSocket
  | otherSocket (so : Nat)
  | found
  deriving DecidableEq, Repr

/-- The path of the registry's round that each lookup takes. -/
def DisconnectLookup.path : DisconnectLookup → DisconnectPath
  | .retainFailed => .retainFailed
  | .noSocket | .otherSocket _ => .socketGone
  | .found => .found

/-- `release_cfil_info:` of `cfil_ctl_disconnect`: the free, outside the exclusive lock. -/
def releaseCfilInfo (id : Nat) : List Resource := [.unlockExclusive, .free id, .lockExclusive]

/-- The ledger of a round of `cfil_ctl_disconnect`'s loop on an entry of flow `id`, whose
socket is `cfiSo`, entered with the exclusive lock. -/
def ctlDisconnectRoundLedger (id cfiSo : Nat) : DisconnectLookup → List Resource
  | .retainFailed => []
  | .noSocket => [.retain id, .unlockExclusive, .lockExclusive] ++ releaseCfilInfo id
  | .otherSocket so => [.retain id, .unlockExclusive, .sockLock so, .lockExclusive] ++ releaseCfilInfo id
  | .found => [.retain id, .unlockExclusive, .sockLock cfiSo, .lockExclusive, .sockUnlock cfiSo] ++ releaseCfilInfo id

/-- What a round of `cfil_ctl_rcvd`'s loop meets: no flow-controlled entry, one whose flow
`os_ref_retain_try` refuses, or flow `id` of socket `so`, retained and serviced. -/
inductive RcvdRound where
  | noEntry
  | retainFailed
  | serviced (id so : Nat)
  deriving DecidableEq, Repr

/-- The ledger of `cfil_ctl_rcvd`'s loop, entered with the shared lock; a round without a
flow to service ends it. -/
def ctlRcvdLoopLedger : List RcvdRound → List Resource
  | [] | .noEntry :: _ | .retainFailed :: _ => []
  | .serviced id so :: rest =>
    .retain id :: .unlockShared :: .sockLock so :: .free id :: .sockUnlock so :: .lockShared :: ctlRcvdLoopLedger rest

/-- The ledger of `cfil_ctl_rcvd` from the agent on a unit. -/
def ctlRcvdLedger (unitinfo : Option Nat) (matched flowControlled upgraded : Bool) (rounds : List RcvdRound) :
    List Resource :=
  match unitinfo with
  | none => []
  | some _ =>
    .lockShared ::
      (if !matched then [.unlockShared]
      else
        (if flowControlled then
          (if upgraded then [.sharedToExclusive true] else [.sharedToExclusive false, .lockExclusive]) ++ [.exclusiveToShared]
        else []) ++ ctlRcvdLoopLedger rounds ++ [.unlockShared])

namespace Balanced

theorem lockShared : Balanced .unlocked .shared [.lockShared] := ⟨fun _ => rfl, fun _ => rfl, rfl⟩

theorem unlockShared : Balanced .shared .unlocked [.unlockShared] := ⟨fun _ => rfl, fun _ => rfl, rfl⟩

theorem upgrade : Balanced .shared .shared [.sharedToExclusive true, .exclusiveToShared] := ⟨fun _ => rfl, fun _ => rfl, rfl⟩

theorem relock : Balanced .shared .shared [.sharedToExclusive false, .lockExclusive, .exclusiveToShared] :=
  ⟨fun _ => rfl, fun _ => rfl, rfl⟩

end Balanced

namespace Registry

variable (env : Env) (r : Registry)

theorem ctlSendToFlow_balanced (k : Kcunit) (verdict : Bool) (a : CfilMsgAction) (lookup : SockLookup) :
    Balanced .unlocked .unlocked (r.ctlSendToFlow env k verdict a lookup).2.2 := by
  cases lookup with
  | noSocket => exact .nil _
  | noFlow so => exact (Balanced.nil _).sock so
  | found so id =>
    have held : ∀ inner, Balanced .unlocked .unlocked inner →
        Balanced .unlocked .unlocked (.sockLock so :: (.retain id :: inner ++ [.free id]) ++ [.sockUnlock so]) :=
      fun _ inner => (inner.retain id).sock so
    simp only [ctlSendToFlow]
    split
    · exact held _ (.nil _)
    next f _ =>
    by_cases dropped : f.info.cfiFlags.drop = true
    · rw [if_pos dropped]; exact held _ (.nil _)
    rw [if_neg dropped]
    by_cases detached : (f.info.cfiEntries k).cfeFilter.isNone = true
    · rw [if_pos detached]; exact held _ (.nil _)
    rw [if_neg detached]
    by_cases unsent : (!(f.info.cfiEntries k).cfeFlags.sentSockAttached) = true
    · rw [if_pos unsent]; exact held _ (.nil _)
    rw [if_neg unsent]
    cases verdict
    · exact held _ (.nil _)
    · rw [if_pos rfl]
      split
      · exact held _ (.nil _)
      · exact held _ .exclusive

theorem ctlSendOp_balanced (layout : MsgLayout) (k : Kcunit) (cfc : Nat) (m : CtlMsg) (lookups : SendLookups) :
    Balanced .unlocked .unlocked (r.ctlSendOp env layout k cfc m lookups).2.2 := by
  unfold ctlSendOp
  split
  · exact .nil _
  · split_ifs
    · exact .nil _
    · cases lookups.client with
      | noSocket => exact .nil _
      | socket so flow => cases flow <;> exact (Balanced.nil _).sock so
  · split_ifs
    · exact .nil _
    · unfold ctlSetCryptoKey
      split_ifs
      · exact .nil _
      · split
        · exact .exclusive
        · split_ifs <;> exact .exclusive
  · split_ifs
    · exact .nil _
    · exact .shared
    · exact Balanced.shared.append (r.ctlSendToFlow_balanced env k _ m.action lookups.sock)

theorem cfilCtlSend_balanced (layout : MsgLayout) (k : Kcunit) (unitinfo : Option Nat) (m : Option CtlMsg)
    (lookups : SendLookups) : Balanced .unlocked .unlocked (r.cfilCtlSend env layout k unitinfo m lookups).2.2 := by
  unfold cfilCtlSend
  split
  · exact .nil _
  · exact .nil _
  · split_ifs
    all_goals first | exact .nil _ | exact r.ctlSendOp_balanced env layout k _ _ lookups

/-- The flow a lookup names refuses an action from the agent on unit `k`: no flow, one the
registry does not hold, one that is dropped, or one whose entry on the unit has no filter or
was not sent `SOCKET_ATTACHED`. -/
def refusesAction (k : Kcunit) : Option Nat → Bool
  | none => true
  | some id =>
    match r.info? id with
    | none => true
    | some f => f.info.cfiFlags.drop || (f.info.cfiEntries k).cfeFilter.isNone || !(f.info.cfiEntries k).cfeFlags.sentSockAttached

theorem ctlSendToFlow_refused (k : Kcunit) (verdict : Bool) (a : CfilMsgAction) (lookup : SockLookup)
    (refused : r.refusesAction k lookup.flow = true) :
    (r.ctlSendToFlow env k verdict a lookup).1 = r ∧ (r.ctlSendToFlow env k verdict a lookup).2.1 = .einval := by
  cases lookup with
  | noSocket => exact ⟨rfl, rfl⟩
  | noFlow so => exact ⟨rfl, rfl⟩
  | found so id =>
    simp only [SockLookup.flow, refusesAction] at refused
    simp only [ctlSendToFlow]
    split
    · exact ⟨rfl, rfl⟩
    · next f found =>
      rw [found] at refused
      simp only [Bool.or_eq_true, Bool.not_eq_true'] at refused
      rcases refused with (dropped | unlinked) | unsent
      · simp [dropped]
      · simp [unlinked]
      · simp [unsent]

end Registry

/-- The rejections of the `switch` on the operation and of what follows it: an unknown
operation, a length other than its message's, and for a `DATA_UPDATE` or a `DROP`, a
`unitinfo` other than the filter in the unit's slot or a flow that refuses the action. -/
def opRejects (layout : MsgLayout) (r : Registry) (k : Kcunit) (unitinfo : Nat) (m : CtlMsg) (lookup : SockLookup) : Bool :=
  match layout.opOf m.hdr.cfmOp with
  | none => true
  | some op => m.hdr.cfmLen ≠ layout.opSize op ||
    ((op = .dataUpdate || op = .drop) && ((r.contentFilters k).map (·.cfId) ≠ some unitinfo || r.refusesAction k lookup.flow))

/-- The rejections of an action message that the verdict path lists: shorter than a
header, another version or type, a length beyond the chain, or a rejection of its
operation. -/
def ctlSendRejects (layout : MsgLayout) (r : Registry) (k : Kcunit) (unitinfo : Nat) (m : CtlMsg) (lookup : SockLookup) :
    Bool :=
  m.mLength < layout.hdrSize || m.hdr.cfmVersion ≠ layout.versionCurrent || m.hdr.cfmType ≠ layout.typeAction ||
    m.mLength < m.hdr.cfmLen || opRejects layout r k unitinfo m lookup

theorem Registry.ctlSendOp_rejected (env : Env) (r : Registry) (layout : MsgLayout) (k : Kcunit) (cfc : Nat) (m : CtlMsg)
    (lookups : SendLookups) (rejects : opRejects layout r k cfc m lookups.sock = true) :
    (r.ctlSendOp env layout k cfc m lookups).1 = r ∧ (r.ctlSendOp env layout k cfc m lookups).2.1 = .einval := by
  unfold opRejects at rejects
  unfold ctlSendOp
  cases found : layout.opOf m.hdr.cfmOp with
  | none => exact ⟨rfl, rfl⟩
  | some op =>
    simp only [found] at rejects ⊢
    cases op with
    | blessClient =>
      have len : m.hdr.cfmLen ≠ layout.blessClientSize := by simpa [MsgLayout.opSize] using rejects
      simp [len]
    | setCryptoKey =>
      have len : m.hdr.cfmLen ≠ layout.setCryptoKeySize := by simpa [MsgLayout.opSize] using rejects
      simp [len]
    | dataUpdate | drop =>
      by_cases len : m.hdr.cfmLen = layout.actionSize
      · by_cases slot : (r.contentFilters k).map (·.cfId) = some cfc
        · have refused : r.refusesAction k lookups.sock.flow = true := by
            simpa [MsgLayout.opSize, len, slot] using rejects
          simpa [len, slot] using r.ctlSendToFlow_refused env k _ m.action lookups.sock refused
        · simp [len, slot]
      · simp [len]

/-- A rejected action message leaves every flow, entry and filter of the registry as it
was, answers `EINVAL`, and gives back every reference and lock it took. -/
theorem rejected_verdict_changes_nothing (env : Env) (layout : MsgLayout) (r : Registry) (k : Kcunit) (unitinfo : Nat)
    (m : CtlMsg) (lookups : SendLookups) (rejects : ctlSendRejects layout r k unitinfo m lookups.sock = true) :
    (r.cfilCtlSend env layout k (some unitinfo) (some m) lookups).1 = r ∧
      (r.cfilCtlSend env layout k (some unitinfo) (some m) lookups).2.1 = .einval ∧
      Balanced .unlocked .unlocked (r.cfilCtlSend env layout k (some unitinfo) (some m) lookups).2.2 := by
  have settled : (r.cfilCtlSend env layout k (some unitinfo) (some m) lookups).1 = r ∧
      (r.cfilCtlSend env layout k (some unitinfo) (some m) lookups).2.1 = .einval := by
    simp only [Registry.cfilCtlSend]
    split_ifs with short version kind long
    · exact ⟨rfl, rfl⟩
    · exact ⟨rfl, rfl⟩
    · exact ⟨rfl, rfl⟩
    · exact ⟨rfl, rfl⟩
    simp only [ctlSendRejects, short, version, kind, long, Bool.or_eq_true, decide_eq_true_eq, false_or] at rejects
    exact r.ctlSendOp_rejected env layout k unitinfo m lookups rejects
  exact ⟨settled.1, settled.2, r.cfilCtlSend_balanced env layout k _ _ lookups⟩

/-- A layout for the examples. -/
def demoLayout : MsgLayout where
  hdrSize := 24
  actionSize := 64
  blessClientSize := 40
  setCryptoKeySize := 56
  versionCurrent := 1
  typeAction := 2
  opCode op := match op with
    | .dataUpdate => 16
    | .drop => 17
    | .blessClient => 18
    | .setCryptoKey => 19
  opCode_injective a b same := by cases a <;> cases b <;> first | rfl | exact absurd same (by decide)

/-- An action message of the examples, with operation `op` and every offset zero. -/
def actionMsg (op : Nat) : CtlMsg := ⟨64, ⟨64, 1, 2, op⟩, ⟨0, 0, 0, 0, 0⟩⟩

/-- A well-formed `DATA_UPDATE` to the agent of `oneFlowRegistry` whose sock id names no
socket: it passes every check of the header and of its length, and is refused at the
lookup. -/
theorem unknownSock_rejected :
    ctlSendRejects demoLayout oneFlowRegistry 0 0 (actionMsg 16) .noSocket = true ∧
      (oneFlowRegistry.cfilCtlSend demoKernel demoLayout 0 (some 0) (some (actionMsg 16))
          ⟨.noSocket, .noSocket, false⟩).1 = oneFlowRegistry ∧
      (oneFlowRegistry.cfilCtlSend demoKernel demoLayout 0 (some 0) (some (actionMsg 16))
          ⟨.noSocket, .noSocket, false⟩).2.1 = .einval ∧
      Balanced .unlocked .unlocked (oneFlowRegistry.cfilCtlSend demoKernel demoLayout 0 (some 0)
        (some (actionMsg 16)) ⟨.noSocket, .noSocket, false⟩).2.2 :=
  have rejects : ctlSendRejects demoLayout oneFlowRegistry 0 0 (actionMsg 16) .noSocket = true := by decide
  ⟨rejects, rejected_verdict_changes_nothing demoKernel demoLayout oneFlowRegistry 0 0 _ ⟨.noSocket, .noSocket, false⟩ rejects⟩

theorem ctlRcvdLoopLedger_balanced : ∀ rounds, Balanced .shared .shared (ctlRcvdLoopLedger rounds)
  | [] | .noEntry :: _ | .retainFailed :: _ => .nil _
  | .serviced id so :: rest =>
    have round : Balanced .shared .shared
        [.retain id, .unlockShared, .sockLock so, .free id, .sockUnlock so, .lockShared] :=
      ⟨fun x => by simp [List.count_cons], fun x => by simp [List.count_cons], rfl⟩
    round.append (ctlRcvdLoopLedger_balanced rest)

theorem ctlRcvdLedger_balanced (unitinfo : Option Nat) (matched flowControlled upgraded : Bool) (rounds : List RcvdRound) :
    Balanced .unlocked .unlocked (ctlRcvdLedger unitinfo matched flowControlled upgraded rounds) := by
  unfold ctlRcvdLedger
  split
  · exact .nil _
  have lifted : Balanced .shared .shared
      (if flowControlled then
        (if upgraded then [.sharedToExclusive true] else [.sharedToExclusive false, .lockExclusive]) ++ [.exclusiveToShared]
      else []) := by
    split_ifs
    · exact .upgrade
    · exact .relock
    · exact .nil _
  cases matched
  · exact Balanced.lockShared.append .unlockShared
  · exact Balanced.lockShared.append ((lifted.append (ctlRcvdLoopLedger_balanced rounds)).append .unlockShared)

/-- The callbacks give back what they take on every path but one: a disconnect round whose
lookup returns another socket, locked, leaves that socket locked. -/
theorem disconnect_round_leaves_other_socket_locked (env : Env) (layout : MsgLayout) :
    (∀ (r : Registry) k unitinfo m lookups, Balanced .unlocked .unlocked (r.cfilCtlSend env layout k unitinfo m lookups).2.2) ∧
    (∀ unitinfo matched flowControlled upgraded rounds,
      Balanced .unlocked .unlocked (ctlRcvdLedger unitinfo matched flowControlled upgraded rounds)) ∧
    (∀ id cfiSo, Balanced .exclusive .exclusive (ctlDisconnectRoundLedger id cfiSo .retainFailed) ∧
      Balanced .exclusive .exclusive (ctlDisconnectRoundLedger id cfiSo .noSocket) ∧
      Balanced .exclusive .exclusive (ctlDisconnectRoundLedger id cfiSo .found)) ∧
    ∀ id cfiSo so, (ctlDisconnectRoundLedger id cfiSo (.otherSocket so)).count (.sockLock so) = 1 ∧
      (ctlDisconnectRoundLedger id cfiSo (.otherSocket so)).count (.sockUnlock so) = 0 ∧
      (ctlDisconnectRoundLedger id cfiSo (.otherSocket so)).count (.retain id) =
        (ctlDisconnectRoundLedger id cfiSo (.otherSocket so)).count (.free id) ∧
      (ctlDisconnectRoundLedger id cfiSo (.otherSocket so)).foldlM (fun held e => e.rw held) .exclusive = some .exclusive :=
  have unlock : Balanced .exclusive .unlocked [.unlockExclusive] := ⟨fun _ => rfl, fun _ => rfl, rfl⟩
  have relock : Balanced .unlocked .exclusive [.lockExclusive] := ⟨fun _ => rfl, fun _ => rfl, rfl⟩
  ⟨fun r k _ _ lookups => r.cfilCtlSend_balanced env layout k _ _ lookups, ctlRcvdLedger_balanced,
    fun id cfiSo => ⟨.nil _, ((unlock.append (relock.append unlock)).retain id).append relock,
      ((unlock.append ((relock.sock cfiSo).append unlock)).retain id).append relock⟩,
    fun id cfiSo so => by simp [ctlDisconnectRoundLedger, releaseCfilInfo, List.count_cons]; rfl⟩

end ContentFilter
