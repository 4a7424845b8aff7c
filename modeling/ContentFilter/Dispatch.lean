import ContentFilter.State

/-! The event dispatchers, which send messages and set flags but touch no queue or offset. -/

namespace ContentFilter

variable (env : Env)

namespace FlowSt

/-- One `ctl_enqueuembuf`/`ctl_enqueuedata` to agent `k`: an accepted message joins the
agent's queue. -/
def ctlEnqueue (s : FlowSt) (k : Kcunit) (msg : CfilMsg) : FlowSt × Errno :=
  let error := env.ctlEnqueue s.ticks
  let s := { s with ticks := s.ticks + 1 }
  (if error = .ok then { s with outbox := s.outbox ++ [(k, s.info.cfiSockId, msg)] } else s, error)

/-- The `ENOBUFS` branch of a dispatch's `done:` label. -/
def flowControl (s : FlowSt) (k : Kcunit) : FlowSt :=
  { s.setEflags k { (s.entry k).cfeFlags with flowControlled := true } with
    cfFlowControlled := Function.update s.cfFlowControlled k true }

end FlowSt

/-- The end of a dispatch, after the transport's answer: `sent` records a delivered
message, `ENOBUFS` raises flow control. -/
def afterEnqueue (k : Kcunit) (sent : FlowSt → FlowSt) : FlowSt × Errno → FlowSt × Errno
  | (s, .ok) => (sent s, .ok)
  | (s, .enobufs) => (s.flowControl k, .enobufs)
  | (s, error) => (s, error)

/-- `cfil_dispatch_attach_event`; `none` is the source's `kcunit == 0`, the first
entry of `cfi_ordered_entries`. -/
def cfilDispatchAttachEvent (kcunit : Option Kcunit) (s : FlowSt) : FlowSt × Errno :=
  match kcunit <|> s.info.cfiOrderedEntries.head? with
  | none => (s, .ok)
  | some k =>
    let e := s.entry k
    if e.cfeFilter.isNone then (s, .ok)
    else if e.cfeFlags.sentSockAttached then (s, .ok)
    else if s.cfFlowControlled k then (s.flowControl k, .enobufs)
    else afterEnqueue k (fun s => s.setEflags k { (s.entry k).cfeFlags with sentSockAttached := true })
      (s.ctlEnqueue env k .sockAttached)

/-- `cfil_dispatch_data_event`: show the agent `copylen` bytes of `data` from
`copyoffset` on, as the span starting at `cfe_peeked`. -/
def cfilDispatchDataEvent (k : Kcunit) (outgoing : Bool) (data : Chain) (copyoffset copylen : Nat)
    (s : FlowSt) : FlowSt × Errno :=
  let e := s.entry k
  if e.cfeFilter.isNone then (s, .ok)
  else if s.cfFlowControlled k then (s.flowControl k, .enobufs)
  else
    let peeked := (e.buf outgoing).cfePeeked
    let msg := CfilMsg.dataEvent outgoing peeked (peeked + copylen) ((data.bytes.drop copyoffset).take copylen)
    afterEnqueue k (fun s => s.setEflags k { (s.entry k).cfeFlags with flowControlled := false })
      (s.ctlEnqueue env k msg)

/-- `SET_NO_CLOSE_WAIT`: a loopback flow without a verdict yet will not wait at close. -/
def setNoCloseWait (s : FlowSt) : FlowSt :=
  if s.sock.soLoopbackFaddr && !s.info.cfiFlags.initialVerdict then
    s.setIflags { s.info.cfiFlags with noCloseWait := true }
  else s

/-- `cfil_dispatch_disconnect_event`: sent once per direction, and for outgoing data only
once nothing waits in `cfe_ctl_q`. -/
def cfilDispatchDisconnectEvent (k : Kcunit) (outgoing : Bool) (s : FlowSt) : FlowSt × Errno :=
  if (s.entry k).cfeFilter.isNone then (s, .ok)
  else
    let s := setNoCloseWait s
    let e := s.entry k
    if (outgoing && e.cfeFlags.sentDisconnectOut) || (!outgoing && e.cfeFlags.sentDisconnectIn) then
      (s, .ok)
    else if outgoing && !(e.buf outgoing).cfeCtlQ.qMq.isEmpty then (s, .ebusy)
    else if s.cfFlowControlled k then (s.flowControl k, .enobufs)
    else afterEnqueue k
      (fun s => s.setEflags k (if outgoing then { (s.entry k).cfeFlags with sentDisconnectOut := true }
        else { (s.entry k).cfeFlags with sentDisconnectIn := true }))
      (s.ctlEnqueue env k (.disconnect outgoing))

/-- `cfil_dispatch_closed_event`: one `SOCKET_CLOSED` per agent that saw `SOCKET_ATTACHED`. -/
def cfilDispatchClosedEvent (k : Kcunit) (s : FlowSt) : FlowSt × Errno :=
  let e := s.entry k
  if e.cfeFilter.isNone then (s, .ok)
  else if s.cfFlowControlled k then (s.flowControl k, .enobufs)
  else if e.cfeFlags.sentSockClosed then (s, .ok)
  else if !e.cfeFlags.sentSockAttached then (s, .ok)
  else afterEnqueue k (fun s => s.setEflags k { (s.entry k).cfeFlags with sentSockClosed := true })
    (s.ctlEnqueue env k .sockClosed)

/-- What the events sent to a flow leave of its `cfil_info`: every buffer, every
attachment and the order of the entries. -/
structure InfoMoved (i i' : CfilInfo) : Prop where
  entryBuf : ∀ k outgoing, (i'.cfiEntries k).buf outgoing = (i.cfiEntries k).buf outgoing
  cfeFilter : ∀ k, (i'.cfiEntries k).cfeFilter = (i.cfiEntries k).cfeFilter
  buf : ∀ outgoing, i'.buf outgoing = i.buf outgoing
  ordered : i'.cfiOrderedEntries = i.cfiOrderedEntries

namespace InfoMoved

@[refl] theorem refl (i : CfilInfo) : InfoMoved i i := ⟨fun _ _ => rfl, fun _ => rfl, fun _ => rfl, rfl⟩

@[trans] theorem trans {i₁ i₂ i₃ : CfilInfo} (first : InfoMoved i₁ i₂) (second : InfoMoved i₂ i₃) : InfoMoved i₁ i₃ :=
  ⟨fun k d => (second.entryBuf k d).trans (first.entryBuf k d), fun k => (second.cfeFilter k).trans (first.cfeFilter k),
    fun d => (second.buf d).trans (first.buf d), second.ordered.trans first.ordered⟩

theorem forall₂_trans : ∀ {l₁ l₂ l₃ : List CfilInfo}, List.Forall₂ InfoMoved l₁ l₂ → List.Forall₂ InfoMoved l₂ l₃ →
    List.Forall₂ InfoMoved l₁ l₃
  | _, _, _, .nil, .nil => .nil
  | _, _, _, .cons first rest, .cons second rest' => .cons (first.trans second) (forall₂_trans rest rest')

end InfoMoved

/-- On a datagram socket, each of the other flows a flow call was lent is left as the
events sent to it leave it. -/
structure SiblingsMoved (s s' : FlowSt) : Prop where
  before : List.Forall₂ InfoMoved s.flowsBefore s'.flowsBefore
  after : List.Forall₂ InfoMoved s.flowsAfter s'.flowsAfter

namespace SiblingsMoved

theorem of_eq {s s' : FlowSt} (before : s'.flowsBefore = s.flowsBefore) (after : s'.flowsAfter = s.flowsAfter) :
    SiblingsMoved s s' :=
  ⟨before ▸ List.forall₂_same.mpr fun i _ => .refl i, after ▸ List.forall₂_same.mpr fun i _ => .refl i⟩

@[refl] theorem refl (s : FlowSt) : SiblingsMoved s s := of_eq rfl rfl

@[trans] theorem trans {s₁ s₂ s₃ : FlowSt} (first : SiblingsMoved s₁ s₂) (second : SiblingsMoved s₂ s₃) :
    SiblingsMoved s₁ s₃ :=
  ⟨InfoMoved.forall₂_trans first.before second.before, InfoMoved.forall₂_trans first.after second.after⟩

end SiblingsMoved

/-- `s'` differs from `s` at most in entry and flow flags other than `CFIF_DROP`, filter
flow control, the agents' queues and the call count: every buffer, offset, attachment,
and the socket are as they were, and the socket's other flows moved only by events. -/
structure EventsOnly (s s' : FlowSt) : Prop where
  ebuf : ∀ k outgoing, s'.ebuf k outgoing = s.ebuf k outgoing
  ibuf : ∀ outgoing, s'.ibuf outgoing = s.ibuf outgoing
  cfeFilter : ∀ k, (s'.entry k).cfeFilter = (s.entry k).cfeFilter
  ordered : s'.info.cfiOrderedEntries = s.info.cfiOrderedEntries
  sockId : s'.info.cfiSockId = s.info.cfiSockId
  drop : s'.info.cfiFlags.drop = s.info.cfiFlags.drop
  tailFlags : s'.tailFlags = s.tailFlags
  shutRd : s'.info.cfiFlags.shutRd = s.info.cfiFlags.shutRd
  sock : s'.sock = s.sock
  panicked : s'.panicked = s.panicked
  siblings : SiblingsMoved s s'

namespace EventsOnly

@[refl] theorem refl (s : FlowSt) : EventsOnly s s :=
  ⟨fun _ _ => rfl, fun _ => rfl, fun _ => rfl, rfl, rfl, rfl, rfl, rfl, rfl, rfl, .refl s⟩

theorem shutWr {s s' : FlowSt} (events : EventsOnly s s') : s'.info.cfiFlags.shutWr = s.info.cfiFlags.shutWr :=
  congrArg Prod.fst events.tailFlags

@[trans] theorem trans {s₁ s₂ s₃ : FlowSt} (first : EventsOnly s₁ s₂) (second : EventsOnly s₂ s₃) :
    EventsOnly s₁ s₃ where
  ebuf k d := (second.ebuf k d).trans (first.ebuf k d)
  ibuf d := (second.ibuf d).trans (first.ibuf d)
  cfeFilter k := (second.cfeFilter k).trans (first.cfeFilter k)
  ordered := second.ordered.trans first.ordered
  sockId := second.sockId.trans first.sockId
  drop := second.drop.trans first.drop
  tailFlags := second.tailFlags.trans first.tailFlags
  shutRd := second.shutRd.trans first.shutRd
  sock := second.sock.trans first.sock
  panicked := second.panicked.trans first.panicked
  siblings := first.siblings.trans second.siblings

theorem infoMoved {s s' : FlowSt} (events : EventsOnly s s') : InfoMoved s.info s'.info :=
  ⟨events.ebuf, events.cfeFilter, events.ibuf, events.ordered⟩

theorem setEflags (s : FlowSt) (k : Kcunit) (f : CfeFlags) : EventsOnly s (s.setEflags k f) where
  ebuf j d := by
    simp only [FlowSt.setEflags, FlowSt.ebuf, entry_setEntry_apply]
    split <;> simp_all [CfilEntry.buf]
  ibuf _ := rfl
  cfeFilter j := by
    simp only [FlowSt.setEflags, entry_setEntry_apply]; split <;> simp_all
  ordered := rfl
  sockId := rfl
  drop := rfl
  tailFlags := rfl
  shutRd := rfl
  sock := rfl
  panicked := rfl
  siblings := .of_eq rfl rfl

theorem flowControl (s : FlowSt) (k : Kcunit) : EventsOnly s (s.flowControl k) :=
  have flags := setEflags s k { (s.entry k).cfeFlags with flowControlled := true }
  ⟨flags.ebuf, flags.ibuf, flags.cfeFilter, rfl, rfl, rfl, rfl, rfl, rfl, rfl, .of_eq rfl rfl⟩

theorem ctlEnqueue (s : FlowSt) (k : Kcunit) (msg : CfilMsg) : EventsOnly s (s.ctlEnqueue env k msg).1 := by
  unfold FlowSt.ctlEnqueue
  dsimp only
  split <;> exact ⟨fun _ _ => rfl, fun _ => rfl, fun _ => rfl, rfl, rfl, rfl, rfl, rfl, rfl, rfl, .of_eq rfl rfl⟩

theorem afterEnqueue {s : FlowSt} {r : FlowSt × Errno} {k : Kcunit} {sent : FlowSt → FlowSt}
    (before : EventsOnly s r.1) (sentOnly : ∀ t, EventsOnly t (sent t)) :
    EventsOnly s (ContentFilter.afterEnqueue k sent r).1 := by
  obtain ⟨t, error⟩ := r
  cases error <;> first
    | exact before.trans (sentOnly t)
    | exact before.trans (flowControl t k)
    | exact before

theorem setNoCloseWait (s : FlowSt) : EventsOnly s (ContentFilter.setNoCloseWait s) := by
  unfold ContentFilter.setNoCloseWait
  split
  · exact ⟨fun _ _ => rfl, fun _ => rfl, fun _ => rfl, rfl, rfl, rfl, rfl, rfl, rfl, rfl, .of_eq rfl rfl⟩
  · rfl

theorem attachEvent (kcunit : Option Kcunit) (s : FlowSt) :
    EventsOnly s (cfilDispatchAttachEvent env kcunit s).1 := by
  unfold cfilDispatchAttachEvent
  split
  · rfl
  · dsimp only
    split_ifs
    · rfl
    · rfl
    · exact flowControl s _
    · exact afterEnqueue (ctlEnqueue env s _ _) (fun t => setEflags t _ _)

theorem dataEvent (k : Kcunit) (outgoing : Bool) (data : Chain) (copyoffset copylen : Nat)
    (s : FlowSt) : EventsOnly s (cfilDispatchDataEvent env k outgoing data copyoffset copylen s).1 := by
  unfold cfilDispatchDataEvent
  dsimp only
  split_ifs
  · rfl
  · exact flowControl s k
  · exact afterEnqueue (ctlEnqueue env s _ _) (fun t => setEflags t _ _)

theorem disconnectEvent (k : Kcunit) (outgoing : Bool) (s : FlowSt) :
    EventsOnly s (cfilDispatchDisconnectEvent env k outgoing s).1 := by
  unfold cfilDispatchDisconnectEvent
  have close := setNoCloseWait s
  dsimp only
  split_ifs <;> first
    | rfl
    | exact close
    | exact close.trans (flowControl _ k)
    | exact close.trans (afterEnqueue (ctlEnqueue env _ _ _) (fun t => setEflags t _ _))

theorem closedEvent (k : Kcunit) (s : FlowSt) : EventsOnly s (cfilDispatchClosedEvent env k s).1 := by
  unfold cfilDispatchClosedEvent
  dsimp only
  split_ifs
  · rfl
  · exact flowControl s k
  · rfl
  · rfl
  · exact afterEnqueue (ctlEnqueue env s _ _) (fun t => setEflags t _ _)

end EventsOnly

end ContentFilter
