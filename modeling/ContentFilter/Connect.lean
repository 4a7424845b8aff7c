import ContentFilter.DebugChecks

/-! `cfil_sock_connected_pending_verdict` and `cfil_sock_received_verdict`: a socket is told it
is connected once, after both the connect and the initial verdict. -/

namespace ContentFilter

/-- `cfil_sock_connected_pending_verdict` on a stream socket with a flow: `true` tells the
protocol not to call `soisconnected`, and the flow remembers that it connected. -/
def cfilSockConnectedPendingVerdict (s : FlowSt) : FlowSt × Bool :=
  if s.info.cfiFlags.initialVerdict then (s, false)
  else (s.setIflags { s.info.cfiFlags with socketConnected := true }, true)

/-- What reaches a flow about its socket's connection: the protocol connecting, and an
agent's verdict (`cfil_sock_received_verdict`, from `cfil_ctl_send` or a bless). -/
inductive ConnectEvent where
  | connected | verdict
  deriving DecidableEq, Repr

/-- A flow with the number of `soisconnected` calls made for its socket so far. -/
structure ConnectRun where
  st : FlowSt
  soisconnected : Nat

/-- One event. The protocol calls `soisconnected` itself unless told to wait, as the
comment of `cfil_sock_connected_pending_verdict` asks of it; `cfil_sock_received_verdict`
calls it when the socket connected while the verdict was awaited. -/
def ConnectRun.step (r : ConnectRun) : ConnectEvent → ConnectRun
  | .connected =>
    let (s, pending) := cfilSockConnectedPendingVerdict r.st
    { st := s, soisconnected := if pending then r.soisconnected else r.soisconnected + 1 }
  | .verdict =>
    { st := cfilSockReceivedVerdict r.st,
      soisconnected := if r.st.info.cfiFlags.socketConnected then r.soisconnected + 1 else r.soisconnected }

def ConnectRun.run (r : ConnectRun) (events : List ConnectEvent) : ConnectRun := events.foldl ConnectRun.step r

/-- The flags and the count after the events `past`: the verdict flag says whether a
verdict came, the connected flag whether the socket connected with no verdict yet, and
`soisconnected` was called once both happened. -/
def Told (past : List ConnectEvent) (r : ConnectRun) : Prop :=
  r.st.info.cfiFlags.initialVerdict = decide (.verdict ∈ past) ∧
    r.st.info.cfiFlags.socketConnected = decide (.connected ∈ past ∧ .verdict ∉ past) ∧
      r.soisconnected = if .connected ∈ past ∧ .verdict ∈ past then 1 else 0

theorem Told.nil {s : FlowSt} (fresh : s.info.cfiFlags.initialVerdict = false ∧ s.info.cfiFlags.socketConnected = false) :
    Told [] ⟨s, 0⟩ := by
  simpa [Told] using fresh

theorem Told.connected {past : List ConnectEvent} {r : ConnectRun} (told : Told past r)
    (first : .connected ∉ past) : Told (past ++ [.connected]) (r.step .connected) := by
  obtain ⟨verdict, connected, count⟩ := told
  simp only [ConnectRun.step, cfilSockConnectedPendingVerdict, verdict]
  by_cases seen : .verdict ∈ past <;> simp [Told, seen, first, count, verdict, connected, FlowSt.setIflags]

theorem Told.verdict {past : List ConnectEvent} {r : ConnectRun} (told : Told past r) :
    Told (past ++ [.verdict]) (r.step .verdict) := by
  obtain ⟨verdict, connected, count⟩ := told
  simp only [ConnectRun.step, connected]
  by_cases seenConnected : .connected ∈ past <;> by_cases seenVerdict : .verdict ∈ past <;>
    simp [Told, seenConnected, seenVerdict, count, cfilSockReceivedVerdict, FlowSt.setIflags]

theorem Told.run : ∀ (rest past : List ConnectEvent) (r : ConnectRun), Told past r →
    (past ++ rest).count .connected ≤ 1 → Told (past ++ rest) (r.run rest)
  | [], past, r, told, _ => by simpa using told
  | e :: rest, past, r, told, once => by
    have told' : Told (past ++ [e]) (r.step e) := by
      cases e with
      | verdict => exact told.verdict
      | connected =>
        refine told.connected fun seen => ?_
        have twice : 2 ≤ (past ++ .connected :: rest).count .connected := by
          simp only [List.count_append, List.count_cons_self]
          have := List.count_pos_iff.2 seen
          omega
        omega
    simpa [ConnectRun.run] using Told.run rest (past ++ [e]) (r.step e) told' (by simpa using once)

/-- Over every order of events in which the socket connects at most once, a flow with no
verdict yet gets its socket told it is connected once if it connected and a verdict came,
whichever came first, and never otherwise: no notice is lost and none is repeated. -/
theorem connected_told_exactly_once {s : FlowSt}
    (fresh : s.info.cfiFlags.initialVerdict = false ∧ s.info.cfiFlags.socketConnected = false)
    (events : List ConnectEvent) (once : events.count .connected ≤ 1) :
    (ConnectRun.run ⟨s, 0⟩ events).soisconnected = if .connected ∈ events ∧ .verdict ∈ events then 1 else 0 := by
  have told := Told.run events [] ⟨s, 0⟩ (Told.nil fresh) (by simpa using once)
  simp only [List.nil_append] at told
  exact told.2.2

theorem oneFilterFlow_told_exactly_once :
    (oneFilterFlow.info.cfiFlags.initialVerdict = false ∧ oneFilterFlow.info.cfiFlags.socketConnected = false) ∧
      [ConnectEvent.connected, .verdict, .verdict].count .connected ≤ 1 ∧
      (ConnectRun.run ⟨oneFilterFlow, 0⟩ [.connected, .verdict, .verdict]).soisconnected =
        if ConnectEvent.connected ∈ [ConnectEvent.connected, .verdict, .verdict] ∧
          ConnectEvent.verdict ∈ [ConnectEvent.connected, .verdict, .verdict] then 1 else 0 :=
  have fresh : oneFilterFlow.info.cfiFlags.initialVerdict = false ∧ oneFilterFlow.info.cfiFlags.socketConnected = false :=
    by decide
  have once : [ConnectEvent.connected, .verdict, .verdict].count .connected ≤ 1 := by decide
  ⟨fresh, once, connected_told_exactly_once fresh _ once⟩

end ContentFilter
