import ContentFilter.DatagramRuns

/-! How `cfil_socket_from_sock_id` finds the socket of a `cfi_sock_id`. -/

namespace ContentFilter

/-- The id `cfil_info_alloc` gives a stream socket's flow: `so_gencnt << 32 | inp_flowhash`
in 64 bits. -/
def tcpSockId (soGencnt inpFlowhash : Nat) : Nat := ((soGencnt <<< 32) ||| inpFlowhash) % 2 ^ 64

/-- The upper half of an id, `cfil_sock_id >> 32`. -/
def sockIdGencnt (cfilSockId : Nat) : Nat := cfilSockId >>> 32

/-- The lower half, `(u_int32_t)(cfil_sock_id & 0x0ffffffff)`. -/
def sockIdFlowhash (cfilSockId : Nat) : Nat := cfilSockId &&& 0x0ffffffff

/-- `cfil_sock_id_from_socket`: the id of the socket's flow, `CFIL_SOCK_ID_NONE` (0)
without `SOF_CONTENT_FILTER` or `so_cfil`. -/
def cfilSockIdFromSocket (soContentFilter : Bool) (soCfil : Option CfilInfo) : Nat :=
  match soContentFilter, soCfil with
  | true, some info => info.cfiSockId
  | _, _ => 0

theorem and_low_half (x : Nat) : x &&& 0x0ffffffff = x % 2 ^ 32 := Nat.and_pow_two_sub_one_eq_mod x 32

theorem tcpSockId_eq {soGencnt inpFlowhash : Nat} (lt : inpFlowhash < 2 ^ 32) :
    tcpSockId soGencnt inpFlowhash = soGencnt % 2 ^ 32 * 2 ^ 32 + inpFlowhash := by
  rw [tcpSockId, Nat.shiftLeft_eq, Nat.mul_comm, ← Nat.mul_add_lt_is_or lt]
  omega

@[simp] theorem sockIdGencnt_tcpSockId {soGencnt inpFlowhash : Nat} (lt : inpFlowhash < 2 ^ 32) :
    sockIdGencnt (tcpSockId soGencnt inpFlowhash) = soGencnt % 2 ^ 32 := by
  rw [sockIdGencnt, tcpSockId_eq lt, Nat.shiftRight_eq_div_pow]
  omega

@[simp] theorem sockIdFlowhash_tcpSockId {soGencnt inpFlowhash : Nat} (lt : inpFlowhash < 2 ^ 32) :
    sockIdFlowhash (tcpSockId soGencnt inpFlowhash) = inpFlowhash := by
  rw [sockIdFlowhash, tcpSockId_eq lt, and_low_half]
  omega

theorem udpSockId_eq_tcpSockId (soGencnt soflowFlowhash : Nat) :
    udpSockId soGencnt soflowFlowhash = tcpSockId soGencnt (soflowFlowhash % 2 ^ 32) := by
  rw [udpSockId, tcpSockId, ← and_low_half]

example : tcpSockId 5 7 = 21474836487 ∧ sockIdGencnt (udpSockId (2 ^ 32 + 5) 7) = 5 := by decide

/-- What `cfil_socket_from_sock_id` reads of a pcb on one of its lists. -/
structure Pcb where
  /-- `inp_state != INPCB_STATE_DEAD`. -/
  live : Bool
  /-- `inp_socket != NULL`. -/
  hasSocket : Bool
  inpFlowhash : Nat
  /-- `inp_flowhash` is a `u_int32_t`. -/
  inpFlowhash_lt : inpFlowhash < 2 ^ 32
  /-- `inp_socket->so_gencnt`. -/
  soGencnt : Nat
  /-- `so_cfil != NULL`. -/
  hasCfil : Bool
  /-- `so_flow_db != NULL`. -/
  hasFlowDb : Bool
  /-- `cfil_socket_safe_lock` takes the socket: its pcb is not being given up. -/
  safeLock : Bool

/-- The lists searched: `tcbinfo`, `udbinfo` and `ripcbinfo`. -/
structure PcbInfo where
  tcb : List Pcb
  udb : List Pcb
  ripcb : List Pcb

/-- One `LIST_FOREACH` of `cfil_socket_from_sock_id`. The first pcb that fits ends the
whole search (`goto done`), with its socket when `cfil_socket_safe_lock` takes it and
with none otherwise; `none` means that no pcb fit and the search goes on. -/
def searchPcbs (fits : Pcb → Bool) : List Pcb → Option (Option Pcb)
  | [] => none
  | p :: rest => if fits p then some (if p.safeLock then some p else none) else searchPcbs fits rest

/-- The test of the TCP list: both halves, and a flow. -/
def tcpFits (gencnt flowhash : Nat) (p : Pcb) : Bool :=
  p.live && p.hasSocket && p.inpFlowhash == flowhash && (p.soGencnt &&& 0x0ffffffff) == gencnt && p.hasCfil

/-- The test of the UDP and raw lists: the upper half, and a flow database. -/
def flowDbFits (gencnt : Nat) (p : Pcb) : Bool :=
  p.live && p.hasSocket && p.hasFlowDb && (p.soGencnt &&& 0x0ffffffff) == gencnt

/-- `cfil_socket_from_sock_id`; `udpOnly` starts the search at the UDP list. -/
def cfilSocketFromSockId (pcbs : PcbInfo) (cfilSockId : Nat) (udpOnly : Bool) : Option Pcb :=
  let gencnt := sockIdGencnt cfilSockId
  let findUdp := (searchPcbs (flowDbFits gencnt) pcbs.udb).getD ((searchPcbs (flowDbFits gencnt) pcbs.ripcb).getD none)
  if udpOnly then findUdp
  else (searchPcbs (tcpFits gencnt (sockIdFlowhash cfilSockId)) pcbs.tcb).getD findUdp

theorem tcpFits_iff {gencnt flowhash : Nat} {p : Pcb} :
    tcpFits gencnt flowhash p = true ↔ p.live = true ∧ p.hasSocket = true ∧ p.inpFlowhash = flowhash ∧
      p.soGencnt % 2 ^ 32 = gencnt ∧ p.hasCfil = true := by
  simp only [tcpFits, and_low_half, Bool.and_eq_true, beq_iff_eq, and_assoc]

theorem flowDbFits_iff {gencnt : Nat} {p : Pcb} :
    flowDbFits gencnt p = true ↔ p.live = true ∧ p.hasSocket = true ∧ p.hasFlowDb = true ∧
      p.soGencnt % 2 ^ 32 = gencnt := by
  simp only [flowDbFits, and_low_half, Bool.and_eq_true, beq_iff_eq, and_assoc]

theorem searchPcbs_skip (fits : Pcb → Bool) {before : List Pcb} (skipped : ∀ q ∈ before, fits q = false)
    (rest : List Pcb) : searchPcbs fits (before ++ rest) = searchPcbs fits rest := by
  induction before with
  | nil => rfl
  | cons q before ih =>
    rw [List.cons_append, searchPcbs, if_neg (by simp [skipped q (List.mem_cons_self q before)])]
    exact ih fun q' mem => skipped q' (List.mem_cons_of_mem q mem)

theorem searchPcbs_first (fits : Pcb → Bool) {before after : List Pcb} {p : Pcb}
    (skipped : ∀ q ∈ before, fits q = false) (fit : fits p = true) (locked : p.safeLock = true) :
    searchPcbs fits (before ++ p :: after) = some (some p) := by
  rw [searchPcbs_skip fits skipped, searchPcbs, if_pos fit, if_pos locked]

theorem searchPcbs_none (fits : Pcb → Bool) {l : List Pcb} (skipped : ∀ q ∈ l, fits q = false) :
    searchPcbs fits l = none := by
  simpa using searchPcbs_skip fits skipped []

section RoundTrip

variable {pcbs : PcbInfo} {before after : List Pcb} {p : Pcb}

theorem tcpSockId_finds (listed : pcbs.tcb = before ++ p :: after)
    (filtered : p.live = true ∧ p.hasSocket = true ∧ p.hasCfil = true) (locked : p.safeLock = true)
    (first : ∀ q ∈ before, q.live = true → q.hasSocket = true → q.hasCfil = true → q.inpFlowhash = p.inpFlowhash →
      q.soGencnt % 2 ^ 32 ≠ p.soGencnt % 2 ^ 32) :
    cfilSocketFromSockId pcbs (tcpSockId p.soGencnt p.inpFlowhash) false = some p := by
  have skipped : ∀ q ∈ before, tcpFits (p.soGencnt % 2 ^ 32) p.inpFlowhash q = false := fun q mem =>
    Bool.eq_false_iff.2 fun fits => by
      obtain ⟨live, socket, hash, gencnt, cfil⟩ := tcpFits_iff.1 fits
      exact first q mem live socket cfil hash gencnt
  have fit : tcpFits (p.soGencnt % 2 ^ 32) p.inpFlowhash p = true :=
    tcpFits_iff.2 ⟨filtered.1, filtered.2.1, rfl, rfl, filtered.2.2⟩
  simp only [cfilSocketFromSockId, sockIdGencnt_tcpSockId p.inpFlowhash_lt, sockIdFlowhash_tcpSockId p.inpFlowhash_lt,
    Bool.false_eq_true, if_false, listed, searchPcbs_first _ skipped fit locked, Option.getD_some]

theorem udpSockId_finds (listed : pcbs.udb = before ++ p :: after)
    (withDb : p.live = true ∧ p.hasSocket = true ∧ p.hasFlowDb = true) (locked : p.safeLock = true)
    (soflowFlowhash : Nat)
    (noTcp : ∀ q ∈ pcbs.tcb, q.live = true → q.hasSocket = true → q.hasCfil = true →
      q.inpFlowhash = soflowFlowhash % 2 ^ 32 → q.soGencnt % 2 ^ 32 ≠ p.soGencnt % 2 ^ 32)
    (first : ∀ q ∈ before, q.live = true → q.hasSocket = true → q.hasFlowDb = true →
      q.soGencnt % 2 ^ 32 ≠ p.soGencnt % 2 ^ 32) :
    cfilSocketFromSockId pcbs (udpSockId p.soGencnt soflowFlowhash) false = some p := by
  have lt : soflowFlowhash % 2 ^ 32 < 2 ^ 32 := Nat.mod_lt _ (by decide)
  have noStream : ∀ q ∈ pcbs.tcb, tcpFits (p.soGencnt % 2 ^ 32) (soflowFlowhash % 2 ^ 32) q = false := fun q mem =>
    Bool.eq_false_iff.2 fun fits => by
      obtain ⟨live, socket, hash, gencnt, cfil⟩ := tcpFits_iff.1 fits
      exact noTcp q mem live socket cfil hash gencnt
  have skipped : ∀ q ∈ before, flowDbFits (p.soGencnt % 2 ^ 32) q = false := fun q mem =>
    Bool.eq_false_iff.2 fun fits => by
      obtain ⟨live, socket, db, gencnt⟩ := flowDbFits_iff.1 fits
      exact first q mem live socket db gencnt
  have fit : flowDbFits (p.soGencnt % 2 ^ 32) p = true := flowDbFits_iff.2 ⟨withDb.1, withDb.2.1, withDb.2.2, rfl⟩
  simp only [cfilSocketFromSockId, udpSockId_eq_tcpSockId, sockIdGencnt_tcpSockId lt, sockIdFlowhash_tcpSockId lt,
    Bool.false_eq_true, if_false, searchPcbs_none _ noStream, listed, searchPcbs_first _ skipped fit locked,
    Option.getD_some, Option.getD_none]

end RoundTrip

section Flows

variable (env : Env)

theorem attachUnit_sockId (slots : FilterSlots) (filterControlUnit : Nat) (s : FlowSt) :
    (cfilInfoAttachUnit slots filterControlUnit s).1.info.cfiSockId = s.info.cfiSockId := by
  unfold cfilInfoAttachUnit
  refine List.foldlRecOn (motive := fun acc : FlowSt × Bool => acc.1.info.cfiSockId = s.info.cfiSockId) _ _ _ rfl ?_
  intro acc same k _
  split
  · exact same
  · split
    · exact same
    · exact same

theorem sockAttach_sockId {slots : FilterSlots} {filterControlUnit sockId : Nat} {so : SockSt}
    {flowControlled : Kcunit → Bool} {s : FlowSt}
    (created : cfilSockAttach env slots filterControlUnit sockId so flowControlled = some s) : s.info.cfiSockId = sockId := by
  unfold cfilSockAttach at created
  have kept := attachUnit_sockId slots filterControlUnit (cfilInfoAlloc sockId so flowControlled)
  generalize cfilInfoAttachUnit slots filterControlUnit (cfilInfoAlloc sockId so flowControlled) = r at kept created
  obtain ⟨s₁, attached⟩ := r
  cases attached
  · cases created
  · cases created
    exact (EventsOnly.attachEvent env none s₁).sockId.trans kept

theorem newInfo_sockId {g : Global} {filterControlUnit idx : Nat} {e : SoflowHashEntry} {so : DgramSock} {u : UdpInfo}
    (made : (cfilSockUdpNewInfo env g filterControlUnit idx e so).2 = some u) :
    u.info.cfiSockId = udpSockId so.soGencnt e.soflowFlowhash := by
  unfold cfilSockUdpNewInfo at made
  dsimp only at made
  have kept := attachUnit_sockId g.slots filterControlUnit (so.shared.flow { cfiSockId := udpSockId so.soGencnt e.soflowFlowhash })
  generalize cfilInfoAttachUnit g.slots filterControlUnit _ = r at kept made
  obtain ⟨s₁, attached⟩ := r
  have events := EventsOnly.attachEvent env none s₁
  generalize cfilDispatchAttachEvent env none s₁ = d at events made
  obtain ⟨s₂, error⟩ := d
  split_ifs at made
  cases made
  exact events.sockId.trans kept

variable {pcbs : PcbInfo} {before after : List Pcb} {p : Pcb}

/-- The id of a stream socket's flow leads `cfil_socket_from_sock_id` to that socket, unless
an earlier socket on the TCP list fits it. -/
theorem stream_flow_id_finds_socket (slots : FilterSlots) (filterControlUnit : Nat) (so : SockSt)
    (flowControlled : Kcunit → Bool) (listed : pcbs.tcb = before ++ p :: after)
    (filtered : p.live = true ∧ p.hasSocket = true ∧ p.hasCfil = true) (locked : p.safeLock = true)
    (first : ∀ q ∈ before, q.live = true → q.hasSocket = true → q.hasCfil = true → q.inpFlowhash = p.inpFlowhash →
      q.soGencnt % 2 ^ 32 ≠ p.soGencnt % 2 ^ 32) :
    ∀ s, cfilSockAttach env slots filterControlUnit (tcpSockId p.soGencnt p.inpFlowhash) so flowControlled = some s →
      cfilSocketFromSockId pcbs (cfilSockIdFromSocket true (some s.info)) false = some p := fun _ created => by
  rw [cfilSockIdFromSocket, sockAttach_sockId env created]
  exact tcpSockId_finds listed filtered locked first

/-- A stream socket of generation 0 and flow hash 7, alone on the TCP list. -/
def streamPcb : Pcb := ⟨true, true, 7, by decide, 0, true, false, true⟩

/-- A datagram socket of generation 5 with a flow database, on the UDP list after it. -/
def dgramPcb : Pcb := ⟨true, true, 9, by decide, 5, false, true, true⟩

def demoPcbs : PcbInfo := ⟨[streamPcb], [dgramPcb], []⟩

theorem oneFilterFlow_id_finds_socket :
    cfilSockAttach demoKernel oneFilter 1 (tcpSockId 0 7) {} (fun _ => false) = some oneFilterFlow ∧
      cfilSocketFromSockId demoPcbs (cfilSockIdFromSocket true (some oneFilterFlow.info)) false = some streamPcb :=
  have created : cfilSockAttach demoKernel oneFilter 1 (tcpSockId 0 7) {} (fun _ => false) = some oneFilterFlow := rfl
  ⟨created, @stream_flow_id_finds_socket demoKernel demoPcbs [] [] streamPcb oneFilter 1 {} (fun _ => false) rfl
    ⟨rfl, rfl, rfl⟩ rfl (fun _ none => nomatch none) oneFilterFlow created⟩

/-- The id of a new datagram flow leads `cfil_socket_from_sock_id` to its socket, unless a
socket searched earlier fits it. -/
theorem dgram_flow_id_finds_socket (g : Global) (filterControlUnit idx : Nat) (e : SoflowHashEntry) {so : DgramSock}
    (gen : p.soGencnt = so.soGencnt) (listed : pcbs.udb = before ++ p :: after)
    (withDb : p.live = true ∧ p.hasSocket = true ∧ p.hasFlowDb = true) (locked : p.safeLock = true)
    (noTcp : ∀ q ∈ pcbs.tcb, q.live = true → q.hasSocket = true → q.hasCfil = true →
      q.inpFlowhash = e.soflowFlowhash % 2 ^ 32 → q.soGencnt % 2 ^ 32 ≠ p.soGencnt % 2 ^ 32)
    (first : ∀ q ∈ before, q.live = true → q.hasSocket = true → q.hasFlowDb = true →
      q.soGencnt % 2 ^ 32 ≠ p.soGencnt % 2 ^ 32) :
    ∀ u, (cfilSockUdpNewInfo env g filterControlUnit idx e so).2 = some u →
      cfilSocketFromSockId pcbs u.info.cfiSockId false = some p := fun _ made => by
  rw [newInfo_sockId env made, ← gen]
  exact udpSockId_finds listed withDb locked _ noTcp first

/-- A new flow of hash 7 on the datagram socket of generation 5. -/
def hashSevenEntry : SoflowHashEntry := { soflowFlowhash := 7, soflowFilterControlUnit := 1, soflowPoliciesGencount := 0 }

theorem dgramPcb_flow_id_finds_socket :
    (cfilSockUdpNewInfo demoKernel oneFilterGlobal 1 0 hashSevenEntry udpSockInit).2.isSome = true ∧
      ∀ u, (cfilSockUdpNewInfo demoKernel oneFilterGlobal 1 0 hashSevenEntry udpSockInit).2 = some u →
        cfilSocketFromSockId demoPcbs u.info.cfiSockId false = some dgramPcb :=
  ⟨by decide, @dgram_flow_id_finds_socket demoKernel demoPcbs [] [] dgramPcb oneFilterGlobal 1 0 hashSevenEntry
    udpSockInit rfl rfl ⟨rfl, rfl, rfl⟩ rfl (fun q mem => by simp only [demoPcbs, List.mem_singleton] at mem; subst mem; decide)
    (fun _ none => nomatch none)⟩

end Flows

end ContentFilter
