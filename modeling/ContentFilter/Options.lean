import ContentFilter.FrontDoor

/-! The agents' socket options and `DO_PRESERVE_CONNECTIONS`, which
`cfil_update_behavior_flags` recomputes from them. -/

namespace ContentFilter

/-- `ENOPROTOOPT` (`sys/errno.h`). -/
def enoprotoopt : Errno := .other 42

/-- The options the switches of `cfil_ctl_setopt` and `cfil_ctl_getopt` name, `other` for
their `default`. -/
inductive CfilOpt where
  | necpControlUnit | preserveConnections | other
  deriving DecidableEq, Repr

namespace Registry

variable (env : Env) (r : Registry)

/-- Whether a filter is connected on unit `k`: `content_filters[k - 1] != NULL`. -/
def hasFilter (k : Kcunit) : Bool := (r.contentFilters k).isSome

/-- `cfil_ctl_disconnect` gets past its check of `unitinfo`: the filter on unit `k` says
it is on that unit. -/
def disconnects (k : Kcunit) : Bool :=
  match r.contentFilters k with
  | none => false
  | some cfc => cfc.cfKcunit = k.val + 1

section HasFilter

variable (j : Kcunit)

@[simp] theorem hasFilter_verify (check : Bool) : (r.verify check).hasFilter j = r.hasFilter j := by
  unfold verify; split <;> rfl

@[simp] theorem hasFilter_mapFilter (k : Kcunit) (g : ContentFilterSt → ContentFilterSt) :
    (r.mapFilter k g).hasFilter j = r.hasFilter j := by
  by_cases here : j = k
  · subst here; simp [hasFilter, mapFilter, setFilter]
  · simp [hasFilter, mapFilter, setFilter, here]

@[simp] theorem hasFilter_putFlow (id : Nat) (s : FlowSt) : (r.putFlow id s).hasFilter j = r.hasFilter j := by
  simp [hasFilter, putFlow]

@[simp] theorem hasFilter_runFlow (id : Nat) (call : FlowSt → FlowSt) :
    (r.runFlow id call).hasFilter j = r.hasFilter j := by
  unfold runFlow; split <;> simp

@[simp] theorem hasFilter_verifyContentFilter (k : Kcunit) :
    (r.verifyContentFilter k).hasFilter j = r.hasFilter j := by
  unfold verifyContentFilter; split <;> simp

@[simp] theorem hasFilter_leaveFilter (k : Kcunit) (id : Nat) (s : FlowSt) :
    (r.leaveFilter k id s).hasFilter j = r.hasFilter j := by
  simp [leaveFilter]

@[simp] theorem hasFilter_clearFilterPolicy (id : Nat) : (r.clearFilterPolicy id).hasFilter j = r.hasFilter j :=
  rfl

@[simp] theorem hasFilter_statsRemove (id : Nat) : (r.statsRemove id).hasFilter j = r.hasFilter j := by
  unfold statsRemove; split <;> rfl

theorem hasFilter_ctlDisconnectRound (k : Kcunit) (path : DisconnectPath) (id : Nat) :
    (r.ctlDisconnectRound env k path id).hasFilter j = r.hasFilter j := by
  unfold ctlDisconnectRound
  split
  · rfl
  · cases path with
    | retainFailed => simp
    | socketGone => dsimp only; split <;> simp
    | found => dsimp only; split <;> [split <;> simp; simp]

theorem hasFilter_ctlDisconnectLoop (k : Kcunit) :
    ∀ fuel paths r, (ctlDisconnectLoop env k fuel paths r).hasFilter j = r.hasFilter j
  | 0, _, _ => rfl
  | fuel + 1, paths, r => by
    unfold ctlDisconnectLoop
    split
    · rfl
    · rw [hasFilter_ctlDisconnectLoop k fuel, hasFilter_ctlDisconnectRound, hasFilter_verifyContentFilter]

theorem hasFilter_attachUnit (id filterControlUnit : Nat) :
    ∀ (ks : List Kcunit) (acc : Registry × Bool),
      (ks.foldl (attachUnitRound id filterControlUnit) acc).1.hasFilter j = acc.1.hasFilter j
  | [], _ => rfl
  | k :: rest, acc => by
    rw [List.foldl_cons, hasFilter_attachUnit id filterControlUnit rest]
    unfold attachUnitRound
    split
    · rfl
    · split <;> simp

theorem hasFilter_freeEntry (id : Nat) (k : Kcunit) : (r.freeEntry id k).hasFilter j = r.hasFilter j := by
  unfold freeEntry
  split
  · rfl
  · split <;> simp

theorem hasFilter_statsToggle (id : Nat) (entry : Option Kcunit) (reportFrequency : Nat) :
    (r.cfilInfoStatsToggle id entry reportFrequency).hasFilter j = r.hasFilter j := by
  have added : ∀ r₁ : Registry, (if id ∈ r₁.cfilSockHeadStats then r₁
      else { r₁ with
        cfilSockHeadStats := r₁.cfilSockHeadStats ++ [id]
        cfilSockAttachedStatsCount := r₁.cfilSockAttachedStatsCount + 1 }).hasFilter j = r₁.hasFilter j := by
    intro r₁; split <;> rfl
  unfold cfilInfoStatsToggle
  split
  · split <;> simp
  · rfl
  · dsimp only
    split
    · split
      · rfl
      · rw [added, hasFilter_runFlow]
    · split
      · rfl
      · split <;> simp

@[simp] theorem hasFilter_removeInfo (id : Nat) : (r.removeInfo id).hasFilter j = r.hasFilter j := rfl

theorem hasFilter_infoFree (id : Nat) : (r.cfilInfoFree id).hasFilter j = r.hasFilter j := by
  have freed : ∀ (ks : List Kcunit) (r : Registry), (ks.foldl (fun r k => r.freeEntry id k) r).hasFilter j = r.hasFilter j := by
    intro ks
    induction ks with
    | nil => intro r; rfl
    | cons k rest ih => intro r; rw [List.foldl_cons, ih, hasFilter_freeEntry]
  unfold cfilInfoFree
  split
  · rfl
  · rw [hasFilter_statsToggle, hasFilter_removeInfo, freed]

theorem hasFilter_setoptNecpControlUnit (k : Kcunit) (necpControlUnit : Nat) :
    (r.cfilCtlSetoptNecpControlUnit k necpControlUnit).1.hasFilter j = r.hasFilter j := by
  unfold cfilCtlSetoptNecpControlUnit
  split
  · rfl
  · rename_i cfc slot
    split
    · rfl
    · by_cases here : j = k
      · subst here; simp [hasFilter, setFilter, slot]
      · simp [hasFilter, setFilter, here]

theorem hasFilter_connect (scUnit : Nat) (filled : r.hasFilter j = true) :
    (r.cfilCtlConnect scUnit).1.hasFilter j = true := by
  unfold cfilCtlConnect
  split
  · exact filled
  · dsimp only
    split
    · exact filled
    · by_cases here : j = ⟨scUnit - 1, by omega⟩
      · simp [hasFilter, setFilter, here]
      · simpa [hasFilter, setFilter, here] using filled

theorem cfilCtlDisconnect_of_not_disconnects {k : Kcunit} (paths : List DisconnectPath)
    (refused : r.disconnects k = false) : r.cfilCtlDisconnect env k paths = r := by
  unfold cfilCtlDisconnect
  unfold disconnects at refused
  split
  · rfl
  · rename_i cfc slot
    rw [slot] at refused
    simp only [decide_eq_false_iff_not] at refused
    exact if_pos refused

theorem hasFilter_disconnect {k : Kcunit} (paths : List DisconnectPath) (accepted : r.disconnects k = true) :
    (r.cfilCtlDisconnect env k paths).hasFilter j = (j ≠ k && r.hasFilter j) := by
  unfold cfilCtlDisconnect
  unfold disconnects at accepted
  split
  · rename_i slot; rw [slot] at accepted; cases accepted
  · rename_i cfc slot
    rw [slot] at accepted
    simp only [decide_eq_true_eq] at accepted
    rw [if_neg (by simpa using accepted)]
    have freed : ∀ r' : Registry, (r'.freeSlot k).hasFilter j = (j ≠ k && r'.hasFilter j) := fun r' => by
      by_cases here : j = k <;> simp [freeSlot, hasFilter, setFilter, here]
    simp [freed, hasFilter_ctlDisconnectLoop]

end HasFilter

end Registry

theorem RegistryOp.hasFilter_apply (env : Env) (r : Registry) (j : Kcunit) (op : RegistryOp)
    (notConnect : ∀ scUnit, op ≠ .ctlConnect scUnit) (notDisconnect : ∀ k paths, op ≠ .ctlDisconnect k paths) :
    (op.apply env r).hasFilter j = r.hasFilter j := by
  cases op with
  | ctlConnect scUnit => exact absurd rfl (notConnect scUnit)
  | ctlDisconnect k paths => exact absurd rfl (notDisconnect k paths)
  | ctlSetoptNecpControlUnit k necpControlUnit => exact r.hasFilter_setoptNecpControlUnit j k necpControlUnit
  | ctlRcvd k => simp [RegistryOp.apply, Registry.cfilCtlRcvd_eq]
  | infoAlloc sockId so => rfl
  | infoAttachUnit id filterControlUnit =>
    simp only [RegistryOp.apply, Registry.cfilInfoAttachUnit]
    split
    · rfl
    · exact Registry.hasFilter_attachUnit j id filterControlUnit _ _
  | attachEvent id => simp [RegistryOp.apply]
  | statsToggle id k reportFrequency => exact r.hasFilter_statsToggle j id (some k) reportFrequency
  | infoFree id => exact r.hasFilter_infoFree j id

/-- The registry with the option state the agents set: `CFF_PRESERVE_CONNECTIONS` in
`cf_flags` of the filter on each unit, and `CFIL_BEHAVIOR_FLAG_PRESERVE_CONNECTIONS` of
`cfil_behavior_flags`, which `DO_PRESERVE_CONNECTIONS` reads. -/
structure OptRegistry where
  reg : Registry
  cfPreserveConnections : Kcunit → Bool
  doPreserveConnections : Bool

/-- `cfil_init`: no filter, and no behaviour flag. -/
def OptRegistry.init : OptRegistry := ⟨Registry.init, fun _ => false, false⟩

namespace OptRegistry

variable (env : Env) (o : OptRegistry)

/-- The loop of `cfil_update_behavior_flags` over the units: a connected filter that
preserves connections turns the flag on, and the first that does not turns it off and
leaves the loop. -/
def behaviorLoop : List Kcunit → Bool → Bool
  | [], preserve => preserve
  | k :: rest, preserve =>
    match o.reg.contentFilters k with
    | none => behaviorLoop rest preserve
    | some _ => if o.cfPreserveConnections k then behaviorLoop rest true else false

/-- `cfil_update_behavior_flags`. -/
def cfilUpdateBehaviorFlags : OptRegistry :=
  { o with doPreserveConnections := o.behaviorLoop (List.finRange maxContentFilter) false }

/-- `cfil_ctl_setopt` from the agent on unit `k`, with the `uint32_t` its buffer holds and
the buffer's length. The NECP control unit is set once, by the registry's call; the
preserve flag is set or cleared at will, and the behaviour flags follow. -/
def cfilCtlSetopt (k : Kcunit) (opt : CfilOpt) (data : UInt32) (len : Nat) : OptRegistry × Errno :=
  match o.reg.contentFilters k with
  | none => (o, .einval)
  | some _ =>
    match opt with
    | .necpControlUnit =>
      if len < 4 then (o, .einval)
      else
        let (r, error) := o.reg.cfilCtlSetoptNecpControlUnit k data.toNat
        ({ o with reg := r }, error)
    | .preserveConnections =>
      if len < 4 then (o, .einval)
      else ({ o with cfPreserveConnections := Function.update o.cfPreserveConnections k (data ≠ 0) }.cfilUpdateBehaviorFlags, .ok)
    | .other => (o, enoprotoopt)

/-- `cfil_ctl_getopt` from the agent on unit `k`, with its buffer's length and whether it
passed one: the error, and the `uint32_t` written into the buffer. -/
def cfilCtlGetopt (k : Kcunit) (opt : CfilOpt) (len : Nat) (dataPassed : Bool) : Errno × Option UInt32 :=
  match o.reg.contentFilters k with
  | none => (.einval, none)
  | some cfc =>
    match opt with
    | .necpControlUnit =>
      if len < 4 then (.einval, none)
      else (.ok, if dataPassed then some (UInt32.ofNat cfc.cfNecpControlUnit) else none)
    | .preserveConnections =>
      if len < 4 then (.einval, none)
      else (.ok, if dataPassed then some (if o.cfPreserveConnections k then 1 else 0) else none)
    | .other => (enoprotoopt, none)

/-- `cfil_ctl_disconnect` with the option state: the filter that leaves takes its flags
with it, and `cfil_update_behavior_flags` runs once its slot is freed. -/
def ctlDisconnect (k : Kcunit) (paths : List DisconnectPath) : OptRegistry :=
  if o.reg.disconnects k then
    OptRegistry.cfilUpdateBehaviorFlags
      { reg := o.reg.cfilCtlDisconnect env k paths,
        cfPreserveConnections := Function.update o.cfPreserveConnections k false,
        doPreserveConnections := o.doPreserveConnections }
  else o

/-- A call of the registry: `cfil_ctl_disconnect` with the option state, every other as
the registry makes it. -/
def registryCall : RegistryOp → OptRegistry
  | .ctlDisconnect k paths => o.ctlDisconnect env k paths
  | op => { o with reg := op.apply env o.reg }

end OptRegistry

/-- The calls on the registry with its options: the registry's own, and the agents'
`cfil_ctl_setopt`. -/
inductive OptOp where
  | registry (op : RegistryOp)
  | ctlSetopt (k : Kcunit) (opt : CfilOpt) (data : UInt32) (len : Nat)

def OptOp.apply (env : Env) : OptOp → OptRegistry → OptRegistry
  | .registry op, o => o.registryCall env op
  | .ctlSetopt k opt data len, o => (o.cfilCtlSetopt k opt data len).1

def OptOp.callable (o : OptRegistry) : OptOp → Prop
  | .registry op => op.callable o.reg
  | .ctlSetopt .. => True

/-- The registries with options reached from `cfil_init` by any sequence of calls. -/
inductive OptReachable (env : Env) : OptRegistry → Prop
  | init : OptReachable env OptRegistry.init
  | step {o : OptRegistry} (op : OptOp) (callable : op.callable o) :
      OptReachable env o → OptReachable env (op.apply env o)

namespace OptRegistry

variable (env : Env) (o : OptRegistry)

theorem behaviorLoop_eq : ∀ (ks : List Kcunit) (preserve : Bool),
    o.behaviorLoop ks preserve =
      ((preserve || ks.any o.reg.hasFilter) && ks.all fun k => !o.reg.hasFilter k || o.cfPreserveConnections k)
  | [], preserve => by simp [behaviorLoop]
  | k :: rest, preserve => by
    unfold behaviorLoop
    cases slot : o.reg.contentFilters k with
    | none => simp [behaviorLoop_eq rest, Registry.hasFilter, slot]
    | some cfc =>
      cases keep : o.cfPreserveConnections k <;> simp [behaviorLoop_eq rest, Registry.hasFilter, slot, keep]

theorem updateBehaviorFlags_on :
    o.cfilUpdateBehaviorFlags.doPreserveConnections = true ↔
      (∃ k, o.reg.hasFilter k = true) ∧ ∀ k, o.reg.hasFilter k = true → o.cfPreserveConnections k = true := by
  simp [cfilUpdateBehaviorFlags, behaviorLoop_eq, or_iff_not_imp_left]

@[simp] theorem updateBehaviorFlags_reg : o.cfilUpdateBehaviorFlags.reg = o.reg := rfl

@[simp] theorem updateBehaviorFlags_cfPreserveConnections :
    o.cfilUpdateBehaviorFlags.cfPreserveConnections = o.cfPreserveConnections := rfl

/-- One agent connected on unit 1. -/
def oneAgent : OptRegistry := (OptOp.registry (.ctlConnect 1)).apply demoKernel OptRegistry.init

theorem registryCall_reg (op : RegistryOp) : (o.registryCall env op).reg = op.apply env o.reg := by
  cases op
  case ctlDisconnect k paths =>
    show (o.ctlDisconnect env k paths).reg = o.reg.cfilCtlDisconnect env k paths
    unfold ctlDisconnect
    split
    · rfl
    · rename_i refused
      exact (o.reg.cfilCtlDisconnect_of_not_disconnects env paths (by simpa using refused)).symm
  all_goals rfl

/-- What every reachable registry with options keeps: a free unit holds the flags
`zalloc` gives the next filter connected on it, none; and the behaviour flag is on only
while some connected filter asks for it. -/
structure OptInv (o : OptRegistry) : Prop where
  freeClear : ∀ k, o.reg.hasFilter k = false → o.cfPreserveConnections k = false
  asked : o.doPreserveConnections = true → ∃ k, o.reg.hasFilter k = true ∧ o.cfPreserveConnections k = true

theorem OptInv.init : OptInv OptRegistry.init :=
  ⟨fun _ _ => rfl, fun lit => absurd lit Bool.false_ne_true⟩

theorem OptInv.update (freeClear : ∀ k, o.reg.hasFilter k = false → o.cfPreserveConnections k = false) :
    OptInv o.cfilUpdateBehaviorFlags := by
  refine ⟨freeClear, fun lit => ?_⟩
  obtain ⟨⟨k, filled⟩, every⟩ := (o.updateBehaviorFlags_on).mp lit
  exact ⟨k, filled, every k filled⟩

theorem OptInv.of_same {o o' : OptRegistry} (inv : OptInv o) (same : ∀ k, o'.reg.hasFilter k = o.reg.hasFilter k)
    (flags : o'.cfPreserveConnections = o.cfPreserveConnections) (flag : o'.doPreserveConnections = o.doPreserveConnections) :
    OptInv o' := by
  refine ⟨fun k free => ?_, fun lit => ?_⟩
  · rw [flags]; exact inv.freeClear k (by rw [← same]; exact free)
  · obtain ⟨k, filled, keep⟩ := inv.asked (by rw [← flag]; exact lit)
    exact ⟨k, by rw [same]; exact filled, by rw [flags]; exact keep⟩

theorem OptInv.registryCall {o : OptRegistry} (inv : OptInv o) (op : RegistryOp) : OptInv (o.registryCall env op) := by
  cases op
  case ctlDisconnect k paths =>
    show OptInv (o.ctlDisconnect env k paths)
    unfold ctlDisconnect
    split
    · rename_i accepted
      refine OptInv.update _ fun j free => ?_
      rw [Registry.hasFilter_disconnect env _ j paths accepted] at free
      by_cases here : j = k
      · subst here; simp
      · simp only [ne_eq, here, not_false_eq_true, decide_True, Bool.true_and] at free
        simpa [here] using inv.freeClear j free
    · exact inv
  case ctlConnect scUnit =>
    show OptInv { o with reg := (o.reg.cfilCtlConnect scUnit).1 }
    refine ⟨fun k free => inv.freeClear k ?_, fun lit => ?_⟩
    · cases filled : o.reg.hasFilter k
      · rfl
      · exact absurd free (by simp [o.reg.hasFilter_connect k scUnit filled])
    · obtain ⟨k, filled, keep⟩ := inv.asked lit
      exact ⟨k, o.reg.hasFilter_connect k scUnit filled, keep⟩
  all_goals exact inv.of_same (fun k => by
    rw [registryCall_reg]; exact RegistryOp.hasFilter_apply env o.reg k _ (by simp) (by simp)) rfl rfl

theorem OptInv.setopt {o : OptRegistry} (inv : OptInv o) (k : Kcunit) (opt : CfilOpt) (data : UInt32) (len : Nat) :
    OptInv (o.cfilCtlSetopt k opt data len).1 := by
  unfold cfilCtlSetopt
  cases slot : o.reg.contentFilters k with
  | none => exact inv
  | some cfc =>
    cases opt with
    | necpControlUnit =>
      dsimp only
      split
      · exact inv
      · exact inv.of_same (fun j => o.reg.hasFilter_setoptNecpControlUnit j k data.toNat) rfl rfl
    | preserveConnections =>
      dsimp only
      split
      · exact inv
      · refine OptInv.update _ fun j free => ?_
        by_cases here : j = k
        · subst here; simp [Registry.hasFilter, slot] at free
        · simpa [here] using inv.freeClear j free
    | other => exact inv

theorem OptInv.step {o : OptRegistry} (inv : OptInv o) (op : OptOp) : OptInv (op.apply env o) := by
  cases op with
  | registry op => exact inv.registryCall env op
  | ctlSetopt k opt data len => exact inv.setopt k opt data len

theorem OptReachable.inv {o : OptRegistry} (reach : OptReachable env o) : OptInv o := by
  induction reach with
  | init => exact OptInv.init
  | step op _ _ ih => exact ih.step env op

/-- The agent on unit 1 asked to preserve connections. -/
def preservingAgent : OptRegistry := (OptOp.ctlSetopt 0 .preserveConnections 1 4).apply demoKernel oneAgent

theorem preservingAgent_reachable : OptReachable demoKernel preservingAgent := .step _ trivial (.step _ trivial .init)

/-- Over every run, `DO_PRESERVE_CONNECTIONS` is on only while some connected filter
asked to preserve connections, and a free unit holds no preserve flag for the next filter
connected on it. -/
theorem preserve_flag_only_when_asked {o : OptRegistry} (reach : OptReachable env o) :
    (o.doPreserveConnections = true → ∃ k cfc, o.reg.contentFilters k = some cfc ∧ o.cfPreserveConnections k = true) ∧
      ∀ k, o.reg.contentFilters k = none → o.cfPreserveConnections k = false := by
  have inv := OptReachable.inv env reach
  refine ⟨fun lit => ?_, fun k free => inv.freeClear k (by simp [Registry.hasFilter, free])⟩
  obtain ⟨k, filled, keep⟩ := inv.asked lit
  obtain ⟨cfc, slot⟩ := Option.isSome_iff_exists.mp filled
  exact ⟨k, cfc, slot, keep⟩

theorem preservingAgent_flag_asked :
    OptReachable demoKernel preservingAgent ∧ (preservingAgent.doPreserveConnections = true →
      ∃ k cfc, preservingAgent.reg.contentFilters k = some cfc ∧ preservingAgent.cfPreserveConnections k = true) ∧
      ∀ k, preservingAgent.reg.contentFilters k = none → preservingAgent.cfPreserveConnections k = false :=
  ⟨preservingAgent_reachable, preserve_flag_only_when_asked demoKernel preservingAgent_reachable⟩

end OptRegistry

end ContentFilter
