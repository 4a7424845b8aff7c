import ContentFilter.RegistryConsistency
import ContentFilter.Verdicts

/-! `cfil_sock_head_stats` lists exactly the live flows with a reporting entry. -/

namespace ContentFilter

/-- `cfe_stats_report_frequency` of entry `k` of a flow of `cfil_sock_head`. -/
def SockHeadInfo.reportFrequency (f : SockHeadInfo) (k : Kcunit) : Nat := (f.info.cfiEntries k).cfeStatsReportFrequency

section Frequencies

variable (env : Env) (k : Kcunit) (s : FlowSt)

theorem agentView_attachEntry (c necp : Nat) : (attachEntry k c necp s).info.agentView = s.info.agentView := by
  simp only [attachEntry, agentView_setEflags]
  exact (agentView_of_entries rfl).trans (agentView_setEntry s k rfl)

theorem agentView_unlinkEntry : (unlinkEntry k s).info.agentView = s.info.agentView :=
  agentView_setEntry s k rfl

theorem ctlDisconnectEntry_grows : Grows s (cfilCtlDisconnectEntry env k s).1 :=
  ctlDisconnectEntry_of_steps env k (Grows s) .refl (fun d t grows => grows.trans (actionDataPass_grows env d k _ _ t))
    fun _ grows => grows.trans (.of_agentView (by simp [ctlDisconnectDetach, agentView_unlinkEntry]))

end Frequencies

namespace Registry

variable {r : Registry}

theorem mem_of_info? {id : Nat} {f : SockHeadInfo} (found : r.info? id = some f) : f ∈ r.cfilSockHead ∧ f.cfiId = id :=
  ⟨List.mem_of_find?_eq_some found, by simpa using List.find?_some found⟩

theorem mem_putFlow {id : Nat} {s : FlowSt} {f : SockHeadInfo} (mem : f ∈ (r.putFlow id s).cfilSockHead) :
    (f.cfiId = id ∧ ∀ j, f.reportFrequency j = (s.entry j).cfeStatsReportFrequency) ∨
      (f.cfiId ≠ id ∧ f ∈ r.cfilSockHead) := by
  simp only [putFlow, List.mem_map] at mem
  obtain ⟨g, mem, rfl⟩ := mem
  split
  · exact .inl ⟨‹g.cfiId = id›, fun _ => rfl⟩
  · exact .inr ⟨‹¬g.cfiId = id›, mem⟩

theorem mem_statsRemove_of_ne {id id' : Nat} (other : id' ≠ id) :
    id' ∈ (r.statsRemove id).cfilSockHeadStats ↔ id' ∈ r.cfilSockHeadStats := by
  unfold statsRemove
  split
  · exact List.mem_erase_of_ne other
  · rfl

@[simp] theorem putFlow_cfilSockHeadStats (id : Nat) (s : FlowSt) :
    (r.putFlow id s).cfilSockHeadStats = r.cfilSockHeadStats := rfl

theorem verify_cfilSockHead (c : Bool) : (r.verify c).cfilSockHead = r.cfilSockHead := by
  unfold verify; split <;> rfl

theorem verify_cfilSockHeadStats (c : Bool) : (r.verify c).cfilSockHeadStats = r.cfilSockHeadStats := by
  unfold verify; split <;> rfl

end Registry

/-- A live flow is on `cfil_sock_head_stats` exactly when one of its entries reports, and
every frequency that is set is at least `CFIL_STATS_REPORT_INTERVAL_MIN_MSEC`. -/
structure StatsInv (r : Registry) : Prop where
  listed : ∀ f ∈ r.cfilSockHead, f.cfiId ∈ r.cfilSockHeadStats ↔ ∃ k, 0 < f.reportFrequency k
  atLeastMin : ∀ f ∈ r.cfilSockHead, ∀ k, 0 < f.reportFrequency k →
    Registry.cfilStatsReportIntervalMinMsec ≤ f.reportFrequency k

theorem StatsInv.init : StatsInv Registry.init where
  listed _ mem := by cases mem
  atLeastMin _ mem := by cases mem

namespace StatsInv

section Calls

variable {r : Registry} (inv : StatsInv r)
include inv

theorem of_head {r' : Registry} (head : r'.cfilSockHead = r.cfilSockHead)
    (stats : r'.cfilSockHeadStats = r.cfilSockHeadStats) : StatsInv r' where
  listed f mem := stats ▸ inv.listed f (head ▸ mem)
  atLeastMin f mem := inv.atLeastMin f (head ▸ mem)

theorem verify (c : Bool) : StatsInv (r.verify c) :=
  inv.of_head (Registry.verify_cfilSockHead c) (Registry.verify_cfilSockHeadStats c)

theorem verifyContentFilter (k : Kcunit) : StatsInv (r.verifyContentFilter k) := by
  unfold Registry.verifyContentFilter
  split
  · exact inv
  · exact inv.verify _

theorem mapFilter (k : Kcunit) (g : ContentFilterSt → ContentFilterSt) : StatsInv (r.mapFilter k g) :=
  inv.of_head rfl rfl

theorem freeSlot (k : Kcunit) : StatsInv (r.freeSlot k) :=
  inv.of_head rfl rfl

theorem putFlow {id : Nat} {s : FlowSt} {r' : Registry} (head : r'.cfilSockHead = (r.putFlow id s).cfilSockHead)
    (others : ∀ id', id' ≠ id → (id' ∈ r'.cfilSockHeadStats ↔ id' ∈ r.cfilSockHeadStats))
    (listed : id ∈ r'.cfilSockHeadStats ↔ ∃ k, 0 < (s.entry k).cfeStatsReportFrequency)
    (atLeastMin : ∀ k, 0 < (s.entry k).cfeStatsReportFrequency →
      Registry.cfilStatsReportIntervalMinMsec ≤ (s.entry k).cfeStatsReportFrequency) : StatsInv r' := by
  constructor <;> intro f mem <;> rw [head] at mem <;>
    rcases Registry.mem_putFlow mem with ⟨rfl, called⟩ | ⟨other, mem⟩
  · simpa only [called] using listed
  · exact (others _ other).trans (inv.listed f mem)
  · simpa only [called] using atLeastMin
  · exact inv.atLeastMin f mem

theorem putFlow_keep {id : Nat} {f : SockHeadInfo} (mem : f ∈ r.cfilSockHead) (named : f.cfiId = id) {s : FlowSt}
    (same : ∀ k, (s.entry k).cfeStatsReportFrequency = f.reportFrequency k) : StatsInv (r.putFlow id s) :=
  inv.putFlow rfl (fun _ _ => Iff.rfl) (by simpa only [same, named] using inv.listed f mem)
    (by simpa only [same] using inv.atLeastMin f mem)

theorem runFlow {id : Nat} {call : FlowSt → FlowSt} (grows : ∀ s, Grows s (call s)) : StatsInv (r.runFlow id call) := by
  unfold Registry.runFlow
  split
  · exact inv
  · rename_i f found
    have live := Registry.mem_of_info? found
    exact inv.putFlow_keep live.1 live.2 (grows _).statsReportFrequency

theorem ctlConnect (scUnit : Nat) : StatsInv (r.cfilCtlConnect scUnit).1 := by
  unfold Registry.cfilCtlConnect
  split
  · exact inv
  dsimp only
  split
  · exact inv
  · exact inv.of_head rfl rfl

theorem ctlSetoptNecpControlUnit (k : Kcunit) (necpControlUnit : Nat) :
    StatsInv (r.cfilCtlSetoptNecpControlUnit k necpControlUnit).1 := by
  unfold Registry.cfilCtlSetoptNecpControlUnit
  split
  · exact inv
  split
  · exact inv
  · exact inv.of_head rfl rfl

theorem clearFilterPolicy (id : Nat) : StatsInv (r.clearFilterPolicy id) := by
  have kept : ∀ f ∈ (r.clearFilterPolicy id).cfilSockHead,
      ∃ g ∈ r.cfilSockHead, g.cfiId = f.cfiId ∧ g.reportFrequency = f.reportFrequency := by
    intro f mem
    simp only [Registry.clearFilterPolicy, List.mem_map] at mem
    obtain ⟨g, mem, rfl⟩ := mem
    exact ⟨g, mem, by split <;> rfl, by split <;> rfl⟩
  constructor <;> intro f mem <;> obtain ⟨g, mem, named, same⟩ := kept f mem
  · rw [← named, ← same]; exact inv.listed g mem
  · rw [← same]; exact inv.atLeastMin g mem

theorem ctlDisconnectRound (env : Env) (k : Kcunit) (path : DisconnectPath) (id : Nat) :
    StatsInv (r.ctlDisconnectRound env k path id) := by
  unfold Registry.ctlDisconnectRound
  cases found : r.info? id with
  | none => exact inv
  | some f =>
    have live := Registry.mem_of_info? found
    have put : ∀ s, Grows (r.flowSt f) s → StatsInv (r.putFlow id s) := fun s grows =>
      inv.putFlow_keep live.1 live.2 grows.statsReportFrequency
    have flagged : Grows (r.flowSt f) (letDataFlow k (r.flowSt f)) := .of_agentView (by simp [letDataFlow])
    have unlinked : Grows (r.flowSt f) (unlinkEntry k (letDataFlow k (r.flowSt f))) :=
      flagged.trans (.of_agentView (agentView_unlinkEntry _ _))
    have passed := flagged.trans (ctlDisconnectEntry_grows env k (letDataFlow k (r.flowSt f)))
    dsimp only
    cases path with
    | retainFailed => exact (put _ unlinked).mapFilter k _
    | socketGone =>
      dsimp only
      split
      · exact (put _ unlinked).mapFilter k _
      · exact put _ flagged
    | found =>
      generalize cfilCtlDisconnectEntry env k (letDataFlow k (r.flowSt f)) = p at passed ⊢
      obtain ⟨s, detached⟩ := p
      dsimp only
      split
      · split
        · exact ((put _ passed).mapFilter k _).clearFilterPolicy id
        · exact (put _ passed).mapFilter k _
      · exact put _ passed

end Calls

theorem ctlDisconnectLoop (env : Env) (k : Kcunit) :
    ∀ fuel paths (r : Registry), StatsInv r → StatsInv (Registry.ctlDisconnectLoop env k fuel paths r)
  | 0, _, _, inv => inv
  | fuel + 1, paths, r, inv => by
    unfold Registry.ctlDisconnectLoop
    split
    · exact inv
    · exact ctlDisconnectLoop env k fuel _ _ ((inv.verifyContentFilter k).ctlDisconnectRound env k _ _)

theorem attachUnit_fold (id filterControlUnit : Nat) :
    ∀ (ks : List Kcunit) (acc : Registry × Bool), StatsInv acc.1 →
      StatsInv (ks.foldl (Registry.attachUnitRound id filterControlUnit) acc).1
  | [], _, inv => inv
  | k :: ks, acc, inv => by
    rw [List.foldl_cons]
    refine attachUnit_fold id filterControlUnit ks _ ?_
    unfold Registry.attachUnitRound
    split
    · exact inv
    split
    · exact inv
    · exact ((inv.runFlow fun s => .of_agentView (agentView_attachEntry k s _ _)).mapFilter k _).verifyContentFilter k

theorem free_fold (id : Nat) :
    ∀ (ks : List Kcunit) (r : Registry), StatsInv r → StatsInv (ks.foldl (fun r k => r.freeEntry id k) r)
  | [], _, inv => inv
  | k :: ks, r, inv => by
    rw [List.foldl_cons]
    refine free_fold id ks _ ?_
    unfold Registry.freeEntry
    cases found : r.info? id with
    | none => exact inv
    | some f =>
      dsimp only
      split
      · exact inv
      have live := Registry.mem_of_info? found
      refine ((inv.verify _).putFlow_keep ?_ live.2 fun j => ?_).mapFilter k _ |>.verifyContentFilter k
      · rw [Registry.verify_cfilSockHead]; exact live.1
      · exact (Grows.of_agentView (agentView_unlinkEntry k _)).statsReportFrequency j

section Calls

variable (env : Env) {r : Registry} (inv : StatsInv r)
include inv

theorem ctlDisconnect (k : Kcunit) (paths : List DisconnectPath) : StatsInv (r.cfilCtlDisconnect env k paths) := by
  unfold Registry.cfilCtlDisconnect
  split
  · exact inv
  split
  · exact inv
  · exact ((ctlDisconnectLoop env k _ paths r inv).verifyContentFilter k |>.verify _).freeSlot k

theorem ctlRcvd (k : Kcunit) : StatsInv (r.cfilCtlRcvd env k) := by
  rw [Registry.cfilCtlRcvd_eq]
  exact (inv.mapFilter k _).verifyContentFilter k

theorem infoAlloc (reg : RegistryInv r) (sockId : Nat) (so : SockSt) (unit gencount : Nat) :
    StatsInv (r.cfilInfoAlloc sockId so unit gencount).1 := by
  have fresh : r.nextId ∉ r.cfilSockHeadStats := fun listed => by
    obtain ⟨fl, mem, same⟩ := Links.mem_ids.mp (reg.links.statsLive _ listed)
    exact absurd (reg.links.flowFresh fl mem) (by simp [same, Registry.links])
  constructor <;> intro f mem <;>
    simp only [Registry.cfilInfoAlloc, List.mem_append, List.mem_singleton] at mem
  · rcases mem with mem | rfl
    · exact inv.listed f mem
    · exact iff_of_false fresh (by simp [SockHeadInfo.reportFrequency, ContentFilter.cfilInfoAlloc])
  · rcases mem with mem | rfl
    · exact inv.atLeastMin f mem
    · simp [SockHeadInfo.reportFrequency, ContentFilter.cfilInfoAlloc]

theorem attachEvent (id : Nat) : StatsInv (r.runFlow id fun s => (cfilDispatchAttachEvent env none s).1) :=
  inv.runFlow fun _ => .of_agentView (by simp)

theorem statsToggle (reg : RegistryInv r) (id : Nat) (k : Kcunit) (reportFrequency : Nat) :
    StatsInv (r.cfilInfoStatsToggle id (some k) reportFrequency) := by
  unfold Registry.cfilInfoStatsToggle
  cases found : r.info? id with
  | none => exact inv
  | some f =>
    have live := Registry.mem_of_info? found
    /- The flow with entry `k` set to `v`: its frequencies, and the registry it leaves. -/
    have set : ∀ v j, (((r.flowSt f).setEntry k { f.info.cfiEntries k with cfeStatsReportFrequency := v }).entry j).cfeStatsReportFrequency =
        if j = k then v else f.reportFrequency j := fun v j => by
      rw [entry_setEntry_apply]; split <;> rfl
    have ran : ∀ v, r.runFlow id (fun s => s.setEntry k { s.entry k with cfeStatsReportFrequency := v }) =
        r.putFlow id ((r.flowSt f).setEntry k { f.info.cfiEntries k with cfeStatsReportFrequency := v }) := fun v => by
      simp only [Registry.runFlow, found]; rfl
    have atLeastMin : ∀ v, (0 < v → Registry.cfilStatsReportIntervalMinMsec ≤ v) → ∀ j,
        0 < (((r.flowSt f).setEntry k { f.info.cfiEntries k with cfeStatsReportFrequency := v }).entry j).cfeStatsReportFrequency →
        Registry.cfilStatsReportIntervalMinMsec ≤
          (((r.flowSt f).setEntry k { f.info.cfiEntries k with cfeStatsReportFrequency := v }).entry j).cfeStatsReportFrequency := by
      intro v least j
      rw [set]
      split
      · exact least
      · exact inv.atLeastMin f live.1 j
    dsimp only
    generalize raised : (if reportFrequency < Registry.cfilStatsReportIntervalMinMsec then
      Registry.cfilStatsReportIntervalMinMsec else reportFrequency) = v
    have least : Registry.cfilStatsReportIntervalMinMsec ≤ v := by subst raised; split <;> omega
    have reporting : ∃ j, 0 < (((r.flowSt f).setEntry k { f.info.cfiEntries k with cfeStatsReportFrequency := v }).entry j).cfeStatsReportFrequency :=
      ⟨k, by rw [set, if_pos rfl]; exact lt_of_lt_of_le (by decide) least⟩
    split_ifs with asked same listed zero others
    · exact inv
    · /- A new frequency, on a flow already listed. -/
      rw [ran] at listed ⊢
      exact inv.putFlow rfl (fun _ _ => Iff.rfl) (iff_of_true listed reporting) (atLeastMin v fun _ => least)
    · /- A new frequency: the flow joins the list. -/
      rw [ran]
      exact inv.putFlow rfl (fun _ other => by simp [other]) (iff_of_true (by simp) reporting) (atLeastMin v fun _ => least)
    · exact inv
    · /- The entry stops reporting, but another still does: the flow stays listed. -/
      rw [ran]
      obtain ⟨j, other, pos⟩ : ∃ j, j ≠ k ∧ 0 < f.reportFrequency j := by
        simpa [SockHeadInfo.reportFrequency] using others
      have stays : id ∈ r.cfilSockHeadStats := live.2 ▸ (inv.listed f live.1).mpr ⟨k, Nat.pos_of_ne_zero zero⟩
      exact inv.putFlow rfl (fun _ _ => Iff.rfl) (iff_of_true stays ⟨j, by rw [set, if_neg other]; exact pos⟩)
        (atLeastMin 0 (by omega))
    · /- The last reporting entry stops: the flow leaves the list. -/
      rw [ran]
      have quiet : ∀ j, j ≠ k → f.reportFrequency j = 0 := by
        simpa [SockHeadInfo.reportFrequency] using others
      refine inv.putFlow (Registry.statsRemove_cfilSockHead id) (fun _ other => Registry.mem_statsRemove_of_ne other)
        (iff_of_false ?_ fun ⟨j, pos⟩ => ?_) (atLeastMin 0 (by omega))
      · unfold Registry.statsRemove
        split
        · exact reg.links.statsNodup.not_mem_erase
        · assumption
      · rw [set] at pos
        split at pos
        · exact lt_irrefl 0 pos
        · exact lt_irrefl 0 (quiet j ‹_› ▸ pos)

theorem infoFree (id : Nat) : StatsInv (r.cfilInfoFree id) := by
  unfold Registry.cfilInfoFree
  split
  · exact inv
  have freed := free_fold id (List.finRange maxContentFilter) r inv
  generalize (List.finRange maxContentFilter).foldl (fun r k => r.freeEntry id k) r = r₁ at freed ⊢
  show StatsInv ((r₁.removeInfo id).statsRemove id)
  have head : ∀ f ∈ ((r₁.removeInfo id).statsRemove id).cfilSockHead, f ∈ r₁.cfilSockHead ∧ f.cfiId ≠ id := by
    simp [Registry.removeInfo]
  constructor <;> intro f mem
  · exact (Registry.mem_statsRemove_of_ne (head f mem).2).trans (freed.listed f (head f mem).1)
  · exact freed.atLeastMin f (head f mem).1

theorem step (reg : RegistryInv r) (op : RegistryOp) : StatsInv (op.apply env r) := by
  cases op with
  | ctlConnect scUnit => exact inv.ctlConnect scUnit
  | ctlSetoptNecpControlUnit k necpControlUnit => exact inv.ctlSetoptNecpControlUnit k necpControlUnit
  | ctlDisconnect k paths => exact inv.ctlDisconnect env k paths
  | ctlRcvd k => exact inv.ctlRcvd env k
  | infoAlloc sockId so unit gencount => exact inv.infoAlloc reg sockId so unit gencount
  | infoAttachUnit id filterControlUnit =>
    show StatsInv (r.cfilInfoAttachUnit id filterControlUnit).1
    unfold Registry.cfilInfoAttachUnit
    split
    · exact inv
    · exact attachUnit_fold id filterControlUnit _ (r, false) inv
  | attachEvent id => exact inv.attachEvent env id
  | statsToggle id k reportFrequency => exact inv.statsToggle reg id k reportFrequency
  | infoFree id => exact inv.infoFree id

end Calls

end StatsInv

theorem RegistryReachable.statsInv {env : Env} {r : Registry} (reach : RegistryReachable env r) : StatsInv r := by
  induction reach with
  | init => exact StatsInv.init
  | step op _ reach ih => exact ih.step env reach.inv op

/-- In every registry reached from `cfil_init`, `cfil_sock_head_stats` lists exactly the live
flows with a reporting entry, and every set frequency is at least the minimum. -/
theorem stats_list_consistent (env : Env) {r : Registry} (reach : RegistryReachable env r) :
    r.cfilSockAttachedStatsCount = r.cfilSockHeadStats.length ∧ r.cfilSockHeadStats.Nodup ∧
      (∀ f ∈ r.cfilSockHead, f.cfiId ∈ r.cfilSockHeadStats ↔ ∃ k, 0 < f.reportFrequency k) ∧
      ∀ f ∈ r.cfilSockHead, ∀ k, 0 < f.reportFrequency k →
        Registry.cfilStatsReportIntervalMinMsec ≤ f.reportFrequency k :=
  have links := reach.inv.links
  ⟨links.statsCount, links.statsNodup, reach.statsInv.listed, reach.statsInv.atLeastMin⟩

/-- `oneFlowRegistry` after the agent asks for reports every 100 ms, which is raised to the
minimum, and then a second time for the same. -/
def reportingRegistry : Registry :=
  (RegistryOp.statsToggle 1 0 100).apply demoKernel <| (RegistryOp.statsToggle 1 0 100).apply demoKernel oneFlowRegistry

theorem reportingRegistry_consistent :
    RegistryReachable demoKernel reportingRegistry ∧ reportingRegistry.cfilSockHeadStats = [1] ∧
      reportingRegistry.cfilSockAttachedStatsCount = reportingRegistry.cfilSockHeadStats.length ∧
      reportingRegistry.cfilSockHeadStats.Nodup ∧
      (∀ f ∈ reportingRegistry.cfilSockHead, f.cfiId ∈ reportingRegistry.cfilSockHeadStats ↔ ∃ k, 0 < f.reportFrequency k) ∧
      ∀ f ∈ reportingRegistry.cfilSockHead, ∀ k, 0 < f.reportFrequency k →
        Registry.cfilStatsReportIntervalMinMsec ≤ f.reportFrequency k :=
  have reach : RegistryReachable demoKernel reportingRegistry :=
    .step _ trivial <| .step _ trivial <| .step _ trivial <| .step _ (show ∀ k : Kcunit, _ = none by decide) <|
      .step _ trivial <| .step _ trivial <| .step _ trivial .init
  ⟨reach, by decide, stats_list_consistent demoKernel reach⟩

end ContentFilter
