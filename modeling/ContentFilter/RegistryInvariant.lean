import ContentFilter.FlowControlLift
import ContentFilter.Links
import ContentFilter.PassAll

/-! Every call of the registry moves its links by one of the moves of `Links`. -/

namespace ContentFilter

section DisconnectRound

variable (env : Env) (d : Bool)

/-- A flow as the registry keeps it: the data path's invariant, and no chain held, since
no call of the registry brings a flow data. -/
structure Dataless (s : FlowSt) : Prop where
  inv : FlowInv s
  empty : ∀ d, heldChains s d = 0

theorem Dataless.of_bufs {s s' : FlowSt} (dataless : Dataless s) (ebuf : ∀ k d, s'.ebuf k d = s.ebuf k d)
    (ibuf : ∀ d, s'.ibuf d = s.ibuf d) (panicked : s'.panicked = s.panicked) : Dataless s' :=
  ⟨dataless.inv.of_bufs ebuf ibuf panicked, fun d => (heldChains_of_bufs ebuf ibuf d).trans (dataless.empty d)⟩

theorem Dataless.of_eventsOnly {s s' : FlowSt} (dataless : Dataless s) (events : EventsOnly s s') : Dataless s' :=
  dataless.of_bufs events.ebuf events.ibuf events.panicked

theorem injectQ_nil_of_heldChains {s : FlowSt} (empty : heldChains s d = 0) : (s.ibuf d).cfiInjectQ.qMq = [] :=
  (Multiset.coe_eq_zero _).mp (add_eq_zero.mp empty).2

theorem serviceInjectQueue_of_empty (s : FlowSt) (inv : FlowInv s) (empty : (s.ibuf d).cfiInjectQ.qMq = []) :
    Kept s (cfilServiceInjectQueue env d s).1 ∧ ∀ d', heldChains (cfilServiceInjectQueue env d s).1 d' = heldChains s d' := by
  unfold cfilServiceInjectQueue
  split
  · exact ⟨.refl inv, fun _ => rfl⟩
  · dsimp only
    rw [if_pos (by simp [setRetryInject, empty])]
    exact ⟨setRetryInject_kept d s inv false, fun _ => rfl⟩

theorem setSocketPassOffset_kept (s : FlowSt) (inv : FlowInv s) : Kept s (cfilSetSocketPassOffset d s) := by
  have written : ∀ p, Kept s (s.setIbuf d { s.ibuf d with cfiPassOffset := p }) := fun _ =>
    (inv.room d).kept_setIbuf d inv.struct le_rfl rfl rfl rfl rfl
  unfold cfilSetSocketPassOffset
  dsimp only
  split
  · exact written _
  · exact .refl inv

theorem heldChains_setSocketPassOffset (s : FlowSt) (d' : Bool) :
    heldChains (cfilSetSocketPassOffset d s) d' = heldChains s d' := by
  have written : ∀ p, heldChains (s.setIbuf d { s.ibuf d with cfiPassOffset := p }) d' = heldChains s d' :=
    fun p => heldChains_setIbuf_keeping (b := { s.ibuf d with cfiPassOffset := p }) rfl d'
  unfold cfilSetSocketPassOffset
  dsimp only
  split
  · exact written _
  · rfl

theorem actionDataPass_kept (k : Kcunit) (passOffset peekOffset : Nat) (s : FlowSt) (dataless : Dataless s) :
    Kept s (cfilActionDataPass env d k passOffset peekOffset s).1 ∧
      (∀ j, ((cfilActionDataPass env d k passOffset peekOffset s).1.entry j).cfeFilter = (s.entry j).cfeFilter) ∧
      ∀ d', heldChains (cfilActionDataPass env d k passOffset peekOffset s).1 d' = 0 := by
  have updated := updateDataOffsets_kept env d k passOffset peekOffset s dataless.inv
  have moved := updateDataOffsets_moves env d k passOffset peekOffset s dataless.inv.struct.shaped
  exact actionDataPass_of_steps env d k passOffset peekOffset
    (fun t => Kept s t ∧ (∀ j, (t.entry j).cfeFilter = (s.entry j).cfeFilter) ∧ ∀ d', heldChains t d' = 0)
    ⟨.refl dataless.inv, fun _ => rfl, dataless.empty⟩
    ⟨updated.1, updated.2, fun d' => by simpa [dataless.empty] using moved.chains d'⟩
    (fun t ⟨kept, filters, empty⟩ =>
      have injected := serviceInjectQueue_of_empty env d t kept.inv (injectQ_nil_of_heldChains d (empty d))
      ⟨kept.trans injected.1, fun j => ((serviceInjectQueue_entriesKept env d t).cfeFilter j).trans (filters j),
        fun d' => (injected.2 d').trans (empty d')⟩)
    (fun t ⟨kept, filters, empty⟩ => ⟨kept.trans (setSocketPassOffset_kept d _ kept.inv),
      fun j => (congrArg CfilEntry.cfeFilter (setSocketPassOffset_entry d t j)).trans (filters j),
      fun d' => (heldChains_setSocketPassOffset d t d').trans (empty d')⟩)
    fun t held => by rwa [held.1.inv.verifyInfo_eq]

theorem ctlDisconnectPasses_kept (k : Kcunit) (s : FlowSt) (dataless : Dataless s) :
    Kept s (ctlDisconnectPasses env k s) ∧
      (∀ j, ((ctlDisconnectPasses env k s).entry j).cfeFilter = (s.entry j).cfeFilter) ∧
      Dataless (ctlDisconnectPasses env k s) := by
  obtain ⟨out, filters, empty⟩ := actionDataPass_kept env true k env.cfmMaxOffset env.cfmMaxOffset s dataless
  unfold ctlDisconnectPasses
  generalize (cfilActionDataPass env true k env.cfmMaxOffset env.cfmMaxOffset s).1 = s₁ at out filters empty ⊢
  obtain ⟨into, filters', empty'⟩ := actionDataPass_kept env false k env.cfmMaxOffset env.cfmMaxOffset s₁ ⟨out.inv, empty⟩
  exact ⟨out.trans into, fun j => (filters' j).trans (filters j), into.inv, empty'⟩

theorem unlinkEntry_cfeFilter_apply (k j : Kcunit) (s : FlowSt) :
    ((unlinkEntry k s).entry j).cfeFilter = if j = k then none else (s.entry j).cfeFilter := by
  simp only [unlinkEntry, entry_setEntry_apply]
  split <;> rfl

theorem cfilInfoAlloc_dataless (sockId : Nat) (so : SockSt) (flowControlled : Kcunit → Bool) :
    Dataless (cfilInfoAlloc sockId so flowControlled) :=
  ⟨cfilInfoAlloc_inv sockId so flowControlled, fun d => by
    cases d <;> simp [heldChains, CfeBuf.chains, FlowSt.ebuf, FlowSt.ibuf, FlowSt.entry, cfilInfoAlloc, CfilEntry.buf,
      CfilInfo.buf, cfilQueueInit]⟩

theorem unlinkEntry_dataless (k : Kcunit) (s : FlowSt) (dataless : Dataless s) : Dataless (unlinkEntry k s) :=
  dataless.of_bufs (fun _ _ => unlinkEntry_ebuf _ _ _ _) (fun _ => rfl) rfl

theorem attachEntry_cfeFilter_apply (k j : Kcunit) (cfc necp : Nat) (s : FlowSt) :
    ((attachEntry k cfc necp s).entry j).cfeFilter = if j = k then some cfc else (s.entry j).cfeFilter := by
  simp only [attachEntry, setEflags_cfeFilter]
  show ((s.setEntry k _).entry j).cfeFilter = _
  rw [entry_setEntry_apply]
  split <;> rfl

theorem attachEntry_dataless (k : Kcunit) (cfc necp : Nat) (s : FlowSt) (dataless : Dataless s) :
    Dataless (attachEntry k cfc necp s) :=
  dataless.of_bufs (fun _ _ => attachEntry_ebuf _ _ _ _ _ _) (fun _ => rfl) rfl

theorem setReportFrequency_kept (k : Kcunit) (v : Nat) (s : FlowSt) (dataless : Dataless s) :
    Dataless (s.setEntry k { s.entry k with cfeStatsReportFrequency := v }) ∧
      ∀ j, ((s.setEntry k { s.entry k with cfeStatsReportFrequency := v }).entry j).cfeFilter = (s.entry j).cfeFilter := by
  refine ⟨dataless.of_bufs (fun j d => ?_) (fun _ => rfl) rfl, fun j => ?_⟩ <;>
    simp only [FlowSt.ebuf, entry_setEntry_apply] <;> split <;> simp_all [CfilEntry.buf]

end DisconnectRound

def ContentFilterSt.link (cfc : ContentFilterSt) : FilterLink := ⟨cfc.cfId, cfc.cfKcunit, cfc.cfSockEntries, cfc.cfSockCount⟩

def SockHeadInfo.link (f : SockHeadInfo) : FlowLink := ⟨f.cfiId, fun k => (f.info.cfiEntries k).cfeFilter⟩

/-- The registry as its links see it. -/
def Registry.links (r : Registry) : Links where
  filters k := (r.contentFilters k).map ContentFilterSt.link
  activeCount := r.cfilActiveCount
  flows := r.cfilSockHead.map SockHeadInfo.link
  attachedCount := r.cfilSockAttachedCount
  stats := r.cfilSockHeadStats
  statsCount := r.cfilSockAttachedStatsCount
  nextId := r.nextId

namespace Registry

variable {r : Registry}

theorem ids_links : r.links.ids = r.cfilSockHead.map (·.cfiId) := by
  simp [Links.ids, Registry.links, SockHeadInfo.link]

theorem points_links {id : Nat} {k : Kcunit} {c : Nat} :
    r.links.Points id k c ↔ ∃ f ∈ r.cfilSockHead, f.cfiId = id ∧ (f.info.cfiEntries k).cfeFilter = some c := by
  simp [Links.Points, Registry.links, SockHeadInfo.link]

theorem filters_links {k : Kcunit} {cfc : ContentFilterSt} (slot : r.contentFilters k = some cfc) :
    r.links.filters k = some cfc.link := by
  simp [Registry.links, slot]

theorem slot_of_links {k : Kcunit} {fl : FilterLink} (slot : r.links.filters k = some fl) :
    ∃ cfc, r.contentFilters k = some cfc ∧ cfc.link = fl :=
  Option.map_eq_some'.mp slot

theorem info?_eq_some {id : Nat} {f : SockHeadInfo} (nodup : r.links.ids.Nodup) :
    r.info? id = some f ↔ f ∈ r.cfilSockHead ∧ f.cfiId = id := by
  rw [ids_links] at nodup
  unfold info?
  constructor
  · intro found
    exact ⟨List.mem_of_find?_eq_some found, by simpa using List.find?_some found⟩
  · rintro ⟨mem, rfl⟩
    have present : r.cfilSockHead.find? (·.cfiId = f.cfiId) ≠ none := fun none => by
      simpa using List.find?_eq_none.mp none f mem
    obtain ⟨g, found⟩ := Option.ne_none_iff_exists'.mp present
    have same : g.cfiId = f.cfiId := by simpa using List.find?_some found
    rw [found, List.inj_on_of_nodup_map nodup (List.mem_of_find?_eq_some found) mem same]

theorem info?_isSome {id : Nat} (live : id ∈ r.links.ids) : ∃ f, r.info? id = some f := by
  rw [ids_links, List.mem_map] at live
  obtain ⟨f, mem, rfl⟩ := live
  have present : r.cfilSockHead.find? (·.cfiId = f.cfiId) ≠ none := fun none => by
    simpa using List.find?_eq_none.mp none f mem
  exact Option.ne_none_iff_exists'.mp present

theorem entryFilter_eq_some {id : Nat} {k : Kcunit} {c : Nat} (nodup : r.links.ids.Nodup) :
    r.entryFilter id k = some c ↔ r.links.Points id k c := by
  rw [points_links, entryFilter, Option.bind_eq_some]
  constructor
  · rintro ⟨f, found, points⟩
    obtain ⟨mem, rfl⟩ := (info?_eq_some nodup).mp found
    exact ⟨f, mem, rfl, points⟩
  · rintro ⟨f, mem, rfl, points⟩
    exact ⟨f, (info?_eq_some nodup).mpr ⟨mem, rfl⟩, points⟩

@[simp] theorem verify_true (r : Registry) : r.verify true = r := rfl

@[simp] theorem links_verify (c : Bool) : (r.verify c).links = r.links := by
  unfold Registry.verify; split <;> rfl

@[simp] theorem links_verifyContentFilter (k : Kcunit) : (r.verifyContentFilter k).links = r.links := by
  unfold verifyContentFilter; split <;> simp

theorem verifyContentFilter_of_inv (inv : r.links.Inv) (k : Kcunit) : r.verifyContentFilter k = r := by
  unfold verifyContentFilter
  split
  · rfl
  rename_i cfc slot
  have listed := inv.onList k _ (filters_links slot)
  have counted := inv.sockCount k _ (filters_links slot)
  simp only [ContentFilterSt.link] at listed counted
  refine if_pos ?_
  simp only [Bool.and_eq_true, List.all_eq_true, decide_eq_true_eq, counted, and_true]
  exact fun id member => (entryFilter_eq_some inv.flowsNodup).mpr ((listed id).mp member)

theorem links_mapFilter (k : Kcunit) (g : ContentFilterSt → ContentFilterSt) (g' : FilterLink → FilterLink)
    (commute : ∀ cfc, (g cfc).link = g' cfc.link) : (r.mapFilter k g).links = r.links.mapFilter k g' := by
  simp only [Registry.links, mapFilter, setFilter, Links.mapFilter, Links.mk.injEq, and_true, true_and]
  funext j
  by_cases here : j = k
  · subst here; cases r.contentFilters j <;> simp [commute]
  · simp [here]

theorem links_putFlow (id : Nat) (s : FlowSt) :
    (r.putFlow id s).links = { r.links with flows := r.links.flows.map fun fl =>
      if fl.cfiId = id then ⟨id, fun j => (s.entry j).cfeFilter⟩ else fl } := by
  simp only [Registry.links, putFlow, List.map_map, Links.mk.injEq, true_and, and_true]
  constructor
  · funext k; cases r.contentFilters k <;> rfl
  · exact List.map_congr_left fun f _ => by
      simp only [Function.comp]; split <;> simp_all [SockHeadInfo.link, FlowSt.entry]

theorem links_putFlow_set {id : Nat} {f : SockHeadInfo} (nodup : r.links.ids.Nodup) (found : r.info? id = some f)
    {s : FlowSt} (k : Kcunit) (c : Option Nat)
    (set : ∀ j, (s.entry j).cfeFilter = if j = k then c else (f.info.cfiEntries j).cfeFilter) :
    (r.putFlow id s).links = r.links.setEntry id k c := by
  obtain ⟨mem, rfl⟩ := (info?_eq_some nodup).mp found
  rw [links_putFlow]
  simp only [Links.setEntry]
  congr 1
  refine List.map_congr_left fun fl member => ?_
  simp only [Registry.links, List.mem_map] at member
  obtain ⟨g, member, rfl⟩ := member
  unfold FlowLink.setEntry
  split
  · rename_i same
    rw [ids_links] at nodup
    obtain rfl := List.inj_on_of_nodup_map nodup member mem same
    simp only [SockHeadInfo.link, FlowLink.mk.injEq, true_and]
    funext j
    rw [set j, Function.update_apply]
  · rfl

theorem links_putFlow_keep {id : Nat} {f : SockHeadInfo} (nodup : r.links.ids.Nodup) (found : r.info? id = some f)
    {s : FlowSt} (same : ∀ j, (s.entry j).cfeFilter = (f.info.cfiEntries j).cfeFilter) : (r.putFlow id s).links = r.links := by
  obtain ⟨mem, rfl⟩ := (info?_eq_some nodup).mp found
  have flows : (r.links.flows.map fun fl =>
      if fl.cfiId = f.cfiId then (⟨f.cfiId, fun j => (s.entry j).cfeFilter⟩ : FlowLink) else fl) = r.links.flows := by
    conv => rhs; rw [← List.map_id r.links.flows]
    refine List.map_congr_left fun fl member => ?_
    simp only [Registry.links, List.mem_map] at member
    obtain ⟨g, member, rfl⟩ := member
    split
    · rename_i same'
      rw [ids_links] at nodup
      obtain rfl := List.inj_on_of_nodup_map nodup member mem same'
      simp only [SockHeadInfo.link, id, FlowLink.mk.injEq, true_and]
      funext j
      exact same j
    · rfl
  rw [links_putFlow, flows]

theorem links_runFlow_keep {id : Nat} {call : FlowSt → FlowSt} (nodup : r.links.ids.Nodup)
    (same : ∀ f, r.info? id = some f → ∀ j, ((call (r.flowSt f)).entry j).cfeFilter = (f.info.cfiEntries j).cfeFilter) :
    (r.runFlow id call).links = r.links := by
  unfold runFlow
  split
  · rfl
  · rename_i f found; exact links_putFlow_keep nodup found (same f found)

theorem points_of_found {id : Nat} {f : SockHeadInfo} (nodup : r.links.ids.Nodup) (found : r.info? id = some f)
    {j : Kcunit} {c : Nat} : r.links.Points id j c ↔ (f.info.cfiEntries j).cfeFilter = some c := by
  rw [← entryFilter_eq_some nodup, entryFilter, found]
  rfl

theorem live_of_found {id : Nat} {f : SockHeadInfo} (nodup : r.links.ids.Nodup) (found : r.info? id = some f) :
    id ∈ r.links.ids := by
  obtain ⟨mem, rfl⟩ := (info?_eq_some nodup).mp found
  rw [ids_links]
  exact List.mem_map_of_mem _ mem

@[simp] theorem links_statsRemove (id : Nat) : (r.statsRemove id).links = r.links.statsRemove id := by
  have stats : r.links.stats = r.cfilSockHeadStats := rfl
  unfold statsRemove Links.statsRemove
  by_cases listed : id ∈ r.cfilSockHeadStats
  · simp only [stats, listed, if_true]; rfl
  · simp only [stats, listed, if_false]

theorem links_setFilter_some {k : Kcunit} {cfc : ContentFilterSt} (slot : r.contentFilters k = some cfc)
    (cfc' : ContentFilterSt) (same : cfc'.link = cfc.link) : (r.setFilter k (some cfc')).links = r.links := by
  simp only [Registry.links, setFilter, Links.mk.injEq, and_true]
  funext j
  by_cases here : j = k
  · subst here; simp [slot, same]
  · simp [here]

@[simp] theorem statsRemove_cfilSockHead (id : Nat) : (r.statsRemove id).cfilSockHead = r.cfilSockHead := by
  unfold statsRemove; split <;> rfl

@[simp] theorem statsRemove_panicked (id : Nat) : (r.statsRemove id).panicked = r.panicked := by
  unfold statsRemove; split <;> rfl

theorem links_freeSlot (k : Kcunit) : (r.freeSlot k).links = r.links.retire k := by
  simp only [Registry.links, Links.retire, freeSlot, setFilter, Links.mk.injEq, and_true, true_and]
  funext j
  by_cases here : j = k
  · subst here; simp
  · simp [here]

@[simp] theorem links_clearFilterPolicy (id : Nat) : (r.clearFilterPolicy id).links = r.links := by
  have same : ∀ f : SockHeadInfo,
      (if f.cfiId = id then { f with cfiFilterControlUnit := 0, cfiFilterPolicyGencount := 0 } else f).link = f.link :=
    fun f => by split <;> rfl
  simp only [Registry.links, clearFilterPolicy, List.map_map, Function.comp_def, same]

theorem links_removeInfo (id : Nat) : (r.removeInfo id).links = r.links.removeFlow id := by
  simp only [Registry.links, Links.removeFlow, removeInfo, List.filter_map]
  rfl

end Registry

/-- Every flow of `cfil_sock_head` keeps the data path's invariant and holds nothing. -/
def FlowsInv (r : Registry) : Prop := ∀ f ∈ r.cfilSockHead, Dataless (r.flowSt f)

namespace FlowsInv

variable {r r' : Registry}

theorem of_subset (flows : FlowsInv r) (head : ∀ f ∈ r'.cfilSockHead, f ∈ r.cfilSockHead)
    (panicked : r'.panicked = r.panicked) : FlowsInv r' := fun f mem =>
  (flows f (head f mem)).of_bufs (fun _ _ => rfl) (fun _ => rfl) panicked

theorem transfer (flows : FlowsInv r) (head : r'.cfilSockHead = r.cfilSockHead) (panicked : r'.panicked = r.panicked) :
    FlowsInv r' :=
  flows.of_subset (fun _ mem => head ▸ mem) panicked

theorem putFlow (flows : FlowsInv r) (sane : r.panicked = false) {id : Nat} {s : FlowSt}
    (kept : Dataless s) : FlowsInv (r.putFlow id s) := by
  intro f' mem
  simp only [Registry.putFlow, List.mem_map] at mem
  obtain ⟨g, mem, rfl⟩ := mem
  split
  · exact kept.of_bufs (fun _ _ => rfl) (fun _ => rfl) rfl
  · exact (flows g mem).of_bufs (fun _ _ => rfl) (fun _ => rfl) (kept.inv.struct.sane.trans sane.symm)

end FlowsInv

/-- The registry's invariant: consistent links, every flow with the data path's invariant
and holding nothing, and no check fired. -/
structure RegistryInv (r : Registry) : Prop where
  links : r.links.Inv
  flows : FlowsInv r
  sane : r.panicked = false

theorem RegistryInv.init : RegistryInv Registry.init where
  links :=
    { slotUnit := fun _ _ slot => by cases slot
      activeCount := by simp [Registry.links, Registry.init]
      filterFresh := fun _ _ slot => by cases slot
      filterDistinct := fun _ _ _ _ slot => by cases slot
      sockCount := fun _ _ slot => by cases slot
      entriesNodup := fun _ _ slot => by cases slot
      onList := fun _ _ slot => by cases slot
      entrySlot := fun _ _ _ ⟨_, mem, _⟩ => by cases mem
      flowsNodup := List.nodup_nil
      flowFresh := fun _ mem => by cases mem
      attachedCount := rfl
      statsLive := fun _ mem => by cases mem
      statsNodup := List.nodup_nil
      statsCount := rfl }
  flows _ mem := by cases mem
  sane := rfl

namespace RegistryInv

section Calls

variable (env : Env) {r : Registry} (inv : RegistryInv r)
include inv

theorem nodup : r.links.ids.Nodup := inv.links.flowsNodup

theorem of_links {r' : Registry} (links : r'.links.Inv) (head : r'.cfilSockHead = r.cfilSockHead)
    (panicked : r'.panicked = r.panicked) : RegistryInv r' :=
  ⟨links, inv.flows.transfer head panicked, panicked.trans inv.sane⟩

theorem runFlow {id : Nat} {call : FlowSt → FlowSt}
    (kept : ∀ f, r.info? id = some f → Dataless (call (r.flowSt f)))
    (links : ∀ f, r.info? id = some f → (r.putFlow id (call (r.flowSt f))).links.Inv) :
    RegistryInv (r.runFlow id call) := by
  unfold Registry.runFlow
  split
  · exact inv
  · rename_i f found
    exact ⟨links f found, inv.flows.putFlow inv.sane (kept f found), (kept f found).inv.struct.sane⟩

theorem runFlow_keep {id : Nat} {call : FlowSt → FlowSt}
    (kept : ∀ s, Dataless s → Dataless (call s) ∧ ∀ j, ((call s).entry j).cfeFilter = (s.entry j).cfeFilter) :
    RegistryInv (r.runFlow id call) ∧ (r.runFlow id call).links = r.links := by
  have each : ∀ f, r.info? id = some f → Dataless (call (r.flowSt f)) ∧
      ∀ j, ((call (r.flowSt f)).entry j).cfeFilter = (f.info.cfiEntries j).cfeFilter := fun f found =>
    kept _ (inv.flows f ((Registry.info?_eq_some inv.nodup).mp found).1)
  have links := Registry.links_runFlow_keep inv.nodup fun f found => (each f found).2
  refine ⟨inv.runFlow (fun f found => (each f found).1) fun f found => ?_, links⟩
  rw [Registry.links_putFlow_keep inv.nodup found (each f found).2]
  exact inv.links

theorem leaveFilter {id : Nat} {k : Kcunit} {f : SockHeadInfo} (found : r.info? id = some f)
    {cfc : ContentFilterSt} (slot : r.contentFilters k = some cfc) (listed : id ∈ cfc.cfSockEntries) {s : FlowSt}
    (kept : Dataless s) (set : ∀ j, (s.entry j).cfeFilter = if j = k then none else (f.info.cfiEntries j).cfeFilter) :
    RegistryInv (r.leaveFilter k id s) ∧ (r.leaveFilter k id s).links = r.links.unlink id k := by
  have links : (r.leaveFilter k id s).links = r.links.unlink id k := by
    rw [Registry.leaveFilter, Registry.links_mapFilter k (·.removeEntry id) (·.remove id) fun _ => rfl,
      Registry.links_putFlow_set inv.nodup found k none set]
    rfl
  have slotted := Registry.filters_links slot
  refine ⟨⟨links ▸ inv.links.unlink slotted listed, (inv.flows.putFlow inv.sane kept).transfer rfl rfl,
    kept.inv.struct.sane⟩, links⟩

theorem clearFilterPolicy (id : Nat) : RegistryInv (r.clearFilterPolicy id) := by
  refine ⟨(Registry.links_clearFilterPolicy id).symm ▸ inv.links, fun f mem => ?_, inv.sane⟩
  simp only [Registry.clearFilterPolicy, List.mem_map] at mem
  obtain ⟨g, mem, rfl⟩ := mem
  split <;> exact inv.flows g mem

theorem ctlConnect (scUnit : Nat) : RegistryInv (r.cfilCtlConnect scUnit).1 := by
  unfold Registry.cfilCtlConnect
  split
  · exact inv
  rename_i bad
  dsimp only
  split
  · exact inv
  rename_i used
  have free : r.links.filters ⟨scUnit - 1, by omega⟩ = none := by simpa [Registry.links] using used
  refine inv.of_links ?_ rfl rfl
  convert inv.links.connect _ free using 1
  simp only [Registry.links, Links.connect, Registry.setFilter, Links.mk.injEq, and_true, true_and]
  funext j
  by_cases here : j = ⟨scUnit - 1, by omega⟩
  · subst here; simp [ContentFilterSt.link]; omega
  · simp [here]

theorem ctlSetoptNecpControlUnit (k : Kcunit) (necpControlUnit : Nat) :
    RegistryInv (r.cfilCtlSetoptNecpControlUnit k necpControlUnit).1 := by
  unfold Registry.cfilCtlSetoptNecpControlUnit
  split
  · exact inv
  rename_i cfc slot
  split
  · exact inv
  refine inv.of_links ?_ rfl rfl
  rw [Registry.links_setFilter_some slot { cfc with cfNecpControlUnit := necpControlUnit } rfl]
  exact inv.links

theorem infoAlloc (sockId : Nat) (so : SockSt) (unit gencount : Nat) :
    RegistryInv (r.cfilInfoAlloc sockId so unit gencount).1 := by
  have links : (r.cfilInfoAlloc sockId so unit gencount).1.links = r.links.addFlow := by
    simp only [Registry.cfilInfoAlloc, Registry.links, Links.addFlow, List.map_append, List.map_cons, List.map_nil]
    rfl
  refine ⟨links ▸ inv.links.addFlow, fun f mem => ?_, inv.sane⟩
  simp only [Registry.cfilInfoAlloc, List.mem_append, List.mem_singleton] at mem
  rcases mem with mem | rfl
  · exact (inv.flows f mem).of_bufs (fun _ _ => rfl) (fun _ => rfl) rfl
  · exact (cfilInfoAlloc_dataless sockId so r.cfFlowControlled).of_bufs (fun _ _ => rfl) (fun _ => rfl) inv.sane

theorem attachEvent (id : Nat) : RegistryInv (r.runFlow id fun s => (cfilDispatchAttachEvent env none s).1) :=
  (inv.runFlow_keep fun s flow =>
    have events := EventsOnly.attachEvent env none s
    ⟨flow.of_eventsOnly events, events.cfeFilter⟩).1

theorem statsRemove (id : Nat) : RegistryInv (r.statsRemove id) :=
  inv.of_links (by rw [Registry.links_statsRemove]; exact inv.links.statsRemove _)
    (Registry.statsRemove_cfilSockHead id) (Registry.statsRemove_panicked id)

theorem statsToggle (id : Nat) (k : Kcunit) (reportFrequency : Nat) :
    RegistryInv (r.cfilInfoStatsToggle id (some k) reportFrequency) := by
  have reported : ∀ v, RegistryInv (r.runFlow id fun s => s.setEntry k { s.entry k with cfeStatsReportFrequency := v }) ∧
      (r.runFlow id fun s => s.setEntry k { s.entry k with cfeStatsReportFrequency := v }).links = r.links := fun v =>
    inv.runFlow_keep fun s flow => setReportFrequency_kept k v s flow
  unfold Registry.cfilInfoStatsToggle
  cases found : r.info? id with
  | none => exact inv
  | some f =>
    have live := Registry.live_of_found inv.nodup found
    have added : ∀ r₁ : Registry, RegistryInv r₁ → r₁.links = r.links → RegistryInv (if id ∈ r₁.cfilSockHeadStats then r₁
        else { r₁ with
          cfilSockHeadStats := r₁.cfilSockHeadStats ++ [id]
          cfilSockAttachedStatsCount := r₁.cfilSockAttachedStatsCount + 1 }) := by
      intro r₁ inv₁ links₁
      split
      · exact inv₁
      · rename_i fresh
        exact inv₁.of_links (inv₁.links.statsAdd (by rw [links₁]; exact live) fresh) rfl rfl
    dsimp only
    by_cases asked : reportFrequency ≠ 0
    · rw [if_pos asked]
      by_cases same : (f.info.cfiEntries k).cfeStatsReportFrequency = reportFrequency
      · rw [if_pos same]; exact inv
      · rw [if_neg same]
        exact added _ (reported _).1 (reported _).2
    · rw [if_neg asked]
      by_cases zero : (f.info.cfiEntries k).cfeStatsReportFrequency = 0
      · rw [if_pos zero]; exact inv
      · rw [if_neg zero]
        split
        · exact (reported 0).1
        · exact (reported 0).1.statsRemove id

theorem attachUnitRound (id filterControlUnit : Nat) (attached : Bool) (k : Kcunit) (live : id ∈ r.links.ids)
    (detached : ∀ c, ¬ r.links.Points id k c) :
    RegistryInv (Registry.attachUnitRound id filterControlUnit (r, attached) k).1 ∧
      (Registry.attachUnitRound id filterControlUnit (r, attached) k).1.links.ids = r.links.ids ∧
      ∀ j c, j ≠ k → ((Registry.attachUnitRound id filterControlUnit (r, attached) k).1.links.Points id j c ↔
        r.links.Points id j c) := by
  unfold Registry.attachUnitRound
  dsimp only
  split
  · exact ⟨inv, rfl, fun _ _ _ => Iff.rfl⟩
  rename_i cfc slot
  split
  · exact ⟨inv, rfl, fun _ _ _ => Iff.rfl⟩
  obtain ⟨f, found⟩ := Registry.info?_isSome live
  have flow := inv.flows f ((Registry.info?_eq_some inv.nodup).mp found).1
  have ran : r.runFlow id (attachEntry k cfc.cfId cfc.cfNecpControlUnit) =
      r.putFlow id (attachEntry k cfc.cfId cfc.cfNecpControlUnit (r.flowSt f)) := by
    simp [Registry.runFlow, found]
  rw [ran]
  have links : ((r.putFlow id (attachEntry k cfc.cfId cfc.cfNecpControlUnit (r.flowSt f))).mapFilter k
      (·.insertEntry id)).links = r.links.link id k cfc.cfId := by
    rw [Registry.links_mapFilter k (·.insertEntry id) (·.insert id) fun _ => rfl,
      Registry.links_putFlow_set inv.nodup found k (some cfc.cfId) fun j => attachEntry_cfeFilter_apply k j _ _ _]
    rfl
  have slotted := Registry.filters_links slot
  have linked : RegistryInv ((r.putFlow id (attachEntry k cfc.cfId cfc.cfNecpControlUnit (r.flowSt f))).mapFilter k
      (·.insertEntry id)) :=
    ⟨links ▸ inv.links.link slotted live detached,
      (inv.flows.putFlow inv.sane (attachEntry_dataless k _ _ _ flow)).transfer rfl rfl, flow.inv.struct.sane⟩
  rw [Registry.verifyContentFilter_of_inv linked.links]
  refine ⟨linked, by rw [links]; simp [Links.link], fun j c other => ?_⟩
  rw [links, Links.link, Links.points_mapFilter, Links.points_setEntry, if_neg fun both => other both.2]

theorem freeEntry (id : Nat) (k : Kcunit) :
    RegistryInv (r.freeEntry id k) ∧ (r.freeEntry id k).links.ids = r.links.ids ∧
      ∀ j c, (r.freeEntry id k).links.Points id j c ↔ j ≠ k ∧ r.links.Points id j c := by
  unfold Registry.freeEntry
  cases found : r.info? id with
  | none =>
    refine ⟨inv, rfl, fun j c => ⟨fun points => absurd found ?_, And.right⟩⟩
    obtain ⟨f, some⟩ := Registry.info?_isSome (Links.points_live points)
    simp [some]
  | some f =>
    dsimp only
    have attachedHere : ∀ c, r.links.Points id k c ↔ (f.info.cfiEntries k).cfeFilter = some c :=
      fun c => Registry.points_of_found inv.nodup found
    cases filt : (f.info.cfiEntries k).cfeFilter with
    | none =>
      refine ⟨inv, rfl, fun j c => ⟨fun points => ⟨?_, points⟩, And.right⟩⟩
      rintro rfl
      rw [attachedHere, filt] at points
      cases points
    | some c =>
      dsimp only
      have points := (attachedHere c).mpr filt
      obtain ⟨fl, slotL, same⟩ := Option.map_eq_some'.mp (inv.links.entrySlot id k c points)
      obtain ⟨cfc, slot, rfl⟩ := Registry.slot_of_links slotL
      have listed := (inv.links.onList k _ slotL id).mpr (same ▸ points)
      have check : (r.contentFilters k).map (·.cfId) = some c := by simp [slot, ← same, ContentFilterSt.link]
      simp only [check, decide_True, Registry.verify_true]
      have flow := inv.flows f ((Registry.info?_eq_some inv.nodup).mp found).1
      obtain ⟨left, links⟩ := inv.leaveFilter found slot listed (unlinkEntry_dataless k _ flow)
        fun j => unlinkEntry_cfeFilter_apply k j _
      rw [Registry.verifyContentFilter_of_inv left.links]
      refine ⟨left, by rw [links]; simp [Links.unlink], fun j c' => ?_⟩
      rw [links, Links.unlink, Links.points_mapFilter, Links.points_setEntry]
      by_cases here : j = k <;> simp [here]

theorem ctlDisconnectRound (k : Kcunit) (path : DisconnectPath) {cfc : ContentFilterSt}
    (slot : r.contentFilters k = some cfc) {id : Nat} {rest : List Nat} (head : cfc.cfSockEntries = id :: rest) :
    RegistryInv (r.ctlDisconnectRound env k path id) ∧ (r.ctlDisconnectRound env k path id).links = r.links.unlink id k := by
  have slotted := Registry.filters_links slot
  have listed : id ∈ cfc.cfSockEntries := by simp [head]
  have points := (inv.links.onList k _ slotted id).mp listed
  obtain ⟨f, found⟩ := Registry.info?_isSome (Links.points_live points)
  have attached : (f.info.cfiEntries k).cfeFilter = some cfc.cfId := (Registry.points_of_found inv.nodup found).mp points
  have flow := inv.flows f ((Registry.info?_eq_some inv.nodup).mp found).1
  have flagged : EventsOnly (r.flowSt f) (letDataFlow k (r.flowSt f)) := EventsOnly.setEflags _ _ _
  have let₁ := flow.of_eventsOnly flagged
  have unlinked := inv.leaveFilter found slot listed (unlinkEntry_dataless k _ let₁)
    fun j => by rw [unlinkEntry_cfeFilter_apply, flagged.cfeFilter]; rfl
  unfold Registry.ctlDisconnectRound
  rw [found]
  dsimp only
  cases path with
  | retainFailed => exact unlinked
  | socketGone => dsimp only; rw [if_pos (by simp [slot, head])]; exact unlinked
  | found =>
    obtain ⟨-, filters, passed⟩ := ctlDisconnectPasses_kept env k _ let₁
    have let₂ : ((letDataFlow k (r.flowSt f)).entry k).cfeFilter = some cfc.cfId := (flagged.cfeFilter k).trans attached
    have still : ((ctlDisconnectPasses env k (letDataFlow k (r.flowSt f))).entry k).cfeFilter = some cfc.cfId :=
      (filters k).trans let₂
    have detachedHere := (EventsOnly.setEflags (ctlDisconnectPasses env k (letDataFlow k (r.flowSt f))) k
      { ((ctlDisconnectPasses env k (letDataFlow k (r.flowSt f))).entry k).cfeFlags with cfilDetached := true }).trans
      (wakeCloseWait_events _)
    have entry : cfilCtlDisconnectEntry env k (letDataFlow k (r.flowSt f)) =
        (ctlDisconnectDetach k (ctlDisconnectPasses env k (letDataFlow k (r.flowSt f))), true) := by
      simp [cfilCtlDisconnectEntry, let₂, still]
    have left := inv.leaveFilter found slot listed (unlinkEntry_dataless k _ (passed.of_eventsOnly detachedHere))
      fun j => by rw [unlinkEntry_cfeFilter_apply, detachedHere.cfeFilter, filters, flagged.cfeFilter]; rfl
    simp only [entry, if_true]
    split
    · exact ⟨left.1.clearFilterPolicy id, (Registry.links_clearFilterPolicy id).trans left.2⟩
    · exact left

end Calls

theorem ctlDisconnectLoop (env : Env) (k : Kcunit) :
    ∀ fuel paths (r : Registry), RegistryInv r → ∀ cfc, r.contentFilters k = some cfc →
      cfc.cfSockEntries.length ≤ fuel →
      RegistryInv (Registry.ctlDisconnectLoop env k fuel paths r) ∧
        ∃ cfc', (Registry.ctlDisconnectLoop env k fuel paths r).contentFilters k = some cfc' ∧ cfc'.cfSockEntries = []
  | 0, _, r, inv, cfc, slot, short => ⟨inv, cfc, slot, List.eq_nil_of_length_eq_zero (Nat.le_zero.mp short)⟩
  | fuel + 1, paths, r, inv, cfc, slot, short => by
    unfold Registry.ctlDisconnectLoop
    rw [slot, Option.some_bind]
    cases head : cfc.cfSockEntries with
    | nil => exact ⟨inv, cfc, slot, head⟩
    | cons id rest =>
      simp only [List.head?_cons]
      rw [Registry.verifyContentFilter_of_inv inv.links]
      obtain ⟨inv₁, links₁⟩ := inv.ctlDisconnectRound env k (paths.headD .found) slot head
      have slotted : (r.ctlDisconnectRound env k (paths.headD .found) id).links.filters k = some (cfc.link.remove id) := by
        rw [links₁, Links.unlink, Links.filters_mapFilter, if_pos rfl, Links.filters_setEntry, Registry.filters_links slot]
        rfl
      obtain ⟨cfc₁, slot₁, same⟩ := Registry.slot_of_links slotted
      have entries : cfc₁.cfSockEntries = rest := by
        have := congrArg FilterLink.cfSockEntries same
        simpa [ContentFilterSt.link, FilterLink.remove, head] using this
      exact ctlDisconnectLoop env k fuel paths.tail _ inv₁ cfc₁ slot₁ (by simpa [entries, head] using short)

theorem attachUnit_fold (id filterControlUnit : Nat) :
    ∀ (ks : List Kcunit) (r : Registry) (attached : Bool), RegistryInv r → ks.Nodup → id ∈ r.links.ids →
      (∀ k ∈ ks, ∀ c, ¬ r.links.Points id k c) →
      RegistryInv (ks.foldl (Registry.attachUnitRound id filterControlUnit) (r, attached)).1
  | [], _, _, inv, _, _, _ => inv
  | k :: ks, r, attached, inv, nodup, live, detached => by
    obtain ⟨inv₁, ids₁, kept₁⟩ := inv.attachUnitRound id filterControlUnit attached k live (detached k (by simp))
    rw [List.foldl_cons, ← Prod.mk.eta (p := Registry.attachUnitRound id filterControlUnit (r, attached) k)]
    exact attachUnit_fold id filterControlUnit ks _ _ inv₁ (List.nodup_cons.mp nodup).2 (ids₁ ▸ live)
      fun j member c points => detached j (by simp [member]) c
        ((kept₁ j c fun same => (List.nodup_cons.mp nodup).1 (same ▸ member)).mp points)

theorem free_fold (id : Nat) :
    ∀ (ks : List Kcunit) (r : Registry), RegistryInv r →
      RegistryInv (ks.foldl (fun r k => r.freeEntry id k) r) ∧
        (ks.foldl (fun r k => r.freeEntry id k) r).links.ids = r.links.ids ∧
        ∀ j c, (ks.foldl (fun r k => r.freeEntry id k) r).links.Points id j c ↔ j ∉ ks ∧ r.links.Points id j c
  | [], _, inv => ⟨inv, rfl, fun _ _ => ⟨fun points => ⟨List.not_mem_nil _, points⟩, And.right⟩⟩
  | k :: ks, r, inv => by
    obtain ⟨inv₁, ids₁, points₁⟩ := inv.freeEntry id k
    obtain ⟨inv₂, ids₂, points₂⟩ := free_fold id ks _ inv₁
    refine ⟨inv₂, ids₂.trans ids₁, fun j c => ?_⟩
    rw [List.foldl_cons, points₂, points₁, List.mem_cons]
    tauto

section Calls

variable (env : Env) {r : Registry} (inv : RegistryInv r)
include inv

theorem infoAttachUnit (id filterControlUnit : Nat) (detached : ∀ k, r.entryFilter id k = none) :
    RegistryInv (r.cfilInfoAttachUnit id filterControlUnit).1 := by
  unfold Registry.cfilInfoAttachUnit
  cases found : r.info? id with
  | none => exact inv
  | some f =>
    rw [if_neg (by simp)]
    exact attachUnit_fold id filterControlUnit _ r false inv (List.nodup_finRange _)
      (Registry.live_of_found inv.nodup found) fun k _ c points => by
        simpa [detached k] using (Registry.entryFilter_eq_some inv.nodup).mpr points

theorem ctlRcvd (k : Kcunit) : RegistryInv (r.cfilCtlRcvd env k) := by
  have lifted : RegistryInv (r.mapFilter k fun cfc => { cfc with cfFlowControlled := false }) := by
    cases slot : r.contentFilters k with
    | none => rw [Registry.mapFilter_of_none r slot]; exact inv
    | some cfc =>
      rw [Registry.mapFilter_of_some r slot]
      refine inv.of_links ?_ rfl rfl
      rw [Registry.links_setFilter_some slot { cfc with cfFlowControlled := false } rfl]
      exact inv.links
  rw [Registry.cfilCtlRcvd_eq, Registry.verifyContentFilter_of_inv lifted.links]
  exact lifted

theorem ctlDisconnect (k : Kcunit) (paths : List DisconnectPath) : RegistryInv (r.cfilCtlDisconnect env k paths) := by
  unfold Registry.cfilCtlDisconnect
  split
  · exact inv
  rename_i cfc slot
  split
  · exact inv
  dsimp only
  obtain ⟨inv₁, cfc₁, slot₁, empty⟩ := ctlDisconnectLoop env k _ paths r inv cfc slot le_rfl
  generalize Registry.ctlDisconnectLoop env k cfc.cfSockEntries.length paths r = r₁ at inv₁ slot₁ ⊢
  have slotted := Registry.filters_links slot₁
  have counted : cfc₁.cfSockCount = 0 := by
    simpa [ContentFilterSt.link, empty] using inv₁.links.sockCount k _ slotted
  rw [Registry.verifyContentFilter_of_inv inv₁.links]
  simp only [slot₁, counted, Option.all_some, decide_True, Registry.verify_true]
  exact inv₁.of_links (by rw [Registry.links_freeSlot]; exact inv₁.links.retire slotted empty) rfl rfl

theorem removeInfo {id : Nat} (live : id ∈ r.links.ids) (detached : ∀ k c, ¬ r.links.Points id k c) :
    RegistryInv ((r.removeInfo id).cfilInfoStatsToggle id none 0) ∧
      ∀ f ∈ ((r.removeInfo id).cfilInfoStatsToggle id none 0).cfilSockHead, f.cfiId ≠ id := by
  show RegistryInv ((r.removeInfo id).statsRemove id) ∧ ∀ f ∈ ((r.removeInfo id).statsRemove id).cfilSockHead, f.cfiId ≠ id
  have links := inv.links.dropFlow live detached
  rw [← Links.removeFlow_statsRemove, ← Registry.links_removeInfo, ← Registry.links_statsRemove] at links
  refine ⟨⟨links, inv.flows.of_subset (fun f mem => ?_) (by simp [Registry.removeInfo]), by simp [Registry.removeInfo, inv.sane]⟩,
    fun f mem => ?_⟩
  all_goals
    simp only [Registry.statsRemove_cfilSockHead, Registry.removeInfo, List.mem_filter, decide_eq_true_eq] at mem
  · exact mem.1
  · exact mem.2

theorem infoFree (id : Nat) : RegistryInv (r.cfilInfoFree id) ∧ (r.cfilInfoFree id).info? id = none := by
  unfold Registry.cfilInfoFree
  cases found : r.info? id with
  | none => exact ⟨inv, found⟩
  | some f =>
    rw [if_neg (by simp)]
    dsimp only
    obtain ⟨inv₁, ids₁, points₁⟩ := free_fold id (List.finRange maxContentFilter) r inv
    have live : id ∈ ((List.finRange maxContentFilter).foldl (fun r k => r.freeEntry id k) r).links.ids := by
      rw [ids₁]; exact Registry.live_of_found inv.nodup found
    obtain ⟨freed, gone⟩ := inv₁.removeInfo live fun k c points => by
      simpa using (points₁ k c).mp points
    refine ⟨freed, ?_⟩
    unfold Registry.info?
    exact List.find?_eq_none.mpr fun f mem => by simpa using gone f mem

theorem step (op : RegistryOp) (callable : op.callable r) : RegistryInv (op.apply env r) := by
  cases op with
  | ctlConnect scUnit => exact inv.ctlConnect scUnit
  | ctlSetoptNecpControlUnit k necpControlUnit => exact inv.ctlSetoptNecpControlUnit k necpControlUnit
  | ctlDisconnect k paths => exact inv.ctlDisconnect env k paths
  | ctlRcvd k => exact inv.ctlRcvd env k
  | infoAlloc sockId so unit gencount => exact inv.infoAlloc sockId so unit gencount
  | infoAttachUnit id filterControlUnit => exact inv.infoAttachUnit id filterControlUnit callable
  | attachEvent id => exact inv.attachEvent env id
  | statsToggle id k reportFrequency => exact inv.statsToggle id k reportFrequency
  | infoFree id => exact (inv.infoFree id).1

end Calls

end RegistryInv

theorem RegistryReachable.inv {env : Env} {r : Registry} (reach : RegistryReachable env r) : RegistryInv r := by
  induction reach with
  | init => exact RegistryInv.init
  | step op callable _ ih => exact ih.step env op callable

end ContentFilter
