import ContentFilter.RegistryInvariant

/-! The registry's invariant in the source's own terms. -/

namespace ContentFilter

namespace RegistryInv

variable {r : Registry} (inv : RegistryInv r)
include inv

theorem slotUnit {k : Kcunit} {cfc : ContentFilterSt} (slot : r.contentFilters k = some cfc) :
    cfc.cfKcunit = k.val + 1 :=
  inv.links.slotUnit k _ (Registry.filters_links slot)

theorem activeCount : r.cfilActiveCount = (Finset.univ.filter fun k => (r.contentFilters k).isSome).card := by
  simpa [Registry.links] using inv.links.activeCount

theorem sockCount {k : Kcunit} {cfc : ContentFilterSt} (slot : r.contentFilters k = some cfc) :
    cfc.cfSockCount = cfc.cfSockEntries.length :=
  inv.links.sockCount k _ (Registry.filters_links slot)

theorem mem_entries_iff {k : Kcunit} {cfc : ContentFilterSt} (slot : r.contentFilters k = some cfc) (id : Nat)
    (j : Kcunit) : (j = k ∧ id ∈ cfc.cfSockEntries) ↔ r.entryFilter id j = some cfc.cfId := by
  have onList := inv.links.onList k _ (Registry.filters_links slot) id
  rw [Registry.entryFilter_eq_some inv.nodup]
  constructor
  · rintro ⟨rfl, listed⟩
    exact onList.mp listed
  · intro points
    obtain ⟨fd, slotj, same⟩ := Option.map_eq_some'.mp (inv.links.entrySlot id j _ points)
    have here : j = k := inv.links.filterDistinct j k fd cfc.link slotj (Registry.filters_links slot) same
    subst here
    exact ⟨rfl, onList.mpr points⟩

theorem entrySlot {id : Nat} {k : Kcunit} {c : Nat} (attached : r.entryFilter id k = some c) :
    (r.contentFilters k).map (·.cfId) = some c := by
  have slotted := inv.links.entrySlot id k c ((Registry.entryFilter_eq_some inv.nodup).mp attached)
  simpa [Registry.links, Option.map_map, Function.comp_def, ContentFilterSt.link] using slotted

theorem attachedCount : r.cfilSockAttachedCount = r.cfilSockHead.length := by
  simpa [Registry.links] using inv.links.attachedCount

theorem listed_live {k : Kcunit} {cfc : ContentFilterSt} (slot : r.contentFilters k = some cfc) {id : Nat}
    (listed : id ∈ cfc.cfSockEntries) : (r.info? id).isSome := by
  have points := (inv.links.onList k _ (Registry.filters_links slot) id).mp listed
  obtain ⟨f, found⟩ := Registry.info?_isSome (Links.points_live points)
  simp [found]

theorem stats_live {id : Nat} (listed : id ∈ r.cfilSockHeadStats) : (r.info? id).isSome := by
  obtain ⟨f, found⟩ := Registry.info?_isSome (inv.links.statsLive id listed)
  simp [found]

theorem infoFree_unlisted (id : Nat) :
    (r.cfilInfoFree id).info? id = none ∧ id ∉ (r.cfilInfoFree id).cfilSockHeadStats ∧
      ∀ k cfc, (r.cfilInfoFree id).contentFilters k = some cfc → id ∉ cfc.cfSockEntries := by
  obtain ⟨freed, gone⟩ := inv.infoFree id
  refine ⟨gone, fun listed => ?_, fun k cfc slot listed => ?_⟩
  · simpa [gone] using freed.stats_live listed
  · simpa [gone] using freed.listed_live slot listed

end RegistryInv

/-- In every registry reached from `cfil_init`, the filters, their counts and lists, and
`cfil_sock_head` agree, no `VERIFY` has fired, and a freed flow is on no list. -/
theorem registry_lists_consistent (env : Env) {r : Registry} (reach : RegistryReachable env r) :
    (∀ k cfc, r.contentFilters k = some cfc → cfc.cfKcunit = k.val + 1) ∧
    r.cfilActiveCount = (Finset.univ.filter fun k => (r.contentFilters k).isSome).card ∧
    (∀ k cfc, r.contentFilters k = some cfc → cfc.cfSockCount = cfc.cfSockEntries.length ∧
      ∀ id j, (j = k ∧ id ∈ cfc.cfSockEntries) ↔ r.entryFilter id j = some cfc.cfId) ∧
    (∀ id k c, r.entryFilter id k = some c → (r.contentFilters k).map (·.cfId) = some c) ∧
    r.cfilSockAttachedCount = r.cfilSockHead.length ∧
    (∀ k cfc, r.contentFilters k = some cfc → ∀ id ∈ cfc.cfSockEntries, (r.info? id).isSome) ∧
    (∀ id ∈ r.cfilSockHeadStats, (r.info? id).isSome) ∧
    r.panicked = false ∧
    ∀ id, (r.cfilInfoFree id).info? id = none ∧ id ∉ (r.cfilInfoFree id).cfilSockHeadStats ∧
      ∀ k cfc, (r.cfilInfoFree id).contentFilters k = some cfc → id ∉ cfc.cfSockEntries :=
  have inv := reach.inv
  ⟨fun _ _ => inv.slotUnit, inv.activeCount, fun _ _ slot => ⟨inv.sockCount slot, inv.mem_entries_iff slot⟩,
    fun _ _ _ => inv.entrySlot, inv.attachedCount, fun _ _ slot _ => inv.listed_live slot, fun _ => inv.stats_live,
    inv.sane, inv.infoFree_unlisted⟩

/-- One filter, on control unit 1 with NECP control unit 1, and one stream socket
attached to it and sent `SOCKET_ATTACHED`. -/
def oneFlowRegistry : Registry :=
  (RegistryOp.attachEvent 1).apply demoKernel <|
    (RegistryOp.infoAttachUnit 1 1).apply demoKernel <|
    (RegistryOp.infoAlloc 7 {} 1 0).apply demoKernel <|
    (RegistryOp.ctlSetoptNecpControlUnit 0 1).apply demoKernel <|
    (RegistryOp.ctlConnect 1).apply demoKernel Registry.init

theorem oneFlowRegistry_consistent :
    RegistryReachable demoKernel oneFlowRegistry ∧ oneFlowRegistry.panicked = false ∧
      (oneFlowRegistry.cfilInfoFree 1).info? 1 = none :=
  have reach : RegistryReachable demoKernel oneFlowRegistry :=
    .step _ trivial <| .step _ (show ∀ k : Kcunit, _ = none by decide) <| .step _ trivial <|
      .step _ trivial <| .step _ trivial .init
  have consistent := registry_lists_consistent demoKernel reach
  ⟨reach, consistent.2.2.2.2.2.2.2.1, (consistent.2.2.2.2.2.2.2.2 1).1⟩

end ContentFilter
