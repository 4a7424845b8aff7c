import ContentFilter.Stats

/-! `cfil_info_attach_unit` builds the flow's chain of agents, sorted by NECP control unit. -/

namespace ContentFilter

/-- `j` comes before `k`: a smaller NECP control unit, or the same one and a smaller unit. -/
def AttachOrder (necp : Kcunit → Nat) (j k : Kcunit) : Prop := necp j < necp k ∨ (necp j = necp k ∧ j < k)

theorem AttachOrder.ne {necp : Kcunit → Nat} {j k : Kcunit} (before : AttachOrder necp j k) : j ≠ k := by
  rintro rfl
  rcases before with less | ⟨-, less⟩ <;> exact lt_irrefl _ less

section Insert

variable (necp : Kcunit → Nat) (k : Kcunit)

theorem mem_orderedInsert (j : Kcunit) : ∀ order, j ∈ orderedInsert necp k order ↔ j = k ∨ j ∈ order
  | [] => by simp [orderedInsert]
  | i :: rest => by
    unfold orderedInsert
    split
    · simp
    · simp only [List.mem_cons, mem_orderedInsert j rest]
      tauto

theorem orderedInsert_congr (necp' : Kcunit → Nat) :
    ∀ order, (∀ j ∈ k :: order, necp j = necp' j) → orderedInsert necp k order = orderedInsert necp' k order
  | [], _ => rfl
  | i :: rest, same => by
    have rest' : ∀ j ∈ k :: rest, necp j = necp' j := fun j mem => same j (by
      rcases List.mem_cons.mp mem with rfl | mem
      · exact .head _
      · exact .tail _ (.tail _ mem))
    simp only [orderedInsert, same k (.head _), same i (.tail _ (.head _)), orderedInsert_congr necp' rest rest']

theorem orderedInsert_sorted : ∀ order, order.Sorted (AttachOrder necp) → (∀ j ∈ order, j < k) →
    (orderedInsert necp k order).Sorted (AttachOrder necp)
  | [], _, _ => List.sorted_singleton k
  | i :: rest, sorted, below => by
    rw [List.sorted_cons] at sorted
    unfold orderedInsert
    split
    · next smaller =>
      refine List.sorted_cons.mpr ⟨fun j mem => ?_, List.sorted_cons.mpr sorted⟩
      rcases List.mem_cons.mp mem with rfl | mem
      · exact .inl smaller
      · rcases sorted.1 j mem with less | ⟨same, -⟩
        · exact .inl (smaller.trans less)
        · exact .inl (same ▸ smaller)
    · next notSmaller =>
      refine List.sorted_cons.mpr ⟨fun j mem => ?_,
        orderedInsert_sorted rest sorted.2 fun j mem => below j (.tail _ mem)⟩
      rcases (mem_orderedInsert necp k j rest).mp mem with rfl | mem
      · rcases Nat.lt_or_eq_of_le (not_lt.mp notSmaller) with less | same
        · exact .inl less
        · exact .inr ⟨same, below i (.head _)⟩
      · exact sorted.1 j mem

end Insert

section Round

variable (k : Kcunit) (cfc necp : Nat) (s : FlowSt)

theorem attachEntry_necp (j : Kcunit) :
    ((attachEntry k cfc necp s).entry j).cfeNecpControlUnit = if j = k then necp else (s.entry j).cfeNecpControlUnit := by
  simp only [attachEntry, FlowSt.setEflags, FlowSt.setEntry, FlowSt.entry, Function.update_apply]
  split_ifs <;> rfl

theorem attachEntry_cfiOrderedEntries : (attachEntry k cfc necp s).info.cfiOrderedEntries =
    orderedInsert (fun j => if j = k then necp else (s.entry j).cfeNecpControlUnit) k s.info.cfiOrderedEntries := by
  simp only [attachEntry, FlowSt.setEflags, FlowSt.setEntry, FlowSt.entry, Function.update_apply]
  congr 1
  funext j
  split_ifs <;> rfl

theorem attachEntry_info {s' : FlowSt} (same : s'.info = s.info) :
    (attachEntry k cfc necp s').info = (attachEntry k cfc necp s).info := by
  simp only [attachEntry, FlowSt.setEflags, FlowSt.setEntry, FlowSt.entry, same]

end Round

/-- The round of the single-flow model's `cfil_info_attach_unit` for unit `k`. -/
def attachUnitStep (slots : FilterSlots) (filterControlUnit : Nat) (acc : FlowSt × Bool) (k : Kcunit) : FlowSt × Bool :=
  match slots k with
  | none => acc
  | some (cfc, necp) => if necp &&& filterControlUnit = 0 then acc else (attachEntry k cfc necp acc.1, true)

theorem cfilInfoAttachUnit_eq (slots : FilterSlots) (filterControlUnit : Nat) (s : FlowSt) :
    cfilInfoAttachUnit slots filterControlUnit s =
      (List.finRange maxContentFilter).foldl (attachUnitStep slots filterControlUnit) (s, false) := rfl

/-- The filter that takes entry `k` of a flow whose socket has NECP control unit
`filterControlUnit`: the one connected on unit `k`, if its NECP control unit shares a bit
with the socket's. -/
def attachingSlot (slots : FilterSlots) (filterControlUnit : Nat) (k : Kcunit) : Option (Nat × Nat) :=
  (slots k).filter fun p => p.2 &&& filterControlUnit ≠ 0

/-- The NECP control unit of the filter connected on unit `k`. -/
def slotNecp (slots : FilterSlots) (k : Kcunit) : Nat := ((slots k).map Prod.snd).getD 0

/-- The flow after the rounds of the units `done`, on a flow none of whose entries was
attached: the entries of those units that a filter takes point to it, and only they are in
`cfi_ordered_entries`, with their filters' NECP control units, sorted. -/
structure AttachedUpTo (slots : FilterSlots) (filterControlUnit : Nat) (done : List Kcunit) (acc : FlowSt × Bool) :
    Prop where
  filter : ∀ k, (acc.1.entry k).cfeFilter = if k ∈ done then (attachingSlot slots filterControlUnit k).map Prod.fst else none
  necp : ∀ k ∈ acc.1.info.cfiOrderedEntries, (acc.1.entry k).cfeNecpControlUnit = slotNecp slots k
  members : ∀ k, k ∈ acc.1.info.cfiOrderedEntries ↔ k ∈ done ∧ (attachingSlot slots filterControlUnit k).isSome
  sorted : acc.1.info.cfiOrderedEntries.Sorted (AttachOrder (slotNecp slots))
  flag : acc.2 = true ↔ ∃ k ∈ done, (attachingSlot slots filterControlUnit k).isSome

namespace AttachedUpTo

variable {slots : FilterSlots} {filterControlUnit : Nat}

theorem init {s : FlowSt} (fresh : ∀ k, (s.entry k).cfeFilter = none) (unordered : s.info.cfiOrderedEntries = []) :
    AttachedUpTo slots filterControlUnit [] (s, false) where
  filter k := by simp [fresh]
  necp k mem := by simp [unordered] at mem
  members k := by simp [unordered]
  sorted := by simp [unordered]
  flag := by simp

theorem skip {done : List Kcunit} {acc : FlowSt × Bool} (inv : AttachedUpTo slots filterControlUnit done acc)
    {k : Kcunit} (fresh : k ∉ done) (untaken : attachingSlot slots filterControlUnit k = none) :
    AttachedUpTo slots filterControlUnit (done ++ [k]) acc where
  filter j := by
    rw [inv.filter]
    by_cases here : j = k
    · subst here; simp [fresh, untaken]
    · simp [here]
  necp := inv.necp
  members j := by
    rw [inv.members]
    by_cases here : j = k
    · subst here; simp [fresh, untaken]
    · simp [here]
  sorted := inv.sorted
  flag := by
    rw [inv.flag]
    simp only [List.mem_append, List.mem_singleton]
    constructor
    · rintro ⟨j, mem, taken⟩; exact ⟨j, .inl mem, taken⟩
    · rintro ⟨j, mem | rfl, taken⟩
      · exact ⟨j, mem, taken⟩
      · simp [untaken] at taken

theorem attach {done : List Kcunit} {acc : FlowSt × Bool} (inv : AttachedUpTo slots filterControlUnit done acc)
    {k : Kcunit} (below : ∀ j ∈ done, j < k) {cfc necp : Nat}
    (taken : attachingSlot slots filterControlUnit k = some (cfc, necp)) :
    AttachedUpTo slots filterControlUnit (done ++ [k]) (attachEntry k cfc necp acc.1, true) := by
  have fresh : k ∉ done := fun mem => lt_irrefl k (below k mem)
  have slotted : slotNecp slots k = necp := by
    obtain ⟨slot, -⟩ := Option.filter_eq_some.mp taken
    simp [slotNecp, Option.mem_def.mp slot]
  have older : ∀ j ∈ acc.1.info.cfiOrderedEntries, j ≠ k := fun j mem same =>
    fresh (same ▸ ((inv.members j).mp mem).1)
  refine ⟨fun j => ?_, fun j mem => ?_, fun j => ?_, ?_, iff_of_true rfl ⟨k, by simp, by simp [taken]⟩⟩
  · rw [attachEntry_cfeFilter_apply, inv.filter]
    by_cases here : j = k
    · subst here; simp [taken]
    · simp [here]
  · rw [attachEntry_cfiOrderedEntries, mem_orderedInsert] at mem
    rw [attachEntry_necp]
    rcases mem with rfl | mem
    · simp [slotted]
    · simp [older j mem, inv.necp j mem]
  · rw [attachEntry_cfiOrderedEntries, mem_orderedInsert, inv.members]
    by_cases here : j = k
    · subst here; simp [taken]
    · simp [here]
  · rw [attachEntry_cfiOrderedEntries, orderedInsert_congr _ k (slotNecp slots) _ fun j mem => ?_]
    · exact orderedInsert_sorted _ k _ inv.sorted fun j mem => below j ((inv.members j).mp mem).1
    rcases List.mem_cons.mp mem with rfl | mem
    · simp [slotted]
    · simp [older j mem, inv.necp j mem]

theorem step {done : List Kcunit} {acc : FlowSt × Bool} (inv : AttachedUpTo slots filterControlUnit done acc)
    {k : Kcunit} (below : ∀ j ∈ done, j < k) :
    AttachedUpTo slots filterControlUnit (done ++ [k]) (attachUnitStep slots filterControlUnit acc k) := by
  have fresh : k ∉ done := fun mem => lt_irrefl k (below k mem)
  unfold attachUnitStep
  split
  · next empty => exact inv.skip fresh (by simp [attachingSlot, empty])
  · next cfc necp slot =>
    split
    · next unshared => exact inv.skip fresh (by simp [attachingSlot, slot, unshared])
    · next shared => exact inv.attach below (by simp [attachingSlot, slot, shared])

theorem run : ∀ (ks done : List Kcunit) (acc : FlowSt × Bool), AttachedUpTo slots filterControlUnit done acc →
    (done ++ ks).Pairwise (· < ·) →
    AttachedUpTo slots filterControlUnit (done ++ ks) (ks.foldl (attachUnitStep slots filterControlUnit) acc)
  | [], done, acc, inv, _ => by simpa using inv
  | k :: ks, done, acc, inv, increasing => by
    have below : ∀ j ∈ done, j < k := fun j mem => (List.pairwise_append.mp increasing).2.2 j mem k (.head _)
    have rest := run ks (done ++ [k]) _ (inv.step below) (by simpa using increasing)
    simpa using rest

end AttachedUpTo

theorem cfilInfoAttachUnit_attached (slots : FilterSlots) (filterControlUnit : Nat) (s : FlowSt)
    (fresh : ∀ k, (s.entry k).cfeFilter = none) (unordered : s.info.cfiOrderedEntries = []) :
    AttachedUpTo slots filterControlUnit (List.finRange maxContentFilter) (cfilInfoAttachUnit slots filterControlUnit s) := by
  simpa using AttachedUpTo.run (List.finRange maxContentFilter) [] (s, false) (.init fresh unordered)
    (by simpa using List.pairwise_lt_finRange maxContentFilter)

namespace Registry

variable {r : Registry}

/-- The connected filters as the single-flow model's `cfil_info_attach_unit` reads them. -/
def filterSlots (r : Registry) : FilterSlots := fun k => (r.contentFilters k).map fun cfc => (cfc.cfId, cfc.cfNecpControlUnit)

/-- The filter that takes entry `k` of a flow whose socket has NECP control unit
`filterControlUnit`. -/
def attachingFilter (r : Registry) (filterControlUnit : Nat) (k : Kcunit) : Option ContentFilterSt :=
  (r.contentFilters k).filter fun cfc => cfc.cfNecpControlUnit &&& filterControlUnit ≠ 0

/-- `cfil_info_attach_unit` appends the flow to the filter on unit `k` when it takes the
flow's entry there. -/
def attachedFilter (r : Registry) (id filterControlUnit : Nat) (k : Kcunit) : Option ContentFilterSt :=
  (r.contentFilters k).map fun cfc => if cfc.cfNecpControlUnit &&& filterControlUnit = 0 then cfc else cfc.insertEntry id

theorem attachingSlot_filterSlots (filterControlUnit : Nat) (k : Kcunit) :
    attachingSlot r.filterSlots filterControlUnit k =
      (r.attachingFilter filterControlUnit k).map fun cfc => (cfc.cfId, cfc.cfNecpControlUnit) := by
  simp only [attachingSlot, filterSlots, attachingFilter]
  cases r.contentFilters k <;> simp [Option.filter, apply_ite]

theorem info?_putFlow {id : Nat} {f : SockHeadInfo} (found : r.info? id = some f) (s : FlowSt) :
    (r.putFlow id s).info? id = some { f with info := s.info, sock := s.sock } := by
  obtain ⟨-, named⟩ := mem_of_info? found
  have kept : ∀ g : SockHeadInfo,
      (if g.cfiId = id then { g with info := s.info, sock := s.sock } else g).cfiId = g.cfiId := fun g => by
    split <;> rfl
  simp only [info?, putFlow, List.find?_map, Function.comp_def, kept]
  rw [show (r.cfilSockHead.find? fun g => decide (g.cfiId = id)) = some f from found]
  simp [named]

theorem putFlow_contentFilters {id : Nat} {s : FlowSt} (same : s.cfFlowControlled = r.cfFlowControlled) :
    (r.putFlow id s).contentFilters = r.contentFilters := by
  funext k
  simp only [putFlow, same, cfFlowControlled]
  cases r.contentFilters k <;> rfl

theorem verifyContentFilter_contentFilters (k : Kcunit) : (r.verifyContentFilter k).contentFilters = r.contentFilters := by
  unfold verifyContentFilter verify
  split
  · rfl
  · split <;> rfl

theorem verifyContentFilter_info? (k : Kcunit) (id : Nat) : (r.verifyContentFilter k).info? id = r.info? id := by
  unfold verifyContentFilter
  split
  · rfl
  · simp only [info?, verify_cfilSockHead]

end Registry

/-- The registry's rounds of `cfil_info_attach_unit` on flow `id` after the units `done`,
against the single-flow model's rounds. -/
structure AttachTracks (r : Registry) (id filterControlUnit : Nat) (done : List Kcunit) (ra : Registry × Bool)
    (sa : FlowSt × Bool) : Prop where
  flag : ra.2 = sa.2
  flow : ∃ f, ra.1.info? id = some f ∧ f.info = sa.1.info
  filters : ∀ k, ra.1.contentFilters k = if k ∈ done then r.attachedFilter id filterControlUnit k else r.contentFilters k

namespace AttachTracks

variable {r : Registry} {id filterControlUnit : Nat}

theorem step {done : List Kcunit} {ra : Registry × Bool} {sa : FlowSt × Bool}
    (tracks : AttachTracks r id filterControlUnit done ra sa) {k : Kcunit} (fresh : k ∉ done) :
    AttachTracks r id filterControlUnit (done ++ [k]) (Registry.attachUnitRound id filterControlUnit ra k)
      (attachUnitStep r.filterSlots filterControlUnit sa k) := by
  have untouched : ra.1.contentFilters k = r.contentFilters k := by simp [tracks.filters, fresh]
  have same : ∀ j, (if j ∈ done ++ [k] then r.attachedFilter id filterControlUnit j else r.contentFilters j) =
      if j = k then r.attachedFilter id filterControlUnit k else ra.1.contentFilters j := fun j => by
    rw [tracks.filters]
    by_cases here : j = k
    · subst here; simp
    · simp [here]
  have kept : r.attachedFilter id filterControlUnit k = r.contentFilters k → ∀ j, ra.1.contentFilters j =
      if j ∈ done ++ [k] then r.attachedFilter id filterControlUnit j else r.contentFilters j := fun unchanged j => by
    rw [same]
    split
    · next here => rw [here, untouched, unchanged]
    · rfl
  unfold Registry.attachUnitRound attachUnitStep
  rw [untouched]
  cases slot : r.contentFilters k with
  | none =>
    simp only [Registry.filterSlots, slot, Option.map_none']
    exact ⟨tracks.flag, tracks.flow, kept (by simp [Registry.attachedFilter, slot])⟩
  | some cfc =>
    simp only [Registry.filterSlots, slot, Option.map_some']
    split_ifs with unshared
    · exact ⟨tracks.flag, tracks.flow, kept (by simp [Registry.attachedFilter, slot, unshared])⟩
    obtain ⟨f, found, info⟩ := tracks.flow
    generalize stepped : attachEntry k cfc.cfId cfc.cfNecpControlUnit (ra.1.flowSt f) = s
    have ran : ra.1.runFlow id (attachEntry k cfc.cfId cfc.cfNecpControlUnit) = ra.1.putFlow id s := by
      simp only [Registry.runFlow, found, stepped]
    have filtersKept : (ra.1.putFlow id s).contentFilters = ra.1.contentFilters :=
      Registry.putFlow_contentFilters (by rw [← stepped]; rfl)
    refine ⟨rfl, ⟨{ f with info := s.info, sock := s.sock }, ?_, ?_⟩, fun j => ?_⟩
    · rw [Registry.verifyContentFilter_info?, ran]
      exact Registry.info?_putFlow found s
    · rw [← stepped]
      exact attachEntry_info k _ _ _ info
    · rw [Registry.verifyContentFilter_contentFilters, ran, same]
      simp only [Registry.mapFilter, Registry.setFilter, Function.update_apply, filtersKept]
      split
      · next here => subst here; simp [Registry.attachedFilter, untouched, slot, unshared]
      · rfl

theorem run : ∀ (ks done : List Kcunit) (ra : Registry × Bool) (sa : FlowSt × Bool),
    AttachTracks r id filterControlUnit done ra sa → (done ++ ks).Nodup →
    AttachTracks r id filterControlUnit (done ++ ks) (ks.foldl (Registry.attachUnitRound id filterControlUnit) ra)
      (ks.foldl (attachUnitStep r.filterSlots filterControlUnit) sa)
  | [], done, ra, sa, tracks, _ => by simpa using tracks
  | k :: ks, done, ra, sa, tracks, distinct => by
    have fresh : k ∉ done := fun mem => (List.nodup_append.mp distinct).2.2 mem (.head _)
    have rest := run ks (done ++ [k]) _ _ (tracks.step fresh) (by simpa using distinct)
    simpa using rest

end AttachTracks

/-- `cfil_info_attach_unit` on a fresh flow links exactly the entries whose filter shares a
bit of the NECP control unit, and sorts `cfi_ordered_entries` by that unit, then by unit. -/
theorem attachUnit_builds_sorted_chain (r : Registry) (id filterControlUnit : Nat) (f : SockHeadInfo)
    (found : r.info? id = some f) (fresh : ∀ k, (f.info.cfiEntries k).cfeFilter = none)
    (unordered : f.info.cfiOrderedEntries = []) :
    ∃ f', (r.cfilInfoAttachUnit id filterControlUnit).1.info? id = some f' ∧
      (∀ k, (f'.info.cfiEntries k).cfeFilter = (r.attachingFilter filterControlUnit k).map (·.cfId)) ∧
      (∀ k, (r.cfilInfoAttachUnit id filterControlUnit).1.contentFilters k =
        (r.contentFilters k).map fun cfc =>
          if cfc.cfNecpControlUnit &&& filterControlUnit = 0 then cfc else cfc.insertEntry id) ∧
      (∀ k, k ∈ f'.info.cfiOrderedEntries ↔ (r.attachingFilter filterControlUnit k).isSome) ∧
      (∀ k cfc, r.attachingFilter filterControlUnit k = some cfc →
        (f'.info.cfiEntries k).cfeNecpControlUnit = cfc.cfNecpControlUnit) ∧
      f'.info.cfiOrderedEntries.Nodup ∧
      f'.info.cfiOrderedEntries.Sorted (AttachOrder fun k => (f'.info.cfiEntries k).cfeNecpControlUnit) ∧
      ((r.cfilInfoAttachUnit id filterControlUnit).2 = true ↔ ∃ k, (r.attachingFilter filterControlUnit k).isSome) := by
  have flow := cfilInfoAttachUnit_attached r.filterSlots filterControlUnit (r.flowSt f) fresh unordered
  have start : AttachTracks r id filterControlUnit [] (r, false) (r.flowSt f, false) := ⟨rfl, ⟨f, found, rfl⟩, fun _ => rfl⟩
  have tracks := AttachTracks.run (List.finRange maxContentFilter) [] _ _ start
    (by simpa using List.nodup_finRange maxContentFilter)
  rw [← cfilInfoAttachUnit_eq] at tracks
  simp only [List.nil_append, List.mem_finRange, if_true] at tracks
  unfold Registry.cfilInfoAttachUnit
  rw [if_neg (by simp [found])]
  generalize cfilInfoAttachUnit r.filterSlots filterControlUnit (r.flowSt f) = sa at flow tracks
  obtain ⟨flag, ⟨f', found', info⟩, filters⟩ := tracks
  simp only [List.mem_finRange, if_true] at filters
  have members : ∀ k, k ∈ f'.info.cfiOrderedEntries ↔ (r.attachingFilter filterControlUnit k).isSome := fun k => by
    rw [info, flow.members]
    simp [Registry.attachingSlot_filterSlots]
  have entries : ∀ k, f'.info.cfiEntries k = sa.1.entry k := fun k => by rw [info]; rfl
  have necp : ∀ k ∈ f'.info.cfiOrderedEntries, (f'.info.cfiEntries k).cfeNecpControlUnit = slotNecp r.filterSlots k :=
    fun k mem => by rw [entries]; exact flow.necp k (info ▸ mem)
  have sorted : f'.info.cfiOrderedEntries.Sorted (AttachOrder fun k => (f'.info.cfiEntries k).cfeNecpControlUnit) :=
    (info ▸ flow.sorted).imp_of_mem fun {j k} memj memk before => by
      simpa only [AttachOrder, necp j memj, necp k memk] using before
  refine ⟨f', found', fun k => ?_, filters, members, fun k cfc attaching => ?_, sorted.imp AttachOrder.ne, sorted, ?_⟩
  · rw [entries, flow.filter]
    simp [Registry.attachingSlot_filterSlots, Option.map_map, Function.comp_def]
  · obtain ⟨slot, -⟩ := Option.filter_eq_some.mp attaching
    rw [necp k ((members k).mpr (by simp [attaching]))]
    simp [slotNecp, Registry.filterSlots, Option.mem_def.mp slot]
  · rw [flag, flow.flag]
    simp [Registry.attachingSlot_filterSlots]

/-- Three filters: on unit 1 with NECP control unit 5, on unit 2 with 3, on unit 3 with 5;
then a flow. -/
def threeFilterRegistry : Registry :=
  (RegistryOp.infoAlloc 7 {} 7 0).apply demoKernel <|
    (RegistryOp.ctlSetoptNecpControlUnit 2 5).apply demoKernel <|
    (RegistryOp.ctlSetoptNecpControlUnit 1 3).apply demoKernel <|
    (RegistryOp.ctlSetoptNecpControlUnit 0 5).apply demoKernel <|
    (RegistryOp.ctlConnect 3).apply demoKernel <|
    (RegistryOp.ctlConnect 2).apply demoKernel <|
    (RegistryOp.ctlConnect 1).apply demoKernel Registry.init

/-- The fresh flow of `threeFilterRegistry`. -/
def threeFilterFlow : SockHeadInfo :=
  { cfiId := 3, info := (ContentFilter.cfilInfoAlloc 7 {} threeFilterRegistry.cfFlowControlled).info, sock := {},
    cfiFilterControlUnit := 7 }

/-- A socket whose NECP control unit shares a bit with all three takes all three entries,
chained as unit 2 (NECP 3), then units 1 and 3 (NECP 5) in unit order. -/
theorem threeFilterRegistry_attach_sorted :
    ((threeFilterRegistry.cfilInfoAttachUnit 3 7).1.info? 3).map (·.info.cfiOrderedEntries) = some [1, 0, 2] ∧
      threeFilterRegistry.info? 3 = some threeFilterFlow ∧ (∀ k, (threeFilterFlow.info.cfiEntries k).cfeFilter = none) ∧
      threeFilterFlow.info.cfiOrderedEntries = [] ∧
      ∃ f', (threeFilterRegistry.cfilInfoAttachUnit 3 7).1.info? 3 = some f' ∧
        (∀ k, (f'.info.cfiEntries k).cfeFilter = (threeFilterRegistry.attachingFilter 7 k).map (·.cfId)) ∧
        (∀ k, (threeFilterRegistry.cfilInfoAttachUnit 3 7).1.contentFilters k =
          (threeFilterRegistry.contentFilters k).map fun cfc =>
            if cfc.cfNecpControlUnit &&& 7 = 0 then cfc else cfc.insertEntry 3) ∧
        (∀ k, k ∈ f'.info.cfiOrderedEntries ↔ (threeFilterRegistry.attachingFilter 7 k).isSome) ∧
        (∀ k cfc, threeFilterRegistry.attachingFilter 7 k = some cfc →
          (f'.info.cfiEntries k).cfeNecpControlUnit = cfc.cfNecpControlUnit) ∧
        f'.info.cfiOrderedEntries.Nodup ∧
        f'.info.cfiOrderedEntries.Sorted (AttachOrder fun k => (f'.info.cfiEntries k).cfeNecpControlUnit) ∧
        ((threeFilterRegistry.cfilInfoAttachUnit 3 7).2 = true ↔ ∃ k, (threeFilterRegistry.attachingFilter 7 k).isSome) :=
  have found : threeFilterRegistry.info? 3 = some threeFilterFlow := rfl
  have fresh : ∀ k, (threeFilterFlow.info.cfiEntries k).cfeFilter = none := fun _ => rfl
  ⟨by decide, found, fresh, rfl, attachUnit_builds_sorted_chain threeFilterRegistry 3 7 threeFilterFlow found fresh rfl⟩

end ContentFilter
