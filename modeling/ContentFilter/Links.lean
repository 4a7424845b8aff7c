import ContentFilter.Basic
import Mathlib.Data.Fintype.Fin
import Mathlib.Data.Finset.Card

/-! The registry seen as links between filters and flows, and the moves that keep them
consistent. -/

namespace ContentFilter

/-- A filter as the links see it: identity, unit, list and count. -/
structure FilterLink where
  cfId : Nat
  cfKcunit : Nat
  cfSockEntries : List Nat
  cfSockCount : Nat
  deriving DecidableEq

/-- `TAILQ_INSERT_TAIL` and the count. -/
def FilterLink.insert (fc : FilterLink) (id : Nat) : FilterLink :=
  { fc with cfSockEntries := fc.cfSockEntries ++ [id], cfSockCount := fc.cfSockCount + 1 }

/-- `TAILQ_REMOVE` and the count. -/
def FilterLink.remove (fc : FilterLink) (id : Nat) : FilterLink :=
  { fc with cfSockEntries := fc.cfSockEntries.erase id, cfSockCount := fc.cfSockCount - 1 }

/-- A flow as the links see it: its identity and the filter each entry points to. -/
structure FlowLink where
  cfiId : Nat
  cfeFilter : Kcunit → Option Nat

/-- Flow `fl`, with entry `k` pointing to `c` if `fl` is flow `id`. -/
def FlowLink.setEntry (id : Nat) (k : Kcunit) (c : Option Nat) (fl : FlowLink) : FlowLink :=
  if fl.cfiId = id then { fl with cfeFilter := Function.update fl.cfeFilter k c } else fl

@[simp] theorem FlowLink.setEntry_cfiId (id : Nat) (k : Kcunit) (c : Option Nat) (fl : FlowLink) :
    (fl.setEntry id k c).cfiId = fl.cfiId := by
  unfold FlowLink.setEntry; split <;> rfl

theorem FlowLink.setEntry_cfeFilter (id : Nat) (k j : Kcunit) (c : Option Nat) (fl : FlowLink) :
    (fl.setEntry id k c).cfeFilter j = if fl.cfiId = id ∧ j = k then c else fl.cfeFilter j := by
  unfold FlowLink.setEntry
  by_cases same : fl.cfiId = id <;> by_cases here : j = k <;> simp [same, here, Function.update_noteq]

/-- The links of the registry, with its counters and the next identity. -/
structure Links where
  filters : Kcunit → Option FilterLink
  activeCount : Nat
  flows : List FlowLink
  attachedCount : Nat
  stats : List Nat
  statsCount : Nat
  nextId : Nat

namespace Links

variable (l : Links)

/-- The identities on `cfil_sock_head`. -/
def ids : List Nat := l.flows.map (·.cfiId)

/-- Entry `k` of flow `id` points to filter `c`. -/
def Points (id : Nat) (k : Kcunit) (c : Nat) : Prop := ∃ fl ∈ l.flows, fl.cfiId = id ∧ fl.cfeFilter k = some c

/-- The links are consistent. -/
structure Inv : Prop where
  /-- A filter sits in the slot of its own unit. -/
  slotUnit : ∀ k fc, l.filters k = some fc → fc.cfKcunit = k.val + 1
  /-- `cfil_active_count` counts the connected filters. -/
  activeCount : l.activeCount = (Finset.univ.filter fun k => (l.filters k).isSome).card
  /-- Filters have distinct identities, all handed out already. -/
  filterFresh : ∀ k fc, l.filters k = some fc → fc.cfId < l.nextId
  filterDistinct : ∀ k j fc fd, l.filters k = some fc → l.filters j = some fd → fc.cfId = fd.cfId → k = j
  /-- `cf_sock_count` is the length of `cf_sock_entries`, which lists each flow once. -/
  sockCount : ∀ k fc, l.filters k = some fc → fc.cfSockCount = fc.cfSockEntries.length
  entriesNodup : ∀ k fc, l.filters k = some fc → fc.cfSockEntries.Nodup
  /-- A flow is on a filter's list exactly when its entry on that unit points to it. -/
  onList : ∀ k fc, l.filters k = some fc → ∀ id, id ∈ fc.cfSockEntries ↔ l.Points id k fc.cfId
  /-- An entry points only to the filter in its unit's slot. -/
  entrySlot : ∀ id k c, l.Points id k c → (l.filters k).map (·.cfId) = some c
  /-- `cfil_sock_head` lists each flow once, with an identity handed out already, and
  `cfil_sock_attached_count` counts it. -/
  flowsNodup : l.ids.Nodup
  flowFresh : ∀ fl ∈ l.flows, fl.cfiId < l.nextId
  attachedCount : l.attachedCount = l.flows.length
  /-- `cfil_sock_head_stats` lists live flows, once each, and its count counts it. -/
  statsLive : ∀ id ∈ l.stats, id ∈ l.ids
  statsNodup : l.stats.Nodup
  statsCount : l.statsCount = l.stats.length

/-- A new filter on unit `k`, with the next identity and an empty list. -/
def connect (k : Kcunit) : Links :=
  { l with
    filters := Function.update l.filters k (some ⟨l.nextId, k.val + 1, [], 0⟩)
    activeCount := l.activeCount + 1
    nextId := l.nextId + 1 }

/-- The filter on unit `k` leaves its slot. -/
def retire (k : Kcunit) : Links :=
  { l with filters := Function.update l.filters k none, activeCount := l.activeCount - 1 }

/-- Entry `k` of flow `id` now points to `c`. -/
def setEntry (id : Nat) (k : Kcunit) (c : Option Nat) : Links := { l with flows := l.flows.map (·.setEntry id k c) }

def mapFilter (k : Kcunit) (g : FilterLink → FilterLink) : Links :=
  { l with filters := Function.update l.filters k ((l.filters k).map g) }

/-- Entry `k` of flow `id` points to filter `c` and joins the list on its unit. -/
def link (id : Nat) (k : Kcunit) (c : Nat) : Links := (l.setEntry id k (some c)).mapFilter k (·.insert id)

/-- Entry `k` of flow `id` points nowhere and leaves the list on its unit. -/
def unlink (id : Nat) (k : Kcunit) : Links := (l.setEntry id k none).mapFilter k (·.remove id)

/-- A new flow with the next identity, no entry attached. -/
def addFlow : Links :=
  { l with
    flows := l.flows ++ [⟨l.nextId, fun _ => none⟩]
    attachedCount := l.attachedCount + 1
    nextId := l.nextId + 1 }

/-- Flow `id` leaves `cfil_sock_head`. -/
def removeFlow (id : Nat) : Links :=
  { l with flows := l.flows.filter fun fl => fl.cfiId ≠ id, attachedCount := l.attachedCount - 1 }

def statsAdd (id : Nat) : Links := { l with stats := l.stats ++ [id], statsCount := l.statsCount + 1 }

def statsRemove (id : Nat) : Links :=
  if id ∈ l.stats then { l with stats := l.stats.erase id, statsCount := l.statsCount - 1 } else l

/-- Flow `id` goes: off `cfil_sock_head_stats`, and off `cfil_sock_head`. -/
def dropFlow (id : Nat) : Links := (l.statsRemove id).removeFlow id

theorem removeFlow_statsRemove (id : Nat) : (l.removeFlow id).statsRemove id = l.dropFlow id := by
  unfold dropFlow statsRemove removeFlow
  by_cases listed : id ∈ l.stats <;> simp [listed]

variable {l}

theorem mem_ids {id : Nat} : id ∈ l.ids ↔ ∃ fl ∈ l.flows, fl.cfiId = id := by simp [ids]

@[simp] theorem ids_setEntry (id : Nat) (k : Kcunit) (c : Option Nat) : (l.setEntry id k c).ids = l.ids := by
  simp [ids, setEntry, Function.comp_def]

theorem points_setEntry {id id' : Nat} {k j : Kcunit} {c : Option Nat} {c' : Nat} :
    (l.setEntry id k c).Points id' j c' ↔ if id' = id ∧ j = k then c = some c' ∧ id ∈ l.ids else l.Points id' j c' := by
  simp only [Points, setEntry, List.mem_map, mem_ids]
  constructor
  · rintro ⟨_, ⟨fl, mem, rfl⟩, same, points⟩
    rw [FlowLink.setEntry_cfiId] at same
    subst same
    rw [FlowLink.setEntry_cfeFilter] at points
    split at points
    · rename_i here; rw [if_pos here]; exact ⟨points, fl, mem, here.1⟩
    · rename_i here; rw [if_neg here]; exact ⟨fl, mem, rfl, points⟩
  · intro holds
    split at holds
    · rename_i here; obtain ⟨rfl, rfl⟩ := here
      obtain ⟨rfl, fl, mem, same⟩ := holds
      exact ⟨_, ⟨fl, mem, rfl⟩, by simp [same], by simp [FlowLink.setEntry_cfeFilter, same]⟩
    · rename_i here
      obtain ⟨fl, mem, rfl, points⟩ := holds
      exact ⟨_, ⟨fl, mem, rfl⟩, by simp, by rw [FlowLink.setEntry_cfeFilter, if_neg here]; exact points⟩

@[simp] theorem filters_setEntry (id : Nat) (k : Kcunit) (c : Option Nat) : (l.setEntry id k c).filters = l.filters := rfl

theorem filters_mapFilter (k j : Kcunit) (g : FilterLink → FilterLink) :
    (l.mapFilter k g).filters j = if j = k then (l.filters k).map g else l.filters j := by
  simp only [mapFilter, Function.update_apply]

theorem eq_some_of_mapFilter {k j : Kcunit} {fc : FilterLink} (slot : l.filters k = some fc)
    {g : FilterLink → FilterLink} {fd : FilterLink} (slotj : (l.mapFilter k g).filters j = some fd) :
    (j = k ∧ fd = g fc) ∨ (j ≠ k ∧ l.filters j = some fd) := by
  rw [filters_mapFilter] at slotj
  split at slotj
  · rename_i here
    rw [slot] at slotj
    exact .inl ⟨here, (Option.some.inj slotj).symm⟩
  · exact .inr ⟨‹_›, slotj⟩

theorem eq_some_of_relist {id : Nat} {k j : Kcunit} {fc : FilterLink} (slot : l.filters k = some fc) {c : Option Nat}
    {g : FilterLink → FilterLink} {fd : FilterLink} (slotj : ((l.setEntry id k c).mapFilter k g).filters j = some fd) :
    (j = k ∧ fd = g fc) ∨ (j ≠ k ∧ l.filters j = some fd) :=
  eq_some_of_mapFilter (l := l.setEntry id k c) slot slotj

@[simp] theorem isSome_mapFilter (k j : Kcunit) (g : FilterLink → FilterLink) :
    ((l.mapFilter k g).filters j).isSome = (l.filters j).isSome := by
  rw [filters_mapFilter]; split <;> simp_all

@[simp] theorem points_mapFilter {k : Kcunit} {g : FilterLink → FilterLink} {id : Nat} {j : Kcunit} {c : Nat} :
    (l.mapFilter k g).Points id j c ↔ l.Points id j c := Iff.rfl

@[simp] theorem ids_mapFilter (k : Kcunit) (g : FilterLink → FilterLink) : (l.mapFilter k g).ids = l.ids := rfl

theorem points_live {id : Nat} {k : Kcunit} {c : Nat} (points : l.Points id k c) : id ∈ l.ids := by
  obtain ⟨fl, mem, rfl, -⟩ := points
  exact mem_ids.mpr ⟨fl, mem, rfl⟩

theorem card_update_some {α : Type} (f : Kcunit → Option α) (k : Kcunit) (a : α) (free : f k = none) :
    (Finset.univ.filter fun j => (Function.update f k (some a) j).isSome).card =
      (Finset.univ.filter fun j => (f j).isSome).card + 1 := by
  have grown : (Finset.univ.filter fun j => (Function.update f k (some a) j).isSome) =
      insert k (Finset.univ.filter fun j => (f j).isSome) := by
    ext j; by_cases here : j = k <;> simp [here, Function.update_noteq]
  rw [grown, Finset.card_insert_of_not_mem (by simp [free])]

theorem card_update_none {α : Type} (f : Kcunit → Option α) (k : Kcunit) (taken : (f k).isSome) :
    (Finset.univ.filter fun j => (Function.update f k none j).isSome).card =
      (Finset.univ.filter fun j => (f j).isSome).card - 1 := by
  have shrunk : (Finset.univ.filter fun j => (Function.update f k none j).isSome) =
      (Finset.univ.filter fun j => (f j).isSome).erase k := by
    ext j; by_cases here : j = k <;> simp [here, Function.update_noteq]
  rw [shrunk, Finset.card_erase_of_mem (by simpa using taken)]

theorem eq_some_of_connect {k j : Kcunit} {fd : FilterLink} (slot : (l.connect k).filters j = some fd) :
    (j = k ∧ fd = ⟨l.nextId, k.val + 1, [], 0⟩) ∨ l.filters j = some fd := by
  simp only [connect, Function.update_apply] at slot
  split at slot
  · exact .inl ⟨‹_›, (Option.some.inj slot).symm⟩
  · exact .inr slot

theorem eq_some_of_retire {k j : Kcunit} {fd : FilterLink} (slot : (l.retire k).filters j = some fd) :
    l.filters j = some fd := by
  simp only [retire, Function.update_apply] at slot
  split at slot
  · cases slot
  · exact slot

@[simp] theorem statsRemove_flows (id : Nat) : (l.statsRemove id).flows = l.flows := by
  unfold statsRemove; split <;> rfl

namespace Inv

variable (inv : l.Inv)
include inv

theorem not_points_free {k : Kcunit} (free : l.filters k = none) {id c : Nat} : ¬ l.Points id k c := fun points => by
  simpa [free] using inv.entrySlot id k c points

theorem connect (k : Kcunit) (free : l.filters k = none) : (l.connect k).Inv where
  slotUnit j fc slot := by
    rcases eq_some_of_connect slot with ⟨rfl, rfl⟩ | slot
    · rfl
    · exact inv.slotUnit j fc slot
  activeCount := by
    simp only [Links.connect]
    rw [inv.activeCount, card_update_some l.filters k _ free]
  filterFresh j fc slot := by
    rcases eq_some_of_connect slot with ⟨rfl, rfl⟩ | slot
    · exact Nat.lt_succ_self _
    · exact Nat.lt_succ_of_lt (inv.filterFresh j fc slot)
  filterDistinct j i fc fd slotj sloti same := by
    rcases eq_some_of_connect slotj with ⟨rfl, rfl⟩ | heldj <;>
      rcases eq_some_of_connect sloti with ⟨rfl, rfl⟩ | heldi
    · rfl
    · have := inv.filterFresh i fd heldi; simp only at same; omega
    · have := inv.filterFresh j fc heldj; simp only at same; omega
    · exact inv.filterDistinct j i fc fd heldj heldi same
  sockCount j fc slot := by
    rcases eq_some_of_connect slot with ⟨rfl, rfl⟩ | slot
    · rfl
    · exact inv.sockCount j fc slot
  entriesNodup j fc slot := by
    rcases eq_some_of_connect slot with ⟨rfl, rfl⟩ | slot
    · exact List.nodup_nil
    · exact inv.entriesNodup j fc slot
  onList j fc slot id := by
    rcases eq_some_of_connect slot with ⟨rfl, rfl⟩ | slot
    · exact ⟨fun member => absurd member (List.not_mem_nil _), fun points => absurd points (inv.not_points_free free)⟩
    · exact inv.onList j fc slot id
  entrySlot id j c points := by
    have slotted := inv.entrySlot id j c points
    have other : j ≠ k := fun here => inv.not_points_free free (here ▸ points)
    simpa only [Links.connect, Function.update_noteq other] using slotted
  flowsNodup := inv.flowsNodup
  flowFresh fl mem := Nat.lt_succ_of_lt (inv.flowFresh fl mem)
  attachedCount := inv.attachedCount
  statsLive := inv.statsLive
  statsNodup := inv.statsNodup
  statsCount := inv.statsCount

theorem retire {k : Kcunit} {fc : FilterLink} (slot : l.filters k = some fc) (empty : fc.cfSockEntries = []) :
    (l.retire k).Inv where
  slotUnit j fd slotj := inv.slotUnit j fd (eq_some_of_retire slotj)
  activeCount := by
    simp only [Links.retire]
    rw [inv.activeCount, card_update_none l.filters k (by simp [slot])]
  filterFresh j fd slotj := inv.filterFresh j fd (eq_some_of_retire slotj)
  filterDistinct j i fd fe slotj sloti := inv.filterDistinct j i fd fe (eq_some_of_retire slotj) (eq_some_of_retire sloti)
  sockCount j fd slotj := inv.sockCount j fd (eq_some_of_retire slotj)
  entriesNodup j fd slotj := inv.entriesNodup j fd (eq_some_of_retire slotj)
  onList j fd slotj := inv.onList j fd (eq_some_of_retire slotj)
  entrySlot id j c points := by
    have slotted := inv.entrySlot id j c points
    have other : j ≠ k := by
      rintro rfl
      rw [slot] at slotted
      cases slotted
      exact absurd ((inv.onList j fc slot id).mpr points) (by simp [empty])
    simpa only [Links.retire, Function.update_noteq other] using slotted
  flowsNodup := inv.flowsNodup
  flowFresh := inv.flowFresh
  attachedCount := inv.attachedCount
  statsLive := inv.statsLive
  statsNodup := inv.statsNodup
  statsCount := inv.statsCount

theorem relist {id : Nat} {k : Kcunit} {fc : FilterLink} (slot : l.filters k = some fc) {c : Option Nat}
    {g : FilterLink → FilterLink} (ownFilter : ∀ c', c = some c' → c' = fc.cfId)
    (keepsId : (g fc).cfId = fc.cfId) (keepsUnit : (g fc).cfKcunit = fc.cfKcunit)
    (count : (g fc).cfSockCount = (g fc).cfSockEntries.length) (nodup : (g fc).cfSockEntries.Nodup)
    (listed : ∀ id', id' ∈ (g fc).cfSockEntries ↔ (l.setEntry id k c).Points id' k fc.cfId) :
    ((l.setEntry id k c).mapFilter k g).Inv where
  slotUnit j fd slotj := by
    rcases eq_some_of_relist slot slotj with ⟨rfl, rfl⟩ | ⟨-, found⟩
    · rw [keepsUnit]; exact inv.slotUnit j fc slot
    · exact inv.slotUnit j fd found
  activeCount := by simpa using inv.activeCount
  filterFresh j fd slotj := by
    rcases eq_some_of_relist slot slotj with ⟨rfl, rfl⟩ | ⟨-, found⟩
    · rw [keepsId]; exact inv.filterFresh j fc slot
    · exact inv.filterFresh j fd found
  filterDistinct j i fd fe slotj sloti same := by
    have before : ∀ j fd, ((l.setEntry id k c).mapFilter k g).filters j = some fd →
        ∃ fd', l.filters j = some fd' ∧ fd.cfId = fd'.cfId := fun j fd slotj => by
      rcases eq_some_of_relist slot slotj with ⟨rfl, rfl⟩ | ⟨-, found⟩
      · exact ⟨fc, slot, keepsId⟩
      · exact ⟨fd, found, rfl⟩
    obtain ⟨fd', foundj, samej⟩ := before j fd slotj
    obtain ⟨fe', foundi, samei⟩ := before i fe sloti
    exact inv.filterDistinct j i fd' fe' foundj foundi (samej.symm.trans (same.trans samei))
  sockCount j fd slotj := by
    rcases eq_some_of_relist slot slotj with ⟨rfl, rfl⟩ | ⟨-, found⟩
    · exact count
    · exact inv.sockCount j fd found
  entriesNodup j fd slotj := by
    rcases eq_some_of_relist slot slotj with ⟨rfl, rfl⟩ | ⟨-, found⟩
    · exact nodup
    · exact inv.entriesNodup j fd found
  onList j fd slotj id' := by
    rw [points_mapFilter]
    rcases eq_some_of_relist slot slotj with ⟨rfl, rfl⟩ | ⟨other, found⟩
    · rw [keepsId]; exact listed id'
    · rw [points_setEntry, if_neg fun both => other both.2]
      exact inv.onList j fd found id'
  entrySlot id' j c' points := by
    rw [points_mapFilter, points_setEntry] at points
    rw [filters_mapFilter, filters_setEntry]
    split at points
    · rename_i here; obtain ⟨rfl, rfl⟩ := here
      simp [slot, keepsId, ownFilter c' points.1]
    · have slotted := inv.entrySlot id' j c' points
      split
      · rename_i here; subst here; rw [slot] at slotted ⊢; simpa [keepsId] using slotted
      · exact slotted
  flowsNodup := by simpa using inv.flowsNodup
  flowFresh fl mem := by
    simp only [Links.mapFilter, Links.setEntry, List.mem_map] at mem
    obtain ⟨fl, mem, rfl⟩ := mem
    simpa using inv.flowFresh fl mem
  attachedCount := by simp [Links.mapFilter, Links.setEntry, inv.attachedCount]
  statsLive := by simpa using inv.statsLive
  statsNodup := inv.statsNodup
  statsCount := inv.statsCount

theorem link {id : Nat} {k : Kcunit} {fc : FilterLink} (slot : l.filters k = some fc) (live : id ∈ l.ids)
    (detached : ∀ c, ¬ l.Points id k c) : (l.link id k fc.cfId).Inv := by
  have fresh : id ∉ fc.cfSockEntries := fun member => detached fc.cfId ((inv.onList k fc slot id).mp member)
  refine inv.relist slot (fun c' same => (Option.some.inj same).symm) rfl rfl
    (by simp [FilterLink.insert, inv.sockCount k fc slot])
    (List.nodup_append.mpr ⟨inv.entriesNodup k fc slot, List.nodup_singleton id, by simpa using fresh⟩)
    fun id' => ?_
  rw [points_setEntry]
  by_cases same : id' = id
  · subst same; simp [FilterLink.insert, live]
  · simp [FilterLink.insert, same, inv.onList k fc slot id']

theorem unlink {id : Nat} {k : Kcunit} {fc : FilterLink} (slot : l.filters k = some fc)
    (listed : id ∈ fc.cfSockEntries) : (l.unlink id k).Inv := by
  refine inv.relist slot (fun c' same => by cases same) rfl rfl
    (by simp [FilterLink.remove, inv.sockCount k fc slot, List.length_erase_of_mem listed])
    ((inv.entriesNodup k fc slot).erase id) fun id' => ?_
  rw [points_setEntry]
  by_cases same : id' = id
  · subst same; simp [FilterLink.remove, (inv.entriesNodup k fc slot).not_mem_erase]
  · simp [FilterLink.remove, same, List.mem_erase_of_ne same, inv.onList k fc slot id']

theorem addFlow : l.addFlow.Inv where
  slotUnit := inv.slotUnit
  activeCount := inv.activeCount
  filterFresh k fc slot := Nat.lt_succ_of_lt (inv.filterFresh k fc slot)
  filterDistinct := inv.filterDistinct
  sockCount := inv.sockCount
  entriesNodup := inv.entriesNodup
  onList k fc slot id := by
    rw [inv.onList k fc slot id]
    simp only [Points, Links.addFlow, List.mem_append, List.mem_singleton]
    constructor
    · rintro ⟨fl, mem, rest⟩; exact ⟨fl, .inl mem, rest⟩
    · rintro ⟨fl, mem | rfl, rest⟩
      · exact ⟨fl, mem, rest⟩
      · cases rest.2
  entrySlot id k c points := by
    simp only [Points, Links.addFlow, List.mem_append, List.mem_singleton] at points
    obtain ⟨fl, mem | rfl, same, points⟩ := points
    · exact inv.entrySlot id k c ⟨fl, mem, same, points⟩
    · cases points
  flowsNodup := by
    simp only [ids, Links.addFlow, List.map_append, List.map_cons, List.map_nil]
    refine List.nodup_append.mpr ⟨inv.flowsNodup, List.nodup_singleton _, ?_⟩
    simpa [List.disjoint_singleton] using fun fl mem same => absurd (inv.flowFresh fl mem) (by omega)
  flowFresh fl mem := by
    simp only [Links.addFlow, List.mem_append, List.mem_singleton] at mem
    rcases mem with mem | rfl
    · exact Nat.lt_succ_of_lt (inv.flowFresh fl mem)
    · exact Nat.lt_succ_self _
  attachedCount := by simp [Links.addFlow, inv.attachedCount]
  statsLive id mem := by simpa [ids, Links.addFlow] using Or.inl (mem_ids.mp (inv.statsLive id mem))
  statsNodup := inv.statsNodup
  statsCount := inv.statsCount

theorem statsAdd {id : Nat} (live : id ∈ l.ids) (fresh : id ∉ l.stats) : (l.statsAdd id).Inv :=
  { inv with
    statsLive := fun id' mem => by
      simp only [Links.statsAdd, List.mem_append, List.mem_singleton] at mem
      rcases mem with mem | rfl
      · exact inv.statsLive id' mem
      · exact live
    statsNodup := List.nodup_append.mpr ⟨inv.statsNodup, List.nodup_singleton _, by simpa using fresh⟩
    statsCount := by simp [Links.statsAdd, inv.statsCount] }

theorem statsRemove (id : Nat) : (l.statsRemove id).Inv := by
  unfold Links.statsRemove
  split
  · rename_i listed
    exact { inv with
      statsLive := fun id' mem => inv.statsLive id' (List.mem_of_mem_erase mem)
      statsNodup := inv.statsNodup.erase id
      statsCount := by simp [inv.statsCount, List.length_erase_of_mem listed] }
  · exact inv

theorem not_mem_statsRemove (id : Nat) : id ∉ (l.statsRemove id).stats := by
  unfold Links.statsRemove
  split
  · exact inv.statsNodup.not_mem_erase
  · assumption

theorem removeFlow {id : Nat} (live : id ∈ l.ids) (detached : ∀ k c, ¬ l.Points id k c) (unlisted : id ∉ l.stats) :
    (l.removeFlow id).Inv := by
  have points : ∀ {id' k c}, (l.removeFlow id).Points id' k c ↔ id' ≠ id ∧ l.Points id' k c := by
    intro id' k c
    simp only [Points, Links.removeFlow, List.mem_filter, decide_eq_true_eq]
    constructor
    · rintro ⟨fl, ⟨mem, other⟩, rfl, points⟩; exact ⟨other, fl, mem, rfl, points⟩
    · rintro ⟨other, fl, mem, rfl, points⟩; exact ⟨fl, ⟨mem, other⟩, rfl, points⟩
  have ids : (l.removeFlow id).ids = l.ids.erase id := by
    rw [inv.flowsNodup.erase_eq_filter]
    simp only [Links.ids, Links.removeFlow, List.filter_map]
    exact congrArg _ (List.filter_congr fun fl _ => by by_cases same : fl.cfiId = id <;> simp [same])
  exact { inv with
    onList := fun k fc slot id' => by
      rw [inv.onList k fc slot id', points]
      by_cases same : id' = id
      · subst same; simp [detached]
      · simp [same]
    entrySlot := fun id' k c holds => inv.entrySlot id' k c (points.mp holds).2
    flowsNodup := ids ▸ inv.flowsNodup.erase id
    flowFresh := fun fl mem => inv.flowFresh fl (List.mem_of_mem_filter mem)
    attachedCount := by
      have := congrArg List.length ids
      rw [List.length_erase_of_mem live] at this
      simpa [Links.ids, Links.removeFlow, inv.attachedCount] using this.symm
    statsLive := fun id' mem => by
      rw [ids, List.mem_erase_of_ne fun same => unlisted (by rw [← same]; exact mem)]
      exact inv.statsLive id' mem }

theorem dropFlow {id : Nat} (live : id ∈ l.ids) (detached : ∀ k c, ¬ l.Points id k c) : (l.dropFlow id).Inv :=
  (inv.statsRemove id).removeFlow (by simpa [ids] using live)
    (fun k c points => detached k c (by simpa [Points] using points)) (inv.not_mem_statsRemove id)

end Inv

end Links

end ContentFilter
