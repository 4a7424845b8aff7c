import ContentFilter.Stats

/-! The periodic statistics report writes every record inside its filter's buffer. -/

namespace ContentFilter

/-- `CFIL_STATS_REPORT_MAX_COUNT`: the records of one report message. -/
def cfilStatsReportMaxCount : Nat := 50

/-- `NSEC_PER_MSEC` and `NSEC_PER_USEC` (`kern/clock.h`). -/
def nsecPerMsec : Nat := 1000000
def nsecPerUsec : Nat := 1000

/-- `struct cfil_msg_sock_stats`; its local address is `none` while its `sa_len` is 0. -/
structure CfilMsgSockStats where
  cfsSockId : Nat := 0
  cfsByteInboundCount : Nat := 0
  cfsByteOutboundCount : Nat := 0
  cfsLaddr : Option Nat := none
  deriving DecidableEq, Repr

/-- `struct cfil_stats_report_buffer`: its `stats` array has exactly
`CFIL_STATS_REPORT_MAX_COUNT` records. -/
structure CfilStatsReportBuffer where
  stats : List CfilMsgSockStats
  length_stats : stats.length = cfilStatsReportMaxCount

namespace CfilStatsReportBuffer

/-- The buffer after `memset` to zero. -/
def zero : CfilStatsReportBuffer := ⟨List.replicate cfilStatsReportMaxCount {}, List.length_replicate _ _⟩

/-- Writing the fields of record `index` in place; `none` when `index` is past the end
of the array. -/
def modify (b : CfilStatsReportBuffer) (index : Nat) (f : CfilMsgSockStats → CfilMsgSockStats) :
    Option CfilStatsReportBuffer :=
  if index < cfilStatsReportMaxCount then
    some ⟨b.stats.modify f index, (List.length_modify f index b.stats).trans b.length_stats⟩
  else none

theorem modify_eq_none_iff (b : CfilStatsReportBuffer) (index : Nat) (f : CfilMsgSockStats → CfilMsgSockStats) :
    b.modify index f = none ↔ cfilStatsReportMaxCount ≤ index := by
  unfold modify
  split <;> simp <;> omega

theorem modify_isSome (b : CfilStatsReportBuffer) {index : Nat} (inside : index < cfilStatsReportMaxCount)
    (f : CfilMsgSockStats → CfilMsgSockStats) : ∃ b', b.modify index f = some b' := by
  simp [modify, inside]

end CfilStatsReportBuffer

/-- The fields of `struct cfil_entry` only the statistics thread reads and writes;
`cfe_stats_report_ts`, a `struct timeval`, is kept in microseconds. -/
structure CfeStatsSt where
  cfeStatsReportTs : Int := 0
  cfeByteInboundCountReported : Nat := 0
  cfeByteOutboundCountReported : Nat := 0
  cfeLaddrSent : Bool := false
  deriving DecidableEq, Repr

/-- A flow of `cfil_sock_head_stats` with what a report reads of it. -/
structure StatsFlow where
  info : CfilInfo := {}
  cfiByteInboundCount : Nat := 0
  cfiByteOutboundCount : Nat := 0
  cfiSoAttachLaddr : Option Nat := none
  soLaddr : Option Nat := none
  cfeStats : Kcunit → CfeStatsSt := fun _ => {}

/-- `global_cfil_stats_report_buffers` (`none` for a filter without one) and
`global_cfil_stats_counts`. -/
structure StatsGlobals where
  buffers : Kcunit → Option CfilStatsReportBuffer
  counts : Kcunit → Nat

/-- `diff_time_usecs`: the `timersub` of the two times in microseconds, as the source
computes it in 64 bits (a time before the last report wraps to a large value). -/
def diffTimeUsecs (currentTv ts : Int) : Nat := Int.toNat (Int.emod (currentTv - ts) (Int.ofNat (2 ^ 64)))

/-- `cfil_stats_collect_flow_stats_for_filter`: whether the flow reported to filter
`kcunit`. -/
def cfilStatsCollectFlowStatsForFilter (kcunit : Kcunit) (f : StatsFlow) (currentTv : Int) (g : StatsGlobals) :
    Option (Bool × StatsFlow × StatsGlobals) :=
  let entry := f.cfeStats kcunit
  let frequency := (f.info.cfiEntries kcunit).cfeStatsReportFrequency
  if frequency = 0 then some (false, f, g)
  else match g.buffers kcunit with
    | none => some (false, f, g)
    | some buffer =>
      if frequency * nsecPerMsec / nsecPerUsec ≤ diffTimeUsecs currentTv entry.cfeStatsReportTs ∧
          (entry.cfeByteInboundCountReported < f.cfiByteInboundCount ∨
            entry.cfeByteOutboundCountReported < f.cfiByteOutboundCount) then
        let index := g.counts kcunit
        let laddr := if !entry.cfeLaddrSent && f.cfiSoAttachLaddr.isNone then f.soLaddr else f.cfiSoAttachLaddr
        let laddrSent := !entry.cfeLaddrSent && laddr.isSome
        match buffer.modify index fun stats => { stats with
            cfsSockId := f.info.cfiSockId, cfsByteInboundCount := f.cfiByteInboundCount,
            cfsByteOutboundCount := f.cfiByteOutboundCount,
            cfsLaddr := if laddrSent then laddr else stats.cfsLaddr } with
        | none => none
        | some buffer =>
          some (true,
            { f with
              cfiSoAttachLaddr := laddr
              cfeStats := Function.update f.cfeStats kcunit
                { cfeStatsReportTs := currentTv, cfeByteInboundCountReported := f.cfiByteInboundCount,
                  cfeByteOutboundCountReported := f.cfiByteOutboundCount,
                  cfeLaddrSent := entry.cfeLaddrSent || laddrSent } },
            { buffers := Function.update g.buffers kcunit (some buffer),
              counts := Function.update g.counts kcunit (index + 1) })
      else some (false, f, g)

/-- The loop of `cfil_stats_report` over the control units, for one flow: whether it
reported to some filter. -/
def statsFilterLoop (currentTv : Int) : List Kcunit → Bool → StatsFlow → StatsGlobals →
    Option (Bool × StatsFlow × StatsGlobals)
  | [], flowReported, f, g => some (flowReported, f, g)
  | kcunit :: rest, flowReported, f, g =>
    if (f.info.cfiEntries kcunit).cfeFilter.isNone then statsFilterLoop currentTv rest flowReported f g
    else if 0 < (f.info.cfiEntries kcunit).cfeStatsReportFrequency then
      match cfilStatsCollectFlowStatsForFilter kcunit f currentTv g with
      | none => none
      | some (reported, f, g) => statsFilterLoop currentTv rest (flowReported || reported) f g
    else statsFilterLoop currentTv rest flowReported f g

/-- The locals of a round: `flow_count`, `saved_next_sock_id`, and the globals. -/
structure StatsRound where
  flowCount : Nat
  savedNextSockId : Nat
  globals : StatsGlobals

/-- The `TAILQ_FOREACH` of a round over `cfil_sock_head_stats`: flows before the saved
one are skipped, and the walk stops at the first flow met with `flow_count` at the cap,
saving its sock id. -/
def statsFlowLoop (currentTv : Int) : List StatsFlow → StatsRound → Option (List StatsFlow × StatsRound)
  | [], r => some ([], r)
  | f :: rest, r =>
    let saved := if r.savedNextSockId ≠ 0 ∧ r.savedNextSockId = f.info.cfiSockId then 0 else r.savedNextSockId
    if saved = 0 then
      if cfilStatsReportMaxCount ≤ r.flowCount then
        some (f :: rest, { r with savedNextSockId := f.info.cfiSockId })
      else
        match statsFilterLoop currentTv (List.finRange maxContentFilter) false f r.globals with
        | none => none
        | some (reported, f, globals) =>
          (statsFlowLoop currentTv rest
            ⟨if reported then r.flowCount + 1 else r.flowCount, 0, globals⟩).map fun p => (f :: p.1, p.2)
    else (statsFlowLoop currentTv rest { r with savedNextSockId := saved }).map fun p => (f :: p.1, p.2)

/-- A call `cfil_dispatch_stats_event_locked(kcunit, buffer, stats_count)`. -/
structure StatsDispatch where
  kcunit : Kcunit
  buffer : CfilStatsReportBuffer
  statsCount : Nat

/-- The sending loop of a round: each filter with a buffer and a positive count. -/
def statsDispatchAll (g : StatsGlobals) : List StatsDispatch :=
  (List.finRange maxContentFilter).filterMap fun kcunit =>
    match g.buffers kcunit with
    | some buffer => if 0 < g.counts kcunit then some ⟨kcunit, buffer, g.counts kcunit⟩ else none
    | none => none

/-- The statistics thread's view: the list, `cfil_sock_attached_stats_count`, the globals,
and the dispatch calls made so far. -/
structure StatsReportSt where
  cfilSockHeadStats : List StatsFlow
  cfilSockAttachedStatsCount : Nat
  globals : StatsGlobals
  dispatched : List StatsDispatch := []

/-- The `memset` of every buffer and the zeroed counts at the start of a round. -/
def StatsGlobals.reset (g : StatsGlobals) : StatsGlobals :=
  ⟨fun k => (g.buffers k).map fun _ => CfilStatsReportBuffer.zero, fun _ => 0⟩

/-- One round from `saved_next_sock_id`, at time `currentTv`. -/
def statsReportRound (currentTv : Int) (savedNextSockId : Nat) (st : StatsReportSt) :
    Option (List StatsFlow × StatsRound) :=
  statsFlowLoop currentTv st.cfilSockHeadStats ⟨0, savedNextSockId, st.globals.reset⟩

/-- The `do … while (saved_next_sock_id != 0)` of `cfil_stats_report`, one round per
reading of `microuptime` in `clock`; it ends at `go_sleep`, or when the readings run out. -/
def statsReportLoop : List Int → Nat → StatsReportSt → Option StatsReportSt
  | [], _, st => some st
  | currentTv :: clock, savedNextSockId, st =>
    if st.cfilSockAttachedStatsCount = 0 then some st
    else match statsReportRound currentTv savedNextSockId st with
      | none => none
      | some (flows, r) =>
        let st := { st with cfilSockHeadStats := flows, globals := r.globals }
        if 0 < r.flowCount then
          let st := { st with dispatched := st.dispatched ++ statsDispatchAll r.globals }
          if r.savedNextSockId ≠ 0 then statsReportLoop clock r.savedNextSockId st else some st
        else some st

/-- `cfil_stats_report`, from a wakeup of the statistics thread. -/
def cfilStatsReport (clock : List Int) (st : StatsReportSt) : Option StatsReportSt :=
  statsReportLoop clock 0 st

theorem collectFlowStatsForFilter_counts (kcunit : Kcunit) (f : StatsFlow) (currentTv : Int) {g : StatsGlobals}
    (room : g.counts kcunit < cfilStatsReportMaxCount) :
    ∃ reported f' g', cfilStatsCollectFlowStatsForFilter kcunit f currentTv g = some (reported, f', g') ∧
      ∀ k, g'.counts k = g.counts k + if k = kcunit then reported.toNat else 0 := by
  have unchanged : ∃ f' g', some (false, f, g) = some (false, f', g') ∧
      ∀ k, g'.counts k = g.counts k + if k = kcunit then false.toNat else 0 := ⟨f, g, rfl, by simp⟩
  unfold cfilStatsCollectFlowStatsForFilter
  dsimp only
  by_cases zero : (f.info.cfiEntries kcunit).cfeStatsReportFrequency = 0
  · rw [if_pos zero]
    exact ⟨false, unchanged⟩
  rw [if_neg zero]
  cases g.buffers kcunit with
  | none => exact ⟨false, unchanged⟩
  | some buffer =>
    dsimp only
    split
    · simp only [CfilStatsReportBuffer.modify, if_pos room]
      refine ⟨true, _, _, rfl, fun k => ?_⟩
      by_cases same : k = kcunit
      · subst k; simp
      · simp [same]
    · exact ⟨false, unchanged⟩

theorem statsFilterLoop_counts (currentTv : Int) {fc : Nat} (cap : fc < cfilStatsReportMaxCount) :
    ∀ (ks : List Kcunit), ks.Nodup → ∀ flowReported f (g : StatsGlobals),
      (∀ k, g.counts k ≤ fc + flowReported.toNat) → (∀ k ∈ ks, g.counts k ≤ fc) →
      ∃ reported f' g', statsFilterLoop currentTv ks flowReported f g = some (reported, f', g') ∧
        ∀ k, g'.counts k ≤ fc + reported.toNat
  | [], _, flowReported, f, g, bound, _ => ⟨flowReported, f, g, rfl, bound⟩
  | kcunit :: rest, nodup, flowReported, f, g, bound, fresh => by
    obtain ⟨absent, nodup⟩ := List.nodup_cons.mp nodup
    have skip := statsFilterLoop_counts currentTv cap rest nodup flowReported f g bound
      (fun k mem => fresh k (List.mem_cons_of_mem _ mem))
    simp only [statsFilterLoop]
    split_ifs
    · exact skip
    · obtain ⟨reported, f', g', collected, counts⟩ := collectFlowStatsForFilter_counts kcunit f currentTv
        (lt_of_le_of_lt (fresh kcunit (List.mem_cons_self _ _)) cap)
      rw [collected]
      refine statsFilterLoop_counts currentTv cap rest nodup _ f' g' (fun k => ?_) (fun k mem => ?_)
      · have before := bound k
        have visited := fresh kcunit (List.mem_cons_self _ _)
        rw [counts k]
        by_cases same : k = kcunit
        · subst k
          cases flowReported <;> cases reported <;> simp <;> omega
        · cases flowReported <;> cases reported <;> simp [same] at before ⊢ <;> omega
      · have other : k ≠ kcunit := fun same => absent (same ▸ mem)
        simpa [counts k, other] using fresh k (List.mem_cons_of_mem _ mem)
    · exact skip

theorem statsFlowLoop_counts (currentTv : Int) :
    ∀ (flows : List StatsFlow) (r : StatsRound), r.flowCount ≤ cfilStatsReportMaxCount →
      (∀ k, r.globals.counts k ≤ r.flowCount) →
      ∃ flows' r', statsFlowLoop currentTv flows r = some (flows', r') ∧
        r'.flowCount ≤ cfilStatsReportMaxCount ∧ ∀ k, r'.globals.counts k ≤ r'.flowCount
  | [], r, cap, bound => ⟨[], r, rfl, cap, bound⟩
  | f :: rest, r, cap, bound => by
    simp only [statsFlowLoop]
    generalize (if r.savedNextSockId ≠ 0 ∧ r.savedNextSockId = f.info.cfiSockId then 0 else r.savedNextSockId) = saved
    by_cases resumed : saved = 0
    · rw [if_pos resumed]
      by_cases full : cfilStatsReportMaxCount ≤ r.flowCount
      · rw [if_pos full]
        exact ⟨_, _, rfl, cap, bound⟩
      rw [if_neg full]
      obtain ⟨reported, f', g', looped, counts⟩ := statsFilterLoop_counts currentTv (Nat.lt_of_not_le full)
        _ (List.nodup_finRange _) false f r.globals (by simpa using bound) (fun k _ => bound k)
      obtain ⟨flows', r', walked, cap', bound'⟩ := statsFlowLoop_counts currentTv rest
        ⟨if reported then r.flowCount + 1 else r.flowCount, 0, g'⟩ (by dsimp only; split <;> omega)
        (fun k => by cases reported <;> simpa using counts k)
      rw [looped]
      exact ⟨f' :: flows', r', by simp [walked], cap', bound'⟩
    · rw [if_neg resumed]
      obtain ⟨flows', r', walked, cap', bound'⟩ := statsFlowLoop_counts currentTv rest
        { r with savedNextSockId := saved } cap bound
      exact ⟨f :: flows', r', by simp [walked], cap', bound'⟩

theorem statsReportRound_counts (currentTv : Int) (savedNextSockId : Nat) (st : StatsReportSt) :
    ∃ flows r, statsReportRound currentTv savedNextSockId st = some (flows, r) ∧
      r.flowCount ≤ cfilStatsReportMaxCount ∧ ∀ k, r.globals.counts k ≤ r.flowCount :=
  statsFlowLoop_counts currentTv _ _ (Nat.zero_le _) fun _ => le_refl 0

theorem mem_statsDispatchAll {g : StatsGlobals} {m : StatsDispatch} (mem : m ∈ statsDispatchAll g) :
    g.buffers m.kcunit = some m.buffer ∧ m.statsCount = g.counts m.kcunit ∧ 0 < m.statsCount := by
  obtain ⟨k, -, found⟩ := List.mem_filterMap.mp mem
  split at found
  · split_ifs at found with positive
    cases found
    exact ⟨‹_›, rfl, positive⟩
  · cases found

theorem statsDispatchAll_nodup (g : StatsGlobals) : ((statsDispatchAll g).map StatsDispatch.kcunit).Nodup := by
  rw [statsDispatchAll, List.map_filterMap]
  refine (List.nodup_finRange _).filterMap fun k k' j mem mem' => ?_
  have own : ∀ {k j}, j ∈ Option.map StatsDispatch.kcunit (match g.buffers k with
      | some buffer => if 0 < g.counts k then some ⟨k, buffer, g.counts k⟩ else none
      | none => none) → j = k := by
    intro k j mem
    split at mem
    · split_ifs at mem <;> simp_all
    · simp_all
  exact (own mem).symm.trans (own mem')

theorem statsDispatchAll_fits {g : StatsGlobals} (bound : ∀ k, g.counts k ≤ cfilStatsReportMaxCount)
    {m : StatsDispatch} (mem : m ∈ statsDispatchAll g) : 0 < m.statsCount ∧ m.statsCount ≤ m.buffer.stats.length := by
  obtain ⟨-, count, positive⟩ := mem_statsDispatchAll mem
  rw [m.buffer.length_stats, count]
  exact ⟨count ▸ positive, bound _⟩

theorem statsReportLoop_dispatches : ∀ (clock : List Int) (savedNextSockId : Nat) (st : StatsReportSt),
    ∃ st', statsReportLoop clock savedNextSockId st = some st' ∧
      ∀ m ∈ st'.dispatched, m ∈ st.dispatched ∨ 0 < m.statsCount ∧ m.statsCount ≤ m.buffer.stats.length
  | [], _, st => ⟨st, rfl, fun _ mem => .inl mem⟩
  | currentTv :: clock, savedNextSockId, st => by
    obtain ⟨flows, r, round, cap, bound⟩ := statsReportRound_counts currentTv savedNextSockId st
    have sent : ∀ m ∈ st.dispatched ++ statsDispatchAll r.globals,
        m ∈ st.dispatched ∨ 0 < m.statsCount ∧ m.statsCount ≤ m.buffer.stats.length := fun m mem =>
      (List.mem_append.mp mem).imp id (statsDispatchAll_fits (fun k => (bound k).trans cap))
    simp only [statsReportLoop, round]
    split_ifs with idle reported resumed
    · exact ⟨st, rfl, fun _ mem => .inl mem⟩
    · obtain ⟨st', looped, later⟩ := statsReportLoop_dispatches clock r.savedNextSockId
        { st with
          cfilSockHeadStats := flows, globals := r.globals,
          dispatched := st.dispatched ++ statsDispatchAll r.globals }
      exact ⟨st', looped, fun m mem => (later m mem).elim (sent m) .inr⟩
    · exact ⟨_, rfl, sent⟩
    · exact ⟨_, rfl, fun _ mem => .inl mem⟩

/-- The statistics batches never overflow their buffers, whatever the list and the resume
point. -/
theorem stats_batches_fit_buffers (currentTv : Int) (savedNextSockId : Nat) (st : StatsReportSt) :
    (∃ flows r, statsReportRound currentTv savedNextSockId st = some (flows, r) ∧
      (∀ k, r.globals.counts k ≤ cfilStatsReportMaxCount) ∧
      ((statsDispatchAll r.globals).map StatsDispatch.kcunit).Nodup ∧
      ∀ m ∈ statsDispatchAll r.globals, 0 < m.statsCount ∧ m.statsCount ≤ m.buffer.stats.length) ∧
    ∀ clock, ∃ st', statsReportLoop clock savedNextSockId st = some st' ∧
      ∀ m ∈ st'.dispatched, m ∈ st.dispatched ∨ 0 < m.statsCount ∧ m.statsCount ≤ m.buffer.stats.length := by
  obtain ⟨flows, r, round, cap, bound⟩ := statsReportRound_counts currentTv savedNextSockId st
  have capped : ∀ k, r.globals.counts k ≤ cfilStatsReportMaxCount := fun k => (bound k).trans cap
  exact ⟨⟨flows, r, round, capped, statsDispatchAll_nodup _, fun _ => statsDispatchAll_fits capped⟩,
    fun clock => statsReportLoop_dispatches clock savedNextSockId st⟩

end ContentFilter
