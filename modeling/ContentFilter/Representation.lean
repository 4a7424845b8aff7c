import ContentFilter.Frame
import Mathlib.Algebra.BigOperators.Group.Finset
import Mathlib.Data.Fintype.Fin
import Mathlib.Data.Multiset.OrderedMonoid
import Mathlib.Tactic.Abel

/-! The representation invariant of a flow, and the relation `Serviced` that servicing keeps. -/

namespace ContentFilter

/-- One direction of an entry: both queues well formed, the pending queue ending where
the control queue starts, and `q_start ≤ pass ≤ peek`, `q_start ≤ peeked ≤ peek`. -/
structure EntryBufInv (b : CfeBuf) : Prop where
  ctl : b.cfeCtlQ.Valid
  pending : b.cfePendingQ.Valid
  adjacent : b.cfePendingQ.qEnd = b.cfeCtlQ.qStart
  passFrom : b.cfeCtlQ.qStart ≤ b.cfePassOffset
  passPeek : b.cfePassOffset ≤ b.cfePeekOffset
  peekedFrom : b.cfeCtlQ.qStart ≤ b.cfePeeked
  peekedTo : b.cfePeeked ≤ b.cfePeekOffset

/-- The invariant of every entry buffer and flow buffer, and no check fired so far. -/
structure StructInv (s : FlowSt) : Prop where
  entries : ∀ k d, EntryBufInv (s.ebuf k d)
  inject : ∀ d, (s.ibuf d).cfiInjectQ.Valid
  window : ∀ d, (s.ibuf d).cfiPendingFirst ≤ (s.ibuf d).cfiPendingLast
  sane : s.panicked = false

/-- The shape the debug checks test, whether or not one has fired: `StructInv` without
its latch, which is what survives a failed `VERIFY` of the window's width. -/
structure Shaped (s : FlowSt) : Prop where
  entries : ∀ k d, EntryBufInv (s.ebuf k d)
  inject : ∀ d, (s.ibuf d).cfiInjectQ.Valid
  window : ∀ d, (s.ibuf d).cfiPendingFirst ≤ (s.ibuf d).cfiPendingLast

theorem StructInv.shaped {s : FlowSt} (inv : StructInv s) : Shaped s := ⟨inv.entries, inv.inject, inv.window⟩

theorem Shaped.structInv {s : FlowSt} (shaped : Shaped s) (sane : s.panicked = false) : StructInv s :=
  ⟨shaped.entries, shaped.inject, shaped.window, sane⟩

/-- The bytes one entry buffer holds. -/
def CfeBuf.held (b : CfeBuf) : Nat := b.cfeCtlQ.size + b.cfePendingQ.size

/-- The bytes a flow holds in one direction, in every entry and in `cfi_inject_q`. -/
def held (s : FlowSt) (d : Bool) : Nat := (∑ k : Kcunit, (s.ebuf k d).held) + (s.ibuf d).cfiInjectQ.size

/-- The chains one entry buffer holds. -/
def CfeBuf.chains (b : CfeBuf) : Multiset Chain := ↑b.cfeCtlQ.qMq + ↑b.cfePendingQ.qMq

/-- The chains a flow holds in one direction, in every entry and in `cfi_inject_q`. -/
def heldChains (s : FlowSt) (d : Bool) : Multiset Chain :=
  (∑ k : Kcunit, (s.ebuf k d).chains) + ↑(s.ibuf d).cfiInjectQ.qMq

theorem EntryBufInv.verify {b : CfeBuf} (inv : EntryBufInv b) : cfilEntryBufVerify b = true := by
  simp [cfilEntryBufVerify, inv.ctl.verify, inv.pending.verify, inv.adjacent, inv.passPeek,
    inv.peekedFrom]

theorem Shaped.infoVerify {s : FlowSt} (inv : Shaped s) : cfilInfoVerify s.info = true := by
  have entry : ∀ k d, cfilEntryBufVerify (s.ebuf k d) = true := fun k d => (inv.entries k d).verify
  have buf : ∀ d, cfilInfoBufVerify (s.ibuf d) = true := fun d => by
    simp [cfilInfoBufVerify, (inv.inject d).verify, inv.window d]
  have snd := fun k => entry k true
  have rcv := fun k => entry k false
  simp only [FlowSt.ebuf, FlowSt.entry, CfilEntry.buf, if_true, Bool.false_eq_true, if_false] at snd rcv
  have bufSnd := buf true
  have bufRcv := buf false
  simp only [FlowSt.ibuf, CfilInfo.buf, if_true, Bool.false_eq_true, if_false] at bufSnd bufRcv
  simp [cfilInfoVerify, bufSnd, bufRcv, snd, rcv]

theorem StructInv.infoVerify {s : FlowSt} (inv : StructInv s) : cfilInfoVerify s.info = true :=
  inv.shaped.infoVerify

@[simp] theorem Shaped.verifyInfo_eq {s : FlowSt} (inv : Shaped s) : s.verifyInfo = s := by
  simp [FlowSt.verifyInfo, inv.infoVerify]

@[simp] theorem StructInv.verifyInfo_eq {s : FlowSt} (inv : StructInv s) : s.verifyInfo = s :=
  inv.shaped.verifyInfo_eq

theorem verify_of {s : FlowSt} {c : Bool} (holds : c = true) : s.verify c = s := by
  simp [holds]

theorem held_setEbuf (s : FlowSt) (k : Kcunit) (d d' : Bool) (b : CfeBuf) :
    (held (s.setEbuf k d b) d' : ℤ) = held s d' + if d' = d then (b.held : ℤ) - (s.ebuf k d).held else 0 := by
  by_cases same : d' = d
  · subst same
    have split : ∀ f : Kcunit → Nat, ∑ j, f j = f k + ∑ j in Finset.univ.erase k, f j := fun f =>
      (Finset.add_sum_erase _ _ (Finset.mem_univ k)).symm
    have rest : ∑ j in Finset.univ.erase k, ((s.setEbuf k d' b).ebuf j d').held =
        ∑ j in Finset.univ.erase k, (s.ebuf j d').held :=
      Finset.sum_congr rfl fun j member => by simp [ebuf_setEbuf_apply, Finset.ne_of_mem_erase member]
    simp only [held, split, rest, ebuf_setEbuf, setEbuf_ibuf, if_true]
    push_cast
    omega
  · have other : ∀ j, (s.setEbuf k d b).ebuf j d' = s.ebuf j d' := fun j => by
      rw [ebuf_setEbuf_apply]; simp [same]
    simp [held, other, same]

theorem held_setIbuf (s : FlowSt) (d d' : Bool) (b : CfiBuf) :
    (held (s.setIbuf d b) d' : ℤ) =
      held s d' + if d' = d then (b.cfiInjectQ.size : ℤ) - (s.ibuf d).cfiInjectQ.size else 0 := by
  by_cases same : d' = d
  · subst same; simp [held]
  · simp [held, ibuf_setIbuf_apply, same]

theorem held_of_eventsOnly {s s' : FlowSt} (events : EventsOnly s s') (d : Bool) : held s' d = held s d := by
  simp [held, events.ebuf, events.ibuf]

theorem sum_map_finsetSum (μ : Chain → Nat) (m : Kcunit → Multiset Chain) :
    ((∑ k, m k).map μ).sum = ∑ k, ((m k).map μ).sum :=
  map_sum (Multiset.sumAddMonoidHom.comp (Multiset.mapAddMonoidHom μ)) m Finset.univ

theorem held_eq (s : FlowSt) (d : Bool) : held s d = ((heldChains s d).map dataLen).sum := by
  simp [held, heldChains, CfeBuf.held, CfeBuf.chains, CfilQueue.size, sum_map_finsetSum]

theorem heldChains_setEbuf (s : FlowSt) (k : Kcunit) (d d' : Bool) (b : CfeBuf) :
    heldChains (s.setEbuf k d b) d' + (if d' = d then (s.ebuf k d).chains else 0) =
      heldChains s d' + if d' = d then b.chains else 0 := by
  by_cases same : d' = d
  · subst same
    have split : ∀ f : Kcunit → Multiset Chain, ∑ j, f j = f k + ∑ j in Finset.univ.erase k, f j := fun f =>
      (Finset.add_sum_erase _ _ (Finset.mem_univ k)).symm
    have rest : ∑ j in Finset.univ.erase k, ((s.setEbuf k d' b).ebuf j d').chains =
        ∑ j in Finset.univ.erase k, (s.ebuf j d').chains :=
      Finset.sum_congr rfl fun j member => by simp [ebuf_setEbuf_apply, Finset.ne_of_mem_erase member]
    simp only [heldChains, split, rest, ebuf_setEbuf, setEbuf_ibuf, if_true]
    abel
  · have other : ∀ j, (s.setEbuf k d b).ebuf j d' = s.ebuf j d' := fun j => by
      rw [ebuf_setEbuf_apply]; simp [same]
    simp [heldChains, other, same]

theorem heldChains_setIbuf (s : FlowSt) (d d' : Bool) (b : CfiBuf) :
    heldChains (s.setIbuf d b) d' + (if d' = d then ↑(s.ibuf d).cfiInjectQ.qMq else 0) =
      heldChains s d' + if d' = d then ↑b.cfiInjectQ.qMq else 0 := by
  by_cases same : d' = d
  · subst same; simp [heldChains]; abel
  · simp [heldChains, ibuf_setIbuf_apply, same]

theorem heldChains_setIbuf_keeping {s : FlowSt} {d : Bool} {b : CfiBuf} (inject : b.cfiInjectQ = (s.ibuf d).cfiInjectQ)
    (d' : Bool) : heldChains (s.setIbuf d b) d' = heldChains s d' := by
  have written := heldChains_setIbuf s d d' b
  rw [inject] at written
  exact add_right_cancel written

theorem heldChains_of_bufs {s s' : FlowSt} (ebuf : ∀ k d, s'.ebuf k d = s.ebuf k d) (ibuf : ∀ d, s'.ibuf d = s.ibuf d)
    (d : Bool) : heldChains s' d = heldChains s d := by
  simp [heldChains, ebuf, ibuf]

theorem heldChains_of_eventsOnly {s s' : FlowSt} (events : EventsOnly s s') (d : Bool) :
    heldChains s' d = heldChains s d :=
  heldChains_of_bufs events.ebuf events.ibuf d

/-- What a step of servicing in direction `d` may do: keep the invariant, change the
bytes held in direction `d` by `n` and in the other direction not at all, and leave
both pending windows, the flags of `FlowSt.tailFlags` and every entry's filter alone. -/
structure Serviced (d : Bool) (n : ℤ) (s s' : FlowSt) : Prop where
  inv : StructInv s'
  held : ∀ d', (held s' d' : ℤ) = held s d' + if d' = d then n else 0
  first : ∀ d', (s'.ibuf d').cfiPendingFirst = (s.ibuf d').cfiPendingFirst
  last : ∀ d', (s'.ibuf d').cfiPendingLast = (s.ibuf d').cfiPendingLast
  tailFlags : s'.tailFlags = s.tailFlags
  cfeFilter : ∀ k, (s'.entry k).cfeFilter = (s.entry k).cfeFilter

namespace Serviced

variable {d : Bool} {s s₁ s₂ s₃ : FlowSt}

theorem shutWr {n : ℤ} (serviced : Serviced d n s s') : s'.info.cfiFlags.shutWr = s.info.cfiFlags.shutWr :=
  congrArg Prod.fst serviced.tailFlags

theorem refl (inv : StructInv s) : Serviced d 0 s s := ⟨inv, by simp, fun _ => rfl, fun _ => rfl, rfl, fun _ => rfl⟩

theorem trans {n₁ n₂ : ℤ} (first : Serviced d n₁ s₁ s₂) (second : Serviced d n₂ s₂ s₃) :
    Serviced d (n₁ + n₂) s₁ s₃ where
  inv := second.inv
  held d' := by rw [second.held, first.held]; split <;> omega
  first d' := (second.first d').trans (first.first d')
  last d' := (second.last d').trans (first.last d')
  tailFlags := second.tailFlags.trans first.tailFlags
  cfeFilter k := (second.cfeFilter k).trans (first.cfeFilter k)

theorem of_eventsOnly (inv : StructInv s) (events : EventsOnly s s') : Serviced d 0 s s' where
  inv := ⟨fun k d => events.ebuf k d ▸ inv.entries k d, fun d => events.ibuf d ▸ inv.inject d,
    fun d => events.ibuf d ▸ inv.window d, events.panicked ▸ inv.sane⟩
  held d' := by simp [held_of_eventsOnly events]
  first d' := by rw [events.ibuf]
  last d' := by rw [events.ibuf]
  tailFlags := events.tailFlags
  cfeFilter := events.cfeFilter

theorem verifyInfo {n : ℤ} (serviced : Serviced d n s s') : Serviced d n s s'.verifyInfo := by
  rwa [serviced.inv.verifyInfo_eq]

theorem setEbuf (inv : StructInv s) (k : Kcunit) (b : CfeBuf) (entry : EntryBufInv b) :
    Serviced d ((b.held : ℤ) - (s.ebuf k d).held) s (s.setEbuf k d b) where
  inv := ⟨fun j d' => by rw [ebuf_setEbuf_apply]; split <;> simp_all [inv.entries],
    fun d' => by simpa using inv.inject d', fun d' => by simpa using inv.window d', by simpa using inv.sane⟩
  held d' := held_setEbuf _ _ _ _ _
  first _ := rfl
  last _ := rfl
  tailFlags := rfl
  cfeFilter _ := setEbuf_cfeFilter _ _ _ _ _

theorem setInject (inv : StructInv s) (q : CfilQueue) (valid : q.Valid) :
    Serviced d ((q.size : ℤ) - (s.ibuf d).cfiInjectQ.size) s (s.setQueue (.inject d) q) where
  inv := ⟨fun j d' => by simpa using inv.entries j d',
    fun d' => by rw [ibuf_setQueue_inject]; split <;> simp_all [inv.inject],
    fun d' => by rw [ibuf_setQueue_inject]; split <;> simp_all [inv.window], by simpa using inv.sane⟩
  held d' := held_setIbuf _ _ _ _
  first d' := by rw [ibuf_setQueue_inject]; split <;> simp_all
  last d' := by rw [ibuf_setQueue_inject]; split <;> simp_all
  tailFlags := by simp [FlowSt.tailFlags, FlowSt.delayedDead, FlowSt.delayedTcpTimeWait]
  cfeFilter _ := cfeFilter_setQueue _ _ _ _

end Serviced

theorem held_add_eq {s s' : FlowSt} {d : Bool} {g l : Multiset Chain} (h : heldChains s' d + l = heldChains s d + g) :
    (held s' d : ℤ) = held s d + (((g.map dataLen).sum : ℤ) - (l.map dataLen).sum) := by
  have := congrArg (fun m => ((m.map dataLen).sum : ℤ)) h
  simp only [Multiset.map_add, Multiset.sum_add, Nat.cast_add, ← held_eq] at this
  omega

/-- What a step of servicing in direction `d` does to the chains a flow holds: `gained` more
and `lost` fewer, every counter kept. -/
structure Moves (d : Bool) (gained lost : Multiset Chain) (s s' : FlowSt) : Prop where
  shaped : Shaped s'
  chains : ∀ d', heldChains s' d' + (if d' = d then lost else 0) = heldChains s d' + if d' = d then gained else 0
  first : ∀ d', (s'.ibuf d').cfiPendingFirst = (s.ibuf d').cfiPendingFirst
  last : ∀ d', (s'.ibuf d').cfiPendingLast = (s.ibuf d').cfiPendingLast
  mbcnt : ∀ d', (s'.ibuf d').cfiPendingMbcnt = (s.ibuf d').cfiPendingMbcnt
  panicked : s'.panicked = s.panicked
  tailFlags : s'.tailFlags = s.tailFlags
  cfeFilter : ∀ k, (s'.entry k).cfeFilter = (s.entry k).cfeFilter

namespace Moves

variable {d : Bool} {s s' s₁ s₂ s₃ : FlowSt} {g l x : Multiset Chain}

theorem shutWr (moves : Moves d g l s s') : s'.info.cfiFlags.shutWr = s.info.cfiFlags.shutWr :=
  congrArg Prod.fst moves.tailFlags

theorem refl (shaped : Shaped s) : Moves d 0 0 s s :=
  ⟨shaped, fun _ => rfl, fun _ => rfl, fun _ => rfl, fun _ => rfl, rfl, rfl, fun _ => rfl⟩

theorem trans {g₁ l₁ g₂ l₂ : Multiset Chain} (first : Moves d g₁ l₁ s₁ s₂) (second : Moves d g₂ l₂ s₂ s₃) :
    Moves d (g₁ + g₂) (l₁ + l₂) s₁ s₃ where
  shaped := second.shaped
  chains d' := by
    have h₁ := first.chains d'
    have h₂ := second.chains d'
    by_cases same : d' = d
    · simp only [same, if_true] at h₁ h₂ ⊢
      calc heldChains s₃ d + (l₁ + l₂) = heldChains s₃ d + l₂ + l₁ := by abel
        _ = heldChains s₂ d + l₁ + g₂ := by rw [h₂]; abel
        _ = heldChains s₁ d + (g₁ + g₂) := by rw [h₁]; abel
    · simp only [same, if_false, add_zero] at h₁ h₂ ⊢
      exact h₂.trans h₁
  first d' := (second.first d').trans (first.first d')
  last d' := (second.last d').trans (first.last d')
  mbcnt d' := (second.mbcnt d').trans (first.mbcnt d')
  panicked := second.panicked.trans first.panicked
  tailFlags := second.tailFlags.trans first.tailFlags
  cfeFilter k := (second.cfeFilter k).trans (first.cfeFilter k)

theorem cancel (moves : Moves d (g + x) (l + x) s s') : Moves d g l s s' :=
  { moves with
    chains := fun d' => by
      have h := moves.chains d'
      by_cases same : d' = d
      · simp only [same, if_true, ← add_assoc] at h ⊢
        exact add_right_cancel h
      · simpa [same] using h }

theorem rebalance {g' l' : Multiset Chain} (moves : Moves d g l s s') (same : g + l' = g' + l) :
    Moves d g' l' s s' :=
  { moves with
    chains := fun d' => by
      have h := moves.chains d'
      by_cases here : d' = d
      · simp only [here, if_true] at h ⊢
        refine add_right_cancel (b := l) ?_
        calc heldChains s' d + l' + l = heldChains s' d + l + l' := by abel
          _ = heldChains s d + (g + l') := by rw [h]; abel
          _ = heldChains s d + g' + l := by rw [same]; abel
      · simpa [here] using h }

theorem of_eq {g' l' : Multiset Chain} (gained : g = g') (lost : l = l') (moves : Moves d g l s s') :
    Moves d g' l' s s' :=
  gained ▸ lost ▸ moves

theorem of_eventsOnly (shaped : Shaped s) (events : EventsOnly s s') : Moves d 0 0 s s' where
  shaped := ⟨fun k d => events.ebuf k d ▸ shaped.entries k d, fun d => events.ibuf d ▸ shaped.inject d,
    fun d => events.ibuf d ▸ shaped.window d⟩
  chains d' := by simp [heldChains_of_eventsOnly events]
  first d' := by rw [events.ibuf]
  last d' := by rw [events.ibuf]
  mbcnt d' := by rw [events.ibuf]
  panicked := events.panicked
  tailFlags := events.tailFlags
  cfeFilter := events.cfeFilter

theorem verifyInfo (moves : Moves d g l s s') : Moves d g l s s'.verifyInfo := by
  rwa [moves.shaped.verifyInfo_eq]

theorem setEbuf (shaped : Shaped s) (k : Kcunit) (b : CfeBuf) (entry : EntryBufInv b) :
    Moves d b.chains (s.ebuf k d).chains s (s.setEbuf k d b) where
  shaped := ⟨fun j d' => by rw [ebuf_setEbuf_apply]; split <;> simp_all [shaped.entries],
    fun d' => by simpa using shaped.inject d', fun d' => by simpa using shaped.window d'⟩
  chains _ := heldChains_setEbuf _ _ _ _ _
  first _ := rfl
  last _ := rfl
  mbcnt _ := rfl
  panicked := rfl
  tailFlags := rfl
  cfeFilter _ := setEbuf_cfeFilter _ _ _ _ _

theorem setEbuf_keeping (shaped : Shaped s) (k : Kcunit) (b : CfeBuf) (entry : EntryBufInv b)
    (same : b.chains = (s.ebuf k d).chains) : Moves d 0 0 s (s.setEbuf k d b) :=
  ((setEbuf shaped k b entry).of_eq (same.trans (zero_add _).symm) (zero_add _).symm).cancel

theorem setInject (shaped : Shaped s) (q : CfilQueue) (valid : q.Valid) :
    Moves d ↑q.qMq ↑(s.ibuf d).cfiInjectQ.qMq s (s.setQueue (.inject d) q) where
  shaped := ⟨fun j d' => by simpa using shaped.entries j d',
    fun d' => by rw [ibuf_setQueue_inject]; split <;> simp_all [shaped.inject],
    fun d' => by rw [ibuf_setQueue_inject]; split <;> simp_all [shaped.window]⟩
  chains _ := heldChains_setIbuf _ _ _ _
  first d' := by rw [ibuf_setQueue_inject]; split <;> simp_all
  last d' := by rw [ibuf_setQueue_inject]; split <;> simp_all
  mbcnt d' := by rw [ibuf_setQueue_inject]; split <;> simp_all
  panicked := by simp
  tailFlags := by simp [FlowSt.tailFlags, FlowSt.delayedDead, FlowSt.delayedTcpTimeWait]
  cfeFilter _ := cfeFilter_setQueue _ _ _ _

theorem serviced (moves : Moves d g l s s') (sane : s.panicked = false) :
    Serviced d (((g.map dataLen).sum : ℤ) - (l.map dataLen).sum) s s' where
  inv := moves.shaped.structInv (moves.panicked.trans sane)
  held d' := by
    have chains := moves.chains d'
    by_cases same : d' = d
    · subst same
      simp only [if_true] at chains ⊢
      exact held_add_eq chains
    · simp only [same, if_false, add_zero] at chains ⊢
      rw [held_eq, held_eq, chains]
  first := moves.first
  last := moves.last
  tailFlags := moves.tailFlags
  cfeFilter := moves.cfeFilter

end Moves

end ContentFilter
