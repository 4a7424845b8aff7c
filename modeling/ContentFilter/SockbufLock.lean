import ContentFilter.StatsReport
import Mathlib.Data.Finset.Card

/-! `cfil_acquire_sockbuf` and `cfil_release_sockbuf` as a system of threads, each stretch
between two sleeps one atomic step. -/

namespace ContentFilter

/-- A kernel thread, `thread_t`. -/
abbrev Thread := Nat

/-- The fields of `struct sockbuf` the two calls use: `SB_LOCK` of `sb_flags`,
`sb_cfil_thread` (`none` for `NULL`), `sb_cfil_refs`, and `sb_wantlock`. -/
structure Sockbuf where
  sbLock : Bool := false
  sbCfilThread : Option Thread := none
  sbCfilRefs : Nat := 0
  sbWantlock : Nat := 0
  deriving DecidableEq, Repr

/-- The test of `cfil_acquire_sockbuf`'s wait loop for thread `tp`. -/
def Sockbuf.busy (sb : Sockbuf) (tp : Thread) : Bool :=
  sb.sbLock || (sb.sbCfilThread.isSome && sb.sbCfilThread != some tp)

/-- Where a thread is: running (outside both calls, or holding the sockbuf), asleep in the
`msleep` of the wait loop, or woken by `wakeup` and about to return from `msleep`. -/
inductive SbPc where
  | running
  | asleep
  | woken
  deriving DecidableEq, Repr

/-- A sockbuf with the threads that use it; `soDefunct` is `SOF_DEFUNCT` of the socket,
which `cfil_release_sockbuf` reads, and `panicked` latches a failed `VERIFY` or a panic. -/
structure SockbufSys where
  sb : Sockbuf := {}
  soDefunct : Bool := false
  pc : Thread → SbPc := fun _ => .running
  nesting : Thread → Nat := fun _ => 0
  panicked : Bool := false

namespace SockbufSys

variable (s : SockbufSys) (tp : Thread)

/-- The wait loop's body: count the waiter, `VERIFY(sb->sb_wantlock != 0)`, and sleep. -/
def sleep : SockbufSys :=
  { s with sb := { s.sb with sbWantlock := s.sb.sbWantlock + 1 }, pc := Function.update s.pc tp .asleep,
           panicked := s.panicked || s.sb.sbWantlock + 1 == 0 }

/-- The code after the wait loop: on the first reference, `VERIFY` that no thread holds
the sockbuf and `SB_LOCK` is clear, then take both; count the reference, and return. -/
def take : SockbufSys :=
  let (sb, ok) := if s.sb.sbCfilRefs = 0 then
      ({ s.sb with sbCfilThread := some tp, sbLock := true }, s.sb.sbCfilThread.isNone && !s.sb.sbLock)
    else (s.sb, true)
  { s with sb := { sb with sbCfilRefs := sb.sbCfilRefs + 1 }, pc := Function.update s.pc tp .running,
           nesting := Function.update s.nesting tp (s.nesting tp + 1), panicked := s.panicked || !ok }

/-- The loop test, then a sleep or the rest of the call. -/
def wait : SockbufSys := if s.sb.busy tp then s.sleep tp else s.take tp

/-- A thread back from `msleep`: `VERIFY(sb->sb_wantlock != 0)`, uncount itself, and test
again. -/
def afterSleep : SockbufSys :=
  ({ s with sb := { s.sb with sbWantlock := s.sb.sbWantlock - 1 },
            panicked := s.panicked || s.sb.sbWantlock == 0 } : SockbufSys).wait tp

/-- `wakeup(&sb->sb_flags)`: every sleeper is woken. -/
def wakeup : SockbufSys :=
  { s with pc := fun t => if s.pc t = .asleep then .woken else s.pc t }

/-- The two panics of `cfil_release_sockbuf`: another thread holds the sockbuf, or
`SB_LOCK` is clear on a socket that is not defunct. -/
def releasePanics : Bool :=
  (s.sb.sbCfilThread.isSome && s.sb.sbCfilThread != some tp) || (!s.soDefunct && !s.sb.sbLock)

/-- `cfil_release_sockbuf`: drop a reference (`sb_cfil_refs` is 32 bits), and on the last
one give the sockbuf up and wake the waiters. -/
def cfilReleaseSockbuf : SockbufSys :=
  let refs := if s.sb.sbCfilRefs = 0 then 2 ^ 32 - 1 else s.sb.sbCfilRefs - 1
  let s' := { s with nesting := Function.update s.nesting tp (s.nesting tp - 1),
                     panicked := s.panicked || s.releasePanics tp }
  if refs = 0 then
    let s' := { s' with sb := { s.sb with sbCfilRefs := 0, sbCfilThread := none, sbLock := false } }
    if 0 < s.sb.sbWantlock then s'.wakeup else s'
  else { s' with sb := { s.sb with sbCfilRefs := refs } }

end SockbufSys

/-- What `cfil_acquire_sockbuf` returns once it holds the sockbuf: `EPIPE` on a dropped
flow, 0 otherwise, also when the flow is already gone. -/
def cfilAcquireSockbufError (cfilInfo : Option CfilInfo) : Errno :=
  match cfilInfo with
  | some info => if info.cfiFlags.drop then .epipe else .ok
  | none => .ok

/-- The steps of the threads: a running thread calls `cfil_acquire_sockbuf`, a woken one
returns from `msleep`, a running thread releases a reference it holds. -/
inductive SbOp where
  | acquire (tp : Thread)
  | resume (tp : Thread)
  | release (tp : Thread)
  deriving DecidableEq, Repr

namespace SockbufSys

/-- One step, `none` when the thread cannot take it. -/
def step (s : SockbufSys) : SbOp → Option SockbufSys
  | .acquire tp => if s.pc tp = .running then some (s.wait tp) else none
  | .resume tp => if s.pc tp = .woken then some (s.afterSleep tp) else none
  | .release tp => if s.pc tp = .running ∧ 0 < s.nesting tp then some (s.cfilReleaseSockbuf tp) else none

/-- A schedule of steps, `none` when one cannot be taken. -/
def run (s : SockbufSys) : List SbOp → Option SockbufSys
  | [] => some s
  | op :: ops => (s.step op).bind fun s => s.run ops

end SockbufSys

/-- The states reached from an idle sockbuf by any interleaving of the threads' steps. -/
inductive SockbufReachable : SockbufSys → Prop
  | init (soDefunct : Bool) : SockbufReachable { soDefunct }
  | step {s s' : SockbufSys} (op : SbOp) : SockbufReachable s → s.step op = some s' → SockbufReachable s'

/-- `sb_cfil_thread` is the one thread with a positive nesting and `sb_cfil_refs` its
nesting, at most 1; `SB_LOCK` is set exactly while a reference is held; `sb_wantlock`
counts the threads in the wait loop; nothing has fired. -/
structure LockInv (s : SockbufSys) : Prop where
  owner : ∀ t, 0 < s.nesting t ↔ s.sb.sbCfilThread = some t
  refs : ∀ t, s.sb.sbCfilThread = some t → s.sb.sbCfilRefs = s.nesting t
  free : s.sb.sbCfilThread = none → s.sb.sbCfilRefs = 0
  lock : s.sb.sbLock = true ↔ 0 < s.sb.sbCfilRefs
  single : s.sb.sbCfilRefs ≤ 1
  waiters : ∃ ws : Finset Thread, (∀ t, t ∈ ws ↔ s.pc t ≠ .running) ∧ s.sb.sbWantlock = ws.card
  sane : s.panicked = false

namespace LockInv

variable {s : SockbufSys} {tp : Thread}

theorem init (soDefunct : Bool) : LockInv { soDefunct } where
  owner _ := by simp
  refs _ held := by cases held
  free _ := rfl
  lock := by simp
  single := by simp
  waiters := ⟨∅, by simp, rfl⟩
  sane := rfl

theorem busy_of_held (inv : LockInv s) {t : Thread} (held : 0 < s.nesting t) (tp : Thread) : s.sb.busy tp = true := by
  have locked : s.sb.sbLock = true := inv.lock.mpr (by rw [inv.refs t ((inv.owner t).mp held)]; exact held)
  simp [Sockbuf.busy, locked]

theorem idle_of_not_busy (inv : LockInv s) (free : s.sb.busy tp = false) :
    s.sb.sbLock = false ∧ s.sb.sbCfilRefs = 0 ∧ s.sb.sbCfilThread = none ∧ ∀ t, s.nesting t = 0 := by
  have unlocked : s.sb.sbLock = false := by simp_all [Sockbuf.busy]
  have noRefs : s.sb.sbCfilRefs = 0 := by
    by_contra held
    exact absurd (inv.lock.mpr (Nat.pos_of_ne_zero held)) (by simp [unlocked])
  have nobody : ∀ t, s.nesting t = 0 := fun t => by
    by_contra held
    have owner := (inv.owner t).mp (Nat.pos_of_ne_zero held)
    exact held ((inv.refs t owner).symm.trans noRefs)
  refine ⟨unlocked, noRefs, ?_, nobody⟩
  cases owner : s.sb.sbCfilThread with
  | none => rfl
  | some t => exact absurd ((inv.owner t).mpr owner) (by simp [nobody t])

theorem wait_pc_update (s : SockbufSys) (tp : Thread) (p : SbPc) :
    ({ s with pc := Function.update s.pc tp p } : SockbufSys).wait tp = s.wait tp := by
  unfold SockbufSys.wait SockbufSys.sleep SockbufSys.take
  simp only [Function.update_idem]

theorem wait (inv : LockInv s) (running : s.pc tp = .running) : LockInv (s.wait tp) := by
  obtain ⟨ws, waiting, count⟩ := inv.waiters
  unfold SockbufSys.wait
  split
  · rename_i busy
    have outside : tp ∉ ws := by simp [waiting, running]
    refine ⟨inv.owner, inv.refs, inv.free, inv.lock, inv.single, ⟨insert tp ws, fun t => ?_, ?_⟩, ?_⟩
    · by_cases same : t = tp
      · subst t; simp [SockbufSys.sleep]
      · simp [SockbufSys.sleep, same, waiting]
    · simp [SockbufSys.sleep, count, Finset.card_insert_of_not_mem outside]
    · simp [SockbufSys.sleep, inv.sane]
  · rename_i free
    obtain ⟨unlocked, noRefs, nobody, zero⟩ := inv.idle_of_not_busy (Bool.eq_false_iff.mpr free)
    have pcs : Function.update s.pc tp .running = s.pc := by rw [← running]; exact Function.update_eq_self _ _
    simp only [SockbufSys.take, noRefs, nobody, unlocked, if_true, pcs]
    refine ⟨fun t => ?_, fun t held => ?_, fun held => (nomatch held), by simp, by simp,
      ⟨ws, waiting, count⟩, by simp [inv.sane]⟩
    · by_cases same : t = tp
      · subst t; simp
      · simp [same, zero t, Ne.symm same]
    · cases held; simp [zero]

theorem afterSleep (inv : LockInv s) (woken : s.pc tp = .woken) : LockInv (s.afterSleep tp) := by
  obtain ⟨ws, waiting, count⟩ := inv.waiters
  have inside : tp ∈ ws := by simp [waiting, woken]
  have positive : 0 < s.sb.sbWantlock := by rw [count]; exact Finset.card_pos.mpr ⟨tp, inside⟩
  let s₁ : SockbufSys := { s with
    sb := { s.sb with sbWantlock := s.sb.sbWantlock - 1 }
    pc := Function.update s.pc tp .running }
  have back : s.afterSleep tp = s₁.wait tp := by
    have quiet : (s.sb.sbWantlock == 0) = false := by simpa using Nat.pos_iff_ne_zero.mp positive
    simp only [SockbufSys.afterSleep, quiet, Bool.or_false]
    exact (wait_pc_update _ tp .running).symm
  rw [back]
  refine wait ⟨inv.owner, inv.refs, inv.free, inv.lock, inv.single, ⟨ws.erase tp, fun t => ?_, ?_⟩, inv.sane⟩ (by simp [s₁])
  · by_cases same : t = tp
    · subst t; simp [s₁]
    · simp [s₁, same, waiting]
  · simp [s₁, Finset.card_erase_of_mem inside, count]

theorem releasePanics_eq (inv : LockInv s) (held : 0 < s.nesting tp) : s.releasePanics tp = false := by
  have owner := (inv.owner tp).mp held
  have locked : s.sb.sbLock = true := inv.lock.mpr (by rw [inv.refs tp owner]; exact held)
  simp [SockbufSys.releasePanics, owner, locked]

theorem release (inv : LockInv s) (held : 0 < s.nesting tp) : LockInv (s.cfilReleaseSockbuf tp) := by
  obtain ⟨ws, waiting, count⟩ := inv.waiters
  have owner := (inv.owner tp).mp held
  have one : s.nesting tp = 1 := by have := inv.single; rw [inv.refs tp owner] at this; omega
  have refs : s.sb.sbCfilRefs = 1 := (inv.refs tp owner).trans one
  have only : ∀ t, t ≠ tp → s.nesting t = 0 := fun t other => by
    by_contra positive
    exact other (Option.some.inj (((inv.owner t).mp (Nat.pos_of_ne_zero positive)).symm.trans owner))
  have nests : Function.update s.nesting tp (s.nesting tp - 1) = fun _ => 0 := by
    funext t
    by_cases same : t = tp
    · subst t; simp [one]
    · simp [same, only t same]
  have quiet := inv.releasePanics_eq held
  have freed : LockInv { s with
      sb := { s.sb with sbCfilRefs := 0, sbCfilThread := none, sbLock := false }
      nesting := fun _ => 0, panicked := s.panicked || s.releasePanics tp } :=
    ⟨by simp, fun _ none => (nomatch none), fun _ => rfl, by simp, by simp, ⟨ws, waiting, count⟩,
      by simp [inv.sane, quiet]⟩
  have last : (if s.sb.sbCfilRefs = 0 then 2 ^ 32 - 1 else s.sb.sbCfilRefs - 1) = 0 := by simp [refs]
  rw [SockbufSys.cfilReleaseSockbuf]
  dsimp only
  rw [if_pos last, nests]
  split
  · refine ⟨freed.owner, freed.refs, freed.free, freed.lock, freed.single, ⟨ws, fun t => ?_, count⟩, freed.sane⟩
    rw [waiting t]
    simp only [SockbufSys.wakeup]
    split <;> simp_all
  · exact freed

theorem step (inv : LockInv s) {s' : SockbufSys} : ∀ op, s.step op = some s' → LockInv s'
  | .acquire tp, stepped => by
    simp only [SockbufSys.step] at stepped
    split at stepped
    · cases stepped; exact inv.wait ‹_›
    · cases stepped
  | .resume tp, stepped => by
    simp only [SockbufSys.step] at stepped
    split at stepped
    · cases stepped; exact inv.afterSleep ‹_›
    · cases stepped
  | .release tp, stepped => by
    simp only [SockbufSys.step] at stepped
    split at stepped
    · cases stepped; exact inv.release ‹_ ∧ _›.2
    · cases stepped

end LockInv

theorem SockbufReachable.lockInv {s : SockbufSys} (reach : SockbufReachable s) : LockInv s := by
  induction reach with
  | init soDefunct => exact .init soDefunct
  | step op _ stepped ih => exact ih.step op stepped

/-- Thread `t` holds the sockbuf and is in the wait loop. -/
def SockbufSys.SelfWaits (s : SockbufSys) (t : Thread) : Prop := s.pc t ≠ .running ∧ 0 < s.nesting t

namespace LockInv

variable {s : SockbufSys} {t : Thread}

theorem wait_of_held (inv : LockInv s) (held : 0 < s.nesting t) (tp : Thread) : s.wait tp = s.sleep tp := by
  simp [SockbufSys.wait, inv.busy_of_held held tp]

theorem reacquire_sleeps (inv : LockInv s) (held : 0 < s.nesting t) (running : s.pc t = .running) :
    s.step (.acquire t) = some (s.sleep t) := by
  simp [SockbufSys.step, running, inv.wait_of_held held]

theorem selfWaits_step (inv : LockInv s) (stuck : s.SelfWaits t) {s' : SockbufSys} :
    ∀ op, s.step op = some s' → s'.SelfWaits t
  | .acquire tp, stepped => by
    simp only [SockbufSys.step] at stepped
    split at stepped
    · rename_i running
      have other : t ≠ tp := fun same => stuck.1 (same ▸ running)
      cases stepped
      rw [inv.wait_of_held stuck.2]
      simpa [SockbufSys.SelfWaits, SockbufSys.sleep, other] using stuck
    · cases stepped
  | .resume tp, stepped => by
    simp only [SockbufSys.step] at stepped
    split at stepped
    · cases stepped
      have locked := inv.busy_of_held stuck.2 tp
      simp only [SockbufSys.afterSleep, SockbufSys.wait, Sockbuf.busy] at locked ⊢
      rw [if_pos locked]
      by_cases same : t = tp
      · subst t; simpa [SockbufSys.SelfWaits, SockbufSys.sleep] using stuck.2
      · simpa [SockbufSys.SelfWaits, SockbufSys.sleep, same] using stuck
    · cases stepped
  | .release tp, stepped => by
    simp only [SockbufSys.step] at stepped
    split at stepped
    · rename_i enabled
      have same : tp = t := Option.some.inj (((inv.owner tp).mp enabled.2).symm.trans ((inv.owner t).mp stuck.2))
      exact absurd (same ▸ enabled.1) stuck.1
    · cases stepped

end LockInv

theorem SockbufReachable.selfWaits_run {s : SockbufSys} (reach : SockbufReachable s) {t : Thread}
    (stuck : s.SelfWaits t) : ∀ ops s', s.run ops = some s' → s'.SelfWaits t
  | [], _, ran => by cases ran; exact stuck
  | op :: ops, s', ran => by
    simp only [SockbufSys.run, Option.bind_eq_some] at ran
    obtain ⟨s₁, stepped, rest⟩ := ran
    exact (reach.step op stepped).selfWaits_run (reach.lockInv.selfWaits_step stuck op stepped) ops s' rest

/-- Under any interleaving the sockbuf hold is exclusive with `sb_cfil_refs` at most 1, and
a holder that acquires again sleeps for good. -/
theorem sockbuf_hold_exclusive_not_reentrant {s : SockbufSys} (reach : SockbufReachable s) :
    (∀ t t', 0 < s.nesting t → 0 < s.nesting t' → t = t') ∧
    (∀ t, 0 < s.nesting t → s.sb.sbCfilThread = some t ∧ s.sb.sbCfilRefs = s.nesting t) ∧
    (s.sb.sbLock = true ↔ 0 < s.sb.sbCfilRefs) ∧ s.sb.sbCfilRefs ≤ 1 ∧
    s.panicked = false ∧ (∀ t, 0 < s.nesting t → s.releasePanics t = false) ∧
    ∀ t, 0 < s.nesting t → s.pc t = .running →
      ∃ s', s.step (.acquire t) = some s' ∧ s'.pc t = .asleep ∧ s'.nesting t = s.nesting t ∧
        ∀ ops s'', s'.run ops = some s'' → s''.pc t ≠ .running := by
  have inv := reach.lockInv
  refine ⟨fun t t' held held' => Option.some.inj (((inv.owner t).mp held).symm.trans ((inv.owner t').mp held')),
    fun t held => ⟨(inv.owner t).mp held, inv.refs t ((inv.owner t).mp held)⟩, inv.lock, inv.single, inv.sane,
    fun t held => inv.releasePanics_eq held, fun t held running => ⟨s.sleep t, inv.reacquire_sleeps held running,
      by simp [SockbufSys.sleep], rfl, fun ops s'' ran => ?_⟩⟩
  have asleep : (s.sleep t).SelfWaits t := ⟨by simp [SockbufSys.sleep], held⟩
  exact ((reach.step _ (inv.reacquire_sleeps held running)).selfWaits_run asleep ops s'' ran).1

/-- Thread 1 holding the sockbuf, from an idle one. -/
def oneHolder : SockbufSys := ({} : SockbufSys).wait 1

theorem oneHolder_refs_single : SockbufReachable oneHolder ∧ oneHolder.sb.sbCfilRefs ≤ 1 :=
  have reach : SockbufReachable oneHolder := .step (.acquire 1) (.init false) rfl
  ⟨reach, (sockbuf_hold_exclusive_not_reentrant reach).2.2.2.1⟩

/-- Thread 1 holds the sockbuf with one reference and acquires it again: it does not get a
second reference but sleeps, waiting on itself, and no schedule of any threads ever lets it
run again. -/
theorem holder_reacquire_waits_on_itself :
    SockbufReachable oneHolder ∧ oneHolder.nesting 1 = 1 ∧ oneHolder.sb.sbCfilRefs = 1 ∧
      ∃ s, oneHolder.step (.acquire 1) = some s ∧ s.pc 1 = .asleep ∧ s.sb.sbCfilRefs = 1 ∧
        ∀ ops s', s.run ops = some s' → s'.pc 1 ≠ .running :=
  have reach : SockbufReachable oneHolder := .step (.acquire 1) (.init false) rfl
  have stepped : oneHolder.step (.acquire 1) = some (oneHolder.sleep 1) := rfl
  have asleep : (oneHolder.sleep 1).SelfWaits 1 := ⟨by decide, by decide⟩
  ⟨reach, rfl, rfl, _, stepped, rfl, rfl, fun ops s' ran => ((reach.step _ stepped).selfWaits_run asleep ops s' ran).1⟩

end ContentFilter
