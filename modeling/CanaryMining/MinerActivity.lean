import CanaryMining.Lib.Run
import CanaryMining.MinerStats
import Mathlib.Data.Finset.Card
import Mathlib.Data.Fintype.EquivFin
import Mathlib.Logic.Function.Basic

/-!
# The idle gate

The template monitor asks the node for nothing while no miner is connected: it
tests the count of connected miners and waits to be notified when the count is
zero.  The test and the creation of the future that is notified are two steps,
and a connection that is counted in between notifies a waiter that does not exist
yet.

`gate_awake_of_createsInTime` says that this is the only way for the monitor to
sleep while a miner is connected, and `exists_sleep_of_lateCreate` that it is a
way.

## Main definitions

* `ConnPhase` — how far the task of a connection has come.
* `GatePhase` — where the monitor is in its loop.
* `ActivityState`, `ActivityState.next` — all steps of both.
* `SleepsThroughMiner` — the state the gate must not reach.
-/

namespace CanaryMining

/-- How far a connection has come.  The acceptor inserts it, counts it and, if it
was the first, notifies the waiters; only then is it started with the callback that
removes it. -/
inductive ConnPhase
  | absent
  | inserted
  | notifying
  | started
  | removed
  | gone
  deriving DecidableEq, Repr

/-- The phases in which a connection is counted. -/
def ConnPhase.counted : ConnPhase → Bool
  | notifying | started | removed => true
  | absent | inserted | gone => false

/-- Where the monitor is.  The outer test is `should_wait_for_active_miners`, the
inner one the loop of `wait_for_active_downstream`.  A future remembers whether it
was notified since it was created. -/
inductive GatePhase
  | outerTest
  | innerTest
  | create
  | created (notified : Bool)
  | parked (notified : Bool)
  | passed
  deriving DecidableEq, Repr

/-- `MinerActivity`, the connections and the monitor. -/
structure ActivityState where
  activeDownstreams : ℕ
  conn : DownstreamId → ConnPhase
  gate : GatePhase

/-- The atomic steps. -/
inductive ActivityAction
  | insert (d : DownstreamId)
  | fetchAdd (d : DownstreamId)
  | notifyWaiters (d : DownstreamId)
  | removeDownstream (d : DownstreamId)
  | decrement (d : DownstreamId)
  | monitor
  deriving DecidableEq, Repr

/-- `has_active_downstreams`. -/
def hasActiveDownstreams (activeDownstreams : ℕ) : Bool := 0 < activeDownstreams

/-- `should_wait_for_active_miners`. -/
def shouldWaitForActiveMiners (activeDownstreams : ℕ) : Bool :=
  !hasActiveDownstreams activeDownstreams

namespace GatePhase

/-- `Notify::notify_waiters`: a future that exists is notified, and no permit is
kept for one that does not. -/
def notifyWaiters : GatePhase → GatePhase
  | created _ => created true
  | parked _ => parked true
  | g => g

/-- One step of the monitor, which cannot move while it is parked and not notified. -/
def next (activeDownstreams : ℕ) : GatePhase → Option GatePhase
  | outerTest => some (if shouldWaitForActiveMiners activeDownstreams then innerTest else passed)
  | innerTest => some (if hasActiveDownstreams activeDownstreams then outerTest else create)
  | create => some (created false)
  | created true => some innerTest
  | created false => some (parked false)
  | parked true => some innerTest
  | parked false => none
  | passed => some outerTest

/-- The monitor gets to a future that was not notified by creating it, or by awaiting it. -/
theorem of_next_waiting {g g' : GatePhase} {n : ℕ} (h : g.next n = some g')
    (hwait : g' = .created false ∨ g' = .parked false) : g = .create ∨ g = .created false := by
  cases g with
  | create => exact .inl rfl
  | created notified =>
    cases notified with
    | false => exact .inr rfl
    | true =>
      rw [next, Option.some.injEq] at h
      rcases hwait with hw | hw <;> rw [← h] at hw <;> cases hw
  | outerTest | innerTest =>
    rw [next, Option.some.injEq] at h
    rcases hwait with hw | hw <;> rw [← h] at hw <;> split at hw <;> cases hw
  | parked notified =>
    cases notified with
    | false => cases h
    | true =>
      rw [next, Option.some.injEq] at h
      rcases hwait with hw | hw <;> rw [← h] at hw <;> cases hw
  | passed =>
    rw [next, Option.some.injEq] at h
    rcases hwait with hw | hw <;> rw [← h] at hw <;> cases hw

end GatePhase

namespace ActivityState

/-- A step of the acceptor, of `remove_downstream` or of the monitor. -/
def next (s : ActivityState) : ActivityAction → Option ActivityState
  | .insert d =>
    if s.conn d = .absent then some { s with conn := Function.update s.conn d .inserted }
    else none
  | .fetchAdd d =>
    if s.conn d = .inserted then
      some { s with
        activeDownstreams := s.activeDownstreams + 1
        conn := Function.update s.conn d
          (if s.activeDownstreams = 0 then .notifying else .started) }
    else none
  | .notifyWaiters d =>
    if s.conn d = .notifying then
      some { s with
        conn := Function.update s.conn d .started
        gate := s.gate.notifyWaiters }
    else none
  | .removeDownstream d =>
    -- Both the connection and an error of the channel manager remove it; the
    -- second call finds nothing to remove.
    match s.conn d with
    | .started => some { s with conn := Function.update s.conn d .removed }
    | .removed | .gone => some s
    | _ => none
  | .decrement d =>
    if s.conn d = .removed then
      some { s with
        activeDownstreams := s.activeDownstreams - 1
        conn := Function.update s.conn d .gone }
    else none
  | .monitor => (s.gate.next s.activeDownstreams).map fun gate => { s with gate := gate }

/-- No connection yet, and the monitor before its gate. -/
def initial : ActivityState := ⟨0, fun _ => .absent, .outerTest⟩

/-- An acceptor has counted the first connection and not yet notified. -/
def NotifyOwed (s : ActivityState) : Prop := ∃ d, s.conn d = .notifying

/-- Some connection is registered and counted, nothing is about to notify the
monitor, and it is parked. -/
def SleepsThroughMiner (s : ActivityState) : Prop :=
  (∃ d, s.conn d = .notifying ∨ s.conn d = .started) ∧ ¬ s.NotifyOwed ∧ s.gate = .parked false

/-- The monitor creates the future it waits on while the count is still zero or a
notification is still owed. -/
def CreatesInTime (s : ActivityState) (a : ActivityAction) : Prop :=
  a = .monitor → s.gate = .create → s.activeDownstreams = 0 ∨ s.NotifyOwed

/-! ## The count -/

/-- The count is the number of counted connections, and all but finitely many
connections are still to come. -/
def Counts (s : ActivityState) : Prop :=
  (∃ C : Finset DownstreamId, (∀ d, d ∈ C ↔ (s.conn d).counted) ∧ s.activeDownstreams = C.card) ∧
    ∃ S : Finset DownstreamId, ∀ d, d ∉ S → s.conn d = .absent

variable {s s' : ActivityState} {a : ActivityAction}

theorem counts_initial : initial.Counts :=
  ⟨⟨∅, by simp [initial, ConnPhase.counted], rfl⟩, ∅, fun _ _ => rfl⟩

/-- One more connection that has come. -/
theorem exists_support_update {conn : DownstreamId → ConnPhase} (d : DownstreamId) (p : ConnPhase)
    (h : ∃ S : Finset DownstreamId, ∀ d, d ∉ S → conn d = .absent) :
    ∃ S : Finset DownstreamId, ∀ d', d' ∉ S → Function.update conn d p d' = .absent := by
  obtain ⟨S, hS⟩ := h
  refine ⟨insert d S, fun d' hd' => ?_⟩
  rw [Finset.mem_insert, not_or] at hd'
  rw [Function.update_of_ne hd'.1]
  exact hS d' hd'.2

/-- A connection that changes phase without being counted or uncounted. -/
theorem Counts.same (h : s.Counts) {d : DownstreamId} {p : ConnPhase} {gate : GatePhase}
    (hp : p.counted = (s.conn d).counted) :
    Counts ⟨s.activeDownstreams, Function.update s.conn d p, gate⟩ := by
  obtain ⟨⟨C, hC, hcard⟩, hS⟩ := h
  refine ⟨⟨C, fun d' => ?_, hcard⟩, exists_support_update d p hS⟩
  by_cases hd : d' = d
  · simp [hd, hC, hp]
  · simp [hd, hC]

theorem Counts.enter (h : s.Counts) {d : DownstreamId} {p : ConnPhase}
    (hp : p.counted = true) (hd : (s.conn d).counted = false) :
    Counts ⟨s.activeDownstreams + 1, Function.update s.conn d p, s.gate⟩ := by
  obtain ⟨⟨C, hC, hcard⟩, hS⟩ := h
  have hmem : d ∉ C := by simp [hC, hd]
  refine ⟨⟨insert d C, fun d' => ?_, by simp [Finset.card_insert_of_notMem hmem, hcard]⟩,
    exists_support_update d p hS⟩
  by_cases he : d' = d
  · simp [he, hp]
  · simp [he, hC]

theorem Counts.leave (h : s.Counts) {d : DownstreamId} {p : ConnPhase}
    (hp : p.counted = false) (hd : (s.conn d).counted = true) :
    Counts ⟨s.activeDownstreams - 1, Function.update s.conn d p, s.gate⟩ := by
  obtain ⟨⟨C, hC, hcard⟩, hS⟩ := h
  have hmem : d ∈ C := by simp [hC, hd]
  refine ⟨⟨C.erase d, fun d' => ?_, by simp [Finset.card_erase_of_mem hmem, hcard]⟩,
    exists_support_update d p hS⟩
  by_cases he : d' = d
  · simp [he, hp]
  · simp [he, hC]

theorem Counts.step (h : s.Counts) (hs : Computes next s a s') : s'.Counts := by
  cases a with
  | insert d =>
    simp only [Computes, next] at hs
    split at hs
    · rename_i hd
      cases hs
      exact h.same (by rw [hd]; rfl)
    · cases hs
  | fetchAdd d =>
    simp only [Computes, next] at hs
    split at hs
    · rename_i hd
      cases hs
      exact h.enter (by split <;> rfl) (by rw [hd]; rfl)
    · cases hs
  | notifyWaiters d =>
    simp only [Computes, next] at hs
    split at hs
    · rename_i hd
      cases hs
      exact h.same (by rw [hd]; rfl)
    · cases hs
  | removeDownstream d =>
    simp only [Computes, next] at hs
    split at hs
    · rename_i hd
      cases hs
      exact h.same (by rw [hd]; rfl)
    · cases hs
      exact h
    · cases hs
      exact h
    · cases hs
  | decrement d =>
    simp only [Computes, next] at hs
    split at hs
    · rename_i hd
      cases hs
      exact h.leave rfl (by rw [hd]; rfl)
    · cases hs
  | monitor =>
    simp only [Computes, next, Option.map_eq_some_iff] at hs
    obtain ⟨g, -, rfl⟩ := hs
    exact h

/-- A counted connection keeps the count above zero. -/
theorem Counts.pos (h : s.Counts) {d : DownstreamId} (hd : (s.conn d).counted) :
    0 < s.activeDownstreams := by
  obtain ⟨⟨C, hC, hcard⟩, -⟩ := h
  rw [hcard, Finset.card_pos]
  exact ⟨d, (hC d).2 hd⟩

/-! ## The gate -/

/-- A future that exists and was not notified waits on a count of zero, or on a
notification that is still owed. -/
def WaitsRightly (s : ActivityState) : Prop :=
  s.gate = .created false ∨ s.gate = .parked false → s.activeDownstreams = 0 ∨ s.NotifyOwed

theorem waitsRightly_initial : initial.WaitsRightly := by
  rintro (h | h) <;> cases h

/-- Another connection still owes its notification after a step of `d`. -/
theorem NotifyOwed.update (h : s.NotifyOwed) {d : DownstreamId} {p : ConnPhase} {n : ℕ}
    {gate : GatePhase} (hd : s.conn d ≠ .notifying) :
    NotifyOwed ⟨n, Function.update s.conn d p, gate⟩ := by
  obtain ⟨d', hd'⟩ := h
  have hne : d' ≠ d := by
    rintro rfl
    exact hd hd'
  exact ⟨d', by simp [hne, hd']⟩

theorem WaitsRightly.step (h : s.WaitsRightly) (hs : Computes next s a s')
    (hc : s.CreatesInTime a) : s'.WaitsRightly := by
  cases a with
  | insert d =>
    simp only [Computes, next] at hs
    split at hs
    · rename_i hd
      cases hs
      intro hg
      exact (h hg).imp id fun ho => ho.update (by simp [hd])
    · cases hs
  | fetchAdd d =>
    simp only [Computes, next] at hs
    split at hs
    · rename_i hd
      cases hs
      intro hg
      -- The first connection to be counted owes a notification; a later one finds
      -- the count positive, so that the notification was owed before.
      by_cases h0 : s.activeDownstreams = 0
      · exact .inr ⟨d, by simp [h0]⟩
      · exact .inr (((h hg).resolve_left h0).update (by simp [hd]))
    · cases hs
  | notifyWaiters d =>
    simp only [Computes, next] at hs
    split at hs
    · cases hs
      intro hg
      exfalso
      cases hgate : s.gate <;> simp [hgate, GatePhase.notifyWaiters] at hg
    · cases hs
  | removeDownstream d =>
    simp only [Computes, next] at hs
    split at hs
    · rename_i hd
      cases hs
      intro hg
      exact (h hg).imp id fun ho => ho.update (by simp [hd])
    · cases hs
      exact h
    · cases hs
      exact h
    · cases hs
  | decrement d =>
    simp only [Computes, next] at hs
    split at hs
    · rename_i hd
      cases hs
      intro hg
      rcases h hg with h0 | ho
      · exact .inl (by simp [h0])
      · exact .inr (ho.update (by simp [hd]))
    · cases hs
  | monitor =>
    simp only [Computes, next, Option.map_eq_some_iff] at hs
    obtain ⟨g, hg, rfl⟩ := hs
    intro hwait
    rcases GatePhase.of_next_waiting hg hwait with hgate | hgate
    · exact hc rfl hgate
    · exact h (.inl hgate)

/-- Where the futures wait rightly, the monitor sleeps through no miner. -/
theorem WaitsRightly.awake (h : s.WaitsRightly) (hcounts : s.Counts) :
    ¬ s.SleepsThroughMiner := by
  rintro ⟨⟨d, hd⟩, hnone, hgate⟩
  have hpos : 0 < s.activeDownstreams := by
    refine hcounts.pos (d := d) ?_
    rcases hd with hd | hd <;> rw [hd] <;> rfl
  rcases h (.inr hgate) with h0 | ho
  · omega
  · exact hnone ho

/-! ## Whole runs -/

theorem counts_of_run {ts : List (Transition ActivityState ActivityAction)}
    (h : Run (· = initial) (Computes next) ts s) : s.Counts :=
  h.invariant (fun _ h0 => by rw [h0]; exact counts_initial) fun _ _ _ hs hstep => hs.step hstep

/-- **The idle gate.**  In a run in which the monitor always creates its future while
the count is zero or a notification is owed, it never sleeps while a miner is
connected. -/
theorem gate_awake_of_createsInTime {ts : List (Transition ActivityState ActivityAction)}
    (h : Run (· = initial) (Computes next) ts s)
    (hc : ∀ t ∈ ts, t.before.CreatesInTime t.action) : ¬ s.SleepsThroughMiner := by
  have hwaits : s.WaitsRightly := by
    refine h.invariant_of (P := fun t => t.before.CreatesInTime t.action) ?_ ?_ hc
    · rintro s rfl
      exact waitsRightly_initial
    · intro s a s' hs hstep hok
      exact hs.step hstep hok
  exact hwaits.awake (counts_of_run h)

/-- The monitor waits, the first connection is counted and wakes it. -/
def firstMiner : List ActivityAction :=
  [.monitor, .monitor, .monitor, .monitor, .insert 1, .fetchAdd 1, .notifyWaiters 1]

/-- The state in which the first connection has woken the monitor. -/
def firstMinerState : ActivityState :=
  { activeDownstreams := 1
    conn := Function.update (Function.update (Function.update (fun _ => .absent)
      1 .inserted) 1 .notifying) 1 .started
    gate := .parked true }

theorem gate_awake_firstMiner : ¬ firstMinerState.SleepsThroughMiner := by
  have hrun : Run (· = initial) (Computes next) (trace next initial firstMiner) firstMinerState :=
    .ofActions (by rfl) firstMiner rfl
  have hzero : ∀ t ∈ trace next initial firstMiner,
      t.before.gate = .create → t.before.activeDownstreams = 0 := by
    decide
  exact gate_awake_of_createsInTime hrun fun t ht _ hg => .inl (hzero t ht hg)

/-- **A lost wakeup.**  Wherever the monitor is about to create its future while the
count is positive and no notification is owed, it can go to sleep with a miner
connected. -/
theorem exists_sleep_of_lateCreate {ts : List (Transition ActivityState ActivityAction)}
    (h : Run (· = initial) (Computes next) ts s) (hgate : s.gate = .create)
    (hlate : ¬ s.CreatesInTime .monitor) :
    ∃ ts' s', Run (· = initial) (Computes next) (ts ++ ts') s' ∧ s'.SleepsThroughMiner := by
  have hpos : s.activeDownstreams ≠ 0 := fun h0 => hlate fun _ _ => .inl h0
  have hnone : ¬ s.NotifyOwed := fun ho => hlate fun _ _ => .inr ho
  -- A further connection comes, is not the first, and notifies nobody.
  obtain ⟨-, S, hS⟩ := counts_of_run h
  obtain ⟨d, hd⟩ := Infinite.exists_notMem_finset S
  let conn := Function.update (Function.update s.conn d .inserted) d .started
  have hfold : [.insert d, .fetchAdd d, .monitor, .monitor].foldlM next s =
      some ⟨s.activeDownstreams + 1, conn, .parked false⟩ := by
    simp [next, hS d hd, hgate, GatePhase.next, hpos, conn]
  have hrun := h.replay _ hfold
  refine ⟨_, _, hrun, ⟨d, .inr (by simp [conn])⟩, ?_, rfl⟩
  rintro ⟨d', hd'⟩
  by_cases he : d' = d
  · simp [conn, he] at hd'
  · exact hnone ⟨d', by simpa [conn, he] using hd'⟩

/-- The monitor tests a count of zero, the first connection is counted and notifies
nobody, and the monitor goes to sleep. -/
def lostWakeup : List ActivityAction :=
  [.monitor, .monitor, .insert 1, .fetchAdd 1, .notifyWaiters 1, .monitor, .monitor]

theorem gate_awake_fails_lostWakeup :
    ¬ ∀ ts s, Run (· = initial) (Computes next) ts s → ¬ s.SleepsThroughMiner := by
  intro hall
  refine hall _ _ (.ofActions (by rfl) lostWakeup rfl) ⟨⟨1, .inr rfl⟩, ?_, rfl⟩
  rintro ⟨d, hd⟩
  by_cases h1 : d = 1 <;> simp [h1, initial] at hd

end ActivityState

end CanaryMining
