import CanaryMining.Lib.Run

/-!
# The template monitor

The loop of `monitor_ipc_templates` asks the node for the next template and
publishes it.  One request delivers both fee increases and new tips, and two
sleeps keep requests and publications at least `min_interval` apart: one before a
request, one before a fee increase is published.  A tip that arrives during
either sleep waits for its end.

`tipNeverHidden_iff` says that this cannot happen exactly if `min_interval` is
zero, and `hidesTip_iff_seesTip` which runs are free of it for any interval.

## Main definitions

* `remainingWaitNextDelay` — the function of the source.
* `MonitorState`, `MonitorState.next` — the loop, the node and the clock.
* `HidesTip` — the monitor sleeps while the node has another tip.
-/

namespace CanaryMining

/-- `WAIT_NEXT_TIMEOUT_MILLIS`. -/
def waitNextTimeoutMillis : ℕ := 1000

/-- `min_interval` in milliseconds. -/
def minIntervalMillis (minInterval : UInt8) : ℕ := minInterval.toNat * 1000

/-- `remaining_wait_next_delay`, in milliseconds. -/
def remainingWaitNextDelay (lastWaitNextRequestInstant : Option ℕ) (minInterval : UInt8)
    (now : ℕ) : Option ℕ :=
  match lastWaitNextRequestInstant with
  | none => none
  | some last =>
    let elapsed := now - last
    if elapsed ≤ minIntervalMillis minInterval then
      let delay := minIntervalMillis minInterval - elapsed
      if delay = 0 then none else some delay
    else none

/-- Where the loop is.  A request in flight carries its deadline, a sleep its end, and
a fetched template the tip it builds on. -/
inductive MonitorPhase
  | loopTop
  | idle
  | throttle (wake : ℕ)
  | waiting (deadline : ℕ)
  | fetched (prevHash : ℕ)
  | mempoolSleep (wake : ℕ) (prevHash : ℕ)
  deriving DecidableEq, Repr

/-- The clock, the node, the connected miners and the monitor. -/
structure MonitorState where
  now : ℕ
  tip : ℕ
  feesIncreased : Bool
  activeDownstreams : ℕ
  currentPrevHash : ℕ
  lastWaitNextRequestInstant : Option ℕ
  lastSentTemplateInstant : Option ℕ
  phase : MonitorPhase
  deriving DecidableEq, Repr

/-- What the clock, the node, the miners and the monitor do. -/
inductive MonitorAction
  | tick
  | newTip (hash : ℕ)
  | feeIncrease
  | connect
  | disconnect
  | respond
  | timeout
  | step
  deriving DecidableEq, Repr

namespace MonitorState

variable (minInterval : UInt8)

/-- The loop past the idle gate: it sleeps before the next request, or sends it. -/
def passGate (s : MonitorState) : MonitorState :=
  match remainingWaitNextDelay s.lastWaitNextRequestInstant minInterval s.now with
  | some delay => { s with phase := .throttle (s.now + delay) }
  | none =>
    { s with
      lastWaitNextRequestInstant := some s.now
      phase := .waiting (s.now + waitNextTimeoutMillis) }

/-- A chain-tip publication. -/
def publishTip (s : MonitorState) (prevHash : ℕ) : MonitorState :=
  { s with currentPrevHash := prevHash, phase := .loopTop }

/-- A publication of a fee increase. -/
def publishMempool (s : MonitorState) : MonitorState :=
  { s with lastSentTemplateInstant := some s.now, phase := .loopTop }

/-- The end of the sleep a fee increase has to wait for, if it has to. -/
def mempoolWake (s : MonitorState) : Option ℕ :=
  match s.lastSentTemplateInstant with
  | none => none
  | some last =>
    let elapsed := s.now - last
    if elapsed < minIntervalMillis minInterval then
      some (s.now + (minIntervalMillis minInterval - elapsed))
    else none

/-- One step of the loop. -/
def monitorStep (s : MonitorState) : Option MonitorState :=
  match s.phase with
  | .loopTop =>
    some (if s.activeDownstreams = 0 then { s with phase := .idle } else s.passGate minInterval)
  | .idle =>
    if s.activeDownstreams = 0 then none
    else some (passGate minInterval { s with lastWaitNextRequestInstant := none })
  | .throttle wake => if wake ≤ s.now then some { s with phase := .loopTop } else none
  | .waiting _ => none
  | .fetched prevHash =>
    if prevHash ≠ s.currentPrevHash then some (s.publishTip prevHash)
    else match s.mempoolWake minInterval with
      | some wake => some { s with phase := .mempoolSleep wake prevHash }
      | none => some s.publishMempool
  | .mempoolSleep wake _ => if wake ≤ s.now then some s.publishMempool else none

/-- The steps of the clock, of the node, of the miners and of the loop.  While a
request is in flight, the node may answer it with a template on its tip as soon as
there is a new tip or a fee increase, and it ends at its deadline at the latest. -/
def next (s : MonitorState) : MonitorAction → Option MonitorState
  | .tick =>
    match s.phase with
    | .waiting deadline => if s.now < deadline then some { s with now := s.now + 1 } else none
    | _ => some { s with now := s.now + 1 }
  | .newTip hash => some { s with tip := hash }
  | .feeIncrease => some { s with feesIncreased := true }
  | .connect => some { s with activeDownstreams := s.activeDownstreams + 1 }
  | .disconnect =>
    if s.activeDownstreams = 0 then none
    else some { s with activeDownstreams := s.activeDownstreams - 1 }
  | .respond =>
    match s.phase with
    | .waiting _ =>
      if s.tip ≠ s.currentPrevHash ∨ s.feesIncreased then
        some { s with feesIncreased := false, phase := .fetched s.tip }
      else none
    | _ => none
  | .timeout =>
    match s.phase with
    | .waiting deadline =>
      if deadline ≤ s.now then some { s with phase := .loopTop } else none
    | _ => none
  | .step => s.monitorStep minInterval

/-- The state in which the loop starts, after the bootstrap template was sent. -/
def Bootstrapped (s : MonitorState) : Prop :=
  s.phase = .loopTop ∧ s.lastWaitNextRequestInstant = none ∧
    s.lastSentTemplateInstant = some s.now

/-- The monitor is in a sleep that `min_interval` imposes. -/
def sleeping (s : MonitorState) : Bool :=
  match s.phase with
  | .throttle _ | .mempoolSleep _ _ => true
  | _ => false

/-- A miner is connected, the node has another tip, and the monitor sleeps. -/
def HidesTip (s : MonitorState) : Prop :=
  0 < s.activeDownstreams ∧ s.tip ≠ s.currentPrevHash ∧ s.sleeping = true

instance (s : MonitorState) : Decidable s.HidesTip := inferInstanceAs (Decidable (_ ∧ _))

/-- Whether the next step of the loop begins a sleep. -/
def fallsAsleep (s : MonitorState) : Bool :=
  match s.phase with
  | .loopTop => 0 < s.activeDownstreams &&
      (remainingWaitNextDelay s.lastWaitNextRequestInstant minInterval s.now).isSome
  | .fetched prevHash => prevHash = s.currentPrevHash && (s.mempoolWake minInterval).isSome
  | _ => false

/-- No tip arrives while the monitor sleeps with a miner connected, no miner connects
to a monitor that sleeps while another tip is there, and no sleep begins then. -/
def SeesTip (s : MonitorState) : MonitorAction → Prop
  | .newTip hash => s.sleeping = true → 0 < s.activeDownstreams → hash = s.currentPrevHash
  | .connect => s.sleeping = true → s.tip = s.currentPrevHash
  | .step => s.fallsAsleep minInterval = true → 0 < s.activeDownstreams →
      s.tip = s.currentPrevHash
  | _ => True

/-! ## One step -/

variable {minInterval} {s s' : MonitorState} {a : MonitorAction}

/-- What a step of the loop does to the tip, to the miners and to sleep. -/
theorem monitorStep_eq_some (h : s.monitorStep minInterval = some s') :
    s'.tip = s.tip ∧ s'.activeDownstreams = s.activeDownstreams ∧
      s'.sleeping = s.fallsAsleep minInterval ∧
      (s'.sleeping = true → s'.currentPrevHash = s.currentPrevHash) := by
  unfold monitorStep at h
  unfold fallsAsleep
  cases hp : s.phase with
  | loopTop =>
    simp only [hp, Option.some.injEq] at h ⊢
    by_cases ha : s.activeDownstreams = 0
    · simp only [ha, if_true] at h
      simp [← h, sleeping, ha]
    · simp only [ha, if_false, passGate] at h
      have hpos : 0 < s.activeDownstreams := by omega
      cases hd : remainingWaitNextDelay s.lastWaitNextRequestInstant minInterval s.now <;>
        simp only [hd] at h <;> simp [← h, sleeping, hpos]
  | idle =>
    simp only [hp] at h ⊢
    split at h
    · cases h
    · -- The gate has forgotten the last request, so the loop does not sleep.
      rw [Option.some.injEq] at h
      simp [← h, passGate, remainingWaitNextDelay, sleeping]
  | throttle wake =>
    simp only [hp] at h ⊢
    split at h
    · rw [Option.some.injEq] at h
      simp [← h, sleeping]
    · cases h
  | waiting deadline => simp [hp] at h
  | fetched prevHash =>
    simp only [hp] at h ⊢
    by_cases hh : prevHash = s.currentPrevHash
    · simp only [hh, ne_eq, not_true, if_false] at h
      cases hw : s.mempoolWake minInterval <;> simp only [hw, Option.some.injEq] at h <;>
        simp [← h, sleeping, hh, publishMempool]
    · simp only [ne_eq, hh, not_false_eq_true, if_true, Option.some.injEq] at h
      simp [← h, sleeping, publishTip, hh]
  | mempoolSleep wake prevHash =>
    simp only [hp] at h ⊢
    split at h
    · rw [Option.some.injEq] at h
      simp [← h, sleeping, publishMempool]
    · cases h

/-- **One step.**  From a state that hides no tip, a step leads to one that hides none
exactly if it sees the tip. -/
theorem not_hidesTip_step_iff (h : ¬ s.HidesTip) (hs : Computes (next minInterval) s a s') :
    ¬ s'.HidesTip ↔ s.SeesTip minInterval a := by
  cases a with
  | tick =>
    refine iff_of_true ?_ trivial
    simp only [Computes, next] at hs
    split at hs
    · split at hs
      · cases hs
        exact h
      · cases hs
    · cases hs
      exact h
  | newTip hash =>
    cases hs
    simp only [HidesTip, SeesTip, sleeping]
    tauto
  | feeIncrease =>
    cases hs
    exact iff_of_true h trivial
  | connect =>
    cases hs
    simp only [HidesTip, SeesTip, sleeping]
    constructor
    · intro h' hsleep
      by_contra hne
      exact h' ⟨Nat.succ_pos _, hne, hsleep⟩
    · intro hsees ⟨_, hne, hsleep⟩
      exact hne (hsees hsleep)
  | disconnect =>
    refine iff_of_true ?_ trivial
    simp only [Computes, next] at hs
    split at hs
    · cases hs
    · cases hs
      rintro ⟨hpos, hne, hsleep⟩
      have hpos' : 0 < s.activeDownstreams - 1 := hpos
      exact h ⟨by omega, hne, hsleep⟩
  | respond =>
    refine iff_of_true ?_ trivial
    simp only [Computes, next] at hs
    split at hs
    · split at hs
      · cases hs
        simp [HidesTip, sleeping]
      · cases hs
    · cases hs
  | timeout =>
    refine iff_of_true ?_ trivial
    simp only [Computes, next] at hs
    split at hs
    · split at hs
      · cases hs
        simp [HidesTip, sleeping]
      · cases hs
    · cases hs
  | step =>
    obtain ⟨htip, hact, hsleep, hprev⟩ := monitorStep_eq_some hs
    simp only [HidesTip, SeesTip, htip, hact, hsleep]
    rw [hsleep] at hprev
    constructor
    · intro h' hf hpos
      by_contra hne
      exact h' ⟨hpos, by rw [hprev hf]; exact hne, hf⟩
    · rintro hsees ⟨hpos, hne, hf⟩
      rw [hprev hf] at hne
      exact hne (hsees hf hpos)

/-! ## Whole runs -/

/-- A loop that starts hides no tip. -/
theorem Bootstrapped.not_hidesTip (h : s.Bootstrapped) : ¬ s.HidesTip := by
  rintro ⟨-, -, hsleep⟩
  simp [sleeping, h.1] at hsleep

/-- **Which runs see every tip.**  A run passes through no state that hides a tip
exactly if each of its steps sees the tip. -/
theorem hidesTip_iff_seesTip {ts : List (Transition MonitorState MonitorAction)}
    (h : Run Bootstrapped (Computes (next minInterval)) ts s) :
    (∀ t ∈ ts, ¬ t.after.HidesTip) ↔ ∀ t ∈ ts, t.before.SeesTip minInterval t.action :=
  h.forall_good_iff_guard (I := fun _ => True)
    (fun _ h0 => ⟨trivial, Bootstrapped.not_hidesTip h0⟩) (fun _ _ _ _ _ => trivial)
    (fun _ _ _ _ hg hs => not_hidesTip_step_iff hg hs)

/-- Without an interval the loop never sleeps. -/
theorem fallsAsleep_zero (s : MonitorState) : s.fallsAsleep 0 = false := by
  have hdelay : ∀ last now, remainingWaitNextDelay last 0 now = none := by
    intro last now
    cases last with
    | none => rfl
    | some t => simp [remainingWaitNextDelay, minIntervalMillis]
  have hwake : s.mempoolWake 0 = none := by
    unfold mempoolWake
    split
    · rfl
    · simp [minIntervalMillis]
  unfold fallsAsleep
  split <;> simp [hdelay, hwake]

theorem sleeping_zero {ts : List (Transition MonitorState MonitorAction)}
    (h : Run Bootstrapped (Computes (next 0)) ts s) : s.sleeping = false := by
  refine h.invariant (I := fun s => s.sleeping = false) (fun s h0 => by simp [sleeping, h0.1]) ?_
  intro s a s' hs hstep
  cases a with
  | step => rw [(monitorStep_eq_some hstep).2.2.1, fallsAsleep_zero]
  | newTip hash | feeIncrease | connect =>
    cases hstep
    exact hs
  | tick | disconnect | respond | timeout =>
    simp only [Computes, next] at hstep
    repeat' split at hstep
    all_goals cases hstep
    all_goals first | exact hs | rfl

/-- A miner is connected, a fee increase is fetched and waits for the interval, and a
tip arrives. -/
def tipDuringSleep : List MonitorAction := [.step, .feeIncrease, .respond, .step, .newTip 1]

/-- The monitor right after the bootstrap, with one miner. -/
def oneMiner : MonitorState := ⟨0, 0, false, 1, 0, none, some 0, .loopTop⟩

/-- Any interval lets a tip arrive during the sleep of a fee increase. -/
theorem exists_hidesTip (hm : minInterval ≠ 0) :
    ∃ ts s, Run Bootstrapped (Computes (next minInterval)) ts s ∧ s.HidesTip := by
  have hpos : 0 < minIntervalMillis minInterval := by
    have hne : minInterval.toNat ≠ 0 := fun h0 => hm (UInt8.toNat_inj.1 h0)
    unfold minIntervalMillis
    omega
  have hfold : tipDuringSleep.foldlM (next minInterval) oneMiner =
      some ⟨0, 1, false, 1, 0, some 0, some 0,
        .mempoolSleep (minIntervalMillis minInterval) 0⟩ := by
    simp [tipDuringSleep, oneMiner, next, monitorStep, passGate, remainingWaitNextDelay,
      mempoolWake, hpos]
  exact ⟨_, _, .ofActions ⟨rfl, rfl, rfl⟩ _ hfold, Nat.one_pos, Nat.one_ne_zero, rfl⟩

/-- **Throttling and the chain tip.**  The monitor never sleeps while the node has
another tip and a miner is connected exactly if `min_interval` is zero; for any
interval, a run is free of it exactly if each of its steps sees the tip. -/
theorem tipNeverHidden_iff (minInterval : UInt8) :
    ((∀ ts s, Run Bootstrapped (Computes (next minInterval)) ts s → ¬ s.HidesTip) ↔
        minInterval = 0) ∧
      ∀ ts s, Run Bootstrapped (Computes (next minInterval)) ts s →
        ((∀ t ∈ ts, ¬ t.after.HidesTip) ↔ ∀ t ∈ ts, t.before.SeesTip minInterval t.action) := by
  refine ⟨⟨fun hall => ?_, ?_⟩, fun ts s h => hidesTip_iff_seesTip h⟩
  · by_contra hm
    obtain ⟨ts, s, hrun, hbad⟩ := exists_hidesTip hm
    exact hall ts s hrun hbad
  · rintro rfl ts s hrun ⟨-, -, hsleep⟩
    rw [sleeping_zero hrun] at hsleep
    cases hsleep

/-- With the interval of ten seconds, a tip that arrives while a fee increase waits is
not published before the end of the wait. -/
theorem tipNeverHidden_fails_tenSeconds :
    ¬ ∀ ts s, Run Bootstrapped (Computes (next 10)) ts s → ¬ s.HidesTip := by
  intro hall
  exact hall _ _ (.ofActions (by exact ⟨rfl, rfl, rfl⟩) tipDuringSleep
    (show tipDuringSleep.foldlM (next 10) oneMiner = _ from rfl)) (by decide)

end MonitorState

end CanaryMining
