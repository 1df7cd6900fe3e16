import CanaryMining.TestMiner.Shares

/-!
# The searches of the test miner

At most one search is open, the one for the latest work.  So only its workers can win, and
those of a search that was called off take one more step each, whether or not the loop still
waits for them.

## Main definitions

* `RunTestMiner.Focused` — only the last search is open.
* `RunTestMiner.Wins` — a worker is the first to set the flag of its search.
* `RunTestMiner.workerSteps` — the steps that a worker of a search takes.

**Main results:** `winner_on_latest_work` and `worker_steps_le`.
-/

namespace CanaryMining

namespace TestMiner

variable {B : TargetLib}

namespace RunTestMiner

variable {cfg : TestMinerConfig} {isMetBy : B.Target → Header → Bool} {s s' : RunTestMiner B}
  {a : LoopAction} {ts : List (Transition (RunTestMiner B) LoopAction)}

/-! ## The latest work -/

/-- Only the last search is open, and none while the loop waits for workers to stop. -/
structure Focused (s : RunTestMiner B) : Prop where
  current : ∀ (i : ℕ) (search : MiningSearch B), s.searches[i]? = some search →
    search.contest.closed = false → s.current = some i ∧ i + 1 = s.searches.length
  stopping : ∀ i next, s.phase = .stopping i next → s.current = none

namespace Focused

theorem start : (RunTestMiner.start cfg : RunTestMiner B).Focused := by
  refine ⟨fun i search hsearch => ?_, nofun⟩
  simp [RunTestMiner.start] at hsearch

/-- Nothing is open where no search is current. -/
theorem closed (h : s.Focused) (hcurrent : s.current = none) {i : ℕ} {search : MiningSearch B}
    (hsearch : s.searches[i]? = some search) : search.contest.closed = true := by
  by_contra hopen
  have := (h.current i search hsearch (by simpa using hopen)).1
  rw [hcurrent] at this
  cases this

theorem afterStop (h : s.Focused) (hcurrent : s.current = none) (next : AfterStop B) :
    (s.afterStop cfg next).Focused := by
  have hclosed : ∀ (i : ℕ) (search : MiningSearch B), s.searches[i]? = some search →
      search.contest.closed = false → False := by
    intro i search hsearch hopen
    rw [h.closed hcurrent hsearch] at hopen
    cases hopen
  cases next with
  | spawn work =>
    refine ⟨fun i search hsearch hopen => ?_, fun i next hphase => ?_⟩
    · obtain ⟨old, hold, rfl | rfl⟩ | ⟨rfl, -⟩ := (Moves.spawned work).getElem? hsearch
      · exact (hclosed i _ hold hopen).elim
      · cases hopen
      · exact ⟨rfl, by simp [RunTestMiner.afterStop]⟩
    · cases hphase
  | accept =>
    refine ⟨fun i search hsearch hopen => (hclosed i search hsearch hopen).elim, ?_⟩
    intro i next hphase
    exact hcurrent
  | bail outcome =>
    refine ⟨fun i search hsearch hopen => (hclosed i search hsearch hopen).elim, ?_⟩
    intro i next hphase
    cases hphase

theorem stops (h : s.Focused) (next : AfterStop B) : (s.stopWorkers cfg next).Focused := by
  unfold stopWorkers
  split
  · rename_i hcurrent
    exact h.afterStop hcurrent next
  · rename_i k hcurrent
    refine ⟨fun i search hsearch hopen => ?_, fun _ _ _ => rfl⟩
    rw [List.getElem?_modify] at hsearch
    obtain ⟨old, hold, rfl⟩ := Option.map_eq_some_iff.1 hsearch
    split at hopen
    · cases hopen
    · rename_i hne
      have hi := (h.current i old hold hopen).1
      rw [hcurrent] at hi
      cases hi
      exact absurd rfl hne

/-- What leaves the searches and the current one as they are. -/
theorem same (h : s.Focused) (hsearches : s'.searches = s.searches)
    (hcurrent : s'.current = s.current)
    (hphase : ∀ i next, s'.phase = .stopping i next → s.phase = .stopping i next) :
    s'.Focused := by
  refine ⟨?_, fun i next hp => ?_⟩
  · rw [hsearches, hcurrent]
    exact h.current
  · rw [hcurrent]
    exact h.stopping i next (hphase i next hp)

theorem worker (h : s.Focused) {i j : ℕ} {search search' : MiningSearch B}
    {share : Option FoundShare} (hsearch : s.searches[i]? = some search)
    (hstep : search.step isMetBy j = some (search', share)) (shares : List FoundShare) :
    Focused { s with searches := s.searches.set i search', foundShares := shares } := by
  obtain ⟨contest, out, hcontest, rfl, -⟩ := MiningSearch.step_eq_some hstep
  refine ⟨fun k other hother hopen => ?_, h.stopping⟩
  rw [List.length_set]
  by_cases hk : k = i
  · subst hk
    rw [List.getElem?_set_self (List.getElem?_eq_some_iff.1 hsearch).1] at hother
    cases hother
    refine h.current k search hsearch ?_
    by_contra hclosed
    have hstays := Contest.closed_step (by simpa using hclosed) hcontest
    rw [hstays] at hopen
    cases hopen
  · rw [List.getElem?_set_ne (Ne.symm hk)] at hother
    exact h.current k other hother hopen

theorem next (h : s.Focused) (hs : s.next cfg isMetBy a = some s') : s'.Focused := by
  cases loopStep_of_next hs with
  | worker hsearch hstep => exact h.worker hsearch hstep _
  | frameFailed hphase hframe => exact h.same rfl rfl nofun
  | noWork hphase hframe => exact h.same rfl rfl fun _ _ hp => hp
  | newWork hphase hframe =>
    rename_i message now work miner
    have hmoved : Focused { s with miner := miner } := h.same rfl rfl fun _ _ hp => hp
    exact hmoved.stops _
  | accepted hphase hfewer => exact h.same rfl rfl fun _ _ hp => hp
  | acceptedEnough hphase henough =>
    have hcounted : Focused { s with acceptedBlocks := s.acceptedBlocks + 1 } :=
      h.same rfl rfl fun _ _ hp => hp
    exact hcounted.stops _
  | badFrame hphase => exact h.same rfl rfl nofun
  | submitted hphase hshares => exact h.same rfl rfl fun _ _ hp => hp
  | notSubmitted hphase hshares => exact h.same rfl rfl nofun
  | stops ha houtcome hphase => exact h.stops _
  | stopped ha hphase => exact h.afterStop (h.stopping _ _ hphase) _
  | lingered hphase => exact h.same rfl rfl nofun

end Focused

/-- The loop lets nobody win. -/
theorem Moves.winners {searches searches' : List (MiningSearch B)}
    (h : Moves cfg searches searches') {i : ℕ} {search search' : MiningSearch B}
    (hsearch : searches[i]? = some search) (hsearch' : searches'[i]? = some search') :
    search'.contest.winners = search.contest.winners := by
  obtain ⟨old, hold, heq⟩ | ⟨rfl, -⟩ := h.getElem? hsearch'
  · rw [hsearch] at hold
    cases hold
    rcases heq with rfl | rfl <;> rfl
  · rw [List.getElem?_eq_none le_rfl] at hsearch
    cases hsearch

/-- What a step does to the searches: it is one of a worker, or the loop changes them. -/
theorem worker_or_moves (hs : s.next cfg isMetBy a = some s') :
    (∃ i j search search' share, a = .worker i j ∧ s.searches[i]? = some search ∧
      search.step isMetBy j = some (search', share) ∧ s'.searches = s.searches.set i search') ∨
        (∀ i j, a ≠ .worker i j) ∧ Moves cfg s.searches s'.searches := by
  cases loopStep_of_next hs with
  | worker hsearch hstep => exact .inl ⟨_, _, _, _, _, rfl, hsearch, hstep, rfl⟩
  | frameFailed hphase hframe => exact .inr ⟨nofun, .kept⟩
  | noWork hphase hframe => exact .inr ⟨nofun, .kept⟩
  | newWork hphase hframe =>
    rename_i message now work miner
    exact .inr ⟨nofun, (sameShares_stopWorkers (s := { s with miner := miner }) _).moves⟩
  | accepted hphase hfewer => exact .inr ⟨nofun, .kept⟩
  | acceptedEnough hphase henough =>
    exact .inr ⟨nofun, (sameShares_stopWorkers
      (s := { s with acceptedBlocks := s.acceptedBlocks + 1 }) _).moves⟩
  | badFrame hphase => exact .inr ⟨nofun, .kept⟩
  | submitted hphase hshares => exact .inr ⟨nofun, .kept⟩
  | notSubmitted hphase hshares => exact .inr ⟨nofun, .kept⟩
  | stops ha houtcome hphase =>
    refine .inr ⟨?_, (sameShares_stopWorkers _).moves⟩
    obtain rfl | ⟨heard, rfl⟩ := ha <;> nofun
  | stopped ha hphase =>
    refine .inr ⟨?_, (sameShares_afterStop _).moves⟩
    obtain rfl | rfl := ha <;> nofun
  | lingered hphase => exact .inr ⟨nofun, .kept⟩

/-- The number of steps that a worker of a search takes. -/
def workerSteps (i j : ℕ) (ts : List (Transition (RunTestMiner B) LoopAction)) : ℕ :=
  ts.countP fun t =>
    match t.action with
    | .worker k l => k = i ∧ l = j
    | _ => false

/-- Each step of a worker of a closed search is its last. -/
theorem workerSteps_add_remaining {mid : RunTestMiner B} {i : ℕ} {search : MiningSearch B}
    (h : Run (· = mid) (Computes (next cfg isMetBy)) ts s)
    (hsearch : mid.searches[i]? = some search) (hclosed : search.contest.closed = true) :
    ∃ search', s.searches[i]? = some search' ∧ search'.contest.closed = true ∧
      ∀ j, workerSteps i j ts + search'.contest.remaining j = search.contest.remaining j := by
  induction h with
  | start hs =>
    rw [hs]
    exact ⟨search, hsearch, hclosed, fun j => by simp [workerSteps]⟩
  | @next ts s s' a h hs ih =>
    obtain ⟨last, hlast, hlastClosed, hcount⟩ := ih
    have happend : ∀ j, workerSteps i j (ts ++ [⟨s, a, s'⟩]) =
        workerSteps i j ts + workerSteps i j [⟨s, a, s'⟩] := fun _ => List.countP_append
    rcases worker_or_moves hs with
      ⟨k, l, old, old', share, rfl, hold, hstepped, hset⟩ | ⟨ha, hmoves⟩
    · obtain ⟨contest, out, hcontest, rfl, -⟩ := MiningSearch.step_eq_some hstepped
      by_cases hk : k = i
      · subst hk
        rw [hlast] at hold
        cases hold
        obtain ⟨hstays, hremaining, -⟩ := Contest.remaining_step_of_closed hlastClosed hcontest
        refine ⟨_, by rw [hset, List.getElem?_set_self (List.getElem?_eq_some_iff.1 hlast).1],
          hstays, fun j => ?_⟩
        have hone : workerSteps k j [⟨s, .worker k l, s'⟩] = if l = j then 1 else 0 := by
          simp [workerSteps, List.countP_singleton]
        have hleft := hremaining j
        have hbefore := hcount j
        rw [happend, hone]
        dsimp only
        omega
      · have hzero : ∀ j, workerSteps i j [⟨s, .worker k l, s'⟩] = 0 := by
          intro j
          simp [workerSteps, hk]
        refine ⟨last, by rw [hset, List.getElem?_set_ne hk, hlast], hlastClosed, fun j => ?_⟩
        rw [happend, hzero]
        exact hcount j
    · have hzero : ∀ j, workerSteps i j [⟨s, a, s'⟩] = 0 := by
        intro j
        cases a with
        | worker k l => exact absurd rfl (ha k l)
        | _ => rfl
      have hi : i < s'.searches.length := by
        have hle := hmoves.works.length_le
        rw [List.length_map, List.length_map] at hle
        exact (List.getElem?_eq_some_iff.1 hlast).1.trans_le hle
      simp only [happend, hzero, Nat.add_zero]
      refine ⟨_, List.getElem?_eq_getElem hi, ?_⟩
      obtain ⟨old, hold, heq⟩ | ⟨hlen, -⟩ := hmoves.getElem? (List.getElem?_eq_getElem hi)
      · rw [hlast] at hold
        cases hold
        rcases heq with heq | heq
        · rw [heq]
          exact ⟨hlastClosed, hcount⟩
        · rw [heq]
          exact ⟨rfl, hcount⟩
      · rw [List.getElem?_eq_none hlen.le] at hlast
        cases hlast

/-- **A search that was called off ends.**  From then on each of its workers takes one step
at most, however the loop and the other workers go on. -/
theorem worker_steps_le {after : List (Transition (RunTestMiner B) LoopAction)}
    {mid : RunTestMiner B} {i : ℕ} {search : MiningSearch B}
    (hafter : Run (· = mid) (Computes (next cfg isMetBy)) after s)
    (hsearch : mid.searches[i]? = some search) (hclosed : search.contest.closed = true) :
    ∀ j, workerSteps i j after ≤ 1 := by
  intro j
  obtain ⟨search', -, -, hcount⟩ := workerSteps_add_remaining hafter hsearch hclosed
  have hle := search.contest.remaining_le_one j
  have hj := hcount j
  omega

theorem worker_steps_le_table : ∃ after, after = trace (next tableConfig tableMeets)
      (tableMinerAfter tableAccepts) [LoopAction.worker 0 0] ∧ workerSteps 0 0 after = 1 ∧
    ∀ j, workerSteps 0 j after ≤ 1 :=
  ⟨_, rfl, by decide, worker_steps_le
    (.ofActions (by rfl) [LoopAction.worker 0 0] (by rfl)) (i := 0) rfl (by rfl)⟩

end RunTestMiner

end TestMiner

end CanaryMining
