import CanaryMining.TestMiner.Loop

/-!
# The shares of the test miner

Each piece of work that the frames bring is searched once, and a search submits one share at
most, in every order in which the loop and the workers take their steps.

## Main definitions

* `worksOf` — the work that the frames of a run brought.
* `FindsShare` — a share that a worker on some work can find.
* `RunTestMiner.Accounted` — where the shares of a state come from.

**Main result:** `submitted_of_run`.
-/

namespace CanaryMining

namespace TestMiner

variable {B : TargetLib}

/-! ## Works -/

/-- The work that workers are spawned for after a stop. -/
def AfterStop.work : AfterStop B → List (MiningWork B)
  | .spawn work => [work]
  | _ => []

/-- The work that waits for the workers to stop. -/
def LoopPhase.pending : LoopPhase B → List (MiningWork B)
  | .stopping _ next => next.work
  | _ => []

/-- The work that a transition brings. -/
def newWorks (t : Transition (RunTestMiner B) LoopAction) : List (MiningWork B) :=
  match t.action with
  | .frame message now =>
    match t.before.miner.handleFrame message now with
    | .ok (.newWork work, _) => [work]
    | _ => []
  | _ => []

/-- The work that the frames of a run brought. -/
def worksOf (ts : List (Transition (RunTestMiner B) LoopAction)) : List (MiningWork B) :=
  ts.flatMap newWorks

namespace MiningSearch

variable {isMetBy : B.Target → Header → Bool} {search search' : MiningSearch B} {j : ℕ}
  {share : Option FoundShare}

@[simp] theorem work_cancel : search.cancel.work = search.work := rfl

@[simp] theorem workerCount_cancel : search.cancel.workerCount = search.workerCount := rfl

/-- A step of a worker is one of its contest. -/
theorem step_eq_some (h : search.step isMetBy j = some (search', share)) :
    ∃ contest out, search.contest.step (meetsTarget isMetBy search.work)
        (nextTurn search.workerCount) j = some (contest, out) ∧
      search' = { search with contest := contest } ∧
        share = out.map (foundShare search.work) := by
  obtain ⟨⟨contest, out⟩, hstep, heq⟩ := Option.map_eq_some_iff.1 h
  cases heq
  exact ⟨contest, out, hstep, rfl, rfl⟩

theorem work_of_step (h : search.step isMetBy j = some (search', share)) :
    search'.work = search.work := by
  obtain ⟨contest, out, -, rfl, -⟩ := step_eq_some h
  rfl

end MiningSearch

namespace RunTestMiner

variable {cfg : TestMinerConfig} {isMetBy : B.Target → Header → Bool} {s s' : RunTestMiner B}
  {a : LoopAction} {ts : List (Transition (RunTestMiner B) LoopAction)}

/-- The work that was searched, and that which waits. -/
def works (s : RunTestMiner B) : List (MiningWork B) :=
  s.searches.map (·.work) ++ s.phase.pending

@[simp] theorem works_afterStop (next : AfterStop B) :
    (s.afterStop cfg next).works = s.searches.map (·.work) ++ next.work := by
  cases next with
  | spawn work => simp [afterStop, works, LoopPhase.pending, AfterStop.work, MiningSearch.spawn]
  | accept =>
    unfold afterStop works
    dsimp only
    split <;> rfl
  | bail outcome => rfl

theorem map_work_modify_cancel (searches : List (MiningSearch B)) (i : ℕ) :
    (searches.modify i MiningSearch.cancel).map (·.work) = searches.map (·.work) := by
  refine List.ext_getElem? fun k => ?_
  rw [List.getElem?_map, List.getElem?_map, List.getElem?_modify]
  cases searches[k]? with
  | none => rfl
  | some search =>
    simp only [Option.map_some]
    split <;> rfl

@[simp] theorem works_stopWorkers (next : AfterStop B) :
    (s.stopWorkers cfg next).works = s.searches.map (·.work) ++ next.work := by
  unfold stopWorkers
  split
  · exact works_afterStop next
  · rw [works, map_work_modify_cancel]
    rfl

theorem works_of_selecting (h : s.phase = .selecting) : s.works = s.searches.map (·.work) := by
  rw [works, h]
  exact List.append_nil _

/-- The works of a search stay the same when a worker takes a step. -/
theorem map_work_set {i : ℕ} {search search' : MiningSearch B}
    (hsearch : s.searches[i]? = some search) (hwork : search'.work = search.work) :
    (s.searches.set i search').map (·.work) = s.searches.map (·.work) := by
  have hmap : (s.searches.map (·.work))[i]? = some search.work := by
    rw [List.getElem?_map, hsearch]
    rfl
  obtain ⟨hi, hget⟩ := List.getElem?_eq_some_iff.1 hmap
  rw [List.map_set, hwork, ← hget, List.set_getElem_self]

/-- **A step searches the work it brings**, at once or after a stop. -/
theorem works_next (h : s.next cfg isMetBy a = some s') :
    s'.works = s.works ++ newWorks ⟨s, a, s'⟩ := by
  cases loopStep_of_next h with
  | worker hsearch hstep =>
    simp only [works, newWorks, List.append_nil]
    rw [map_work_set hsearch (MiningSearch.work_of_step hstep)]
  | frameFailed hphase hframe =>
    rw [works_of_selecting hphase]
    simp [works, newWorks, hframe, fail, LoopPhase.pending]
  | noWork hphase hframe =>
    rw [works_of_selecting hphase]
    simp [works, newWorks, hframe, hphase, LoopPhase.pending]
  | newWork hphase hframe =>
    rw [works_of_selecting hphase, works_stopWorkers]
    simp [newWorks, hframe, AfterStop.work]
  | accepted hphase hfewer =>
    rw [works_of_selecting hphase]
    simp [works, newWorks, MinerState.handleFrame, hphase, LoopPhase.pending]
  | acceptedEnough hphase henough =>
    rw [works_of_selecting hphase, works_stopWorkers]
    simp [newWorks, MinerState.handleFrame, AfterStop.work]
  | badFrame hphase =>
    rw [works_of_selecting hphase]
    simp [works, newWorks, fail, LoopPhase.pending]
  | submitted hphase hshares =>
    rw [works_of_selecting hphase]
    simp [works, newWorks, hphase, LoopPhase.pending]
  | notSubmitted hphase hshares =>
    rw [works_of_selecting hphase]
    simp [works, newWorks, fail, LoopPhase.pending]
  | stops ha houtcome hphase =>
    rw [works_of_selecting hphase, works_stopWorkers]
    obtain rfl | ⟨heard, rfl⟩ := ha <;> simp [newWorks, AfterStop.work]
  | stopped ha hphase =>
    rw [works_afterStop, works, hphase]
    obtain rfl | rfl := ha <;> simp [newWorks, LoopPhase.pending]
  | lingered hphase =>
    rw [works, works, hphase]
    simp [newWorks, LoopPhase.pending]

/-- **The work of the frames is searched in order.** -/
theorem worksOf_of_run {init : RunTestMiner B → Prop} (hinit : ∀ s, init s → s.works = [])
    (h : Run init (Computes (next cfg isMetBy)) ts s) : worksOf ts = s.works := by
  induction h with
  | start hs => exact (hinit _ hs).symm
  | next _ hs ih =>
    rw [works_next hs, ← ih, worksOf, List.flatMap_append]
    simp [worksOf]

/-! ## Where the shares come from -/

end RunTestMiner

/-- A nonce and a time that a worker on some work comes to. -/
def AtTurn (work : MiningWork B) (workerCount : UInt32) (a : UInt32 × UInt32) : Prop :=
  ∃ index < workerCount, ∃ turn, a = turnState workerCount index work.ntime turn

theorem AtTurn.next {work : MiningWork B} {workerCount : UInt32} {a : UInt32 × UInt32}
    (h : AtTurn work workerCount a) : AtTurn work workerCount (nextTurn workerCount a) := by
  obtain ⟨index, hindex, turn, rfl⟩ := h
  exact ⟨index, hindex, turn + 1, rfl⟩

/-- A share that a worker on some work can find: it names the work, some worker comes to its
nonce and time, and the header that these make meets the target. -/
structure FindsShare (isMetBy : B.Target → Header → Bool) (cores : UInt32) (work : MiningWork B)
    (share : FoundShare) : Prop where
  channelId : share.channelId = work.channelId
  jobId : share.jobId = work.jobId
  version : share.version = work.version
  turn : AtTurn work (max cores 1) (share.nonce, share.ntime)
  meets : isMetBy work.target (buildHeader work share.nonce share.ntime) = true

/-- The workers of a search, as they were spawned and have moved on. -/
structure MiningSearch.Valid (isMetBy : B.Target → Header → Bool) (cores : UInt32)
    (search : MiningSearch B) : Prop where
  workerCount : search.workerCount = max cores 1
  contenders : search.contest.contenders.length = (max cores 1).toNat
  along : search.contest.Along (AtTurn search.work (max cores 1))
    (meetsTarget isMetBy search.work)

namespace MiningSearch

variable {isMetBy : B.Target → Header → Bool} {cores : UInt32} {search search' : MiningSearch B}
  {j : ℕ} {share : Option FoundShare}

theorem valid_spawn (work : MiningWork B) : (spawn work cores).Valid isMetBy cores := by
  refine ⟨rfl, by simp [spawn, spawnMiningWorkers], fun place hplace => ?_⟩
  obtain ⟨⟨index, count⟩, hworker, rfl⟩ := List.mem_map.1 hplace
  obtain ⟨rfl, hindex⟩ := mem_spawnMiningWorkers.1 hworker
  exact ⟨index, hindex, 0, rfl⟩

theorem claimed_spawn (work : MiningWork B) : (spawn work cores).contest.Claimed 0 := by
  have hwinners : (spawn work cores).contest.winners = 0 := by
    refine List.countP_eq_zero.2 fun place hplace => ?_
    obtain ⟨worker, -, rfl⟩ := List.mem_map.1 hplace
    simp
  simp [Contest.Claimed, hwinners]

theorem Valid.cancel (h : search.Valid isMetBy cores) : search.cancel.Valid isMetBy cores :=
  ⟨h.workerCount, h.contenders, h.along⟩

/-- **A worker sends a share that the search can find.** -/
theorem Valid.step (h : search.Valid isMetBy cores)
    (hs : search.step isMetBy j = some (search', share)) :
    search'.Valid isMetBy cores ∧
      ∀ found ∈ share, FindsShare isMetBy cores search.work found := by
  obtain ⟨contest, out, hstep, rfl, rfl⟩ := step_eq_some hs
  rw [h.workerCount] at hstep
  obtain ⟨halong, hout⟩ := h.along.step (fun a ha => ha.next) hstep
  refine ⟨⟨h.workerCount, (Contest.length_step hstep).trans h.contenders, halong⟩, ?_⟩
  intro found hfound
  obtain ⟨a, ha, rfl⟩ := Option.map_eq_some_iff.1 hfound
  obtain ⟨hturn, hmeets⟩ := hout a ha
  exact ⟨rfl, rfl, rfl, hturn, hmeets⟩

end MiningSearch

namespace RunTestMiner

variable {cfg : TestMinerConfig} {isMetBy : B.Target → Header → Bool} {s s' : RunTestMiner B}
  {a : LoopAction} {ts : List (Transition (RunTestMiner B) LoopAction)}

/-- How the loop changes the searches: not at all, by calling one off, or by another one. -/
inductive Moves (cfg : TestMinerConfig) (searches : List (MiningSearch B)) :
    List (MiningSearch B) → Prop
  | kept : Moves cfg searches searches
  | cancelled (i : ℕ) : Moves cfg searches (searches.modify i MiningSearch.cancel)
  | spawned (work : MiningWork B) : Moves cfg searches (searches ++ [.spawn work cfg.cores])

/-- A search after such a change. -/
theorem Moves.getElem? {searches searches' : List (MiningSearch B)}
    (h : Moves cfg searches searches') {i : ℕ} {search' : MiningSearch B}
    (hsearch : searches'[i]? = some search') :
    (∃ search, searches[i]? = some search ∧ (search' = search ∨ search' = search.cancel)) ∨
      searches.length = i ∧ ∃ work, search' = .spawn work cfg.cores := by
  cases h with
  | kept => exact .inl ⟨search', hsearch, .inl rfl⟩
  | cancelled k =>
    rw [List.getElem?_modify] at hsearch
    obtain ⟨search, hold, heq⟩ := Option.map_eq_some_iff.1 hsearch
    refine .inl ⟨search, hold, ?_⟩
    split at heq
    · exact .inr heq.symm
    · exact .inl heq.symm
  | spawned work =>
    rcases Nat.lt_trichotomy i searches.length with hlt | rfl | hgt
    · rw [List.getElem?_append_left hlt] at hsearch
      exact .inl ⟨search', hsearch, .inl rfl⟩
    · rw [List.getElem?_concat_length] at hsearch
      cases hsearch
      exact .inr ⟨rfl, work, rfl⟩
    · rw [List.getElem?_eq_none (by simp; omega)] at hsearch
      cases hsearch

/-- The works searched before stay where they are. -/
theorem Moves.works {searches searches' : List (MiningSearch B)}
    (h : Moves cfg searches searches') :
    searches.map (·.work) <+: searches'.map (·.work) := by
  cases h with
  | kept => exact List.prefix_rfl
  | cancelled i => rw [map_work_modify_cancel]
  | spawned work =>
    rw [List.map_append]
    exact List.prefix_append _ _

/-- What a stop and its end leave as they are. -/
structure SameShares (cfg : TestMinerConfig) (s s' : RunTestMiner B) : Prop where
  moves : Moves cfg s.searches s'.searches
  foundShares : s'.foundShares = s.foundShares
  submitted : s'.submitted = s.submitted
  sequenceNumber : s'.sequenceNumber = s.sequenceNumber
  acceptedBlocks : s'.acceptedBlocks = s.acceptedBlocks

theorem sameShares_afterStop (next : AfterStop B) : SameShares cfg s (s.afterStop cfg next) := by
  cases next with
  | spawn work => exact ⟨.spawned work, rfl, rfl, rfl, rfl⟩
  | accept => exact ⟨.kept, rfl, rfl, rfl, rfl⟩
  | bail outcome => exact ⟨.kept, rfl, rfl, rfl, rfl⟩

theorem sameShares_stopWorkers (next : AfterStop B) :
    SameShares cfg s (s.stopWorkers cfg next) := by
  unfold stopWorkers
  split
  · exact sameShares_afterStop next
  · exact ⟨.cancelled _, rfl, rfl, rfl, rfl⟩

/-- The share without its sequence number. -/
def unnumbered (share : FoundShare) : FoundShare := { share with sequenceNumber := 0 }

/-- A share that the search with an index can find. -/
def FoundBy (cfg : TestMinerConfig) (isMetBy : B.Target → Header → Bool)
    (works : List (MiningWork B)) (i : ℕ) (share : FoundShare) : Prop :=
  ∃ work, works[i]? = some work ∧ FindsShare isMetBy cfg.cores work share

theorem FoundBy.mono {works works' : List (MiningWork B)} {i : ℕ} {share : FoundShare}
    (h : FoundBy cfg isMetBy works i share) (hworks : works <+: works') :
    FoundBy cfg isMetBy works' i share := by
  obtain ⟨work, hwork, hfinds⟩ := h
  obtain ⟨rest, rfl⟩ := hworks
  refine ⟨work, ?_, hfinds⟩
  rw [List.getElem?_append_left (List.getElem?_eq_some_iff.1 hwork).1, hwork]

/-- The shares of a list come from different searches, which can find them. -/
def ComeFrom (cfg : TestMinerConfig) (isMetBy : B.Target → Header → Bool)
    (works : List (MiningWork B)) (origins : List ℕ) (shares : List FoundShare) : Prop :=
  List.Forall₂ (FoundBy cfg isMetBy works) origins (shares.map unnumbered)

/-- The searches of a state, with the shares they have sent: where each share comes from, and
that no search can win again. -/
structure Accounted (cfg : TestMinerConfig) (isMetBy : B.Target → Header → Bool)
    (s : RunTestMiner B) (origins : List ℕ) : Prop where
  valid : ∀ (i : ℕ) (search : MiningSearch B), s.searches[i]? = some search →
    search.Valid isMetBy cfg.cores
  comeFrom : ComeFrom cfg isMetBy (s.searches.map (·.work)) origins (s.submitted ++ s.foundShares)
  claimed : ∀ (i : ℕ) (search : MiningSearch B), s.searches[i]? = some search →
    search.contest.Claimed (origins.count i)

namespace Accounted

variable {origins : List ℕ}

theorem start : Accounted cfg isMetBy (RunTestMiner.start cfg) [] := by
  refine ⟨fun i search hsearch => ?_, .nil, fun i search hsearch => ?_⟩
  · simp [RunTestMiner.start] at hsearch
  · simp [RunTestMiner.start] at hsearch

theorem lt_length (h : Accounted cfg isMetBy s origins) {i : ℕ} (hi : i ∈ origins) :
    i < s.searches.length := by
  have hbounded := h.comeFrom.imp fun i share hfound =>
    show i < s.searches.length ∧ FoundBy cfg isMetBy (s.searches.map (·.work)) i share by
      obtain ⟨work, hwork, hfinds⟩ := hfound
      have hlt := (List.getElem?_eq_some_iff.1 hwork).1
      exact ⟨by simpa using hlt, work, hwork, hfinds⟩
  exact ((List.forall₂_and_left _ _).1 hbounded).1 i hi

/-- Each search has sent one share at most. -/
theorem nodup (h : Accounted cfg isMetBy s origins) : origins.Nodup := by
  refine List.nodup_iff_count_le_one.2 fun i => ?_
  by_cases hi : i ∈ origins
  · exact (h.claimed i _ (List.getElem?_eq_getElem (h.lt_length hi))).le_one
  · rw [List.count_eq_zero_of_not_mem hi]
    omega

/-- The loop may change the searches. -/
theorem moves (h : Accounted cfg isMetBy s origins) (hmoves : Moves cfg s.searches s'.searches)
    (hshares : s'.submitted ++ s'.foundShares = s.submitted ++ s.foundShares) :
    Accounted cfg isMetBy s' origins := by
  refine ⟨fun i search hsearch => ?_, ?_, fun i search hsearch => ?_⟩
  · obtain ⟨old, hold, rfl | rfl⟩ | ⟨-, work, rfl⟩ := hmoves.getElem? hsearch
    · exact h.valid i _ hold
    · exact (h.valid i _ hold).cancel
    · exact MiningSearch.valid_spawn work
  · rw [ComeFrom, hshares]
    exact h.comeFrom.imp fun i share hfound => hfound.mono hmoves.works
  · obtain ⟨old, hold, rfl | rfl⟩ | ⟨rfl, work, rfl⟩ := hmoves.getElem? hsearch
    · exact h.claimed i _ hold
    · exact (h.claimed i _ hold).close
    · rw [List.count_eq_zero_of_not_mem fun hi => Nat.lt_irrefl _ (h.lt_length hi)]
      exact MiningSearch.claimed_spawn work

/-- A step of a worker sends a share of its search at most. -/
theorem worker (h : Accounted cfg isMetBy s origins) {i j : ℕ} {search search' : MiningSearch B}
    {share : Option FoundShare} (hsearch : s.searches[i]? = some search)
    (hstep : search.step isMetBy j = some (search', share)) :
    ∃ origins', Accounted cfg isMetBy { s with
      searches := s.searches.set i search'
      foundShares := if s.receiving then s.foundShares ++ share.toList else s.foundShares }
      origins' := by
  obtain ⟨hvalid, hfinds⟩ := (h.valid i search hsearch).step hstep
  obtain ⟨contest, out, hcontest, rfl, hshare⟩ := MiningSearch.step_eq_some hstep
  have hworks : (s.searches.set i { search with contest := contest }).map (·.work) =
      s.searches.map (·.work) := map_work_set hsearch rfl
  have hi := (List.getElem?_eq_some_iff.1 hsearch).1
  -- The searches, after a step that made `k` shares known.
  have hafter : ∀ origins' : List ℕ, (∀ k, k ≠ i → origins'.count k = origins.count k) →
      origins'.count i ≤ origins.count i + out.toList.length →
      ∀ (k : ℕ) (other : MiningSearch B),
        (s.searches.set i { search with contest := contest })[k]? = some other →
          other.Valid isMetBy cfg.cores ∧ other.contest.Claimed (origins'.count k) := by
    intro origins' hne hcount k other hother
    by_cases hk : k = i
    · subst hk
      rw [List.getElem?_set_self hi] at hother
      cases hother
      exact ⟨hvalid, ((h.claimed k search hsearch).step hcontest).mono hcount⟩
    · rw [List.getElem?_set_ne (Ne.symm hk)] at hother
      rw [hne k hk]
      exact ⟨h.valid k other hother, h.claimed k other hother⟩
  have hkept := hafter origins (fun _ _ => rfl) (by omega)
  cases hreceiving : s.receiving with
  | false =>
    refine ⟨origins, fun k other hother => (hkept k other hother).1, ?_,
      fun k other hother => (hkept k other hother).2⟩
    simpa [hworks] using h.comeFrom
  | true =>
    cases hout : out with
    | none =>
      refine ⟨origins, fun k other hother => (hkept k other hother).1, ?_,
        fun k other hother => (hkept k other hother).2⟩
      simpa [hworks, hshare, hout] using h.comeFrom
    | some a =>
      have hmore := hafter (origins ++ [i])
        (fun k hk => by rw [List.count_append, List.count_singleton]; simp [Ne.symm hk])
        (by rw [List.count_append, hout]; simp)
      refine ⟨origins ++ [i], fun k other hother => (hmore k other hother).1, ?_,
        fun k other hother => (hmore k other hother).2⟩
      have hfound : FoundBy cfg isMetBy (s.searches.map (·.work)) i
          (unnumbered (foundShare search.work a)) := by
        have hfinds := hfinds (foundShare search.work a) (by rw [hshare, hout]; rfl)
        refine ⟨search.work, by rw [List.getElem?_map, hsearch]; rfl, ?_⟩
        exact ⟨hfinds.channelId, hfinds.jobId, hfinds.version, hfinds.turn, hfinds.meets⟩
      have hall := List.rel_append h.comeFrom (List.Forall₂.cons hfound .nil)
      rw [hshare, hout]
      simpa [ComeFrom, hworks] using hall

/-- The first share in the queue is submitted, with a number. -/
theorem submit (h : Accounted cfg isMetBy s origins) {share : FoundShare}
    {shares : List FoundShare} (hshares : s.foundShares = share :: shares) (number : UInt32) :
    Accounted cfg isMetBy { s with
      sequenceNumber := number
      foundShares := shares
      submitted := s.submitted ++ [{ share with sequenceNumber := number }] } origins := by
  refine ⟨h.valid, ?_, h.claimed⟩
  have hcome := h.comeFrom
  rw [hshares] at hcome
  simpa [ComeFrom, unnumbered] using hcome

/-- The first share in the queue is lost. -/
theorem lose (h : Accounted cfg isMetBy s origins) {share : FoundShare}
    {shares : List FoundShare} (hshares : s.foundShares = share :: shares) (number : UInt32)
    (e : Text) :
    ∃ origins', Accounted cfg isMetBy
      ({ s with sequenceNumber := number, foundShares := shares }.fail e) origins' := by
  have hcome := h.comeFrom
  rw [ComeFrom, hshares, List.map_append, List.map_cons] at hcome
  have hbefore := List.forall₂_take_append _ _ _ hcome
  have hafter := List.forall₂_drop 1 (List.forall₂_drop_append _ _ _ hcome)
  rw [List.drop_drop, List.drop_one, List.tail_cons] at hafter
  refine ⟨origins.eraseIdx (s.submitted.map unnumbered).length, h.valid, ?_,
    fun i search hsearch => (h.claimed i search hsearch).mono ?_⟩
  · have hall := List.rel_append hbefore hafter
    dsimp only at hall
    rw [← List.eraseIdx_eq_take_drop_succ] at hall
    simpa [ComeFrom, fail] using hall
  · exact (List.eraseIdx_sublist ..).count_le i

end Accounted

/-- A stop keeps the account of the shares. -/
theorem Accounted.stops {origins : List ℕ} (h : Accounted cfg isMetBy s origins)
    (next : AfterStop B) : Accounted cfg isMetBy (s.stopWorkers cfg next) origins := by
  have hsame : SameShares cfg s (s.stopWorkers cfg next) := sameShares_stopWorkers next
  exact h.moves hsame.moves (by rw [hsame.submitted, hsame.foundShares])

/-- **A step keeps the account** of the shares. -/
theorem Accounted.next {origins : List ℕ} (h : Accounted cfg isMetBy s origins)
    (hs : s.next cfg isMetBy a = some s') : ∃ origins', Accounted cfg isMetBy s' origins' := by
  cases loopStep_of_next hs with
  | worker hsearch hstep => exact h.worker hsearch hstep
  | frameFailed hphase hframe => exact ⟨origins, h.moves .kept rfl⟩
  | noWork hphase hframe => exact ⟨origins, h.moves .kept rfl⟩
  | newWork hphase hframe =>
    rename_i message now work miner
    have hmoved : Accounted cfg isMetBy { s with miner := miner } origins := h.moves .kept rfl
    exact ⟨origins, hmoved.stops _⟩
  | accepted hphase hfewer => exact ⟨origins, h.moves .kept rfl⟩
  | acceptedEnough hphase henough =>
    have hcounted : Accounted cfg isMetBy { s with acceptedBlocks := s.acceptedBlocks + 1 }
        origins := h.moves .kept rfl
    exact ⟨origins, hcounted.stops _⟩
  | badFrame hphase => exact ⟨origins, h.moves .kept rfl⟩
  | submitted hphase hshares => exact ⟨origins, h.submit hshares _⟩
  | notSubmitted hphase hshares => exact h.lose hshares _ _
  | stops ha houtcome hphase => exact ⟨origins, h.stops _⟩
  | stopped ha hphase =>
    rename_i i next
    have hsame : SameShares cfg s (s.afterStop cfg next) := sameShares_afterStop next
    exact ⟨origins, h.moves hsame.moves (by rw [hsame.submitted, hsame.foundShares])⟩
  | lingered hphase => exact ⟨origins, h.moves .kept rfl⟩

theorem accounted_of_run (h : Run (· = start cfg) (Computes (next cfg isMetBy)) ts s) :
    ∃ origins, Accounted cfg isMetBy s origins := by
  induction h with
  | start hs =>
    rw [hs]
    exact ⟨[], Accounted.start⟩
  | next _ hs ih =>
    obtain ⟨origins, haccounted⟩ := ih
    exact haccounted.next hs

/-! ## Sequence numbers -/

/-- The numbers of the submitted shares count them; the last number is that of the miner, as
long as the loop has not ended. -/
structure Numbered (s : RunTestMiner B) : Prop where
  numbers : s.submitted.map (·.sequenceNumber) =
    (List.range s.submitted.length).map fun k => UInt32.ofNat (k + 1)
  last : s.receiving = true → s.sequenceNumber = UInt32.ofNat s.submitted.length

theorem numbered_start : (start cfg : RunTestMiner B).Numbered := ⟨rfl, fun _ => rfl⟩

theorem receiving_of_selecting (h : s.phase = .selecting) : s.receiving = true := by
  rw [receiving, h]

namespace Numbered

/-- What changes neither the shares nor the numbers. -/
theorem same (h : s.Numbered) (hsubmitted : s'.submitted = s.submitted)
    (hnumber : s'.sequenceNumber = s.sequenceNumber) (hreceiving : s.receiving = true) :
    s'.Numbered := by
  refine ⟨by rw [hsubmitted]; exact h.numbers, fun _ => ?_⟩
  rw [hsubmitted, hnumber]
  exact h.last hreceiving

theorem stops (h : s.Numbered) (hreceiving : s.receiving = true) (next : AfterStop B) :
    (s.stopWorkers cfg next).Numbered := by
  have hsame : SameShares cfg s (s.stopWorkers cfg next) := sameShares_stopWorkers next
  exact h.same hsame.submitted hsame.sequenceNumber hreceiving

theorem next (h : s.Numbered) (hs : s.next cfg isMetBy a = some s') : s'.Numbered := by
  cases loopStep_of_next hs with
  | worker hsearch hstep => exact ⟨h.numbers, h.last⟩
  | frameFailed hphase hframe => exact h.same rfl rfl (receiving_of_selecting hphase)
  | noWork hphase hframe => exact h.same rfl rfl (receiving_of_selecting hphase)
  | newWork hphase hframe =>
    rename_i message now work miner
    have hmoved : Numbered { s with miner := miner } := ⟨h.numbers, h.last⟩
    exact hmoved.stops (receiving_of_selecting hphase) _
  | accepted hphase hfewer => exact h.same rfl rfl (receiving_of_selecting hphase)
  | acceptedEnough hphase henough =>
    have hcounted : Numbered { s with acceptedBlocks := s.acceptedBlocks + 1 } :=
      ⟨h.numbers, h.last⟩
    exact hcounted.stops (receiving_of_selecting hphase) _
  | badFrame hphase => exact h.same rfl rfl (receiving_of_selecting hphase)
  | submitted hphase hshares =>
    have hlast := h.last (receiving_of_selecting hphase)
    have hnext : s.sequenceNumber + 1 = UInt32.ofNat (s.submitted.length + 1) := by
      rw [hlast, UInt32.ofNat_add]
      rfl
    refine ⟨?_, fun _ => ?_⟩
    · simp only [List.map_append, List.map_cons, List.map_nil, List.length_append,
        List.length_singleton, List.range_succ]
      rw [h.numbers, hnext]
    · simpa using hnext
  | notSubmitted hphase hshares => exact ⟨h.numbers, nofun⟩
  | stops ha houtcome hphase => exact h.stops (receiving_of_selecting hphase) _
  | stopped ha hphase =>
    rename_i i next
    have hsame : SameShares cfg s (s.afterStop cfg next) := sameShares_afterStop next
    exact h.same hsame.submitted hsame.sequenceNumber (by rw [receiving, hphase])
  | lingered hphase => exact h.same rfl rfl (by rw [receiving, hphase])

end Numbered

/-- **What is submitted.**  In every run, the shares are numbered from one on, and come from
different pieces of work that the frames brought; each was found by a worker on its work. -/
theorem submitted_of_run (h : Run (· = start cfg) (Computes (next cfg isMetBy)) ts s) :
    s.submitted.map (·.sequenceNumber) =
        ((List.range s.submitted.length).map fun k => UInt32.ofNat (k + 1)) ∧
      ∃ origins : List ℕ, origins.Nodup ∧
        List.Forall₂ (fun i share => ∃ work, (worksOf ts)[i]? = some work ∧
          FindsShare isMetBy cfg.cores work share) origins s.submitted := by
  have hnumbered : s.Numbered := h.invariant (fun s hs => by rw [hs]; exact numbered_start)
    fun s a s' hI hs => hI.next hs
  obtain ⟨origins, haccounted⟩ := accounted_of_run h
  have hworks : worksOf ts = s.works := worksOf_of_run (fun s hs => by rw [hs]; rfl) h
  have hnodup := (List.take_sublist s.submitted.length _).nodup haccounted.nodup
  refine ⟨hnumbered.numbers, _, hnodup, ?_⟩
  have hcome := haccounted.comeFrom
  rw [ComeFrom, List.map_append] at hcome
  have hsubmitted := List.forall₂_take_append _ _ _ hcome
  rw [List.length_map, List.forall₂_map_right_iff] at hsubmitted
  refine hsubmitted.imp fun i share hfound => ?_
  obtain ⟨work, hwork, hfinds⟩ := hfound.mono (List.prefix_append _ s.phase.pending)
  exact ⟨work, hworks ▸ hwork, hfinds.channelId, hfinds.jobId, hfinds.version, hfinds.turn,
    hfinds.meets⟩

theorem submitted_of_run_table :
    (tableMinerAfter tableSubmits).submitted.map (·.sequenceNumber) =
        ((List.range (tableMinerAfter tableSubmits).submitted.length).map
          fun k => UInt32.ofNat (k + 1)) ∧
      ∃ origins : List ℕ, origins.Nodup ∧
        List.Forall₂ (fun i share => ∃ work, (worksOf (tableMinerTrace tableSubmits))[i]? =
            some work ∧ FindsShare tableMeets tableConfig.cores work share)
          origins (tableMinerAfter tableSubmits).submitted :=
  submitted_of_run (tableMinerRun tableSubmits (by rfl))

end RunTestMiner

end TestMiner

end CanaryMining
