import CanaryMining.Lib.Contest
import CanaryMining.Lib.Run
import CanaryMining.NonceSearch

/-!
# The loop of the test miner

`run_test_miner` waits for four things at once: a frame from the pool, a share that a worker
found, a timeout, and an interrupt.  A frame that brings new work stops the workers and
starts others; stopping sets the flag the workers share and waits for them, but not for
longer than two seconds.  So workers of several searches can be on their way at once, and
a share can still be waiting in the queue when its search was replaced.

The workers of a search are the contenders of a `Contest`: the first to set the flag sends
its share.  A run interleaves their steps with those of the loop in any order.

## Main definitions

* `MiningSearch` — `MiningWorkers`, with the work they search.
* `RunTestMiner`, `LoopPhase` — the state of the loop, and where it is.
* `RunTestMiner.next` — a step of the loop, or of a worker.
-/

namespace CanaryMining

namespace TestMiner

variable {B : TargetLib}

/-- A frame is handled as an accepted share only if it says so. -/
theorem MinerState.acceptedShare_eq_ok {s s' : MinerState B} {message : MiningMessage}
    {now : UInt32} (h : s.handleFrame message now = .ok (.acceptedShare, s')) :
    message = .submitSharesSuccess ∧ s' = s := by
  have hofWork : ∀ work : Option (MiningWork B), FrameOutcome.ofWork work ≠ .acceptedShare := by
    intro work
    cases work <;> nofun
  cases message with
  | submitSharesSuccess =>
    cases h
    exact ⟨rfl, rfl⟩
  | submitSharesError | other => cases h
  | _ =>
    obtain ⟨work, -, heq⟩ := exists_of_answer h
    exact absurd heq.symm (hofWork work)

/-! ## Searches -/

/-- `MiningWorkers`, with the work they were spawned for.  A worker's value is its nonce and
its time. -/
structure MiningSearch (B : TargetLib) where
  work : MiningWork B
  workerCount : UInt32
  contest : Contest (UInt32 × UInt32)

/-- Whether the header with a nonce and a time meets the target of the work. -/
def meetsTarget (isMetBy : B.Target → Header → Bool) (work : MiningWork B)
    (a : UInt32 × UInt32) : Bool :=
  isMetBy work.target (buildHeader work a.1 a.2)

/-- The end of a turn of `mine_worker`. -/
def nextTurn (workerCount : UInt32) (a : UInt32 × UInt32) : UInt32 × UInt32 :=
  (nextNonce workerCount a.1, nextNtime workerCount a.1 a.2)

/-- The share a worker sends. -/
def foundShare (work : MiningWork B) (a : UInt32 × UInt32) : FoundShare :=
  ⟨work.channelId, 0, work.jobId, a.1, a.2, work.version⟩

namespace MiningSearch

/-- `spawn_mining_workers`. -/
def spawn (work : MiningWork B) (cores : UInt32) : MiningSearch B :=
  let workers := spawnMiningWorkers cores
  ⟨work, max cores 1,
    ⟨false, workers.map fun worker => Contender.running (worker.1, work.ntime)⟩⟩

/-- The next step of a worker, in `mine_worker`, and the share it sends. -/
def step (isMetBy : B.Target → Header → Bool) (search : MiningSearch B) (j : ℕ) :
    Option (MiningSearch B × Option FoundShare) :=
  (search.contest.step (meetsTarget isMetBy search.work) (nextTurn search.workerCount) j).map
    fun stepped =>
      ({ search with contest := stepped.1 }, stepped.2.map (foundShare search.work))

/-- The flag of the workers is set. -/
def cancel (search : MiningSearch B) : MiningSearch B :=
  { search with contest := search.contest.close }

end MiningSearch

/-! ## The loop -/

/-- How `run_test_miner` ends. -/
inductive MinerOutcome
  | accepted (blocks : UInt32)
  | timedOut
  | interrupted
  | failed (error : Text)
  deriving DecidableEq

/-- What the loop goes on with once the workers are stopped. -/
inductive AfterStop (B : TargetLib)
  | spawn (work : MiningWork B)
  | accept
  | bail (outcome : MinerOutcome)

/-- Where the loop is: selecting, waiting for the workers of a search to stop, lingering, or
at its end. -/
inductive LoopPhase (B : TargetLib)
  | selecting
  | stopping (search : ℕ) (next : AfterStop B)
  | lingering
  | finished (outcome : MinerOutcome)

/-- `TestMinerConfig`, what the loop uses of it. -/
structure TestMinerConfig where
  stopAfterAcceptedBlocks : UInt32
  lingersAfterAccepted : Bool
  cores : UInt32
  shareMode : ShareMode

/-- The state of `run_test_miner` and its workers.  `sequenceNumber` is that of the miner's
state, `searches` are all that were spawned, and `current` is that of `current_workers`. -/
structure RunTestMiner (B : TargetLib) where
  miner : MinerState B
  sequenceNumber : UInt32
  searches : List (MiningSearch B)
  current : Option ℕ
  foundShares : List FoundShare
  submitted : List FoundShare
  acceptedBlocks : UInt32
  phase : LoopPhase B

/-- What happens next: a step of a worker, one of the branches of the `select!`, or the end of
a wait. -/
inductive LoopAction
  | worker (search worker : ℕ)
  | frame (message : MiningMessage) (now : UInt32)
  | badFrame (error : Text)
  | shareFound (sent : Bool)
  | timeout
  | ctrlC (heard : Bool)
  | workersJoined
  | workersLate
  | lingered

namespace RunTestMiner

variable (cfg : TestMinerConfig) (isMetBy : B.Target → Header → Bool) (s : RunTestMiner B)

/-- The loop is entered. -/
def start : RunTestMiner B := ⟨.new cfg.shareMode, 0, [], none, [], [], 0, .selecting⟩

/-- The loop, once the workers are stopped. -/
def afterStop : AfterStop B → RunTestMiner B
  | .spawn work =>
    { s with
      searches := s.searches ++ [.spawn work cfg.cores]
      current := some s.searches.length
      phase := .selecting }
  | .accept =>
    { s with
      phase := if cfg.lingersAfterAccepted then .lingering
        else .finished (.accepted s.acceptedBlocks) }
  | .bail outcome => { s with phase := .finished outcome }

/-- `stop_workers`, with what comes after it. -/
def stopWorkers (next : AfterStop B) : RunTestMiner B :=
  match s.current with
  | none => s.afterStop cfg next
  | some i =>
    { s with
      current := none
      searches := s.searches.modify i MiningSearch.cancel
      phase := .stopping i next }

/-- The loop leaves with an error.  It does not stop the workers. -/
def fail (error : Text) : RunTestMiner B := { s with phase := .finished (.failed error) }

/-- The loop still receives shares. -/
def receiving : Bool :=
  match s.phase with
  | .finished _ => false
  | _ => true

/-- An accepted share. -/
def acceptedShare : RunTestMiner B :=
  let counted := { s with acceptedBlocks := s.acceptedBlocks + 1 }
  if cfg.stopAfterAcceptedBlocks ≤ counted.acceptedBlocks then counted.stopWorkers cfg .accept
  else counted

/-- A frame of the pool. -/
def receiveFrame (message : MiningMessage) (now : UInt32) : RunTestMiner B :=
  match s.miner.handleFrame message now with
  | .error e => s.fail e
  | .ok (.noWork, miner) => { s with miner := miner }
  | .ok (.newWork work, miner) => { s with miner := miner }.stopWorkers cfg (.spawn work)
  | .ok (.acceptedShare, miner) => { s with miner := miner }.acceptedShare cfg

/-- A step of the miner. -/
def next : LoopAction → Option (RunTestMiner B)
  | .worker i j =>
    match s.searches[i]? with
    | none => none
    | some search =>
      match search.step isMetBy j with
      | none => none
      | some (search', share) =>
        some { s with
          searches := s.searches.set i search'
          foundShares :=
            if s.receiving then s.foundShares ++ share.toList else s.foundShares }
  | .frame message now =>
    match s.phase with
    | .selecting => some (s.receiveFrame cfg message now)
    | _ => none
  | .badFrame e =>
    match s.phase with
    | .selecting => some (s.fail e)
    | _ => none
  | .shareFound sent =>
    match s.phase, s.foundShares with
    | .selecting, share :: shares =>
      let sequenceNumber := s.sequenceNumber + 1
      let taken := { s with sequenceNumber := sequenceNumber, foundShares := shares }
      if sent then
        some { taken with
          submitted := s.submitted ++ [{ share with sequenceNumber := sequenceNumber }] }
      else some (taken.fail "failed to send mining message".toList)
    | _, _ => none
  | .timeout =>
    match s.phase with
    | .selecting => some (s.stopWorkers cfg (.bail .timedOut))
    | _ => none
  | .ctrlC heard =>
    match s.phase with
    | .selecting =>
      some (s.stopWorkers cfg (.bail
        (if heard then .interrupted else .failed "failed to listen for Ctrl-C".toList)))
    | _ => none
  | .workersJoined =>
    match s.phase with
    | .stopping i next =>
      if s.searches[i]?.all (·.contest.active = 0) then some (s.afterStop cfg next) else none
    | _ => none
  | .workersLate =>
    match s.phase with
    | .stopping _ next => some (s.afterStop cfg next)
    | _ => none
  | .lingered =>
    match s.phase with
    | .lingering => some { s with phase := .finished (.accepted s.acceptedBlocks) }
    | _ => none

/-! ## What a step does -/

/-- The steps of the miner: when each is taken, and the state it leads to. -/
inductive LoopStep : LoopAction → RunTestMiner B → Prop
  | worker {i j : ℕ} {search search' : MiningSearch B} {share : Option FoundShare}
      (hsearch : s.searches[i]? = some search)
      (hstep : search.step isMetBy j = some (search', share)) :
      LoopStep (.worker i j) { s with
        searches := s.searches.set i search'
        foundShares := if s.receiving then s.foundShares ++ share.toList else s.foundShares }
  | frameFailed {message : MiningMessage} {now : UInt32} {e : Text}
      (hphase : s.phase = .selecting) (hframe : s.miner.handleFrame message now = .error e) :
      LoopStep (.frame message now) (s.fail e)
  | noWork {message : MiningMessage} {now : UInt32} {miner : MinerState B}
      (hphase : s.phase = .selecting)
      (hframe : s.miner.handleFrame message now = .ok (.noWork, miner)) :
      LoopStep (.frame message now) { s with miner := miner }
  | newWork {message : MiningMessage} {now : UInt32} {work : MiningWork B} {miner : MinerState B}
      (hphase : s.phase = .selecting)
      (hframe : s.miner.handleFrame message now = .ok (.newWork work, miner)) :
      LoopStep (.frame message now) ({ s with miner := miner }.stopWorkers cfg (.spawn work))
  | accepted {now : UInt32} (hphase : s.phase = .selecting)
      (hfewer : s.acceptedBlocks + 1 < cfg.stopAfterAcceptedBlocks) :
      LoopStep (.frame .submitSharesSuccess now)
        { s with acceptedBlocks := s.acceptedBlocks + 1 }
  | acceptedEnough {now : UInt32} (hphase : s.phase = .selecting)
      (henough : cfg.stopAfterAcceptedBlocks ≤ s.acceptedBlocks + 1) :
      LoopStep (.frame .submitSharesSuccess now)
        ({ s with acceptedBlocks := s.acceptedBlocks + 1 }.stopWorkers cfg .accept)
  | badFrame {e : Text} (hphase : s.phase = .selecting) : LoopStep (.badFrame e) (s.fail e)
  | submitted {share : FoundShare} {shares : List FoundShare} (hphase : s.phase = .selecting)
      (hshares : s.foundShares = share :: shares) :
      LoopStep (.shareFound true) { s with
        sequenceNumber := s.sequenceNumber + 1
        foundShares := shares
        submitted := s.submitted ++ [{ share with sequenceNumber := s.sequenceNumber + 1 }] }
  | notSubmitted {share : FoundShare} {shares : List FoundShare} {e : Text}
      (hphase : s.phase = .selecting) (hshares : s.foundShares = share :: shares) :
      LoopStep (.shareFound false)
        ({ s with sequenceNumber := s.sequenceNumber + 1, foundShares := shares }.fail e)
  | stops {a : LoopAction} {outcome : MinerOutcome}
      (ha : a = .timeout ∨ ∃ heard, a = .ctrlC heard)
      (houtcome : ∀ blocks, outcome ≠ .accepted blocks)
      (hphase : s.phase = .selecting) : LoopStep a (s.stopWorkers cfg (.bail outcome))
  | stopped {a : LoopAction} {i : ℕ} {next : AfterStop B}
      (ha : a = .workersJoined ∨ a = .workersLate) (hphase : s.phase = .stopping i next) :
      LoopStep a (s.afterStop cfg next)
  | lingered (hphase : s.phase = .lingering) :
      LoopStep .lingered { s with phase := .finished (.accepted s.acceptedBlocks) }

variable {cfg isMetBy s} {s' : RunTestMiner B} {a : LoopAction}

theorem loopStep_receiveFrame {message : MiningMessage} {now : UInt32}
    (hphase : s.phase = .selecting) :
    s.LoopStep cfg isMetBy (.frame message now) (s.receiveFrame cfg message now) := by
  unfold receiveFrame
  split
  · rename_i e hframe
    exact .frameFailed hphase hframe
  · rename_i miner hframe
    exact .noWork hphase hframe
  · rename_i work miner hframe
    exact .newWork hphase hframe
  · rename_i miner hframe
    obtain ⟨rfl, rfl⟩ := MinerState.acceptedShare_eq_ok hframe
    unfold acceptedShare
    dsimp only
    split
    · rename_i henough
      exact .acceptedEnough hphase henough
    · rename_i hfewer
      exact .accepted hphase (UInt32.not_le.1 hfewer)

/-- **What a step of the miner does.** -/
theorem loopStep_of_next (h : s.next cfg isMetBy a = some s') : s.LoopStep cfg isMetBy a s' := by
  cases a with
  | worker i j =>
    simp only [next] at h
    split at h
    · cases h
    · rename_i search hsearch
      split at h
      · cases h
      · rename_i search' share hstep
        cases h
        exact .worker hsearch hstep
  | frame message now =>
    simp only [next] at h
    split at h
    · rename_i hphase
      cases h
      exact loopStep_receiveFrame hphase
    · cases h
  | badFrame e =>
    simp only [next] at h
    split at h
    · rename_i hphase
      cases h
      exact .badFrame hphase
    · cases h
  | shareFound sent =>
    simp only [next] at h
    split at h
    · rename_i share shares hphase hshares
      cases sent with
      | true =>
        cases h
        exact .submitted hphase hshares
      | false =>
        cases h
        exact .notSubmitted hphase hshares
    · cases h
  | timeout =>
    simp only [next] at h
    split at h
    · rename_i hphase
      cases h
      exact .stops (.inl rfl) nofun hphase
    · cases h
  | ctrlC heard =>
    simp only [next] at h
    split at h
    · rename_i hphase
      cases h
      refine .stops (.inr ⟨heard, rfl⟩) (fun blocks => ?_) hphase
      cases heard <;> nofun
    · cases h
  | workersJoined =>
    simp only [next] at h
    split at h
    · rename_i i next hphase
      split at h
      · cases h
        exact .stopped (.inl rfl) hphase
      · cases h
    · cases h
  | workersLate =>
    simp only [next] at h
    split at h
    · rename_i i next hphase
      cases h
      exact .stopped (.inr rfl) hphase
    · cases h
  | lingered =>
    simp only [next] at h
    split at h
    · rename_i hphase
      cases h
      exact .lingered hphase
    · cases h

end RunTestMiner

/-! ## A miner with two workers -/

/-- Two workers, and a stop after one accepted block. -/
def tableConfig : TestMinerConfig := ⟨1, false, 2, .blockOnly⟩

/-- Headers with nonce one meet every target. -/
def tableMeets (_ : plainTargets.Target) (header : Header) : Bool := header.nonce = 1

/-- The channel is opened, and a job and its tip arrive. -/
def tableOpens : List LoopAction := openingFrames.map fun frame => .frame frame.1 frame.2

/-- The worker that starts at nonce one finds a share. -/
def tableFinds : List LoopAction := tableOpens ++ [.worker 0 1]

/-- It claims the share. -/
def tableClaims : List LoopAction := tableFinds ++ [.worker 0 1]

/-- The share is sent to the loop and submitted. -/
def tableSubmits : List LoopAction := tableClaims ++ [.worker 0 1, .shareFound true]

/-- The share is accepted. -/
def tableAccepts : List LoopAction := tableSubmits ++ [.frame .submitSharesSuccess 102]

/-- The state of the table miner after some actions. -/
def tableMinerAfter (actions : List LoopAction) : RunTestMiner plainTargets :=
  (actions.foldlM (RunTestMiner.next tableConfig tableMeets) (.start tableConfig)).getD
    (.start tableConfig)

/-- The transitions of some actions. -/
def tableMinerTrace (actions : List LoopAction) :
    List (Transition (RunTestMiner plainTargets) LoopAction) :=
  trace (RunTestMiner.next tableConfig tableMeets) (.start tableConfig) actions

/-- Enabled actions make a run of the table miner. -/
theorem tableMinerRun {s : RunTestMiner plainTargets} (actions : List LoopAction)
    (h : actions.foldlM (RunTestMiner.next tableConfig tableMeets) (.start tableConfig) = some s) :
    Run (· = .start tableConfig) (Computes (RunTestMiner.next tableConfig tableMeets))
      (tableMinerTrace actions) s :=
  .ofActions (by rfl) actions h

end TestMiner

end CanaryMining
