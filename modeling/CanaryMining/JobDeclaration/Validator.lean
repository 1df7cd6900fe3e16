import CanaryMining.JobDeclaration.Mirror
import CanaryMining.Lib.Run
import CanaryMining.Lib.Text

/-!
# The validator of declared jobs

Two tasks share the mirror on one thread.  The handler takes one request after the other:
it answers at once where transactions are missing, else it asks the node to check the block
of the job and, if the node rejects it, forces a refresh of the mirror before it says why.
The monitor follows the node's templates.  Each task gives way to the other only where it
waits for the node, so what lies between two such points is one step.

What the node answers is part of the action.  A request that cannot be built fails as if
the node had answered with the error.

## Main definitions

* `DeclaredJob`, `JdRequest`, `JdResponse`, `ValidationContext` — what is exchanged.
* `HandlerPhase`, `MirrorMonitorPhase`, `Validator` — the state of the two tasks.
* `ValidatorAction`, `Validator.next` — their steps.
* `Validator.Ready` — the validator when it signals readiness.
* `Validator.HandlerStep` — what a step of the handler does.
* `TableTx`, `tableValidator` — a validator over a table of transactions.
-/

namespace CanaryMining

open BitcoinTransaction

variable {Tx Client : Type}

/-- `ValidationContext`. -/
structure ValidationContext where
  prevHash : BlockHash
  nbits : UInt32
  minNtime : UInt32
  deriving DecidableEq, Repr

/-- `JdRequest::DeclareMiningJob`, without the sender of the response. -/
structure DeclaredJob (Tx : Type) where
  version : Int32
  coinbaseTx : Tx
  wtxidList : List TxHash
  missingTxs : List Tx

/-- `JdRequest`. -/
inductive JdRequest (Tx : Type)
  | declareMiningJob (job : DeclaredJob Tx)
  | pushSolution

/-- `JdResponse`. -/
inductive JdResponse
  | success (prevHash : BlockHash) (nbits minNtime : UInt32) (txidList : List TxHash)
  | error (errorCode : Text) (validationContext : ValidationContext)
  | missingTransactions (missingWtxids : List TxHash) (validationContext : ValidationContext)
  deriving DecidableEq, Repr

/-- An error of an IPC request, by `is_thread_busy`. -/
inductive IpcError
  | threadBusy
  | other
  deriving DecidableEq, Repr

/-- The parameters and the height of the mirror's last template; the code expects all of
them to be set. -/
def MempoolMirror.context? (m : MempoolMirror Tx) : Option (ValidationContext × UInt32) := do
  let prevHash ← m.currentPrevHash
  let nbits ← m.currentNbits
  let minNtime ← m.currentMinNtime
  let height ← m.currentBip34Height
  pure (⟨prevHash, nbits, minNtime⟩, height)

/-- A job all of whose transactions were found, with what the mirror said then. -/
structure CheckedJob (Tx : Type) where
  job : DeclaredJob Tx
  context : ValidationContext
  height : UInt32
  txdata : List Tx

/-- The block that the node is asked to check.  Its merkle root and nonce do not matter. -/
def CheckedJob.block (c : CheckedJob Tx) : Block Tx where
  header :=
    { version := c.job.version
      prevBlockhash := c.context.prevHash
      merkleRoot := 0
      time := c.context.minNtime
      bits := c.context.nbits
      nonce := 0 }
  txdata := c.job.coinbaseTx :: c.txdata

/-- `MAX_ATTEMPTS` of `force_update_mempool_mirror`. -/
def maxAttempts : ℕ := 3

/-- Where the handler is. -/
inductive HandlerPhase (Tx Client : Type)
  /-- It waits for a request. -/
  | waiting
  /-- It waits for the answer to `checkBlock`. -/
  | checkingBlock (c : CheckedJob Tx)
  /-- It waits for a template, in an attempt of `force_update_mempool_mirror`. -/
  | creatingBlock (c : CheckedJob Tx) (attempt : ℕ)
  /-- It waits for the block of that template. -/
  | gettingBlock (c : CheckedJob Tx) (attempt : ℕ) (client : Client)
  /-- It sleeps before the next attempt. -/
  | backingOff (c : CheckedJob Tx) (attempt : ℕ)
  /-- It has left its loop and waits for the monitor. -/
  | joining
  | stopped
  | panicked

/-- Where the monitor is. -/
inductive MirrorMonitorPhase (Client : Type)
  /-- It waits for a thread of its own. -/
  | starting
  /-- It waits for the next template. -/
  | waitingNext (client : Client)
  /-- It waits for the block of a template. -/
  | gettingBlock (client : Client)
  | stopped

/-- The answer to `waitNext`. -/
inductive WaitNextReply (Client : Type)
  | failed (e : IpcError)
  /-- The response, or the template in it, cannot be read. -/
  | unreadable
  /-- The wait timed out: the response holds no template. -/
  | noTemplate
  | template (client : Client)

/-- `BitcoinCoreSv2JDP` with its two tasks, and the responses that were sent, each with the
job it answers. -/
structure Validator (Tx Client : Type) where
  mempoolMirror : MempoolMirror Tx
  currentTemplateIpcClient : Client
  cancelled : Bool
  incomingRequests : List (JdRequest Tx)
  requestsClosed : Bool
  handler : HandlerPhase Tx Client
  monitor : MirrorMonitorPhase Client
  responses : List (DeclaredJob Tx × JdResponse)

/-- The steps of the tasks and of the outside. -/
inductive ValidatorAction (Tx Client : Type)
  /-- A request is sent to the validator. -/
  | send (request : JdRequest Tx)
  | closeRequests
  | cancel
  /-- The handler takes a request; `prepared` says whether its `checkBlock` could be built. -/
  | takeRequest (prepared : Bool)
  /-- It finds the requests closed. -/
  | noMoreRequests
  /-- It finds the token cancelled. -/
  | shutDown
  | checkBlockReply (reply : Except IpcError Bool)
  | createNewBlockReply (reply : Except IpcError Client)
  | getBlockReply (reply : Except IpcError (Block Tx))
  | backoffElapsed
  | joinMonitor
  /-- The monitor gets its thread, or fails to. -/
  | monitorThreadReply (reply : Except IpcError Unit)
  | waitNextReply (reply : WaitNextReply Client)
  | monitorGetBlockReply (reply : Except IpcError (Block Tx))
  /-- The monitor finds the token cancelled. -/
  | monitorCancelled

/-- The steps of the handler. -/
def ValidatorAction.isHandler : ValidatorAction Tx Client → Bool
  | .takeRequest _ | .noMoreRequests | .shutDown | .checkBlockReply _ | .createNewBlockReply _
  | .getBlockReply _ | .backoffElapsed | .joinMonitor => true
  | _ => false

/-- The request a step sends to the validator. -/
def ValidatorAction.sent : ValidatorAction Tx Client → List (JdRequest Tx)
  | .send request => [request]
  | _ => []

namespace Validator

/-- A response is sent and the handler goes back to its loop. -/
def answer (s : Validator Tx Client) (job : DeclaredJob Tx) (response : JdResponse) :
    Validator Tx Client :=
  { s with handler := .waiting, responses := s.responses ++ [(job, response)] }

/-- An IPC failure is answered, and ends the connection to the node. -/
def answerInternalError (s : Validator Tx Client) (c : CheckedJob Tx) : Validator Tx Client :=
  { s.answer c.job (.error "internal-error".toList c.context) with cancelled := true }

variable [BitcoinTransaction Tx]

/-- The error code of a job that the node rejected, by what the mirror says afterwards. -/
def rejectionCode (c : CheckedJob Tx) (latest : ValidationContext) (latestHeight : UInt32) :
    Text :=
  let staleAtArrival := coinbaseHeight c.job.coinbaseTx ≠ latestHeight
  if c.context.prevHash ≠ latest.prevHash ∨ c.context.nbits ≠ latest.nbits ∨
      c.context.minNtime ≠ latest.minNtime ∨ c.height ≠ latestHeight ∨ staleAtArrival then
    "stale-chain-tip".toList
  else "invalid-job".toList

/-- The last part of `handle_declare_mining_job`. -/
def conclude (s : Validator Tx Client) (c : CheckedJob Tx) (validJob : Bool) :
    Validator Tx Client :=
  match s.mempoolMirror.context? with
  | none => { s with handler := .panicked }
  | some (latest, latestHeight) =>
    if validJob then
      s.answer c.job (.success c.context.prevHash c.context.nbits c.context.minNtime
        (c.txdata.map computeTxid))
    else s.answer c.job (.error (rejectionCode c latest latestHeight) latest)

/-- The first part of `handle_declare_mining_job`, up to the request to the node.  A debug
message reads the first input of the coinbase transaction. -/
def handleDeclareMiningJob (debug : Bool) (s : Validator Tx Client) (job : DeclaredJob Tx)
    (prepared : Bool) : Validator Tx Client :=
  if debug = true ∧ scriptSigs job.coinbaseTx = [] then { s with handler := .panicked }
  else
    let mirror := s.mempoolMirror.addTransactions job.missingTxs
    let s := { s with mempoolMirror := mirror }
    match mirror.context? with
    | none => { s with handler := .panicked }
    | some (context, height) =>
      let missing := mirror.verify job.wtxidList
      if missing ≠ [] then s.answer job (.missingTransactions missing context)
      else
        let c : CheckedJob Tx := ⟨job, context, height, mirror.getTxdata job.wtxidList⟩
        if prepared then { s with handler := .checkingBlock c } else s.answerInternalError c

/-- `process_request`.  A pushed solution is not handled yet. -/
def processRequest (debug : Bool) (s : Validator Tx Client) (prepared : Bool) :
    JdRequest Tx → Validator Tx Client
  | .declareMiningJob job => handleDeclareMiningJob debug s job prepared
  | .pushSolution => s

/-- An attempt of `force_update_mempool_mirror` failed: it is repeated, or the job is
answered with what the mirror says. -/
def attemptFailed (s : Validator Tx Client) (c : CheckedJob Tx) (attempt : ℕ) (e : IpcError) :
    Validator Tx Client :=
  if e = .threadBusy ∧ attempt < maxAttempts then { s with handler := .backingOff c attempt }
  else s.conclude c false

omit [BitcoinTransaction Tx] in
/-- The monitor gives up. -/
def stopMonitor (s : Validator Tx Client) : Validator Tx Client :=
  { s with monitor := .stopped, cancelled := true }

omit [BitcoinTransaction Tx] in
/-- The monitor asks for the next template. -/
def waitNext (s : Validator Tx Client) : Validator Tx Client :=
  { s with monitor := .waitingNext s.currentTemplateIpcClient }

/-- **The steps of the validator.** -/
def next (debug : Bool) (s : Validator Tx Client) :
    ValidatorAction Tx Client → Option (Validator Tx Client)
  | .send request => some { s with incomingRequests := s.incomingRequests ++ [request] }
  | .closeRequests => some { s with requestsClosed := true }
  | .cancel => some { s with cancelled := true }
  | .takeRequest prepared =>
    match s.handler, s.incomingRequests with
    | .waiting, request :: requests =>
      some (processRequest debug { s with incomingRequests := requests } prepared request)
    | _, _ => none
  | .noMoreRequests =>
    match s.handler with
    | .waiting =>
      if s.requestsClosed = true ∧ s.incomingRequests = [] then
        some { s with handler := .joining, cancelled := true }
      else none
    | _ => none
  | .shutDown =>
    match s.handler with
    | .waiting => if s.cancelled then some { s with handler := .joining } else none
    | _ => none
  | .checkBlockReply reply =>
    match s.handler with
    | .checkingBlock c =>
      match reply with
      | .error _ => some (s.answerInternalError c)
      | .ok true => some (s.conclude c true)
      | .ok false => some { s with handler := .creatingBlock c 1 }
    | _ => none
  | .createNewBlockReply reply =>
    match s.handler with
    | .creatingBlock c attempt =>
      match reply with
      | .error e => some (s.attemptFailed c attempt e)
      | .ok client =>
        some { s with
          currentTemplateIpcClient := client
          handler := .gettingBlock c attempt client }
    | _ => none
  | .getBlockReply reply =>
    match s.handler with
    | .gettingBlock c attempt _ =>
      match reply with
      | .error e => some (s.attemptFailed c attempt e)
      | .ok block =>
        some (conclude { s with mempoolMirror := s.mempoolMirror.update block } c false)
    | _ => none
  | .backoffElapsed =>
    match s.handler with
    | .backingOff c attempt => some { s with handler := .creatingBlock c (attempt + 1) }
    | _ => none
  | .joinMonitor =>
    match s.handler, s.monitor with
    | .joining, .stopped => some { s with handler := .stopped }
    | _, _ => none
  | .monitorThreadReply reply =>
    match s.monitor with
    | .starting =>
      match reply with
      | .error _ => some s.stopMonitor
      | .ok () => some s.waitNext
    | _ => none
  | .waitNextReply reply =>
    match s.monitor with
    | .waitingNext _ =>
      match reply with
      | .failed .threadBusy => some s.waitNext
      | .failed .other => some s.stopMonitor
      | .unreadable => some s.stopMonitor
      | .noTemplate => some s.waitNext
      | .template client =>
        some { s with currentTemplateIpcClient := client, monitor := .gettingBlock client }
    | _ => none
  | .monitorGetBlockReply reply =>
    match s.monitor with
    | .gettingBlock _ =>
      match reply with
      | .error .threadBusy => some s.waitNext
      | .error .other => some s.stopMonitor
      | .ok block => some (waitNext { s with mempoolMirror := s.mempoolMirror.update block })
    | _ => none
  | .monitorCancelled =>
    match s.monitor with
    | .waitingNext _ => if s.cancelled then some { s with monitor := .stopped } else none
    | _ => none

/-- The validator when it signals readiness: `first` is the block its mirror was
bootstrapped from. -/
structure Ready (first : Block Tx) (s : Validator Tx Client) : Prop where
  mempoolMirror : s.mempoolMirror = mirrorOf [.template first]
  handler : s.handler = .waiting
  monitor : s.monitor = .starting
  responses : s.responses = []

/-! ## What a step does -/

variable {debug : Bool} {s s' : Validator Tx Client} {a : ValidatorAction Tx Client}

/-- How the first part of the handler ends. -/
inductive Declared (debug : Bool) (s : Validator Tx Client) (job : DeclaredJob Tx)
    (prepared : Bool) : Validator Tx Client → Prop
  | noInput (hdebug : debug = true) (hinput : scriptSigs job.coinbaseTx = []) :
      Declared debug s job prepared { s with handler := .panicked }
  | unset {m : MempoolMirror Tx} (hinput : ¬ (debug = true ∧ scriptSigs job.coinbaseTx = []))
      (hm : m = s.mempoolMirror.addTransactions job.missingTxs)
      (hcontext : m.context? = none) :
      Declared debug s job prepared { s with mempoolMirror := m, handler := .panicked }
  | missing {m : MempoolMirror Tx} {context : ValidationContext} {height : UInt32}
      (hinput : ¬ (debug = true ∧ scriptSigs job.coinbaseTx = []))
      (hm : m = s.mempoolMirror.addTransactions job.missingTxs)
      (hcontext : m.context? = some (context, height)) (hmissing : m.verify job.wtxidList ≠ []) :
      Declared debug s job prepared (answer { s with mempoolMirror := m } job
        (.missingTransactions (m.verify job.wtxidList) context))
  | checked {m : MempoolMirror Tx} {context : ValidationContext} {height : UInt32}
      {c : CheckedJob Tx}
      (hinput : ¬ (debug = true ∧ scriptSigs job.coinbaseTx = []))
      (hm : m = s.mempoolMirror.addTransactions job.missingTxs)
      (hcontext : m.context? = some (context, height)) (hknown : m.verify job.wtxidList = [])
      (hc : c = ⟨job, context, height, m.getTxdata job.wtxidList⟩) (hprepared : prepared = true) :
      Declared debug s job prepared { s with mempoolMirror := m, handler := .checkingBlock c }
  | unprepared {m : MempoolMirror Tx} {context : ValidationContext} {height : UInt32}
      {c : CheckedJob Tx}
      (hinput : ¬ (debug = true ∧ scriptSigs job.coinbaseTx = []))
      (hm : m = s.mempoolMirror.addTransactions job.missingTxs)
      (hcontext : m.context? = some (context, height)) (hknown : m.verify job.wtxidList = [])
      (hc : c = ⟨job, context, height, m.getTxdata job.wtxidList⟩) :
      Declared debug s job prepared (answerInternalError { s with mempoolMirror := m } c)

theorem declared_handleDeclareMiningJob (debug : Bool) (s : Validator Tx Client)
    (job : DeclaredJob Tx) (prepared : Bool) :
    Declared debug s job prepared (handleDeclareMiningJob debug s job prepared) := by
  unfold handleDeclareMiningJob
  split
  · rename_i hinput
    exact .noInput hinput.1 hinput.2
  · rename_i hinput
    dsimp only
    split
    · rename_i hcontext
      exact .unset hinput rfl hcontext
    · rename_i context height hcontext
      split
      · rename_i hmissing
        exact .missing hinput rfl hcontext hmissing
      · rename_i hknown
        rw [not_not] at hknown
        split
        · rename_i hprepared
          exact .checked hinput rfl hcontext hknown rfl hprepared
        · exact .unprepared hinput rfl hcontext hknown rfl

/-- How the last part of the handler ends. -/
inductive Concluded (s : Validator Tx Client) (c : CheckedJob Tx) (validJob : Bool) :
    Validator Tx Client → Prop
  | unset (hcontext : s.mempoolMirror.context? = none) :
      Concluded s c validJob { s with handler := .panicked }
  | success {latest : ValidationContext × UInt32}
      (hcontext : s.mempoolMirror.context? = some latest) (hvalid : validJob = true) :
      Concluded s c validJob (s.answer c.job (.success c.context.prevHash c.context.nbits
        c.context.minNtime (c.txdata.map computeTxid)))
  | rejected {latest : ValidationContext} {height : UInt32}
      (hcontext : s.mempoolMirror.context? = some (latest, height)) (hvalid : validJob = false) :
      Concluded s c validJob (s.answer c.job (.error (rejectionCode c latest height) latest))

theorem concluded_conclude (s : Validator Tx Client) (c : CheckedJob Tx) (validJob : Bool) :
    Concluded s c validJob (s.conclude c validJob) := by
  unfold conclude
  split
  · rename_i hcontext
    exact .unset hcontext
  · rename_i latest height hcontext
    split
    · rename_i hvalid
      exact .success hcontext hvalid
    · rename_i hvalid
      exact .rejected hcontext (by simpa using hvalid)

omit [BitcoinTransaction Tx] in
@[simp] theorem mempoolMirror_answer (job : DeclaredJob Tx) (response : JdResponse) :
    (s.answer job response).mempoolMirror = s.mempoolMirror := rfl

omit [BitcoinTransaction Tx] in
@[simp] theorem mempoolMirror_answerInternalError (c : CheckedJob Tx) :
    (s.answerInternalError c).mempoolMirror = s.mempoolMirror := rfl

@[simp] theorem mempoolMirror_conclude (c : CheckedJob Tx) (validJob : Bool) :
    (s.conclude c validJob).mempoolMirror = s.mempoolMirror := by
  have h := concluded_conclude s c validJob
  generalize s.conclude c validJob = s' at h ⊢
  cases h <;> rfl

@[simp] theorem mempoolMirror_attemptFailed (c : CheckedJob Tx) (attempt : ℕ) (e : IpcError) :
    (s.attemptFailed c attempt e).mempoolMirror = s.mempoolMirror := by
  unfold attemptFailed
  split
  · rfl
  · exact mempoolMirror_conclude c false

end Validator

/-- The job that is refreshed for, after the node rejected its block. -/
def HandlerPhase.refreshing? : HandlerPhase Tx Client → Option (CheckedJob Tx)
  | .creatingBlock c _ | .gettingBlock c _ _ | .backingOff c _ => some c
  | _ => none

namespace Validator

variable [BitcoinTransaction Tx] {debug : Bool} {s s' : Validator Tx Client}
  {a : ValidatorAction Tx Client}

/-- The steps of the handler: when each is taken, and the state it leads to. -/
inductive HandlerStep (debug : Bool) (s : Validator Tx Client) :
    ValidatorAction Tx Client → Validator Tx Client → Prop
  | pushed {prepared : Bool} {requests : List (JdRequest Tx)} (hwaiting : s.handler = .waiting)
      (hrequest : s.incomingRequests = .pushSolution :: requests) :
      HandlerStep debug s (.takeRequest prepared) { s with incomingRequests := requests }
  | declared {prepared : Bool} {requests : List (JdRequest Tx)} {job : DeclaredJob Tx}
      (hwaiting : s.handler = .waiting)
      (hrequest : s.incomingRequests = .declareMiningJob job :: requests) :
      HandlerStep debug s (.takeRequest prepared)
        (handleDeclareMiningJob debug { s with incomingRequests := requests } job prepared)
  | noMoreRequests (hwaiting : s.handler = .waiting) :
      HandlerStep debug s .noMoreRequests { s with handler := .joining, cancelled := true }
  | shutDown (hwaiting : s.handler = .waiting) :
      HandlerStep debug s .shutDown { s with handler := .joining }
  | joined (hjoining : s.handler = .joining) :
      HandlerStep debug s .joinMonitor { s with handler := .stopped }
  | checkFailed {c : CheckedJob Tx} {e : IpcError} (hchecking : s.handler = .checkingBlock c) :
      HandlerStep debug s (.checkBlockReply (.error e)) (s.answerInternalError c)
  | accepted {c : CheckedJob Tx} (hchecking : s.handler = .checkingBlock c) :
      HandlerStep debug s (.checkBlockReply (.ok true)) (s.conclude c true)
  | rejected {c : CheckedJob Tx} (hchecking : s.handler = .checkingBlock c) :
      HandlerStep debug s (.checkBlockReply (.ok false))
        { s with handler := .creatingBlock c 1 }
  | goesOn {c : CheckedJob Tx} {a : ValidatorAction Tx Client} {phase : HandlerPhase Tx Client}
      {client : Client} (hbefore : s.handler.refreshing? = some c)
      (hafter : phase.refreshing? = some c) (ha : a.isHandler = true)
      (htake : ∀ prepared, a ≠ .takeRequest prepared) :
      HandlerStep debug s a
        { s with handler := phase, currentTemplateIpcClient := client }
  | gaveUp {c : CheckedJob Tx} {a : ValidatorAction Tx Client} (ha : a.isHandler = true)
      (htake : ∀ prepared, a ≠ .takeRequest prepared)
      (hbefore : s.handler.refreshing? = some c) :
      HandlerStep debug s a (s.conclude c false)
  | refreshed {c : CheckedJob Tx} {block : Block Tx} (hbefore : s.handler.refreshing? = some c) :
      HandlerStep debug s (.getBlockReply (.ok block))
        (conclude { s with mempoolMirror := s.mempoolMirror.update block } c false)

theorem handlerStep_attemptFailed {c : CheckedJob Tx} {attempt : ℕ} {e : IpcError}
    (ha : a.isHandler = true) (htake : ∀ prepared, a ≠ .takeRequest prepared)
    (hbefore : s.handler.refreshing? = some c) :
    HandlerStep debug s a (s.attemptFailed c attempt e) := by
  unfold attemptFailed
  split
  · exact @HandlerStep.goesOn _ _ _ _ _ c _ _ s.currentTemplateIpcClient hbefore rfl ha htake
  · exact .gaveUp ha htake hbefore

/-- **What a step of the handler does.** -/
theorem handlerStep_of_next (h : next debug s a = some s') (ha : a.isHandler = true) :
    HandlerStep debug s a s' := by
  cases a with
  | takeRequest prepared =>
    simp only [next] at h
    split at h
    · rename_i request requests hwaiting hrequest
      cases h
      cases request with
      | declareMiningJob job => exact .declared hwaiting hrequest
      | pushSolution => exact .pushed hwaiting hrequest
    · cases h
  | noMoreRequests =>
    simp only [next] at h
    split at h
    · rename_i hwaiting
      split at h
      · cases h
        exact .noMoreRequests hwaiting
      · cases h
    · cases h
  | shutDown =>
    simp only [next] at h
    split at h
    · rename_i hwaiting
      split at h
      · cases h
        exact .shutDown hwaiting
      · cases h
    · cases h
  | checkBlockReply reply =>
    simp only [next] at h
    split at h
    · rename_i c hchecking
      rcases reply with e | ⟨_ | _⟩
      · cases h
        exact .checkFailed hchecking
      · cases h
        exact .rejected hchecking
      · cases h
        exact .accepted hchecking
    · cases h
  | createNewBlockReply reply =>
    simp only [next] at h
    split at h
    · rename_i c attempt hcreating
      have hbefore : s.handler.refreshing? = some c := by
        rw [hcreating]
        rfl
      cases reply with
      | error e =>
        cases h
        exact handlerStep_attemptFailed rfl (by simp) hbefore
      | ok client =>
        cases h
        exact .goesOn hbefore rfl rfl (by simp)
    · cases h
  | getBlockReply reply =>
    simp only [next] at h
    split at h
    · rename_i c attempt client hgetting
      have hbefore : s.handler.refreshing? = some c := by
        rw [hgetting]
        rfl
      cases reply with
      | error e =>
        cases h
        exact handlerStep_attemptFailed rfl (by simp) hbefore
      | ok block =>
        cases h
        exact .refreshed hbefore
    · cases h
  | backoffElapsed =>
    simp only [next] at h
    split at h
    · rename_i c attempt hbacking
      cases h
      have hbefore : s.handler.refreshing? = some c := by
        rw [hbacking]
        rfl
      exact @HandlerStep.goesOn _ _ _ _ _ c _ _ s.currentTemplateIpcClient hbefore rfl rfl (by simp)
    · cases h
  | joinMonitor =>
    simp only [next] at h
    split at h
    · rename_i hjoining hstopped
      cases h
      exact .joined hjoining
    · cases h
  | _ => cases ha

/-- What any other step leaves alone, and what it does to the rest. -/
structure OtherStep (s : Validator Tx Client) (a : ValidatorAction Tx Client)
    (s' : Validator Tx Client) : Prop where
  handler : s'.handler = s.handler
  responses : s'.responses = s.responses
  cancelled : s.cancelled = true → s'.cancelled = true
  incomingRequests : s'.incomingRequests = s.incomingRequests ++ a.sent

theorem otherStep_of_next (h : next debug s a = some s') (ha : a.isHandler = false) :
    OtherStep s a s' := by
  cases a with
  | send request =>
    cases h
    exact ⟨rfl, rfl, id, rfl⟩
  | closeRequests =>
    cases h
    exact ⟨rfl, rfl, id, (List.append_nil _).symm⟩
  | cancel =>
    cases h
    exact ⟨rfl, rfl, fun _ => rfl, (List.append_nil _).symm⟩
  | monitorThreadReply reply =>
    simp only [next] at h
    split at h
    · cases reply with
      | error e =>
        cases h
        exact ⟨rfl, rfl, fun _ => rfl, (List.append_nil _).symm⟩
      | ok _ =>
        cases h
        exact ⟨rfl, rfl, id, (List.append_nil _).symm⟩
    · cases h
  | waitNextReply reply =>
    simp only [next] at h
    split at h
    · rcases reply with ⟨_ | _⟩ | _ | _ | client
      all_goals
        cases h
        exact ⟨rfl, rfl, fun hc => by first | exact hc | rfl, (List.append_nil _).symm⟩
    · cases h
  | monitorGetBlockReply reply =>
    simp only [next] at h
    split at h
    · rcases reply with ⟨_ | _⟩ | block
      all_goals
        cases h
        exact ⟨rfl, rfl, fun hc => by first | exact hc | rfl, (List.append_nil _).symm⟩
    · cases h
  | monitorCancelled =>
    simp only [next] at h
    split at h
    · split at h
      · cases h
        exact ⟨rfl, rfl, id, (List.append_nil _).symm⟩
      · cases h
    · cases h
  | _ => cases ha

end Validator

/-! ## A table of transactions -/

/-- A transaction as a record of what is read of it. -/
structure TableTx where
  txid : TxHash
  wtxid : TxHash
  scriptSigs : List (List UInt8)
  lockTime : UInt32
  deriving DecidableEq, Repr

instance : BitcoinTransaction TableTx where
  computeTxid tx := tx.txid
  computeWtxid tx := tx.wtxid
  scriptSigs tx := tx.scriptSigs
  lockTime tx := tx.lockTime

/-- The transaction with an id. -/
def tableTx (id : TxHash) : TableTx := ⟨id, id, [[]], 0⟩

/-- The coinbase transaction of a height. -/
def tableCoinbase (height : ℕ) : TableTx := ⟨0, 0, [pushHeight height], 0⟩

/-- A template's block: what it builds on, its height and its transactions. -/
def tableBlock (prevHash : BlockHash) (height : ℕ) (txs : List TableTx) : Block TableTx :=
  ⟨⟨1, prevHash, 0, 1700000000, 0x207fffff, 0⟩, tableCoinbase height :: txs⟩

/-- A job with declared ids and transactions it delivers. -/
def tableJob (wtxids : List TxHash) (missingTxs : List TableTx) : DeclaredJob TableTx :=
  ⟨1, tableCoinbase 100, wtxids, missingTxs⟩

/-- The first template, with one transaction. -/
def tableFirst : Block TableTx := tableBlock 7 100 [tableTx 1]

/-- A validator that was bootstrapped from it. -/
def tableValidator : Validator TableTx ℕ :=
  ⟨mirrorOf [.template tableFirst], 0, false, [], false, .waiting, .starting, []⟩

theorem tableValidator_ready : tableValidator.Ready tableFirst := ⟨rfl, rfl, rfl, rfl⟩

/-- The state of the table validator after some actions. -/
def tableAfter (actions : List (ValidatorAction TableTx ℕ)) : Validator TableTx ℕ :=
  (actions.foldlM (Validator.next false) tableValidator).getD tableValidator

/-- The transition of an action after some others. -/
def tableStep (actions : List (ValidatorAction TableTx ℕ)) (a : ValidatorAction TableTx ℕ) :
    Transition (Validator TableTx ℕ) (ValidatorAction TableTx ℕ) :=
  ⟨tableAfter actions, a, tableAfter (actions ++ [a])⟩

/-- The transitions of some actions. -/
def tableTrace (actions : List (ValidatorAction TableTx ℕ)) :
    List (Transition (Validator TableTx ℕ) (ValidatorAction TableTx ℕ)) :=
  trace (Validator.next false) tableValidator actions

/-- Enabled actions make a run of the table validator. -/
theorem tableRun {s : Validator TableTx ℕ} (actions : List (ValidatorAction TableTx ℕ))
    (h : actions.foldlM (Validator.next false) tableValidator = some s) :
    Run (Validator.Ready tableFirst) (Computes (Validator.next false)) (tableTrace actions) s :=
  .ofActions tableValidator_ready actions h

/-- A job is sent and taken. -/
def tableDeclares (job : DeclaredJob TableTx) : List (ValidatorAction TableTx ℕ) :=
  [.send (.declareMiningJob job), .takeRequest true]

end CanaryMining
