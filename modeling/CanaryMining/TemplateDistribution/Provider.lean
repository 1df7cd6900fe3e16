import CanaryMining.Lib.AssocMap
import CanaryMining.Lib.Run
import CanaryMining.TemplateDistribution.Solution
import CanaryMining.TemplatePublisher

/-!
# The tasks of the template provider

`BitcoinCoreSv2TDP` runs several tasks that share its state.  One monitors the node's
templates; one handles the messages of the pool, and starts the monitor anew whenever the
pool changes its coinbase output constraints; a task of each tip change sleeps for ten
seconds and then forgets the templates before it; and a task of each solution writes the
solved block to disk.  The tasks run on one thread and are interleaved where they wait for
the node, for each other or for time to pass.

The channels to the pool are unbounded, so a template is published without waiting.

## Main definitions

* `MonitorTask`, `IncomingTask` — where the two lasting tasks are.
* `BitcoinCoreSv2Tdp`, `TdpAction` — the state, and what happens next.
* `BitcoinCoreSv2Tdp.next` — a step of one of the tasks.
-/

namespace CanaryMining

namespace Tdp

variable {Client : Type}

/-! ## Messages -/

/-- `CoinbaseOutputConstraints`. -/
structure CoinbaseOutputConstraints where
  coinbaseOutputMaxAdditionalSize : UInt32
  coinbaseOutputMaxAdditionalSigops : UInt16
  deriving DecidableEq, Repr

/-- `block_reserved_weight`, with which a template is asked for. -/
def CoinbaseOutputConstraints.blockReservedWeight (c : CoinbaseOutputConstraints) : UInt64 :=
  max (c.coinbaseOutputMaxAdditionalSize * 4).toUInt64 2000

/-- The messages of the pool. -/
inductive PoolMessage
  | coinbaseOutputConstraints (constraints : CoinbaseOutputConstraints)
  | requestTransactionData (templateId : UInt64)
  | submitSolution (solution : SubmitSolution)
  | other

/-- The messages to the pool. -/
inductive ProviderMessage
  | newTemplate (message : NewTemplate)
  | setNewPrevHash (message : SetNewPrevHash)
  | requestTransactionDataSuccess (templateId : UInt64) (transactionList : List (List UInt8))
  | requestTransactionDataError (templateId : UInt64) (errorCode : Text)
  deriving DecidableEq

/-- The error code of a template that was forgotten after a tip change. -/
def staleTemplateId : Text := "stale-template-id".toList

/-- The error code of a template that is not known. -/
def templateIdNotFound : Text := "template-id-not-found".toList

/-! ## Tasks -/

/-- What the node says of a template, other than its block. -/
structure IpcTemplate where
  header : BlockHeader
  coinbaseTx : IpcCoinbaseTx
  merklePath : List (List UInt8)

/-- An answer to `waitNext`. -/
inductive WaitNextAnswer (Client : Type)
  | timeout
  | failed
  | template (client : Client)

/-- Where `monitor_ipc_templates` is: it waits for the next template, fetches one, or holds one
until the minimum interval has passed. -/
inductive MonitorTask (Client : Type)
  | notSpawned
  | starting
  | waiting (client : Client)
  | fetching (client : Client) (templateId : UInt64)
  | holding (data : TemplateData Client)
  | exited

/-- Where `run` and `monitor_incoming_messages` are.  `first` tells the first constraints,
which `run` handles itself. -/
inductive IncomingTask (Client : Type)
  | waitingFirst
  | receiving
  | joiningMonitor (constraints : CoinbaseOutputConstraints)
  | creatingBlock (first : Bool) (blockReservedWeight : UInt64) (maxAdditionalSigops : UInt16)
  | fetching (client : Client) (templateId : UInt64)
  | readingBlock (data : TemplateData Client)
  | submitting (templateId : UInt64)
  | exited

/-- A task of `dump_solution_to_disk` that waits for the node's block. -/
structure DumpTask (Client : Type) where
  data : TemplateData Client
  coinbaseTx : Transaction
  header : BlockHeader

/-- `BitcoinCoreSv2TDP`, with its tasks.  `monitorCancelled` is the token of the monitor that
runs, and `solutionFiles` are the files in the directory of solutions, which are named by the
hashes of the blocks. -/
structure BitcoinCoreSv2Tdp (Client : Type) where
  currentTemplateIpcClient : Option Client
  currentPrevHash : Option BlockHash
  templateData : AssocMap UInt64 (TemplateData Client)
  staleTemplateIds : List UInt64
  templateIdFactory : UInt64
  incomingMessages : List PoolMessage
  outgoingMessages : List ProviderMessage
  monitor : MonitorTask Client
  incoming : IncomingTask Client
  staleTasks : List (List UInt64)
  dumpTasks : List (DumpTask Client)
  solutionFiles : AssocMap BlockHash (List UInt8)
  monitorCancelled : Bool
  cancelled : Bool

/-- What happens next: a message of the pool, an answer of the node to one of the tasks, the
end of a wait, or a cancellation.  With the block that a task asked for comes what becomes of its
file: it cannot be created, or a number of bytes can be written to it. -/
inductive TdpAction (Client : Type)
  | send (message : PoolMessage)
  | cancel
  | monitorStarted (threadCreated : Bool)
  | waitNextAnswered (answer : WaitNextAnswer Client)
  | monitorFetched (template : Option IpcTemplate)
  | minIntervalPassed
  | stopMonitor (interruptSent : Bool)
  | receive (solutionsDir : Bool)
  | monitorJoined
  | createNewBlockAnswered (client : Option Client)
  | createNewBlockInterrupted
  | bootstrapFetched (template : Option IpcTemplate)
  | blockAnswered (block : Option (Block Transaction))
  | solutionAnswered (accepted : Bool)
  | stopIncoming
  | removeStale (k : ℕ)
  | dumpAnswered (k : ℕ) (block : Option (Block Transaction)) (written : Option ℕ)

namespace BitcoinCoreSv2Tdp

variable (L : BitcoinLib) (p : BitcoinCoreSv2Tdp Client)

/-- `BitcoinCoreSv2TDP::new`, before `run` has received anything. -/
def new : BitcoinCoreSv2Tdp Client :=
  ⟨none, none, ∅, [], 0, [], [], .notSpawned, .waitingFirst, [], [], ∅, false, false⟩

/-- `global_cancellation_token.cancel()`. -/
def cancel : BitcoinCoreSv2Tdp Client := { p with cancelled := true }

/-- The monitor terminates the connection. -/
def failMonitor : BitcoinCoreSv2Tdp Client := { p.cancel with monitor := .exited }

/-- The handler of the pool's messages terminates the connection. -/
def failIncoming : BitcoinCoreSv2Tdp Client := { p.cancel with incoming := .exited }

/-- `prune_template_data_for_prev_hash`. -/
def pruneTemplateDataForPrevHash (prevHash : BlockHash) : BitcoinCoreSv2Tdp Client :=
  let templateIds := (p.templateData.values.filter fun data => data.getPrevHash = prevHash).map
    (·.templateId)
  let evicted := oldestTemplateIdsToEvict templateIds maxRetainedTemplatesPerPrevHash
  { p with templateData := evicted.foldl (fun m id => m.erase id) p.templateData }

/-- The messages of a published template. -/
def announcement (data : TemplateData Client) (tip : Bool) (newTemplate : NewTemplate) :
    List ProviderMessage :=
  .newTemplate newTemplate ::
    if tip then [.setNewPrevHash (data.getSetNewPrevHashMessage L)] else []

/-- `publish_template`: of a new tip, announced as a future template with its previous hash, or
of the current one. -/
def publishTemplate (data : TemplateData Client) (tip : Bool) :
    Except TdpError (BitcoinCoreSv2Tdp Client) :=
  match data.getNewTemplateMessage L tip with
  | .error e => .error e
  | .ok newTemplate =>
    let sent := { p with
      templateData := p.templateData.insert data.templateId data
      currentPrevHash := if tip then some data.getPrevHash else p.currentPrevHash
      outgoingMessages := p.outgoingMessages ++ announcement L data tip newTemplate }
    .ok (sent.pruneTemplateDataForPrevHash data.getPrevHash)

/-- The answers of the node in `fetch_template_data`, with the id taken before. -/
def fetchTemplateData (client : Client) (templateId : UInt64) (template : Option IpcTemplate) :
    Except TdpError (TemplateData Client) :=
  match template with
  | none => .error .capnp
  | some template =>
    match coinbaseTxFromIpc L template.coinbaseTx with
    | .error e => .error e
    | .ok (coinbaseTx, blockRewardRemaining) =>
      .ok ⟨templateId, template.header, coinbaseTx, blockRewardRemaining, template.merklePath,
        client⟩

/-- The monitor has fetched a template: it publishes a new tip at once, with a task that forgets
the templates before it, and holds one of the current tip. -/
def monitorFetched (data : TemplateData Client) : BitcoinCoreSv2Tdp Client :=
  match p.currentPrevHash with
  | none => p.failMonitor
  | some currentPrevHash =>
    if data.getPrevHash ≠ currentPrevHash then
      match p.publishTemplate L data true with
      | .error _ => p.failMonitor
      | .ok published =>
        { published with
          currentTemplateIpcClient := some data.templateIpcClient
          monitor := .waiting data.templateIpcClient
          staleTasks := p.staleTasks ++ [p.templateData.keys] }
    else { p with monitor := .holding data }

/-- The held template is published. -/
def publishHeld (data : TemplateData Client) : BitcoinCoreSv2Tdp Client :=
  match p.publishTemplate L data false with
  | .error _ => p.failMonitor
  | .ok published =>
    { published with
      currentTemplateIpcClient := some data.templateIpcClient
      monitor := .waiting data.templateIpcClient }

/-- `bootstrap_template_ipc_client_from_coinbase_output_constraints`, once the template is
fetched: it is published as a tip, and the monitor is spawned. -/
def bootstrapped (data : TemplateData Client) : BitcoinCoreSv2Tdp Client :=
  match p.publishTemplate L data true with
  | .error _ => p.failIncoming
  | .ok published =>
    { published with
      currentTemplateIpcClient := some data.templateIpcClient
      monitor := .starting
      incoming := .receiving }

/-- `handle_request_transaction_data`, up to the request for the block. -/
def handleRequestTransactionData (templateId : UInt64) : BitcoinCoreSv2Tdp Client :=
  if templateId ∈ p.staleTemplateIds then
    { p with outgoingMessages :=
        p.outgoingMessages ++ [.requestTransactionDataError templateId staleTemplateId] }
  else
    match p.templateData.lookup templateId with
    | some data => { p with incoming := .readingBlock data }
    | none =>
      { p with outgoingMessages :=
          p.outgoingMessages ++ [.requestTransactionDataError templateId templateIdNotFound] }

/-- `dump_solution_to_disk`, up to the request for the block. -/
def dumpSolutionToDisk (data : TemplateData Client) (coinbaseTx : Transaction)
    (solution : SubmitSolution) : BitcoinCoreSv2Tdp Client :=
  match data.solutionHeader L coinbaseTx solution with
  | none => p
  | some header => { p with dumpTasks := p.dumpTasks ++ [⟨data, coinbaseTx, header⟩] }

/-- `handle_submit_solution`, up to the request that submits it.  Without the directory, or with
a coinbase that does not parse, nothing is submitted. -/
def handleSubmitSolution (solution : SubmitSolution) (solutionsDir : Bool) :
    BitcoinCoreSv2Tdp Client :=
  match p.templateData.lookup solution.templateId with
  | none => p
  | some data =>
    if solutionsDir then
      match L.deserialize solution.coinbaseTx with
      | none => p
      | some coinbaseTx =>
        let dumped := p.dumpSolutionToDisk L data coinbaseTx solution
        { dumped with incoming := .submitting data.templateId }
    else p

/-- The next message in the loop of `monitor_incoming_messages`. -/
def receive (solutionsDir : Bool) : PoolMessage → BitcoinCoreSv2Tdp Client
  | .coinbaseOutputConstraints constraints =>
    { p with monitorCancelled := true, incoming := .joiningMonitor constraints }
  | .requestTransactionData templateId => p.handleRequestTransactionData templateId
  | .submitSolution solution => p.handleSubmitSolution L solution solutionsDir
  | .other => p

/-- `createNewBlock` is requested. -/
def createNewBlock (first : Bool) (constraints : CoinbaseOutputConstraints) :
    BitcoinCoreSv2Tdp Client :=
  { p with
    incoming := .creatingBlock first constraints.blockReservedWeight
      constraints.coinbaseOutputMaxAdditionalSigops }

/-- The end of `dump_solution_to_disk`: `File::create` empties a file of this name, and
`write_all` fails after the bytes that could be written. -/
def writeSolution (solved : Block Transaction) : Option ℕ → BitcoinCoreSv2Tdp Client
  | none => p
  | some written =>
    { p with
      solutionFiles := p.solutionFiles.insert (L.blockHash solved.header)
        ((L.serializeBlock solved).take written) }

/-- A step of one of the tasks. -/
def next : TdpAction Client → Option (BitcoinCoreSv2Tdp Client)
  | .send message => some { p with incomingMessages := p.incomingMessages ++ [message] }
  | .cancel => some p.cancel
  | .monitorStarted threadCreated =>
    match p.monitor with
    | .starting =>
      match threadCreated, p.currentTemplateIpcClient with
      | true, some client => some { p with monitor := .waiting client }
      | _, _ => some p.failMonitor
    | _ => none
  | .waitNextAnswered answer =>
    match p.monitor, answer with
    | .waiting _, .timeout => some p
    | .waiting _, .failed => some p.failMonitor
    | .waiting _, .template client =>
      some { p with
        templateIdFactory := p.templateIdFactory + 1
        monitor := .fetching client p.templateIdFactory }
    | _, _ => none
  | .monitorFetched template =>
    match p.monitor with
    | .fetching client templateId =>
      match fetchTemplateData L client templateId template with
      | .error _ => some p.failMonitor
      | .ok data => some (p.monitorFetched L data)
    | _ => none
  | .minIntervalPassed =>
    match p.monitor with
    | .holding data => some (p.publishHeld L data)
    | _ => none
  | .stopMonitor interruptSent =>
    match p.monitor with
    | .waiting _ =>
      if p.cancelled then some { p with monitor := .exited }
      else if p.monitorCancelled then
        if interruptSent then some { p with monitor := .exited } else some p.failMonitor
      else none
    | _ => none
  | .receive solutionsDir =>
    match p.incoming, p.incomingMessages with
    | .waitingFirst, message :: messages =>
      let received := { p with incomingMessages := messages }
      match message with
      | .coinbaseOutputConstraints constraints => some (received.createNewBlock true constraints)
      | _ => some received
    | .receiving, message :: messages =>
      some ({ p with incomingMessages := messages }.receive L solutionsDir message)
    | _, _ => none
  | .monitorJoined =>
    match p.incoming, p.monitor with
    | .joiningMonitor constraints, .exited =>
      some ({ p with monitorCancelled := false }.createNewBlock false constraints)
    | _, _ => none
  | .createNewBlockAnswered client =>
    match p.incoming with
    | .creatingBlock _ _ _ =>
      match client with
      | none => some p.failIncoming
      | some client =>
        some { p with
          templateIdFactory := p.templateIdFactory + 1
          incoming := .fetching client p.templateIdFactory }
    | _ => none
  | .createNewBlockInterrupted =>
    match p.incoming with
    | .creatingBlock _ _ _ =>
      if p.cancelled then some { p with incoming := .exited } else none
    | _ => none
  | .bootstrapFetched template =>
    match p.incoming with
    | .fetching client templateId =>
      match fetchTemplateData L client templateId template with
      | .error _ => some p.failIncoming
      | .ok data => some (p.bootstrapped L data)
    | _ => none
  | .blockAnswered block =>
    match p.incoming with
    | .readingBlock data =>
      match block with
      | none => some p.failIncoming
      | some block =>
        some { p with
          incoming := .receiving
          outgoingMessages := p.outgoingMessages ++
            [.requestTransactionDataSuccess data.templateId (block.txdata.tail.map L.serialize)] }
    | _ => none
  | .solutionAnswered _ =>
    match p.incoming with
    | .submitting _ => some { p with incoming := .receiving }
    | _ => none
  | .stopIncoming =>
    match p.incoming with
    | .waitingFirst | .receiving =>
      if p.cancelled then some { p with incoming := .exited } else none
    | _ => none
  | .removeStale k =>
    match p.staleTasks[k]? with
    | none => none
    | some staleTemplateIds =>
      some { p with
        staleTemplateIds := staleTemplateIds
        templateData := staleTemplateIds.foldl (fun m id => m.erase id) p.templateData
        staleTasks := p.staleTasks.eraseIdx k }
  | .dumpAnswered k block written =>
    match p.dumpTasks[k]? with
    | none => none
    | some task =>
      let done := { p with dumpTasks := p.dumpTasks.eraseIdx k }
      match block.bind (solutionBlock task.header task.coinbaseTx) with
      | some solved => some (done.writeSolution L solved written)
      | none => some done

end BitcoinCoreSv2Tdp

end Tdp

end CanaryMining
