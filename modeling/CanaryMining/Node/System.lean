import CanaryMining.JobHistory
import CanaryMining.Manager.Connections
import CanaryMining.TemplatePublisher

/-!
# The publisher and the pool together

The publisher sends its templates to the channel manager, which makes jobs of
them.  A block found on a job that the pool still accepts shares on can only be
submitted if the publisher still has the job's template.

## Main definitions

* `Node`, `NodeAction`, `Node.next` — both programs and their steps.
* `Node.JobsRetained` — every accepted job finds its template.
* `Node.KeepsTemplates` — a step that forgets no template in use.
-/

namespace CanaryMining

variable {F : Type} {X : ChannelsSv2 F} {Addr : Type}

/-- The step in which the manager handles a message. -/
def TemplateMessage.action (orders : MapOrders) : TemplateMessage → ServerAction X
  | .newTemplate template => .newTemplate template orders
  | .setNewPrevHash message => .setNewPrevHash message orders

/-- The steps in which the manager handles a message of the template provider. -/
def ServerAction.isTemplate : ServerAction X → Bool
  | .newTemplate _ _ | .setNewPrevHash _ _ => true
  | _ => false

/-- An open channel accepts shares on a job of the template. -/
def ManagerState.TemplateInUse (s : ManagerState X) (templateId : ℕ) : Prop :=
  ∃ d kind id, ∃ (c : X.Channel kind) (job : X.Job kind),
    s.channel? d kind id = some c ∧ (X.jobStore c).Accepts job ∧
      templateId? job = some templateId

/-- The publisher and the pool. -/
structure Node (X : ChannelsSv2 F) where
  publisher : TemplatePublisher
  server : Server X

/-- The steps of both. -/
inductive NodeAction (X : ChannelsSv2 F)
  /-- The node answers `waitNext`, and the template is published. -/
  | waitNext (block : BlockTemplate)
  /-- The `k`-th sleeping task wakes up. -/
  | removeStale (k : ℕ)
  /-- The manager handles the next message of the publisher. -/
  | deliver (orders : MapOrders)
  /-- Any other step of the pool. -/
  | server (action : ServerAction X)

namespace Node

/-- **The steps.**  Nothing is published before the manager has handled every message. -/
def next [Double F] (cfg : ManagerConfig F) (lib : AddressLib Addr) (s : Node X) :
    NodeAction X → Option (Node X)
  | .waitNext block =>
    if s.publisher.outgoingMessages = [] then
      (s.publisher.waitNextAnswered block).map fun publisher => { s with publisher := publisher }
    else none
  | .removeStale k =>
    (s.publisher.removeStale k).map fun publisher => { s with publisher := publisher }
  | .deliver orders =>
    match s.publisher.outgoingMessages with
    | [] => none
    | message :: messages =>
      (s.server.next cfg lib (message.action orders)).map fun server =>
        ⟨{ s.publisher with outgoingMessages := messages }, server⟩
  | .server action =>
    if action.isTemplate then none
    else (s.server.next cfg lib action).map fun server => { s with server := server }

/-- Both programs once the manager has handled the template `data` of the first tip, before
the first connection. -/
structure StartedWith (data : TemplateData) (s : Node X) : Prop where
  templateId : data.templateId = 0
  publisher : s.publisher =
    ⟨some data.prevHash, (∅ : AssocMap UInt64 TemplateData).insert 0 data, [], 1, [], []⟩
  server : s.server.Started
  lastFutureTemplate :
    s.server.manager.data.lastFutureTemplate = some (data.getNewTemplateMessage true)
  lastNewPrevHash :
    s.server.manager.data.lastNewPrevHash = some data.getSetNewPrevHashMessage

/-- The start, with the template of any tip. -/
def Started (s : Node X) : Prop := ∃ data, StartedWith data s

/-- **Every job the pool accepts finds its template**: a solution for the active job or a
past job of an open channel can be submitted. -/
def JobsRetained (s : Node X) : Prop :=
  ∀ d kind id (c : X.Channel kind), s.server.manager.channel? d kind id = some c →
    ∀ job, (X.jobStore c).Accepts job → ∀ template, ServerJob.origin job = .newTemplate template →
      ∀ solution : SubmitSolution, solution.templateId = template.templateId →
        (s.publisher.handleSubmitSolution solution).isSome

/-- The template is in use by the pool. -/
def TemplateInUse (s : Node X) (templateId : ℕ) : Prop :=
  s.server.manager.TemplateInUse templateId

/-- The message the manager handles next opens a channel with a job. -/
def OpensNext (cfg : ManagerConfig F) (lib : AddressLib Addr) (s : Node X) : Prop :=
  ∃ d message queue downstream, s.server.queue = (d, message) :: queue ∧
    s.server.manager.downstream? d = some downstream ∧ downstream.requiresCustomWork = false ∧
    OpensChannel cfg lib d s.server.manager message

/-- The tip change a sleeping task belongs to is not handled yet. -/
def TipPending (s : Node X) (task : StaleTask) : Prop :=
  ∃ message, .setNewPrevHash message ∈ s.publisher.outgoingMessages ∧
    message.templateId = task.tip

/-- **A step that forgets no template in use.**
* A template is published on the same tip when the template of the tip is among the last
  256, or no channel works on it any more; and the counter of templates does not wrap.
* A task of a tip change wakes up after the manager has handled the change, or while no
  channel has a job.
* A channel is opened with a job while the publisher has the template of the tip. -/
def KeepsTemplates (cfg : ManagerConfig F) (lib : AddressLib Addr) (s : Node X) :
    NodeAction X → Prop
  | .waitNext block =>
    s.publisher.templateIdFactory.toNat + 1 < 2 ^ 64 ∧
      ∀ template, s.server.manager.data.lastFutureTemplate = some template →
        s.publisher.currentPrevHash = some block.prevHash →
        s.TemplateInUse template.templateId.toNat →
        s.publisher.templateIdFactory.toNat <
          template.templateId.toNat + maxRetainedTemplatesPerPrevHash
  | .removeStale k => ∀ task, s.publisher.staleTasks[k]? = some task → s.TipPending task →
    ∀ templateId, ¬ s.TemplateInUse templateId
  | .server (.handleMining _) => s.OpensNext cfg lib → ∀ template,
    s.server.manager.data.lastFutureTemplate = some template →
      (s.publisher.templateData.lookup template.templateId).isSome
  | .deliver _ | .server _ => True

end Node

end CanaryMining
