import CanaryMining.Address
import CanaryMining.JobStore
import CanaryMining.MinerStats
import CanaryMining.PayoutMode

/-!
# The channel library

`channels_sv2` is not part of the repository.  The channel manager is modelled
over a parameter that has the types and functions it takes from there;
`ChannelsSv2.Laws` says what the library promises about the job stores it is
given.  `tableChannels` is a small library that keeps the promises.

## Main definitions

* `NewTemplate`, `SetNewPrevHash` — the messages of the template provider.
* `ServerJob` — what a job tells about itself.
* `ChannelsSv2` — the library.
* `ChannelsSv2.Laws`, `tableChannels`, `tableChannels_laws`.
-/

namespace CanaryMining

/-- `NewTemplate`, the fields the pool reads itself. -/
structure NewTemplate where
  templateId : UInt64
  futureTemplate : Bool
  coinbaseTxValueRemaining : UInt64
  deriving DecidableEq, Repr

/-- `SetNewPrevHash` of the template distribution protocol. -/
structure SetNewPrevHash where
  templateId : UInt64
  prevHash : BitVec 256
  headerTimestamp : UInt32
  nBits : UInt32
  deriving DecidableEq, Repr

/-- `JobOrigin`: what a job was made from. -/
inductive JobOrigin
  | newTemplate (template : NewTemplate)
  | setCustomMiningJob
  deriving DecidableEq, Repr

/-- A job of a server channel. -/
class ServerJob (J : Type) extends Job J where
  /-- The channel id in the message of the job. -/
  channelId : J → ChannelId
  origin : J → JobOrigin
  coinbaseOutputs : J → List TxOut
  isFuture : J → Bool

/-- The errors of the library, as far as the pool tells them apart. -/
inductive ServerChannelError
  | invalidNominalHashrate
  | requestedMinExtranonceSizeTooLarge
  | other (description : Text)
  deriving DecidableEq, Repr

/-- `ShareValidationResult`. -/
inductive ShareValidationResult
  | valid (shareHash : Text)
  | blockFound (shareHash : Text) (templateId : Option UInt64) (coinbase : List UInt8)
  deriving DecidableEq, Repr

/-- `ShareValidationError`. -/
inductive ShareValidationError
  | invalid
  | stale
  | invalidJobId
  | doesNotMeetTarget
  | duplicateShare
  | badExtranonceSize
  | other (description : Text)
  deriving DecidableEq, Repr

/-- `ShareAccounting`, what the pool reads of it. -/
structure ShareAccounting (F : Type) where
  sharesAccepted : UInt32
  bestDiff : F
  blocksFound : UInt32
  shouldAcknowledge : Bool
  lastShareSequenceNumber : UInt32
  lastBatchAccepted : UInt32
  lastBatchWorkSum : UInt64

/-- `SubmitSharesStandard` and `SubmitSharesExtended`; the first has no
extranonce. -/
structure SubmitShares where
  channelId : ChannelId
  sequenceNumber : UInt32
  jobId : UInt32
  nonce : UInt32
  ntime : UInt32
  version : UInt32
  extranonce : List UInt8

/-- What the pool takes from the channel library.  A standard and an extended
channel offer the same operations, so they are indexed by the kind. -/
structure ChannelsSv2 (F : Type) where
  Target : Type
  Vardiff : Type
  Job : MinerChannelKind → Type
  serverJob : ∀ kind, ServerJob (Job kind)
  Channel : MinerChannelKind → Type
  GroupChannel : Type
  /-- `VardiffState::increment_shares_since_last_update`. -/
  incrementSharesSinceLastUpdate : Vardiff → Vardiff
  /-- `StandardChannel::new_for_pool`, `ExtendedChannel::new_for_pool`. -/
  newForPool : (kind : MinerChannelKind) → ChannelId → (userIdentity : Text) →
    (extranoncePrefix : List UInt8) → (requestedMaxTarget : Target) → (nominalHashRate : F) →
    (shareBatchSize : ℕ) → (sharesPerMinute : F) → BoundedJobStore (Job kind) →
    (poolTag : Text) → Except ServerChannelError (Channel kind)
  channelId : ∀ {kind}, Channel kind → ChannelId
  userIdentity : ∀ {kind}, Channel kind → Text
  jobStore : ∀ {kind}, Channel kind → BoundedJobStore (Job kind)
  target : ∀ {kind}, Channel kind → Target
  extranoncePrefix : ∀ {kind}, Channel kind → List UInt8
  rollableExtranonceSize : Channel .extended → UInt16
  fullExtranonceSize : Channel .extended → ℕ
  shareAccounting : ∀ {kind}, Channel kind → ShareAccounting F
  onNewTemplate : ∀ {kind}, Channel kind → NewTemplate → List TxOut →
    Except ServerChannelError (Channel kind)
  onGroupChannelJob : ∀ {kind}, Channel kind → Job .extended →
    Except ServerChannelError (Channel kind)
  onSetNewPrevHash : ∀ {kind}, Channel kind → SetNewPrevHash →
    Except ServerChannelError (Channel kind)
  updateChannel : ∀ {kind}, Channel kind → (nominalHashRate : F) →
    (requestedMaxTarget : Option Target) → Except ServerChannelError Unit × Channel kind
  validateShare : ∀ {kind}, Channel kind → SubmitShares →
    Except ShareValidationError ShareValidationResult × Channel kind
  /-- `GroupChannel::new_for_pool`. -/
  newGroupForPool : ChannelId → BoundedJobStore (Job .extended) → (fullExtranonceSize : ℕ) →
    (poolTag : Text) → Except ServerChannelError GroupChannel
  groupJobStore : GroupChannel → BoundedJobStore (Job .extended)
  groupChannelId : GroupChannel → ChannelId
  groupChannelIds : GroupChannel → List ChannelId
  groupOnNewTemplate : GroupChannel → NewTemplate → List TxOut →
    Except ServerChannelError GroupChannel
  groupOnSetNewPrevHash : GroupChannel → SetNewPrevHash → Except ServerChannelError GroupChannel
  groupAddChannelId : GroupChannel → ChannelId → (extranonceSize : ℕ) →
    Except ServerChannelError GroupChannel

instance {F : Type} (X : ChannelsSv2 F) (kind : MinerChannelKind) : ServerJob (X.Job kind) :=
  X.serverJob kind

/-- A job is a new one of a template and pays the given outputs. -/
structure IsJobOf {J : Type} [ServerJob J] (template : NewTemplate) (outputs : List TxOut)
    (job : J) : Prop where
  origin : ServerJob.origin job = .newTemplate template
  coinbaseOutputs : ServerJob.coinbaseOutputs job = outputs
  isFuture : ServerJob.isFuture job = template.futureTemplate

namespace BoundedJobStore

variable {J : Type} [ServerJob J]

/-- The store after a job of a template: future templates go to the future jobs,
others become active. -/
def addTemplateJob (store : BoundedJobStore J) (template : NewTemplate) (job : J) :
    BoundedJobStore J :=
  if template.futureTemplate then store.addFutureJob template.templateId job
  else store.addActiveJob job

variable {store : BoundedJobStore J} {template : NewTemplate} {job new : J}

theorem addTemplateJob_of_future (h : template.futureTemplate = true) :
    store.addTemplateJob template new = store.addFutureJob template.templateId new := if_pos h

theorem addTemplateJob_of_not_future (h : template.futureTemplate = false) :
    store.addTemplateJob template new = store.addActiveJob new := if_neg (by simp [h])

theorem Holds.of_addTemplateJob (h : (store.addTemplateJob template new).Holds job) :
    job = new ∨ store.Holds job := by
  unfold addTemplateJob at h
  split at h
  · exact h.of_addFutureJob
  · exact h.of_addActiveJob

theorem holds_addTemplateJob (store : BoundedJobStore J) (template : NewTemplate) (new : J) :
    (store.addTemplateJob template new).Holds new := by
  unfold addTemplateJob
  split
  · exact holds_addFutureJob _ _ _
  · exact holds_addActiveJob _ _

/-- The store after a new previous hash: the template's future job is activated,
or there is no future job and the past ones become stale. -/
def SetsNewPrevHash (store : BoundedJobStore J) (message : SetNewPrevHash)
    (store' : BoundedJobStore J) : Prop :=
  store.activateFutureJob message.templateId message.headerTimestamp = (true, store') ∨
    store.hasFutureJobs = false ∧ store' = store.markPastJobsAsStale

/-- The job of a template that was just added. -/
def templateJob (store : BoundedJobStore J) (template : NewTemplate) : Option J :=
  if template.futureTemplate then
    (store.getFutureJobIdFromTemplateId template.templateId).bind store.getFutureJob
  else store.getActiveJob

@[simp] theorem templateJob_addTemplateJob (store : BoundedJobStore J) (template : NewTemplate)
    (new : J) : (store.addTemplateJob template new).templateJob template = some new := by
  by_cases hfuture : template.futureTemplate
  · have hlookup := addFutureJob_lookup store template.templateId new
    simp [templateJob, addTemplateJob, hfuture, getFutureJobIdFromTemplateId, getFutureJob,
      hlookup.1, hlookup.2]
  · simp [templateJob, addTemplateJob, hfuture, getActiveJob, addActiveJob]

/-- A store that was empty before a job was added has no other job. -/
theorem eq_of_getFutureJob {jobId : UInt32}
    (hjob : (BoundedJobStore.new.addTemplateJob template new).getFutureJob jobId = some job) :
    job = new := by
  have hheld : (BoundedJobStore.new.addTemplateJob template new).Holds job := .future jobId hjob
  exact (hheld.of_addTemplateJob).resolve_right (not_holds_new job)

end BoundedJobStore

namespace ChannelsSv2

variable {F : Type}

/-- **What the library promises.**  A job made from a template pays exactly the
outputs it was given; future templates reach the store through `add_future_job`,
others through `add_active_job`, and a new previous hash through
`activate_future_job`; nothing else touches the store. -/
structure Laws (X : ChannelsSv2 F) : Prop where
  activate : ∀ kind (job : X.Job kind) timestamp,
    ServerJob.origin (Job.activate job timestamp) = ServerJob.origin job ∧
      ServerJob.coinbaseOutputs (Job.activate job timestamp) = ServerJob.coinbaseOutputs job ∧
      Job.getJobId (Job.activate job timestamp) = Job.getJobId job
  newForPool : ∀ kind id user pre target hash batch spm store tag (c : X.Channel kind),
    X.newForPool kind id user pre target hash batch spm store tag = .ok c →
      X.userIdentity c = user ∧ X.jobStore c = store
  onNewTemplate : ∀ kind (c c' : X.Channel kind) template outputs,
    X.onNewTemplate c template outputs = .ok c' →
      X.userIdentity c' = X.userIdentity c ∧
        ∃ job, IsJobOf template outputs job ∧
          X.jobStore c' = (X.jobStore c).addTemplateJob template job
  onGroupChannelJob : ∀ kind (c c' : X.Channel kind) template outputs groupJob,
    X.onGroupChannelJob c groupJob = .ok c' → IsJobOf template outputs groupJob →
      X.userIdentity c' = X.userIdentity c ∧
        ∃ job, IsJobOf template outputs job ∧ Job.getJobId job = Job.getJobId groupJob ∧
          X.jobStore c' = (X.jobStore c).addTemplateJob template job
  onSetNewPrevHash : ∀ kind (c c' : X.Channel kind) message,
    X.onSetNewPrevHash c message = .ok c' →
      X.userIdentity c' = X.userIdentity c ∧
        (X.jobStore c).SetsNewPrevHash message (X.jobStore c')
  updateChannel : ∀ kind (c : X.Channel kind) hash target,
    X.userIdentity (X.updateChannel c hash target).2 = X.userIdentity c ∧
      X.jobStore (X.updateChannel c hash target).2 = X.jobStore c
  validateShare : ∀ kind (c : X.Channel kind) share,
    X.userIdentity (X.validateShare c share).2 = X.userIdentity c ∧
      X.jobStore (X.validateShare c share).2 = X.jobStore c
  newGroupForPool : ∀ id store size tag g,
    X.newGroupForPool id store size tag = .ok g → X.groupJobStore g = store
  groupOnNewTemplate : ∀ g g' template outputs,
    X.groupOnNewTemplate g template outputs = .ok g' →
      ∃ job, IsJobOf template outputs job ∧
        X.groupJobStore g' = (X.groupJobStore g).addTemplateJob template job
  groupOnSetNewPrevHash : ∀ g g' message, X.groupOnSetNewPrevHash g message = .ok g' →
    (X.groupJobStore g).SetsNewPrevHash message (X.groupJobStore g')
  groupAddChannelId : ∀ g g' id size, X.groupAddChannelId g id size = .ok g' →
    X.groupJobStore g' = X.groupJobStore g

/-- **Job ids are new.**  The job a channel or a group makes for a template of the current
tip has another id than the active one. -/
structure FreshJobIds (X : ChannelsSv2 F) : Prop where
  onNewTemplate : ∀ kind (c c' : X.Channel kind) template outputs,
    template.futureTemplate = false → X.onNewTemplate c template outputs = .ok c' →
    ∀ old new, (X.jobStore c).activeJob = some old → (X.jobStore c').activeJob = some new →
      Job.getJobId new ≠ Job.getJobId old
  groupOnNewTemplate : ∀ g g' template outputs,
    template.futureTemplate = false → X.groupOnNewTemplate g template outputs = .ok g' →
    ∀ old new, (X.groupJobStore g).activeJob = some old →
      (X.groupJobStore g').activeJob = some new → Job.getJobId new ≠ Job.getJobId old

end ChannelsSv2

/-! ## A table of channels

A library whose channels are records of what the laws speak of. -/

/-- A job as a record. -/
structure TableJob where
  channelId : ChannelId
  jobId : UInt32
  origin : JobOrigin
  coinbaseOutputs : List TxOut
  isFuture : Bool
  deriving DecidableEq, Repr

instance : ServerJob TableJob where
  getJobId job := job.jobId
  activate job _ := { job with isFuture := false }
  channelId job := job.channelId
  origin job := job.origin
  coinbaseOutputs job := job.coinbaseOutputs
  isFuture job := job.isFuture

/-- A channel as a record.  A group channel has no user. -/
structure TableChannel where
  channelId : ChannelId
  userIdentity : Text
  extranoncePrefix : List UInt8
  jobStore : BoundedJobStore TableJob
  jobIdFactory : UInt32
  sharesAccepted : UInt32
  channelIds : List ChannelId

namespace TableChannel

/-- A new channel without jobs of its own. -/
def new (channelId : ChannelId) (userIdentity : Text) (extranoncePrefix : List UInt8)
    (store : BoundedJobStore TableJob) : TableChannel :=
  ⟨channelId, userIdentity, extranoncePrefix, store, 1, 0, []⟩

/-- The next job id; after the counter has wrapped it may be in use. -/
def nextJobId (c : TableChannel) : UInt32 :=
  match c.jobStore.activeJob with
  | some active => if active.jobId = c.jobIdFactory then c.jobIdFactory + 1 else c.jobIdFactory
  | none => c.jobIdFactory

theorem nextJobId_ne {c : TableChannel} {active : TableJob}
    (h : c.jobStore.activeJob = some active) : c.nextJobId ≠ active.jobId := by
  simp only [nextJobId, h]
  split
  · rename_i heq
    rw [heq]
    intro hsucc
    simp at hsucc
  · rename_i hne
    exact Ne.symm hne

/-- The channel with a new job of a template. -/
def onNewTemplate (c : TableChannel) (template : NewTemplate) (outputs : List TxOut) :
    TableChannel :=
  { c with
    jobStore := c.jobStore.addTemplateJob template
      ⟨c.channelId, c.nextJobId, .newTemplate template, outputs, template.futureTemplate⟩
    jobIdFactory := c.nextJobId + 1 }

theorem onNewTemplate_fresh {c : TableChannel} {template : NewTemplate} {outputs : List TxOut}
    (hfuture : template.futureTemplate = false) {old new : TableJob}
    (hold : c.jobStore.activeJob = some old)
    (hnew : (c.onNewTemplate template outputs).jobStore.activeJob = some new) :
    new.jobId ≠ old.jobId := by
  have hid : new.jobId = c.nextJobId := by
    simp only [onNewTemplate, BoundedJobStore.addTemplateJob, hfuture] at hnew
    rw [← Option.some.inj hnew]
  rw [hid]
  exact nextJobId_ne hold

/-- The channel with the job of its group. -/
def onGroupChannelJob (c : TableChannel) (groupJob : TableJob) : TableChannel :=
  match groupJob.origin with
  | .newTemplate template =>
    { c with jobStore := c.jobStore.addTemplateJob template groupJob }
  | .setCustomMiningJob => c

theorem onGroupChannelJob_of_origin {c : TableChannel} {groupJob : TableJob}
    {template : NewTemplate} (h : groupJob.origin = .newTemplate template) :
    c.onGroupChannelJob groupJob =
      { c with jobStore := c.jobStore.addTemplateJob template groupJob } := by
  unfold onGroupChannelJob
  rw [h]

/-- The channel at a new previous hash. -/
def onSetNewPrevHash (c : TableChannel) (message : SetNewPrevHash) :
    Except ServerChannelError TableChannel :=
  if c.jobStore.hasFutureJobs then
    let activated := c.jobStore.activateFutureJob message.templateId message.headerTimestamp
    if activated.1 then .ok { c with jobStore := activated.2 }
    else .error (.other "TemplateIdNotFound".toList)
  else .ok { c with jobStore := c.jobStore.markPastJobsAsStale }

theorem onSetNewPrevHash_eq_ok {c c' : TableChannel} {message : SetNewPrevHash}
    (h : c.onSetNewPrevHash message = .ok c') :
    c'.userIdentity = c.userIdentity ∧ c.jobStore.SetsNewPrevHash message c'.jobStore := by
  unfold onSetNewPrevHash at h
  by_cases hfuture : c.jobStore.hasFutureJobs = true
  · rw [if_pos hfuture] at h
    by_cases hact : (c.jobStore.activateFutureJob message.templateId message.headerTimestamp).1
    · simp only [hact, if_true] at h
      rw [← Except.ok.inj h]
      exact ⟨rfl, .inl (Prod.ext hact rfl)⟩
    · simp [hact] at h
  · rw [if_neg hfuture] at h
    rw [← Except.ok.inj h]
    exact ⟨rfl, .inr ⟨by simpa using hfuture, rfl⟩⟩

end TableChannel

/-- The channels as records.  As in the library, only a negative hash rate is refused. -/
def tableChannels : ChannelsSv2 ExactDouble where
  Target := ℕ
  Vardiff := ℕ
  Job _ := TableJob
  serverJob _ := inferInstance
  Channel _ := TableChannel
  GroupChannel := TableChannel
  incrementSharesSinceLastUpdate n := n + 1
  newForPool _ id user pre _ hash _ _ store _ :=
    match hash with
    | .num q => if q < 0 then .error .invalidNominalHashrate else .ok (.new id user pre store)
    | .nan => .ok (.new id user pre store)
  channelId c := c.channelId
  userIdentity c := c.userIdentity
  jobStore c := c.jobStore
  target _ := 0
  extranoncePrefix c := c.extranoncePrefix
  rollableExtranonceSize _ := 16
  fullExtranonceSize _ := 20
  shareAccounting c := ⟨c.sharesAccepted, .num 0, 0, true, 0, 1, 1⟩
  onNewTemplate c template outputs := .ok (c.onNewTemplate template outputs)
  onGroupChannelJob c groupJob := .ok (c.onGroupChannelJob groupJob)
  onSetNewPrevHash c message := c.onSetNewPrevHash message
  updateChannel c hash _ :=
    match hash with
    | .num q => (if q < 0 then .error .invalidNominalHashrate else .ok (), c)
    | .nan => (.ok (), c)
  validateShare c _ := (.ok (.valid []), { c with sharesAccepted := c.sharesAccepted + 1 })
  newGroupForPool id store _ _ := .ok (.new id [] [] store)
  groupJobStore g := g.jobStore
  groupChannelId g := g.channelId
  groupChannelIds g := g.channelIds
  groupOnNewTemplate g template outputs := .ok (g.onNewTemplate template outputs)
  groupOnSetNewPrevHash g message := g.onSetNewPrevHash message
  groupAddChannelId g id _ := .ok { g with channelIds := g.channelIds ++ [id] }

theorem tableChannels_laws : tableChannels.Laws where
  activate _ _ _ := ⟨rfl, rfl, rfl⟩
  newForPool kind id user pre target hash batch spm store tag c h := by
    simp only [tableChannels] at h
    cases hash with
    | nan =>
      rw [← Except.ok.inj h]
      exact ⟨rfl, rfl⟩
    | num q =>
      by_cases hq : q < 0
      · simp [hq] at h
      · simp only [hq, if_false] at h
        rw [← Except.ok.inj h]
        exact ⟨rfl, rfl⟩
  onNewTemplate kind c c' template outputs h := by
    rw [← Except.ok.inj h]
    exact ⟨rfl, _, ⟨rfl, rfl, rfl⟩, rfl⟩
  onGroupChannelJob kind c c' template outputs groupJob h hjob := by
    have hc' := (TableChannel.onGroupChannelJob_of_origin hjob.origin).symm.trans
      (Except.ok.inj h)
    subst hc'
    exact ⟨rfl, groupJob, hjob, rfl, rfl⟩
  onSetNewPrevHash kind c c' message h := TableChannel.onSetNewPrevHash_eq_ok h
  updateChannel kind c hash target := by
    cases hash <;> exact ⟨rfl, rfl⟩
  validateShare _ _ _ := ⟨rfl, rfl⟩
  newGroupForPool id store size tag g h := by
    rw [← Except.ok.inj h]
    rfl
  groupOnNewTemplate g g' template outputs h := by
    rw [← Except.ok.inj h]
    exact ⟨_, ⟨rfl, rfl, rfl⟩, rfl⟩
  groupOnSetNewPrevHash g g' message h := (TableChannel.onSetNewPrevHash_eq_ok h).2
  groupAddChannelId g g' id size h := by
    rw [← Except.ok.inj h]
    rfl

theorem tableChannels_freshJobIds : tableChannels.FreshJobIds where
  onNewTemplate kind c c' template outputs hfuture h old new hold hnew := by
    rw [← Except.ok.inj h] at hnew
    exact TableChannel.onNewTemplate_fresh hfuture hold hnew
  groupOnNewTemplate g g' template outputs hfuture h old new hold hnew := by
    rw [← Except.ok.inj h] at hnew
    exact TableChannel.onNewTemplate_fresh hfuture hold hnew

end CanaryMining
