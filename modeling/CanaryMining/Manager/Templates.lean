import CanaryMining.Manager.State

/-!
# The messages of the template provider

`handle_new_template` gives every connection without custom work a job of the
template, and `handle_set_new_prev_hash` activates the future jobs.  Both loop
over hash maps, so the order of the connections and channels is a parameter.

## Main definitions

* `MapOrders` — the orders of the loops.
* `newTemplateDownstream`, `handleNewTemplate`.
* `newPrevHashDownstream`, `handleSetNewPrevHash`.
* `TemplateGiven`, `PrevHashSet` — what they do to a connection.
* `EachDownstream` — what they do to the manager.
* `TemplateTold`, `PrevHashTold` — what they tell a connection.

**Main results:** `newTemplateHandled`, `newPrevHashHandled`, `templateTold`, `prevHashTold`.
-/

namespace CanaryMining

open Early

variable {F : Type} {X : ChannelsSv2 F}

/-- The orders in which the loops of a handler visit the connections and the channels
of each. -/
structure MapOrders where
  downstreams : IterOrder DownstreamId
  channels : DownstreamId → MinerChannelKind → IterOrder ChannelId

instance : Inhabited MapOrders := ⟨⟨default, fun _ _ => default⟩⟩

/-- A library call whose error shuts the pool down. -/
def orShutdown {α : Type} : Except ServerChannelError α → Early (Outcome X) α :=
  ofExcept fun e => .shutdown (.channelSv2 e.text)

section NewTemplate

variable (cfg : ManagerConfig F) (template : NewTemplate) (outputs : List TxOut)
  (d : DownstreamId)

/-- The outputs of the pool, the first with the value of the template. -/
def poolOutputs (coinbaseOutputs : List TxOut) : List TxOut :=
  match coinbaseOutputs with
  | [] => []
  | output :: rest => { output with value := template.coinbaseTxValueRemaining } :: rest

/-- The outputs of a connection's jobs: its payout mode's, or the pool's while no channel
was opened. -/
def downstreamOutputs (coinbaseOutputs : List TxOut) (data : DownstreamData X) : List TxOut :=
  match data.payoutMode with
  | some payoutMode =>
    payoutMode.coinbaseOutputs template.coinbaseTxValueRemaining cfg.coinbaseRewardScript
  | none => poolOutputs template coinbaseOutputs

/-- A standard channel gets the job of its group, or, for a connection that requires
standard jobs, one of its own, which is announced. -/
def newTemplateStandard (requiresStandardJobs : Bool) (groupJob : X.Job .extended)
    (_ : ChannelId) (channel : X.Channel .standard) :
    Early (Outcome X) (X.Channel .standard × List (RouteMessageTo X)) :=
  if requiresStandardJobs then do
    let channel ← orShutdown (X.onNewTemplate channel template outputs)
    let job ← ofOption (.panic "future job must exist".toList)
      ((X.jobStore channel).templateJob template)
    pure (channel, [.downstream d (.newMiningJob job)])
  else do
    let channel ← orShutdown (X.onGroupChannelJob channel groupJob)
    pure (channel, [])

/-- An extended channel gets the job of its group. -/
def newTemplateExtended (groupJob : X.Job .extended) (_ : ChannelId)
    (channel : X.Channel .extended) :
    Early (Outcome X) (X.Channel .extended × List (RouteMessageTo X)) := do
  let channel ← orShutdown (X.onGroupChannelJob channel groupJob)
  pure (channel, [])

/-- One turn of the loop of `handle_new_template` over the connections. -/
def newTemplateDownstream (coinbaseOutputs : List TxOut) (orders : MapOrders)
    (downstream : Downstream X) : Early (Outcome X) (Downstream X × List (RouteMessageTo X)) :=
  if downstream.requiresCustomWork then pure (downstream, [])
  else do
    let data := downstream.downstreamData
    let outputs := downstreamOutputs cfg template coinbaseOutputs data
    let group ← orShutdown (X.groupOnNewTemplate data.groupChannel template outputs)
    let groupJob ← ofOption (.shutdown .jobNotFound) ((X.groupJobStore group).templateJob template)
    let groupMessages :=
      if !downstream.requiresStandardJobs && !(X.groupChannelIds group).isEmpty then
        [.downstream d (.newExtendedMiningJob groupJob)]
      else []
    let standard ← data.standardChannels.visit
      (newTemplateStandard template outputs d downstream.requiresStandardJobs groupJob)
      ((orders.channels d .standard).order data.standardChannels.keys)
    let extended ← data.extendedChannels.visit (newTemplateExtended groupJob)
      ((orders.channels d .extended).order data.extendedChannels.keys)
    pure ({ downstream with downstreamData := { data with
        groupChannel := group
        standardChannels := standard.1
        extendedChannels := extended.1 } },
      groupMessages ++ standard.2 ++ extended.2)

/-- `handle_new_template`. -/
def handleNewTemplate (orders : MapOrders) (s : ManagerState X) : Outcome X := finish do
  let visited ← s.data.downstream.visit
    (fun d => newTemplateDownstream cfg template d s.data.coinbaseOutputs orders)
    (orders.downstreams.order s.data.downstream.keys)
  pure (.ok { s with data := { s.data with
      lastFutureTemplate :=
        if template.futureTemplate then some template else s.data.lastFutureTemplate
      downstream := visited.1 } } visited.2)

end NewTemplate

section SetNewPrevHash

variable (message : SetNewPrevHash) (d : DownstreamId)

/-- The `SetNewPrevHash` of the mining protocol. -/
def miningSetNewPrevHash (channelId : ChannelId) (jobId : UInt32) : RouteMessageTo X :=
  .downstream d
    (.setNewPrevHash channelId jobId message.prevHash message.headerTimestamp message.nBits)

/-- An extended channel at the new previous hash. -/
def newPrevHashExtended (_ : ChannelId) (channel : X.Channel .extended) :
    Early (Outcome X) (X.Channel .extended × List (RouteMessageTo X)) := do
  let channel ← orShutdown (X.onSetNewPrevHash channel message)
  pure (channel, [])

/-- A standard channel at the new previous hash, told of it itself if the connection
requires standard jobs. -/
def newPrevHashStandard (requiresStandardJobs : Bool) (channelId : ChannelId)
    (channel : X.Channel .standard) :
    Early (Outcome X) (X.Channel .standard × List (RouteMessageTo X)) := do
  let channel ← orShutdown (X.onSetNewPrevHash channel message)
  if requiresStandardJobs then do
    let activated ← ofOption (.shutdown .jobNotFound) (X.jobStore channel).getActiveJob
    pure (channel, [miningSetNewPrevHash message d channelId (Job.getJobId activated)])
  else pure (channel, [])

/-- The message to the group of a connection, if it has channels. -/
def groupNewPrevHash (group : X.GroupChannel) : Early (Outcome X) (List (RouteMessageTo X)) :=
  if (X.groupChannelIds group).isEmpty then pure []
  else do
    let activated ← ofOption (.panic "active job must exist".toList)
      (X.groupJobStore group).getActiveJob
    pure [miningSetNewPrevHash message d (X.groupChannelId group) (Job.getJobId activated)]

/-- One turn of the loop of `handle_set_new_prev_hash` over the connections. -/
def newPrevHashDownstream (orders : MapOrders) (downstream : Downstream X) :
    Early (Outcome X) (Downstream X × List (RouteMessageTo X)) :=
  if downstream.requiresCustomWork then pure (downstream, [])
  else do
    let data := downstream.downstreamData
    let group ← orShutdown (X.groupOnSetNewPrevHash data.groupChannel message)
    let groupMessages ← groupNewPrevHash message d group
    let extended ← data.extendedChannels.visit (newPrevHashExtended message)
      ((orders.channels d .extended).order data.extendedChannels.keys)
    let standard ← data.standardChannels.visit
      (newPrevHashStandard message d downstream.requiresStandardJobs)
      ((orders.channels d .standard).order data.standardChannels.keys)
    pure ({ downstream with downstreamData := { data with
        groupChannel := group
        standardChannels := standard.1
        extendedChannels := extended.1 } },
      groupMessages ++ extended.2 ++ standard.2)

/-- `handle_set_new_prev_hash`. -/
def handleSetNewPrevHash (orders : MapOrders) (s : ManagerState X) : Outcome X := finish do
  let visited ← s.data.downstream.visit (fun d => newPrevHashDownstream message d orders)
    (orders.downstreams.order s.data.downstream.keys)
  pure (.ok { s with data := { s.data with
      lastNewPrevHash := some message
      downstream := visited.1 } } visited.2)

end SetNewPrevHash

/-! ## What they do to a connection -/

/-- The outcome leaves no state. -/
def Outcome.Stops (outcome : Outcome X) : Prop := outcome.state? = none

theorem sat_orShutdown {α : Type} {x : Except ServerChannelError α} :
    Sat (Outcome.Stops (X := X)) (fun a => x = .ok a) (orShutdown x) :=
  sat_ofExcept fun _ _ => rfl

/-- A loop went over all entries, and each turn satisfied `Q`. -/
structure LoopDone {K V : Type} [DecidableEq K]
    (Q : K → V → V × List (RouteMessageTo X) → Prop) (m m' : AssocMap K V)
    (messages : List (RouteMessageTo X)) : Prop where
  entry : ∀ k v, m.lookup k = some v → ∃ r, m'.lookup k = some r.1 ∧ Q k v r ∧ r.2 ⊆ messages
  absent : ∀ k, m.lookup k = none → m'.lookup k = none
  message : ∀ msg ∈ messages, ∃ k v r, m.lookup k = some v ∧ m'.lookup k = some r.1 ∧ Q k v r ∧
    msg ∈ r.2

/-- **The loop rule.**  A loop whose turns satisfy `Q` or stop the pool is done with all
entries or stops the pool. -/
theorem sat_visit {K V : Type} [DecidableEq K]
    {f : K → V → Early (Outcome X) (V × List (RouteMessageTo X))} {m : AssocMap K V}
    (order : IterOrder K) {Q : K → V → V × List (RouteMessageTo X) → Prop}
    (hf : ∀ k v, Sat Outcome.Stops (Q k v) (f k v)) :
    Sat Outcome.Stops (fun r => LoopDone Q m r.1 r.2) (m.visit f (order.order m.keys)) := by
  cases hv : m.visit f (order.order m.keys) with
  | error e =>
    obtain ⟨k, v, he⟩ := AssocMap.exists_of_visit_error hv
    have hstops := hf k v
    rw [he] at hstops
    exact hstops
  | ok r =>
    have hvisited := AssocMap.visited_of_visit ((order.perm _).nodup_iff.2 m.keys_nodup) hv
    refine ⟨fun k v hk => ?_, hvisited.absent, fun msg hmsg => ?_⟩
    · have hmem : k ∈ order.order m.keys := by
        rw [IterOrder.mem_order]
        exact AList.mem_keys.1 (AList.lookup_isSome.1 (by rw [hk]; rfl))
      obtain ⟨v', sent, hr, hv', hsub⟩ := hvisited.entry k hmem v hk
      exact ⟨(v', sent), hv', (hf k v).of_eq_ok hr, hsub⟩
    · obtain ⟨k, -, v, v', sent, hk, hr, hv', hsent⟩ := hvisited.message msg hmsg
      exact ⟨k, v, (v', sent), hk, hv', (hf k v).of_eq_ok hr, hsent⟩

section

variable (template : NewTemplate) (outputs : List TxOut) (message : SetNewPrevHash)

/-- A connection before and after a template it was given. -/
structure TemplateGiven (before after : Downstream X) : Prop where
  requiresCustomWork : after.requiresCustomWork = before.requiresCustomWork
  requiresStandardJobs : after.requiresStandardJobs = before.requiresStandardJobs
  payoutMode : after.downstreamData.payoutMode = before.downstreamData.payoutMode
  channelIdFactory :
    after.downstreamData.channelIdFactory = before.downstreamData.channelIdFactory
  /-- Every channel gets a job of the template: the group's or, for standard jobs, its own. -/
  channel : ∃ groupJob : X.Job .extended, IsJobOf template outputs groupJob ∧
    X.groupOnNewTemplate before.downstreamData.groupChannel template outputs =
      .ok after.downstreamData.groupChannel ∧
    (X.groupJobStore after.downstreamData.groupChannel).templateJob template = some groupJob ∧
    ∀ kind id c, (before.downstreamData.channels kind).lookup id = some c →
      ∃ c', (after.downstreamData.channels kind).lookup id = some c' ∧
        (if kind = .standard ∧ before.requiresStandardJobs = true then
          X.onNewTemplate c template outputs = .ok c'
        else X.onGroupChannelJob c groupJob = .ok c')
  absent : ∀ kind id, (before.downstreamData.channels kind).lookup id = none →
    (after.downstreamData.channels kind).lookup id = none

/-- A connection before and after a new previous hash. -/
structure PrevHashSet (before after : Downstream X) : Prop where
  requiresCustomWork : after.requiresCustomWork = before.requiresCustomWork
  requiresStandardJobs : after.requiresStandardJobs = before.requiresStandardJobs
  payoutMode : after.downstreamData.payoutMode = before.downstreamData.payoutMode
  channelIdFactory :
    after.downstreamData.channelIdFactory = before.downstreamData.channelIdFactory
  group : X.groupOnSetNewPrevHash before.downstreamData.groupChannel message =
    .ok after.downstreamData.groupChannel
  channel : ∀ kind id c, (before.downstreamData.channels kind).lookup id = some c →
    ∃ c', (after.downstreamData.channels kind).lookup id = some c' ∧
      X.onSetNewPrevHash c message = .ok c'
  absent : ∀ kind id, (before.downstreamData.channels kind).lookup id = none →
    (after.downstreamData.channels kind).lookup id = none

end

section

variable {cfg : ManagerConfig F} {template : NewTemplate} {outputs : List TxOut}
  {message : SetNewPrevHash} {d : DownstreamId}

theorem sat_newTemplateStandard (hX : X.Laws) (requiresStandardJobs : Bool)
    (groupJob : X.Job .extended) (id : ChannelId) (channel : X.Channel .standard) :
    Sat Outcome.Stops
      (fun r => (if requiresStandardJobs = true then
          X.onNewTemplate channel template outputs = .ok r.1
        else X.onGroupChannelJob channel groupJob = .ok r.1) ∧
        ∀ msg ∈ r.2, ∃ job, msg = .downstream d (.newMiningJob job) ∧
          IsJobOf template outputs job)
      (newTemplateStandard template outputs d requiresStandardJobs groupJob id channel) := by
  unfold newTemplateStandard
  split
  · refine sat_bind sat_orShutdown fun c' hc' => ?_
    obtain ⟨-, new, hof, hadded⟩ := hX.onNewTemplate _ _ _ _ _ hc'
    refine sat_bind (sat_ofOption fun _ => rfl) fun job hjob => ?_
    rw [hadded, BoundedJobStore.templateJob_addTemplateJob, Option.some.injEq] at hjob
    refine sat_pure ⟨hc', fun msg hmsg => ⟨job, List.mem_singleton.1 hmsg, hjob ▸ hof⟩⟩
  · refine sat_bind sat_orShutdown fun c' hc' => ?_
    exact sat_pure ⟨hc', fun _ hm => absurd hm List.not_mem_nil⟩

theorem sat_newTemplateExtended (groupJob : X.Job .extended) (id : ChannelId)
    (channel : X.Channel .extended) :
    Sat Outcome.Stops
      (fun r => X.onGroupChannelJob channel groupJob = .ok r.1 ∧ r.2 = [])
      (newTemplateExtended groupJob id channel) := by
  refine sat_bind sat_orShutdown fun c' hc' => ?_
  exact sat_pure ⟨hc', rfl⟩

/-- Messages that announce jobs of a template to a connection. -/
def AnnouncesJobs (template : NewTemplate) (outputs : List TxOut) (d : DownstreamId)
    (messages : List (RouteMessageTo X)) : Prop :=
  ∀ msg ∈ messages, ∃ kind job, msg = .downstream d (.newJob kind job) ∧
    IsJobOf template outputs job

/-- A turn of the loop leaves a connection with custom work alone and gives any other one
the template; every job it announces is one of the template. -/
theorem sat_newTemplateDownstream (cfg : ManagerConfig F) (template : NewTemplate)
    (d : DownstreamId) (hX : X.Laws) (coinbaseOutputs : List TxOut)
    (orders : MapOrders) (downstream : Downstream X) :
    Sat Outcome.Stops
      (fun r => if downstream.requiresCustomWork = true then r = (downstream, []) else
        TemplateGiven template
          (downstreamOutputs cfg template coinbaseOutputs downstream.downstreamData)
          downstream r.1 ∧
        AnnouncesJobs template
          (downstreamOutputs cfg template coinbaseOutputs downstream.downstreamData) d r.2)
      (newTemplateDownstream cfg template d coinbaseOutputs orders downstream) := by
  unfold newTemplateDownstream
  split
  · exact sat_pure rfl
  refine sat_bind sat_orShutdown fun group hgroup => ?_
  obtain ⟨new, hof, hadded⟩ := hX.groupOnNewTemplate _ _ _ _ hgroup
  refine sat_bind (sat_ofOption fun _ => rfl) fun groupJob hgroupJob => ?_
  have hsame : groupJob = new := by
    rw [hadded, BoundedJobStore.templateJob_addTemplateJob, Option.some.injEq] at hgroupJob
    exact hgroupJob.symm
  subst hsame
  refine sat_bind (sat_visit _ fun id c => sat_newTemplateStandard hX _ groupJob id c)
    fun standard hstandard => ?_
  refine sat_bind (sat_visit _ fun id c => sat_newTemplateExtended groupJob id c)
    fun extended hextended => ?_
  refine sat_pure ⟨⟨rfl, rfl, rfl, rfl, ⟨groupJob, hof, hgroup, hgroupJob, ?_⟩, ?_⟩, ?_⟩
  · intro kind id c hc
    cases kind with
    | standard =>
      obtain ⟨r, hr, ⟨hQ, -⟩, -⟩ := hstandard.entry id c hc
      exact ⟨r.1, hr, by simpa using hQ⟩
    | extended =>
      obtain ⟨r, hr, ⟨hQ, -⟩, -⟩ := hextended.entry id c hc
      exact ⟨r.1, hr, by simpa using hQ⟩
  · intro kind id hc
    cases kind with
    | standard => exact hstandard.absent id hc
    | extended => exact hextended.absent id hc
  · intro msg hmsg
    rcases List.mem_append.1 hmsg with hmsg | hmsg
    · rcases List.mem_append.1 hmsg with hmsg | hmsg
      · split at hmsg
        · exact ⟨.extended, groupJob, List.mem_singleton.1 hmsg, hof⟩
        · cases hmsg
      · obtain ⟨id, c, r, -, -, ⟨-, hall⟩, hmem⟩ := hstandard.message msg hmsg
        obtain ⟨job, hjob, hof'⟩ := hall msg hmem
        exact ⟨.standard, job, hjob, hof'⟩
    · obtain ⟨id, c, r, -, -, ⟨-, hnil⟩, hmem⟩ := hextended.message msg hmsg
      rw [hnil] at hmem
      cases hmem

/-- Messages that only tell of the new previous hash. -/
def TellsPrevHash (message : SetNewPrevHash) (d : DownstreamId)
    (messages : List (RouteMessageTo X)) : Prop :=
  ∀ msg ∈ messages, ∃ id jobId, msg = miningSetNewPrevHash message d id jobId

theorem sat_newPrevHashStandard (requiresStandardJobs : Bool) (id : ChannelId)
    (channel : X.Channel .standard) :
    Sat Outcome.Stops
      (fun r => X.onSetNewPrevHash channel message = .ok r.1 ∧ TellsPrevHash message d r.2)
      (newPrevHashStandard message d requiresStandardJobs id channel) := by
  refine sat_bind sat_orShutdown fun c' hc' => ?_
  split
  · refine sat_bind (sat_ofOption fun _ => rfl) fun job _ => ?_
    exact sat_pure ⟨hc', fun msg hmsg => ⟨id, _, List.mem_singleton.1 hmsg⟩⟩
  · exact sat_pure ⟨hc', fun _ hm => absurd hm List.not_mem_nil⟩

theorem sat_newPrevHashExtended (d : DownstreamId) (id : ChannelId)
    (channel : X.Channel .extended) :
    Sat Outcome.Stops
      (fun r => X.onSetNewPrevHash channel message = .ok r.1 ∧ TellsPrevHash message d r.2)
      (newPrevHashExtended message id channel) := by
  refine sat_bind sat_orShutdown fun c' hc' => ?_
  exact sat_pure ⟨hc', fun _ hm => absurd hm List.not_mem_nil⟩

theorem sat_groupNewPrevHash (group : X.GroupChannel) :
    Sat Outcome.Stops (TellsPrevHash message d) (groupNewPrevHash message d group) := by
  unfold groupNewPrevHash
  split
  · exact sat_pure fun _ hm => absurd hm List.not_mem_nil
  · refine sat_bind (sat_ofOption fun _ => rfl) fun job _ => ?_
    exact sat_pure fun msg hmsg => ⟨_, _, List.mem_singleton.1 hmsg⟩

/-- A turn of the loop leaves a connection with custom work alone and sets the previous
hash of any other one. -/
theorem sat_newPrevHashDownstream (message : SetNewPrevHash) (d : DownstreamId)
    (orders : MapOrders) (downstream : Downstream X) :
    Sat Outcome.Stops
      (fun r => if downstream.requiresCustomWork = true then r = (downstream, []) else
        PrevHashSet message downstream r.1 ∧ TellsPrevHash message d r.2)
      (newPrevHashDownstream message d orders downstream) := by
  unfold newPrevHashDownstream
  split
  · exact sat_pure rfl
  refine sat_bind sat_orShutdown fun group hgroup => ?_
  refine sat_bind (sat_groupNewPrevHash group) fun groupMessages htold => ?_
  refine sat_bind (sat_visit _ fun id c => sat_newPrevHashExtended d id c)
    fun extended hextended => ?_
  refine sat_bind (sat_visit _ fun id c => sat_newPrevHashStandard _ id c)
    fun standard hstandard => ?_
  refine sat_pure ⟨⟨rfl, rfl, rfl, rfl, hgroup, ?_, ?_⟩, ?_⟩
  · intro kind id c hc
    cases kind with
    | standard =>
      obtain ⟨r, hr, ⟨hQ, -⟩, -⟩ := hstandard.entry id c hc
      exact ⟨r.1, hr, hQ⟩
    | extended =>
      obtain ⟨r, hr, ⟨hQ, -⟩, -⟩ := hextended.entry id c hc
      exact ⟨r.1, hr, hQ⟩
  · intro kind id hc
    cases kind with
    | standard => exact hstandard.absent id hc
    | extended => exact hextended.absent id hc
  · intro msg hmsg
    rcases List.mem_append.1 hmsg with hmsg | hmsg
    · rcases List.mem_append.1 hmsg with hmsg | hmsg
      · exact htold msg hmsg
      · obtain ⟨id, c, r, -, -, ⟨-, hall⟩, hmem⟩ := hextended.message msg hmsg
        exact hall msg hmem
    · obtain ⟨id, c, r, -, -, ⟨-, hall⟩, hmem⟩ := hstandard.message msg hmsg
      exact hall msg hmem

/-- The manager before and after a message of the template provider, of which `change`
says what it does to a connection without custom work. -/
structure EachDownstream (change : Downstream X → Downstream X → Prop) (s s' : ManagerState X) :
    Prop where
  minerStats : s'.minerStats = s.minerStats
  vardiff : s'.data.vardiff = s.data.vardiff
  downstreamIdFactory : s'.data.downstreamIdFactory = s.data.downstreamIdFactory
  coinbaseOutputs : s'.data.coinbaseOutputs = s.data.coinbaseOutputs
  absent : ∀ d, s.downstream? d = none → s'.downstream? d = none
  present : ∀ d downstream, s.downstream? d = some downstream →
    ∃ downstream', s'.downstream? d = some downstream' ∧
      if downstream.requiresCustomWork = true then downstream' = downstream
      else change downstream downstream'

section LoopOverDownstreams

variable {s s' : ManagerState X} {change : Downstream X → Downstream X → Prop}
  {Told : DownstreamId → Downstream X → List (RouteMessageTo X) → Prop}
  {m' : AssocMap DownstreamId (Downstream X)} {messages : List (RouteMessageTo X)}

/-- A loop over the connections that skips custom work changes each other one. -/
theorem LoopDone.present
    (hdone : LoopDone (fun d downstream r => if downstream.requiresCustomWork = true then
      r = (downstream, []) else change downstream r.1 ∧ Told d downstream r.2)
      s.data.downstream m' messages) (d : DownstreamId) (downstream : Downstream X)
    (hd : s.downstream? d = some downstream) :
    ∃ downstream', m'.lookup d = some downstream' ∧
      if downstream.requiresCustomWork = true then downstream' = downstream
      else change downstream downstream' := by
  obtain ⟨r, hr, hturn, -⟩ := hdone.entry d downstream hd
  refine ⟨r.1, hr, ?_⟩
  split
  · rename_i hcustom
    rw [if_pos hcustom] at hturn
    rw [hturn]
  · rename_i hcustom
    rw [if_neg hcustom] at hturn
    exact hturn.1

/-- Its messages go to connections without custom work. -/
theorem LoopDone.told
    (hdone : LoopDone (fun d downstream r => if downstream.requiresCustomWork = true then
      r = (downstream, []) else change downstream r.1 ∧ Told d downstream r.2)
      s.data.downstream m' messages) {msg : RouteMessageTo X} (hmsg : msg ∈ messages) :
    ∃ d downstream sent, s.downstream? d = some downstream ∧
      downstream.requiresCustomWork = false ∧ Told d downstream sent ∧ msg ∈ sent := by
  obtain ⟨d, downstream, r, hd, -, hturn, hmem⟩ := hdone.message msg hmsg
  by_cases hcustom : downstream.requiresCustomWork = true
  · rw [if_pos hcustom] at hturn
    rw [hturn] at hmem
    cases hmem
  · rw [if_neg hcustom] at hturn
    exact ⟨d, downstream, r.2, hd, by simpa using hcustom, hturn.2, hmem⟩

end LoopOverDownstreams

/-- What is true of a handled template. -/
structure NewTemplateHandled (cfg : ManagerConfig F) (template : NewTemplate)
    (s : ManagerState X) (outcome : Outcome X) : Prop where
  each : ∀ s', outcome.state? = some s' → EachDownstream (fun before after =>
    TemplateGiven template
      (downstreamOutputs cfg template s.data.coinbaseOutputs before.downstreamData) before after)
    s s'
  lastNewPrevHash : ∀ s', outcome.state? = some s' →
    s'.data.lastNewPrevHash = s.data.lastNewPrevHash
  lastFutureTemplate : ∀ s', outcome.state? = some s' → s'.data.lastFutureTemplate =
    if template.futureTemplate then some template else s.data.lastFutureTemplate
  announces : ∀ d m kind job, .downstream d m ∈ outcome.sent →
    m.announcedJob = some ⟨kind, job⟩ → ∃ downstream, s.downstream? d = some downstream ∧
      downstream.requiresCustomWork = false ∧ IsJobOf template
        (downstreamOutputs cfg template s.data.coinbaseOutputs downstream.downstreamData) job

/-- What is true of a handled previous hash. -/
structure NewPrevHashHandled (message : SetNewPrevHash) (s : ManagerState X)
    (outcome : Outcome X) : Prop where
  each : ∀ s', outcome.state? = some s' → EachDownstream (PrevHashSet message) s s'
  lastNewPrevHash : ∀ s', outcome.state? = some s' → s'.data.lastNewPrevHash = some message
  lastFutureTemplate : ∀ s', outcome.state? = some s' →
    s'.data.lastFutureTemplate = s.data.lastFutureTemplate
  announces : ∀ d m, .downstream d m ∈ outcome.sent → m.announcedJob = none

theorem sent_of_stops {outcome : Outcome X} (h : outcome.Stops) : outcome.sent = [] := by
  cases outcome with
  | ok _ _ => cases h
  | disconnect _ _ _ => rfl
  | shutdown _ => rfl
  | panic _ => rfl

/-- **What a template does.** -/
theorem newTemplateHandled (hX : X.Laws) (orders : MapOrders) (s : ManagerState X) :
    NewTemplateHandled cfg template s (handleNewTemplate cfg template orders s) := by
  have hloop := sat_visit (m := s.data.downstream) orders.downstreams fun d downstream =>
    sat_newTemplateDownstream cfg template d hX s.data.coinbaseOutputs orders downstream
  refine finish_of_sat (sat_bind (hloop.mono fun outcome hstops => ?_) fun visited hdone => ?_)
  · have hnone : ∀ s', outcome.state? ≠ some s' := fun s' h => by
      rw [hstops] at h
      cases h
    refine ⟨fun s' h => absurd h (hnone s'), fun s' h => absurd h (hnone s'),
      fun s' h => absurd h (hnone s'), fun d m kind job hm _ => ?_⟩
    rw [sent_of_stops hstops] at hm
    cases hm
  · refine sat_pure ⟨fun s' h => ?_, fun s' h => ?_, fun s' h => ?_, fun d m kind job hm hjob => ?_⟩
    · cases h
      exact ⟨rfl, rfl, rfl, rfl, hdone.absent, hdone.present⟩
    · cases h
      rfl
    · cases h
      rfl
    · obtain ⟨d', downstream, sent, hd, hcustom, htold, hmem⟩ := hdone.told hm
      obtain ⟨kind', job', heq, hof⟩ := htold _ hmem
      obtain ⟨rfl, rfl⟩ := RouteMessageTo.downstream.inj heq
      rw [Mining.announcedJob_newJob] at hjob
      cases hjob
      exact ⟨downstream, hd, hcustom, hof⟩

/-- **What a new previous hash does.** -/
theorem newPrevHashHandled (orders : MapOrders) (s : ManagerState X) :
    NewPrevHashHandled message s (handleSetNewPrevHash message orders s) := by
  have hloop := sat_visit (m := s.data.downstream) orders.downstreams fun d downstream =>
    sat_newPrevHashDownstream message d orders downstream
  refine finish_of_sat (sat_bind (hloop.mono fun outcome hstops => ?_) fun visited hdone => ?_)
  · have hnone : ∀ s', outcome.state? ≠ some s' := fun s' h => by
      rw [hstops] at h
      cases h
    refine ⟨fun s' h => absurd h (hnone s'), fun s' h => absurd h (hnone s'),
      fun s' h => absurd h (hnone s'), fun d m hm => ?_⟩
    rw [sent_of_stops hstops] at hm
    cases hm
  · refine sat_pure ⟨fun s' h => ?_, fun s' h => ?_, fun s' h => ?_, fun d m hm => ?_⟩
    · cases h
      exact ⟨rfl, rfl, rfl, rfl, hdone.absent, hdone.present⟩
    · cases h
      rfl
    · cases h
      rfl
    · obtain ⟨d', downstream, sent, -, -, htold, hmem⟩ := hdone.told hm
      obtain ⟨id, jobId, heq⟩ := htold _ hmem
      obtain ⟨-, rfl⟩ := RouteMessageTo.downstream.inj heq
      rfl

/-! ## What they tell a connection -/

/-- **What a template tells a connection.**  A message announces the job of its group, which
has channels, or that of a standard channel; the group's job is announced unless the
connection requires standard jobs, and those of its standard channels if it does. -/
structure TemplateTold (template : NewTemplate) (d : DownstreamId) (before after : Downstream X)
    (sent : List (RouteMessageTo X)) : Prop where
  message : ∀ m, .downstream d m ∈ sent →
    (∃ job, m = .newExtendedMiningJob job ∧
      X.groupChannelIds after.downstreamData.groupChannel ≠ [] ∧
      (X.groupJobStore after.downstreamData.groupChannel).templateJob template = some job) ∨
    before.requiresStandardJobs = true ∧ ∃ id c job, m = .newMiningJob job ∧
      after.downstreamData.standardChannels.lookup id = some c ∧
      (X.jobStore c).templateJob template = some job
  group : before.requiresStandardJobs = false →
    X.groupChannelIds after.downstreamData.groupChannel ≠ [] →
    ∀ job, (X.groupJobStore after.downstreamData.groupChannel).templateJob template = some job →
      .downstream d (.newExtendedMiningJob job) ∈ sent
  standard : before.requiresStandardJobs = true →
    ∀ id c, after.downstreamData.standardChannels.lookup id = some c →
      ∃ job, (X.jobStore c).templateJob template = some job ∧
        .downstream d (.newMiningJob job) ∈ sent

/-- A connection works on a job: in its group, if that has channels, or, with standard jobs,
in one of its standard channels. -/
inductive WorksOn (downstream : Downstream X) : ChannelId → UInt32 → Prop
  | group {job : X.Job .extended} :
      X.groupChannelIds downstream.downstreamData.groupChannel ≠ [] →
      (X.groupJobStore downstream.downstreamData.groupChannel).activeJob = some job →
      WorksOn downstream (X.groupChannelId downstream.downstreamData.groupChannel)
        (Job.getJobId job)
  | standard {id : ChannelId} {c : X.Channel .standard} {job : X.Job .standard} :
      downstream.requiresStandardJobs = true →
      downstream.downstreamData.standardChannels.lookup id = some c →
      (X.jobStore c).activeJob = some job → WorksOn downstream id (Job.getJobId job)

/-- **What a previous hash tells a connection.**  A message names a job that the connection
works on from now on. -/
def PrevHashTold (message : SetNewPrevHash) (d : DownstreamId) (after : Downstream X)
    (sent : List (RouteMessageTo X)) : Prop :=
  ∀ m, .downstream d m ∈ sent → ∃ id jobId,
    .downstream d m = miningSetNewPrevHash message d id jobId ∧ WorksOn after id jobId

/-- All messages are for one connection. -/
def AllTo (d : DownstreamId) (messages : List (RouteMessageTo X)) : Prop :=
  ∀ msg ∈ messages, ∃ m, msg = .downstream d m

/-- A turn of the loop tells the connection of the jobs it was given. -/
theorem sat_newTemplateDownstream_told (cfg : ManagerConfig F) (template : NewTemplate)
    (d : DownstreamId) (coinbaseOutputs : List TxOut) (orders : MapOrders)
    (downstream : Downstream X) :
    Sat Outcome.Stops (fun r => if downstream.requiresCustomWork = true then r = (downstream, [])
      else TemplateTold template d downstream r.1 r.2 ∧ AllTo d r.2)
      (newTemplateDownstream cfg template d coinbaseOutputs orders downstream) := by
  unfold newTemplateDownstream
  split
  · exact sat_pure rfl
  refine sat_bind sat_orShutdown fun group _ => ?_
  refine sat_bind (sat_ofOption fun _ => rfl) fun groupJob hgroupJob => ?_
  have hturn : ∀ id (channel : X.Channel .standard), Sat Outcome.Stops
      (fun r => if downstream.requiresStandardJobs = true then
          ∃ job, (X.jobStore r.1).templateJob template = some job ∧
            r.2 = [.downstream d (.newMiningJob job)]
        else r.2 = [])
      (newTemplateStandard template (downstreamOutputs cfg template coinbaseOutputs
        downstream.downstreamData) d downstream.requiresStandardJobs groupJob id channel) := by
    intro id channel
    unfold newTemplateStandard
    split
    · refine sat_bind sat_orShutdown fun c' _ => ?_
      exact sat_bind (sat_ofOption fun _ => rfl) fun job hjob => sat_pure ⟨job, hjob, rfl⟩
    · exact sat_bind sat_orShutdown fun c' _ => sat_pure rfl
  refine sat_bind (sat_visit _ hturn) fun standard hstandard => ?_
  refine sat_bind (sat_visit _ fun id c => sat_newTemplateExtended groupJob id c)
    fun extended hextended => ?_
  -- Only the group and, with standard jobs, the standard channels say something.
  have hmessage : ∀ msg ∈ (if !downstream.requiresStandardJobs &&
        !(X.groupChannelIds group).isEmpty then
          [RouteMessageTo.downstream d (.newExtendedMiningJob groupJob)] else []) ++
        standard.2 ++ extended.2,
      (msg = .downstream d (.newExtendedMiningJob groupJob) ∧ X.groupChannelIds group ≠ []) ∨
        downstream.requiresStandardJobs = true ∧ ∃ id c job,
          msg = .downstream d (.newMiningJob job) ∧ standard.1.lookup id = some c ∧
          (X.jobStore c).templateJob template = some job := by
    intro msg hmsg
    rcases List.mem_append.1 hmsg with hmsg | hmsg
    · rcases List.mem_append.1 hmsg with hmsg | hmsg
      · split at hmsg
        · rename_i hannounce
          refine .inl ⟨List.mem_singleton.1 hmsg, fun hnil => ?_⟩
          rw [hnil] at hannounce
          simp at hannounce
        · cases hmsg
      · obtain ⟨id, c, r, -, hafter, hQ, hmem⟩ := hstandard.message msg hmsg
        split at hQ
        · rename_i hstd
          obtain ⟨job, hjob, hr⟩ := hQ
          rw [hr, List.mem_singleton] at hmem
          exact .inr ⟨hstd, id, r.1, job, hmem, hafter, hjob⟩
        · rw [hQ] at hmem
          cases hmem
    · obtain ⟨id, c, r, -, -, ⟨-, hnil⟩, hmem⟩ := hextended.message msg hmsg
      rw [hnil] at hmem
      cases hmem
  refine sat_pure ⟨⟨fun m hm => ?_, fun hstd hne job hjob => ?_, fun hstd id c hc => ?_⟩,
    fun msg hmsg => ?_⟩
  · rcases hmessage _ hm with ⟨heq, hne⟩ | ⟨hstd, id, c, job, heq, hc, hjob⟩
    · exact .inl ⟨groupJob, (RouteMessageTo.downstream.inj heq).2, hne, hgroupJob⟩
    · exact .inr ⟨hstd, id, c, job, (RouteMessageTo.downstream.inj heq).2, hc, hjob⟩
  · have hsame : job = groupJob := Option.some.inj (hjob.symm.trans hgroupJob)
    have hannounce : (!downstream.requiresStandardJobs &&
        !(X.groupChannelIds group).isEmpty) = true := by
      have hids : X.groupChannelIds group ≠ [] := hne
      simp [hstd, hids]
    refine List.mem_append_left _ (List.mem_append_left _ ?_)
    rw [if_pos hannounce, hsame]
    exact List.mem_singleton.2 rfl
  · have hbefore : ∃ c₀, downstream.downstreamData.standardChannels.lookup id = some c₀ := by
      refine Option.ne_none_iff_exists'.1 fun hnone => ?_
      have hafter : standard.1.lookup id = some c := hc
      rw [hstandard.absent id hnone] at hafter
      cases hafter
    obtain ⟨c₀, hc₀⟩ := hbefore
    obtain ⟨r, hr, hQ, hsub⟩ := hstandard.entry id c₀ hc₀
    rw [if_pos hstd] at hQ
    obtain ⟨job, hjob, hsent⟩ := hQ
    have hsame : c = r.1 := Option.some.inj (hc.symm.trans hr)
    refine ⟨job, hsame ▸ hjob, List.mem_append_left _ (List.mem_append_right _ (hsub ?_))⟩
    rw [hsent]
    exact List.mem_singleton.2 rfl
  · rcases hmessage msg hmsg with ⟨heq, -⟩ | ⟨-, id, c, job, heq, -⟩
    · exact ⟨_, heq⟩
    · exact ⟨_, heq⟩

/-- A turn of the loop tells the connection of the jobs it works on. -/
theorem sat_newPrevHashDownstream_told (message : SetNewPrevHash) (d : DownstreamId)
    (orders : MapOrders) (downstream : Downstream X) :
    Sat Outcome.Stops (fun r => if downstream.requiresCustomWork = true then r = (downstream, [])
      else PrevHashTold message d r.1 r.2 ∧ AllTo d r.2)
      (newPrevHashDownstream message d orders downstream) := by
  unfold newPrevHashDownstream
  split
  · exact sat_pure rfl
  refine sat_bind sat_orShutdown fun group _ => ?_
  have hgroup : Sat Outcome.Stops (fun messages => ∀ msg ∈ messages,
        X.groupChannelIds group ≠ [] ∧ ∃ job, (X.groupJobStore group).activeJob = some job ∧
          msg = miningSetNewPrevHash message d (X.groupChannelId group) (Job.getJobId job))
      (groupNewPrevHash message d group) := by
    unfold groupNewPrevHash
    split
    · exact sat_pure fun _ hm => absurd hm List.not_mem_nil
    · rename_i hne
      refine sat_bind (sat_ofOption fun _ => rfl) fun job hjob => ?_
      refine sat_pure fun msg hmsg => ⟨fun hnil => ?_, job, hjob, List.mem_singleton.1 hmsg⟩
      rw [hnil] at hne
      simp at hne
  have hstandard : ∀ id (channel : X.Channel .standard), Sat Outcome.Stops
      (fun r => ∀ msg ∈ r.2, downstream.requiresStandardJobs = true ∧
        ∃ job, (X.jobStore r.1).activeJob = some job ∧
          msg = miningSetNewPrevHash message d id (Job.getJobId job))
      (newPrevHashStandard message d downstream.requiresStandardJobs id channel) := by
    intro id channel
    refine sat_bind sat_orShutdown fun c' _ => ?_
    split
    · rename_i hstd
      refine sat_bind (sat_ofOption fun _ => rfl) fun job hjob => ?_
      exact sat_pure fun msg hmsg => ⟨hstd, job, hjob, List.mem_singleton.1 hmsg⟩
    · exact sat_pure fun _ hm => absurd hm List.not_mem_nil
  have hextended : ∀ id (channel : X.Channel .extended),
      Sat Outcome.Stops (fun r => r.2 = []) (newPrevHashExtended message id channel) :=
    fun _ _ => sat_bind sat_orShutdown fun _ _ => sat_pure rfl
  refine sat_bind hgroup fun groupMessages htold => ?_
  refine sat_bind (sat_visit _ hextended) fun extended hextended => ?_
  refine sat_bind (sat_visit _ hstandard) fun standard hstandard => ?_
  have hmessage : ∀ msg ∈ groupMessages ++ extended.2 ++ standard.2,
      ∃ id jobId, msg = miningSetNewPrevHash message d id jobId ∧
        WorksOn { downstream with downstreamData := { downstream.downstreamData with
          groupChannel := group
          standardChannels := standard.1
          extendedChannels := extended.1 } } id jobId := by
    intro msg hmsg
    rcases List.mem_append.1 hmsg with hmsg | hmsg
    · rcases List.mem_append.1 hmsg with hmsg | hmsg
      · obtain ⟨hne, job, hjob, heq⟩ := htold msg hmsg
        exact ⟨_, _, heq, .group hne hjob⟩
      · obtain ⟨id, c, r, -, -, hnil, hmem⟩ := hextended.message msg hmsg
        rw [hnil] at hmem
        cases hmem
    · obtain ⟨id, c, r, -, hafter, hall, hmem⟩ := hstandard.message msg hmsg
      obtain ⟨hstd, job, hjob, heq⟩ := hall msg hmem
      exact ⟨_, _, heq, .standard hstd hafter hjob⟩
  refine sat_pure ⟨fun m hm => hmessage _ hm, fun msg hmsg => ?_⟩
  obtain ⟨id, jobId, heq, -⟩ := hmessage msg hmsg
  exact ⟨_, heq⟩

/-- The messages of a loop over the connections are for connections without custom work, and
each of these is told what its turn tells. -/
structure EachTold (Told : DownstreamId → Downstream X → Downstream X →
    List (RouteMessageTo X) → Prop) (s s' : ManagerState X) (sent : List (RouteMessageTo X)) :
    Prop where
  registered : ∀ d m, .downstream d m ∈ sent → ∃ before, s.downstream? d = some before ∧
    before.requiresCustomWork = false
  told : ∀ d before after, s.downstream? d = some before → before.requiresCustomWork = false →
    s'.downstream? d = some after → Told d before after sent

/-- What a loop tells, if what a turn tells is known of all messages for its connection. -/
theorem LoopDone.eachTold
    {Turn Told : DownstreamId → Downstream X → Downstream X → List (RouteMessageTo X) → Prop}
    {s s' : ManagerState X} {sent : List (RouteMessageTo X)}
    (hdone : LoopDone (fun d downstream r => if downstream.requiresCustomWork = true then
      r = (downstream, []) else Turn d downstream r.1 r.2 ∧ AllTo d r.2)
      s.data.downstream s'.data.downstream sent)
    (htold : ∀ d before after, (∃ turn, Turn d before after turn ∧ turn ⊆ sent) →
      (∀ m, .downstream d m ∈ sent → ∃ turn, Turn d before after turn ∧ .downstream d m ∈ turn) →
      Told d before after sent) : EachTold Told s s' sent := by
  have hmessage : ∀ d m, .downstream d m ∈ sent →
      ∃ (before : Downstream X) (r : Downstream X × List (RouteMessageTo X)),
        s.downstream? d = some before ∧ s'.downstream? d = some r.1 ∧
        before.requiresCustomWork = false ∧ Turn d before r.1 r.2 ∧ .downstream d m ∈ r.2 := by
    intro d m hm
    obtain ⟨d', before, r, hd', hafter, hturn, hmem⟩ := hdone.message _ hm
    by_cases hcustom : before.requiresCustomWork = true
    · rw [if_pos hcustom] at hturn
      rw [hturn] at hmem
      cases hmem
    · rw [if_neg hcustom] at hturn
      obtain ⟨m', heq⟩ := hturn.2 _ hmem
      obtain ⟨rfl, rfl⟩ := RouteMessageTo.downstream.inj heq
      exact ⟨before, r, hd', hafter, by simpa using hcustom, hturn.1, hmem⟩
  refine ⟨fun d m hm => ?_, fun d before after hd hcustom hafter => htold d before after ?_ ?_⟩
  · obtain ⟨before, -, hd, -, hcustom, -⟩ := hmessage d m hm
    exact ⟨before, hd, hcustom⟩
  · obtain ⟨r, hr, hturn, hsub⟩ := hdone.entry d before hd
    have hsame : after = r.1 := Option.some.inj (hafter.symm.trans hr)
    rw [if_neg (by simp [hcustom])] at hturn
    exact ⟨r.2, hsame ▸ hturn.1, hsub⟩
  · intro m hm
    obtain ⟨before', r, hd', hr, -, hturn, hmem⟩ := hmessage d m hm
    have hsame : before = before' := Option.some.inj (hd.symm.trans hd')
    have hsame' : after = r.1 := Option.some.inj (hafter.symm.trans hr)
    rw [hsame, hsame']
    exact ⟨r.2, hturn, hmem⟩

/-- **What a template tells.** -/
theorem templateTold (orders : MapOrders) {s s' : ManagerState X}
    (h : (handleNewTemplate cfg template orders s).state? = some s') :
    EachTold (TemplateTold template) s s' (handleNewTemplate cfg template orders s).sent := by
  have hloop := sat_visit (m := s.data.downstream) orders.downstreams fun d downstream =>
    sat_newTemplateDownstream_told cfg template d s.data.coinbaseOutputs orders downstream
  revert h
  refine finish_of_sat (P := fun outcome => outcome.state? = some s' →
    EachTold (TemplateTold template) s s' outcome.sent)
    (sat_bind (hloop.mono fun outcome hstops h => ?_) fun visited hdone => ?_)
  · rw [hstops] at h
    cases h
  · refine sat_pure fun h => ?_
    cases h
    refine LoopDone.eachTold hdone fun d before after hturn hmessages => ?_
    obtain ⟨turn, hturn, hsub⟩ := hturn
    refine ⟨fun m hm => ?_, fun hstd hne job hjob => hsub (hturn.group hstd hne job hjob),
      fun hstd id c hc => ?_⟩
    · obtain ⟨turn', hturn', hm'⟩ := hmessages m hm
      exact hturn'.message m hm'
    · obtain ⟨job, hjob, hmem⟩ := hturn.standard hstd id c hc
      exact ⟨job, hjob, hsub hmem⟩

/-- **What a previous hash tells.** -/
theorem prevHashTold (orders : MapOrders) {s s' : ManagerState X}
    (h : (handleSetNewPrevHash message orders s).state? = some s') :
    EachTold (fun d _ => PrevHashTold message d) s s'
      (handleSetNewPrevHash message orders s).sent := by
  have hloop := sat_visit (m := s.data.downstream) orders.downstreams fun d downstream =>
    sat_newPrevHashDownstream_told message d orders downstream
  revert h
  refine finish_of_sat (P := fun outcome => outcome.state? = some s' →
    EachTold (fun d _ => PrevHashTold message d) s s' outcome.sent)
    (sat_bind (hloop.mono fun outcome hstops h => ?_) fun visited hdone => ?_)
  · rw [hstops] at h
    cases h
  · refine sat_pure fun h => ?_
    cases h
    refine LoopDone.eachTold hdone fun d before after _ hmessages m hm => ?_
    obtain ⟨turn, hturn, hm'⟩ := hmessages m hm
    exact hturn m hm'

/-! ## What they do to a channel -/

/-- A channel of a connection that was given a template has one more job, of the
template. -/
theorem TemplateGiven.jobAdded (hX : X.Laws) {before after : Downstream X}
    (h : TemplateGiven template outputs before after) {kind : MinerChannelKind} {id : ChannelId}
    {c : X.Channel kind} (hc : (before.downstreamData.channels kind).lookup id = some c) :
    ∃ c' job, (after.downstreamData.channels kind).lookup id = some c' ∧
      IsJobOf template outputs job ∧ X.userIdentity c' = X.userIdentity c ∧
      X.jobStore c' = (X.jobStore c).addTemplateJob template job := by
  obtain ⟨groupJob, hof, -, -, hchannel⟩ := h.channel
  obtain ⟨c', hc', hgiven⟩ := hchannel kind id c hc
  split at hgiven
  · obtain ⟨huser, job, hjob, hstore⟩ := hX.onNewTemplate _ _ _ _ _ hgiven
    exact ⟨c', job, hc', hjob, huser, hstore⟩
  · obtain ⟨huser, job, hjob, -, hstore⟩ := hX.onGroupChannelJob _ _ _ _ _ _ hgiven hof
    exact ⟨c', job, hc', hjob, huser, hstore⟩

/-- A connection after a message of the template provider is one with custom work, as before,
or one that changed. -/
theorem EachDownstream.downstream_before {s s' : ManagerState X}
    {change : Downstream X → Downstream X → Prop} (h : EachDownstream change s s')
    {after : Downstream X} (hafter : s'.downstream? d = some after) :
    ∃ before, s.downstream? d = some before ∧
      (after = before ∨ before.requiresCustomWork = false ∧ change before after) := by
  cases hbefore : s.downstream? d with
  | none =>
    rw [h.absent d hbefore] at hafter
    cases hafter
  | some before =>
    obtain ⟨downstream', hd', hturn⟩ := h.present d before hbefore
    rw [hafter, Option.some.injEq] at hd'
    subst hd'
    refine ⟨before, rfl, ?_⟩
    split at hturn
    · exact .inl hturn
    · rename_i hcustom
      exact .inr ⟨by simpa using hcustom, hturn⟩

/-- A channel after a message of the template provider is one of a connection with custom
work, as before, or of a connection that changed. -/
theorem EachDownstream.channel_before {s s' : ManagerState X}
    {change : Downstream X → Downstream X → Prop} (h : EachDownstream change s s')
    (habsent : ∀ before after, change before after → ∀ kind id,
      (before.downstreamData.channels kind).lookup id = none →
        (after.downstreamData.channels kind).lookup id = none)
    {kind : MinerChannelKind} {id : ChannelId} {c' : X.Channel kind}
    (hc' : s'.channel? d kind id = some c') :
    s.channel? d kind id = some c' ∨ ∃ before after c, s.downstream? d = some before ∧
      before.requiresCustomWork = false ∧ s'.downstream? d = some after ∧ change before after ∧
      (before.downstreamData.channels kind).lookup id = some c ∧
      (after.downstreamData.channels kind).lookup id = some c' := by
  rw [ManagerState.channel?_eq_some] at hc'
  obtain ⟨after, hafter, hc'⟩ := hc'
  obtain ⟨before, hbefore, rfl | ⟨hcustom, hturn⟩⟩ := h.downstream_before hafter
  · exact .inl ((ManagerState.channel?_eq_some _ _ _ _).2 ⟨after, hbefore, hc'⟩)
  · cases hc : (before.downstreamData.channels kind).lookup id with
    | none =>
      rw [habsent _ _ hturn kind id hc] at hc'
      cases hc'
    | some c => exact .inr ⟨before, after, c, hbefore, hcustom, hafter, hturn, hc, hc'⟩

end

end CanaryMining
